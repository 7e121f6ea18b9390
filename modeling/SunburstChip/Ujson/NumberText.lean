import SunburstChip.Ujson.Reads
import SunburstChip.Ujson.Renders

namespace SunburstChip
namespace Ujson

open Routine

/-!
# The texts of numbers and booleans

What numbers and booleans look like as JSON.  The functions that write them put
these texts, and the functions that parse them read these texts and give the
same values again.
-/

/-! ## Numerals -/

/-- A number in decimal. -/
def decimal (n : Nat) : List (BitVec 8) := ascii n.repr

/-- A digit. -/
def digit (n : Nat) : BitVec 8 := 0x30 + .ofNat 8 n

theorem decimal_eq (n : Nat) :
    decimal n = (Nat.toDigits 10 n).map (fun c => .ofNat 8 c.toNat) := by
  rw [decimal, ascii, Nat.repr_eq_ofList_toDigits, String.toList_ofList]

theorem digitChar_toNat {n : Nat} (small : n < 10) : .ofNat 8 (n.digitChar).toNat = digit n := by
  have all : forall n, n < 10 -> BitVec.ofNat 8 (n.digitChar).toNat = digit n := by decide
  exact all n small

theorem decimal_of_lt {n : Nat} (small : n < 10) : decimal n = [digit n] := by
  rw [decimal_eq, Nat.toDigits_of_lt_base small, List.map_singleton, digitChar_toNat small]

theorem decimal_of_ge {n : Nat} (large : 10 <= n) :
    decimal n = decimal (n / 10) ++ [digit (n % 10)] := by
  have last : n % 10 < 10 := Nat.mod_lt n (by decide)
  rw [decimal_eq, Nat.toDigits_of_base_le (by decide) large, List.map_append, <- decimal_eq,
    List.map_singleton, digitChar_toNat last]

theorem decimal_ne_nil (n : Nat) : decimal n ≠ [] := by
  rw [decimal_eq]
  exact fun empty => Nat.toDigits_ne_nil (List.map_eq_nil_iff.mp empty)

theorem decimal_length {n k : Nat} (positive : 0 < k) (bound : n < 10 ^ k) :
    (decimal n).length <= k := by
  rw [decimal_eq, List.length_map, Nat.length_toDigits_le_iff (by decide) positive]
  exact bound

theorem isDigit_digit {n : Nat} (small : n < 10) : isDigit (digit n) = true := by
  have all : forall n, n < 10 -> isDigit (digit n) = true := by decide
  exact all n small

theorem decimal_isDigit (n : Nat) : forall ch, ch ∈ decimal n -> isDigit ch = true := by
  induction n using Nat.strongRecOn with
  | ind n ih =>
      intro ch member
      rcases Nat.lt_or_ge n 10 with small | large
      · rw [decimal_of_lt small, List.mem_singleton] at member
        rw [member]
        exact isDigit_digit small
      · rw [decimal_of_ge large, List.mem_append, List.mem_singleton] at member
        rcases member with front | rfl
        · exact ih (n / 10) (by omega) ch front
        · exact isDigit_digit (Nat.mod_lt n (by decide))

theorem decimal_cons (n : Nat) :
    Exists fun ch => Exists fun text => decimal n = ch :: text ∧ isDigit ch = true := by
  have digits := decimal_isDigit n
  cases numeral : decimal n with
  | nil => exact absurd numeral (decimal_ne_nil n)
  | cons ch text =>
      rw [numeral] at digits
      exact ⟨ch, text, rfl, digits ch List.mem_cons_self⟩

/-- What a digit adds to a number that is parsed. -/
abbrev parseDigit (value : BitVec 64) (ch : BitVec 8) : BitVec 64 :=
  value * 10 + (ch - 0x30).setWidth 64

theorem parseDigit_digit (value : BitVec 64) {n : Nat} (small : n < 10) :
    parseDigit value (digit n) = value * 10 + .ofNat 64 n := by
  have all : forall n, n < 10 -> (digit n - 0x30).setWidth 64 = BitVec.ofNat 64 n := by decide
  rw [parseDigit, all n small]

theorem foldl_parseDigit_decimal (n : Nat) : (decimal n).foldl parseDigit 0 = .ofNat 64 n := by
  induction n using Nat.strongRecOn with
  | ind n ih =>
      rcases Nat.lt_or_ge n 10 with small | large
      · rw [decimal_of_lt small]
        change parseDigit 0 (digit n) = _
        rw [parseDigit_digit 0 small]
        exact BitVec.zero_add _
      · rw [decimal_of_ge large, List.foldl_append, ih (n / 10) (by omega)]
        change parseDigit _ (digit (n % 10)) = _
        rw [parseDigit_digit _ (Nat.mod_lt n (by decide))]
        apply BitVec.eq_of_toNat_eq
        rw [BitVec.toNat_add, BitVec.toNat_mul, BitVec.toNat_ofNat, BitVec.toNat_ofNat,
          BitVec.toNat_ofNat]
        change (n / 10 % 2 ^ 64 * 10 % 2 ^ 64 + n % 10 % 2 ^ 64) % 2 ^ 64 = n % 2 ^ 64
        omega

/-! ## Parsing numbers -/

/-- The digits after the first one, and the character behind them. -/
theorem parseInteger_loop {digits : List (BitVec 8)}
    (decimal : forall ch, ch ∈ digits -> isDigit ch = true) (ch : BitVec 8) (value : BitVec 64) (uj : Ujson)
    {rest : List (Except Error (BitVec 8))} (left : pending uj = chars digits ++ rest)
    (delimited : Delimits rest) :
    Exists fun uj₁ => Exists fun after => Exists fun uj' =>
      repeatedly remaining .endless parseIntegerRound (ch, value) uj =
        (.ok ((ch :: digits).foldl parseDigit value, after), uj₁) ∧
      pushBack after uj₁ = (.ok (), uj') ∧ pending uj' = rest := by
  induction digits generalizing ch value uj with
  | nil =>
      change pending uj = rest at left
      cases rest with
      | nil =>
          have round : parseIntegerRound (ch, value) uj =
              (.ok (.inr (parseDigit value ch, none)), uj) := by
            unfold parseIntegerRound
            rw [attempt_bind_apply, getc_ended left]
            rfl
          exact ⟨uj, none, uj, repeatedly_last round, rfl, left⟩
      | cons result rest =>
          cases result with
          | error error => exact absurd delimited id
          | ok next =>
              rcases scans_getc next uj rest left nofun
                with ⟨uj₁, done, after, empty⟩
              have round : parseIntegerRound (ch, value) uj =
                  (.ok (.inr (parseDigit value ch, some next)), uj₁) := by
                unfold parseIntegerRound
                rw [attempt_bind_apply, done]
                dsimp only
                rw [show isDigit next = false from delimited]
                rfl
              rcases ungetc_empty (empty rfl) next with ⟨uj', pushed, back⟩
              exact ⟨uj₁, some next, uj', repeatedly_last round, pushed,
                back.trans (congrArg _ after)⟩
  | cons next digits ih =>
      rcases scans_getc next uj _ left nofun
        with ⟨uj₁, done, middle, -⟩
      have round : parseIntegerRound (ch, value) uj =
          (.ok (.inl (next, parseDigit value ch)), uj₁) := by
        unfold parseIntegerRound
        rw [attempt_bind_apply, done]
        dsimp only
        rw [decimal next List.mem_cons_self]
        rfl
      rcases ih (fun ch member => decimal ch (List.mem_cons_of_mem _ member)) next
        (parseDigit value ch) uj₁ middle with ⟨uj₂, after, uj', ended, back⟩
      refine ⟨uj₂, after, uj', repeatedly_more round ?_ ended nofun, back⟩
      rw [remaining_eq, remaining_eq, left, middle]
      exact Nat.lt_succ_self _

/-- A sign, if there is one, and a number. -/
def signed (neg : Bool) (n : Nat) : List (BitVec 8) := if neg then minus :: decimal n else decimal n

theorem scans_parseInteger (neg : Bool) (n : Nat) :
    Scans true ujsonParseInteger (signed neg n) (if neg then -.ofNat 64 n else .ofNat 64 n) := by
  intro uj rest left delimited
  have digits := decimal_isDigit n
  have number := foldl_parseDigit_decimal n
  cases numeral : decimal n with
  | nil => exact absurd numeral (decimal_ne_nil n)
  | cons first others =>
      rw [numeral] at digits number
      have isFirst : isDigit first = true := digits first List.mem_cons_self
      have dark : forall ch : BitVec 8, isDigit ch = true -> isSpace ch = false ∧ ch ≠ minus := by
        decide
      -- The sign is taken, and the first digit.
      have signTaken : Exists fun ch => Exists fun uj₁ => Exists fun uj₂ =>
          consumeWhitespace uj = (.ok ch, uj₁) ∧ afterSign ch uj₁ = (.ok first, uj₂) ∧
          pending uj₂ = chars others ++ rest ∧ (ch = minus ↔ neg = true) := by
        unfold signed at left
        rw [numeral] at left
        cases neg with
        | true =>
            have dark : isSpace minus = false := by decide
            rcases scans_consumeWhitespace dark uj _ left nofun with ⟨uj₁, done, middle, -⟩
            rcases scans_getc first uj₁ _ middle nofun with ⟨uj₂, done', after, -⟩
            refine ⟨minus, uj₁, uj₂, done, ?_, after, iff_of_true rfl rfl⟩
            rw [afterSign, if_pos rfl]
            exact done'
        | false =>
            rcases scans_consumeWhitespace (dark first isFirst).1 uj _ left nofun
              with ⟨uj₁, done, after, -⟩
            refine ⟨first, uj₁, uj₁, done, ?_, after,
              iff_of_false (dark first isFirst).2 Bool.false_ne_true⟩
            rw [afterSign, if_neg (dark first isFirst).2]
            rfl
      rcases signTaken with ⟨ch, uj₁, uj₂, done, done', after, negative⟩
      rcases parseInteger_loop (fun ch member => digits ch (List.mem_cons_of_mem _ member)) first 0
        uj₂ after (delimited rfl) with ⟨uj₃, next, uj', ended, back, left'⟩
      refine ⟨uj', ?_, left', fun stops => Bool.noConfusion stops⟩
      unfold ujsonParseInteger
      rw [bind_ok done, bind_ok done', if_neg (by rw [isFirst]; exact Bool.false_ne_true),
        bind_ok ended]
      dsimp only
      rw [bind_ok back, number]
      by_cases minusSign : neg = true
      · rw [if_pos (negative.mpr minusSign), if_pos minusSign]
        rfl
      · rw [if_neg (fun same => minusSign (negative.mp same)), if_neg minusSign]
        rfl

/-- The text of an integer, signed or not. -/
def unsignedText {width : Nat} (value : BitVec width) : List (BitVec 8) := decimal value.toNat

/-- The text of a signed integer. -/
def signedText {width : Nat} (value : BitVec width) : List (BitVec 8) :=
  signed value.msb value.toInt.natAbs

theorem scans_unsigned {width : Nat} (narrow : width <= 64) (value : BitVec width) :
    Scans true (deserializeInteger width) (unsignedText value) value := by
  apply (scans_parseInteger false value.toNat).map
  rw [if_neg Bool.false_ne_true, BitVec.setWidth_ofNat_of_le narrow, BitVec.ofNat_toNat,
    BitVec.setWidth_eq]

theorem scans_signed {width : Nat} (narrow : width <= 64) (value : BitVec width) :
    Scans true (deserializeInteger width) (signedText value) value := by
  apply (scans_parseInteger value.msb value.toInt.natAbs).map
  apply congrArg
  split
  · next neg =>
      have magnitude : (value.toInt.natAbs : Int) = -value.toInt := by
        have below := BitVec.toInt_neg_of_msb_true neg
        omega
      rw [BitVec.setWidth_neg_of_le narrow, BitVec.setWidth_ofNat_of_le narrow,
        BitVec.neg_ofNat_eq_ofInt_neg, magnitude, Int.neg_neg, BitVec.ofInt_toInt]
  · next neg =>
      rw [BitVec.setWidth_ofNat_of_le narrow,
        BitVec.toInt_eq_toNat_of_msb (Bool.eq_false_iff.mpr neg), Int.natAbs_natCast,
        BitVec.ofNat_toNat, BitVec.setWidth_eq]

/-! ## Writing numbers -/

section Writing

variable {width : Nat} {divide : BitVec width -> BitVec width × BitVec width}

/-- A way of dividing by ten. -/
def DividesByTen (divide : BitVec width -> BitVec width × BitVec width) : Prop :=
  forall value, (divide value).1.toNat = value.toNat / 10 ∧
    (divide value).2.toNat = value.toNat % 10

theorem writeDecimal_eq (byTen : DividesByTen divide) {room : Nat} (positive : 0 < room)
    (value : BitVec width) (text : List (BitVec 8)) (enough : value.toNat < 10 ^ room) :
    writeDecimal divide room value text = some (decimal value.toNat ++ text) := by
  induction room generalizing value text with
  | zero => exact absurd positive (Nat.lt_irrefl 0)
  | succ room ih =>
      rcases byTen value with ⟨quotient, remainder⟩
      have ascii : 0x30 + (divide value).2.setWidth 8 = digit (value.toNat % 10) := by
        rw [digit, <- remainder, BitVec.ofNat_toNat]
      unfold writeDecimal
      dsimp only
      rw [ascii]
      split
      · next zero =>
          rw [zero] at quotient
          have small : value.toNat < 10 := by
            have none : 0 = value.toNat / 10 := quotient
            omega
          rw [decimal_of_lt small, Nat.mod_eq_of_lt small]
          rfl
      · next some =>
          have large : 10 <= value.toNat := by
            by_contra small
            apply some
            apply BitVec.eq_of_toNat_eq
            rw [quotient]
            exact Nat.div_eq_of_lt (Nat.lt_of_not_le small)
          have further : 0 < room := by
            apply Nat.pos_of_ne_zero
            rintro rfl
            omega
          rw [ih further _ _ (by rw [quotient, Nat.div_lt_iff_lt_mul (by decide)]; exact enough),
            quotient, decimal_of_ge large, List.append_assoc]
          rfl

theorem renders_integer (byTen : DividesByTen divide) (narrow : width <= 64) (value : BitVec width)
    (neg : Bool) :
    Renders (serializeInteger divide value neg) True
      (signed neg (if neg then (-value).toNat else value.toNat)) () := by
  have magnitude : (if neg then ~~~value + 1 else value).toNat =
      if neg then (-value).toNat else value.toNat := by
    split
    · exact congrArg BitVec.toNat (BitVec.neg_eq_not_add value).symm
    · rfl
  have short : (if neg then ~~~value + 1 else value).toNat < 10 ^ 20 := by
    have bound := (if neg then ~~~value + 1 else value).isLt
    have most : 2 ^ width <= 2 ^ 64 := Nat.pow_le_pow_right Nat.two_pos narrow
    omega
  have room := decimal_length (by decide) short
  unfold serializeInteger
  rw [writeDecimal_eq byTen (by decide) _ _ (Nat.lt_trans short (by decide)), List.append_nil,
    magnitude]
  rw [magnitude] at room
  dsimp only
  cases neg with
  | true =>
      rw [if_pos rfl, if_pos (Nat.lt_of_le_of_lt room (by decide))]
      exact renders_putbuf _
  | false => exact renders_putbuf _

theorem dividesByTen_slow : DividesByTen (fun value => udiv64Slow value 10) := by
  intro value
  dsimp only
  rw [udiv64Slow_eq (by decide)]
  exact ⟨BitVec.toNat_udiv, BitVec.toNat_umod⟩

theorem dividesByTen : DividesByTen (fun value : BitVec 32 => (value / 10, value % 10)) :=
  fun _ => ⟨BitVec.toNat_udiv, BitVec.toNat_umod⟩

theorem neg_toNat {value : BitVec width} (neg : value.msb = true) :
    (-value).toNat = value.toInt.natAbs := by
  have positive : 0 < value.toNat := by
    apply Nat.pos_of_ne_zero
    intro zero
    have none : value = 0 := BitVec.eq_of_toNat_eq zero
    rw [none, BitVec.ofNat_eq_ofNat, BitVec.msb_zero] at neg
    exact Bool.false_ne_true neg
  have bound := value.isLt
  rw [BitVec.toInt_eq_msb_cond, if_pos neg, BitVec.toNat_neg, Nat.mod_eq_of_lt (by omega)]
  omega

theorem magnitude_toNat (value : BitVec width) :
    (if value.msb then (-value).toNat else value.toNat) = value.toInt.natAbs := by
  split
  · next neg => exact neg_toNat neg
  · next neg =>
      rw [BitVec.toInt_eq_toNat_of_msb (Bool.eq_false_iff.mpr neg), Int.natAbs_natCast]

/-- A signed integer is written as the wider one with the same value. -/
theorem renders_signed {width' : Nat} {divide : BitVec width' -> BitVec width' × BitVec width'}
    (byTen : DividesByTen divide) (wider : width <= width') (narrow : width' <= 64)
    (value : BitVec width) :
    Renders (serializeInteger divide (value.signExtend width') value.msb) True (signedText value) () := by
  have sign : (value.signExtend width').msb = value.msb := by
    rw [BitVec.msb_eq_toInt, BitVec.msb_eq_toInt, BitVec.toInt_signExtend_of_le wider]
  have text : signed value.msb (if value.msb then (-value.signExtend width').toNat
      else (value.signExtend width').toNat) = signedText value := by
    rw [signedText, <- BitVec.toInt_signExtend_of_le wider, <- magnitude_toNat, sign]
  rw [<- text]
  exact renders_integer byTen narrow _ _

theorem renders_unsigned {width' : Nat} {divide : BitVec width' -> BitVec width' × BitVec width'}
    (byTen : DividesByTen divide) (wider : width <= width') (narrow : width' <= 64)
    (value : BitVec width) :
    Renders (serializeInteger divide (value.setWidth width') false) True (unsignedText value) () := by
  have text : unsignedText value = signed false (value.setWidth width').toNat := by
    rw [BitVec.toNat_setWidth_of_le wider]
    rfl
  rw [text]
  exact renders_integer byTen narrow _ false

end Writing

/-! ## Booleans -/

/-- The text of a boolean. -/
def boolText (value : Bool) : List (BitVec 8) := if value then ascii "true" else ascii "false"

theorem renders_bool (value : Bool) : Renders (ujsonSerializeBool value) True (boolText value) () := by
  cases value with
  | true => exact renders_putbuf _
  | false => exact renders_putbuf _

theorem scans_bool (value : Bool) : Scans false ujsonDeserializeBool (boolText value) value := by
  have letter {ch : BitVec 8} (dark : isSpace ch = false) {text : List (BitVec 8)} {m : Uj Bool}
      (scans : Scans false m text value) :
      Scans false (ujsonConsume ch >>= fun _ => m) (ch :: text) value :=
    (scans_consume dark).bind scans nofun
  cases value with
  | true =>
      have t : isSpace 0x74 = false := by decide
      apply (scans_consumeWhitespace t).bind ?_ nofun
      apply letter (by decide)
      apply letter (by decide)
      exact (scans_consume (by decide)).map rfl
  | false =>
      have f : isSpace 0x66 = false := by decide
      apply (scans_consumeWhitespace f).bind ?_ nofun
      apply letter (by decide)
      apply letter (by decide)
      apply letter (by decide)
      exact (scans_consume (by decide)).map rfl

end Ujson
end SunburstChip
