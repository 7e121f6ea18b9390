import Mathlib.Data.Nat.Digits.Lemmas
import SunburstChip.Runtime.Vfprintf

namespace SunburstChip
namespace Print

/-!
# Digits in a local buffer

`write_digits` of `print.c` over its buffer.  The digits of a number are written
from the end of the buffer on, the lowest one first, and the padding in front of
them, so that what has been filled is always a text at the end.  An index
outside of the buffer or of the alphabet gives nothing.
-/

/-! ## The buffer -/

/-- The local buffer of `write_digits`, and how much of it is filled. -/
structure DigitBuffer where
  buffer : Vector (BitVec 8) 32
  len : BitVec 32
deriving DecidableEq

/-- `buffer[kWordBits - 1 - len] = c; ++len` -/
def DigitBuffer.push (filled : DigitBuffer) (c : BitVec 8) : Option DigitBuffer :=
  let index := (31 - filled.len).toNat
  if inside : index < 32 then some ⟨filled.buffer.set index c inside, filled.len + 1⟩ else none

/-- The digit that `write_digits` writes for zero. -/
def fillZero (glyphs : Text) (value : BitVec 32) (filled : DigitBuffer) : Option DigitBuffer :=
  if value = 0 then glyphs[0]? >>= filled.push else some filled

/-- The loop of `write_digits` that writes the digits. -/
def fillDigits (base : BitVec 32) (glyphs : Text) :
    Nat -> BitVec 32 -> DigitBuffer -> Option DigitBuffer
  | 0, _, _ => none
  | fuel + 1, value, filled =>
      if value = 0 then some filled
      else do
        let glyph <- glyphs[(value % base).toNat]?
        let filled <- filled.push glyph
        fillDigits base glyphs fuel (value / base) filled

/-- The loop of `write_digits` that writes the padding. -/
def fillPadding (width : BitVec 32) (padding : BitVec 8) :
    Nat -> DigitBuffer -> Option DigitBuffer
  | 0, _ => none
  | fuel + 1, filled =>
      if filled.len < width then do
        let filled <- filled.push padding
        fillPadding width padding fuel filled
      else some filled

/-- The text at `buffer + (kWordBits - len)`, of `len` characters. -/
def DigitBuffer.text (filled : DigitBuffer) : Option Text :=
  let start := (32 - filled.len).toNat
  if start + filled.len.toNat <= 32 then
    some ((filled.buffer.toList.drop start).take filled.len.toNat)
  else none

/-- The width that `write_digits` goes by. -/
def clampWidth (width : BitVec 32) : BitVec 32 :=
  let width := if width = 0 then 1 else width
  if width > 32 then 32 else width

/-- `write_digits`, with a buffer of any contents: the text handed to the sink. -/
def writeDigitsFrom (buffer : Vector (BitVec 8) 32) (value width : BitVec 32)
    (padding : BitVec 8) (base : BitVec 32) (glyphs : Text) : Option Text := do
  let filled <- fillZero glyphs value ⟨buffer, 0⟩
  let filled <- fillDigits base glyphs 33 value filled
  let filled <- fillPadding (clampWidth width) padding 33 filled
  filled.text

/-- What a buffer holds. -/
structure DigitBuffer.Holds (filled : DigitBuffer) (text : Text) : Prop where
  len : filled.len.toNat = text.length
  room : text.length <= 32
  text : filled.buffer.toList.drop (32 - text.length) = text

theorem DigitBuffer.holds_nil (buffer : Vector (BitVec 8) 32) :
    DigitBuffer.Holds ⟨buffer, 0⟩ [] where
  len := rfl
  room := Nat.zero_le _
  text := List.drop_eq_nil_of_le (by simp)

/-- A character goes in front of the text, and into the buffer while the text leaves room. -/
theorem DigitBuffer.Holds.push {filled : DigitBuffer} {text : Text} (holds : filled.Holds text)
    (c : BitVec 8) (room : text.length < 32) :
    Exists fun next => filled.push c = some next ∧ next.Holds (c :: text) := by
  have index : (31 - filled.len).toNat = 31 - text.length := by
    have len := holds.len
    bv_omega
  have inside : (31 - filled.len).toNat < 32 := by omega
  refine ⟨⟨filled.buffer.set (31 - filled.len).toNat c inside, filled.len + 1⟩,
    dif_pos inside, ?_, room, ?_⟩
  · have len := holds.len
    rw [List.length_cons]
    bv_omega
  · have size : filled.buffer.toList.length = 32 := Vector.length_toList
    have start : 32 - (c :: text).length = 31 - text.length := by
      rw [List.length_cons]
      omega
    have behind : 31 - text.length + 1 = 32 - text.length := by omega
    have front : 31 - text.length < filled.buffer.toList.length := by omega
    dsimp only
    rw [Vector.toList_set, start, index, List.drop_set, if_neg (Nat.lt_irrefl _), Nat.sub_self,
      List.drop_eq_getElem_cons front, List.set_cons_zero, behind, holds.text]

/-- What is filled is the text. -/
theorem DigitBuffer.Holds.text_eq {filled : DigitBuffer} {text : Text}
    (holds : filled.Holds text) : filled.text = some text := by
  have len := holds.len
  have room := holds.room
  have start : (32 - filled.len).toNat = 32 - text.length := by bv_omega
  have within : 32 - text.length + text.length <= 32 := by omega
  unfold DigitBuffer.text
  dsimp only
  rw [start, len, if_pos within, holds.text, List.take_length]

/-! ## Significant digits -/

/-- The digits of a number in some base, the highest one first; zero has one. -/
def significantDigits (base n : Nat) : List Nat :=
  if n = 0 then [0] else (Nat.digits base n).reverse

/-- An alphabet for the digits of some base. -/
structure Alphabet (base : BitVec 32) (glyphs : Text) : Prop where
  binary : 2 <= base.toNat
  enough : base.toNat <= glyphs.length
  apart : glyphs.Nodup

/-- The characters of some digits. -/
def digitText (glyphs : Text) (digits : List Nat) : Text := digits.map (glyphs.getD · 0)

/-- The number that some characters are read as. -/
def readBack (base : Nat) (glyphs text : Text) : Nat :=
  text.foldl (fun n c => n * base + glyphs.idxOf c) 0

section

variable {base : BitVec 32} {glyphs : Text}

theorem Alphabet.glyph (alphabet : Alphabet base glyphs) {digit : Nat}
    (small : digit < base.toNat) : glyphs[digit]? = some (glyphs.getD digit 0) := by
  have inside := Nat.lt_of_lt_of_le small alphabet.enough
  rw [List.getD_eq_getElem _ _ inside]
  exact List.getElem?_eq_getElem inside

theorem digitText_zero (base : Nat) :
    digitText glyphs (Nat.digits base (0 : BitVec 32).toNat).reverse = [] := by
  change digitText glyphs (Nat.digits base 0).reverse = []
  rw [Nat.digits_zero]
  rfl

/-- Another digit in front of those of the rest of a number. -/
theorem digitText_digits (binary : 2 <= base.toNat) {value : BitVec 32} (positive : value ≠ 0) :
    digitText glyphs (Nat.digits base.toNat value.toNat).reverse =
      digitText glyphs (Nat.digits base.toNat (value / base).toNat).reverse ++
        [glyphs.getD (value % base).toNat 0] := by
  have above : 0 < value.toNat := by
    rw [Nat.pos_iff_ne_zero]
    exact fun zero => positive (BitVec.eq_of_toNat_eq zero)
  have front : (value / base).toNat = value.toNat / base.toNat := BitVec.toNat_udiv
  have last : (value % base).toNat = value.toNat % base.toNat := BitVec.toNat_umod
  rw [Nat.digits_def' binary above, List.reverse_cons, front, last, digitText, List.map_append]
  rfl

theorem div_lt_two_pow (binary : 2 <= base.toNat) {value : BitVec 32} {room : Nat}
    (few : value.toNat < 2 ^ (room + 1)) : (value / base).toNat < 2 ^ room := by
  have front : (value / base).toNat = value.toNat / base.toNat := BitVec.toNat_udiv
  have smaller : value.toNat / base.toNat <= value.toNat / 2 :=
    Nat.div_le_div_left binary (by decide)
  rw [Nat.pow_succ] at few
  omega

/-- The digits of what is left of a number go in front of those written before, as long as there
is a cell for each bit of it. -/
theorem fillDigits_holds (alphabet : Alphabet base glyphs) {room fuel : Nat} {value : BitVec 32}
    {filled : DigitBuffer} {text : Text} (holds : filled.Holds text)
    (few : value.toNat < 2 ^ room) (cells : text.length + room <= 32) (enough : room < fuel) :
    Exists fun next => fillDigits base glyphs fuel value filled = some next ∧
      next.Holds (digitText glyphs (Nat.digits base.toNat value.toNat).reverse ++ text) := by
  induction room generalizing fuel value filled text with
  | zero =>
      have zero : value = 0 := BitVec.eq_of_toNat_eq (Nat.lt_one_iff.mp few)
      rcases fuel with _ | fuel
      · exact absurd enough (Nat.lt_irrefl 0)
      · refine ⟨filled, if_pos zero, ?_⟩
        rw [zero, digitText_zero]
        exact holds
  | succ room ih =>
      rcases fuel with _ | fuel
      · exact absurd enough (Nat.not_lt_zero _)
      · by_cases zero : value = 0
        · refine ⟨filled, if_pos zero, ?_⟩
          rw [zero, digitText_zero]
          exact holds
        · have small : (value % base).toNat < base.toNat := by
            rw [BitVec.toNat_umod]
            exact Nat.mod_lt _ (Nat.lt_of_lt_of_le Nat.two_pos alphabet.binary)
          rcases holds.push (glyphs.getD (value % base).toNat 0) (by omega) with
            ⟨pushed, pushes, behind⟩
          have rest : room < fuel := Nat.lt_of_succ_lt_succ enough
          rcases ih behind (div_lt_two_pow alphabet.binary few)
            (by rw [List.length_cons]; omega) rest with ⟨next, fills, result⟩
          refine ⟨next, ?_, ?_⟩
          · rw [fillDigits, if_neg zero, alphabet.glyph small, Option.bind_eq_bind,
              Option.bind_some, pushes, Option.bind_eq_bind, Option.bind_some, fills]
          · rw [digitText_digits alphabet.binary zero, List.append_assoc]
            exact result

/-- The padding goes in front of what is there, up to the width. -/
theorem fillPadding_holds {width : BitVec 32} (padding : BitVec 8) (bound : width.toNat <= 32)
    {missing fuel : Nat} {filled : DigitBuffer} {text : Text} (holds : filled.Holds text)
    (left : width.toNat - text.length = missing) (enough : missing < fuel) :
    Exists fun next => fillPadding width padding fuel filled = some next ∧
      next.Holds (List.replicate missing padding ++ text) := by
  induction missing generalizing fuel filled text with
  | zero =>
      rcases fuel with _ | fuel
      · exact absurd enough (Nat.lt_irrefl 0)
      · have wide : ¬ filled.len < width := by
          have len := holds.len
          rw [BitVec.lt_def]
          omega
        exact ⟨filled, if_neg wide, holds⟩
  | succ missing ih =>
      rcases fuel with _ | fuel
      · exact absurd enough (Nat.not_lt_zero _)
      · have short : filled.len < width := by
          have len := holds.len
          rw [BitVec.lt_def]
          omega
        rcases holds.push padding (by omega) with ⟨pushed, pushes, behind⟩
        have rest : missing < fuel := Nat.lt_of_succ_lt_succ enough
        rcases ih behind (by rw [List.length_cons]; omega) rest with ⟨next, fills, result⟩
        refine ⟨next, ?_, ?_⟩
        · rw [fillPadding, if_pos short, pushes, Option.bind_eq_bind, Option.bind_some, fills]
        · rw [List.replicate_succ', List.append_assoc]
          exact result

/-! ## What is written -/

theorem significantDigits_length {base n : Nat} (binary : 1 < base) (few : n < 2 ^ 32) :
    0 < (significantDigits base n).length ∧ (significantDigits base n).length <= 32 := by
  unfold significantDigits
  split
  · exact ⟨Nat.one_pos, by decide⟩
  · next positive =>
      rw [List.length_reverse]
      refine ⟨List.length_pos_iff.mpr (Nat.digits_ne_nil_iff_ne_zero.mpr positive), ?_⟩
      rw [Nat.digits_length_le_iff binary]
      exact Nat.lt_of_lt_of_le few (Nat.pow_le_pow_left binary 32)

theorem significantDigits_lt {base n digit : Nat} (binary : 1 < base)
    (member : digit ∈ significantDigits base n) : digit < base := by
  unfold significantDigits at member
  split at member
  · rw [List.mem_singleton.mp member]
    exact Nat.lt_trans Nat.one_pos binary
  · exact Nat.digits_lt_base binary (List.mem_reverse.mp member)

theorem clampWidth_toNat (width : BitVec 32) :
    (clampWidth width).toNat = min (max width.toNat 1) 32 := by
  unfold clampWidth
  dsimp only
  split
  · next zero =>
      rw [zero]
      rfl
  · next positive =>
      have above : 0 < width.toNat := by
        rw [Nat.pos_iff_ne_zero]
        exact fun none => positive (BitVec.eq_of_toNat_eq none)
      split
      · next wide =>
          have more : 32 < width.toNat := wide
          change 32 = _
          omega
      · next narrow =>
          have less : ¬ 32 < width.toNat := narrow
          omega

/-- What `write_digits` writes, whatever its buffer holds before. -/
theorem writeDigitsFrom_eq (alphabet : Alphabet base glyphs) (buffer : Vector (BitVec 8) 32)
    (value width : BitVec 32) (padding : BitVec 8) :
    writeDigitsFrom buffer value width padding base glyphs =
      some (List.replicate (min (max width.toNat 1) 32 -
          (significantDigits base.toNat value.toNat).length) padding ++
        digitText glyphs (significantDigits base.toNat value.toNat)) := by
  have length (digits : List Nat) : (digitText glyphs digits).length = digits.length :=
    List.length_map _
  have filled : Exists fun filled =>
      (fillZero glyphs value ⟨buffer, 0⟩).bind (fillDigits base glyphs 33 value) = some filled ∧
        filled.Holds (digitText glyphs (significantDigits base.toNat value.toNat)) := by
    have empty := DigitBuffer.holds_nil buffer
    by_cases zero : value = 0
    · have first := alphabet.glyph (Nat.lt_of_lt_of_le Nat.two_pos alphabet.binary)
      rcases empty.push (glyphs.getD 0 0) (by decide) with ⟨next, pushes, holds⟩
      refine ⟨next, ?_, ?_⟩
      · rw [fillZero, if_pos zero, first, Option.bind_eq_bind, Option.bind_some, pushes,
          Option.bind_some, zero]
        rfl
      · rw [zero]
        exact holds
    · have nonzero : value.toNat ≠ 0 := fun none => zero (BitVec.eq_of_toNat_eq none)
      rcases fillDigits_holds alphabet empty value.isLt (Nat.le_refl 32) (Nat.lt_succ_self 32) with
        ⟨next, fills, holds⟩
      refine ⟨next, ?_, ?_⟩
      · rw [fillZero, if_neg zero, Option.bind_some]
        exact fills
      · rw [significantDigits, if_neg nonzero]
        rw [List.append_nil] at holds
        exact holds
  rcases filled with ⟨filled, fills, holds⟩
  have width32 : (clampWidth width).toNat <= 32 := by
    rw [clampWidth_toNat]
    omega
  have left : (clampWidth width).toNat -
      (digitText glyphs (significantDigits base.toNat value.toNat)).length =
        min (max width.toNat 1) 32 - (significantDigits base.toNat value.toNat).length := by
    rw [clampWidth_toNat, length]
  have enough : min (max width.toNat 1) 32 -
      (significantDigits base.toNat value.toNat).length < 33 := by omega
  rcases fillPadding_holds padding width32 holds left enough with ⟨padded, pads, result⟩
  unfold writeDigitsFrom
  simp only [Option.bind_eq_bind]
  rw [<- Option.bind_assoc, fills, Option.bind_some, pads, Option.bind_some, result.text_eq]

/-- Characters of an alphabet are read as the digits they stand for. -/
theorem readBack_digitText (alphabet : Alphabet base glyphs) {digits : List Nat}
    (small : forall digit, digit ∈ digits -> digit < base.toNat) :
    readBack base.toNat glyphs (digitText glyphs digits) =
      digits.foldl (fun n digit => n * base.toNat + digit) 0 := by
  unfold readBack digitText
  rw [List.foldl_map]
  apply List.foldl_ext
  intro n digit member
  have inside := Nat.lt_of_lt_of_le (small digit member) alphabet.enough
  rw [List.getD_eq_getElem _ _ inside, alphabet.apart.idxOf_getElem]

theorem readBack_significantDigits (alphabet : Alphabet base glyphs) (n : Nat) :
    readBack base.toNat glyphs (digitText glyphs (significantDigits base.toNat n)) = n := by
  rw [readBack_digitText alphabet fun digit member => significantDigits_lt alphabet.binary member]
  unfold significantDigits
  split
  · next zero =>
      rw [zero]
      exact Nat.zero_mul _
  · have horner : Nat.ofDigits base.toNat (Nat.digits base.toNat n) =
        (Nat.digits base.toNat n).foldr (fun digit n => n * base.toNat + digit) 0 := by
      rw [Nat.ofDigits_eq_foldr]
      congr 1
      funext digit rest
      rw [Nat.cast_id, Nat.mul_comm, Nat.add_comm]
    rw [List.foldl_reverse, <- horner, Nat.ofDigits_digits]

/-! ## The buffer and the text -/

theorem digitsLoop_digits (binary : 2 <= base.toNat) {room : Nat} {value : BitVec 32}
    (text : Text) (few : value.toNat < 2 ^ room) :
    digitsLoop base glyphs room value text =
      some (digitText glyphs (Nat.digits base.toNat value.toNat).reverse ++ text) := by
  induction room generalizing value text with
  | zero =>
      have zero : value = 0 := BitVec.eq_of_toNat_eq (Nat.lt_one_iff.mp few)
      rw [digitsLoop, if_pos zero, zero, digitText_zero]
      rfl
  | succ room ih =>
      by_cases zero : value = 0
      · rw [digitsLoop, if_pos zero, zero, digitText_zero]
        rfl
      · rw [digitsLoop, if_neg zero, ih _ (div_lt_two_pow binary few),
          digitText_digits binary zero, List.append_assoc]
        rfl

/-- The buffer is what the text stands for that `writeDigits` puts together. -/
theorem writeDigitsFrom_eq_writeDigits (alphabet : Alphabet base glyphs)
    (buffer : Vector (BitVec 8) 32) (value width : BitVec 32) (padding : BitVec 8) :
    writeDigitsFrom buffer value width padding base glyphs =
      writeDigits value width.toNat padding base glyphs := by
  have digits : (if value = 0 then some [glyphs.getD 0 0]
      else digitsLoop base glyphs 32 value []) =
        some (digitText glyphs (significantDigits base.toNat value.toNat)) := by
    split
    · next zero =>
        rw [zero]
        rfl
    · next positive =>
        have nonzero : value.toNat ≠ 0 := fun none => positive (BitVec.eq_of_toNat_eq none)
        rw [digitsLoop_digits alphabet.binary [] value.isLt, significantDigits, if_neg nonzero,
          List.append_nil]
  have least : (if width.toNat = 0 then 1 else width.toNat) = max width.toNat 1 := by
    split
    · omega
    · omega
  have length : (digitText glyphs (significantDigits base.toNat value.toNat)).length =
      (significantDigits base.toNat value.toNat).length := List.length_map _
  rw [writeDigitsFrom_eq alphabet, writeDigits, digits, Option.map_some, least, length]

theorem alphabet_of_mem (bases : base ∈ [2, 8, 10, 16])
    (letters : glyphs ∈ [kDigitsLow, kDigitsHigh]) : Alphabet base glyphs := by
  have sized : glyphs.length = 16 ∧ glyphs.Nodup := by
    rcases List.mem_pair.mp letters with rfl | rfl
    · decide
    · decide
  have bounds : 2 <= base.toNat ∧ base.toNat <= 16 := by
    have all : forall n : BitVec 32, n ∈ ([2, 8, 10, 16] : List (BitVec 32)) ->
        2 <= n.toNat ∧ n.toNat <= 16 := by
      rw [<- List.forall_iff_forall_mem]
      decide
    exact all base bases
  exact ⟨bounds.1, by omega, sized.2⟩

/-- A number is written with its significant digits and as much padding in front of them as the
width asks for, inside of the buffer, and the digits are read back as the number. -/
theorem writeDigits_significant (bases : base ∈ [2, 8, 10, 16])
    (letters : glyphs ∈ [kDigitsLow, kDigitsHigh]) {width : BitVec 32} (bound : width.toNat <= 32)
    (buffer : Vector (BitVec 8) 32) (value : BitVec 32) (padding : BitVec 8) :
    Exists fun text => writeDigitsFrom buffer value width padding base glyphs = some text ∧
      text.length = max width.toNat (significantDigits base.toNat value.toNat).length ∧
      Exists fun digits =>
        text = List.replicate
          (width.toNat - (significantDigits base.toNat value.toNat).length) padding ++ digits ∧
        digits.length = (significantDigits base.toNat value.toNat).length ∧
        readBack base.toNat glyphs digits = value.toNat := by
  have alphabet := alphabet_of_mem bases letters
  have size := significantDigits_length alphabet.binary value.isLt
  have length : (digitText glyphs (significantDigits base.toNat value.toNat)).length =
      (significantDigits base.toNat value.toNat).length := List.length_map _
  have missing : min (max width.toNat 1) 32 -
      (significantDigits base.toNat value.toNat).length =
        width.toNat - (significantDigits base.toNat value.toNat).length := by omega
  refine ⟨_, writeDigitsFrom_eq alphabet buffer value width padding, ?_, _, ?_, length, ?_⟩
  · rw [List.length_append, List.length_replicate, length]
    omega
  · rw [missing]
  · exact readBack_significantDigits alphabet value.toNat

theorem writeDigits_significant_padded :
    Exists fun text =>
      writeDigitsFrom (Vector.replicate 32 0) 10 4 0x30 16 kDigitsLow = some text ∧
      text.length = 4 ∧ Exists fun digits =>
        text = List.replicate 3 0x30 ++ digits ∧ digits.length = 1 ∧
        readBack 16 kDigitsLow digits = 10 :=
  writeDigits_significant (by decide) (by decide) (by decide) _ 10 0x30

end

end Print
end SunburstChip
