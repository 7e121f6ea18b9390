import SunburstChip.Runtime.HexdumpTexts
import SunburstChip.Ujson.StatusText

namespace SunburstChip
namespace Print

/-!
# Widths

A specifier can ask for a width, which is a number of characters.  Two branches
of `process_specifier` count something else: the sign of a decimal is written in
front of the padding and is not counted, and the padding of a hex dump goes by
the number of its bytes, each of which takes two characters.
-/

/-! ## Formats of one specifier -/

/-- What a width is padded with. -/
inductive Padding where
  | space
  | zero
deriving DecidableEq

/-- What stands for it in front of the width. -/
def Padding.flag : Padding -> Text
  | .space => []
  | .zero => [0x30]

/-- The character itself. -/
def Padding.char : Padding -> BitVec 8
  | .space => 0x20
  | .zero => 0x30

/-- A width in a format; there is none for 0. -/
def widthText (width : Nat) : Text := if width = 0 then [] else Ujson.decimal width

/-- A mark, a padding and a width in front of a type. -/
def specifierFormat (mark : Text) (padding : Padding) (width : Nat) (type : BitVec 8) : Text :=
  kPercent :: (mark ++ (padding.flag ++ widthText width ++ [type]))

/-- The text that `base_fprintf` writes. -/
def fprintfText (format : Text) (args : List Arg) : Option Text :=
  (baseVfprintf acceptAll [] (format ++ [0]) args).map Prod.fst

/-- The width that `%0d` asks for is 0, which the scanner refuses. -/
def Padding.Allows (padding : Padding) (width : Nat) : Prop := padding = .space ∨ width ≠ 0

theorem numberFrom_append (n : Nat) (front back : Text) :
    numberFrom n (front ++ back) = numberFrom (numberFrom n front) back := List.foldl_append

theorem numberFrom_decimal (n : Nat) : numberFrom 0 (Ujson.decimal n) = n := by
  have last : forall d, d < 10 -> (Ujson.digit d).toNat - 0x30 = d := by decide
  induction n using Nat.strongRecOn with
  | ind n ih =>
      rcases Nat.lt_or_ge n 10 with small | large
      · rw [Ujson.decimal_of_lt small]
        change 0 * 10 + ((Ujson.digit n).toNat - 0x30) = n
        rw [last n small]
        omega
      · rw [Ujson.decimal_of_ge large, numberFrom_append, ih (n / 10) (by omega)]
        change n / 10 * 10 + ((Ujson.digit (n % 10)).toNat - 0x30) = n
        rw [last _ (Nat.mod_lt n (by decide))]
        omega

/-- A number does not begin with a zero. -/
theorem decimal_first {n : Nat} (positive : 0 < n) :
    Exists fun c => Exists fun digits => Ujson.decimal n = c :: digits ∧ c ≠ 0x30 := by
  have nonzero : forall d, d < 10 -> 0 < d -> Ujson.digit d ≠ 0x30 := by decide
  induction n using Nat.strongRecOn with
  | ind n ih =>
      rcases Nat.lt_or_ge n 10 with small | large
      · exact ⟨_, [], Ujson.decimal_of_lt small, nonzero n small positive⟩
      · rcases ih (n / 10) (by omega) (by omega) with ⟨c, digits, same, other⟩
        exact ⟨c, _, by rw [Ujson.decimal_of_ge large, same]; rfl, other⟩

/-- What the digits of a format say. -/
theorem width_digits (padding : Padding) (width : Nat) :
    (forall c, c ∈ padding.flag ++ widthText width -> isDigit c = true) ∧
    numberFrom 0 (padding.flag ++ widthText width) = width ∧
    (padding.Allows width -> paddingOf (padding.flag ++ widthText width) =
      if width = 0 then 0 else padding.char) := by
  have digits : forall c, c ∈ widthText width -> isDigit c = true := by
    unfold widthText
    split
    · exact fun _ inside => absurd inside List.not_mem_nil
    · exact Ujson.decimal_isDigit width
  have number : numberFrom 0 (widthText width) = width := by
    unfold widthText
    split
    · next none => exact none.symm
    · exact numberFrom_decimal width
  cases padding with
  | space =>
      refine ⟨digits, number, fun _ => ?_⟩
      unfold widthText
      split
      · rfl
      · next some =>
          rcases decimal_first (Nat.pos_of_ne_zero some) with ⟨c, digits, same, other⟩
          rw [same]
          exact if_neg other
  | zero =>
      refine ⟨?_, ?_, fun allows => ?_⟩
      · intro c inside
        rcases List.mem_cons.mp inside with rfl | inside
        · decide
        · exact digits c inside
      · rw [numberFrom_append]
        exact number
      · have some : width ≠ 0 := allows.resolve_left nofun
        rw [if_neg some]
        rfl

/-! ## What is printed -/

/-- A type is the end of its specifier. -/
structure EndsSpecifier (mark : Text) (type : BitVec 8) : Prop where
  mark_eq : mark = [] ∨ mark = [bang]
  other : isDigit type = false
  printed : type ≠ 0
  plain : type ≠ bang

variable {mark : Text} {type : BitVec 8} {padding : Padding} {width : Nat} {args : List Arg}

theorem scan_specifierFormat (ends : EndsSpecifier mark type) (padding : Padding) (width : Nat) :
    consumeFormatSpecifier (specifierFormat mark padding width type ++ [0]) = some
      (scanned (decide (mark = [bang])) (padding.flag ++ widthText width ++ [type] ++ [0])
        (padding.flag ++ widthText width) type [0]) := by
  have digits := (width_digits padding width).1
  have stops := ends.other
  unfold specifierFormat
  generalize padding.flag ++ widthText width = front at digits ⊢
  have unmarked : (front ++ [type]).head? ≠ some bang := by
    cases front with
    | nil => exact fun same => ends.plain (Option.some.inj same)
    | cons c front =>
        intro same
        have isBang := Option.some.inj same
        have digit := digits c List.mem_cons_self
        rw [isBang] at digit
        cases digit
  have after : afterBang (mark ++ (front ++ [type])) = front ++ [type] := by
    rcases ends.mark_eq with rfl | rfl
    · exact if_neg unmarked
    · rfl
  have marked : decide ((mark ++ (front ++ [type])).head? = some bang) =
      decide (mark = [bang]) := by
    rcases ends.mark_eq with rfl | rfl
    · exact decide_eq_false unmarked
    · rfl
  have taken : widthDigits (mark ++ (front ++ [type])) = front := by
    unfold widthDigits
    rw [after, List.takeWhile_append_of_pos digits,
      List.takeWhile_cons_of_neg (by rw [stops]; decide), List.append_nil]
  have behind : fromType (mark ++ (front ++ [type])) = [type] := by
    unfold fromType
    rw [after, List.dropWhile_append_of_pos digits,
      List.dropWhile_cons_of_neg (by rw [stops]; decide)]
  have written : 0 ∉ mark ++ (front ++ [type]) := by
    intro inside
    rcases List.mem_append.mp inside with inside | inside
    · rcases ends.mark_eq with rfl | rfl
      · exact absurd inside List.not_mem_nil
      · exact absurd inside (by decide)
    · rcases List.mem_append.mp inside with inside | inside
      · exact absurd (digits 0 inside) (by decide)
      · exact ends.printed (List.mem_singleton.mp inside).symm
  rcases consumeFormatSpecifier_eq _ written with ⟨c, rest, shape, -, result⟩
  rw [behind] at shape
  injection shape with same shape
  subst same shape
  rw [after, taken, marked] at result
  exact result

/-- The text of the only specifier of a format. -/
theorem fprintfText_specifierFormat (ends : EndsSpecifier mark type) (padding : Padding)
    (bound : width <= 32) :
    fprintfText (specifierFormat mark padding width type) args =
      if padding = .space ∨ width ≠ 0 then
        (processSpecifier ⟨type, .ofNat 32 width, if width = 0 then 0 else padding.char,
          decide (mark = [bang])⟩ args).map (fun printed => printed.1.flatten)
      else some kErrorTooWide := by
  rcases width_digits padding width with ⟨-, number, selected⟩
  have scans := scan_specifierFormat ends padding width
  have small : ¬ (32 : BitVec 32) < .ofNat 32 width := by
    rw [BitVec.lt_def, BitVec.toNat_ofNat, Nat.mod_eq_of_lt (by omega)]
    exact Nat.not_lt.mpr bound
  have zero : BitVec.ofNat 32 width = 0 ↔ width = 0 := by
    constructor
    · intro same
      have value := congrArg BitVec.toNat same
      rw [BitVec.toNat_ofNat, Nat.mod_eq_of_lt (by omega)] at value
      exact value
    · rintro rfl
      rfl
  have started : untilPercent (specifierFormat mark padding width type ++ [0]) =
      some ([], specifierFormat mark padding width type ++ [0]) := rfl
  have going : ¬ (specifierFormat mark padding width type ++ [0]).head? = some 0 := by
    simp [specifierFormat]
  have positive : (specifierFormat mark padding width type ++ [0]).length =
      (mark ++ (padding.flag ++ widthText width)).length + 2 + 1 := by
    simp only [specifierFormat, List.length_cons, List.length_append, List.length_nil]
    omega
  unfold fprintfText baseVfprintf vfprintf
  rw [positive, vfprintfLoop, started, Option.bind_some]
  dsimp only
  rw [if_neg going, scans, Option.bind_some]
  unfold scanned
  dsimp only
  rw [number, if_neg ends.printed]
  by_cases allows : padding = .space ∨ width ≠ 0
  · have taken : ¬ ((BitVec.ofNat 32 width = 0 ∧ padding.flag ++ widthText width ≠ []) ∨
        (32 : BitVec 32) < .ofNat 32 width) := by
      rintro (⟨none, some⟩ | wide)
      · rcases allows with rfl | nonzero
        · rw [widthText, if_pos (zero.mp none)] at some
          exact some rfl
        · exact nonzero (zero.mp none)
      · exact small wide
    rw [if_neg taken, if_pos allows, selected allows]
    dsimp only
    generalize processSpecifier _ args = printed
    rcases printed with _ | ⟨texts, rest⟩
    · rfl
    · rw [Option.bind_some]
      dsimp only
      have finished : vfprintfLoop ((mark ++ (padding.flag ++ widthText width)).length + 2) [0]
          rest = some ([], rest) := rfl
      rw [finished]
      simp [emit_acceptAll]
  · have refused : (BitVec.ofNat 32 width = 0 ∧ padding.flag ++ widthText width ≠ []) ∨
        (32 : BitVec 32) < .ofNat 32 width := by
      rw [not_or, not_not] at allows
      refine Or.inl ⟨zero.mpr allows.2, ?_⟩
      cases padding with
      | space => exact absurd rfl allows.1
      | zero => exact List.cons_ne_nil _ _
    rw [if_pos refused, if_neg allows]
    rfl

/-! ## Signed decimals -/

/-- The sign of a number. -/
def signText (value : BitVec 32) : Text := if value.msb then [0x2d] else []

/-- What `printf` of C writes for a signed decimal.  Spaces go in front of the sign
and zeroes behind it, and the sign counts. -/
def cSignedDec (padding : Padding) (width : Nat) (value : BitVec 32) : Text :=
  let digits := Ujson.decimal value.toInt.natAbs
  let missing := List.replicate (width - (signText value ++ digits).length) padding.char
  match padding with
  | .space => missing ++ (signText value ++ digits)
  | .zero => signText value ++ (missing ++ digits)

theorem msb_eq_false_iff (value : BitVec 32) : value.msb = false ↔ 0 <= value.toInt := by
  rw [BitVec.msb_eq_toInt, decide_eq_false_iff_not, Int.not_lt]

theorem endsSpecifier_signedDec : EndsSpecifier [] kSignedDec1 :=
  ⟨Or.inl rfl, by decide, by decide, by decide⟩

/-- The code writes the sign and then a number that is padded on its own. -/
theorem processSpecifier_signedDec (value : BitVec 32) (padding : BitVec 8) (bound : width <= 32) :
    (processSpecifier ⟨kSignedDec1, .ofNat 32 width, padding, false⟩ [.word value]).map
      (fun printed => printed.1.flatten) =
    some (signText value ++ (List.replicate
      (width - (Ujson.decimal value.toInt.natAbs).length) padding ++
        Ujson.decimal value.toInt.natAbs)) := by
  have magnitude : (if value.msb then -value else value).toNat = value.toInt.natAbs := by
    rw [<- Ujson.magnitude_toNat]
    split
    · rfl
    · rfl
  have count : min (BitVec.ofNat 32 width).toNat 32 = width := by
    rw [BitVec.toNat_ofNat, Nat.mod_eq_of_lt (by omega)]
    exact Nat.min_eq_left bound
  have printed : processSpecifier ⟨kSignedDec1, .ofNat 32 width, padding, false⟩ [.word value] =
      ((writeDigits (if value.msb then -value else value) (BitVec.ofNat 32 width).toNat padding 10
        kDigitsLow).map (fun text => (if value.msb then [ascii "-"] else []) ++ [text])).map
        (fun texts => (texts, [])) := rfl
  rw [printed, Ujson.writeDigits_decimal, magnitude, count]
  unfold signText
  cases value.msb with
  | true => simp [ascii]
  | false => simp

/-- A signed decimal is printed as C prints it if its width is not 0 behind a zero,
and if it is not negative or has no fewer digits than the width. -/
theorem signedDec_iff (padding : Padding) (bound : width <= 32) (value : BitVec 32) :
    fprintfText (specifierFormat [] padding width kSignedDec1) [.word value] =
        some (cSignedDec padding width value) ↔
      (padding = .space ∨ width ≠ 0) ∧
      (0 <= value.toInt ∨ width <= (Ujson.decimal value.toInt.natAbs).length) := by
  have printed := processSpecifier_signedDec value (if width = 0 then 0 else padding.char) bound
  have some := List.length_pos_iff.mpr (Ujson.decimal_ne_nil value.toInt.natAbs)
  rw [fprintfText_specifierFormat endsSpecifier_signedDec padding bound]
  by_cases allows : padding = .space ∨ width ≠ 0
  · have chars : List.replicate (width - (Ujson.decimal value.toInt.natAbs).length)
        (if width = 0 then 0 else padding.char) =
        List.replicate (width - (Ujson.decimal value.toInt.natAbs).length) padding.char := by
      by_cases none : width = 0
      · rw [none, Nat.zero_sub]
        rfl
      · rw [if_neg none]
    rw [if_pos allows]
    refine Iff.trans ?_ (and_iff_right allows).symm
    change (processSpecifier ⟨kSignedDec1, .ofNat 32 width, _, false⟩ [.word value]).map _ = _ ↔ _
    rw [printed, chars, Option.some.injEq]
    unfold cSignedDec
    dsimp only
    generalize Ujson.decimal value.toInt.natAbs = digits at some ⊢
    rw [<- msb_eq_false_iff]
    unfold signText
    cases value.msb with
    | false =>
        refine iff_of_true ?_ (Or.inl rfl)
        cases padding with
        | space => rfl
        | zero => rfl
    | true =>
        constructor
        · -- Where there is padding, the sign makes the text longer by one character.
          intro same
          have lengths := congrArg List.length same
          refine Or.inr ?_
          cases padding with
          | space =>
              simp only [if_true, List.length_append, List.length_replicate, List.length_cons,
                List.length_nil] at lengths
              omega
          | zero =>
              simp only [if_true, List.length_append, List.length_replicate, List.length_cons,
                List.length_nil] at lengths
              omega
        · intro enough
          have short : width <= digits.length := enough.resolve_left nofun
          have none : width - digits.length = 0 := by omega
          have none' : width - ([0x2d] ++ digits : Text).length = 0 := by
            rw [List.length_append]
            omega
          rw [if_pos rfl, none, none']
          cases padding with
          | space => rfl
          | zero => rfl
  · have refused : kErrorTooWide ≠ cSignedDec padding width value := by
      rw [not_or, not_not] at allows
      rcases allows with ⟨notSpace, rfl⟩
      rcases Ujson.decimal_cons value.toInt.natAbs with ⟨c, digits, same, digit⟩
      cases padding with
      | space => exact absurd rfl notSpace
      | zero =>
          unfold cSignedDec signText
          dsimp only
          rw [Nat.zero_sub, same]
          cases value.msb with
          | true => exact fun text => absurd (List.cons.inj text).1 (by decide)
          | false =>
              intro text
              rw [<- (List.cons.inj text).1] at digit
              cases digit
    rw [if_neg allows, Option.some.injEq]
    exact iff_of_false refused (fun both => allows both.1)

theorem signedDec_iff_negative :
    fprintfText (specifierFormat [] .zero 5 kSignedDec1) [.word (-42)] =
        some (cSignedDec .zero 5 (-42)) ↔
      (Padding.zero = .space ∨ 5 ≠ 0) ∧
      (0 <= (-42 : BitVec 32).toInt ∨
        5 <= (Ujson.decimal (-42 : BitVec 32).toInt.natAbs).length) := by
  have bound : 5 <= 32 := by decide
  exact signedDec_iff .zero bound (-42)

/-- `%5d` of -42 is printed in six characters, with the sign in the first one. -/
theorem signedDec_apart : ¬ forall (padding : Padding) (width : Nat) (value : BitVec 32),
    width <= 32 -> fprintfText (specifierFormat [] padding width kSignedDec1) [.word value] =
      some (cSignedDec padding width value) := by
  intro always
  have printed : fprintfText (specifierFormat [] .space 5 kSignedDec1) [.word (-42)] =
      some (ascii "-   42") := by decide +kernel
  have expected : cSignedDec .space 5 (-42) = ascii "  -42" := by decide +kernel
  have same := always .space 5 (-42) (by decide)
  rw [printed, expected] at same
  exact absurd same (by decide)

/-! ## Byte strings -/

/-- The specifiers for a hex dump: in lower or upper case, beginning with the last
byte or with the first. -/
inductive DumpType where
  | x
  | X
  | y
  | Y
deriving DecidableEq

namespace DumpType

def char : DumpType -> BitVec 8
  | x => kUnsignedHexLow
  | X => kUnsignedHexHigh
  | y => kHexLeLow
  | Y => kHexLeHigh

def glyphs : DumpType -> Text
  | x | y => kDigitsLow
  | X | Y => kDigitsHigh

def bigEndian : DumpType -> Bool
  | x | X => true
  | y | Y => false

/-- Two digits for each byte, in the order of the specifier. -/
def digits (type : DumpType) (bytes : Text) : Text :=
  (if type.bigEndian then bytes.reverse else bytes).flatMap (hexByte type.glyphs)

end DumpType

theorem DumpType.digits_length (type : DumpType) (bytes : Text) :
    (type.digits bytes).length = 2 * bytes.length := by
  unfold DumpType.digits
  rw [flatMap_hexByte_length]
  split
  · rw [List.length_reverse]
  · rfl

/-- No percent sign is among the digits. -/
theorem DumpType.plain (type : DumpType) (bytes : Text) : kPercent ∉ type.digits bytes := by
  have glyphs : forall n, n < 16 -> type.glyphs.getD n 0 ≠ kPercent := by
    cases type <;> decide
  intro inside
  rcases List.mem_flatMap.mp inside with ⟨byte, -, inside⟩
  have high : ((byte >>> 4) &&& 0xf).toNat < 16 := by
    rw [BitVec.toNat_and]
    exact Nat.lt_succ_of_le Nat.and_le_right
  have low : (byte &&& 0xf).toNat < 16 := by
    rw [BitVec.toNat_and]
    exact Nat.lt_succ_of_le Nat.and_le_right
  rcases List.mem_cons.mp inside with same | inside
  · exact glyphs _ high same.symm
  · exact glyphs _ low (List.mem_singleton.mp inside).symm

/-- Digits that are padded up to a width. -/
def paddedDump (type : DumpType) (padding : Padding) (width : Nat) (bytes : Text) : Text :=
  List.replicate (max width (2 * bytes.length) - 2 * bytes.length) padding.char ++
    type.digits bytes

theorem DumpType.endsSpecifier (type : DumpType) : EndsSpecifier [bang] type.char := by
  cases type <;> exact ⟨Or.inr rfl, by decide, by decide, by decide⟩

theorem padLoop_flatten (padding : BitVec 8) {fuel width : Nat} (enough : width <= fuel) :
    (padLoop padding fuel width).flatten = List.replicate width padding := by
  induction fuel generalizing width with
  | zero =>
      rw [Nat.le_zero.mp enough]
      rfl
  | succ fuel ih =>
      rw [padLoop]
      by_cases none : width = 0
      · rw [if_pos none, none]
        rfl
      · rw [if_neg none]
        dsimp only
        have some : 0 < (if 32 < width then 32 else width) ∧
            (if 32 < width then 32 else width) <= width := by
          split
          · omega
          · omega
        rw [List.flatten_cons, ih (by omega), List.replicate_append_replicate]
        congr 1
        omega

/-- The padding makes up for what the number of bytes lacks of the width. -/
theorem hexDump_flatten {cells : Text} {len : BitVec 32} (held : len.toNat <= cells.length)
    (bound : width <= 32) (padding : BitVec 8) (bigEndian : Bool) (glyphs : Text) :
    (hexDump cells len (.ofNat 32 width) padding bigEndian glyphs).map List.flatten =
      some (List.replicate (width - len.toNat) padding ++
        (if bigEndian then (cells.take len.toNat).reverse else cells.take len.toNat).flatMap
          (hexByte glyphs)) := by
  have value : (BitVec.ofNat 32 width).toNat = width := by
    rw [BitVec.toNat_ofNat, Nat.mod_eq_of_lt (by omega)]
  unfold hexDump firstChars
  rw [if_pos held, Option.map_some, Option.map_some, List.flatten_append, dumpLoop_flatten]
  congr 2
  by_cases short : len < .ofNat 32 width
  · have less : len.toNat < width := by
      rw [BitVec.lt_def, value] at short
      exact short
    have missing : (BitVec.ofNat 32 width - len).toNat = width - len.toNat := by
      rw [BitVec.toNat_sub_of_le (Nat.le_of_lt short), value]
    rw [if_pos short, missing]
    exact padLoop_flatten padding (Nat.le_refl _)
  · have none : width - len.toNat = 0 := by
      rw [BitVec.lt_def, value] at short
      omega
    rw [if_neg short, none]
    rfl

theorem processSpecifier_dump (type : DumpType) (padding : BitVec 8) {cells : Text}
    {len : BitVec 32} (held : len.toNat <= cells.length) (bound : width <= 32)
    (address : BitVec 32) :
    (processSpecifier ⟨type.char, .ofNat 32 width, padding, true⟩
      [.size len, .pointer address cells]).map (fun printed => printed.1.flatten) =
    some (List.replicate (width - len.toNat) padding ++ type.digits (cells.take len.toNat)) := by
  have printed : processSpecifier ⟨type.char, .ofNat 32 width, padding, true⟩
      [.size len, .pointer address cells] =
      (hexDump cells len (.ofNat 32 width) padding type.bigEndian type.glyphs).map
        (fun texts => (texts, [])) := by
    cases type <;> rfl
  have texts := hexDump_flatten held bound padding type.bigEndian type.glyphs
  rw [printed, Option.map_map]
  exact texts

/-- A hex dump is padded to its width if that is not 0 behind a zero, and if there
are no bytes or no fewer than the width. -/
theorem dumpWidth_iff (type : DumpType) (padding : Padding) (bound : width <= 32) {cells : Text}
    {len : BitVec 32} (held : len.toNat <= cells.length) (address : BitVec 32) :
    fprintfText (specifierFormat [bang] padding width type.char)
        [.size len, .pointer address cells] =
        some (paddedDump type padding width (cells.take len.toNat)) ↔
      (padding = .space ∨ width ≠ 0) ∧ (len.toNat = 0 ∨ width <= len.toNat) := by
  have printed := processSpecifier_dump type (if width = 0 then 0 else padding.char) held bound
    address
  have length : (cells.take len.toNat).length = len.toNat := List.length_take_of_le held
  have digits := type.digits_length (cells.take len.toNat)
  rw [length] at digits
  rw [fprintfText_specifierFormat type.endsSpecifier padding bound]
  unfold paddedDump
  rw [length]
  by_cases allows : padding = .space ∨ width ≠ 0
  · rw [if_pos allows]
    refine Iff.trans ?_ (and_iff_right allows).symm
    change (processSpecifier ⟨type.char, .ofNat 32 width, _, true⟩ _).map _ = _ ↔ _
    rw [printed, Option.some.injEq]
    generalize type.digits (cells.take len.toNat) = text at digits ⊢
    constructor
    · intro same
      have lengths := congrArg List.length same
      rw [List.length_append, List.length_append, List.length_replicate,
        List.length_replicate] at lengths
      omega
    · rintro (none | enough)
      · rw [none, Nat.mul_zero, Nat.sub_zero, Nat.sub_zero, Nat.max_zero]
        by_cases unpadded : width = 0
        · rw [unpadded]
          rfl
        · rw [if_neg unpadded]
      · have front : width - len.toNat = 0 := by omega
        have front' : max width (2 * len.toNat) - 2 * len.toNat = 0 := by omega
        rw [front, front']
        rfl
  · rw [if_neg allows]
    refine iff_of_false (fun same => ?_) (fun both => allows both.1)
    rw [not_or, not_not] at allows
    have none : max width (2 * len.toNat) - 2 * len.toNat = 0 := by omega
    rw [none, Option.some.injEq] at same
    apply type.plain (cells.take len.toNat)
    have text : kErrorTooWide = type.digits (cells.take len.toNat) := same
    change kPercent ∈ type.digits _
    rw [<- text]
    exact List.mem_cons_self

theorem dumpWidth_iff_long :
    fprintfText (specifierFormat [bang] .zero 2 kUnsignedHexLow)
        [.size 3, .pointer 0 [0x0a, 0xbc, 0xff]] =
        some (paddedDump .x .zero 2 (([0x0a, 0xbc, 0xff] : Text).take 3)) ↔
      (Padding.zero = .space ∨ 2 ≠ 0) ∧ (3 = 0 ∨ 2 <= 3) := by
  have held : (3 : BitVec 32).toNat <= ([0x0a, 0xbc, 0xff] : Text).length := by decide
  have bound : 2 <= 32 := by decide
  exact dumpWidth_iff .x .zero bound held 0

/-- Three bytes are printed in eight characters for a width of five. -/
theorem dumpWidth_apart : ¬ forall (type : DumpType) (padding : Padding) (width : Nat)
    (cells : Text) (len address : BitVec 32), width <= 32 -> len.toNat <= cells.length ->
    fprintfText (specifierFormat [bang] padding width type.char)
      [.size len, .pointer address cells] =
      some (paddedDump type padding width (cells.take len.toNat)) := by
  intro always
  have printed : fprintfText (specifierFormat [bang] .space 5 kUnsignedHexLow)
      [.size 3, .pointer 0 [0x0a, 0xbc, 0xff]] = some (ascii "  ffbc0a") := by decide +kernel
  have expected : paddedDump .x .space 5 (([0x0a, 0xbc, 0xff] : Text).take 3) =
      ascii "ffbc0a" := by decide +kernel
  have same := always .x .space 5 [0x0a, 0xbc, 0xff] 3 0 (by decide) (by decide)
  change fprintfText (specifierFormat [bang] .space 5 kUnsignedHexLow) _ =
    some (paddedDump .x .space 5 (([0x0a, 0xbc, 0xff] : Text).take 3)) at same
  rw [printed, expected] at same
  exact absurd same (by decide)

end Print
end SunburstChip
