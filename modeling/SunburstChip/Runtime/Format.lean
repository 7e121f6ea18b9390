import SunburstChip.Runtime.Print

namespace SunburstChip
namespace Print

/-!
# Format specifiers

The scanner of format strings in `print.c`.  A string is the list of the cells
from the one a pointer is at.  Reading a cell behind the last of them gives
nothing, so that a result also says that nothing behind the terminating NUL was
looked at.
-/

/-- The cells of a string, or a text handed to a sink. -/
abbrev Text := List (BitVec 8)

/-- `kPercent` -/
abbrev kPercent : BitVec 8 := 0x25

/-- The mark of a specifier that C does not have, `!`. -/
abbrev bang : BitVec 8 := 0x21

/-- `kErrorNul` -/
def kErrorNul : Text := ascii "%<unexpected nul>"

/-- `kUnknownSpec` -/
def kUnknownSpec : Text := ascii "%<unknown spec>"

/-- `kErrorTooWide` -/
def kErrorTooWide : Text := ascii "%<bad width>"

/-! ## Scanning -/

/-- The loop of `consume_until_percent`: the text in front of the first percent
sign or NUL, and the cells from there. -/
def untilPercent : Text -> Option (Text × Text)
  | [] => none
  | c :: format =>
      if c = 0 ∨ c = kPercent then some ([], c :: format)
      else (untilPercent format).map (fun found => (c :: found.1, found.2))

/-- `format_specifier_t` -/
structure FormatSpecifier where
  type : BitVec 8
  width : BitVec 32
  padding : BitVec 8
  isNonstd : Bool
deriving DecidableEq

/-- Whether a character is between `'0'` and `'9'`. -/
def isDigit (c : BitVec 8) : Bool := decide (0x30 <= c ∧ c <= 0x39)

/-- What one digit does to a specifier. -/
def FormatSpecifier.digit (spec : FormatSpecifier) (c : BitVec 8) : FormatSpecifier :=
  if spec.padding = 0 ∧ c = 0x30 then { spec with padding := 0x30 }
  else
    { spec with
      padding := if spec.padding = 0 then 0x20 else spec.padding
      width := spec.width * 10 + (c - 0x30).setWidth 32 }

/-- The loop of `consume_format_specifier` over the digits of the width, with
the cell that ends it and the cells behind. -/
def widthLoop : Text -> FormatSpecifier -> Option (FormatSpecifier × BitVec 8 × Text)
  | [], _ => none
  | c :: format, spec =>
      if c = 0 then some (spec, c, format)
      else if isDigit c then widthLoop format (spec.digit c)
      else some (spec, c, format)

/-- What `consume_format_specifier` comes to, with the position it leaves. -/
inductive Consumed where
  | accepted (spec : FormatSpecifier) (format : Text)
  | refused (marker : Text) (format : Text)
deriving DecidableEq

/-- The cells from the position that is left. -/
def Consumed.position : Consumed -> Text
  | .accepted _ format | .refused _ format => format

/-- `consume_format_specifier` -/
def consumeFormatSpecifier : Text -> Option Consumed
  | [] => none
  | _ :: format =>
      let isNonstd := decide (format.head? = some bang)
      let format := if isNonstd then format.tail else format
      (widthLoop format ⟨0, 0, 0, isNonstd⟩).map (fun (spec, c, behind) =>
        if c = 0 then .refused kErrorNul format
        else if (spec.width = 0 ∧ spec.padding ≠ 0) ∨ 32 < spec.width then
          .refused kErrorTooWide format
        else .accepted { spec with type := c } behind)

/-! ## The grammar of widths -/

/-- What stands behind the percent sign and the mark, if there is one. -/
def afterBang (body : Text) : Text := if body.head? = some bang then body.tail else body

/-- The digits of the width. -/
def widthDigits (body : Text) : Text := (afterBang body).takeWhile isDigit

/-- The type of the specifier and what stands behind it. -/
def fromType (body : Text) : Text := (afterBang body).dropWhile isDigit

/-- A number of any number of digits, behind one that has been read. -/
def numberFrom (n : Nat) (digits : Text) : Nat :=
  digits.foldl (fun n c => n * 10 + (c.toNat - 0x30)) n

/-- The padding that the first digit of a width selects. -/
def paddingOf : Text -> BitVec 8
  | [] => 0
  | c :: _ => if c = 0x30 then 0x30 else 0x20

/-- The specifier is complete, and its width is absent or between 1 and 32. -/
def WellSpecified (body : Text) : Prop :=
  fromType body ≠ [] ∧ (widthDigits body = [] ∨
    (1 <= numberFrom 0 (widthDigits body) ∧ numberFrom 0 (widthDigits body) <= 32))

/-- The cells behind a specifier: behind its type, or the NUL that cuts it short. -/
def specifierEnd (body : Text) : Text := (fromType body).tail ++ [0]

/-- The text behind a percent sign is scanned within its terminating NUL, as a
specifier exactly if it is well specified, with the width that is written, and
the position that is left is the end of the specifier in any case. -/
def WidthGrammar (body : Text) : Prop :=
  Exists fun consumed =>
    consumeFormatSpecifier (kPercent :: (body ++ [0])) = some consumed ∧
    ((Exists fun spec => Exists fun format => consumed = .accepted spec format) ↔
      WellSpecified body) ∧
    (forall spec format, consumed = .accepted spec format ->
      spec.width.toNat = numberFrom 0 (widthDigits body) ∧
      spec.padding = paddingOf (widthDigits body) ∧
      spec.isNonstd = decide (body.head? = some bang) ∧
      (fromType body).head? = some spec.type) ∧
    consumed.position = specifierEnd body

/-! ## What the scanner reads -/

variable {c : BitVec 8} {spec : FormatSpecifier} {digits : Text}

theorem setWidth_digit (digit : isDigit c = true) :
    ((c - 0x30).setWidth 32) = .ofNat 32 (c.toNat - 0x30) := by
  have range : 0x30 <= c ∧ c <= 0x39 := of_decide_eq_true digit
  have least : 0x30 <= c.toNat := BitVec.le_def.mp range.1
  apply BitVec.eq_of_toNat_eq
  rw [BitVec.toNat_setWidth, BitVec.toNat_sub_of_le range.1, BitVec.toNat_ofNat]
  rfl

theorem digit_padded (padded : spec.padding ≠ 0) (digit : isDigit c = true) :
    spec.digit c =
      { spec with width := .ofNat 32 (spec.width.toNat * 10 + (c.toNat - 0x30)) } := by
  have other : ¬ (spec.padding = 0 ∧ c = 0x30) := fun both => padded both.1
  unfold FormatSpecifier.digit
  rw [if_neg other, if_neg padded, setWidth_digit digit, BitVec.ofNat_add, BitVec.ofNat_mul,
    BitVec.ofNat_toNat, BitVec.setWidth_eq]
  rfl

theorem numberFrom_mod (n : Nat) (digits : Text) :
    numberFrom (n % 2 ^ 32) digits % 2 ^ 32 = numberFrom n digits % 2 ^ 32 := by
  induction digits generalizing n with
  | nil => exact Nat.mod_mod n _
  | cons d digits ih =>
      have step : (n % 2 ^ 32 * 10 + (d.toNat - 0x30)) % 2 ^ 32 =
          (n * 10 + (d.toNat - 0x30)) % 2 ^ 32 := by omega
      change numberFrom (n % 2 ^ 32 * 10 + (d.toNat - 0x30)) digits % 2 ^ 32 =
        numberFrom (n * 10 + (d.toNat - 0x30)) digits % 2 ^ 32
      rw [<- ih, step, ih]

/-- Once the padding is known every digit goes to the width, modulo the word. -/
theorem foldl_digit_padded (padded : spec.padding ≠ 0)
    (all : forall c, c ∈ digits -> isDigit c = true) :
    digits.foldl FormatSpecifier.digit spec =
      { spec with width := .ofNat 32 (numberFrom spec.width.toNat digits) } := by
  induction digits generalizing spec with
  | nil => simp [numberFrom]
  | cons c digits ih =>
      have behind : forall d, d ∈ digits -> isDigit d = true :=
        fun d inside => all d (List.mem_cons_of_mem c inside)
      rw [List.foldl_cons, digit_padded padded (all c List.mem_cons_self),
        ih (by exact padded) behind]
      congr 1
      apply BitVec.eq_of_toNat_eq
      rw [BitVec.toNat_ofNat, BitVec.toNat_ofNat, BitVec.toNat_ofNat, numberFrom_mod]
      rfl

/-- The specifier that the digits of a width make. -/
theorem foldl_digit (isNonstd : Bool) (all : forall c, c ∈ digits -> isDigit c = true) :
    digits.foldl FormatSpecifier.digit ⟨0, 0, 0, isNonstd⟩ =
      ⟨0, .ofNat 32 (numberFrom 0 digits), paddingOf digits, isNonstd⟩ := by
  cases digits with
  | nil => rfl
  | cons c digits =>
      have behind : forall d, d ∈ digits -> isDigit d = true :=
        fun d inside => all d (List.mem_cons_of_mem c inside)
      have zeroes : (0x30 : BitVec 8) ≠ 0 := by decide
      have spaces : (0x20 : BitVec 8) ≠ 0 := by decide
      rw [List.foldl_cons, paddingOf]
      by_cases zero : c = 0x30
      · have padded : (⟨0, 0, 0x30, isNonstd⟩ : FormatSpecifier).padding ≠ 0 := zeroes
        rw [zero, if_pos rfl]
        exact foldl_digit_padded padded behind
      · have read : FormatSpecifier.digit ⟨0, 0, 0, isNonstd⟩ c =
            ⟨0, .ofNat 32 (c.toNat - 0x30), 0x20, isNonstd⟩ := by
          have other : ¬ ((0 : BitVec 8) = 0 ∧ c = 0x30) := fun both => zero both.2
          unfold FormatSpecifier.digit
          rw [if_neg other, setWidth_digit (all c List.mem_cons_self), if_pos rfl]
          simp
        have small : (c.toNat - 0x30) % 2 ^ 32 = 0 * 10 + (c.toNat - 0x30) := by
          have bound := c.isLt
          omega
        rw [read, foldl_digit_padded (by exact spaces) behind, if_neg zero, BitVec.toNat_ofNat,
          small]
        rfl

theorem widthLoop_digits (spec : FormatSpecifier) (behind : Text)
    (all : forall d, d ∈ digits -> isDigit d = true) (other : isDigit c = false) :
    widthLoop (digits ++ c :: behind) spec =
      some (digits.foldl FormatSpecifier.digit spec, c, behind) := by
  induction digits generalizing spec with
  | nil => simp [widthLoop, other]
  | cons d digits ih =>
      have digit := all d List.mem_cons_self
      have written : d ≠ 0 := by
        intro zero
        rw [zero] at digit
        exact absurd digit (by decide)
      rw [List.cons_append, widthLoop, if_neg written, if_pos digit,
        ih _ (fun e inside => all e (List.mem_cons_of_mem d inside)), List.foldl_cons]

/-- What the scanner makes of the digits of a width and the cell behind. -/
def scanned (isNonstd : Bool) (format digits : Text) (c : BitVec 8) (behind : Text) : Consumed :=
  let width := BitVec.ofNat 32 (numberFrom 0 digits)
  if c = 0 then .refused kErrorNul format
  else if (width = 0 ∧ digits ≠ []) ∨ 32 < width then .refused kErrorTooWide format
  else .accepted ⟨c, width, paddingOf digits, isNonstd⟩ behind

theorem paddingOf_eq_zero : paddingOf digits = 0 ↔ digits = [] := by
  cases digits with
  | nil => simp [paddingOf]
  | cons c digits =>
      simp only [paddingOf, reduceCtorEq, iff_false]
      split
      · decide
      · decide

theorem consumeFormatSpecifier_eq (body : Text) (plain : 0 ∉ body) :
    Exists fun c => Exists fun behind =>
      fromType body ++ [0] = c :: behind ∧
      (c = 0 ↔ fromType body = []) ∧
      consumeFormatSpecifier (kPercent :: (body ++ [0])) =
        some (scanned (decide (body.head? = some bang)) (afterBang body ++ [0])
          (widthDigits body) c behind) := by
  have marked : decide ((body ++ [0]).head? = some bang) = decide (body.head? = some bang) := by
    cases body with
    | nil => rfl
    | cons c body => rfl
  have from' : (if decide (body.head? = some bang) = true then (body ++ [0]).tail
      else body ++ [0]) = afterBang body ++ [0] := by
    cases body with
    | nil => rfl
    | cons c body =>
        simp only [afterBang, List.cons_append, List.head?_cons, Option.some.injEq,
        decide_eq_true_eq]
        split
        · rfl
        · rfl
  have split : afterBang body ++ [0] = widthDigits body ++ (fromType body ++ [0]) := by
    rw [<- List.append_assoc]
    exact congrArg (· ++ [0]) List.takeWhile_append_dropWhile.symm
  have all : forall d, d ∈ widthDigits body -> isDigit d = true :=
    fun d inside => (List.all_eq_true.mp (List.all_takeWhile)) d inside
  have kept : 0 ∉ afterBang body := by
    unfold afterBang
    split
    · exact fun inside => plain (List.mem_of_mem_tail inside)
    · exact plain
  have read : forall c behind, isDigit c = false -> fromType body ++ [0] = c :: behind ->
      consumeFormatSpecifier (kPercent :: (body ++ [0])) =
        some (scanned (decide (body.head? = some bang)) (afterBang body ++ [0])
          (widthDigits body) c behind) := by
    intro c behind other shape
    unfold consumeFormatSpecifier
    simp only [marked, from']
    rw [split, shape, widthLoop_digits _ _ all other, foldl_digit _ all, <- shape, <- split]
    simp only [Option.map_some, scanned, ne_eq, paddingOf_eq_zero]
  cases rest : fromType body with
  | nil =>
      refine ⟨0, [], rfl, by simp, ?_⟩
      exact read 0 [] (by decide) (by rw [rest]; rfl)
  | cons c behind =>
      have inside : c ∈ afterBang body := by
        have here : c ∈ fromType body := by
          rw [rest]
          exact List.mem_cons_self
        exact (List.dropWhile_sublist _).subset here
      have other : isDigit c = false := by
        have stops := List.head?_dropWhile_not isDigit (afterBang body)
        have shape : (afterBang body).dropWhile isDigit = c :: behind := rest
        rw [shape] at stops
        exact stops
      refine ⟨c, behind ++ [0], rfl, ?_, ?_⟩
      · constructor
        · intro zero
          exact absurd (zero ▸ inside) kept
        · intro empty
          exact absurd empty (List.cons_ne_nil c behind)
      · exact read c (behind ++ [0]) other (by rw [rest]; rfl)

theorem scanned_accepted {isNonstd : Bool} {format behind rest : Text}
    (accepted : scanned isNonstd format digits c behind = .accepted spec rest) :
    spec = ⟨c, .ofNat 32 (numberFrom 0 digits), paddingOf digits, isNonstd⟩ ∧
      rest = behind := by
  unfold scanned at accepted
  dsimp only at accepted
  split at accepted
  · cases accepted
  · split at accepted
    · cases accepted
    · cases accepted
      exact ⟨rfl, rfl⟩

/-- The width is judged by what is left of it in the word. -/
theorem scanned_accepts (isNonstd : Bool) (format digits : Text) (c : BitVec 8) (behind : Text) :
    (Exists fun spec => Exists fun rest =>
      scanned isNonstd format digits c behind = .accepted spec rest) ↔
    c ≠ 0 ∧ (digits = [] ∨ (1 <= numberFrom 0 digits % 2 ^ 32 ∧
      numberFrom 0 digits % 2 ^ 32 <= 32)) := by
  have zero : BitVec.ofNat 32 (numberFrom 0 digits) = 0 ↔ numberFrom 0 digits % 2 ^ 32 = 0 := by
    constructor
    · intro same
      exact congrArg BitVec.toNat same
    · intro same
      exact BitVec.eq_of_toNat_eq same
  have wide : (32 : BitVec 32) < .ofNat 32 (numberFrom 0 digits) ↔
      32 < numberFrom 0 digits % 2 ^ 32 := by
    rw [BitVec.lt_def, BitVec.toNat_ofNat]
    rfl
  have absent : digits = [] -> numberFrom 0 digits % 2 ^ 32 = 0 := by
    intro empty
    rw [empty]
    rfl
  unfold scanned
  by_cases finished : c = 0
  · simp [finished]
  · simp only [finished, if_false, zero, wide, ne_eq, not_false_eq_true, true_and]
    by_cases bad : (numberFrom 0 digits % 2 ^ 32 = 0 ∧ ¬ digits = []) ∨
        32 < numberFrom 0 digits % 2 ^ 32
    · simp only [bad, if_true, reduceCtorEq, exists_false, false_iff]
      rintro (empty | range)
      · have value := absent empty
        rcases bad with none | wide
        · exact none.2 empty
        · omega
      · omega
    · simp only [bad, if_false, Consumed.accepted.injEq]
      refine iff_of_true ⟨_, _, rfl, rfl⟩ ?_
      by_cases empty : digits = []
      · exact Or.inl empty
      · right
        constructor
        · by_contra none
          exact bad (Or.inl ⟨by omega, empty⟩)
        · by_contra wide
          exact bad (Or.inr (by omega))

theorem scanned_refused {isNonstd : Bool} {format behind : Text}
    (refused : forall spec rest, scanned isNonstd format digits c behind ≠ .accepted spec rest) :
    (scanned isNonstd format digits c behind).position = format := by
  unfold scanned at refused ⊢
  dsimp only at refused ⊢
  split
  · rfl
  · next some =>
      rw [if_neg some] at refused
      split
      · rfl
      · next fine =>
          rw [if_neg fine] at refused
          exact absurd rfl (refused _ _)

/-- Nothing but the end of a specifier that has no characters is its own end. -/
theorem specifierEnd_eq_iff (body : Text) :
    afterBang body ++ [0] = specifierEnd body ↔ afterBang body = [] := by
  have split : (widthDigits body).length + (fromType body).length = (afterBang body).length := by
    rw [<- List.length_append]
    exact congrArg List.length List.takeWhile_append_dropWhile
  constructor
  · intro same
    have lengths := congrArg List.length same
    rw [specifierEnd, List.length_append, List.length_append, List.length_tail] at lengths
    exact List.eq_nil_of_length_eq_zero (by omega)
  · intro empty
    rw [specifierEnd, fromType, empty]
    rfl

/-- The scanner follows the grammar of widths where a specifier is well specified, or has nothing
behind the percent sign and the mark. -/
theorem widthGrammar_iff (body : Text) (plain : 0 ∉ body) :
    WidthGrammar body ↔ WellSpecified body ∨ afterBang body = [] := by
  rcases consumeFormatSpecifier_eq body plain with ⟨c, behind, shape, complete, result⟩
  have accepts := scanned_accepts (decide (body.head? = some bang)) (afterBang body ++ [0])
    (widthDigits body) c behind
  rw [ne_eq, complete] at accepts
  constructor
  · rintro ⟨consumed, same, exactly, -, position⟩
    rw [result, Option.some.injEq] at same
    subst same
    by_cases taken : WellSpecified body
    · exact Or.inl taken
    · right
      rw [<- specifierEnd_eq_iff, <- position]
      exact (scanned_refused fun spec rest accepted =>
        taken (exactly.mp ⟨spec, rest, accepted⟩)).symm
  · rintro (⟨typed, range⟩ | empty)
    · have small : numberFrom 0 (widthDigits body) % 2 ^ 32 = numberFrom 0 (widthDigits body) := by
        rcases range with none | range
        · rw [none]
          rfl
        · exact Nat.mod_eq_of_lt (by omega)
      rw [small] at accepts
      rcases accepts.mpr ⟨typed, range⟩ with ⟨spec, rest, accepted⟩
      rcases scanned_accepted accepted with ⟨rfl, rfl⟩
      have whole : (fromType body).head? = some c ∧ specifierEnd body = rest := by
        unfold specifierEnd
        cases same : fromType body with
        | nil => exact absurd same typed
        | cons first others =>
            rw [same] at shape
            rcases List.cons.inj shape with ⟨rfl, rfl⟩
            exact ⟨rfl, rfl⟩
      refine ⟨_, result, iff_of_true ⟨_, _, accepted⟩ ⟨typed, range⟩, ?_, ?_⟩
      · intro spec format same
        rw [accepted] at same
        cases same
        exact ⟨by rw [BitVec.toNat_ofNat, small], rfl, rfl, whole.1⟩
      · rw [accepted]
        exact whole.2.symm
    · -- There is neither a width nor a type.
      have untyped : fromType body = [] := by
        rw [fromType, empty]
        rfl
      have refused : forall spec rest, scanned (decide (body.head? = some bang))
          (afterBang body ++ [0]) (widthDigits body) c behind ≠ .accepted spec rest :=
        fun spec rest accepted => (accepts.mp ⟨spec, rest, accepted⟩).1 untyped
      refine ⟨_, result, iff_of_false ?_ (fun specified => specified.1 untyped), ?_, ?_⟩
      · rintro ⟨spec, rest, accepted⟩
        exact refused spec rest accepted
      · exact fun spec rest accepted => absurd accepted (refused spec rest)
      · rw [scanned_refused refused]
        exact (specifierEnd_eq_iff body).mpr empty

theorem widthGrammar_iff_padded :
    WidthGrammar (ascii "08x") ↔ WellSpecified (ascii "08x") ∨ afterBang (ascii "08x") = [] :=
  widthGrammar_iff (ascii "08x") (by decide)

/-- `%4294967297d` is taken for `%1d`. -/
theorem widthGrammar_wrapped : ¬ WidthGrammar (ascii "4294967297d") := by
  rintro ⟨consumed, same, exactly, _⟩
  have taken : consumeFormatSpecifier (kPercent :: (ascii "4294967297d" ++ [0])) =
      some (.accepted ⟨0x64, 1, 0x20, false⟩ [0]) := by decide
  rw [taken, Option.some.injEq] at same
  have specified := exactly.mp ⟨_, _, same.symm⟩
  exact absurd specified (by unfold WellSpecified; decide)

end Print
end SunburstChip
