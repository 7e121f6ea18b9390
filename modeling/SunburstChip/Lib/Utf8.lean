import Mathlib.Data.List.Infix

namespace SunburstChip

/-!
# Text from bytes

A decoder of UTF-8 that replaces what is not well formed, one character for each
maximal part of a sequence.  It is a machine that takes one byte after the other,
so that the decoding of a whole is that of a part and then of the rest from where
the part has left the machine.  Cutting bytes in two cuts the text in two unless
the cut is inside of a sequence, and then the text gets longer.
-/

namespace Utf8

abbrev Byte := BitVec 8

/-- `U+FFFD` -/
def replacement : Char := Char.ofNat 0xfffd

/-- What the next byte of a sequence may be. -/
inductive Range where
  | any
  | afterE0
  | afterED
  | afterF0
  | afterF4
deriving DecidableEq

def Range.low : Range -> Byte
  | .afterE0 => 0xa0
  | .afterF0 => 0x90
  | .any | .afterED | .afterF4 => 0x80

def Range.high : Range -> Byte
  | .afterED => 0x9f
  | .afterF4 => 0x8f
  | .any | .afterE0 | .afterF0 => 0xbf

def Range.Accepts (range : Range) (byte : Byte) : Prop := range.low <= byte ∧ byte <= range.high

instance (range : Range) (byte : Byte) : Decidable (range.Accepts byte) :=
  inferInstanceAs (Decidable (_ ∧ _))

/-- Between two sequences, or within one that needs more bytes after the next one. -/
inductive State where
  | start
  | within (more : Nat) (range : Range) (code : Nat)
deriving DecidableEq

/-- The state behind the first byte of a sequence of several bytes. -/
def lead (byte : Byte) : Option State :=
  if 0xc2 <= byte ∧ byte <= 0xdf then some (.within 0 .any (byte.toNat % 0x20))
  else if byte = 0xe0 then some (.within 1 .afterE0 0)
  else if byte = 0xed then some (.within 1 .afterED 0xd)
  else if 0xe1 <= byte ∧ byte <= 0xef then some (.within 1 .any (byte.toNat % 0x10))
  else if byte = 0xf0 then some (.within 2 .afterF0 0)
  else if 0xf1 <= byte ∧ byte <= 0xf3 then some (.within 2 .any (byte.toNat % 0x8))
  else if byte = 0xf4 then some (.within 2 .afterF4 4)
  else none

/-- A byte between two sequences: what is emitted, and the state behind it. -/
def opening (byte : Byte) : List Char × State :=
  if byte < 0x80 then ([Char.ofNat byte.toNat], .start)
  else
    match lead byte with
    | some state => ([], state)
    | none => ([replacement], .start)

/-- A byte in any state.  One that does not continue the sequence ends it and is looked at again. -/
def step : State -> Byte -> List Char × State
  | .start, byte => opening byte
  | .within more range code, byte =>
      if range.Accepts byte then
        let code := code * 0x40 + byte.toNat % 0x40
        match more with
        | 0 => ([Char.ofNat code], .start)
        | more + 1 => ([], .within more .any code)
      else (replacement :: (opening byte).1, (opening byte).2)

/-- What is emitted for a sequence that the bytes end in. -/
def flush : State -> List Char
  | .start => []
  | .within .. => [replacement]

/-- The characters that are emitted for bytes before their end is known. -/
def emitted : State -> List Byte -> List Char
  | _, [] => []
  | state, byte :: bytes => (step state byte).1 ++ emitted (step state byte).2 bytes

/-- The state behind bytes. -/
def reached : State -> List Byte -> State
  | state, [] => state
  | state, byte :: bytes => reached (step state byte).2 bytes

/-- The text of bytes from a state on. -/
def decodeFrom (state : State) (bytes : List Byte) : List Char :=
  emitted state bytes ++ flush (reached state bytes)

/-- The text of bytes. -/
def decode (bytes : List Byte) : List Char := decodeFrom .start bytes

example : decode [0x61, 0xe2, 0x82, 0xac, 0xff, 0xe2, 0x82, 0x62, 0xf0] =
    ['a', '€', replacement, replacement, 'b', replacement] := by decide

/-! ## One part after the other -/

section

variable (state : State) (byte : Byte) (bytes : List Byte)

theorem emitted_cons : emitted state (byte :: bytes) =
    (step state byte).1 ++ emitted (step state byte).2 bytes := rfl

theorem reached_cons : reached state (byte :: bytes) = reached (step state byte).2 bytes := rfl

theorem decodeFrom_cons : decodeFrom state (byte :: bytes) =
    (step state byte).1 ++ decodeFrom (step state byte).2 bytes := by
  unfold decodeFrom
  rw [emitted_cons, reached_cons, List.append_assoc]

end

theorem decodeFrom_append (state : State) (front back : List Byte) :
    decodeFrom state (front ++ back) =
      emitted state front ++ decodeFrom (reached state front) back := by
  induction front generalizing state with
  | nil => rfl
  | cons byte front ih =>
      rw [List.cons_append, decodeFrom_cons, ih, emitted_cons, reached_cons, List.append_assoc]

/-- A byte that does not continue a sequence is looked at as if it began one. -/
theorem step_refused {more code : Nat} {range : Range} {byte : Byte}
    (refused : ¬ range.Accepts byte) : step (.within more range code) byte =
      (replacement :: (opening byte).1, (opening byte).2) :=
  if_neg refused

/-- One that does continue it either ends it with a character or does not. -/
theorem step_accepted {more code : Nat} {range : Range} {byte : Byte}
    (accepts : range.Accepts byte) :
    (Exists fun char => step (.within more range code) byte = ([char], .start)) ∨
      Exists fun more' => Exists fun range' => Exists fun code' =>
        step (.within more range code) byte = ([], .within more' range' code') := by
  unfold step
  dsimp only
  rw [if_pos accepts]
  cases more with
  | zero => exact Or.inl ⟨_, rfl⟩
  | succ more => exact Or.inr ⟨_, _, _, rfl⟩

/-! ## No more characters than bytes -/

/-- The characters that a state is going to emit, if no byte follows. -/
def held (state : State) : Nat := (flush state).length

theorem opening_length (byte : Byte) : (opening byte).1.length + held (opening byte).2 <= 1 := by
  unfold opening
  split
  · exact Nat.le_refl 1
  · unfold lead
    split_ifs <;> exact Nat.le_refl 1

theorem step_length (state : State) (byte : Byte) :
    (step state byte).1.length + held (step state byte).2 <= 1 + held state := by
  cases state with
  | start => exact opening_length byte
  | within more range code =>
      have first := opening_length byte
      by_cases accepts : range.Accepts byte
      · rcases @step_accepted more code range byte accepts with ⟨char, ends⟩ | ⟨_, _, _, goes⟩
        · rw [ends]
          exact Nat.le_succ 1
        · rw [goes]
          exact Nat.le_succ 1
      · rw [step_refused accepts]
        change (opening byte).1.length + 1 + held (opening byte).2 <= 1 + 1
        omega

theorem emitted_length (state : State) (bytes : List Byte) :
    (emitted state bytes).length + held (reached state bytes) <= bytes.length + held state := by
  induction bytes generalizing state with
  | nil => simp [emitted, reached]
  | cons byte bytes ih =>
      have first := step_length state byte
      have rest := ih (step state byte).2
      rw [emitted_cons, reached_cons, List.length_append, List.length_cons]
      omega

theorem decode_length (bytes : List Byte) : (decode bytes).length <= bytes.length := by
  have bound := emitted_length .start bytes
  unfold decode decodeFrom
  rw [List.length_append]
  exact bound

/-! ## Cutting bytes in two -/

/-- A byte that continues a sequence is none that begins one. -/
theorem opening_of_accepts {range : Range} {byte : Byte} (accepts : range.Accepts byte) :
    opening byte = ([replacement], .start) := by
  have bounds : 0x80 <= byte ∧ byte <= 0xbf := by
    rcases accepts with ⟨low, high⟩
    cases range <;> simp only [Range.low, Range.high] at low high <;> bv_omega
  have large : ¬ byte < 0x80 := by bv_omega
  have none : lead byte = none := by
    unfold lead
    rw [if_neg (by bv_omega), if_neg (by bv_omega), if_neg (by bv_omega), if_neg (by bv_omega),
      if_neg (by bv_omega), if_neg (by bv_omega), if_neg (by bv_omega)]
  unfold opening
  rw [if_neg large, none]

/-- The bytes from a state within a sequence on: some of them continue the sequence, which ends
with one character, while on their own each of them is replaced. -/
theorem decodeFrom_within (bytes : List Byte) (more code : Nat) (range : Range) :
    Exists fun count => Exists fun char => Exists fun rest =>
      decodeFrom (.within more range code) bytes = char :: decode rest ∧
        decode bytes = List.replicate count replacement ++ decode rest ∧
        (count = 0 -> char = replacement ∧ rest = bytes) := by
  induction bytes generalizing more range code with
  | nil => exact ⟨0, replacement, [], rfl, rfl, fun _ => ⟨rfl, rfl⟩⟩
  | cons byte bytes ih =>
      by_cases accepts : range.Accepts byte
      · have alone : decode (byte :: bytes) = replacement :: decode bytes := by
          unfold decode
          rw [decodeFrom_cons]
          change (opening byte).1 ++ decodeFrom (opening byte).2 bytes = _
          rw [opening_of_accepts accepts]
          rfl
        rw [decodeFrom_cons, alone]
        rcases @step_accepted more code range byte accepts with
          ⟨char, ends⟩ | ⟨more', range', code', goes⟩
        · rw [ends]
          exact ⟨1, char, bytes, rfl, rfl, nofun⟩
        · rcases ih more' code' range' with ⟨count, char, rest, whole, split, _⟩
          rw [goes]
          refine ⟨count + 1, char, rest, whole, ?_, nofun⟩
          rw [split]
          rfl
      · refine ⟨0, replacement, byte :: bytes, ?_, rfl, fun _ => ⟨rfl, rfl⟩⟩
        rw [decodeFrom_cons, step_refused accepts]
        change replacement :: ((opening byte).1 ++ decodeFrom (opening byte).2 bytes) = _
        unfold decode
        rw [decodeFrom_cons]
        rfl

/-- A cut that is not inside of a sequence cuts the text.  One that is replaces the rest of the
sequence byte by byte. -/
theorem decode_cut (front back : List Byte) :
    decode (front ++ back) = decode front ++ decode back ∨
      Exists fun start => Exists fun char => Exists fun count => Exists fun rest =>
        decode (front ++ back) = start ++ char :: rest ∧
          start.length + 1 <= front.length ∧
          decode front = start ++ [replacement] ∧
          decode back = List.replicate (count + 1) replacement ++ rest := by
  have whole := decodeFrom_append .start front back
  have bound := emitted_length .start front
  unfold decode at *
  cases state : reached .start front with
  | start =>
      refine Or.inl ?_
      unfold decodeFrom at *
      rw [whole, state]
      simp [flush]
  | within more range code =>
      rw [state] at whole bound
      have front' : decodeFrom .start front = emitted .start front ++ [replacement] := by
        unfold decodeFrom
        rw [state]
        rfl
      rcases decodeFrom_within back more code range with ⟨count, char, rest, goes, alone, none⟩
      unfold decode at goes alone
      rw [goes] at whole
      cases count with
      | zero =>
          rcases none rfl with ⟨rfl, rfl⟩
          refine Or.inl ?_
          rw [whole, front', List.append_assoc]
          rfl
      | succ count => exact Or.inr ⟨_, char, count, _, whole, bound, front', alone⟩

end Utf8
end SunburstChip
