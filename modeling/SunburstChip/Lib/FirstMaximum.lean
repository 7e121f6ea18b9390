import Mathlib.Order.Lattice
import Mathlib.Data.Nat.Basic

namespace SunburstChip

/-!
# The first of the greatest

Among the entries of an interval some are valid, and each has a value.  The one
that is asked for is the valid entry of the greatest value, and the first of
these where there are several.  There is at most one.  That of an interval is
found from those of its two halves.
-/

variable {α : Type} [LinearOrder α]

/-- The entry is the first valid one of the greatest value between `low` and `high`. -/
structure FirstMaximum (valid : Nat -> Prop) (value : Nat -> α) (low high index : Nat) : Prop where
  least : low <= index
  below : index < high
  isValid : valid index
  greatest : forall other, low <= other -> other < high -> valid other -> value other <= value index
  first : forall other, low <= other -> other < index -> valid other -> value other < value index

namespace FirstMaximum

variable {valid : Nat -> Prop} {value : Nat -> α} {low middle high left right : Nat}

/-- There is only one. -/
theorem unique (one : FirstMaximum valid value low high left)
    (other : FirstMaximum valid value low high right) : left = right := by
  rcases Nat.lt_trichotomy left right with before | same | after
  · have less := other.first left one.least before one.isValid
    exact absurd less (not_lt_of_ge (one.greatest right other.least other.below other.isValid))
  · exact same
  · have less := one.first right other.least after other.isValid
    exact absurd less (not_lt_of_ge (other.greatest left one.least one.below one.isValid))

/-- An entry by itself. -/
theorem single {index : Nat} (isValid : valid index) :
    FirstMaximum valid value index (index + 1) index where
  least := Nat.le_refl _
  below := Nat.lt_succ_self _
  isValid := isValid
  greatest other least below _ := by
    have same : other = index := Nat.le_antisymm (Nat.le_of_lt_succ below) least
    exact le_of_eq (congrArg value same)
  first other least before _ := absurd before (Nat.not_lt.mpr least)

/-- The lower half has it: the upper half has no valid entry of a greater value. -/
theorem lower (inLower : FirstMaximum valid value low middle left) (inside : middle <= high)
    (upper : forall other, middle <= other -> other < high -> valid other ->
      value other <= value left) : FirstMaximum valid value low high left where
  least := inLower.least
  below := Nat.lt_of_lt_of_le inLower.below inside
  isValid := inLower.isValid
  greatest other least below isValid := by
    rcases Nat.lt_or_ge other middle with early | late
    · exact inLower.greatest other least early isValid
    · exact upper other late below isValid
  first := inLower.first

/-- The upper half has it: the lower half has no valid entry of a value as great. -/
theorem upper (inUpper : FirstMaximum valid value middle high right) (inside : low <= middle)
    (lower : forall other, low <= other -> other < middle -> valid other ->
      value other < value right) : FirstMaximum valid value low high right where
  least := Nat.le_trans inside inUpper.least
  below := inUpper.below
  isValid := inUpper.isValid
  greatest other least below isValid := by
    rcases Nat.lt_or_ge other middle with early | late
    · exact le_of_lt (lower other least early isValid)
    · exact inUpper.greatest other late below isValid
  first other least before isValid := by
    rcases Nat.lt_or_ge other middle with early | late
    · exact lower other least early isValid
    · exact inUpper.first other late before isValid

/-- Of the greatest entries of two halves, that of the upper one only where it is greater. -/
theorem of_halves (inLower : FirstMaximum valid value low middle left)
    (inUpper : FirstMaximum valid value middle high right) :
    FirstMaximum valid value low high (if value left < value right then right else left) := by
  by_cases greater : value left < value right
  · rw [if_pos greater]
    refine inUpper.upper (Nat.le_trans inLower.least (Nat.le_of_lt inLower.below)) ?_
    intro other least early isValid
    exact lt_of_le_of_lt (inLower.greatest other least early isValid) greater
  · rw [if_neg greater]
    refine inLower.lower (Nat.le_trans inUpper.least (Nat.le_of_lt inUpper.below)) ?_
    intro other late below isValid
    exact le_trans (inUpper.greatest other late below isValid) (not_lt.mp greater)

end FirstMaximum
end SunburstChip
