import Mathlib.Data.Nat.Basic
import Mathlib.Order.Monotone.Basic

namespace SunburstChip

/-!
# Counting ticks

A slow thing is driven by ticks, which come in some of the cycles of a clock.  How
many have come before a cycle is a function of the cycle that goes up by one at
most from each to the next.  Two sources of ticks keep up with each other if they
never differ much over a short time.
-/

/-- How many ticks have come before a cycle. -/
def ticksBefore (ticks : Nat -> Bool) : Nat -> Nat
  | 0 => 0
  | t + 1 => ticksBefore ticks t + if ticks t then 1 else 0

variable {s t : Nat}

theorem ticksBefore_succ (ticks : Nat -> Bool) (t : Nat) :
    ticksBefore ticks (t + 1) = ticksBefore ticks t + if ticks t then 1 else 0 := rfl

theorem ticksBefore_succ_le (ticks : Nat -> Bool) (t : Nat) :
    ticksBefore ticks (t + 1) <= ticksBefore ticks t + 1 := by
  rw [ticksBefore_succ]
  split <;> omega

theorem ticksBefore_mono (ticks : Nat -> Bool) (later : s <= t) : ticksBefore ticks s <= ticksBefore ticks t := by
  induction t, later using Nat.le_induction with
  | base => exact Nat.le_refl _
  | succ t later ih => exact Nat.le_trans ih (Nat.le_add_right _ _)

/-- There is one tick a cycle at most. -/
theorem ticksBefore_le (ticks : Nat -> Bool) (later : s <= t) :
    ticksBefore ticks t <= ticksBefore ticks s + (t - s) := by
  induction t, later using Nat.le_induction with
  | base => omega
  | succ t later ih =>
      have one := ticksBefore_succ_le ticks t
      omega

/-- No number of ticks is left out. -/
theorem ticksBefore_reaches (ticks : Nat -> Bool) {n : Nat} (come : n <= ticksBefore ticks t) :
    Exists fun s => s <= t ∧ ticksBefore ticks s = n := by
  induction t with
  | zero => exact ⟨0, Nat.le_refl 0, (Nat.le_zero.mp come).symm⟩
  | succ t ih =>
      by_cases earlier : n <= ticksBefore ticks t
      · rcases ih earlier with ⟨s, before, same⟩
        exact ⟨s, Nat.le_succ_of_le before, same⟩
      · have one := ticksBefore_succ_le ticks t
        exact ⟨t + 1, Nat.le_refl _, by omega⟩

/-- Over any time in which one source has at most `window` ticks, the other has as many but for
`slack`. -/
def KeepsUp (ticks ticks' : Nat -> Bool) (window slack : Nat) : Prop :=
  forall s t, s <= t -> ticksBefore ticks t <= ticksBefore ticks s + window ->
    ticksBefore ticks' t + ticksBefore ticks s <=
        ticksBefore ticks t + ticksBefore ticks' s + slack ∧
      ticksBefore ticks t + ticksBefore ticks' s <=
        ticksBefore ticks' t + ticksBefore ticks s + slack

/-- A source keeps up with itself. -/
theorem KeepsUp.same (ticks : Nat -> Bool) (window slack : Nat) :
    KeepsUp ticks ticks window slack :=
  fun _ _ _ _ => ⟨by omega, by omega⟩

end SunburstChip
