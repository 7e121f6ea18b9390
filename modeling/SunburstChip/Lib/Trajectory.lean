import Mathlib.Algebra.Group.Nat.Defs
import Mathlib.Order.Monotone.Basic
import Mathlib.Data.Nat.Basic
import Mathlib.Logic.Relation

namespace SunburstChip

/-!
# Counters that are read in halves

A counter rises while it is read, and is twice as wide as what one reading can
return.  A value put together from two readings belongs to no single instant,
unless something says so: that the upper half is the same before and after the
lower half has been read, or that the counter counts by ones, so that it does
not pass over any value.
-/

/-- How far a counter has counted at each instant.  It never wraps. -/
structure Trajectory (half : Nat) where
  count : Nat -> Nat
  rises : Monotone count
  inside : forall t, count t < 2 ^ half * 2 ^ half

/-- A device at an instant. -/
structure At (σ : Type) where
  now : Nat
  state : σ

/-- Nothing happens but that time passes. -/
def Passes {σ : Type} (s s' : At σ) : Prop := s.now <= s'.now ∧ s'.state = s.state

theorem passes_later {σ : Type} {s s' : At σ} (passes : Relation.ReflTransGen Passes s s') :
    s.now <= s'.now := by
  induction passes with
  | refl => exact Nat.le_refl _
  | tail _ step ih => exact Nat.le_trans ih step.1

namespace Trajectory

variable {half : Nat} (trajectory : Trajectory half)

/-- The upper half of the counter. -/
def upper (t : Nat) : BitVec half := .ofNat half (trajectory.count t / 2 ^ half)

/-- The lower half of the counter. -/
def lower (t : Nat) : BitVec half := .ofNat half (trajectory.count t)

/-- The counter passes over no value. -/
def Counts : Prop := forall t, trajectory.count (t + 1) <= trajectory.count t + 1

variable {trajectory}

theorem upper_toNat (t : Nat) : (trajectory.upper t).toNat = trajectory.count t / 2 ^ half := by
  have inside : trajectory.count t / 2 ^ half < 2 ^ half :=
    Nat.div_lt_of_lt_mul (trajectory.inside t)
  rw [upper, BitVec.toNat_ofNat, Nat.mod_eq_of_lt inside]

theorem lower_toNat (t : Nat) : (trajectory.lower t).toNat = trajectory.count t % 2 ^ half :=
  BitVec.toNat_ofNat _ _

/-- Both halves of one instant. -/
theorem halves (t : Nat) :
    (trajectory.upper t).toNat * 2 ^ half + (trajectory.lower t).toNat = trajectory.count t := by
  rw [upper_toNat, lower_toNat]
  exact Nat.div_add_mod' _ _

theorem upper_rises {t t' : Nat} (later : t <= t') :
    (trajectory.upper t).toNat <= (trajectory.upper t').toNat := by
  rw [upper_toNat, upper_toNat]
  exact Nat.div_le_div_right (trajectory.rises later)

/-- Between two instants at which the upper half is the same, it is the same. -/
theorem upper_between {t t' t'' : Nat} (later : t <= t') (later' : t' <= t'')
    (same : trajectory.upper t'' = trajectory.upper t) :
    trajectory.upper t' = trajectory.upper t := by
  apply BitVec.eq_of_toNat_eq
  apply Nat.le_antisymm
  · rw [<- same]
    exact upper_rises later'
  · exact upper_rises later

/-- A counter that passes over no value has every value between two of its values. -/
theorem Counts.between (counts : trajectory.Counts) {t t' value : Nat} (later : t <= t')
    (least : trajectory.count t <= value) (most : value <= trajectory.count t') :
    Exists fun instant => t <= instant ∧ instant <= t' ∧ trajectory.count instant = value := by
  induction t', later using Nat.le_induction with
  | base => exact ⟨t, Nat.le_refl t, Nat.le_refl t, Nat.le_antisymm least most⟩
  | succ t' later ih =>
      by_cases before : value <= trajectory.count t'
      · rcases ih before with ⟨instant, early, late, same⟩
        exact ⟨instant, early, Nat.le_succ_of_le late, same⟩
      · have step := counts t'
        refine ⟨t' + 1, Nat.le_succ_of_le later, Nat.le_refl _, ?_⟩
        omega

/-- The upper half of one instant and the lower half of a later one, after the
upper half has changed. -/
theorem mixed_between {t t' t'' : Nat} (later : t <= t') (later' : t' <= t'')
    (changed : trajectory.upper t' ≠ trajectory.upper t) :
    trajectory.count t <= (trajectory.upper t').toNat * 2 ^ half + (trajectory.lower t'').toNat ∧
    (trajectory.upper t').toNat * 2 ^ half + (trajectory.lower t'').toNat <= trajectory.count t'' := by
  have rose : (trajectory.upper t).toNat < (trajectory.upper t').toNat :=
    Nat.lt_of_le_of_ne (upper_rises later) (fun same => changed (BitVec.eq_of_toNat_eq same).symm)
  constructor
  · calc trajectory.count t
        = (trajectory.upper t).toNat * 2 ^ half + (trajectory.lower t).toNat := (halves t).symm
      _ <= ((trajectory.upper t).toNat + 1) * 2 ^ half := by
          rw [Nat.succ_mul]
          exact Nat.add_le_add_left (Nat.le_of_lt (trajectory.lower t).isLt) _
      _ <= (trajectory.upper t').toNat * 2 ^ half := Nat.mul_le_mul_right _ rose
      _ <= _ := Nat.le_add_right _ _
  · calc (trajectory.upper t').toNat * 2 ^ half + (trajectory.lower t'').toNat
        <= (trajectory.upper t'').toNat * 2 ^ half + (trajectory.lower t'').toNat :=
          Nat.add_le_add_right (Nat.mul_le_mul_right _ (upper_rises later')) _
      _ = trajectory.count t'' := halves t''

end Trajectory
end SunburstChip
