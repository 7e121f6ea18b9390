import SunburstChip.Base.Math
import SunburstChip.Dif.RvTimer

namespace SunburstChip
namespace RvTimer

/-!
# Ticks of the RISC-V timer

`dif_rv_timer_approximate_tick_params` looks for a prescaler and a step with
which the counter appears to run at a given frequency.  It takes the two
frequencies in lowest terms.  Every other pair that gives the frequency is a
multiple of that one, so it is the one to look at.
-/

abbrev cfg0PrescaleMask : BitVec 64 := 0xfff
abbrev cfg0StepMask : BitVec 64 := 0xff

/-- `dif_rv_timer_tick_params_t` -/
structure TickParams where
  prescale : BitVec 16
  tickStep : BitVec 8
  deriving DecidableEq

theorem udiv64Slow_rem_lt {a b : BitVec 64} (nonzero : b ≠ 0) :
    (udiv64Slow a b).2.toNat < b.toNat := by
  have positive : 0 < b.toNat := Nat.pos_of_ne_zero (BitVec.toNat_ne_iff_ne.mpr nonzero)
  rw [udiv64Slow_eq positive, BitVec.toNat_umod]
  exact Nat.mod_lt _ positive

/-- `euclidean_gcd`, where `b` becomes smaller in each round. -/
def euclideanGcd (a b : BitVec 64) : BitVec 64 :=
  if nonzero : b ≠ 0 then euclideanGcd b (udiv64Slow a b).2 else a
termination_by b.toNat
decreasing_by exact udiv64Slow_rem_lt nonzero

/-- `dif_rv_timer_approximate_tick_params`: the result, and what is stored. -/
def difRvTimerApproximateTickParams (clockFreq counterFreq : BitVec 64) (out : Pointer) :
    DifResult × Option TickParams :=
  if out = .null then (.kDifBadArg, none)
  else
    let gcd := euclideanGcd clockFreq counterFreq
    let prescale := (udiv64Slow clockFreq gcd).1 - 1
    let step := (udiv64Slow counterFreq gcd).1
    if prescale > cfg0PrescaleMask ∨ step > cfg0StepMask then (.kDifBadArg, none)
    else (.kDifOk, some ⟨prescale.setWidth 16, step.setWidth 8⟩)

/-! ## The greatest common divisor -/

theorem euclideanGcd_toNat (a b : BitVec 64) :
    (euclideanGcd a b).toNat = Nat.gcd a.toNat b.toNat := by
  induction a, b using euclideanGcd.induct with
  | case1 a b nonzero ih =>
      have positive : 0 < b.toNat := Nat.pos_of_ne_zero (BitVec.toNat_ne_iff_ne.mpr nonzero)
      rw [euclideanGcd, dif_pos nonzero, ih, udiv64Slow_eq positive, BitVec.toNat_umod]
      calc Nat.gcd b.toNat (a.toNat % b.toNat)
          = Nat.gcd (a.toNat % b.toNat) b.toNat := Nat.gcd_comm _ _
        _ = Nat.gcd b.toNat a.toNat := (Nat.gcd_rec _ _).symm
        _ = Nat.gcd a.toNat b.toNat := Nat.gcd_comm _ _
  | case2 a b zero =>
      rw [euclideanGcd, dif_neg zero, not_not.mp zero]
      exact (Nat.gcd_zero_right _).symm

/-! ## Lowest terms -/

/-- A quotient of two numbers is a multiple of the same quotient in lowest terms. -/
theorem lowest_terms {clock counter scale step : Nat} (positive : 0 < clock)
    (same : counter * scale = clock * step) :
    Exists fun factor => scale = factor * (clock / Nat.gcd clock counter) ∧
      step = factor * (counter / Nat.gcd clock counter) := by
  have divisor : 0 < Nat.gcd clock counter := Nat.gcd_pos_of_pos_left _ positive
  have clockParts := Nat.div_mul_cancel (Nat.gcd_dvd_left clock counter)
  have counterParts := Nat.div_mul_cancel (Nat.gcd_dvd_right clock counter)
  have reduced :
      counter / Nat.gcd clock counter * scale = clock / Nat.gcd clock counter * step := by
    apply Nat.eq_of_mul_eq_mul_right divisor
    calc counter / Nat.gcd clock counter * scale * Nat.gcd clock counter
        = counter / Nat.gcd clock counter * Nat.gcd clock counter * scale := by ring
      _ = clock / Nat.gcd clock counter * Nat.gcd clock counter * step := by
          rw [counterParts, clockParts, same]
      _ = clock / Nat.gcd clock counter * step * Nat.gcd clock counter := by ring
  have coprime := Nat.coprime_div_gcd_div_gcd divisor
  have divides : clock / Nat.gcd clock counter ∣ scale :=
    coprime.dvd_of_dvd_mul_left ⟨step, reduced⟩
  have lowest : 0 < clock / Nat.gcd clock counter :=
    Nat.div_pos (Nat.gcd_le_left _ positive) divisor
  rcases divides with ⟨factor, scaled⟩
  refine ⟨factor, scaled.trans (Nat.mul_comm _ _), ?_⟩
  apply Nat.eq_of_mul_eq_mul_left lowest
  rw [<- reduced, scaled]
  ring

/-- The prescaler and the step fit their fields and give the frequency. -/
def Gives (clockFreq counterFreq prescale step : Nat) : Prop :=
  prescale < 2 ^ 12 ∧ step < 2 ^ 8 ∧ counterFreq * (prescale + 1) = clockFreq * step

section

variable {clock counter prescale step : Nat}

/-- The quotient in lowest terms does, if it fits. -/
theorem gives_lowest (scale : prescale + 1 = clock / Nat.gcd clock counter)
    (steps : step = counter / Nat.gcd clock counter) (few : prescale <= 0xfff)
    (fewSteps : step <= 0xff) : Gives clock counter prescale step := by
  refine ⟨Nat.lt_succ_iff.mpr few, Nat.lt_succ_iff.mpr fewSteps, ?_⟩
  rw [scale, steps, <- Nat.mul_div_assoc _ (Nat.gcd_dvd_left _ _),
    <- Nat.mul_div_assoc _ (Nat.gcd_dvd_right _ _), Nat.mul_comm]

/-- If it does not fit, no other one does. -/
theorem not_gives_of_large (positive : 0 < clock)
    (scale : prescale + 1 = clock / Nat.gcd clock counter)
    (steps : step = counter / Nat.gcd clock counter) (large : 0xfff < prescale ∨ 0xff < step)
    (other otherStep : Nat) : ¬ Gives clock counter other otherStep := by
  rintro ⟨fits, fitsStep, gives⟩
  rcases lowest_terms positive gives with ⟨factor, scaled, stepped⟩
  rw [<- scale] at scaled
  rw [<- steps] at stepped
  have some : 1 <= factor := by
    rcases Nat.eq_zero_or_pos factor with zero | some
    · rw [zero, Nat.zero_mul] at scaled
      cases scaled
    · exact some
  have most := Nat.le_mul_of_pos_left (prescale + 1) some
  have mostStep := Nat.le_mul_of_pos_left step some
  omega

end

section

variable {clockFreq counterFreq : BitVec 64}

theorem quotients_toNat (positive : clockFreq ≠ 0) :
    ((udiv64Slow clockFreq (euclideanGcd clockFreq counterFreq)).1 - 1).toNat + 1 =
        clockFreq.toNat / Nat.gcd clockFreq.toNat counterFreq.toNat ∧
      (udiv64Slow counterFreq (euclideanGcd clockFreq counterFreq)).1.toNat =
        counterFreq.toNat / Nat.gcd clockFreq.toNat counterFreq.toNat := by
  have clock : 0 < clockFreq.toNat := Nat.pos_of_ne_zero (BitVec.toNat_ne_iff_ne.mpr positive)
  have value := euclideanGcd_toNat clockFreq counterFreq
  have divisor : 0 < Nat.gcd clockFreq.toNat counterFreq.toNat := Nat.gcd_pos_of_pos_left _ clock
  have lowest : 0 < clockFreq.toNat / Nat.gcd clockFreq.toNat counterFreq.toNat :=
    Nat.div_pos (Nat.gcd_le_left _ clock) divisor
  have small := (clockFreq / euclideanGcd clockFreq counterFreq).isLt
  rw [BitVec.toNat_udiv, value] at small
  rw [udiv64Slow_eq (value ▸ divisor), udiv64Slow_eq (value ▸ divisor)]
  constructor
  · dsimp only
    rw [BitVec.toNat_sub, BitVec.toNat_udiv, value]
    change (2 ^ 64 - 1 + _) % 2 ^ 64 + 1 = _
    omega
  · rw [BitVec.toNat_udiv, value]

end

/-- The function finds a prescaler and a step exactly if there are some, and its loop ends with
the greatest common divisor. -/
theorem approximateTickParams_exact {clockFreq : BitVec 64} (counterFreq : BitVec 64)
    (positive : clockFreq ≠ 0) :
    (euclideanGcd clockFreq counterFreq).toNat = Nat.gcd clockFreq.toNat counterFreq.toNat ∧
    ((Exists fun params =>
        difRvTimerApproximateTickParams clockFreq counterFreq .object = (.kDifOk, some params) ∧
        Gives clockFreq.toNat counterFreq.toNat params.prescale.toNat params.tickStep.toNat) ∨
      (difRvTimerApproximateTickParams clockFreq counterFreq .object = (.kDifBadArg, none) ∧
        forall prescale step, ¬ Gives clockFreq.toNat counterFreq.toNat prescale step)) := by
  have clock : 0 < clockFreq.toNat := Nat.pos_of_ne_zero (BitVec.toNat_ne_iff_ne.mpr positive)
  refine ⟨euclideanGcd_toNat _ _, ?_⟩
  rcases @quotients_toNat clockFreq counterFreq positive with ⟨scale, steps⟩
  unfold difRvTimerApproximateTickParams
  rw [if_neg (by decide : ¬ Pointer.object = .null)]
  dsimp only
  generalize (udiv64Slow clockFreq (euclideanGcd clockFreq counterFreq)).1 - 1 = prescale at scale
  generalize (udiv64Slow counterFreq (euclideanGcd clockFreq counterFreq)).1 = step at steps
  by_cases large : prescale > cfg0PrescaleMask ∨ step > cfg0StepMask
  · rw [if_pos large]
    have above : 0xfff < prescale.toNat ∨ 0xff < step.toNat :=
      large.imp BitVec.lt_def.mp BitVec.lt_def.mp
    exact Or.inr ⟨rfl, not_gives_of_large clock scale steps above⟩
  · rw [if_neg large]
    rcases not_or.mp large with ⟨few, fewSteps⟩
    have few : prescale.toNat <= 0xfff := Nat.le_of_not_lt few
    have fewSteps : step.toNat <= 0xff := Nat.le_of_not_lt fewSteps
    have same : (prescale.setWidth 16).toNat = prescale.toNat := by
      rw [BitVec.toNat_setWidth]
      omega
    have sameStep : (step.setWidth 8).toNat = step.toNat := by
      rw [BitVec.toNat_setWidth]
      omega
    refine Or.inl ⟨_, rfl, ?_⟩
    rw [same, sameStep]
    exact gives_lowest scale steps few fewSteps

/-- A counter that appears to run at 1 MHz, at a clock of 50 MHz. -/
theorem approximateTickParams_exact_fifty :
    (euclideanGcd 50000000 1000000).toNat = Nat.gcd 50000000 1000000 ∧
    ((Exists fun params =>
        difRvTimerApproximateTickParams 50000000 1000000 .object = (.kDifOk, some params) ∧
        Gives 50000000 1000000 params.prescale.toNat params.tickStep.toNat) ∨
      (difRvTimerApproximateTickParams 50000000 1000000 .object = (.kDifBadArg, none) ∧
        forall prescale step, ¬ Gives 50000000 1000000 prescale step)) :=
  approximateTickParams_exact 1000000 (by decide)

end RvTimer
end SunburstChip
