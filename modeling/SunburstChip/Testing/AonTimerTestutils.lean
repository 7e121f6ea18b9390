import SunburstChip.Base.Math
import SunburstChip.Testing.I2cTestutils

namespace SunburstChip
namespace AonTimerTestutils

open I2c

/-!
# Times and cycles

The conversions of `aon_timer_testutils.c` and `ibex_timeout_elapsed`.  Each of
them multiplies in 64 bits and divides afterwards, so a result is off as soon as
the product does not fit, even where the quotient would.  A quotient that the
product has wrapped is always too small, and it is noticed only where it still
does not fit what it is returned in.
-/

/-! ## Conversions -/

/-- `TRY_CHECK` that a number fits 32 bits, and the number in them. -/
def tryFit32 (value : BitVec 64) : Except Failure (BitVec 32) :=
  if value <= 0xffffffff then .ok (value.setWidth 32) else .error (.status .kInternal)

/-- `aon_timer_testutils_get_aon_cycles_32_from_us` -/
def getAonCycles32FromUs (kClockFreqAonHz microseconds : BitVec 64) :
    Except Failure (BitVec 32) :=
  tryFit32 (udiv64Slow (microseconds * kClockFreqAonHz) 1000000).1

/-- `aon_timer_testutils_get_aon_cycles_64_from_us` -/
def getAonCycles64FromUs (kClockFreqAonHz microseconds : BitVec 64) :
    Except Failure (BitVec 64) :=
  .ok (udiv64Slow (microseconds * kClockFreqAonHz) 1000000).1

/-- `aon_timer_testutils_get_us_from_aon_cycles` -/
def getUsFromAonCycles (kClockFreqAonHz cycles : BitVec 64) : Except Failure (BitVec 32) :=
  tryFit32 (udiv64Slow (cycles * 1000000) kClockFreqAonHz).1

/-- `ibex_timeout_elapsed`, where `ibex_mcycle_read` gives `mcycle`. -/
def ibexTimeoutElapsed (kClockFreqCpuHz mcycle : BitVec 64) (timeout : IbexTimeout) : BitVec 64 :=
  (udiv64Slow ((mcycle - timeout.start) * 1000000) kClockFreqCpuHz).1

/-- A number is returned if it fits, and an error otherwise. -/
def ExactOrRejected {w : Nat} (result : Except Failure (BitVec w)) (value : Nat) : Prop :=
  if value < 2 ^ w then result = .ok (.ofNat w value)
  else Exists fun failure => result = .error failure

/-! ## Wrapped products -/

/-- Wrapping a product takes more from it than the divisor. -/
theorem wrapped_div_lt {product divisor : Nat} (positive : 0 < divisor)
    (small : divisor <= 2 ^ 64) (large : 2 ^ 64 <= product) :
    product % 2 ^ 64 / divisor < product / divisor := by
  have taken : product % 2 ^ 64 + divisor <= product := by omega
  have next : product % 2 ^ 64 / divisor + 1 = (product % 2 ^ 64 + divisor) / divisor :=
    (Nat.add_div_right _ positive).symm
  have most : (product % 2 ^ 64 + divisor) / divisor <= product / divisor :=
    Nat.div_le_div_right taken
  omega

/-- The quotient is that of the wrapped product. -/
theorem udiv64Slow_mul (a b : BitVec 64) {divisor : BitVec 64} (positive : 0 < divisor.toNat) :
    (udiv64Slow (a * b) divisor).1.toNat = a.toNat * b.toNat % 2 ^ 64 / divisor.toNat := by
  rw [udiv64Slow_eq positive, BitVec.toNat_udiv, BitVec.toNat_mul]

/-- The quotient is right as long as the product does not wrap, and only then. -/
theorem wrapped_div_iff {product divisor : Nat} (positive : 0 < divisor)
    (small : divisor <= 2 ^ 64) :
    product % 2 ^ 64 / divisor = product / divisor ↔ product < 2 ^ 64 := by
  constructor
  · intro same
    by_contra large
    exact Nat.ne_of_lt (wrapped_div_lt positive small (Nat.le_of_not_lt large)) same
  · intro fits
    rw [Nat.mod_eq_of_lt fits]

theorem exactOrRejected_tryFit32 (value : BitVec 64) (exact : Nat) :
    ExactOrRejected (tryFit32 value) exact ↔
      value.toNat = exact ∨ 2 ^ 32 <= value.toNat ∧ 2 ^ 32 <= exact := by
  have bound : value <= 0xffffffff ↔ value.toNat < 2 ^ 32 := by
    rw [BitVec.le_def]
    exact Nat.lt_succ_iff.symm
  unfold ExactOrRejected tryFit32
  by_cases fits : value.toNat < 2 ^ 32
  · rw [if_pos (bound.mpr fits)]
    have low : (value.setWidth 32).toNat = value.toNat := by
      rw [BitVec.toNat_setWidth, Nat.mod_eq_of_lt fits]
    split
    · next inside =>
        constructor
        · intro same
          have equal := congrArg BitVec.toNat (Except.ok.inj same)
          rw [low, BitVec.toNat_ofNat, Nat.mod_eq_of_lt inside] at equal
          exact Or.inl equal
        · intro same
          have equal : value.toNat = exact := by omega
          apply congrArg Except.ok
          apply BitVec.eq_of_toNat_eq
          rw [low, BitVec.toNat_ofNat, Nat.mod_eq_of_lt inside, equal]
    · next outside =>
        constructor
        · rintro ⟨failure, impossible⟩
          cases impossible
        · intro same
          omega
  · rw [if_neg (fun le => fits (bound.mp le))]
    split
    · next inside =>
        constructor
        · intro impossible
          cases impossible
        · intro same
          omega
    · next outside =>
        exact ⟨fun _ => Or.inr ⟨by omega, by omega⟩, fun _ => ⟨_, rfl⟩⟩

/-- A quotient that is checked to fit 32 bits is also right where the wrapped product is still
rejected. -/
theorem tryFit32_iff (a b : BitVec 64) {divisor : BitVec 64} (positive : 0 < divisor.toNat) :
    ExactOrRejected (tryFit32 (udiv64Slow (a * b) divisor).1)
        (a.toNat * b.toNat / divisor.toNat) ↔
      a.toNat * b.toNat < 2 ^ 64 ∨
        2 ^ 32 * divisor.toNat <= a.toNat * b.toNat % 2 ^ 64 := by
  have small : divisor.toNat <= 2 ^ 64 := Nat.le_of_lt divisor.isLt
  have rejected : 2 ^ 32 <= a.toNat * b.toNat % 2 ^ 64 / divisor.toNat ↔
      2 ^ 32 * divisor.toNat <= a.toNat * b.toNat % 2 ^ 64 := Nat.le_div_iff_mul_le positive
  have least : a.toNat * b.toNat % 2 ^ 64 / divisor.toNat <= a.toNat * b.toNat / divisor.toNat :=
    Nat.div_le_div_right (Nat.mod_le _ _)
  rw [exactOrRejected_tryFit32, udiv64Slow_mul a b positive, wrapped_div_iff positive small,
    <- rejected]
  exact or_congr_right (and_iff_left_of_imp (fun large => Nat.le_trans large least))

/-! ## The conversions -/

theorem million_toNat : (1000000 : BitVec 64).toNat = 1000000 := rfl

theorem getAonCycles32FromUs_iff (kClockFreqAonHz microseconds : BitVec 64) :
    ExactOrRejected (getAonCycles32FromUs kClockFreqAonHz microseconds)
        (microseconds.toNat * kClockFreqAonHz.toNat / 1000000) ↔
      microseconds.toNat * kClockFreqAonHz.toNat < 2 ^ 64 ∨
        2 ^ 32 * 1000000 <= microseconds.toNat * kClockFreqAonHz.toNat % 2 ^ 64 :=
  tryFit32_iff microseconds kClockFreqAonHz (by decide)

/-- Without a check the 64 bit variant is right only where the product does not wrap. -/
theorem getAonCycles64FromUs_iff (kClockFreqAonHz microseconds : BitVec 64) :
    ExactOrRejected (getAonCycles64FromUs kClockFreqAonHz microseconds)
        (microseconds.toNat * kClockFreqAonHz.toNat / 1000000) ↔
      microseconds.toNat * kClockFreqAonHz.toNat < 2 ^ 64 := by
  have quotient := udiv64Slow_mul microseconds kClockFreqAonHz
    (show 0 < (1000000 : BitVec 64).toNat by decide)
  rw [million_toNat] at quotient
  rw [<- wrapped_div_iff (show 0 < 1000000 by decide) (by decide), <- quotient]
  unfold ExactOrRejected getAonCycles64FromUs
  split
  · next inside =>
      constructor
      · intro same
        rw [Except.ok.inj same, BitVec.toNat_ofNat, Nat.mod_eq_of_lt inside]
      · intro same
        rw [<- same, BitVec.ofNat_toNat, BitVec.setWidth_eq]
  · next outside =>
      constructor
      · rintro ⟨failure, impossible⟩
        cases impossible
      · intro same
        exact absurd (same ▸ BitVec.isLt _) outside

theorem getUsFromAonCycles_iff {kClockFreqAonHz : BitVec 64} (positive : 0 < kClockFreqAonHz.toNat)
    (cycles : BitVec 64) :
    ExactOrRejected (getUsFromAonCycles kClockFreqAonHz cycles)
        (cycles.toNat * 1000000 / kClockFreqAonHz.toNat) ↔
      cycles.toNat * 1000000 < 2 ^ 64 ∨
        2 ^ 32 * kClockFreqAonHz.toNat <= cycles.toNat * 1000000 % 2 ^ 64 :=
  tryFit32_iff cycles 1000000 positive

/-- The cycles that have gone by since a timeout was started. -/
def elapsedCycles (mcycle : BitVec 64) (timeout : IbexTimeout) : Nat :=
  (mcycle - timeout.start).toNat

theorem ibexTimeoutElapsed_iff {kClockFreqCpuHz : BitVec 64} (positive : 0 < kClockFreqCpuHz.toNat)
    (mcycle : BitVec 64) (timeout : IbexTimeout) :
    (ibexTimeoutElapsed kClockFreqCpuHz mcycle timeout).toNat =
        elapsedCycles mcycle timeout * 1000000 / kClockFreqCpuHz.toNat ↔
      elapsedCycles mcycle timeout * 1000000 < 2 ^ 64 := by
  rw [<- wrapped_div_iff positive (Nat.le_of_lt kClockFreqCpuHz.isLt)]
  unfold ibexTimeoutElapsed elapsedCycles
  rw [udiv64Slow_mul _ _ positive, million_toNat]

/-- Each conversion is exact, or rejects what does not fit, exactly as long as the product it forms
fits 64 bits.  A check of the quotient makes up for it where the wrapped product is still too
large. -/
theorem conversions_iff {kClockFreqAonHz kClockFreqCpuHz : BitVec 64}
    (aon : kClockFreqAonHz ≠ 0) (cpu : kClockFreqCpuHz ≠ 0) (microseconds cycles mcycle : BitVec 64)
    (timeout : IbexTimeout) :
    (ExactOrRejected (getAonCycles32FromUs kClockFreqAonHz microseconds)
        (microseconds.toNat * kClockFreqAonHz.toNat / 1000000) ↔
      microseconds.toNat * kClockFreqAonHz.toNat < 2 ^ 64 ∨
        2 ^ 32 * 1000000 <= microseconds.toNat * kClockFreqAonHz.toNat % 2 ^ 64) ∧
    (ExactOrRejected (getAonCycles64FromUs kClockFreqAonHz microseconds)
        (microseconds.toNat * kClockFreqAonHz.toNat / 1000000) ↔
      microseconds.toNat * kClockFreqAonHz.toNat < 2 ^ 64) ∧
    (ExactOrRejected (getUsFromAonCycles kClockFreqAonHz cycles)
        (cycles.toNat * 1000000 / kClockFreqAonHz.toNat) ↔
      cycles.toNat * 1000000 < 2 ^ 64 ∨
        2 ^ 32 * kClockFreqAonHz.toNat <= cycles.toNat * 1000000 % 2 ^ 64) ∧
    ((elapsedCycles mcycle timeout * 1000000 / kClockFreqCpuHz.toNat < 2 ^ 64 ->
        (ibexTimeoutElapsed kClockFreqCpuHz mcycle timeout).toNat =
          elapsedCycles mcycle timeout * 1000000 / kClockFreqCpuHz.toNat) ↔
      elapsedCycles mcycle timeout * 1000000 < 2 ^ 64 ∨
        2 ^ 64 * kClockFreqCpuHz.toNat <= elapsedCycles mcycle timeout * 1000000) := by
  have aonPositive : 0 < kClockFreqAonHz.toNat := Nat.pos_of_ne_zero (BitVec.toNat_ne_iff_ne.mpr aon)
  have cpuPositive : 0 < kClockFreqCpuHz.toNat := Nat.pos_of_ne_zero (BitVec.toNat_ne_iff_ne.mpr cpu)
  refine ⟨getAonCycles32FromUs_iff kClockFreqAonHz microseconds,
    getAonCycles64FromUs_iff kClockFreqAonHz microseconds,
    getUsFromAonCycles_iff aonPositive cycles, ?_⟩
  rw [ibexTimeoutElapsed_iff cpuPositive, <- Nat.le_div_iff_mul_le cpuPositive, <- Nat.not_lt, or_comm]
  exact imp_iff_not_or

/-- A second at the frequency of the simulated device. -/
theorem conversions_iff_second : ExactOrRejected (getAonCycles32FromUs 400000 1000000) 400000 :=
  (@conversions_iff 400000 100000000 (by decide) (by decide) 1000000 0 0 ⟨0, 0⟩).1.mpr
    (Or.inl (by decide))

/-- What is asked of the conversions at some frequencies. -/
def ConversionsExact (kClockFreqAonHz kClockFreqCpuHz microseconds cycles mcycle : BitVec 64)
    (timeout : IbexTimeout) : Prop :=
  ExactOrRejected (getAonCycles32FromUs kClockFreqAonHz microseconds)
      (microseconds.toNat * kClockFreqAonHz.toNat / 1000000) ∧
    ExactOrRejected (getAonCycles64FromUs kClockFreqAonHz microseconds)
      (microseconds.toNat * kClockFreqAonHz.toNat / 1000000) ∧
    ExactOrRejected (getUsFromAonCycles kClockFreqAonHz cycles)
      (cycles.toNat * 1000000 / kClockFreqAonHz.toNat) ∧
    (elapsedCycles mcycle timeout * 1000000 / kClockFreqCpuHz.toNat < 2 ^ 64 ->
      (ibexTimeoutElapsed kClockFreqCpuHz mcycle timeout).toNat =
        elapsedCycles mcycle timeout * 1000000 / kClockFreqCpuHz.toNat)

/-- A year and a half at the frequency of the simulated device: the product wraps to less than
a cycle. -/
theorem conversions_apart : ¬ forall (kClockFreqAonHz kClockFreqCpuHz : BitVec 64)
    (microseconds cycles mcycle : BitVec 64) (timeout : IbexTimeout),
    kClockFreqAonHz ≠ 0 -> kClockFreqCpuHz ≠ 0 ->
      ConversionsExact kClockFreqAonHz kClockFreqCpuHz microseconds cycles mcycle timeout := by
  intro exact
  have all := exact 400000 100000000 46116860184274 0 0 ⟨0, 0⟩ (by decide) (by decide)
  have fits := (getAonCycles64FromUs_iff 400000 46116860184274).mp all.2.1
  exact absurd fits (by decide)

end AonTimerTestutils
end SunburstChip
