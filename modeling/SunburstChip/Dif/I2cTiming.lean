import Mathlib.Algebra.Order.Floor.Div
import Mathlib.Logic.Function.Basic
import SunburstChip.Dif.Base

namespace SunburstChip
namespace I2c

open Mmio

/-!
# The timing of the I2C host

`dif_i2c_compute_timing` turns times in nanoseconds into cycles of the clock, and
`dif_i2c_configure` writes these to the `TIMING` registers.  All cycle counts are
held in 16 bits, and the fields of the registers have 9, 10 or 13.  The division
cuts its result to 16 bits, and writing a field cuts to what it has, in both
cases without telling.  A time of zero nanoseconds is turned into the quotient
of `2 ^ 32 - 1`, since one is subtracted from it first.

The values are in the registers as they should be exactly if they are small
enough for the fields before anything is cut.
-/

/-! ## The source -/

/-- `dif_i2c_speed_t`, an enumeration whose variables may hold any word. -/
abbrev DifI2cSpeed := BitVec 32

abbrev kDifI2cSpeedStandard : DifI2cSpeed := 0
abbrev kDifI2cSpeedFast : DifI2cSpeed := 1
abbrev kDifI2cSpeedFastPlus : DifI2cSpeed := 2

/-- `dif_i2c_timing_config_t` -/
structure DifI2cTimingConfig where
  lowestTargetDeviceSpeed : DifI2cSpeed
  clockPeriodNanos : BitVec 32
  sdaRiseNanos : BitVec 32
  sdaFallNanos : BitVec 32
  sclPeriodNanos : BitVec 32
  deriving DecidableEq

/-- `dif_i2c_config_t` -/
structure DifI2cConfig where
  sclTimeHighCycles : BitVec 16
  sclTimeLowCycles : BitVec 16
  riseCycles : BitVec 16
  fallCycles : BitVec 16
  startSignalSetupCycles : BitVec 16
  startSignalHoldCycles : BitVec 16
  dataSignalSetupCycles : BitVec 16
  dataSignalHoldCycles : BitVec 16
  stopSignalSetupCycles : BitVec 16
  stopSignalHoldCycles : BitVec 16
  deriving DecidableEq

/-- `round_up_divide` -/
def roundUpDivide (a b : BitVec 32) : BitVec 16 := ((a - 1) / b + 1).setWidth 16

/-- `default_timing_for_speed` -/
def defaultTimingForSpeed (speed : DifI2cSpeed) (clockPeriodNanos : BitVec 32) : DifI2cConfig :=
  if speed = kDifI2cSpeedStandard then
    { sclTimeHighCycles := roundUpDivide 4000 clockPeriodNanos
      sclTimeLowCycles := roundUpDivide 4700 clockPeriodNanos
      riseCycles := 0
      fallCycles := 0
      startSignalSetupCycles := roundUpDivide 4700 clockPeriodNanos
      startSignalHoldCycles := roundUpDivide 4000 clockPeriodNanos
      dataSignalSetupCycles := roundUpDivide 250 clockPeriodNanos
      dataSignalHoldCycles := 1
      stopSignalSetupCycles := roundUpDivide 4000 clockPeriodNanos
      stopSignalHoldCycles := roundUpDivide 4700 clockPeriodNanos }
  else if speed = kDifI2cSpeedFast then
    { sclTimeHighCycles := roundUpDivide 600 clockPeriodNanos
      sclTimeLowCycles := roundUpDivide 1300 clockPeriodNanos
      riseCycles := 0
      fallCycles := 0
      startSignalSetupCycles := roundUpDivide 600 clockPeriodNanos
      startSignalHoldCycles := roundUpDivide 600 clockPeriodNanos
      dataSignalSetupCycles := roundUpDivide 100 clockPeriodNanos
      dataSignalHoldCycles := 1
      stopSignalSetupCycles := roundUpDivide 600 clockPeriodNanos
      stopSignalHoldCycles := roundUpDivide 1300 clockPeriodNanos }
  else if speed = kDifI2cSpeedFastPlus then
    { sclTimeHighCycles := roundUpDivide 260 clockPeriodNanos
      sclTimeLowCycles := roundUpDivide 500 clockPeriodNanos
      riseCycles := 0
      fallCycles := 0
      startSignalSetupCycles := roundUpDivide 260 clockPeriodNanos
      startSignalHoldCycles := roundUpDivide 260 clockPeriodNanos
      dataSignalSetupCycles := roundUpDivide 50 clockPeriodNanos
      dataSignalHoldCycles := 1
      stopSignalSetupCycles := roundUpDivide 260 clockPeriodNanos
      stopSignalHoldCycles := roundUpDivide 500 clockPeriodNanos }
  else ⟨0, 0, 0, 0, 0, 0, 0, 0, 0, 0⟩

/-- `kNanosPerKBaud` -/
def kNanosPerKBaud : BitVec 32 := 1000000

/-- The frequency in kHz that goes with a speed. -/
def lowestTargetDeviceSpeedKhz (speed : DifI2cSpeed) : Option (BitVec 32) :=
  if speed = kDifI2cSpeedStandard then some 100
  else if speed = kDifI2cSpeedFast then some 400
  else if speed = kDifI2cSpeedFastPlus then some 1000
  else none

/-- The end of `dif_i2c_compute_timing`: the high time of `SCL` is lengthened for the period
that is asked for, and both times have four cycles, with which clock stretching is
detected. -/
def correctCycles (config : DifI2cConfig) (lengthenedHighCycles : Int) : DifI2cConfig :=
  let config :=
    if lengthenedHighCycles > config.sclTimeHighCycles.toNat then
      { config with sclTimeHighCycles := BitVec.ofInt 16 lengthenedHighCycles }
    else config
  let config :=
    if config.sclTimeHighCycles < 4 then { config with sclTimeHighCycles := 4 } else config
  if config.sclTimeLowCycles < 4 then { config with sclTimeLowCycles := 4 } else config

/-- `dif_i2c_compute_timing`: the result, and `config` as it is left. -/
def difI2cComputeTiming (timingConfig : DifI2cTimingConfig) (config : Pointer)
    (old : DifI2cConfig) : DifResult × DifI2cConfig :=
  if config = .null then (.kDifBadArg, old)
  else
    match lowestTargetDeviceSpeedKhz timingConfig.lowestTargetDeviceSpeed with
    | none => (.kDifBadArg, old)
    | some speedKhz =>
        let period := timingConfig.clockPeriodNanos
        let config := defaultTimingForSpeed timingConfig.lowestTargetDeviceSpeed period
        let config := { config with
          riseCycles := roundUpDivide timingConfig.sdaRiseNanos period
          fallCycles := roundUpDivide timingConfig.sdaFallNanos period }
        let slowestSclPeriodNanos := kNanosPerKBaud / speedKhz
        let sclPeriodNanos :=
          if timingConfig.sclPeriodNanos < slowestSclPeriodNanos then slowestSclPeriodNanos
          else timingConfig.sclPeriodNanos
        let sclPeriodCycles := roundUpDivide sclPeriodNanos period
        let lengthenedHighCycles : Int := (sclPeriodCycles.toNat : Int) -
          config.sclTimeLowCycles.toNat - config.riseCycles.toNat - config.fallCycles.toNat
        if lengthenedHighCycles > config.sclTimeHighCycles.toNat ∧
            (lengthenedHighCycles < 0 ∨ lengthenedHighCycles > 0xffff) then
          (.kDifOutOfRange, config)
        else (.kDifOk, correctCycles config lengthenedHighCycles)

abbrev timing0RegOffset : Nat := 0x3c
abbrev timing0ThighField : BitfieldField32 := ⟨0x1fff, 0⟩
abbrev timing0TlowField : BitfieldField32 := ⟨0x1fff, 16⟩
abbrev timing1RegOffset : Nat := 0x40
abbrev timing1TRField : BitfieldField32 := ⟨0x3ff, 0⟩
abbrev timing1TFField : BitfieldField32 := ⟨0x1ff, 16⟩
abbrev timing2RegOffset : Nat := 0x44
abbrev timing2TsuStaField : BitfieldField32 := ⟨0x1fff, 0⟩
abbrev timing2ThdStaField : BitfieldField32 := ⟨0x1fff, 16⟩
abbrev timing3RegOffset : Nat := 0x48
abbrev timing3TsuDatField : BitfieldField32 := ⟨0x1ff, 0⟩
abbrev timing3ThdDatField : BitfieldField32 := ⟨0x1fff, 16⟩
abbrev timing4RegOffset : Nat := 0x4c
abbrev timing4TsuStoField : BitfieldField32 := ⟨0x1fff, 0⟩
abbrev timing4TBufField : BitfieldField32 := ⟨0x1fff, 16⟩

/-- The word for a register with two fields. -/
def timingWord (field field' : BitfieldField32) (cycles cycles' : BitVec 16) : BitVec 32 :=
  let timing := bitfieldField32Write 0 field (cycles.setWidth 32)
  bitfieldField32Write timing field' (cycles'.setWidth 32)

/-- `dif_i2c_configure` -/
def difI2cConfigure (i2c : Pointer) (config : DifI2cConfig) : Mmio DifResult := do
  if i2c = .null then
    return .kDifBadArg
  mmioRegionWrite32 timing0RegOffset
    (timingWord timing0ThighField timing0TlowField config.sclTimeHighCycles
      config.sclTimeLowCycles)
  mmioRegionWrite32 timing1RegOffset
    (timingWord timing1TRField timing1TFField config.riseCycles config.fallCycles)
  mmioRegionWrite32 timing2RegOffset
    (timingWord timing2TsuStaField timing2ThdStaField config.startSignalSetupCycles
      config.startSignalHoldCycles)
  mmioRegionWrite32 timing3RegOffset
    (timingWord timing3TsuDatField timing3ThdDatField config.dataSignalSetupCycles
      config.dataSignalHoldCycles)
  mmioRegionWrite32 timing4RegOffset
    (timingWord timing4TsuStoField timing4TBufField config.stopSignalSetupCycles
      config.stopSignalHoldCycles)
  return .kDifOk

/-! ## What is asked for -/

/-- The parameters of the timing. -/
inductive TimingParameter where
  | sclTimeHigh
  | sclTimeLow
  | rise
  | fall
  | startSignalSetup
  | startSignalHold
  | dataSignalSetup
  | dataSignalHold
  | stopSignalSetup
  | stopSignalHold
  deriving DecidableEq

namespace TimingParameter

/-- The register of a parameter. -/
def regOffset : TimingParameter -> Nat
  | sclTimeHigh | sclTimeLow => timing0RegOffset
  | rise | fall => timing1RegOffset
  | startSignalSetup | startSignalHold => timing2RegOffset
  | dataSignalSetup | dataSignalHold => timing3RegOffset
  | stopSignalSetup | stopSignalHold => timing4RegOffset

/-- Its field of the register. -/
def field : TimingParameter -> BitfieldField32
  | sclTimeHigh => timing0ThighField
  | sclTimeLow => timing0TlowField
  | rise => timing1TRField
  | fall => timing1TFField
  | startSignalSetup => timing2TsuStaField
  | startSignalHold => timing2ThdStaField
  | dataSignalSetup => timing3TsuDatField
  | dataSignalHold => timing3ThdDatField
  | stopSignalSetup => timing4TsuStoField
  | stopSignalHold => timing4TBufField

/-- Its number of cycles in a configuration. -/
def cycles (config : DifI2cConfig) : TimingParameter -> BitVec 16
  | sclTimeHigh => config.sclTimeHighCycles
  | sclTimeLow => config.sclTimeLowCycles
  | rise => config.riseCycles
  | fall => config.fallCycles
  | startSignalSetup => config.startSignalSetupCycles
  | startSignalHold => config.startSignalHoldCycles
  | dataSignalSetup => config.dataSignalSetupCycles
  | dataSignalHold => config.dataSignalHoldCycles
  | stopSignalSetup => config.stopSignalSetupCycles
  | stopSignalHold => config.stopSignalHoldCycles

end TimingParameter

/-- A time in nanoseconds that depends on the speed. -/
def bySpeed (speed : DifI2cSpeed) (standard fast fastPlus : Nat) : Nat :=
  if speed = kDifI2cSpeedStandard then standard
  else if speed = kDifI2cSpeedFast then fast
  else fastPlus

/-- The time in nanoseconds that a parameter has to last: the minimum of the I2C
specification, or what was asked for. -/
def minimumNanos (timing : DifI2cTimingConfig) : TimingParameter -> Nat
  | .sclTimeHigh => bySpeed timing.lowestTargetDeviceSpeed 4000 600 260
  | .sclTimeLow => bySpeed timing.lowestTargetDeviceSpeed 4700 1300 500
  | .rise => timing.sdaRiseNanos.toNat
  | .fall => timing.sdaFallNanos.toNat
  | .startSignalSetup => bySpeed timing.lowestTargetDeviceSpeed 4700 600 260
  | .startSignalHold => bySpeed timing.lowestTargetDeviceSpeed 4000 600 260
  | .dataSignalSetup => bySpeed timing.lowestTargetDeviceSpeed 250 100 50
  | .dataSignalHold => 0
  | .stopSignalSetup => bySpeed timing.lowestTargetDeviceSpeed 4000 600 260
  | .stopSignalHold => bySpeed timing.lowestTargetDeviceSpeed 4700 1300 500

/-- The larger one of the period of `SCL` that was asked for and that of the specification. -/
def minimumPeriodNanos (timing : DifI2cTimingConfig) : Nat :=
  max timing.sclPeriodNanos.toNat (bySpeed timing.lowestTargetDeviceSpeed 10000 2500 1000)

/-- All parameters last long enough, and so does a period of `SCL`. -/
structure InSpec (timing : DifI2cTimingConfig) (config : DifI2cConfig) : Prop where
  parameters : forall parameter, minimumNanos timing parameter <=
    (TimingParameter.cycles config parameter).toNat * timing.clockPeriodNanos.toNat
  period : minimumPeriodNanos timing <=
    (config.sclTimeLowCycles.toNat + config.sclTimeHighCycles.toNat + config.riseCycles.toNat +
      config.fallCycles.toNat) * timing.clockPeriodNanos.toNat

/-- Registers that hold the words written to them. -/
def registerFile : Device (Nat -> BitVec 32) where
  read32 offset registers := (registers offset, registers)
  write32 offset value registers := Function.update registers offset value
  write8 _ _ registers := registers

/-- Every field holds exactly its value once the configuration has been written. -/
def Configured (config : DifI2cConfig) : Prop :=
  forall registers, Exists fun after =>
    (difI2cConfigure .object config).run registerFile registers = some (.kDifOk, after) ∧
    forall parameter : TimingParameter,
      bitfieldField32Read (after parameter.regOffset) parameter.field =
        (parameter.cycles config).setWidth 32

/-- The values of a configuration fit the fields. -/
def FitsFields (config : DifI2cConfig) : Prop :=
  forall parameter : TimingParameter,
    (parameter.cycles config).toNat <= parameter.field.mask.toNat

/-- What is computed without an error is as the specification has it and reaches the
registers, and there is an error where nothing of the kind fits them. -/
structure ComputesTiming (timing : DifI2cTimingConfig) (old : DifI2cConfig) : Prop where
  computed : (difI2cComputeTiming timing .object old).1 = .kDifOk ->
    InSpec timing (difI2cComputeTiming timing .object old).2 ∧
      Configured (difI2cComputeTiming timing .object old).2
  refused : (forall config, FitsFields config -> ¬ InSpec timing config) ->
    (difI2cComputeTiming timing .object old).1 ≠ .kDifOk

/-! ## Divisions -/

/-- The number of cycles that `round_up_divide` makes of a time, before it is cut; for a
time of zero also after that. -/
def edgeCycles (nanos period : Nat) : Nat :=
  if nanos = 0 then ((2 ^ 32 - 1) / period + 1) % 2 ^ 16 else nanos ⌈/⌉ period

theorem roundUpDivide_toNat (a : BitVec 32) {b : BitVec 32} (nonzero : b ≠ 0) :
    (roundUpDivide a b).toNat = edgeCycles a.toNat b.toNat % 2 ^ 16 := by
  have positive : 0 < b.toNat := Nat.pos_of_ne_zero (BitVec.toNat_ne_iff_ne.mpr nonzero)
  have cut : (roundUpDivide a b).toNat = ((a - 1).toNat / b.toNat + 1) % 2 ^ 16 := by
    unfold roundUpDivide
    rw [BitVec.toNat_setWidth, BitVec.toNat_add, BitVec.toNat_udiv]
    exact Nat.mod_mod_of_dvd _ (by decide)
  unfold edgeCycles
  split
  · next zero =>
      have wrapped : (a - 1).toNat = 2 ^ 32 - 1 := by
        rw [BitVec.toNat_sub, zero]
        rfl
      rw [cut, wrapped, Nat.mod_mod]
  · next some =>
      have less : (a - 1).toNat = a.toNat - 1 := by
        rw [BitVec.toNat_sub_of_le]
        · rfl
        · exact Nat.pos_of_ne_zero some
      have rounded : (a.toNat - 1) / b.toNat + 1 = a.toNat ⌈/⌉ b.toNat := by
        rw [Nat.ceilDiv_eq_add_pred_div, <- Nat.add_div_right _ positive]
        congr 1
        omega
      rw [cut, less, rounded]

theorem ceilDiv_le_self {period : Nat} (positive : 0 < period) (nanos : Nat) :
    nanos ⌈/⌉ period <= nanos :=
  (ceilDiv_le_iff_le_mul positive).mpr (Nat.le_mul_of_pos_left nanos positive)

/-- A time that is not cut. -/
theorem roundUpDivide_small {nanos : Nat} {b : BitVec 32} (nonzero : b ≠ 0) (some : 0 < nanos)
    (small : nanos < 2 ^ 16) :
    (roundUpDivide (BitVec.ofNat 32 nanos) b).toNat = nanos ⌈/⌉ b.toNat := by
  have positive : 0 < b.toNat := Nat.pos_of_ne_zero (BitVec.toNat_ne_iff_ne.mpr nonzero)
  have most := ceilDiv_le_self positive nanos
  have value : (BitVec.ofNat 32 nanos).toNat = nanos := by
    rw [BitVec.toNat_ofNat]
    omega
  rw [roundUpDivide_toNat _ nonzero, value, edgeCycles, if_neg (Nat.ne_of_gt some)]
  exact Nat.mod_eq_of_lt (Nat.lt_of_le_of_lt most small)

/-! ## Speeds -/

/-- One of the three speeds. -/
def KnownSpeed (speed : DifI2cSpeed) : Prop :=
  speed = kDifI2cSpeedStandard ∨ speed = kDifI2cSpeedFast ∨ speed = kDifI2cSpeedFastPlus

/-- The cycles of a parameter that depends on the speed only. -/
def speedCycles (speed : DifI2cSpeed) (period : BitVec 32) (standard fast fastPlus : Nat) :
    BitVec 16 :=
  roundUpDivide (BitVec.ofNat 32 (bySpeed speed standard fast fastPlus)) period

theorem defaultTimingForSpeed_known {speed : DifI2cSpeed} (known : KnownSpeed speed)
    (period : BitVec 32) : defaultTimingForSpeed speed period =
      { sclTimeHighCycles := speedCycles speed period 4000 600 260
        sclTimeLowCycles := speedCycles speed period 4700 1300 500
        riseCycles := 0
        fallCycles := 0
        startSignalSetupCycles := speedCycles speed period 4700 600 260
        startSignalHoldCycles := speedCycles speed period 4000 600 260
        dataSignalSetupCycles := speedCycles speed period 250 100 50
        dataSignalHoldCycles := 1
        stopSignalSetupCycles := speedCycles speed period 4000 600 260
        stopSignalHoldCycles := speedCycles speed period 4700 1300 500 } := by
  rcases known with rfl | rfl | rfl
  · rfl
  · rfl
  · rfl

theorem slowestSclPeriod_known {speed : DifI2cSpeed} (known : KnownSpeed speed) :
    Exists fun speedKhz => lowestTargetDeviceSpeedKhz speed = some speedKhz ∧
      (kNanosPerKBaud / speedKhz).toNat = bySpeed speed 10000 2500 1000 := by
  rcases known with rfl | rfl | rfl
  · exact ⟨100, rfl, rfl⟩
  · exact ⟨400, rfl, rfl⟩
  · exact ⟨1000, rfl, rfl⟩

theorem bySpeed_between (speed : DifI2cSpeed) {standard fast fastPlus low high : Nat}
    (first : low <= standard ∧ standard <= high) (second : low <= fast ∧ fast <= high)
    (third : low <= fastPlus ∧ fastPlus <= high) :
    low <= bySpeed speed standard fast fastPlus ∧ bySpeed speed standard fast fastPlus <= high := by
  unfold bySpeed
  split
  · exact first
  · split
    · exact second
    · exact third

theorem speedCycles_toNat (speed : DifI2cSpeed) {period : BitVec 32} (nonzero : period ≠ 0)
    {standard fast fastPlus : Nat} (first : 1 <= standard ∧ standard <= 10000)
    (second : 1 <= fast ∧ fast <= 10000) (third : 1 <= fastPlus ∧ fastPlus <= 10000) :
    (speedCycles speed period standard fast fastPlus).toNat =
      bySpeed speed standard fast fastPlus ⌈/⌉ period.toNat := by
  have between := bySpeed_between speed first second third
  exact roundUpDivide_small nonzero between.1 (by omega)

/-! ## What is computed -/

section

variable (timing : DifI2cTimingConfig)

/-- A minimum in cycles. -/
def minimumCycles (parameter : TimingParameter) : Nat :=
  minimumNanos timing parameter ⌈/⌉ timing.clockPeriodNanos.toNat

/-- The cycles of the edges, as they are before they are cut. -/
def riseCycles : Nat := edgeCycles timing.sdaRiseNanos.toNat timing.clockPeriodNanos.toNat

/-- Those of the other edge. -/
def fallCycles : Nat := edgeCycles timing.sdaFallNanos.toNat timing.clockPeriodNanos.toNat

/-- The cycles of a period of `SCL`, before they are cut. -/
def periodCycles : Nat := minimumPeriodNanos timing ⌈/⌉ timing.clockPeriodNanos.toNat

/-- What is computed, all cycles being cut to 16 bits. -/
structure Computed (config : DifI2cConfig) : Prop where
  high : config.sclTimeHighCycles.toNat =
    max 4 (max (minimumCycles timing .sclTimeHigh)
      (periodCycles timing % 2 ^ 16 - minimumCycles timing .sclTimeLow -
        riseCycles timing % 2 ^ 16 - fallCycles timing % 2 ^ 16))
  low : config.sclTimeLowCycles.toNat = max 4 (minimumCycles timing .sclTimeLow)
  rise : config.riseCycles.toNat = riseCycles timing % 2 ^ 16
  fall : config.fallCycles.toNat = fallCycles timing % 2 ^ 16
  startSetup : config.startSignalSetupCycles.toNat = minimumCycles timing .startSignalSetup
  startHold : config.startSignalHoldCycles.toNat = minimumCycles timing .startSignalHold
  dataSetup : config.dataSignalSetupCycles.toNat = minimumCycles timing .dataSignalSetup
  dataHold : config.dataSignalHoldCycles.toNat = 1
  stopSetup : config.stopSignalSetupCycles.toNat = minimumCycles timing .stopSignalSetup
  stopHold : config.stopSignalHoldCycles.toNat = minimumCycles timing .stopSignalHold

variable {timing}

/-- A period that is not shorter than the one of the specification. -/
theorem sclPeriod_toNat {slowest : BitVec 32}
    (slowest_eq : slowest.toNat = bySpeed timing.lowestTargetDeviceSpeed 10000 2500 1000) :
    (if timing.sclPeriodNanos < slowest then slowest else timing.sclPeriodNanos).toNat =
      minimumPeriodNanos timing := by
  unfold minimumPeriodNanos
  rw [<- slowest_eq]
  split
  · next shorter => exact (Nat.max_eq_right (Nat.le_of_lt shorter)).symm
  · next longer => exact (Nat.max_eq_left (Nat.le_of_not_lt longer)).symm

/-- At least four cycles. -/
theorem atLeastFour_toNat (cycles : BitVec 16) :
    (if cycles < 4 then 4 else cycles).toNat = max 4 cycles.toNat := by
  split
  · next few => exact (Nat.max_eq_left (Nat.le_of_lt few)).symm
  · next enough => exact (Nat.max_eq_right (Nat.le_of_not_lt enough)).symm

/-- The high cycles, lengthened if that is needed. -/
theorem lengthened_toNat (high : BitVec 16) {lengthened : Int} (small : lengthened <= 0xffff) :
    (if lengthened > high.toNat then BitVec.ofInt 16 lengthened else high).toNat =
      max high.toNat lengthened.toNat := by
  split
  · next longer =>
      rw [BitVec.toNat_ofInt]
      omega
  · next shorter => omega

/-- The corrections are about the two halves of `SCL` only. -/
theorem correctCycles_eq (config : DifI2cConfig) (lengthened : Int) :
    correctCycles config lengthened = { config with
      sclTimeHighCycles :=
        let high := if lengthened > config.sclTimeHighCycles.toNat then
          BitVec.ofInt 16 lengthened else config.sclTimeHighCycles
        if high < 4 then 4 else high
      sclTimeLowCycles := if config.sclTimeLowCycles < 4 then 4 else config.sclTimeLowCycles } := by
  unfold correctCycles
  dsimp only
  by_cases longer : lengthened > config.sclTimeHighCycles.toNat
  · simp only [if_pos longer]
    by_cases few : BitVec.ofInt 16 lengthened < 4
    · simp only [if_pos few]
      split
      · rfl
      · rfl
    · simp only [if_neg few]
      split
      · rfl
      · rfl
  · simp only [if_neg longer]
    by_cases few : config.sclTimeHighCycles < 4
    · simp only [if_pos few]
      split
      · rfl
      · rfl
    · simp only [if_neg few]
      split
      · rfl
      · rfl

theorem difI2cComputeTiming_computed (known : KnownSpeed timing.lowestTargetDeviceSpeed)
    (nonzero : timing.clockPeriodNanos ≠ 0) (old : DifI2cConfig) :
    (difI2cComputeTiming timing .object old).1 = .kDifOk ∧
      Computed timing (difI2cComputeTiming timing .object old).2 := by
  rcases slowestSclPeriod_known known with ⟨speedKhz, speed, slowest⟩
  have period := sclPeriod_toNat slowest
  have cycles := roundUpDivide_toNat (if timing.sclPeriodNanos < kNanosPerKBaud / speedKhz then
    kNanosPerKBaud / speedKhz else timing.sclPeriodNanos) nonzero
  have some : minimumPeriodNanos timing ≠ 0 := by
    have between := bySpeed_between timing.lowestTargetDeviceSpeed
      (show 1 <= 10000 ∧ 10000 <= 10000 by decide) (show 1 <= 2500 ∧ 2500 <= 10000 by decide)
      (show 1 <= 1000 ∧ 1000 <= 10000 by decide)
    unfold minimumPeriodNanos
    omega
  rw [period, edgeCycles, if_neg some] at cycles
  unfold difI2cComputeTiming
  rw [if_neg (by decide), speed]
  dsimp only
  rw [defaultTimingForSpeed_known known]
  dsimp only
  generalize roundUpDivide (if timing.sclPeriodNanos < kNanosPerKBaud / speedKhz then
    kNanosPerKBaud / speedKhz else timing.sclPeriodNanos) timing.clockPeriodNanos =
      sclPeriodCycles at cycles ⊢
  have ofSpeed (parameter : TimingParameter) {standard fast fastPlus : Nat}
      (minimum : minimumNanos timing parameter =
        bySpeed timing.lowestTargetDeviceSpeed standard fast fastPlus)
      (first : 1 <= standard ∧ standard <= 10000) (second : 1 <= fast ∧ fast <= 10000)
      (third : 1 <= fastPlus ∧ fastPlus <= 10000) :
      (speedCycles timing.lowestTargetDeviceSpeed timing.clockPeriodNanos standard fast
        fastPlus).toNat = minimumCycles timing parameter := by
    rw [speedCycles_toNat _ nonzero first second third, minimumCycles, minimum]
  have high := ofSpeed .sclTimeHigh rfl (by decide) (by decide) (by decide)
  have low := ofSpeed .sclTimeLow rfl (by decide) (by decide) (by decide)
  have rise : _ = riseCycles timing % 2 ^ 16 := roundUpDivide_toNat timing.sdaRiseNanos nonzero
  have fall : _ = fallCycles timing % 2 ^ 16 := roundUpDivide_toNat timing.sdaFallNanos nonzero
  have whole : sclPeriodCycles.toNat = periodCycles timing % 2 ^ 16 := cycles
  have limit := sclPeriodCycles.isLt
  rw [if_neg (by omega)]
  refine ⟨rfl, ?_⟩
  dsimp only
  rw [correctCycles_eq]
  constructor
  · dsimp only
    rw [atLeastFour_toNat, lengthened_toNat _ (by omega), high]
    omega
  · exact (atLeastFour_toNat _).trans (congrArg (max 4) low)
  · exact rise
  · exact fall
  · exact ofSpeed .startSignalSetup rfl (by decide) (by decide) (by decide)
  · exact ofSpeed .startSignalHold rfl (by decide) (by decide) (by decide)
  · exact ofSpeed .dataSignalSetup rfl (by decide) (by decide) (by decide)
  · rfl
  · exact ofSpeed .stopSignalSetup rfl (by decide) (by decide) (by decide)
  · exact ofSpeed .stopSignalHold rfl (by decide) (by decide) (by decide)

end

/-! ## What reaches the registers -/

section

variable {field field' : BitfieldField32} (cycles cycles' : BitVec 16)

theorem timingWord_first (fits : field.Fits) (apart : field'.Apart field) :
    bitfieldField32Read (timingWord field field' cycles cycles') field =
      cycles.setWidth 32 &&& field.mask :=
  (bitfieldField32Read_write_other apart _ _).trans (bitfieldField32Read_write_same fits _ _)

theorem timingWord_second (fits : field'.Fits) :
    bitfieldField32Read (timingWord field field' cycles cycles') field' =
      cycles'.setWidth 32 &&& field'.mask :=
  bitfieldField32Read_write_same fits _ _

/-- A value is not cut exactly if the field has room for it. -/
theorem setWidth_and_mask_iff {width : Nat} (run : field.mask.toNat = 2 ^ width - 1) :
    cycles.setWidth 32 &&& field.mask = cycles.setWidth 32 ↔
      cycles.toNat <= field.mask.toNat := by
  have wide : (cycles.setWidth 32).toNat = cycles.toNat := BitVec.toNat_setWidth_of_le (by decide)
  have room : 0 < 2 ^ width := Nat.two_pow_pos width
  rw [<- BitVec.toNat_inj, toNat_and_mask run, wide, run, Nat.mod_eq_iff_lt (Nat.ne_of_gt room)]
  omega

end

theorem TimingParameter.mask_run (parameter : TimingParameter) :
    Exists fun width => parameter.field.mask.toNat = 2 ^ width - 1 := by
  cases parameter with
  | rise => exact ⟨10, rfl⟩
  | fall | dataSignalSetup => exact ⟨9, rfl⟩
  | sclTimeHigh | sclTimeLow | startSignalSetup | startSignalHold | dataSignalHold
  | stopSignalSetup | stopSignalHold => exact ⟨13, rfl⟩

/-- The registers behind a configuration. -/
def configuredRegisters (config : DifI2cConfig) (registers : Nat -> BitVec 32) :
    Nat -> BitVec 32 :=
  Function.update (Function.update (Function.update (Function.update (Function.update registers
    timing0RegOffset (timingWord timing0ThighField timing0TlowField config.sclTimeHighCycles
      config.sclTimeLowCycles))
    timing1RegOffset (timingWord timing1TRField timing1TFField config.riseCycles
      config.fallCycles))
    timing2RegOffset (timingWord timing2TsuStaField timing2ThdStaField
      config.startSignalSetupCycles config.startSignalHoldCycles))
    timing3RegOffset (timingWord timing3TsuDatField timing3ThdDatField
      config.dataSignalSetupCycles config.dataSignalHoldCycles))
    timing4RegOffset (timingWord timing4TsuStoField timing4TBufField
      config.stopSignalSetupCycles config.stopSignalHoldCycles)

theorem run_difI2cConfigure (config : DifI2cConfig) (registers : Nat -> BitVec 32) :
    (difI2cConfigure .object config).run registerFile registers =
      some (.kDifOk, configuredRegisters config registers) := rfl

theorem read_configuredRegisters (config : DifI2cConfig) (registers : Nat -> BitVec 32)
    (parameter : TimingParameter) :
    bitfieldField32Read (configuredRegisters config registers parameter.regOffset)
        parameter.field =
      (parameter.cycles config).setWidth 32 &&& parameter.field.mask := by
  cases parameter with
  | sclTimeHigh | rise | startSignalSetup | dataSignalSetup | stopSignalSetup =>
      exact timingWord_first _ _ (by decide) (by decide)
  | sclTimeLow | fall | startSignalHold | dataSignalHold | stopSignalHold =>
      exact timingWord_second _ _ (by decide)

theorem configured_iff (config : DifI2cConfig) : Configured config ↔ FitsFields config := by
  have holds (registers : Nat -> BitVec 32) (parameter : TimingParameter) :
      bitfieldField32Read (configuredRegisters config registers parameter.regOffset)
          parameter.field = (parameter.cycles config).setWidth 32 ↔
        (parameter.cycles config).toNat <= parameter.field.mask.toNat := by
    rcases parameter.mask_run with ⟨width, run⟩
    rw [read_configuredRegisters, setWidth_and_mask_iff _ run]
  constructor
  · intro configured parameter
    rcases configured (fun _ => 0) with ⟨after, ran, exact⟩
    rw [run_difI2cConfigure] at ran
    cases ran
    exact (holds _ parameter).mp (exact parameter)
  · intro fits registers
    exact ⟨_, run_difI2cConfigure config registers,
      fun parameter => (holds registers parameter).mpr (fits parameter)⟩

/-! ## When the timing is as it should be -/

section

variable {timing : DifI2cTimingConfig}

/-- The cycles of both edges and of the high time of `SCL` fit their fields before anything
is cut. -/
structure TimingFits (timing : DifI2cTimingConfig) : Prop where
  rise : riseCycles timing <= 1023
  fall : fallCycles timing <= 511
  period : periodCycles timing <=
    8191 + minimumCycles timing .sclTimeLow + riseCycles timing + fallCycles timing

/-- The specification in cycles. -/
theorem inSpec_iff (positive : 0 < timing.clockPeriodNanos.toNat) (config : DifI2cConfig) :
    InSpec timing config ↔
      (forall parameter, minimumCycles timing parameter <=
        (TimingParameter.cycles config parameter).toNat) ∧
      periodCycles timing <= config.sclTimeLowCycles.toNat + config.sclTimeHighCycles.toNat +
        config.riseCycles.toNat + config.fallCycles.toNat := by
  have inCycles (nanos cycles : Nat) :
      nanos ⌈/⌉ timing.clockPeriodNanos.toNat <= cycles ↔
        nanos <= cycles * timing.clockPeriodNanos.toNat := by
    rw [ceilDiv_le_iff_le_mul positive, Nat.mul_comm]
  constructor
  · rintro ⟨parameters, period⟩
    exact ⟨fun parameter => (inCycles _ _).mpr (parameters parameter), (inCycles _ _).mpr period⟩
  · rintro ⟨parameters, period⟩
    exact ⟨fun parameter => (inCycles _ _).mp (parameters parameter), (inCycles _ _).mp period⟩

/-- The minimum of an edge is what it takes, unless it is to take no time at all. -/
theorem edgeCycles_minimum (nanos period : Nat) :
    nanos ⌈/⌉ period = edgeCycles nanos period ∨
      (nanos ⌈/⌉ period = 0 ∧ edgeCycles nanos period < 2 ^ 16) := by
  unfold edgeCycles
  split
  · next zero =>
      right
      exact ⟨by rw [zero, zero_ceilDiv], Nat.mod_lt _ (by decide)⟩
  · exact Or.inl rfl

/-- The minima of the specification are short enough for every clock. -/
theorem minimumCycles_le (positive : 0 < timing.clockPeriodNanos.toNat)
    {parameter : TimingParameter} {most : Nat} (short : minimumNanos timing parameter <= most) :
    minimumCycles timing parameter <= most :=
  Nat.le_trans (ceilDiv_le_self positive _) short

theorem bySpeed_le (speed : DifI2cSpeed) {standard fast fastPlus most : Nat}
    (first : standard <= most) (second : fast <= most) (third : fastPlus <= most) :
    bySpeed speed standard fast fastPlus <= most :=
  (bySpeed_between speed ⟨Nat.zero_le _, first⟩ ⟨Nat.zero_le _, second⟩
    ⟨Nat.zero_le _, third⟩).2

theorem computed_iff (positive : 0 < timing.clockPeriodNanos.toNat) {config : DifI2cConfig}
    (computed : Computed timing config) :
    InSpec timing config ∧ FitsFields config ↔ TimingFits timing := by
  have rise := edgeCycles_minimum timing.sdaRiseNanos.toNat timing.clockPeriodNanos.toNat
  have fall := edgeCycles_minimum timing.sdaFallNanos.toNat timing.clockPeriodNanos.toNat
  change minimumCycles timing .rise = riseCycles timing ∨
    (minimumCycles timing .rise = 0 ∧ riseCycles timing < 2 ^ 16) at rise
  change minimumCycles timing .fall = fallCycles timing ∨
    (minimumCycles timing .fall = 0 ∧ fallCycles timing < 2 ^ 16) at fall
  have speed (parameter : TimingParameter) {standard fast fastPlus most : Nat}
      (minimum : minimumNanos timing parameter =
        bySpeed timing.lowestTargetDeviceSpeed standard fast fastPlus)
      (first : standard <= most) (second : fast <= most) (third : fastPlus <= most) :
      minimumCycles timing parameter <= most :=
    minimumCycles_le positive (minimum.trans_le (bySpeed_le _ first second third))
  have high := @speed .sclTimeHigh _ _ _ 4700 rfl (by decide) (by decide) (by decide)
  have low := @speed .sclTimeLow _ _ _ 4700 rfl (by decide) (by decide) (by decide)
  rcases computed with ⟨high', low', rise', fall', startSetup, startHold, dataSetup, dataHold,
    stopSetup, stopHold⟩
  rw [inSpec_iff positive]
  constructor
  · rintro ⟨⟨parameters, period⟩, fits⟩
    have riseFits : config.riseCycles.toNat <= 1023 := fits .rise
    have fallFits : config.fallCycles.toNat <= 511 := fits .fall
    have highFits : config.sclTimeHighCycles.toNat <= 8191 := fits .sclTimeHigh
    have riseLasts : _ <= config.riseCycles.toNat := parameters .rise
    have fallLasts : _ <= config.fallCycles.toNat := parameters .fall
    exact ⟨by omega, by omega, by omega⟩
  · rintro ⟨riseFits, fallFits, periodFits⟩
    have startSetupShort :=
      @speed .startSignalSetup _ _ _ 4700 rfl (by decide) (by decide) (by decide)
    have startHoldShort :=
      @speed .startSignalHold _ _ _ 4700 rfl (by decide) (by decide) (by decide)
    have dataSetupShort :=
      @speed .dataSignalSetup _ _ _ 250 rfl (by decide) (by decide) (by decide)
    have stopSetupShort :=
      @speed .stopSignalSetup _ _ _ 4700 rfl (by decide) (by decide) (by decide)
    have stopHoldShort :=
      @speed .stopSignalHold _ _ _ 4700 rfl (by decide) (by decide) (by decide)
    have dataHoldNone : minimumCycles timing .dataSignalHold = 0 := zero_ceilDiv _
    refine ⟨⟨fun parameter => ?_, by omega⟩, fun parameter => ?_⟩
    · cases parameter with
      | sclTimeHigh =>
          change _ <= config.sclTimeHighCycles.toNat
          omega
      | sclTimeLow =>
          change _ <= config.sclTimeLowCycles.toNat
          omega
      | rise =>
          change _ <= config.riseCycles.toNat
          omega
      | fall =>
          change _ <= config.fallCycles.toNat
          omega
      | startSignalSetup => exact Nat.le_of_eq startSetup.symm
      | startSignalHold => exact Nat.le_of_eq startHold.symm
      | dataSignalSetup => exact Nat.le_of_eq dataSetup.symm
      | dataSignalHold => exact dataHoldNone.trans_le (Nat.zero_le _)
      | stopSignalSetup => exact Nat.le_of_eq stopSetup.symm
      | stopSignalHold => exact Nat.le_of_eq stopHold.symm
    · cases parameter with
      | sclTimeHigh =>
          change config.sclTimeHighCycles.toNat <= 8191
          omega
      | sclTimeLow =>
          change config.sclTimeLowCycles.toNat <= 8191
          omega
      | rise =>
          change config.riseCycles.toNat <= 1023
          omega
      | fall =>
          change config.fallCycles.toNat <= 511
          omega
      | startSignalSetup =>
          change config.startSignalSetupCycles.toNat <= 8191
          omega
      | startSignalHold =>
          change config.startSignalHoldCycles.toNat <= 8191
          omega
      | dataSignalSetup =>
          change config.dataSignalSetupCycles.toNat <= 511
          omega
      | dataSignalHold =>
          change config.dataSignalHoldCycles.toNat <= 8191
          omega
      | stopSignalSetup =>
          change config.stopSignalSetupCycles.toNat <= 8191
          omega
      | stopSignalHold =>
          change config.stopSignalHoldCycles.toNat <= 8191
          omega

/-- Of no other speed is anything computed. -/
theorem difI2cComputeTiming_unknown (unknown : ¬ KnownSpeed timing.lowestTargetDeviceSpeed)
    (old : DifI2cConfig) : difI2cComputeTiming timing .object old = (.kDifBadArg, old) := by
  have none : lowestTargetDeviceSpeedKhz timing.lowestTargetDeviceSpeed = none := by
    unfold KnownSpeed at unknown
    unfold lowestTargetDeviceSpeedKhz
    rw [if_neg (fun same => unknown (Or.inl same)),
      if_neg (fun same => unknown (Or.inr (Or.inl same))),
      if_neg (fun same => unknown (Or.inr (Or.inr same)))]
  unfold difI2cComputeTiming
  rw [if_neg (by decide), none]

/-- For one of the speeds, the timing is as it should be exactly if everything fits. -/
theorem computesTiming_known (known : KnownSpeed timing.lowestTargetDeviceSpeed)
    (nonzero : timing.clockPeriodNanos ≠ 0) (old : DifI2cConfig) :
    ComputesTiming timing old ↔ TimingFits timing := by
  have positive : 0 < timing.clockPeriodNanos.toNat :=
    Nat.pos_of_ne_zero (BitVec.toNat_ne_iff_ne.mpr nonzero)
  rcases difI2cComputeTiming_computed known nonzero old with ⟨ok, computed⟩
  have fits := computed_iff positive computed
  rw [<- configured_iff] at fits
  constructor
  · intro computes
    exact fits.mp (computes.computed ok)
  · intro holds
    have good := fits.mpr holds
    refine ⟨fun _ => good, fun none _ => ?_⟩
    exact none _ ((configured_iff _).mp good.2) good.1

end

/-- The timing is computed and configured as the specification has it exactly if the cycles
fit the fields before they are cut. -/
theorem computesTiming_iff (timing : DifI2cTimingConfig) (old : DifI2cConfig)
    (nonzero : timing.clockPeriodNanos ≠ 0) :
    ComputesTiming timing old ↔
      (KnownSpeed timing.lowestTargetDeviceSpeed -> TimingFits timing) := by
  by_cases known : KnownSpeed timing.lowestTargetDeviceSpeed
  · rw [computesTiming_known known nonzero]
    exact ⟨fun fits _ => fits, fun fits => fits known⟩
  · have refused : (difI2cComputeTiming timing .object old).1 ≠ .kDifOk := by
      rw [difI2cComputeTiming_unknown known]
      exact nofun
    exact iff_of_true ⟨fun ok => absurd ok refused, fun _ => refused⟩
      (fun speed => absurd speed known)

/-- Fast mode with a clock of 40 MHz. -/
theorem computesTiming_iff_fast :
    ComputesTiming ⟨kDifI2cSpeedFast, 25, 120, 30, 0⟩ ⟨0, 0, 0, 0, 0, 0, 0, 0, 0, 0⟩ ↔
      (KnownSpeed kDifI2cSpeedFast -> TimingFits ⟨kDifI2cSpeedFast, 25, 120, 30, 0⟩) :=
  computesTiming_iff ⟨kDifI2cSpeedFast, 25, 120, 30, 0⟩ ⟨0, 0, 0, 0, 0, 0, 0, 0, 0, 0⟩ (by decide)

/-- With the same clock, a period of 1 ms has more cycles than the field for the high time
can hold. -/
theorem computesTiming_apart :
    ¬ ComputesTiming ⟨kDifI2cSpeedStandard, 25, 120, 30, 1000000⟩
      ⟨0, 0, 0, 0, 0, 0, 0, 0, 0, 0⟩ := by
  rw [computesTiming_known (Or.inl rfl) (by decide)]
  rintro ⟨-, -, period⟩
  exact absurd period (by decide)

end I2c
end SunburstChip
