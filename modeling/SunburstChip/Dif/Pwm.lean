import SunburstChip.Dif.Base
import SunburstChip.Lib.RegisterBank

namespace SunburstChip
namespace Pwm

open Mmio

/-!
# Channels of the PWM

`dif_pwm_configure_channel`.  A pulse cycle has `2 ^ 16` ticks and a number of
beats that is a power of two, so that a beat has a whole number of ticks.  Duty
cycles and the phase are given in beats and programmed in ticks.  The driver
looks at everything that could be wrong before it writes the first register.
-/

/-! ## The registers -/

/-- The registers that `dif_pwm_configure_channel` accesses. -/
inductive Register where
  | regwen
  | cfg
  | invert
  | param (channel : Fin 6)
  | dutyCycle (channel : Fin 6)
  | blinkParam (channel : Fin 6)
deriving DecidableEq

/-- Where the registers lie. -/
def Register.offset : Register -> Nat
  | .regwen => 0x4
  | .cfg => 0x8
  | .invert => 0x10
  | .param channel => 0x14 + 4 * channel.val
  | .dutyCycle channel => 0x2c + 4 * channel.val
  | .blinkParam channel => 0x44 + 4 * channel.val

/-- The registers of the PWM. -/
def layout : Layout Register where
  offset := Register.offset
  registers := [.regwen, .cfg, .invert] ++ (List.finRange 6).map .param ++
    (List.finRange 6).map .dutyCycle ++ (List.finRange 6).map .blinkParam
  complete register := by
    cases register <;> simp
  apart := by
    intro left right same
    cases left <;> cases right <;> simp only [Register.offset] at same <;>
      first
        | rfl
        | exact congrArg _ (Fin.ext (by omega))
        | omega

abbrev cfgDcResnField : BitfieldField32 := ⟨0xf, 27⟩
abbrev paramPhaseDelayField : BitfieldField32 := ⟨0xffff, 0⟩
abbrev paramHtbtEnBit : Nat := 30
abbrev paramBlinkEnBit : Nat := 31
abbrev dutyCycleAField : BitfieldField32 := ⟨0xffff, 0⟩
abbrev dutyCycleBField : BitfieldField32 := ⟨0xffff, 16⟩
abbrev blinkParamXField : BitfieldField32 := ⟨0xffff, 0⟩
abbrev blinkParamYField : BitfieldField32 := ⟨0xffff, 16⟩

/-! ## The driver -/

/-- `dif_pwm_mode_t`, an enumeration whose variables may hold any word. -/
abbrev DifPwmMode := BitVec 32

def kDifPwmModeFirmware : DifPwmMode := 0
def kDifPwmModeHeartbeat : DifPwmMode := 1
def kDifPwmModeBlink : DifPwmMode := 2

/-- `dif_pwm_polarity_t` -/
abbrev DifPwmPolarity := BitVec 32

def kDifPwmPolarityActiveHigh : DifPwmPolarity := 0
def kDifPwmPolarityActiveLow : DifPwmPolarity := 1

/-- `dif_pwm_channel_t` -/
abbrev DifPwmChannel := BitVec 32

/-- `kDifPwmChannel0` to `kDifPwmChannel5` -/
def kDifPwmChannel (channel : Fin 6) : DifPwmChannel := (1 : BitVec 32) <<< channel.val

/-- `dif_pwm_channel_config_t` -/
structure ChannelConfig where
  dutyCycleA : BitVec 16
  dutyCycleB : BitVec 16
  phaseDelay : BitVec 16
  mode : DifPwmMode
  polarity : DifPwmPolarity
  blinkParameterX : BitVec 16
  blinkParameterY : BitVec 16
deriving DecidableEq

/-- The case of `switch (channel)`. -/
def channelCase (channel : DifPwmChannel) : Option (Fin 6) :=
  (List.finRange 6).find? (fun n => channel = kDifPwmChannel n)

/-- `beats_per_pulse_cycle` -/
def beatsPerPulseCycle (dutyCycleResolution : BitVec 8) : BitVec 32 :=
  (1 : BitVec 32) <<< (dutyCycleResolution.toNat + 1)

/-- `phase_cntr_ticks_per_beat` -/
def phaseCntrTicksPerBeat (dutyCycleResolution : BitVec 8) : BitVec 16 :=
  ((1 : BitVec 32) <<< (16 - dutyCycleResolution.toNat - 1)).setWidth 16

section

variable (config : ChannelConfig) (ticks : BitVec 16)

/-- `phase_cntr_ticks_per_beat` times a number of beats. -/
def inTicks (beats : BitVec 16) : BitVec 32 := ticks.setWidth 32 * beats.setWidth 32

/-- `duty_cycle_reg` -/
def ChannelConfig.dutyCycleReg : BitVec 32 :=
  bitfieldField32Write (bitfieldField32Write 0 dutyCycleAField (inTicks ticks config.dutyCycleA))
    dutyCycleBField (inTicks ticks config.dutyCycleB)

/-- `param_reg` -/
def ChannelConfig.paramReg : BitVec 32 :=
  let paramReg := bitfieldField32Write 0 paramPhaseDelayField (inTicks ticks config.phaseDelay)
  let paramReg :=
    if config.mode = kDifPwmModeHeartbeat then bitfieldBit32Write paramReg paramHtbtEnBit true
    else paramReg
  if config.mode = kDifPwmModeBlink ∨ config.mode = kDifPwmModeHeartbeat then
    bitfieldBit32Write paramReg paramBlinkEnBit true
  else paramReg

/-- `blink_param_reg`, and nothing where the parameter or the mode is refused. -/
def ChannelConfig.blinkParamReg (beats : BitVec 32) : Option (BitVec 32) :=
  if config.mode = kDifPwmModeHeartbeat ∨ config.mode = kDifPwmModeBlink then
    let blinkParamReg :=
      bitfieldField32Write 0 blinkParamXField (config.blinkParameterX.setWidth 32)
    if config.mode = kDifPwmModeHeartbeat then
      if config.blinkParameterY.setWidth 32 >= beats then none
      else some (bitfieldField32Write blinkParamReg blinkParamYField
        (inTicks ticks config.blinkParameterY))
    else some (bitfieldField32Write blinkParamReg blinkParamYField
      (config.blinkParameterY.setWidth 32))
  else if config.mode ≠ kDifPwmModeFirmware then none
  else some 0

end

/-- `DIF_PWM_CHANNEL_CONFIG_CASE_`, and the polarity of the channel after the `switch`. -/
def writeChannel (n : Fin 6) (config : ChannelConfig)
    (invertReg dutyCycleReg paramReg blinkParamReg : BitVec 32) : Mmio DifResult := do
  let invertReg := bitfieldBit32Write invertReg n.val (config.polarity != 0)
  mmioRegionWrite32 (Register.dutyCycle n).offset dutyCycleReg
  mmioRegionWrite32 (Register.param n).offset paramReg
  if config.mode = kDifPwmModeHeartbeat ∨ config.mode = kDifPwmModeBlink then
    mmioRegionWrite32 (Register.blinkParam n).offset blinkParamReg
    mmioRegionWrite32 Register.invert.offset invertReg
    return .kDifOk
  else
    mmioRegionWrite32 Register.invert.offset invertReg
    return .kDifOk

/-- `dif_pwm_configure_channel` -/
def difPwmConfigureChannel (pwm : Pointer) (channel : DifPwmChannel) (config : ChannelConfig) :
    Mmio DifResult := do
  if pwm = .null ∨ (config.polarity ≠ kDifPwmPolarityActiveHigh ∧
      config.polarity ≠ kDifPwmPolarityActiveLow) then
    return .kDifBadArg
  let regwen <- mmioRegionRead32 Register.regwen.offset
  if regwen = 0 then
    return .kDifLocked
  let cfg <- mmioRegionRead32 Register.cfg.offset
  let dutyCycleResolution := (bitfieldField32Read cfg cfgDcResnField).setWidth 8
  let beats := beatsPerPulseCycle dutyCycleResolution
  if config.dutyCycleA.setWidth 32 >= beats ∨ config.dutyCycleB.setWidth 32 >= beats ∨
      config.phaseDelay.setWidth 32 >= beats then
    return .kDifBadArg
  let ticks := phaseCntrTicksPerBeat dutyCycleResolution
  let dutyCycleReg := config.dutyCycleReg ticks
  let paramReg := config.paramReg ticks
  let invertReg <- mmioRegionRead32 Register.invert.offset
  match config.blinkParamReg ticks beats with
  | none => return .kDifBadArg
  | some blinkParamReg =>
      match channelCase channel with
      | none => return .kDifBadArg
      | some n => writeChannel n config invertReg dutyCycleReg paramReg blinkParamReg

/-! ## Beats and ticks -/

section

variable {resolution : BitVec 8}

theorem beatsPerPulseCycle_toNat (small : resolution.toNat <= 15) :
    (beatsPerPulseCycle resolution).toNat = 2 ^ (resolution.toNat + 1) := by
  have power : 2 ^ (resolution.toNat + 1) < 2 ^ 32 := Nat.pow_lt_pow_right (by decide) (by omega)
  unfold beatsPerPulseCycle
  rw [BitVec.toNat_shiftLeft, Nat.shiftLeft_eq]
  change 1 * 2 ^ (resolution.toNat + 1) % 2 ^ 32 = _
  rw [Nat.one_mul, Nat.mod_eq_of_lt power]

theorem phaseCntrTicksPerBeat_toNat (small : resolution.toNat <= 15) :
    (phaseCntrTicksPerBeat resolution).toNat = 2 ^ (15 - resolution.toNat) := by
  have exponent : 16 - resolution.toNat - 1 = 15 - resolution.toNat := by omega
  have power : 2 ^ (15 - resolution.toNat) < 2 ^ 16 := Nat.pow_lt_pow_right (by decide) (by omega)
  unfold phaseCntrTicksPerBeat
  rw [BitVec.toNat_setWidth, BitVec.toNat_shiftLeft, Nat.shiftLeft_eq, exponent]
  change 1 * 2 ^ (15 - resolution.toNat) % 2 ^ 32 % 2 ^ 16 = _
  rw [Nat.one_mul, Nat.mod_eq_of_lt (Nat.lt_trans power (by decide)), Nat.mod_eq_of_lt power]

/-- The ticks of a beat times the beats of a pulse cycle are those of the pulse cycle. -/
theorem ticks_mul_beats (small : resolution.toNat <= 15) :
    (phaseCntrTicksPerBeat resolution).toNat * (beatsPerPulseCycle resolution).toNat = 2 ^ 16 := by
  have exponent : 15 - resolution.toNat + (resolution.toNat + 1) = 16 := by omega
  rw [phaseCntrTicksPerBeat_toNat small, beatsPerPulseCycle_toNat small, <- Nat.pow_add, exponent]

/-- Fewer beats than those of a pulse cycle are fewer ticks than those of a pulse cycle. -/
theorem inTicks_toNat (small : resolution.toNat <= 15) {beats : BitVec 16}
    (fewer : ¬ beats.setWidth 32 >= beatsPerPulseCycle resolution) :
    (inTicks (phaseCntrTicksPerBeat resolution) beats).toNat =
        (phaseCntrTicksPerBeat resolution).toNat * beats.toNat ∧
      (phaseCntrTicksPerBeat resolution).toNat * beats.toNat < 2 ^ 16 := by
  have below : beats.toNat < (beatsPerPulseCycle resolution).toNat := by
    have wide : (beats.setWidth 32).toNat = beats.toNat := by
      rw [BitVec.toNat_setWidth]
      exact Nat.mod_eq_of_lt (Nat.lt_trans beats.isLt (by decide))
    rw [<- wide]
    exact Nat.lt_of_not_le fewer
  have positive : 0 < (phaseCntrTicksPerBeat resolution).toNat := by
    rw [phaseCntrTicksPerBeat_toNat small]
    exact Nat.two_pow_pos _
  have bound : (phaseCntrTicksPerBeat resolution).toNat * beats.toNat < 2 ^ 16 := by
    rw [<- ticks_mul_beats small]
    exact Nat.mul_lt_mul_of_pos_left below positive
  refine ⟨?_, bound⟩
  have ticks := (phaseCntrTicksPerBeat resolution).isLt
  have given := beats.isLt
  unfold inTicks
  rw [BitVec.toNat_mul, BitVec.toNat_setWidth, BitVec.toNat_setWidth,
    Nat.mod_eq_of_lt (Nat.lt_trans ticks (by decide)),
    Nat.mod_eq_of_lt (Nat.lt_trans given (by decide)),
    Nat.mod_eq_of_lt (Nat.lt_trans bound (by decide))]

/-- A field of 16 bits holds a number of beats in ticks. -/
theorem inTicks_field (small : resolution.toNat <= 15) {beats : BitVec 16}
    (fewer : ¬ beats.setWidth 32 >= beatsPerPulseCycle resolution) :
    (inTicks (phaseCntrTicksPerBeat resolution) beats &&& 0xffff).toNat *
      2 ^ (resolution.toNat + 1) = beats.toNat * 2 ^ 16 := by
  rcases inTicks_toNat small fewer with ⟨value, bound⟩
  have run : (0xffff : BitVec 32).toNat = 2 ^ 16 - 1 := by decide
  have inside := (and_mask_eq_self_iff run (inTicks (phaseCntrTicksPerBeat resolution) beats)).mpr
    (by rw [value]; exact bound)
  rw [inside, value, <- beatsPerPulseCycle_toNat small, Nat.mul_right_comm, ticks_mul_beats small,
    Nat.mul_comm]

end

/-! ## What is programmed -/

section

variable {config : ChannelConfig} {ticks : BitVec 16}

theorem dutyCycleReg_a : bitfieldField32Read (config.dutyCycleReg ticks) dutyCycleAField =
    inTicks ticks config.dutyCycleA &&& 0xffff := by
  unfold ChannelConfig.dutyCycleReg
  rw [bitfieldField32Read_write_other (by decide), bitfieldField32Read_write_same (by decide)]

theorem dutyCycleReg_b : bitfieldField32Read (config.dutyCycleReg ticks) dutyCycleBField =
    inTicks ticks config.dutyCycleB &&& 0xffff := by
  unfold ChannelConfig.dutyCycleReg
  rw [bitfieldField32Read_write_same (by decide)]

/-- The enable bits for the mode are apart from the phase. -/
theorem paramReg_phaseDelay :
    bitfieldField32Read (config.paramReg ticks) paramPhaseDelayField =
      inTicks ticks config.phaseDelay &&& 0xffff := by
  have bit (reg : BitVec 32) (condition : Prop) [Decidable condition] {bitIndex : Nat}
      (apart : (bitfieldBit32ToField32 bitIndex).Apart paramPhaseDelayField) :
      bitfieldField32Read (if condition then bitfieldBit32Write reg bitIndex true else reg)
        paramPhaseDelayField = bitfieldField32Read reg paramPhaseDelayField := by
    split
    · exact bitfieldField32Read_write_other apart _ _
    · rfl
  unfold ChannelConfig.paramReg
  dsimp only
  rw [bit _ _ (by decide), bit _ _ (by decide), bitfieldField32Read_write_same (by decide)]

end

/-- The registers of the PWM. -/
abbrev Bank := Register -> BitVec 32

/-- `dutyCycleResolution`, from the configuration of the pulse cycle. -/
def resolution (bank : Bank) : BitVec 8 :=
  (bitfieldField32Read (bank .cfg) cfgDcResnField).setWidth 8

theorem resolution_le (bank : Bank) : (resolution bank).toNat <= 15 := by
  have run : cfgDcResnField.mask.toNat = 2 ^ 4 - 1 := by decide
  unfold resolution bitfieldField32Read
  rw [BitVec.toNat_setWidth, toNat_and_mask run]
  omega

/-- What is asked of a channel that has been configured: fractions of a pulse cycle in units of its
`2 ^ 16` ticks, and no other register changed. -/
structure Programmed (n : Fin 6) (config : ChannelConfig) (before after : Bank) : Prop where
  dutyCycleA : (bitfieldField32Read (after (.dutyCycle n)) dutyCycleAField).toNat *
    2 ^ ((resolution before).toNat + 1) = config.dutyCycleA.toNat * 2 ^ 16
  dutyCycleB : (bitfieldField32Read (after (.dutyCycle n)) dutyCycleBField).toNat *
    2 ^ ((resolution before).toNat + 1) = config.dutyCycleB.toNat * 2 ^ 16
  phaseDelay : (bitfieldField32Read (after (.param n)) paramPhaseDelayField).toNat *
    2 ^ ((resolution before).toNat + 1) = config.phaseDelay.toNat * 2 ^ 16
  polarity : bitfieldBit32Read (after .invert) n.val = (config.polarity != 0)
  others : forall register, register ≠ .dutyCycle n -> register ≠ .param n ->
    register ≠ .blinkParam n -> register ≠ .invert -> after register = before register

theorem channelCase_eq {channel : DifPwmChannel} {n : Fin 6}
    (found : channelCase channel = some n) : channel = kDifPwmChannel n := by
  unfold channelCase at found
  have case := List.find?_some found
  exact of_decide_eq_true case

section

variable {α : Type} {bank : Bank} {log : List Access}

theorem run_read (register : Register) (next : BitVec 32 -> Mmio α) :
    (mmioRegionRead32 register.offset >>= next).run layout.device.logged (bank, log) =
      (next (bank register)).run layout.device.logged
        (bank, log ++ [.read32 register.offset]) :=
  layout.run_read_logged register next

theorem run_write (register : Register) (value : BitVec 32) (next : Unit -> Mmio α) :
    (mmioRegionWrite32 register.offset value >>= next).run layout.device.logged (bank, log) =
      (next ()).run layout.device.logged
        (Function.update bank register value, log ++ [.write32 register.offset value]) :=
  layout.run_write_logged register value next

end

/-- The case of a channel writes the registers of that channel. -/
theorem writeChannel_run (n : Fin 6) (config : ChannelConfig) (bank : Bank) (log : List Access)
    (dutyCycleReg paramReg blinkParamReg : BitVec 32) :
    Exists fun after => Exists fun log' =>
      (writeChannel n config (bank .invert) dutyCycleReg paramReg blinkParamReg).run
          layout.device.logged (bank, log) = some (.kDifOk, after, log') ∧
        after (.dutyCycle n) = dutyCycleReg ∧ after (.param n) = paramReg ∧
        after .invert = bitfieldBit32Write (bank .invert) n.val (config.polarity != 0) ∧
        forall register, register ≠ .dutyCycle n -> register ≠ .param n ->
          register ≠ .blinkParam n -> register ≠ .invert -> after register = bank register := by
  unfold writeChannel
  dsimp only
  rw [run_write, run_write]
  split
  · rw [run_write, run_write]
    refine ⟨_, _, rfl, ?_, ?_, ?_, ?_⟩
    · simp
    · simp
    · simp
    · intro register duty param blink invert
      simp [duty, param, blink, invert]
  · rw [run_write]
    refine ⟨_, _, rfl, ?_, ?_, ?_, ?_⟩
    · simp
    · simp
    · simp
    · intro register duty param blink invert
      simp [duty, param, invert]

/-- A channel that is accepted is programmed exactly, whatever the resolution; otherwise nothing
at all has been written. -/
theorem difPwmConfigureChannel_exact (pwm : Pointer) (channel : DifPwmChannel)
    (config : ChannelConfig) (before : Bank) :
    Exists fun result => Exists fun after => Exists fun log =>
      (difPwmConfigureChannel pwm channel config).run layout.device.logged (before, []) =
          some (result, after, log) ∧
        (result = .kDifOk -> Exists fun n => channel = kDifPwmChannel n ∧
          Programmed n config before after) ∧
        (result ≠ .kDifOk -> forall access, access ∈ log -> access.Reads) := by
  unfold difPwmConfigureChannel
  by_cases bad : pwm = .null ∨ (config.polarity ≠ kDifPwmPolarityActiveHigh ∧
      config.polarity ≠ kDifPwmPolarityActiveLow)
  · rw [if_pos bad]
    exact ⟨_, _, _, rfl, nofun, fun _ => by simp⟩
  rw [if_neg bad, run_read]
  by_cases locked : before .regwen = 0
  · rw [if_pos locked]
    exact ⟨_, _, _, rfl, nofun, fun _ => by simp [Access.Reads]⟩
  have field : (bitfieldField32Read (before .cfg) cfgDcResnField).setWidth 8 = resolution before :=
    rfl
  rw [if_neg locked, run_read]
  dsimp only
  rw [field]
  by_cases long : config.dutyCycleA.setWidth 32 >= beatsPerPulseCycle (resolution before) ∨
      config.dutyCycleB.setWidth 32 >= beatsPerPulseCycle (resolution before) ∨
      config.phaseDelay.setWidth 32 >= beatsPerPulseCycle (resolution before)
  · rw [if_pos long]
    exact ⟨_, _, _, rfl, nofun, fun _ => by simp [Access.Reads]⟩
  rw [if_neg long, run_read]
  cases config.blinkParamReg (phaseCntrTicksPerBeat (resolution before))
      (beatsPerPulseCycle (resolution before)) with
  | none => exact ⟨_, _, _, rfl, nofun, fun _ => by simp [Access.Reads]⟩
  | some blinkParamReg =>
      cases found : channelCase channel with
      | none => exact ⟨_, _, _, rfl, nofun, fun _ => by simp [Access.Reads]⟩
      | some n =>
          have named := channelCase_eq found
          have small := resolution_le before
          simp only [not_or] at long
          rcases writeChannel_run n config before _
            (config.dutyCycleReg (phaseCntrTicksPerBeat (resolution before)))
            (config.paramReg (phaseCntrTicksPerBeat (resolution before))) blinkParamReg with
            ⟨after, log, run, duty, param, invert, others⟩
          refine ⟨.kDifOk, after, log, run, fun _ => ⟨n, named, ?_, ?_, ?_, ?_, others⟩,
            fun refused => absurd rfl refused⟩
          · rw [duty, dutyCycleReg_a]
            exact inTicks_field small long.1
          · rw [duty, dutyCycleReg_b]
            exact inTicks_field small long.2.1
          · rw [param, paramReg_phaseDelay]
            exact inTicks_field small long.2.2
          · rw [invert]
            exact bitfieldBit32Read_write_same (by omega) _ _

end Pwm
end SunburstChip
