import SunburstChip.Dif.Base
import SunburstChip.Lib.RegisterBank

namespace SunburstChip
namespace Pattgen

open Mmio

/-!
# Channels of the pattern generator

`dif_pattgen.c`.  The two channels share a control and a size register, which
the driver reads, changes in the fields of one of them and writes back.  What a
channel is set to is seen through its fields, and a call is what it makes of the
fields of its own channel and leaves of those of the other one.
-/

/-! ## The registers -/

/-- The registers that `dif_pattgen.c` accesses. -/
inductive Register where
  | ctrl
  | prediv (channel : Fin 2)
  | data (channel word : Fin 2)
  | size
deriving DecidableEq

/-- Where the registers lie. -/
def Register.offset : Register -> Nat
  | .ctrl => 0x10
  | .prediv channel => 0x14 + 4 * channel.val
  | .data channel word => 0x1c + 8 * channel.val + 4 * word.val
  | .size => 0x2c

/-- The registers of the pattern generator. -/
def layout : Layout Register where
  offset := Register.offset
  registers := [.ctrl, .prediv 0, .prediv 1, .data 0 0, .data 0 1, .data 1 0, .data 1 1, .size]
  complete register := by
    cases register with
    | ctrl => decide
    | prediv channel =>
        revert channel
        decide
    | data channel word =>
        revert channel word
        decide
    | size => decide
  apart := by
    intro left right same
    cases left <;> cases right <;> simp only [Register.offset] at same <;>
      first
        | rfl
        | exact congrArg _ (Fin.ext (by omega))
        | exact congrArg₂ _ (Fin.ext (by omega)) (Fin.ext (by omega))
        | omega

/-- What the registers hold. -/
abbrev Bank := Register -> BitVec 32

/-! ## The fields of a channel -/

section

variable (channel : Fin 2)

/-- `PATTGEN_CTRL_ENABLE_CH0_BIT` and its like -/
def enableBit : Nat := channel.val

/-- `PATTGEN_CTRL_POLARITY_CH0_BIT` and its like -/
def polarityBit : Nat := 2 + channel.val

/-- `PATTGEN_CTRL_INACTIVE_LEVEL_PCL_CH0_BIT` and its like -/
def inactiveLevelPclBit : Nat := 4 + 2 * channel.val

/-- `PATTGEN_CTRL_INACTIVE_LEVEL_PDA_CH0_BIT` and its like -/
def inactiveLevelPdaBit : Nat := 5 + 2 * channel.val

/-- `PATTGEN_SIZE_LEN_CH0_FIELD` and its like -/
def lenField : BitfieldField32 := ⟨0x3f, 16 * channel.val⟩

/-- `PATTGEN_SIZE_REPS_CH0_FIELD` and its like -/
def repsField : BitfieldField32 := ⟨0x3ff, 6 + 16 * channel.val⟩

end

/-- What a channel is set to. -/
structure Fields where
  enable : Bool
  polarity : Bool
  inactiveLevelPda : Bool
  inactiveLevelPcl : Bool
  clockDivisor : BitVec 32
  seedLower : BitVec 32
  seedUpper : BitVec 32
  len : BitVec 32
  reps : BitVec 32
deriving DecidableEq

/-- What the registers say of a channel. -/
def fields (bank : Bank) (channel : Fin 2) : Fields where
  enable := bitfieldBit32Read (bank .ctrl) (enableBit channel)
  polarity := bitfieldBit32Read (bank .ctrl) (polarityBit channel)
  inactiveLevelPda := bitfieldBit32Read (bank .ctrl) (inactiveLevelPdaBit channel)
  inactiveLevelPcl := bitfieldBit32Read (bank .ctrl) (inactiveLevelPclBit channel)
  clockDivisor := bank (.prediv channel)
  seedLower := bank (.data channel 0)
  seedUpper := bank (.data channel 1)
  len := bitfieldField32Read (bank .size) (lenField channel)
  reps := bitfieldField32Read (bank .size) (repsField channel)

/-! ## The driver -/

/-- `dif_pattgen_channel_t`, an enumeration whose variables may hold any word. -/
abbrev DifPattgenChannel := BitVec 32

/-- `kDifPattgenChannel0` and `kDifPattgenChannel1` -/
def kDifPattgenChannel (channel : Fin 2) : DifPattgenChannel := .ofNat 32 channel.val

/-- The case of `switch (channel)`. -/
def channelCase (channel : DifPattgenChannel) : Option (Fin 2) :=
  [0, 1].find? (fun n => channel = kDifPattgenChannel n)

/-- `kDifPattgenPolarityCount` -/
def kDifPattgenPolarityCount : BitVec 32 := 2

/-- `dif_pattgen_channel_config_t` -/
structure ChannelConfig where
  polarity : BitVec 32
  clockDivisor : BitVec 32
  seedPatternLowerWord : BitVec 32
  seedPatternUpperWord : BitVec 32
  seedPatternLength : BitVec 8
  numPatternRepetitions : BitVec 16
  inactiveLevelPda : Bool
  inactiveLevelPcl : Bool
deriving DecidableEq

/-- The arguments that `dif_pattgen_configure_channel` refuses at once. -/
def ChannelConfig.BadArg (config : ChannelConfig) : Prop :=
  config.polarity >= kDifPattgenPolarityCount ∨ config.seedPatternLength = 0 ∨
    config.seedPatternLength > 64 ∨ config.numPatternRepetitions = 0 ∨
    config.numPatternRepetitions > 1024

instance (config : ChannelConfig) : Decidable config.BadArg :=
  inferInstanceAs (Decidable (_ ∨ _ ∨ _ ∨ _ ∨ _))

/-- The size register with the fields of a channel set. -/
def ChannelConfig.sizeReg (config : ChannelConfig) (n : Fin 2) (sizeReg : BitVec 32) : BitVec 32 :=
  let sizeReg := bitfieldField32Write sizeReg (lenField n) (config.seedPatternLength.setWidth 32 - 1)
  bitfieldField32Write sizeReg (repsField n) (config.numPatternRepetitions.setWidth 32 - 1)

/-- The control register with the fields of a channel set. -/
def ChannelConfig.ctrlReg (config : ChannelConfig) (n : Fin 2) (ctrlReg : BitVec 32) : BitVec 32 :=
  let ctrlReg := bitfieldBit32Write ctrlReg (polarityBit n) (config.polarity != 0)
  let ctrlReg := bitfieldBit32Write ctrlReg (inactiveLevelPdaBit n) config.inactiveLevelPda
  bitfieldBit32Write ctrlReg (inactiveLevelPclBit n) config.inactiveLevelPcl

/-- What `dif_pattgen_configure_channel` does at its end. -/
def writeSize (n : Fin 2) (config : ChannelConfig) : Mmio DifResult := do
  let sizeReg <- mmioRegionRead32 Register.size.offset
  mmioRegionWrite32 Register.size.offset (config.sizeReg n sizeReg)
  return .kDifOk

/-- `dif_pattgen_configure_channel` -/
def difPattgenConfigureChannel (pattgen : Pointer) (channel : DifPattgenChannel)
    (config : ChannelConfig) : Mmio DifResult := do
  if pattgen = .null ∨ config.BadArg then
    return .kDifBadArg
  match channelCase channel with
  | none => return .kDifBadArg
  | some n => do
    let ctrlReg <- mmioRegionRead32 Register.ctrl.offset
    if bitfieldBit32Read ctrlReg (enableBit n) then
      return .kDifError
    else
      mmioRegionWrite32 Register.ctrl.offset (config.ctrlReg n ctrlReg)
      mmioRegionWrite32 (Register.prediv n).offset config.clockDivisor
      mmioRegionWrite32 (Register.data n 0).offset config.seedPatternLowerWord
      if config.seedPatternLength > 31 then
        mmioRegionWrite32 (Register.data n 1).offset config.seedPatternUpperWord
        writeSize n config
      else
        writeSize n config

/-- `dif_pattgen_channel_set_enabled` -/
def difPattgenChannelSetEnabled (pattgen : Pointer) (channel : DifPattgenChannel)
    (enabled : DifToggle) : Mmio DifResult := do
  if pattgen = .null ∨ !difIsValidToggle enabled then
    return .kDifBadArg
  match channelCase channel with
  | none => return .kDifBadArg
  | some n => do
    let ctrlReg <- mmioRegionRead32 Register.ctrl.offset
    mmioRegionWrite32 Register.ctrl.offset
      (bitfieldBit32Write ctrlReg (enableBit n) (difToggleToBool enabled))
    return .kDifOk

/-! ## What a call does to the fields of a channel -/

/-- The fields that an accepted configuration sets.  The upper word of the seed is set for the
patterns that reach it. -/
def ChannelConfig.set (config : ChannelConfig) (fields : Fields) : Fields :=
  { fields with
    polarity := config.polarity != 0
    inactiveLevelPda := config.inactiveLevelPda
    inactiveLevelPcl := config.inactiveLevelPcl
    clockDivisor := config.clockDivisor
    seedLower := config.seedPatternLowerWord
    seedUpper :=
      if config.seedPatternLength > 31 then config.seedPatternUpperWord else fields.seedUpper
    len := config.seedPatternLength.setWidth 32 - 1
    reps := config.numPatternRepetitions.setWidth 32 - 1 }

section

variable {config : ChannelConfig} {n m : Fin 2} {reg : BitVec 32}

theorem bitfieldBit32Read_write {bitIndex : Nat} (inside : bitIndex < 32) (other : Nat)
    (value : Bool) : bitfieldBit32Read (bitfieldBit32Write reg bitIndex value) other =
      if bitIndex = other then value else bitfieldBit32Read reg other := by
  by_cases same : bitIndex = other
  · rw [if_pos same, <- same]
    exact bitfieldBit32Read_write_same inside _ _
  · rw [if_neg same]
    exact bitfieldBit32Read_write_other same _ _

theorem ctrlReg_read (other : Nat) : bitfieldBit32Read (config.ctrlReg n reg) other =
    if inactiveLevelPclBit n = other then config.inactiveLevelPcl
    else if inactiveLevelPdaBit n = other then config.inactiveLevelPda
    else if polarityBit n = other then config.polarity != 0
    else bitfieldBit32Read reg other := by
  have polarity : polarityBit n < 32 := by unfold polarityBit; omega
  have pda : inactiveLevelPdaBit n < 32 := by unfold inactiveLevelPdaBit; omega
  have pcl : inactiveLevelPclBit n < 32 := by unfold inactiveLevelPclBit; omega
  unfold ChannelConfig.ctrlReg
  dsimp only
  rw [bitfieldBit32Read_write pcl, bitfieldBit32Read_write pda, bitfieldBit32Read_write polarity]

/-- The length and the repetitions of an accepted configuration fit their fields. -/
theorem sizeReg_same (good : ¬ config.BadArg) :
    bitfieldField32Read (config.sizeReg n reg) (lenField n) =
        config.seedPatternLength.setWidth 32 - 1 ∧
      bitfieldField32Read (config.sizeReg n reg) (repsField n) =
        config.numPatternRepetitions.setWidth 32 - 1 := by
  have lenFits : forall n, (lenField n).Fits := by decide
  have repsFits : forall n, (repsField n).Fits := by decide
  have apart : forall n, (repsField n).Apart (lenField n) := by decide
  have lenRun : (lenField n).mask.toNat = 2 ^ 6 - 1 := rfl
  have repsRun : (repsField n).mask.toNat = 2 ^ 10 - 1 := rfl
  simp only [ChannelConfig.BadArg, not_or] at good
  rcases good with ⟨_, some, long, once, often⟩
  unfold ChannelConfig.sizeReg
  dsimp only
  constructor
  · rw [bitfieldField32Read_write_other (apart n), bitfieldField32Read_write_same (lenFits n),
      and_mask_eq_self_iff lenRun]
    bv_omega
  · rw [bitfieldField32Read_write_same (repsFits n), and_mask_eq_self_iff repsRun]
    bv_omega

theorem sizeReg_other (different : m ≠ n) :
    bitfieldField32Read (config.sizeReg n reg) (lenField m) =
        bitfieldField32Read reg (lenField m) ∧
      bitfieldField32Read (config.sizeReg n reg) (repsField m) =
        bitfieldField32Read reg (repsField m) := by
  have lens : forall n m, m ≠ n -> (lenField n).Apart (lenField m) := by decide
  have reps : forall n m, m ≠ n -> (repsField n).Apart (repsField m) := by decide
  have lenReps : forall n m, (lenField n).Apart (repsField m) := by decide
  have repsLen : forall n m, (repsField n).Apart (lenField m) := by decide
  unfold ChannelConfig.sizeReg
  dsimp only
  constructor
  · rw [bitfieldField32Read_write_other (repsLen n m),
      bitfieldField32Read_write_other (lens n m different)]
  · rw [bitfieldField32Read_write_other (reps n m different),
      bitfieldField32Read_write_other (lenReps n m)]

end

/-- The registers after a configuration of a channel. -/
def ChannelConfig.program (config : ChannelConfig) (n : Fin 2) (bank : Bank) : Bank
  | .ctrl => config.ctrlReg n (bank .ctrl)
  | .prediv m => if m = n then config.clockDivisor else bank (.prediv m)
  | .data m word =>
      if m = n ∧ word = 0 then config.seedPatternLowerWord
      else if m = n ∧ config.seedPatternLength > 31 then config.seedPatternUpperWord
      else bank (.data m word)
  | .size => config.sizeReg n (bank .size)

/-- A configuration sets the fields of its channel and leaves those of the other one. -/
theorem fields_program {config : ChannelConfig} (good : ¬ config.BadArg) (n m : Fin 2)
    (bank : Bank) : fields (config.program n bank) m =
      if m = n then config.set (fields bank m) else fields bank m := by
  have bits : forall n m : Fin 2, (inactiveLevelPclBit n ≠ enableBit m ∧
      inactiveLevelPdaBit n ≠ enableBit m ∧ polarityBit n ≠ enableBit m) ∧
      (inactiveLevelPclBit n ≠ polarityBit m ∧ inactiveLevelPdaBit n ≠ polarityBit m ∧
        (polarityBit n = polarityBit m ↔ m = n)) ∧
      (inactiveLevelPclBit n ≠ inactiveLevelPdaBit m ∧
        (inactiveLevelPdaBit n = inactiveLevelPdaBit m ↔ m = n) ∧
        polarityBit n ≠ inactiveLevelPdaBit m) ∧
      (inactiveLevelPclBit n = inactiveLevelPclBit m ↔ m = n) ∧
        inactiveLevelPdaBit n ≠ inactiveLevelPclBit m ∧ polarityBit n ≠ inactiveLevelPclBit m := by
    decide
  rcases bits n m with ⟨⟨a, b, c⟩, ⟨d, e, f⟩, ⟨g, h, i⟩, j, k, l⟩
  by_cases same : m = n
  · subst same
    rcases @sizeReg_same config m (bank .size) good with ⟨len, reps⟩
    simp [fields, ChannelConfig.program, ChannelConfig.set, ctrlReg_read, *]
  · rcases @sizeReg_other config n m (bank .size) same with ⟨len, reps⟩
    simp [fields, ChannelConfig.program, ctrlReg_read, *]

/-- The registers after a channel has been enabled or disabled. -/
def enableBank (n : Fin 2) (enabled : Bool) (bank : Bank) : Bank :=
  Function.update bank .ctrl (bitfieldBit32Write (bank .ctrl) (enableBit n) enabled)

/-- Enabling a channel sets nothing else. -/
theorem fields_enableBank (n m : Fin 2) (enabled : Bool) (bank : Bank) :
    fields (enableBank n enabled bank) m =
      if m = n then { fields bank m with enable := enabled } else fields bank m := by
  have inside : enableBit n < 32 := by unfold enableBit; omega
  have bits : forall n m : Fin 2, (enableBit n = enableBit m ↔ m = n) ∧
      enableBit n ≠ polarityBit m ∧ enableBit n ≠ inactiveLevelPdaBit m ∧
      enableBit n ≠ inactiveLevelPclBit m := by decide
  rcases bits n m with ⟨a, b, c, d⟩
  by_cases same : m = n
  · simp [fields, enableBank, bitfieldBit32Read_write inside, *]
  · simp [fields, enableBank, bitfieldBit32Read_write inside, *]

/-! ## Calls -/

/-- A call of one of the two functions. -/
inductive Call where
  | configure (pattgen : Pointer) (channel : DifPattgenChannel) (config : ChannelConfig)
  | setEnabled (pattgen : Pointer) (channel : DifPattgenChannel) (enabled : DifToggle)
deriving DecidableEq

/-- The channel that a call names. -/
def Call.channel : Call -> DifPattgenChannel
  | .configure _ channel _ => channel
  | .setEnabled _ channel _ => channel

def Call.program : Call -> Mmio DifResult
  | .configure pattgen channel config => difPattgenConfigureChannel pattgen channel config
  | .setEnabled pattgen channel enabled => difPattgenChannelSetEnabled pattgen channel enabled

/-- The fields that a call sets when it succeeds. -/
def Call.set : Call -> Fields -> Fields
  | .configure _ _ config, fields => config.set fields
  | .setEnabled _ _ enabled, fields => { fields with enable := difToggleToBool enabled }

/-- A call that has returned. -/
abbrev Event := Call × DifResult

/-- The call has succeeded on a channel. -/
def Event.On (event : Event) (n : Fin 2) : Prop :=
  event.2 = .kDifOk ∧ channelCase event.1.channel = some n

instance (event : Event) (n : Fin 2) : Decidable (event.On n) :=
  inferInstanceAs (Decidable (_ ∧ _))

/-- The fields of a channel after a call. -/
def Event.apply (event : Event) (n : Fin 2) (fields : Fields) : Fields :=
  if event.On n then event.1.set fields else fields

section

variable {α : Type} {bank : Bank}

theorem run_read (register : Register) (next : BitVec 32 -> Mmio α) :
    (mmioRegionRead32 register.offset >>= next).run layout.device bank =
      (next (bank register)).run layout.device bank :=
  layout.run_read register next

theorem run_write (register : Register) (value : BitVec 32) (next : Unit -> Mmio α) :
    (mmioRegionWrite32 register.offset value >>= next).run layout.device bank =
      (next ()).run layout.device (Function.update bank register value) :=
  layout.run_write register value next

end

/-- What has been written by the end of a configuration. -/
theorem program_eq (config : ChannelConfig) (n : Fin 2) (bank : Bank) :
    config.program n bank =
      let seed := Function.update (Function.update (Function.update bank .ctrl
        (config.ctrlReg n (bank .ctrl))) (.prediv n) config.clockDivisor) (.data n 0)
        config.seedPatternLowerWord
      Function.update (if config.seedPatternLength > 31 then
        Function.update seed (.data n 1) config.seedPatternUpperWord else seed) .size
        (config.sizeReg n (bank .size)) := by
  have word : forall word : Fin 2, word ≠ 0 -> word = 1 := by decide
  funext register
  by_cases long : 31#8 < config.seedPatternLength
  · rw [if_pos (show config.seedPatternLength > 31 from long)]
    cases register with
    | data m k =>
        by_cases lower : k = 0
        · simp +contextual [ChannelConfig.program, Function.update, lower]
        · simp [ChannelConfig.program, Function.update, long, word k lower]
    | _ => simp [ChannelConfig.program, Function.update]
  · rw [if_neg (show ¬ config.seedPatternLength > 31 from long)]
    cases register with
    | _ => simp [ChannelConfig.program, Function.update, long]

section

variable {pattgen : Pointer} {channel : DifPattgenChannel} {n : Fin 2}

theorem configure_badArg {config : ChannelConfig} (bank : Bank)
    (bad : (pattgen = .null ∨ config.BadArg) ∨ channelCase channel = none) :
    (difPattgenConfigureChannel pattgen channel config).run layout.device bank =
      some (.kDifBadArg, bank) := by
  unfold difPattgenConfigureChannel
  by_cases early : pattgen = .null ∨ config.BadArg
  · rw [if_pos early]
    rfl
  · rw [if_neg early, bad.resolve_left early]
    rfl

/-- An enabled channel refuses to be configured; otherwise all of it is programmed. -/
theorem configure_run (config : ChannelConfig) (bank : Bank) (good : ¬ config.BadArg)
    (case : channelCase channel = some n) :
    (difPattgenConfigureChannel .object channel config).run layout.device bank =
      if (fields bank n).enable then some (.kDifError, bank)
      else some (.kDifOk, config.program n bank) := by
  have accepted : ¬ (Pointer.object = .null ∨ config.BadArg) := by
    intro refused
    rcases refused with null | bad
    · exact absurd null (by decide)
    · exact good bad
  have enable : (fields bank n).enable = bitfieldBit32Read (bank .ctrl) (enableBit n) := rfl
  unfold difPattgenConfigureChannel
  rw [if_neg accepted, case, program_eq, enable]
  dsimp only
  rw [run_read]
  by_cases enabled : bitfieldBit32Read (bank .ctrl) (enableBit n)
  · rw [if_pos enabled, if_pos enabled]
    rfl
  · rw [if_neg enabled, if_neg enabled, run_write, run_write, run_write]
    by_cases long : config.seedPatternLength > 31
    · rw [if_pos long, if_pos long, run_write]
      unfold writeSize
      rw [run_read, run_write]
      simp
    · rw [if_neg long, if_neg long]
      unfold writeSize
      rw [run_read, run_write]
      simp

theorem setEnabled_badArg {enabled : DifToggle} (bank : Bank)
    (bad : (pattgen = .null ∨ (!difIsValidToggle enabled) = true) ∨ channelCase channel = none) :
    (difPattgenChannelSetEnabled pattgen channel enabled).run layout.device bank =
      some (.kDifBadArg, bank) := by
  unfold difPattgenChannelSetEnabled
  by_cases early : pattgen = .null ∨ (!difIsValidToggle enabled) = true
  · rw [if_pos early]
    rfl
  · rw [if_neg early, bad.resolve_left early]
    rfl

theorem setEnabled_run {enabled : DifToggle} (bank : Bank) (valid : difIsValidToggle enabled = true)
    (case : channelCase channel = some n) :
    (difPattgenChannelSetEnabled .object channel enabled).run layout.device bank =
      some (.kDifOk, enableBank n (difToggleToBool enabled) bank) := by
  have accepted : ¬ (Pointer.object = .null ∨ (!difIsValidToggle enabled) = true) := by
    rw [valid]
    decide
  unfold difPattgenChannelSetEnabled
  rw [if_neg accepted, case]
  dsimp only
  rw [run_read, run_write]
  rfl

end

/-- A call sets the fields of the channel that it succeeds on, and none but the enable of a channel
that is enabled. -/
structure Event.Steps (event : Event) (before after : Bank) : Prop where
  sets : forall n, fields after n = event.apply n (fields before n)
  enabled : forall n, (fields before n).enable = true ->
    { fields after n with enable := true } = fields before n

/-- A call that fails leaves the registers alone. -/
theorem steps_failed {call : Call} {result : DifResult} (failed : result ≠ .kDifOk) (bank : Bank) :
    Event.Steps (call, result) bank bank where
  sets n := (if_neg (fun on => failed on.1)).symm
  enabled n on := by rw [<- on]

/-- A call that succeeds has to be looked at on its own channel only. -/
theorem steps_ok {call : Call} {n : Fin 2} {before after : Bank}
    (case : channelCase call.channel = some n)
    (own : fields after n = call.set (fields before n))
    (other : forall m, m ≠ n -> fields after m = fields before m)
    (enabled : (fields before n).enable = true ->
      { fields after n with enable := true } = fields before n) :
    Event.Steps (call, .kDifOk) before after where
  sets m := by
    unfold Event.apply
    by_cases same : m = n
    · rw [same, own, if_pos ⟨rfl, case⟩]
    · have apart : ¬ Event.On (call, .kDifOk) m := by
        intro on
        exact same (Option.some.inj (on.2.symm.trans case))
      rw [other m same, if_neg apart]
  enabled m on := by
    by_cases same : m = n
    · rw [same] at on ⊢
      exact enabled on
    · rw [other m same, <- on]

theorem call_run (call : Call) (bank : Bank) :
    Exists fun result => Exists fun after =>
      call.program.run layout.device bank = some (result, after) ∧
        Event.Steps (call, result) bank after := by
  cases call with
  | configure pattgen channel config =>
      by_cases bad : (pattgen = .null ∨ config.BadArg) ∨ channelCase channel = none
      · exact ⟨_, _, configure_badArg bank bad, steps_failed (by decide) bank⟩
      simp only [not_or] at bad
      rcases bad with ⟨⟨valid, good⟩, named⟩
      rcases Option.ne_none_iff_exists'.mp named with ⟨n, case⟩
      cases pattgen with
      | null => exact absurd rfl valid
      | object =>
          have run := configure_run config bank good case
          by_cases enabled : (fields bank n).enable
          · rw [if_pos enabled] at run
            exact ⟨_, _, run, steps_failed (by decide) bank⟩
          · rw [if_neg enabled] at run
            refine ⟨_, _, run, steps_ok case ?_ ?_ (fun on => absurd on enabled)⟩
            · rw [fields_program good, if_pos rfl]
              rfl
            · intro m other
              rw [fields_program good, if_neg other]
  | setEnabled pattgen channel enabled =>
      by_cases bad : (pattgen = .null ∨ (!difIsValidToggle enabled) = true) ∨
          channelCase channel = none
      · exact ⟨_, _, setEnabled_badArg bank bad, steps_failed (by decide) bank⟩
      simp only [not_or] at bad
      rcases bad with ⟨⟨valid, toggle⟩, named⟩
      rcases Option.ne_none_iff_exists'.mp named with ⟨n, case⟩
      cases pattgen with
      | null => exact absurd rfl valid
      | object =>
          have run := setEnabled_run bank (by simpa using toggle) case
          refine ⟨_, _, run, steps_ok case ?_ ?_ ?_⟩
          · rw [fields_enableBank, if_pos rfl]
            rfl
          · intro m other
            rw [fields_enableBank, if_neg other]
          · intro on
            rw [fields_enableBank, if_pos rfl, <- on]

/-! ## Sequences of calls -/

/-- Make one call after the other and note what they return. -/
def perform : List Call -> Mmio (List Event)
  | [] => return []
  | call :: calls => do
    let result <- call.program
    let events <- perform calls
    return (call, result) :: events

section

variable (n : Fin 2)

/-- The configuration that a call has given to a channel. -/
def Event.configured (event : Event) : Option ChannelConfig :=
  match event.1 with
  | .configure _ _ config => if event.On n then some config else none
  | .setEnabled .. => none

/-- What a call has set the enable of a channel to. -/
def Event.toggled (event : Event) : Option Bool :=
  match event.1 with
  | .configure .. => none
  | .setEnabled _ _ enabled => if event.On n then some (difToggleToBool enabled) else none

/-- The configurations that a channel has been given, in their order. -/
def configs (events : List Event) : List ChannelConfig := events.filterMap (Event.configured n)

/-- The fields of a channel as the last successful call on it has set them that sets the field. -/
def lastSet (events : List Event) (initial : Fields) : Fields where
  enable := (events.filterMap (Event.toggled n)).getLastD initial.enable
  polarity := ((configs n events).map (·.polarity != 0)).getLastD initial.polarity
  inactiveLevelPda := ((configs n events).map (·.inactiveLevelPda)).getLastD
    initial.inactiveLevelPda
  inactiveLevelPcl := ((configs n events).map (·.inactiveLevelPcl)).getLastD
    initial.inactiveLevelPcl
  clockDivisor := ((configs n events).map (·.clockDivisor)).getLastD initial.clockDivisor
  seedLower := ((configs n events).map (·.seedPatternLowerWord)).getLastD initial.seedLower
  seedUpper := (((configs n events).filter (·.seedPatternLength > 31)).map
    (·.seedPatternUpperWord)).getLastD initial.seedUpper
  len := ((configs n events).map (·.seedPatternLength.setWidth 32 - 1)).getLastD initial.len
  reps := ((configs n events).map (·.numPatternRepetitions.setWidth 32 - 1)).getLastD initial.reps

end

/-- The first call is the last one on the fields that no later call sets. -/
theorem lastSet_cons (n : Fin 2) (event : Event) (events : List Event) (initial : Fields) :
    lastSet n (event :: events) initial = lastSet n events (event.apply n initial) := by
  rcases event with ⟨call, result⟩
  cases call with
  | configure pattgen channel config =>
      have toggled : Event.toggled n (.configure pattgen channel config, result) = none := rfl
      by_cases on : Event.On (.configure pattgen channel config, result) n
      · have configured : Event.configured n (.configure pattgen channel config, result) =
          some config := if_pos on
        by_cases long : config.seedPatternLength > 31
        · simp only [lastSet, configs, List.filterMap_cons, toggled, configured, List.map_cons,
            List.filter_cons, List.getLastD_cons, Event.apply, Call.set, ChannelConfig.set,
            decide_eq_true_eq, if_pos on, if_pos long]
        · simp only [lastSet, configs, List.filterMap_cons, toggled, configured, List.map_cons,
            List.filter_cons, List.getLastD_cons, Event.apply, Call.set, ChannelConfig.set,
            decide_eq_true_eq, if_pos on, if_neg long]
      · have configured : Event.configured n (.configure pattgen channel config, result) = none :=
          if_neg on
        simp only [lastSet, configs, List.filterMap_cons, toggled, configured, Event.apply,
          if_neg on]
  | setEnabled pattgen channel enabled =>
      have configured : Event.configured n (.setEnabled pattgen channel enabled, result) = none :=
        rfl
      by_cases on : Event.On (.setEnabled pattgen channel enabled, result) n
      · have toggled : Event.toggled n (.setEnabled pattgen channel enabled, result) =
          some (difToggleToBool enabled) := if_pos on
        simp only [lastSet, configs, List.filterMap_cons, toggled, configured, List.getLastD_cons,
          Event.apply, Call.set, if_pos on]
      · have toggled : Event.toggled n (.setEnabled pattgen channel enabled, result) = none :=
          if_neg on
        simp only [lastSet, configs, List.filterMap_cons, toggled, configured, Event.apply,
          if_neg on]

/-- The bits of the seed that the pattern of the last accepted configuration has are those of the
configuration. -/
theorem lastSet_seed {n : Fin 2} {events : List Event} {config : ChannelConfig}
    (last : (configs n events).getLast? = some config) (initial : Fields) (i : Nat)
    (inside : i < config.seedPatternLength.toNat) :
    ((lastSet n events initial).seedUpper ++ (lastSet n events initial).seedLower).getLsbD i =
      (config.seedPatternUpperWord ++ config.seedPatternLowerWord).getLsbD i := by
  rcases List.getLast?_eq_some_iff.mp last with ⟨earlier, split⟩
  have lower : (lastSet n events initial).seedLower = config.seedPatternLowerWord := by
    unfold lastSet
    dsimp only
    rw [split, List.map_append]
    exact List.getLastD_concat
  rw [BitVec.getLsbD_append, BitVec.getLsbD_append, lower]
  by_cases short : i < 32
  · rw [if_pos short, if_pos short]
  · have long : config.seedPatternLength > 31 := by bv_omega
    have upper : (lastSet n events initial).seedUpper = config.seedPatternUpperWord := by
      unfold lastSet
      dsimp only
      rw [split, List.filter_append, List.filter_cons, if_pos (decide_eq_true long), List.filter_nil,
        List.map_append]
      exact List.getLastD_concat
    rw [if_neg short, if_neg short, upper]

/-- A sequence of calls executed as one program. -/
theorem perform_run (calls : List Call) (before : Bank) :
    Exists fun events => Exists fun after =>
      (perform calls).run layout.device before = some (events, after) ∧
        events.map Prod.fst = calls ∧
        forall n, fields after n = lastSet n events (fields before n) := by
  induction calls generalizing before with
  | nil => exact ⟨[], before, rfl, rfl, fun n => rfl⟩
  | cons call calls ih =>
      rcases call_run call before with ⟨result, between, first, steps⟩
      rcases ih between with ⟨events, after, rest, made, last⟩
      refine ⟨(call, result) :: events, after, ?_, ?_, ?_⟩
      · unfold perform
        rw [run_bind, first]
        change (perform calls >>= _).run layout.device between = _
        rw [run_bind, rest]
        rfl
      · rw [List.map_cons, made]
      · intro n
        rw [last n, steps.sets n, lastSet_cons]

/-- Over every sequence of calls, the fields of a channel are those that the last successful calls on
that channel have set, and while it is enabled the next call changes none of them but its enable. -/
theorem perform_independent (calls : List Call) (before : Bank) :
    Exists fun events => Exists fun after =>
      (perform calls).run layout.device before = some (events, after) ∧
        events.map Prod.fst = calls ∧
        (forall n, fields after n = lastSet n events (fields before n)) ∧
        (forall n config, (configs n events).getLast? = some config ->
          forall i, i < config.seedPatternLength.toNat ->
            ((fields after n).seedUpper ++ (fields after n).seedLower).getLsbD i =
              (config.seedPatternUpperWord ++ config.seedPatternLowerWord).getLsbD i) ∧
        forall call : Call, Exists fun result => Exists fun next =>
          call.program.run layout.device after = some (result, next) ∧
            forall n, (fields after n).enable = true ->
              { fields next n with enable := true } = fields after n := by
  rcases perform_run calls before with ⟨events, after, run, made, last⟩
  refine ⟨events, after, run, made, last, ?_, ?_⟩
  · intro n config given i inside
    rw [last n]
    exact lastSet_seed given (fields before n) i inside
  · intro call
    rcases call_run call after with ⟨result, next, step, steps⟩
    exact ⟨result, next, step, steps.enabled⟩

end Pattgen
end SunburstChip
