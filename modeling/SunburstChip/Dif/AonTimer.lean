import SunburstChip.Dif.Base

namespace SunburstChip
namespace AonTimer

open Mmio

/-!
# The always-on timer and its lockable watchdog

The watchdog half of the timer can be locked: its control and threshold
registers take writes only while `WDOG_REGWEN` reads one, and that register
is of the kind that software clears by writing zero and never sets again.
The functions below are those of `dif_aon_timer.c` together with the
interrupt functions generated beside them, over a register file with these
access rules.  The counters, the interrupt state and the wakeup cause belong
to the hardware as well, which may move them at any moment.
-/

/-! ## The register file -/

/-- The registers that hold state.  `INTR_TEST` and `ALERT_TEST` are write-only. -/
structure Registers where
  wkupCtrl : BitVec 32
  wkupTholdHi : BitVec 32
  wkupTholdLo : BitVec 32
  wkupCountHi : BitVec 32
  wkupCountLo : BitVec 32
  /-- The one bit of `WDOG_REGWEN`. -/
  wdogRegwen : Bool
  wdogCtrl : BitVec 32
  wdogBarkThold : BitVec 32
  wdogBiteThold : BitVec 32
  wdogCount : BitVec 32
  intrState : BitVec 32
  wkupCause : BitVec 32
  deriving DecidableEq

/-- The values after reset. -/
def Registers.reset : Registers where
  wkupCtrl := 0
  wkupTholdHi := 0
  wkupTholdLo := 0
  wkupCountHi := 0
  wkupCountLo := 0
  wdogRegwen := true
  wdogCtrl := 0
  wdogBarkThold := 0
  wdogBiteThold := 0
  wdogCount := 0
  intrState := 0
  wkupCause := 0

abbrev wkupCtrlRegOffset : Nat := 0x4
abbrev wkupCtrlEnableBit : Nat := 0
abbrev wkupCtrlPrescalerMask : BitVec 32 := 0xfff
abbrev wkupCtrlPrescalerField : BitfieldField32 := ⟨wkupCtrlPrescalerMask, 1⟩
abbrev wkupTholdHiRegOffset : Nat := 0x8
abbrev wkupTholdLoRegOffset : Nat := 0xc
abbrev wkupCountHiRegOffset : Nat := 0x10
abbrev wkupCountLoRegOffset : Nat := 0x14
abbrev wdogRegwenRegOffset : Nat := 0x18
abbrev wdogRegwenRegwenBit : Nat := 0
abbrev wdogCtrlRegOffset : Nat := 0x1c
abbrev wdogCtrlEnableBit : Nat := 0
abbrev wdogCtrlPauseInSleepBit : Nat := 1
abbrev wdogBarkTholdRegOffset : Nat := 0x20
abbrev wdogBiteTholdRegOffset : Nat := 0x24
abbrev wdogCountRegOffset : Nat := 0x28
abbrev intrStateRegOffset : Nat := 0x2c
abbrev intrTestRegOffset : Nat := 0x30
abbrev wkupCauseRegOffset : Nat := 0x34
abbrev wkupCauseCauseBit : Nat := 0

/-- A read returns the register and changes nothing. -/
def Registers.read32 (offset : Nat) (regs : Registers) : BitVec 32 :=
  match offset with
  | 0x4 => regs.wkupCtrl
  | 0x8 => regs.wkupTholdHi
  | 0xc => regs.wkupTholdLo
  | 0x10 => regs.wkupCountHi
  | 0x14 => regs.wkupCountLo
  | 0x18 => if regs.wdogRegwen then 1 else 0
  | 0x1c => regs.wdogCtrl
  | 0x20 => regs.wdogBarkThold
  | 0x24 => regs.wdogBiteThold
  | 0x28 => regs.wdogCount
  | 0x2c => regs.intrState
  | 0x34 => regs.wkupCause
  | _ => 0

/-- A write as the access type of the register has it: `WDOG_REGWEN` and
`WKUP_CAUSE` keep the bits written as one (`rw0c`), `INTR_STATE` loses them
(`rw1c`), `INTR_TEST` raises them in `INTR_STATE`, and the registers guarded
by `WDOG_REGWEN` ignore the write while that reads zero. -/
def Registers.write32 (offset : Nat) (value : BitVec 32) (regs : Registers) : Registers :=
  match offset with
  | 0x4 => { regs with wkupCtrl := value &&& 0x1fff }
  | 0x8 => { regs with wkupTholdHi := value }
  | 0xc => { regs with wkupTholdLo := value }
  | 0x10 => { regs with wkupCountHi := value }
  | 0x14 => { regs with wkupCountLo := value }
  | 0x18 => { regs with wdogRegwen := regs.wdogRegwen && value.getLsbD wdogRegwenRegwenBit }
  | 0x1c => if regs.wdogRegwen then { regs with wdogCtrl := value &&& 0x3 } else regs
  | 0x20 => if regs.wdogRegwen then { regs with wdogBarkThold := value } else regs
  | 0x24 => if regs.wdogRegwen then { regs with wdogBiteThold := value } else regs
  | 0x28 => { regs with wdogCount := value }
  | 0x2c => { regs with intrState := regs.intrState &&& ~~~value }
  | 0x30 => { regs with intrState := regs.intrState ||| (value &&& 0x3) }
  | 0x34 => { regs with wkupCause := regs.wkupCause &&& value }
  | _ => regs

/-- The register file as a device; it takes no byte writes. -/
def device : Device Registers where
  read32 offset regs := (regs.read32 offset, regs)
  write32 := Registers.write32
  write8 _ _ regs := regs

/-- One move of the hardware.  It has no access to `WDOG_REGWEN` and only
reads the control and threshold registers. -/
def Hardware (regs regs' : Registers) : Prop :=
  Exists fun wkupCountHi => Exists fun wkupCountLo => Exists fun wdogCount =>
    Exists fun intrState => Exists fun wkupCause => regs' = { regs with
      wkupCountHi := wkupCountHi
      wkupCountLo := wkupCountLo
      wdogCount := wdogCount
      intrState := intrState
      wkupCause := wkupCause }

theorem Hardware.wdogRegwen {regs regs' : Registers} (move : Hardware regs regs') :
    regs'.wdogRegwen = regs.wdogRegwen := by
  rcases move with ⟨_, _, _, _, _, rfl⟩
  rfl

/-! ## The driver -/

/-- `aon_timer_wakeup_clear_counter` -/
def aonTimerWakeupClearCounter : Mmio Unit := do
  mmioRegionWrite32 wkupCountLoRegOffset 0
  mmioRegionWrite32 wkupCountHiRegOffset 0

/-- `aon_timer_wakeup_toggle` -/
def aonTimerWakeupToggle (enable : Bool) : Mmio Unit := do
  let reg <- mmioRegionRead32 wkupCtrlRegOffset
  mmioRegionWrite32 wkupCtrlRegOffset (bitfieldBit32Write reg wkupCtrlEnableBit enable)

/-- `aon_timer_watchdog_clear_counter` -/
def aonTimerWatchdogClearCounter : Mmio Unit :=
  mmioRegionWrite32 wdogCountRegOffset 0

/-- `aon_timer_watchdog_toggle` -/
def aonTimerWatchdogToggle (enable : Bool) : Mmio Unit := do
  let reg <- mmioRegionRead32 wdogCtrlRegOffset
  mmioRegionWrite32 wdogCtrlRegOffset (bitfieldBit32Write reg wdogCtrlEnableBit enable)

/-- `aon_timer_watchdog_lock` -/
def aonTimerWatchdogLock : Mmio Unit :=
  mmioRegionWrite32 wdogRegwenRegOffset 0x00000001

/-- `aon_timer_watchdog_is_locked` -/
def aonTimerWatchdogIsLocked : Mmio Bool := do
  let reg <- mmioRegionRead32 wdogRegwenRegOffset
  return !bitfieldBit32Read reg wdogRegwenRegwenBit

/-- `dif_aon_timer_wakeup_start` -/
def difAonTimerWakeupStart (aon : Pointer) (threshold : BitVec 64) (prescaler : BitVec 32) :
    Mmio DifResult := do
  if aon = .null ∨ wkupCtrlPrescalerMask < prescaler then
    return .kDifBadArg
  aonTimerWakeupToggle false
  aonTimerWakeupClearCounter
  let thresholdDec := threshold - 1
  mmioRegionWrite32 wkupTholdLoRegOffset ((thresholdDec &&& 0xffffffff).setWidth 32)
  mmioRegionWrite32 wkupTholdHiRegOffset ((thresholdDec >>> 32).setWidth 32)
  let reg := bitfieldField32Write 0 wkupCtrlPrescalerField prescaler
  let reg := bitfieldBit32Write reg wkupCtrlEnableBit true
  mmioRegionWrite32 wkupCtrlRegOffset reg
  return .kDifOk

/-- `dif_aon_timer_wakeup_stop` -/
def difAonTimerWakeupStop (aon : Pointer) : Mmio DifResult := do
  if aon = .null then
    return .kDifBadArg
  aonTimerWakeupToggle false
  return .kDifOk

/-- `dif_aon_timer_wakeup_restart` -/
def difAonTimerWakeupRestart (aon : Pointer) : Mmio DifResult := do
  if aon = .null then
    return .kDifBadArg
  aonTimerWakeupToggle false
  aonTimerWakeupClearCounter
  aonTimerWakeupToggle true
  return .kDifOk

/-- The getters of one bit of one register: the result, and what is stored. -/
def readBit (aon out : Pointer) (offset bitIndex : Nat) : Mmio (DifResult × Option Bool) := do
  if aon = .null ∨ out = .null then
    return (.kDifBadArg, none)
  let reg <- mmioRegionRead32 offset
  return (.kDifOk, some (bitfieldBit32Read reg bitIndex))

/-- `dif_aon_timer_wakeup_is_enabled` -/
def difAonTimerWakeupIsEnabled (aon isEnabled : Pointer) : Mmio (DifResult × Option Bool) :=
  readBit aon isEnabled wkupCtrlRegOffset wkupCtrlEnableBit

/-- `dif_aon_timer_get_wakeup_cause` -/
def difAonTimerGetWakeupCause (aon cause : Pointer) : Mmio (DifResult × Option Bool) :=
  readBit aon cause wkupCauseRegOffset wkupCauseCauseBit

/-- `dif_aon_timer_clear_wakeup_cause` -/
def difAonTimerClearWakeupCause (aon : Pointer) : Mmio DifResult := do
  if aon = .null then
    return .kDifBadArg
  mmioRegionWrite32 wkupCauseRegOffset 0
  return .kDifOk

/-- `dif_aon_timer_wakeup_get_count` -/
def difAonTimerWakeupGetCount (aon count : Pointer) : Mmio (DifResult × Option (BitVec 64)) := do
  if aon = .null ∨ count = .null then
    return (.kDifBadArg, none)
  let countHi <- mmioRegionRead32 wkupCountHiRegOffset
  let countLo <- mmioRegionRead32 wkupCountLoRegOffset
  let countHi2 <- mmioRegionRead32 wkupCountHiRegOffset
  if countHi2 ≠ countHi then
    let countLo <- mmioRegionRead32 wkupCountLoRegOffset
    return (.kDifOk, some (countLo.setWidth 64 ||| (countHi2.setWidth 64 <<< 32)))
  else
    return (.kDifOk, some (countLo.setWidth 64 ||| (countHi.setWidth 64 <<< 32)))

/-- `dif_aon_timer_watchdog_start` -/
def difAonTimerWatchdogStart (aon : Pointer) (barkThreshold biteThreshold : BitVec 32)
    (pauseInSleep lock : Bool) : Mmio DifResult := do
  if aon = .null then
    return .kDifBadArg
  if <- aonTimerWatchdogIsLocked then
    return .kDifLocked
  aonTimerWatchdogToggle false
  aonTimerWatchdogClearCounter
  mmioRegionWrite32 wdogBarkTholdRegOffset (barkThreshold - 1)
  mmioRegionWrite32 wdogBiteTholdRegOffset (biteThreshold - 1)
  let reg := bitfieldBit32Write 0 wdogCtrlEnableBit true
  let reg := if pauseInSleep then bitfieldBit32Write reg wdogCtrlPauseInSleepBit true else reg
  mmioRegionWrite32 wdogCtrlRegOffset reg
  if lock then
    aonTimerWatchdogLock
  return .kDifOk

/-- `dif_aon_timer_watchdog_stop` -/
def difAonTimerWatchdogStop (aon : Pointer) : Mmio DifResult := do
  if aon = .null then
    return .kDifBadArg
  if <- aonTimerWatchdogIsLocked then
    return .kDifLocked
  aonTimerWatchdogToggle false
  return .kDifOk

/-- `dif_aon_timer_watchdog_restart` -/
def difAonTimerWatchdogRestart (aon : Pointer) : Mmio DifResult := do
  if aon = .null then
    return .kDifBadArg
  if <- aonTimerWatchdogIsLocked then
    return .kDifLocked
  aonTimerWatchdogClearCounter
  aonTimerWatchdogToggle true
  return .kDifOk

/-- `dif_aon_timer_watchdog_is_enabled` -/
def difAonTimerWatchdogIsEnabled (aon isEnabled : Pointer) : Mmio (DifResult × Option Bool) :=
  readBit aon isEnabled wdogCtrlRegOffset wdogCtrlEnableBit

/-- `dif_aon_timer_watchdog_get_count` -/
def difAonTimerWatchdogGetCount (aon count : Pointer) : Mmio (DifResult × Option (BitVec 32)) := do
  if aon = .null ∨ count = .null then
    return (.kDifBadArg, none)
  let value <- mmioRegionRead32 wdogCountRegOffset
  return (.kDifOk, some value)

/-- `dif_aon_timer_watchdog_pet` -/
def difAonTimerWatchdogPet (aon : Pointer) : Mmio DifResult := do
  if aon = .null then
    return .kDifBadArg
  aonTimerWatchdogClearCounter
  return .kDifOk

/-- `dif_aon_timer_watchdog_lock` -/
def difAonTimerWatchdogLock (aon : Pointer) : Mmio DifResult := do
  if aon = .null then
    return .kDifBadArg
  aonTimerWatchdogLock
  return .kDifOk

/-- `dif_aon_timer_watchdog_is_locked` -/
def difAonTimerWatchdogIsLocked (aon isLocked : Pointer) : Mmio (DifResult × Option Bool) := do
  if aon = .null ∨ isLocked = .null then
    return (.kDifBadArg, none)
  let locked <- aonTimerWatchdogIsLocked
  return (.kDifOk, some locked)

/-- `aon_timer_get_irq_bit_index`, of the interrupt given by its number. -/
def aonTimerGetIrqBitIndex (irq : Nat) : Option Nat :=
  match irq with
  | 0 => some 0
  | 1 => some 1
  | _ => none

/-- `dif_aon_timer_irq_get_state` -/
def difAonTimerIrqGetState (aonTimer snapshot : Pointer) :
    Mmio (DifResult × Option (BitVec 32)) := do
  if aonTimer = .null ∨ snapshot = .null then
    return (.kDifBadArg, none)
  let value <- mmioRegionRead32 intrStateRegOffset
  return (.kDifOk, some value)

/-- `dif_aon_timer_irq_acknowledge_state` -/
def difAonTimerIrqAcknowledgeState (aonTimer : Pointer) (snapshot : BitVec 32) :
    Mmio DifResult := do
  if aonTimer = .null then
    return .kDifBadArg
  mmioRegionWrite32 intrStateRegOffset snapshot
  return .kDifOk

/-- `dif_aon_timer_irq_is_pending` -/
def difAonTimerIrqIsPending (aonTimer : Pointer) (irq : Nat) (isPending : Pointer) :
    Mmio (DifResult × Option Bool) := do
  if aonTimer = .null ∨ isPending = .null then
    return (.kDifBadArg, none)
  match aonTimerGetIrqBitIndex irq with
  | none => return (.kDifBadArg, none)
  | some index =>
      let intrStateReg <- mmioRegionRead32 intrStateRegOffset
      return (.kDifOk, some (bitfieldBit32Read intrStateReg index))

/-- `dif_aon_timer_irq_acknowledge_all` -/
def difAonTimerIrqAcknowledgeAll (aonTimer : Pointer) : Mmio DifResult := do
  if aonTimer = .null then
    return .kDifBadArg
  mmioRegionWrite32 intrStateRegOffset 0xffffffff
  return .kDifOk

/-- `dif_aon_timer_irq_acknowledge` -/
def difAonTimerIrqAcknowledge (aonTimer : Pointer) (irq : Nat) : Mmio DifResult := do
  if aonTimer = .null then
    return .kDifBadArg
  match aonTimerGetIrqBitIndex irq with
  | none => return .kDifBadArg
  | some index =>
      mmioRegionWrite32 intrStateRegOffset (bitfieldBit32Write 0 index true)
      return .kDifOk

/-- `dif_aon_timer_irq_force` -/
def difAonTimerIrqForce (aonTimer : Pointer) (irq : Nat) (val : Bool) : Mmio DifResult := do
  if aonTimer = .null then
    return .kDifBadArg
  match aonTimerGetIrqBitIndex irq with
  | none => return .kDifBadArg
  | some index =>
      mmioRegionWrite32 intrTestRegOffset (bitfieldBit32Write 0 index val)
      return .kDifOk

end AonTimer
end SunburstChip
