import SunburstChip.Dif.Base
import SunburstChip.Hw.RvPlicDevice

namespace SunburstChip
namespace RvPlic

open Mmio TlulAdapterHost

/-!
# The driver of the interrupt controller

`dif_rv_plic.c`.  Software configures the controller by a sequence of calls of the
driver.  However the lines behave and whatever time passes between the accesses, what
the registers then hold is what the accepted calls amount to, and the interrupt line
to the core says whether a pending interrupt that has been enabled is above the
threshold.
-/

/-! ## The driver -/

/-- `dif_rv_plic_irq_id_t` -/
abbrev IrqId := BitVec 32

/-- `dif_rv_plic_target_t` -/
abbrev TargetId := BitVec 32

/-- `RV_PLIC_PARAM_NUM_TARGET` -/
abbrev numTarget : Nat := 1

/-- `RV_PLIC_PARAM_REG_WIDTH` -/
abbrev regWidth : Nat := 32

/-- `RV_PLIC_IE0_MULTIREG_COUNT` -/
abbrev ie0MultiregCount : Nat := 1

def kDifRvPlicMaxPriority : BitVec 32 := 0x3

/-- `plic_offset_from_reg0` -/
def plicOffsetFromReg0 (irq : IrqId) : Nat := irq.toNat / regWidth % 2 ^ 8 * 4

/-- `plic_irq_bit_index` -/
def plicIrqBitIndex (irq : IrqId) : Nat := irq.toNat % regWidth

/-- `plic_irq_enable_base_for_target` -/
def plicIrqEnableBaseForTarget (target : TargetId) : Nat :=
  Register.ie0.offset + ie0MultiregCount * 4 * target.toNat

/-- `plic_software_irq_base_for_target` -/
def plicSoftwareIrqBaseForTarget (target : TargetId) : Nat :=
  Register.msip0.offset + (target * 4).toNat

/-- `plic_threshold_base_for_target` -/
def plicThresholdBaseForTarget (target : TargetId) : Nat :=
  Register.threshold0.offset + (target * 4).toNat

/-- `plic_claim_complete_base_for_target` -/
def plicClaimCompleteBaseForTarget (target : TargetId) : Nat :=
  Register.cc0.offset + (target * 4).toNat

/-- `plic_reg_info_t` -/
structure PlicRegInfo where
  offset : Nat
  bitIndex : Nat
deriving DecidableEq

/-- `plic_irq_enable_reg_info` -/
def plicIrqEnableRegInfo (irq : IrqId) (target : TargetId) : PlicRegInfo where
  offset := plicIrqEnableBaseForTarget target + plicOffsetFromReg0 irq
  bitIndex := plicIrqBitIndex irq

/-- `plic_irq_pending_reg_info` -/
def plicIrqPendingRegInfo (irq : IrqId) : PlicRegInfo where
  offset := Register.ip.offset + plicOffsetFromReg0 irq
  bitIndex := plicIrqBitIndex irq

/-- `plic_priority_reg_offset` -/
def plicPriorityRegOffset (irq : IrqId) : Nat := (Register.prio 0).offset + (irq * 4).toNat

/-- Write zero to registers, one after the other. -/
def clearEach : List Nat -> Mmio Unit
  | [] => .ret ()
  | offset :: rest => do
      mmioRegionWrite32 offset 0
      clearEach rest

/-- The target related registers that `dif_rv_plic_reset` clears. -/
def targetRegisters (target : Nat) : List Nat :=
  (List.range ie0MultiregCount).map (fun i => plicIrqEnableBaseForTarget (.ofNat 32 target) + i * 4)
    ++ [plicThresholdBaseForTarget (.ofNat 32 target),
      plicSoftwareIrqBaseForTarget (.ofNat 32 target)]

/-- `dif_rv_plic_reset` -/
def difRvPlicReset (plic : Pointer) : Mmio DifResult := do
  if plic = .null then
    return .kDifBadArg
  clearEach ((List.range numSrc).map (fun i => plicPriorityRegOffset (.ofNat 32 i)))
  clearEach ((List.range numTarget).flatMap targetRegisters)
  return .kDifOk

/-- `dif_rv_plic_irq_get_enabled`: the result and `*state`. -/
def difRvPlicIrqGetEnabled (plic : Pointer) (irq : IrqId) (target : TargetId) :
    Mmio (DifResult × DifToggle) := do
  if plic = .null ∨ irq >= .ofNat 32 numSrc ∨ target >= .ofNat 32 numTarget then
    return (.kDifBadArg, 0)
  let regInfo := plicIrqEnableRegInfo irq target
  let reg <- mmioRegionRead32 regInfo.offset
  let isEnabled := bitfieldBit32Read reg regInfo.bitIndex
  return (.kDifOk, if isEnabled then kDifToggleEnabled else kDifToggleDisabled)

/-- `dif_rv_plic_irq_set_enabled` -/
def difRvPlicIrqSetEnabled (plic : Pointer) (irq : IrqId) (target : TargetId)
    (state : DifToggle) : Mmio DifResult := do
  if plic = .null ∨ irq >= .ofNat 32 numSrc ∨ target >= .ofNat 32 numTarget then
    return .kDifBadArg
  if state ≠ kDifToggleEnabled ∧ state ≠ kDifToggleDisabled then
    return .kDifBadArg
  let flag := state == kDifToggleEnabled
  let regInfo := plicIrqEnableRegInfo irq target
  let reg <- mmioRegionRead32 regInfo.offset
  mmioRegionWrite32 regInfo.offset (bitfieldBit32Write reg regInfo.bitIndex flag)
  return .kDifOk

/-- `dif_rv_plic_irq_set_priority` -/
def difRvPlicIrqSetPriority (plic : Pointer) (irq : IrqId) (priority : BitVec 32) :
    Mmio DifResult := do
  if plic = .null ∨ irq >= .ofNat 32 numSrc ∨ priority > kDifRvPlicMaxPriority then
    return .kDifBadArg
  mmioRegionWrite32 (plicPriorityRegOffset irq) priority
  return .kDifOk

/-- `dif_rv_plic_target_set_threshold` -/
def difRvPlicTargetSetThreshold (plic : Pointer) (target : TargetId) (threshold : BitVec 32) :
    Mmio DifResult := do
  if plic = .null ∨ target >= .ofNat 32 numTarget ∨ threshold > kDifRvPlicMaxPriority then
    return .kDifBadArg
  mmioRegionWrite32 (plicThresholdBaseForTarget target) threshold
  return .kDifOk

/-- `dif_rv_plic_irq_is_pending`: the result and `*is_pending`. -/
def difRvPlicIrqIsPending (plic : Pointer) (irq : IrqId) (isPending : Pointer) :
    Mmio (DifResult × Bool) := do
  if plic = .null ∨ irq >= .ofNat 32 numSrc ∨ isPending = .null then
    return (.kDifBadArg, false)
  let regInfo := plicIrqPendingRegInfo irq
  let reg <- mmioRegionRead32 regInfo.offset
  return (.kDifOk, bitfieldBit32Read reg regInfo.bitIndex)

/-- `dif_rv_plic_irq_claim`: the result and `*claim_data`. -/
def difRvPlicIrqClaim (plic : Pointer) (target : TargetId) (claimData : Pointer) :
    Mmio (DifResult × IrqId) := do
  if plic = .null ∨ target >= .ofNat 32 numTarget ∨ claimData = .null then
    return (.kDifBadArg, 0)
  let claimed <- mmioRegionRead32 (plicClaimCompleteBaseForTarget target)
  return (.kDifOk, claimed)

/-- `dif_rv_plic_irq_complete` -/
def difRvPlicIrqComplete (plic : Pointer) (target : TargetId) (completeData : IrqId) :
    Mmio DifResult := do
  if plic = .null ∨ target >= .ofNat 32 numTarget then
    return .kDifBadArg
  mmioRegionWrite32 (plicClaimCompleteBaseForTarget target) completeData
  return .kDifOk

/-- `dif_rv_plic_software_irq_force` -/
def difRvPlicSoftwareIrqForce (plic : Pointer) (target : TargetId) : Mmio DifResult := do
  if plic = .null ∨ target >= .ofNat 32 numTarget then
    return .kDifBadArg
  mmioRegionWrite32 (plicSoftwareIrqBaseForTarget target) 1
  return .kDifOk

/-- `dif_rv_plic_software_irq_acknowledge` -/
def difRvPlicSoftwareIrqAcknowledge (plic : Pointer) (target : TargetId) : Mmio DifResult := do
  if plic = .null ∨ target >= .ofNat 32 numTarget then
    return .kDifBadArg
  mmioRegionWrite32 (plicSoftwareIrqBaseForTarget target) 0
  return .kDifOk

/-- `dif_rv_plic_software_irq_is_pending`: the result and `*is_pending`. -/
def difRvPlicSoftwareIrqIsPending (plic : Pointer) (target : TargetId) (isPending : Pointer) :
    Mmio (DifResult × Bool) := do
  if plic = .null ∨ target >= .ofNat 32 numTarget ∨ isPending = .null then
    return (.kDifBadArg, false)
  let registerValue <- mmioRegionRead32 (plicSoftwareIrqBaseForTarget target)
  return (.kDifOk, registerValue == 1)

end RvPlic
end SunburstChip
