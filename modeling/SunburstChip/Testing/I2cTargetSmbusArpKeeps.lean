import SunburstChip.Lib.Transcript
import SunburstChip.Testing.I2cTargetSmbusArp

namespace SunburstChip
namespace SmbusArp

open Mmio I2c
open Code (confined_bind confined_ite confined_get_bind confined_pure confined_lift confined_set)

/-!
# What the handlers of the target leave alone

Of the functions of the state machine, only the end of an Assign Address
command writes to `TARGET_ID` and changes the address, and only the ends of
that command and of a reset change whether the address is valid.
-/

/-! ## Functions that return nothing -/

/-- A program that is allowed, with a result that is checked. -/
theorem confined_tryLift {allowed : Access -> Prop} {inv : Memory -> Prop} {program : Mmio DifResult}
    (within : program.Within allowed) : (tryLift program).Confined allowed inv :=
  confined_bind (confined_lift within) (fun result => confined_tryDif result)

theorem confined_modify {allowed : Access -> Prop} {inv : Memory -> Prop} {change : Memory -> Memory}
    (keeps : forall memory, inv memory -> inv (change memory)) :
    (modify change).Confined allowed inv :=
  confined_get_bind (fun memory holds => confined_set (keeps memory holds))

theorem confined_foldlM {allowed : Access -> Prop} {inv : Memory -> Prop} {α β : Type}
    {body : β -> α -> Code Memory Failure β} (items : List α)
    (round : forall acc item, (body acc item).Confined allowed inv) (acc : β) :
    (items.foldlM body acc).Confined allowed inv := by
  induction items generalizing acc with
  | nil => exact confined_pure acc
  | cons item items ih =>
      rw [List.foldlM_cons]
      exact confined_bind (round acc item) ih

/-! ## The address -/

/-- The access does not change the addresses of the target. -/
def SparesTargetId : Access -> Prop
  | .write32 offset _ => offset ≠ targetIdRegOffset
  | _ => True

theorem spares {offset : Nat} {value : BitVec 32} (other : offset ≠ targetIdRegOffset) :
    SparesTargetId (.write32 offset value) := other

/-- The static variables that belong to the address, and those that never change. -/
def Same (memory memory' : Memory) : Prop :=
  memory'.i2cId = memory.i2cId ∧ memory'.arpAv = memory.arpAv ∧
    memory'.kSmbusUdid = memory.kSmbusUdid

theorem Same.refl (memory : Memory) : Same memory memory := ⟨rfl, rfl, rfl⟩

section Keeps

variable {inv : Memory -> Prop}

/-- The code does not change the addresses of the target, and keeps `inv`. -/
abbrev Keeps {α : Type} (inv : Memory -> Prop) (code : Code Memory Failure α) : Prop :=
  code.Confined SparesTargetId inv

theorem keeps_tryAcquireByte : Keeps inv tryAcquireByte :=
  confined_bind (confined_lift ⟨trivial, fun _ => trivial⟩)
    (fun _ => confined_bind (confined_tryDif _) (fun _ => confined_pure _))

theorem keeps_tryGetPendingAcqByte : Keeps inv tryGetPendingAcqByte :=
  confined_bind (confined_lift ⟨trivial, fun _ => trivial⟩)
    (fun _ => confined_bind (confined_tryDif _) (fun _ => confined_pure _))

theorem keeps_tryGetAcqFifoLevel : Keeps inv tryGetAcqFifoLevel :=
  confined_bind (confined_lift ⟨trivial, fun _ => ⟨trivial, fun _ => trivial⟩⟩)
    (fun _ => confined_bind (confined_tryDif _) (fun _ => confined_pure _))

theorem keeps_tryGetTargetTxHaltEvents : Keeps inv tryGetTargetTxHaltEvents :=
  confined_bind (confined_lift ⟨trivial, fun _ => trivial⟩)
    (fun _ => confined_bind (confined_tryDif _) (fun _ => confined_pure _))

/-- A count that the register has no room for is refused. -/
theorem difI2cSetAutoAckCount_object (count : BitVec 16) :
    difI2cSetAutoAckCount .object count =
      if count.setWidth 32 > targetAckCtrlNbytesMask then Mmio.ret .kDifBadArg
      else .write32 targetAckCtrlRegOffset
        (bitfieldField32Write 0 targetAckCtrlNbytesField (count.setWidth 32)) (.ret .kDifOk) := rfl

theorem keeps_trySetAutoAckCount (count : BitVec 16) : Keeps inv (trySetAutoAckCount count) := by
  apply confined_tryLift
  rw [difI2cSetAutoAckCount_object, within_ite]
  exact ⟨fun _ => trivial, fun _ => ⟨spares (by decide), trivial⟩⟩

theorem keeps_tryNackTransaction : Keeps inv tryNackTransaction :=
  confined_tryLift ⟨spares (by decide), trivial⟩

theorem keeps_tryIrqAcknowledge (irq : DifI2cIrq) : Keeps inv (tryIrqAcknowledge irq) :=
  confined_tryLift ⟨spares (by decide), trivial⟩

theorem keeps_tryTransmitByte (byte : BitVec 8) : Keeps inv (tryTransmitByte byte) :=
  confined_tryLift ⟨spares (by decide), trivial⟩

theorem keeps_tryCheck {α : Type} {condition : Bool} {next : Unit -> Code Memory Failure α}
    (after : forall done, Keeps inv (next done)) : Keeps inv (tryCheck condition >>= next) :=
  confined_bind (confined_tryCheck _) after

theorem keeps_acquireSignalled (expected : DifI2cSignal) :
    Keeps inv (acquireSignalled expected) :=
  confined_bind keeps_tryAcquireByte
    (fun _ => confined_bind (confined_tryCheck _) (fun _ => confined_pure _))

end Keeps

/-! ## Handlers of states in which no address is at stake -/

/-- No command that could change the address is being received. -/
def Settled (memory memory' : Memory) : Prop :=
  Same memory memory' ∧ memory'.state ≠ .kI2cStateArpCheckUdid ∧ memory'.state ≠ .kI2cStateArpPec

section Settled

variable {memory : Memory}

/-- Going on to a state that is not one of the two. -/
theorem settles {change : Memory -> Memory} (same : forall memory', Same memory' (change memory'))
    (state : forall memory', (change memory').state ≠ .kI2cStateArpCheckUdid ∧
      (change memory').state ≠ .kI2cStateArpPec) :
    Keeps (Settled memory) (modify change) := by
  apply confined_modify
  intro memory' settled
  rcases settled with ⟨⟨id, av, udid⟩, -⟩
  have after := same memory'
  exact ⟨⟨after.1.trans id, after.2.1.trans av, after.2.2.trans udid⟩, state memory'⟩

theorem transmitUdid_settled (txStretch : Bool) (i2cStatus : DifI2cStatus) :
    Keeps (Settled memory) (transmitUdid txStretch i2cStatus) := by
  refine keeps_tryCheck (fun _ => ?_)
  refine keeps_tryCheck (fun _ => ?_)
  refine confined_bind keeps_tryGetTargetTxHaltEvents (fun events => ?_)
  refine keeps_tryCheck (fun _ => ?_)
  refine keeps_tryCheck (fun _ => ?_)
  refine confined_bind (confined_tryLift ⟨spares (by decide), trivial⟩) (fun _ => ?_)
  refine confined_bind (keeps_acquireSignalled _) (fun data => ?_)
  refine keeps_tryCheck (fun _ => ?_)
  refine confined_get_bind (fun memory' _ => ?_)
  refine confined_bind (keeps_tryTransmitByte _) (fun _ => ?_)
  refine confined_bind (confined_foldlM _ (fun pec byte => ?_) _) (fun pec => ?_)
  · exact confined_bind (keeps_tryTransmitByte byte) (fun _ => confined_pure _)
  · refine confined_bind (keeps_tryTransmitByte _) (fun _ => ?_)
    refine confined_bind (keeps_tryTransmitByte _) (fun _ => ?_)
    exact settles (fun _ => ⟨rfl, rfl, rfl⟩) (fun _ => ⟨nofun, nofun⟩)

theorem prepareUdidReply_settled (irqSnapshot : BitVec 32) (i2cStatus : DifI2cStatus) :
    Keeps (Settled memory) (prepareUdidReply irqSnapshot i2cStatus) := by
  refine confined_get_bind (fun memory' _ => ?_)
  refine keeps_tryCheck (fun _ => ?_)
  refine confined_ite (fun _ => ?_) (fun _ => transmitUdid_settled _ _)
  refine keeps_tryCheck (fun _ => ?_)
  refine confined_bind (keeps_acquireSignalled _) (fun data => ?_)
  refine keeps_tryCheck (fun _ => ?_)
  refine confined_bind (keeps_tryIrqAcknowledge _) (fun _ => ?_)
  exact confined_ite (fun _ => confined_pure _) (fun _ => transmitUdid_settled _ _)

theorem completeGetUdid_settled (irqSnapshot : BitVec 32) (i2cStatus : DifI2cStatus) :
    Keeps (Settled memory) (completeGetUdid irqSnapshot i2cStatus) := by
  refine confined_get_bind (fun memory' _ => ?_)
  refine keeps_tryCheck (fun _ => ?_)
  refine keeps_tryCheck (fun _ => ?_)
  refine keeps_tryCheck (fun _ => ?_)
  refine confined_bind (keeps_acquireSignalled _) (fun _ => ?_)
  refine confined_bind keeps_tryGetTargetTxHaltEvents (fun events => ?_)
  refine keeps_tryCheck (fun _ => ?_)
  refine keeps_tryCheck (fun _ => ?_)
  refine keeps_tryCheck (fun _ => ?_)
  refine confined_bind (keeps_tryIrqAcknowledge _) (fun _ => ?_)
  exact settles (fun _ => ⟨rfl, rfl, rfl⟩) (fun _ => ⟨nofun, nofun⟩)

theorem finishAssignAddr_settled (irqSnapshot : BitVec 32) (i2cStatus : DifI2cStatus) :
    Keeps (Settled memory) (finishAssignAddr irqSnapshot i2cStatus) := by
  refine keeps_tryCheck (fun _ => ?_)
  refine keeps_tryCheck (fun _ => ?_)
  refine confined_bind (keeps_acquireSignalled _) (fun _ => ?_)
  refine confined_bind (keeps_acquireSignalled _) (fun _ => ?_)
  refine confined_bind (keeps_tryIrqAcknowledge _) (fun _ => ?_)
  exact settles (fun _ => ⟨rfl, rfl, rfl⟩) (fun _ => ⟨nofun, nofun⟩)

theorem drainNack_settled (left : Nat) : Keeps (Settled memory) (drainNack left) := by
  induction left with
  | zero => exact confined_pure _
  | succ left ih =>
      refine confined_bind keeps_tryAcquireByte (fun entry => ?_)
      exact confined_ite (fun _ => confined_pure _) (fun _ => ih)

/-- The watermarks can be set, whatever the levels. -/
theorem setTargetWatermarks_settled (txLevel acqLevel : BitVec 16) :
    Keeps (Settled memory) (tryLift (difI2cSetTargetWatermarks .object txLevel acqLevel)) := by
  apply confined_tryLift
  unfold difI2cSetTargetWatermarks
  rw [within_ite]
  exact ⟨fun _ => trivial, fun _ => ⟨trivial, fun _ => ⟨spares (by decide), trivial⟩⟩⟩

theorem finishNack_settled (irqSnapshot : BitVec 32) (i2cStatus : DifI2cStatus) :
    Keeps (Settled memory) (finishNack irqSnapshot i2cStatus) := by
  have last (sawStop : Bool) : Keeps (Settled memory)
      (if !sawStop then tryLift (difI2cSetTargetWatermarks .object 0 0)
      else do
        tryLift (difI2cSetTargetWatermarks .object 0 paramAcqFifoDepth)
        modify ({ · with arpCmdPending := 0, state := .kI2cStateIdle })) := by
    refine confined_ite (fun _ => setTargetWatermarks_settled _ _) (fun _ => ?_)
    refine confined_bind (setTargetWatermarks_settled _ _) (fun _ => ?_)
    exact settles (fun _ => ⟨rfl, rfl, rfl⟩) (fun _ => ⟨nofun, nofun⟩)
  have middle : Keeps (Settled memory) (do
      let sawStop <-
        if !i2cStatus.acqFifoEmpty then do
          let acqFifoLevel <- tryGetAcqFifoLevel
          drainNack acqFifoLevel.toNat
        else
          pure false
      if !sawStop then tryLift (difI2cSetTargetWatermarks .object 0 0)
      else do
        tryLift (difI2cSetTargetWatermarks .object 0 paramAcqFifoDepth)
        modify ({ · with arpCmdPending := 0, state := .kI2cStateIdle })) := by
    refine confined_ite (fun _ => ?_) (fun _ => last false)
    refine confined_bind keeps_tryGetAcqFifoLevel (fun acqFifoLevel => ?_)
    exact confined_bind (drainNack_settled _) last
  refine confined_ite (fun _ => ?_) (fun _ => middle)
  exact confined_bind (keeps_tryIrqAcknowledge _) (fun _ => middle)

theorem messageCmdDispatch_settled (irqSnapshot : BitVec 32) (i2cStatus : DifI2cStatus) :
    Keeps (Settled memory) (messageCmdDispatch irqSnapshot i2cStatus) := by
  refine confined_get_bind (fun memory' _ => ?_)
  refine keeps_tryCheck (fun _ => ?_)
  refine confined_bind (keeps_acquireSignalled _) (fun data => ?_)
  refine keeps_tryCheck (fun _ => ?_)
  refine confined_ite (fun _ => ?_) (fun _ => ?_)
  · refine confined_bind ?_ (fun _ => keeps_trySetAutoAckCount _)
    exact settles (fun _ => ⟨rfl, rfl, rfl⟩) (fun _ => ⟨nofun, nofun⟩)
  · refine confined_ite (fun _ => ?_) (fun _ => confined_tryCheck _)
    refine confined_bind (keeps_tryIrqAcknowledge _) (fun _ => ?_)
    exact settles (fun _ => ⟨rfl, rfl, rfl⟩) (fun _ => ⟨nofun, nofun⟩)

theorem receiveByte_settled (i : Fin 32) : Keeps (Settled memory) (receiveByte i) := by
  refine confined_bind (keeps_acquireSignalled _) (fun data => ?_)
  exact confined_modify (fun memory' settled => settled)

theorem messageReceive_settled (irqSnapshot : BitVec 32) (i2cStatus : DifI2cStatus) :
    Keeps (Settled memory) (messageReceive irqSnapshot i2cStatus) := by
  refine keeps_tryCheck (fun _ => ?_)
  refine keeps_tryCheck (fun _ => ?_)
  refine keeps_tryCheck (fun _ => ?_)
  refine confined_bind keeps_tryGetAcqFifoLevel (fun acqFifoLevel => ?_)
  refine keeps_tryCheck (fun _ => ?_)
  refine confined_bind (confined_foldlM _ (fun _ i => receiveByte_settled i) _) (fun _ => ?_)
  refine confined_bind (keeps_acquireSignalled _) (fun _ => ?_)
  refine confined_bind (keeps_tryIrqAcknowledge _) (fun _ => ?_)
  exact settles (fun _ => ⟨rfl, rfl, rfl⟩) (fun _ => ⟨nofun, nofun⟩)

theorem messageTransmit_settled (irqSnapshot : BitVec 32) (i2cStatus : DifI2cStatus) :
    Keeps (Settled memory) (messageTransmit irqSnapshot i2cStatus) := by
  refine keeps_tryCheck (fun _ => ?_)
  refine keeps_tryCheck (fun _ => ?_)
  refine keeps_tryCheck (fun _ => ?_)
  refine confined_bind (keeps_acquireSignalled _) (fun data => ?_)
  refine confined_get_bind (fun memory' _ => ?_)
  refine keeps_tryCheck (fun _ => ?_)
  refine confined_bind keeps_tryGetTargetTxHaltEvents (fun events => ?_)
  refine keeps_tryCheck (fun _ => ?_)
  refine keeps_tryCheck (fun _ => ?_)
  refine confined_bind (confined_tryLift ⟨spares (by decide), trivial⟩) (fun _ => ?_)
  refine confined_bind (confined_foldlM _ (fun _ byte => keeps_tryTransmitByte byte) _)
    (fun _ => ?_)
  exact settles (fun _ => ⟨rfl, rfl, rfl⟩) (fun _ => ⟨nofun, nofun⟩)

theorem messageFinish_settled (irqSnapshot : BitVec 32) (i2cStatus : DifI2cStatus) :
    Keeps (Settled memory) (messageFinish irqSnapshot i2cStatus) := by
  refine keeps_tryCheck (fun _ => ?_)
  refine keeps_tryCheck (fun _ => ?_)
  refine confined_bind (keeps_acquireSignalled _) (fun _ => ?_)
  refine confined_bind (keeps_tryIrqAcknowledge _) (fun _ => ?_)
  exact settles (fun _ => ⟨rfl, rfl, rfl⟩) (fun _ => ⟨nofun, nofun⟩)

end Settled

/-! ## Handlers of the states in which one is -/

section Same

variable {memory : Memory}

/-- A change of something else. -/
theorem leaves {change : Memory -> Memory} (same : forall memory', Same memory' (change memory')) :
    Keeps (Same memory) (modify change) := by
  apply confined_modify
  intro memory' kept
  have after := same memory'
  exact ⟨after.1.trans kept.1, after.2.1.trans kept.2.1, after.2.2.trans kept.2.2⟩

theorem acceptCommand_same (command : BitVec 8) (state : I2cState) (count : BitVec 16) :
    Keeps (Same memory) (acceptCommand command state count) :=
  confined_bind (leaves (fun _ => ⟨rfl, rfl, rfl⟩)) (fun _ => keeps_trySetAutoAckCount _)

theorem nackCommand_same : Keeps (Same memory) nackCommand :=
  confined_bind (leaves (fun _ => ⟨rfl, rfl, rfl⟩)) (fun _ => keeps_tryNackTransaction)

theorem processArpCommand_same : Keeps (Same memory) processArpCommand := by
  refine confined_bind keeps_tryGetPendingAcqByte (fun command => ?_)
  refine confined_get_bind (fun memory' _ => ?_)
  refine confined_ite (fun _ => acceptCommand_same _ _ _) (fun _ => ?_)
  refine confined_ite (fun _ => acceptCommand_same _ _ _) (fun _ => ?_)
  refine confined_ite (fun _ => ?_) (fun _ => ?_)
  · exact confined_ite (fun _ => nackCommand_same) (fun _ => acceptCommand_same _ _ _)
  · refine confined_ite (fun _ => acceptCommand_same _ _ _) (fun _ => ?_)
    refine confined_ite (fun _ => ?_) (fun _ => ?_)
    · exact confined_ite (fun _ => acceptCommand_same _ _ _) (fun _ => nackCommand_same)
    · refine confined_ite (fun _ => ?_) (fun _ => nackCommand_same)
      exact confined_ite (fun _ => acceptCommand_same _ _ _) (fun _ => nackCommand_same)

theorem processMessageCommand_same : Keeps (Same memory) processMessageCommand := by
  refine confined_bind keeps_tryGetPendingAcqByte (fun command => ?_)
  refine confined_get_bind (fun memory' _ => ?_)
  refine confined_ite (fun _ => ?_) (fun _ => nackCommand_same)
  exact confined_bind (leaves (fun _ => ⟨rfl, rfl, rfl⟩)) (fun _ => keeps_trySetAutoAckCount _)

theorem processNewCommand_same (irqSnapshot : BitVec 32) (i2cStatus : DifI2cStatus) :
    Keeps (Same memory) (processNewCommand irqSnapshot i2cStatus) := by
  refine keeps_tryCheck (fun _ => ?_)
  refine keeps_tryCheck (fun _ => ?_)
  refine confined_bind keeps_tryAcquireByte (fun entry => ?_)
  refine keeps_tryCheck (fun _ => ?_)
  refine confined_bind (leaves (fun _ => ⟨rfl, rfl, rfl⟩)) (fun _ => ?_)
  refine keeps_tryCheck (fun _ => ?_)
  refine keeps_tryCheck (fun _ => ?_)
  refine confined_get_bind (fun memory' _ => ?_)
  refine confined_ite (fun _ => processArpCommand_same) (fun _ => ?_)
  exact confined_ite (fun _ => processMessageCommand_same) (fun _ => confined_tryCheck _)

theorem acquirePec_same : Keeps (Same memory) acquirePec := by
  refine confined_bind (keeps_acquireSignalled _) (fun data => ?_)
  exact confined_bind (leaves (fun _ => ⟨rfl, rfl, rfl⟩)) (fun _ => confined_pure _)

theorem checkReceivedUdid_same (irqSnapshot : BitVec 32) (i2cStatus : DifI2cStatus) :
    Keeps (Same memory) (checkReceivedUdid irqSnapshot i2cStatus) := by
  refine confined_get_bind (fun memory' _ => ?_)
  refine keeps_tryCheck (fun _ => ?_)
  refine keeps_tryCheck (fun _ => ?_)
  refine keeps_tryCheck (fun _ => ?_)
  refine confined_bind keeps_tryGetAcqFifoLevel (fun acqFifoLevel => ?_)
  refine keeps_tryCheck (fun _ => ?_)
  refine confined_bind keeps_tryAcquireByte (fun entry => ?_)
  refine keeps_tryCheck (fun _ => ?_)
  refine keeps_tryCheck (fun _ => ?_)
  refine confined_bind (leaves (fun _ => ⟨rfl, rfl, rfl⟩)) (fun _ => ?_)
  refine confined_bind keeps_tryAcquireByte (fun entry => ?_)
  refine keeps_tryCheck (fun _ => ?_)
  refine keeps_tryCheck (fun _ => ?_)
  refine confined_bind (leaves (fun _ => ⟨rfl, rfl, rfl⟩)) (fun _ => ?_)
  refine confined_bind (confined_foldlM _ (fun _ _ => ?_) _) (fun udidMatch => ?_)
  · exact confined_bind acquirePec_same (fun _ => confined_pure _)
  · refine confined_bind keeps_tryGetPendingAcqByte (fun data => ?_)
    refine confined_ite (fun _ => ?_) (fun _ => nackCommand_same)
    exact confined_bind (leaves (fun _ => ⟨rfl, rfl, rfl⟩))
      (fun _ => keeps_trySetAutoAckCount _)

theorem checkShortCommand_same (irqSnapshot : BitVec 32) (i2cStatus : DifI2cStatus) :
    Keeps (Same memory) (checkShortCommand irqSnapshot i2cStatus) := by
  refine keeps_tryCheck (fun _ => ?_)
  refine keeps_tryCheck (fun _ => ?_)
  refine confined_bind keeps_tryGetAcqFifoLevel (fun acqFifoLevel => ?_)
  refine keeps_tryCheck (fun _ => ?_)
  refine confined_bind keeps_tryAcquireByte (fun entry => ?_)
  refine keeps_tryCheck (fun _ => ?_)
  refine confined_get_bind (fun memory' _ => ?_)
  refine keeps_tryCheck (fun _ => ?_)
  refine confined_bind (leaves (fun _ => ⟨rfl, rfl, rfl⟩)) (fun _ => ?_)
  refine confined_bind acquirePec_same (fun _ => ?_)
  refine confined_bind (keeps_acquireSignalled _) (fun _ => ?_)
  refine confined_bind (keeps_tryIrqAcknowledge _) (fun _ => ?_)
  refine confined_bind (leaves (fun _ => ⟨rfl, rfl, rfl⟩)) (fun _ => ?_)
  exact confined_get_bind (fun _ _ => confined_tryCheck _)

theorem checkAssignment_same (irqSnapshot : BitVec 32) (i2cStatus : DifI2cStatus) :
    Keeps (Same memory) (checkAssignment irqSnapshot i2cStatus) := by
  refine keeps_tryCheck (fun _ => ?_)
  refine keeps_tryCheck (fun _ => ?_)
  refine keeps_tryCheck (fun _ => ?_)
  refine confined_bind keeps_tryGetAcqFifoLevel (fun acqFifoLevel => ?_)
  refine keeps_tryCheck (fun _ => ?_)
  refine confined_bind keeps_tryAcquireByte (fun entry => ?_)
  refine keeps_tryCheck (fun _ => ?_)
  refine confined_get_bind (fun memory' _ => ?_)
  refine keeps_tryCheck (fun _ => ?_)
  refine confined_bind (leaves (fun _ => ⟨rfl, rfl, rfl⟩)) (fun _ => ?_)
  refine confined_bind acquirePec_same (fun newAddress => ?_)
  refine confined_bind keeps_tryGetPendingAcqByte (fun data => ?_)
  refine confined_get_bind (fun memory' _ => ?_)
  exact confined_bind (confined_tryCheck _) (fun _ => confined_pure _)

end Same

end SmbusArp
end SunburstChip
