import SunburstChip.Dif.UsbdevChunks
import SunburstChip.Dif.UsbdevRegisters
import SunburstChip.Testing.UsbTestutils

namespace SunburstChip
namespace UsbTestutils

open Mmio Usbdev

/-!
# Endpoints and their callbacks

What the functions for setting an endpoint up leave behind: the entries of the
endpoint, on a controller that is otherwise as it was.  When a packet has been
sent or received, the library calls what has been registered.
-/

section

variable {κ γ : Type} {m : Nat} {away : Multiset Nat} {slots : Nat -> Slot}
  {known : Nat -> List (BitVec 8)} {pool : BufferPool} {objects : Nat -> Buffer}
  {memory : State κ γ}

theorem isValidEndpoint_setWidth {ep : BitVec 8} (below : ep.toNat < 12) :
    isValidEndpoint ((ep.setWidth 4).setWidth 8) = true := by
  apply decide_eq_true
  rw [BitVec.toNat_setWidth, BitVec.toNat_setWidth]
  change _ < 12
  omega

theorem isValidToggle_ite {condition : Prop} [Decidable condition] :
    difIsValidToggle (if condition then kDifToggleEnabled else kDifToggleDisabled) = true := by
  split <;> rfl

theorem isValidToggle_ite_not {condition : Prop} [Decidable condition] :
    difIsValidToggle (if condition then kDifToggleDisabled else kDifToggleEnabled) = true := by
  split <;> rfl

/-- The entry of an IN endpoint that has been set up. -/
def inEndpointSet (entry : InEndpoint κ) (epType : TransferType)
    (txDone flush reset : Option κ) : InEndpoint κ :=
  { entry with epType := epType, txDoneCallback := txDone, flush := flush, reset := reset }

theorem inEndpointSetup_spec {ep : BitVec 8} (below : ep.toNat < 12) (epType : TransferType)
    (txDone flush reset : Option κ) :
    Triple device Hardware
      (fun usbdev => Tracked m away slots known ⟨usbdev, pool, objects⟩)
      (usbTestutilsInEndpointSetup ep epType txDone flush reset memory)
      (fun out usbdev =>
        out = (.ok (), memory.setIn ep.toNat
          (inEndpointSet (memory.inEndpoints ep.toNat) epType txDone flush reset)) ∧
        Tracked m away slots known ⟨usbdev, pool, objects⟩) := by
  have valid := isValidEndpoint_setWidth below
  unfold usbTestutilsInEndpointSetup
  rw [Code.get_bind_apply, inRange_bind (show _ < numEndpoints from below), Code.set_bind_apply]
  refine Code.triple_lift_ok _ (directionEnable_tracked (by decide) (by decide) valid rfl) ?_
  rw [tryDif_ok_bind]
  refine Code.triple_lift_ok _
    (directionEnable_tracked (by decide) (by decide) valid isValidToggle_ite) ?_
  rw [checkDifOk_ok_bind]
  refine Code.triple_lift_ok _ (directionEnable_tracked (by decide) (by decide) valid rfl) ?_
  exact Triple.ret stable_tracked (fun _ tracked => ⟨rfl, tracked⟩)

theorem outEndpointSetup_spec {ep : BitVec 8} (below : ep.toNat < 12) (epType : TransferType)
    (outMode : OutTransferMode) (rx reset : Option κ) :
    Triple device Hardware
      (fun usbdev => Tracked m away slots known ⟨usbdev, pool, objects⟩)
      (usbTestutilsOutEndpointSetup ep epType outMode rx reset memory)
      (fun out usbdev =>
        out = (.ok (), { memory with
          outEndpoints := Function.update memory.outEndpoints ep.toNat ⟨epType, rx, reset⟩ }) ∧
        Tracked m away slots known ⟨usbdev, pool, objects⟩) := by
  have valid := isValidEndpoint_setWidth below
  have valid' : isValidEndpoint ep = true := decide_eq_true below
  unfold usbTestutilsOutEndpointSetup
  rw [Code.get_bind_apply, inRange_bind (show _ < numEndpoints from below), Code.set_bind_apply]
  refine Code.triple_lift_ok _ (directionEnable_tracked (by decide) (by decide) valid rfl) ?_
  rw [tryDif_ok_bind]
  refine Code.triple_lift_ok _
    (directionEnable_tracked (by decide) (by decide) valid isValidToggle_ite) ?_
  rw [checkDifOk_ok_bind]
  refine Code.triple_lift_ok _
    (functionalityEnable_tracked (by decide) valid' isValidToggle_ite_not) ?_
  rw [tryDif_ok_bind]
  refine Code.triple_lift_ok _
    (functionalityEnable_tracked (by decide) valid' isValidToggle_ite) ?_
  rw [tryDif_ok_bind]
  refine Code.triple_lift_ok _
    (directionEnable_tracked (by decide) (by decide) valid isValidToggle_ite_not) ?_
  exact Triple.ret stable_tracked (fun _ tracked => ⟨rfl, tracked⟩)

/-- A direction of an endpoint that is set up does not answer with STALL. -/
theorem inEndpointSetup_stall {ep : BitVec 8} (below : ep.toNat < 12) (epType : TransferType)
    (txDone flush reset : Option κ) (settings : EndpointId -> Bool) :
    Triple device Hardware (fun usbdev => usbdev.stall = settings)
      (usbTestutilsInEndpointSetup ep epType txDone flush reset memory)
      (fun _ usbdev => usbdev.stall = Function.update settings ⟨ep.setWidth 4, true⟩ false) := by
  have valid := isValidEndpoint_setWidth below
  unfold usbTestutilsInEndpointSetup
  rw [Code.get_bind_apply, inRange_bind (show _ < numEndpoints from below), Code.set_bind_apply]
  refine Code.triple_lift_ok _ (stallEnable_spec valid rfl settings) ?_
  rw [tryDif_ok_bind]
  refine Code.triple_lift_ok _
    (directionEnable_stall (by decide) (by decide) valid isValidToggle_ite) ?_
  rw [checkDifOk_ok_bind]
  refine Code.triple_lift_ok _ (directionEnable_stall (by decide) (by decide) valid rfl) ?_
  exact Triple.ret stable_stall (fun _ isSettings => isSettings)

theorem outEndpointSetup_stall {ep : BitVec 8} (below : ep.toNat < 12) (epType : TransferType)
    (outMode : OutTransferMode) (rx reset : Option κ) (settings : EndpointId -> Bool) :
    Triple device Hardware (fun usbdev => usbdev.stall = settings)
      (usbTestutilsOutEndpointSetup ep epType outMode rx reset memory)
      (fun _ usbdev => usbdev.stall = Function.update settings ⟨ep.setWidth 4, false⟩ false) := by
  have valid := isValidEndpoint_setWidth below
  have valid' : isValidEndpoint ep = true := decide_eq_true below
  unfold usbTestutilsOutEndpointSetup
  rw [Code.get_bind_apply, inRange_bind (show _ < numEndpoints from below), Code.set_bind_apply]
  refine Code.triple_lift_ok _ (stallEnable_spec valid rfl settings) ?_
  rw [tryDif_ok_bind]
  refine Code.triple_lift_ok _
    (directionEnable_stall (by decide) (by decide) valid isValidToggle_ite) ?_
  rw [checkDifOk_ok_bind]
  refine Code.triple_lift_ok _
    (functionalityEnable_stall (by decide) valid' isValidToggle_ite_not) ?_
  rw [tryDif_ok_bind]
  refine Code.triple_lift_ok _ (functionalityEnable_stall (by decide) valid' isValidToggle_ite) ?_
  rw [tryDif_ok_bind]
  refine Code.triple_lift_ok _
    (directionEnable_stall (by decide) (by decide) valid isValidToggle_ite_not) ?_
  exact Triple.ret stable_stall (fun _ isSettings => isSettings)

/-! ## Calling back -/

/-- The library takes a packet from the FIFO and calls back for it. -/
theorem pollReceived_calls {call : κ -> RxPacketInfo -> Buffer -> Code (State κ γ) Failure Unit}
    {callback : κ} {entry : RxEntry} {packet : List (BitVec 8)} {start finish : Controller}
    {out : Except Failure Bool × State κ γ} {settings : EndpointId -> Bool}
    (below : entry.ep.toNat < 12)
    (registered : (memory.outEndpoints entry.ep.toNat).rxCallback = some callback)
    (waiting : Waiting m away slots known memory.pool objects entry packet start)
    (isSettings : start.stall = settings)
    (execution : Exec device Hardware start (pollReceived call memory) finish out) :
    Exists fun middle => Exists fun later => Exists fun done : Except Failure Unit × State κ γ =>
      Tracked m (away + {entry.received.id.toNat}) slots
        (Function.update known entry.received.id.toNat packet) ⟨middle, memory.pool, objects⟩ ∧
      middle.stall = settings ∧
      Exec device Hardware middle (call callback entry.info entry.received memory) later done ∧
      Exec device Hardware later (Code.andThen (fun _ => pure true) done) finish out := by
  have quiet : (difUsbdevStatusGetRxFifoEmpty .object .object).Within AvoidsStall :=
    within_avoidsStall (fun _ _ => avoids_statusGetRxFifoEmpty _ _)
  have quiet' : (difUsbdevRecv .object .object .object).Within AvoidsStall :=
    within_avoidsStall (fun _ _ => avoids_recv _ _ _)
  unfold pollReceived at execution
  rw [Code.lift_bind_apply] at execution
  rcases exec_bind execution with ⟨middle, status, reading, execution⟩
  have isSettings' := stall_of_avoids settings quiet start middle status isSettings reading
  rcases rxFifoEmpty_waiting start middle status waiting reading with ⟨rfl, waiting⟩
  dsimp only at execution
  rw [tryDif_ok_bind, if_neg (by decide), Code.lift_bind_apply] at execution
  rcases exec_bind execution with ⟨later, result, receiving, execution⟩
  have isSettings'' := stall_of_avoids settings quiet' middle later result isSettings' receiving
  rcases recv_tracked middle later result ⟨waiting.tracked, waiting.head, waiting.begins⟩ receiving
    with ⟨rfl, tracked⟩
  have small := entry.ep.isLt
  have endpoint : entry.info.endpoint.toNat = entry.ep.toNat := by
    rw [RxEntry.info, BitVec.toNat_setWidth]
    omega
  dsimp only at execution
  rw [tryDif_ok_bind, Code.bind_apply] at execution
  unfold dispatchReceived at execution
  rw [Code.get_bind_apply, endpoint, inRange_bind below, registered] at execution
  rcases exec_bind execution with ⟨last, done, dispatching, returning⟩
  exact ⟨later, last, done, tracked, isSettings'', dispatching, returning⟩

/-- After a packet that is no part of a larger transfer the library calls back. -/
theorem pollSent_calls {call : κ -> XfrResult -> Code (State κ γ) Failure Unit} {callback : κ}
    {ep : BitVec 8} {start finish : Controller} {out : Except Failure Unit × State κ γ}
    {settings : EndpointId -> Bool} (below : ep.toNat < 12)
    (registered : (memory.inEndpoints ep.toNat).txDoneCallback = some callback)
    (alone : (memory.inEndpoints ep.toNat).transfer.buffer = none)
    (tracked : Tracked m away slots known ⟨start, memory.pool, objects⟩)
    (sent : start.inSent ep.toNat = true) (isSettings : start.stall = settings)
    (execution : Exec device Hardware start (pollSent call ep memory) finish out) :
    Exists fun middle => Exists fun pool =>
      Tracked m away (Function.update slots ep.toNat .idle) known ⟨middle, pool, objects⟩ ∧
      middle.stall = settings ∧
      Exec device Hardware middle (call callback .kUsbTestutilsXfrResultOk { memory with pool := pool })
        finish out := by
  have quiet : (difUsbdevClearTxStatus .object .object memory.pool ep).Within AvoidsStall :=
    within_avoidsStall (fun _ plain => avoids_clearTxStatus plain _ _ _ _)
  unfold pollSent at execution
  rw [Code.get_bind_apply, Code.lift_bind_apply] at execution
  rcases exec_bind execution with ⟨middle, ⟨result, pool⟩, clearing, execution⟩
  have isSettings' := stall_of_avoids settings quiet start middle _ isSettings clearing
  rcases clearTxStatus_tracked below start middle _ ⟨tracked, sent⟩ clearing with
    ⟨cleared, tracked'⟩
  dsimp only at cleared tracked' execution
  rw [cleared, Code.set_bind_apply, tryDif_ok_bind, Code.bind_apply,
    continueTransfer_none (by exact alone), ret_bind] at execution
  unfold Code.andThen at execution
  dsimp only at execution
  rw [Code.get_bind_apply] at execution
  dsimp only at execution
  rw [registered] at execution
  exact ⟨middle, pool, tracked', isSettings', execution⟩

end

end UsbTestutils
end SunburstChip
