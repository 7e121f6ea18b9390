import SunburstChip.Dif.UsbdevRegisters
import SunburstChip.Testing.UsbControlEp

namespace SunburstChip
namespace UsbControlEp

open Mmio Usbdev UsbTestutils
open Code (confined_bind confined_pure confined_ite confined_get_bind confined_set confined_lift
  confined_raise yields_bind yields_pure yields_ite)

/-!
# Events on the control endpoint

Packets arrive, packets are collected and the bus is reset in any order.  The
device address is set when the status stage of the request for it has been
completed, and at no other time.  The state of the device and the number of its
configuration are changed by different events, and agree as long as none of the
events comes that change one without the other.
-/

section

variable {κ γ : Type} {offset : Nat} {holds : γ -> Prop}

/-! ## What a transfer leaves alone -/

theorem confined_fillPart (plain : PlainRegister offset) (transfer : Transfer)
    (nextPart : Buffer) :
    (fillPart transfer nextPart : Code (State κ γ) Failure _).Confined (Avoids offset)
      (fun state => holds state.client) := by
  apply confined_ite
  · intro some
    apply confined_bind (confined_lift (avoids_bufferWrite plain.1 _ _ _ _ _))
    rintro ⟨result, buffer, count⟩
    exact confined_bind (confined_checkDifOk _) (fun _ => confined_pure _)
  · exact fun _ => confined_pure _

theorem confined_partPrepare (plain : PlainRegister offset) (transfer : Transfer) :
    (usbTestutilsPartPrepare transfer : Code (State κ γ) Failure _).Confined (Avoids offset)
      (fun state => holds state.client) := by
  apply confined_get_bind
  intro state kept
  split
  · apply confined_bind (confined_set (by exact kept))
    intro _
    apply confined_bind (confined_fillPart plain _ _)
    rintro ⟨bytesWritten, nextPart⟩
    exact confined_bind (confined_check _) (fun _ => confined_pure _)
  · exact confined_pure _

theorem confined_prepareAhead (plain : PlainRegister offset) (transfer : Transfer) :
    (prepareAhead transfer : Code (State κ γ) Failure _).Confined (Avoids offset)
      (fun state => holds state.client) :=
  confined_ite (fun _ => confined_partPrepare plain _) (fun _ => confined_pure _)

theorem confined_sendNextPart (plain : PlainRegister offset) (ep : BitVec 8)
    (transfer : Transfer) :
    (sendNextPart ep transfer : Code (State κ γ) Failure _).Confined (Avoids offset)
      (fun state => holds state.client) := by
  apply confined_bind (confined_lift (avoids_send plain.2.1 _ _ _ _))
  rintro ⟨result, nextPart⟩
  apply confined_bind (confined_checkDifOk _)
  intro _
  apply confined_bind (confined_prepareAhead plain _)
  rintro ⟨nextValid, transfer⟩
  exact confined_get_bind (fun state kept => confined_set (by exact kept))

theorem confined_transferNextPart (plain : PlainRegister offset) (ep : BitVec 8) :
    (usbTestutilsTransferNextPart ep : Code (State κ γ) Failure _).Confined (Avoids offset)
      (fun state => holds state.client) := by
  apply confined_get_bind
  intro state kept
  apply confined_bind (confined_inRange _ _)
  intro _
  dsimp only
  have sent (prepared : Bool) (transfer : Transfer) :
      (if prepared then do
        sendNextPart ep transfer
        pure true
      else pure false : Code (State κ γ) Failure Bool).Confined (Avoids offset)
        (fun state => holds state.client) :=
    confined_ite
      (fun _ => confined_bind (confined_sendNextPart plain _ _) (fun _ => confined_pure _))
      (fun _ => confined_pure _)
  apply confined_ite
  · exact fun _ => confined_bind (confined_pure _) (fun _ => sent _ _)
  · exact fun _ => confined_bind (confined_partPrepare plain _) (fun _ => sent _ _)

theorem confined_transferSend (plain : PlainRegister offset) (ep : BitVec 8)
    (data : Option (List (BitVec 8))) (length : BitVec 32) (flags : XfrFlags) :
    (usbTestutilsTransferSend ep data length flags : Code (State κ γ) Failure _).Confined
      (Avoids offset) (fun state => holds state.client) := by
  apply confined_bind (confined_check _)
  intro _
  apply confined_get_bind
  intro state kept
  apply confined_ite
  · exact fun _ => confined_pure _
  · intro _
    apply confined_bind (confined_set (by exact kept))
    intro _
    apply confined_bind (confined_transferNextPart plain _)
    intro underway
    apply confined_ite
    · exact fun _ => confined_pure _
    · intro _
      apply confined_bind
      · exact confined_get_bind (fun state kept => confined_set (by exact kept))
      · exact fun _ => confined_pure _

/-- Setting an endpoint up leaves what the client keeps. -/
theorem confined_endpointSetup (ep : BitVec 8) (inType outType : TransferType)
    (outMode : OutTransferMode) (txDone rx flush reset : Option κ) :
    (usbTestutilsEndpointSetup ep inType outType outMode txDone rx flush reset :
      Code (State κ γ) Failure _).Confined (fun _ => True) (fun state => holds state.client) := by
  have program (m : Mmio DifResult) {next : DifResult -> Code (State κ γ) Failure Unit}
      (after : forall result, (next result).Confined (fun _ => True)
        (fun state => holds state.client)) :
      (Code.lift m >>= next).Confined (fun _ => True) (fun state => holds state.client) :=
    confined_bind (confined_lift (within_true _)) after
  have tried (result : DifResult) {next : Unit -> Code (State κ γ) Failure Unit}
      (after : (next ()).Confined (fun _ => True) (fun state => holds state.client)) :
      (tryDif result >>= next).Confined (fun _ => True) (fun state => holds state.client) :=
    confined_bind (confined_tryDif _) (fun _ => after)
  have checked (result : DifResult) {next : Unit -> Code (State κ γ) Failure Unit}
      (after : (next ()).Confined (fun _ => True) (fun state => holds state.client)) :
      (checkDifOk result >>= next).Confined (fun _ => True) (fun state => holds state.client) :=
    confined_bind (confined_checkDifOk _) (fun _ => after)
  apply confined_bind
  · apply confined_get_bind
    intro state kept
    apply confined_bind (confined_inRange _ _)
    intro _
    apply confined_bind (confined_set (by exact kept))
    intro _
    refine program _ (fun result => tried _ ?_)
    refine program _ (fun result => checked _ ?_)
    exact program _ (fun result => confined_tryDif _)
  · intro _
    apply confined_get_bind
    intro state kept
    apply confined_bind (confined_inRange _ _)
    intro _
    apply confined_bind (confined_set (by exact kept))
    intro _
    refine program _ (fun result => tried _ ?_)
    refine program _ (fun result => checked _ ?_)
    refine program _ (fun result => tried _ ?_)
    refine program _ (fun result => tried _ ?_)
    exact program _ (fun result => confined_tryDif _)

end

section

variable {offset : Nat} {holds : CtCtx -> Prop}

/-! ## What a request leaves alone -/

theorem confined_modifyCtx {change : CtCtx -> CtCtx}
    (kept : forall ctctx, holds ctctx -> holds (change ctctx)) :
    (modifyCtx change).Confined (Avoids offset) (fun memory => holds memory.client) :=
  confined_get_bind (fun _ before => confined_set (kept _ before))

theorem confined_requestBuffer :
    requestBuffer.Confined (Avoids offset) (fun memory => holds memory.client) := by
  apply confined_get_bind
  intro state kept
  split
  · exact confined_bind (confined_set (by exact kept)) (fun _ => confined_pure _)
  · exact confined_raise _

theorem confined_sendBuffer (plain : PlainRegister offset) (buffer : Buffer) :
    (sendBuffer buffer).Confined (Avoids offset) (fun memory => holds memory.client) := by
  apply confined_get_bind
  intro state kept
  exact confined_bind (confined_lift (avoids_send plain.2.1 _ _ _ _))
    (fun _ => confined_checkDifOk _)

theorem confined_sendData (plain : PlainRegister offset) (buffer : Buffer)
    (data : List (BitVec 8)) :
    (sendData buffer data).Confined (Avoids offset) (fun memory => holds memory.client) := by
  apply confined_bind (confined_lift (avoids_bufferWrite plain.1 _ _ _ _ _))
  rintro ⟨result, buffer', count⟩
  apply confined_bind (confined_checkDifOk _)
  intro _
  exact confined_bind (confined_sendBuffer plain _) (fun _ => confined_pure _)

theorem confined_sendStatus (plain : PlainRegister offset) (buffer : Buffer) (ctrlstate : CtState) :
    (sendStatus buffer ctrlstate).Confined (Avoids offset) (fun memory => holds memory.client) :=
  confined_bind (confined_sendBuffer plain _) (fun _ => confined_pure _)

theorem confined_setupGetDescriptor (plain : PlainRegister offset) (buffer : Buffer)
    (wValue wLength : BitVec 16) :
    (setupGetDescriptor buffer wValue wLength).Confined (Avoids offset)
      (fun memory => holds memory.client) := by
  apply confined_ite
  · intro _
    apply confined_bind (confined_lift (avoids_bufferWrite plain.1 _ _ _ _ _))
    rintro ⟨result, buffer', bytesWritten⟩
    apply confined_bind (confined_checkDifOk _)
    intro _
    apply confined_bind (confined_check _)
    intro _
    exact confined_bind (confined_sendBuffer plain _) (fun _ => confined_pure _)
  · intro _
    apply confined_ite
    · intro _
      apply confined_get_bind
      intro state kept
      apply confined_ite
      · intro _
        apply confined_bind
        · exact confined_get_bind (fun state kept => confined_bind
            (confined_set (by exact kept)) (fun _ => confined_checkDifOk _))
        · intro _
          exact confined_bind (confined_transferSend plain _ _ _ _)
            (fun _ => confined_pure _)
      · exact fun _ => confined_sendData plain _ _
    · exact fun _ => confined_pure _

theorem confined_setupFeature (plain : PlainRegister offset) (buffer : Buffer)
    (endpoint : EndpointId) (apart : endpoint.stallReg ≠ offset) (wValue : BitVec 16)
    (newState : DifToggle) :
    (setupFeature buffer endpoint wValue newState).Confined (Avoids offset)
      (fun memory => holds memory.client) := by
  apply confined_ite
  · intro _
    apply confined_bind (confined_lift (avoids_functionalityEnable _ _ _ apart))
    intro result
    exact confined_bind (confined_checkDifOk _) (fun _ => confined_sendStatus plain _ _)
  · exact fun _ => confined_pure _

theorem confined_setupGetStatus (plain : PlainRegister offset) (buffer : Buffer)
    (bmRequestType : BitVec 8) (endpoint : EndpointId) (wLength : BitVec 16) :
    (setupGetStatus buffer bmRequestType endpoint wLength).Confined (Avoids offset)
      (fun memory => holds memory.client) := by
  apply confined_bind _ (fun _ => confined_sendData plain _ _)
  apply confined_ite
  · exact fun _ => confined_pure _
  · intro _
    apply confined_ite
    · intro _
      apply confined_bind (confined_lift (avoids_stallGet _ _ _))
      rintro ⟨result, halted⟩
      exact confined_bind (confined_checkDifOk _) (fun _ => confined_pure _)
    · exact fun _ => confined_pure _

theorem confined_setupVendor (plain : PlainRegister offset) (buffer : Buffer)
    (bmRequestType bRequest : BitVec 8) (wLength : BitVec 16) :
    (setupVendor buffer bmRequestType bRequest wLength).Confined (Avoids offset)
      (fun memory => holds memory.client) := by
  apply confined_get_bind
  intro state kept
  split
  · exact confined_ite (fun _ => confined_sendData plain _ _) (fun _ => confined_pure _)
  · exact confined_pure _

/-- A request changes no more of the context than the address and the
configuration that are to be set. -/
theorem confined_setupReq (plain : PlainRegister offset)
    (apart : forall endpoint : EndpointId, endpoint.stallReg ≠ offset)
    (address : forall ctctx newDev, holds ctctx -> holds { ctctx with newDev := newDev })
    (configuration : forall ctctx newConfig, holds ctctx ->
      holds { ctctx with newConfig := newConfig })
    (bmRequestType bRequest : BitVec 8) (wValue wIndex wLength : BitVec 16) :
    (setupReq bmRequestType bRequest wValue wIndex wLength).Confined (Avoids offset)
      (fun memory => holds memory.client) := by
  apply confined_bind confined_requestBuffer
  intro buffer
  unfold serveRequest
  dsimp only
  split
  · exact confined_setupGetDescriptor plain _ _ _
  · exact confined_bind (confined_modifyCtx (fun _ => address _ _))
      (fun _ => confined_sendStatus plain _ _)
  · exact confined_bind (confined_modifyCtx (fun _ => configuration _ _))
      (fun _ => confined_sendStatus plain _ _)
  · exact confined_get_bind (fun _ _ => confined_sendData plain _ _)
  · exact confined_setupFeature plain _ _ (apart _) _ _
  · exact confined_setupFeature plain _ _ (apart _) _ _
  · exact confined_setupGetStatus plain _ _ _ _
  · exact confined_sendStatus plain _ _
  · exact confined_sendData plain _ _
  · exact confined_sendData plain _ _
  · exact confined_setupVendor plain _ _ _ _
  · exact confined_setupVendor plain _ _ _ _

/-! ## Which request is answered -/

/-- The packet is a request to set an address. -/
structure AsksForAddress (packetInfo : RxPacketInfo) (packet : List (BitVec 8))
    (address : BitVec 8) : Prop where
  setup : packetInfo.isSetup = true
  size : packetInfo.length = 8
  request : SetupReq.ofByte (packet.getD 1 0) = some .kUsbSetupReqSetAddress
  address_eq : address = (word16 packet 2 &&& 0x7f).setWidth 8

theorem yields_sendData (buffer : Buffer) (data : List (BitVec 8)) :
    (sendData buffer data).Yields (fun ctrlstate => ctrlstate ≠ .kUsbTestutilsCtAddrStatIn) := by
  apply yields_bind
  rintro ⟨result, buffer', count⟩
  apply yields_bind
  intro _
  apply yields_bind
  exact fun _ => yields_pure nofun

theorem yields_sendStatus (buffer : Buffer) {ctrlstate : CtState}
    (other : ctrlstate ≠ .kUsbTestutilsCtAddrStatIn) :
    (sendStatus buffer ctrlstate).Yields
      (fun ctrlstate => ctrlstate ≠ .kUsbTestutilsCtAddrStatIn) :=
  yields_bind (fun _ => yields_pure other)

theorem yields_setupGetDescriptor (buffer : Buffer) (wValue wLength : BitVec 16) :
    (setupGetDescriptor buffer wValue wLength).Yields
      (fun ctrlstate => ctrlstate ≠ .kUsbTestutilsCtAddrStatIn) := by
  apply yields_ite
  · apply yields_bind
    rintro ⟨result, buffer', bytesWritten⟩
    apply yields_bind
    intro _
    apply yields_bind
    intro _
    apply yields_bind
    exact fun _ => yields_pure nofun
  · apply yields_ite
    · apply yields_bind
      intro state
      apply yields_ite
      · apply yields_bind
        intro _
        apply yields_bind
        intro accepted
        apply yields_pure
        split <;> nofun
      · exact yields_sendData _ _
    · exact yields_pure nofun

theorem yields_setupFeature (buffer : Buffer) (endpoint : EndpointId) (wValue : BitVec 16)
    (newState : DifToggle) :
    (setupFeature buffer endpoint wValue newState).Yields
      (fun ctrlstate => ctrlstate ≠ .kUsbTestutilsCtAddrStatIn) := by
  apply yields_ite
  · apply yields_bind
    intro result
    exact yields_bind (fun _ => yields_sendStatus _ nofun)
  · exact yields_pure nofun

theorem yields_setupVendor (buffer : Buffer) (bmRequestType bRequest : BitVec 8)
    (wLength : BitVec 16) :
    (setupVendor buffer bmRequestType bRequest wLength).Yields
      (fun ctrlstate => ctrlstate ≠ .kUsbTestutilsCtAddrStatIn) := by
  apply yields_bind
  intro state
  split
  · exact yields_ite (yields_sendData _ _) (yields_pure nofun)
  · exact yields_pure nofun

/-- Other requests are answered without an address to be set. -/
theorem yields_serveRequest (buffer : Buffer) (bmRequestType bRequest : BitVec 8)
    (wValue wIndex wLength : BitVec 16)
    (other : SetupReq.ofByte bRequest ≠ some .kUsbSetupReqSetAddress) :
    (serveRequest buffer bmRequestType bRequest wValue wIndex wLength).Yields
      (fun ctrlstate => ctrlstate ≠ .kUsbTestutilsCtAddrStatIn) := by
  unfold serveRequest
  dsimp only
  split
  · exact yields_setupGetDescriptor _ _ _
  · next isRequest => exact absurd isRequest other
  · exact yields_bind (fun _ => yields_sendStatus _ (by decide))
  · exact yields_bind (fun _ => yields_sendData _ _)
  · exact yields_setupFeature _ _ _ _
  · exact yields_setupFeature _ _ _ _
  · exact yields_bind (fun _ => yields_sendData _ _)
  · exact yields_sendStatus _ (by decide)
  · exact yields_sendData _ _
  · exact yields_sendData _ _
  · exact yields_setupVendor _ _ _ _
  · exact yields_setupVendor _ _ _ _

/-- Only the request for an address leads to the state that waits for it to be set. -/
theorem setupReqOf_address (bp : List (BitVec 8)) (memory : Memory) :
    (setupReqOf bp memory).Returns (fun out => out.1 = .ok .kUsbTestutilsCtAddrStatIn ->
      SetupReq.ofByte (bp.getD 1 0) = some .kUsbSetupReqSetAddress ∧
        out.2.client.newDev = (word16 bp 2 &&& 0x7f).setWidth 8) := by
  unfold setupReqOf setupReq
  rw [Code.bind_apply]
  apply Returns.bind (returns_true _)
  rintro ⟨reason | buffer, memory'⟩ -
  · exact nofun
  · by_cases isRequest : SetupReq.ofByte (bp.getD 1 0) = some .kUsbSetupReqSetAddress
    · have plain : PlainRegister usbctrlRegOffset := by decide
      have kept := @confined_sendStatus usbctrlRegOffset
        (fun ctctx => ctctx.newDev = (word16 bp 2 &&& 0x7f).setWidth 8) plain buffer
        .kUsbTestutilsCtAddrStatIn
      have served : serveRequest buffer (bp.getD 0 0) (bp.getD 1 0) (word16 bp 2) (word16 bp 4)
          (word16 bp 6) = setupSetAddress buffer (word16 bp 2) := by
        unfold serveRequest
        rw [isRequest]
      change Returns _ (serveRequest buffer _ _ _ _ _ memory')
      rw [served]
      exact ((kept _ (by rfl)).2).imp (fun out same _ => ⟨isRequest, same⟩)
    · exact (yields_serveRequest _ _ _ _ _ _ isRequest memory').imp
        (fun out never same => absurd rfl (never _ same))

/-! ## What the callbacks leave alone -/

theorem confined_returnBuffer (buffer : Buffer) :
    (returnBuffer buffer).Confined (Avoids offset) (fun memory => holds memory.client) :=
  confined_get_bind (fun _ kept => confined_bind (confined_set (by exact kept))
    (fun _ => confined_tryDif _))

theorem confined_unexpected (apart : forall endpoint : EndpointId, endpoint.stallReg ≠ offset)
    (idle : forall ctctx, holds ctctx -> holds { ctctx with ctrlstate := .kUsbTestutilsCtIdle })
    (buffer : Buffer) :
    (unexpected buffer).Confined (Avoids offset) (fun memory => holds memory.client) := by
  have stall (endpoint : EndpointId) : (Code.lift (difUsbdevEndpointStallEnable .object endpoint
      kDifToggleEnabled) : Code Memory Failure DifResult).Confined (Avoids offset)
      (fun memory => holds memory.client) :=
    confined_lift (avoids_functionalityEnable _ _ _ (apart endpoint))
  apply confined_bind (stall ⟨0, true⟩)
  intro result
  apply confined_bind (confined_tryDif _)
  intro _
  apply confined_bind (stall ⟨0, false⟩)
  intro result
  apply confined_bind (confined_tryDif _)
  intro _
  apply confined_bind
  · exact confined_ite (fun _ => confined_returnBuffer _) (fun _ => confined_pure _)
  · exact fun _ => confined_modifyCtx idle

theorem confined_ctrlStatus
    (idle : forall ctctx, holds ctctx -> holds { ctctx with ctrlstate := .kUsbTestutilsCtIdle })
    (buffer : Buffer) :
    (ctrlStatus buffer).Confined (Avoids offset) (fun memory => holds memory.client) :=
  confined_bind (confined_returnBuffer _) (fun _ => confined_modifyCtx idle)

/-- A packet changes the stage the control endpoint is in, and what has been
asked for. -/
theorem confined_ctrlRx (plain : PlainRegister offset) (notEnable : rxenableOutRegOffset ≠ offset)
    (apart : forall endpoint : EndpointId, endpoint.stallReg ≠ offset)
    (stage : forall ctctx ctrlstate, holds ctctx -> holds { ctctx with ctrlstate := ctrlstate })
    (address : forall ctctx newDev, holds ctctx -> holds { ctctx with newDev := newDev })
    (configuration : forall ctctx newConfig, holds ctctx ->
      holds { ctctx with newConfig := newConfig })
    (packetInfo : RxPacketInfo) (buffer : Buffer) :
    (ctrlRx packetInfo buffer).Confined (Avoids offset) (fun memory => holds memory.client) := by
  have idle (ctctx : CtCtx) (kept : holds ctctx) :
      holds { ctctx with ctrlstate := .kUsbTestutilsCtIdle } := stage _ _ kept
  have refused (buffer : Buffer) := confined_unexpected apart idle buffer
  apply confined_bind (confined_lift (avoids_functionalityEnable _ _ _ notEnable))
  intro result
  apply confined_bind (confined_tryDif _)
  intro _
  apply confined_get_bind
  intro state kept
  split
  · apply confined_ite
    · intro _
      apply confined_get_bind
      intro state kept
      apply confined_bind (confined_lift (avoids_bufferRead plain.1 _ _ _ _ _ _ _))
      rintro ⟨result, pool, buffer, bp⟩
      apply confined_bind (confined_set (by exact kept))
      intro _
      apply confined_bind (confined_tryDif _)
      intro _
      apply confined_bind (confined_setupReq plain apart address configuration _ _ _ _ _)
      intro ctrlstate
      apply confined_bind (confined_modifyCtx (fun _ => stage _ _))
      exact fun _ => confined_ite (fun _ => refused _) (fun _ => confined_pure _)
    · exact fun _ => refused _
  · exact confined_ite (fun _ => confined_ctrlStatus idle _) (fun _ => refused _)
  · exact refused _

end

end UsbControlEp
end SunburstChip
