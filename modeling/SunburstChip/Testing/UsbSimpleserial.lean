import SunburstChip.Dif.UsbdevChunks
import SunburstChip.Testing.UsbTransfers

namespace SunburstChip
namespace UsbSimpleserial

open Mmio Usbdev UsbTestutils

/-!
# A serial port over the USB device

The functions of `usb_testutils_simpleserial.c`.  Bytes to be sent are gathered
four at a time in `chold`, and from there in a packet buffer, which is sent when
enough bytes have been gathered or when the library asks for it to be flushed.
Bytes that are received are passed on one by one.
-/

abbrev maxGather : Int := 16

/-- `usb_testutils_ss_ctx_t`; `received` are the bytes that `got_byte` has been called with. -/
structure SsCtx where
  ep : BitVec 8
  sending : Bool
  curBuf : Buffer
  curCpos : Int
  chold : Vector (BitVec 8) 4
  received : List (BitVec 8)

/-- The functions that are registered as callbacks. -/
inductive Callback where
  | ssTxDone
  | ssRx
  | ssFlush
  deriving DecidableEq

abbrev Memory := State Callback SsCtx

/-- Change what the client keeps. -/
def modifyCtx (change : SsCtx -> SsCtx) : Code Memory Failure Unit := do
  let state <- Code.get
  Code.set { state with client := change state.client }

/-! ## Receiving -/

/-- The call of `got_byte`. -/
def gotByte (data : BitVec 8) : Code Memory Failure Unit :=
  modifyCtx (fun ssctx => { ssctx with received := ssctx.received ++ [data] })

/-- The loop of `ss_rx`. -/
def ssRxLoop : Nat -> Buffer -> Code Memory Failure Unit
  | 0, _ => pure ()
  | length + 1, buffer => do
      let state <- Code.get
      let (result, pool, buffer, data) <- Code.lift
        (difUsbdevBufferRead .object .object .object .object state.pool buffer 1)
      Code.set { state with pool := pool }
      tryDif result
      gotByte (data.headD 0)
      ssRxLoop length buffer

/-- `ss_rx` -/
def ssRx (packetInfo : RxPacketInfo) (buffer : Buffer) : Code Memory Failure Unit :=
  ssRxLoop packetInfo.length.toNat buffer

/-! ## Sending -/

/-- `ss_tx_done` -/
def ssTxDone (_result : XfrResult) : Code Memory Failure Unit :=
  modifyCtx (fun ssctx => { ssctx with sending := false })

/-- The call of `dif_usbdev_buffer_write` for the first bytes of `chold`. -/
def writeHold (srcLen : Nat) : Code Memory Failure Unit := do
  let state <- Code.get
  let (result, curBuf, _) <- Code.lift (difUsbdevBufferWrite .object .object .object
    state.client.curBuf (state.client.chold.toList.take srcLen))
  modifyCtx (fun ssctx => { ssctx with curBuf := curBuf })
  tryDif result

/-- The packet buffer is given to the hardware. -/
def sendCurBuf : Code Memory Failure Unit := do
  let state <- Code.get
  let (result, curBuf) <- Code.lift
    (difUsbdevSend .object state.client.ep .object state.client.curBuf)
  modifyCtx (fun ssctx => { ssctx with curBuf := curBuf })
  tryDif result
  modifyCtx (fun ssctx => { ssctx with sending := true, curCpos := -1 })

/-- The part of `ss_flush` for the bytes in `chold`. -/
def flushHold : Code Memory Failure Unit := do
  let state <- Code.get
  if state.client.curCpos % 4 ≠ 0 then writeHold (state.client.curCpos % 4).toNat else pure ()

/-- `ss_flush` -/
def ssFlush : Code Memory Failure Unit := do
  let state <- Code.get
  if state.client.curCpos <= 0 ∨ state.client.sending then pure ()
  else do
    flushHold
    sendCurBuf

/-- The part of `usb_testutils_simpleserial_send_byte` for a full `chold`. -/
def gatherWord : Code Memory Failure Unit := do
  writeHold 4
  let state <- Code.get
  if maxGather <= state.client.curCpos ∧ !state.client.sending then sendCurBuf else pure ()

/-- The rest of `usb_testutils_simpleserial_send_byte` once there is a packet buffer. -/
def gather (c : BitVec 8) : Code Memory Failure Bool := do
  modifyCtx (fun ssctx => { ssctx with
    chold := ssctx.chold.setIfInBounds (ssctx.curCpos % 4).toNat c
    curCpos := ssctx.curCpos + 1 })
  let state <- Code.get
  if state.client.curCpos % 4 = 0 then do
    gatherWord
    pure true
  else pure true

/-- `usb_testutils_simpleserial_send_byte` -/
def usbTestutilsSimpleserialSendByte (c : BitVec 8) : Code Memory Failure Bool := do
  let state <- Code.get
  if state.client.curCpos = -1 then do
    let (result, pool, curBuf) := difUsbdevBufferRequest .object .object .object state.pool
    Code.set { state with
      pool := pool
      client := { state.client with curBuf := curBuf.getD state.client.curBuf } }
    tryDif result
    modifyCtx (fun ssctx => { ssctx with curCpos := 0 })
    gather c
  else if maxGather <= state.client.curCpos ∧ state.client.sending then pure false
  else gather c

/-- `usb_testutils_simpleserial_init` -/
def usbTestutilsSimpleserialInit (ep : BitVec 8) : Code Memory Failure Unit := do
  usbTestutilsEndpointSetup ep .kUsbTransferTypeBulk .kUsbTransferTypeBulk .kUsbdevOutStream
    (some .ssTxDone) (some .ssRx) (some .ssFlush) none
  modifyCtx (fun ssctx => { ssctx with ep := ep, sending := false, curCpos := -1 })

/-! ## The callbacks as the library calls them -/

/-- The call of a callback for a packet that has been sent. -/
def callTxDone : Callback -> XfrResult -> Code Memory Failure Unit
  | .ssTxDone, result => ssTxDone result
  | _, _ => pure ()

/-- The call of a callback for a packet that has been received. -/
def callRx : Callback -> RxPacketInfo -> Buffer -> Code Memory Failure Unit
  | .ssRx, packetInfo, buffer => ssRx packetInfo buffer
  | _, _, _ => pure ()

/-- The call of a callback for an endpoint to be flushed. -/
def callFlush : Callback -> Code Memory Failure Unit
  | .ssFlush => ssFlush
  | _ => pure ()

/-! ## Gathering and sending -/

/-- The bytes gathered so far: those in the packet buffer, then those in `chold`. -/
def heldBytes (usbdev : Controller) (ssctx : SsCtx) : List (BitVec 8) :=
  if ssctx.curCpos = -1 then []
  else usbdev.packetBytes ssctx.curBuf.id.toNat (4 * (ssctx.curCpos.toNat / 4)) ++
    ssctx.chold.toList.take (ssctx.curCpos.toNat % 4)

section

variable {n : Nat} {away : Multiset Nat} {slots : Nat -> Slot} {known : Nat -> Packet}
  {objects : Nat -> Buffer} {memory : Memory} {front packet : Packet}

theorem modifyCtx_bind {α : Type} (change : SsCtx -> SsCtx) (next : Unit -> Code Memory Failure α) :
    (modifyCtx change >>= next) memory =
      next () { memory with client := change memory.client } := rfl

theorem writeHold_spec {srcLen : Nat} (filled : Filled memory.client.curBuf front)
    (room : front.length + srcLen <= maxPacketSize) (within : srcLen <= 4) :
    Triple device Hardware
      (Containing n away slots known memory.pool objects memory.client.curBuf.id.toNat front)
      (writeHold srcLen memory)
      (fun out usbdev => out = (.ok (), { memory with client := { memory.client with
          curBuf := memory.client.curBuf.written (memory.client.chold.toList.take srcLen) } }) ∧
        Containing n away slots known memory.pool objects memory.client.curBuf.id.toNat
          (front ++ memory.client.chold.toList.take srcLen) usbdev) := by
  have length : (memory.client.chold.toList.take srcLen).length = srcLen := by
    rw [List.length_take, Vector.length_toList]
    omega
  unfold writeHold
  rw [Code.get_bind_apply]
  refine Code.triple_lift_ok _ (bufferWrite_filled filled (by rw [length]; exact room)) ?_
  exact Triple.ret stable_tracked (fun _ tracked => ⟨rfl, tracked⟩)

theorem sendCurBuf_spec (memory : Memory) (below : memory.client.ep.toNat < 12)
    (filled : Filled memory.client.curBuf packet) :
    Triple device Hardware
      (fun usbdev => Tracked n (away + {memory.client.curBuf.id.toNat})
        (ownSlot memory.client.ep.toNat .idle) known ⟨usbdev, memory.pool, objects⟩)
      (sendCurBuf memory)
      (fun out usbdev => out = (.ok (), { memory with client := { memory.client with
          curBuf := { memory.client.curBuf with type := .kDifUsbdevBufferTypeStale }
          sending := true
          curCpos := -1 } }) ∧
        Tracked n away (ownSlot memory.client.ep.toNat
          (.holds memory.client.curBuf.id.toNat packet.length)) known
          ⟨usbdev, memory.pool, objects⟩) := by
  have offset : memory.client.curBuf.offset.toNat < 128 := by
    rw [filled.offset]
    exact Nat.lt_of_le_of_lt filled.short (by decide)
  have idle : ownSlot memory.client.ep.toNat .idle memory.client.ep.toNat = .idle :=
    Function.update_self _ _ _
  unfold sendCurBuf
  rw [Code.get_bind_apply]
  refine Code.triple_lift_ok _ (send_tracked below filled.type offset idle) ?_
  rw [filled.offset, ownSlot_update]
  exact Triple.ret stable_tracked (fun _ tracked => ⟨rfl, tracked⟩)

end

end UsbSimpleserial
end SunburstChip
