import SunburstChip.Dif.UsbdevEndpoints
import SunburstChip.Testing.Base

namespace SunburstChip
namespace UsbTestutils

open Usbdev

/-!
# The USB test library

The part of `usb_testutils.c` that sets endpoints up, sends larger transfers
packet by packet, and reacts to packets that have been sent.  A client of the
library registers callbacks; here `κ` are the client's callbacks, each with the
context it is called with, and `γ` is what the client keeps in memory.
-/

/-- `usb_testutils_transfer_type_t` -/
inductive TransferType where
  | kUsbTransferTypeControl
  | kUsbTransferTypeIsochronous
  | kUsbTransferTypeBulk
  | kUsbTransferTypeInterrupt
  deriving DecidableEq

/-- `usb_testutils_xfr_result_t` -/
inductive XfrResult where
  | kUsbTestutilsXfrResultOk
  | kUsbTestutilsXfrResultFailed
  | kUsbTestutilsXfrResultLinkReset
  | kUsbTestutilsXfrResultCanceled
  deriving DecidableEq

/-- `usb_testutils_out_transfer_mode_t` -/
inductive OutTransferMode where
  | kUsbdevOutDisabled
  | kUsbdevOutStream
  | kUsbdevOutMessage
  deriving DecidableEq

/-- `usb_testutils_xfr_flags_t` -/
abbrev XfrFlags := BitVec 32

abbrev kUsbTestutilsXfrMaxPacketMask : XfrFlags := 0x7f
abbrev kUsbTestutilsXfrMaxPacketSupplied : XfrFlags := 0x100
abbrev kUsbTestutilsXfrDoubleBuffered : XfrFlags := 0x200
abbrev kUsbTestutilsXfrEmployZLP : XfrFlags := 0x400

/-- `usb_testutils_transfer_t`; a `buffer` that is not `NULL` is the data it points to. -/
structure Transfer where
  buffer : Option (List (BitVec 8))
  length : BitVec 32
  offset : BitVec 32
  flags : XfrFlags
  last : Bool
  nextValid : Bool
  nextPart : Buffer
  deriving DecidableEq

/-- An entry of `in` of `usb_testutils_ctx_t`. -/
structure InEndpoint (κ : Type) where
  epType : TransferType
  txDoneCallback : Option κ
  flush : Option κ
  reset : Option κ
  transfer : Transfer

/-- An entry of `out` of `usb_testutils_ctx_t`. -/
structure OutEndpoint (κ : Type) where
  epType : TransferType
  rxCallback : Option κ
  reset : Option κ

/-- What is in memory: the buffer pool, the endpoints of `usb_testutils_ctx_t`,
and what the client keeps. -/
structure State (κ γ : Type) where
  pool : BufferPool
  inEndpoints : Nat -> InEndpoint κ
  outEndpoints : Nat -> OutEndpoint κ
  client : γ

variable {κ γ : Type}

/-- Replace the entry of an IN endpoint. -/
def State.setIn (state : State κ γ) (ep : Nat) (entry : InEndpoint κ) : State κ γ :=
  { state with inEndpoints := Function.update state.inEndpoints ep entry }

/-- Replace the transfer of an IN endpoint. -/
def State.setTransfer (state : State κ γ) (ep : Nat) (transfer : Transfer) : State κ γ :=
  state.setIn ep { state.inEndpoints ep with transfer := transfer }

/-! ## Setting endpoints up -/

/-- `usb_testutils_in_endpoint_setup` -/
def usbTestutilsInEndpointSetup (ep : BitVec 8) (epType : TransferType)
    (txDone flush reset : Option κ) : Code (State κ γ) Failure Unit := do
  let state <- Code.get
  inRange ep.toNat numEndpoints
  Code.set (state.setIn ep.toNat { state.inEndpoints ep.toNat with
    epType := epType, txDoneCallback := txDone, flush := flush, reset := reset })
  let endpoint : EndpointId := ⟨ep.setWidth 4, true⟩
  let result <- Code.lift (difUsbdevEndpointStallEnable .object endpoint kDifToggleDisabled)
  tryDif result
  let iso := if epType = .kUsbTransferTypeIsochronous then kDifToggleEnabled else kDifToggleDisabled
  let result <- Code.lift (difUsbdevEndpointIsoEnable .object endpoint iso)
  checkDifOk result
  let result <- Code.lift (difUsbdevEndpointEnable .object endpoint kDifToggleEnabled)
  tryDif result

/-- `usb_testutils_out_endpoint_setup` -/
def usbTestutilsOutEndpointSetup (ep : BitVec 8) (epType : TransferType)
    (outMode : OutTransferMode) (rx reset : Option κ) : Code (State κ γ) Failure Unit := do
  let state <- Code.get
  inRange ep.toNat numEndpoints
  Code.set { state with
    outEndpoints := Function.update state.outEndpoints ep.toNat ⟨epType, rx, reset⟩ }
  let endpoint : EndpointId := ⟨ep.setWidth 4, false⟩
  let result <- Code.lift (difUsbdevEndpointStallEnable .object endpoint kDifToggleDisabled)
  tryDif result
  let iso := if epType = .kUsbTransferTypeIsochronous then kDifToggleEnabled else kDifToggleDisabled
  let result <- Code.lift (difUsbdevEndpointIsoEnable .object endpoint iso)
  checkDifOk result
  let enabled := if outMode = .kUsbdevOutDisabled then kDifToggleDisabled else kDifToggleEnabled
  let nak := if outMode = .kUsbdevOutMessage then kDifToggleEnabled else kDifToggleDisabled
  let result <- Code.lift (difUsbdevEndpointOutEnable .object ep enabled)
  tryDif result
  let result <- Code.lift (difUsbdevEndpointSetNakOutEnable .object ep nak)
  tryDif result
  let result <- Code.lift (difUsbdevEndpointEnable .object endpoint enabled)
  tryDif result

/-- `usb_testutils_endpoint_setup` -/
def usbTestutilsEndpointSetup (ep : BitVec 8) (inType outType : TransferType)
    (outMode : OutTransferMode) (txDone rx flush reset : Option κ) :
    Code (State κ γ) Failure Unit := do
  usbTestutilsInEndpointSetup ep inType txDone flush reset
  usbTestutilsOutEndpointSetup ep outType outMode rx none

/-! ## Larger transfers -/

/-- The packet size that `usb_testutils_part_prepare` goes by. -/
def maxPacket (flags : XfrFlags) : BitVec 32 :=
  if flags &&& kUsbTestutilsXfrMaxPacketSupplied ≠ 0 then flags &&& kUsbTestutilsXfrMaxPacketMask
  else .ofNat 32 maxPacketSize

/-- How much `usb_testutils_part_prepare` sends this time. -/
def partLen (transfer : Transfer) : BitVec 32 :=
  if maxPacket transfer.flags < transfer.length - transfer.offset then maxPacket transfer.flags
  else transfer.length - transfer.offset

/-- The part of `usb_testutils_part_prepare` that fills the packet buffer: the
number of bytes written, and the buffer. -/
def fillPart (transfer : Transfer) (nextPart : Buffer) :
    Code (State κ γ) Failure (BitVec 32 × Buffer) :=
  if partLen transfer ≠ 0 then do
    let (result, nextPart, bytesWritten) <- Code.lift (difUsbdevBufferWrite .object .object
      (if transfer.buffer.isSome then .object else .null) nextPart
      (((transfer.buffer.getD []).drop transfer.offset.toNat).take (partLen transfer).toNat))
    checkDifOk result
    pure (BitVec.ofNat 32 bytesWritten, nextPart)
  else pure (0, nextPart)

/-- `usb_testutils_part_prepare`, for the next part of a transfer: whether
there is one, and the transfer afterwards. -/
def usbTestutilsPartPrepare (transfer : Transfer) :
    Code (State κ γ) Failure (Bool × Transfer) := do
  let state <- Code.get
  match difUsbdevBufferRequest .object .object .object state.pool with
  | (.kDifOk, pool, some nextPart) => do
      Code.set { state with pool := pool }
      let (bytesWritten, nextPart) <- fillPart transfer nextPart
      let nextOffset := transfer.offset + bytesWritten
      check (decide (bytesWritten <= maxPacket transfer.flags))
      let more := bytesWritten = maxPacket transfer.flags ∧
        (nextOffset < transfer.length ∨ transfer.flags &&& kUsbTestutilsXfrEmployZLP ≠ 0)
      pure (true, { transfer with offset := nextOffset, last := !decide more, nextPart := nextPart })
  | _ => pure (false, transfer)

/-- The end of `usb_testutils_transfer_next_part`: with double buffering,
another packet is prepared immediately. -/
def prepareAhead (transfer : Transfer) : Code (State κ γ) Failure (Bool × Transfer) :=
  if transfer.flags &&& kUsbTestutilsXfrDoubleBuffered ≠ 0 ∧ !transfer.last then
    usbTestutilsPartPrepare transfer
  else pure (false, transfer)

/-- The second half of `usb_testutils_transfer_next_part`, for a packet that
has been prepared. -/
def sendNextPart (ep : BitVec 8) (transfer : Transfer) : Code (State κ γ) Failure Unit := do
  let (result, nextPart) <- Code.lift (difUsbdevSend .object ep .object transfer.nextPart)
  checkDifOk result
  let (nextValid, transfer) <- prepareAhead { transfer with nextPart := nextPart, nextValid := false }
  let state <- Code.get
  Code.set (state.setTransfer ep.toNat { transfer with nextValid := nextValid })

/-- `usb_testutils_transfer_next_part` -/
def usbTestutilsTransferNextPart (ep : BitVec 8) : Code (State κ γ) Failure Bool := do
  let state <- Code.get
  inRange ep.toNat numEndpoints
  let transfer := (state.inEndpoints ep.toNat).transfer
  let (prepared, transfer) <-
    if transfer.nextValid then pure (true, transfer) else usbTestutilsPartPrepare transfer
  if prepared then do
    sendNextPart ep transfer
    pure true
  else pure false

/-- The buffer of a transfer is forgotten. -/
def forgetBuffer (ep : BitVec 8) : Code (State κ γ) Failure Unit := do
  let state <- Code.get
  Code.set (state.setTransfer ep.toNat
    { (state.inEndpoints ep.toNat).transfer with buffer := none })

/-- `usb_testutils_transfer_send`, for data that is `NULL` or what it points to:
whether the data has been accepted. -/
def usbTestutilsTransferSend (ep : BitVec 8) (data : Option (List (BitVec 8)))
    (length : BitVec 32) (flags : XfrFlags) : Code (State κ γ) Failure Bool := do
  check (decide (ep.toNat < numEndpoints))
  let state <- Code.get
  let transfer := (state.inEndpoints ep.toNat).transfer
  if transfer.buffer.isSome then pure false
  else do
    Code.set (state.setTransfer ep.toNat { transfer with
      buffer := data, offset := 0, length := length, flags := flags, nextValid := false })
    let underway <- usbTestutilsTransferNextPart ep
    if underway then pure true
    else do
      forgetBuffer ep
      pure false

/-! ## Packets that have been sent -/

/-- The attempt of `usb_testutils_poll` to continue with a larger transfer:
whether it is done, and how it went. -/
def sendFurther (ep : BitVec 8) : Code (State κ γ) Failure (Bool × XfrResult) := do
  let state <- Code.get
  let transfer := (state.inEndpoints ep.toNat).transfer
  if transfer.nextValid ∨ !transfer.last then do
    let underway <- usbTestutilsTransferNextPart ep
    pure (if underway then (false, .kUsbTestutilsXfrResultOk)
      else (true, .kUsbTestutilsXfrResultFailed))
  else pure (true, .kUsbTestutilsXfrResultOk)

/-- What `usb_testutils_poll` does about a larger transfer when a packet of it
has been sent: whether there is nothing more to send, and how it went. -/
def continueTransfer (ep : BitVec 8) : Code (State κ γ) Failure (Bool × XfrResult) := do
  let state <- Code.get
  if (state.inEndpoints ep.toNat).transfer.buffer.isNone then pure (true, .kUsbTestutilsXfrResultOk)
  else do
    let result <- sendFurther ep
    if result.1 then do
      forgetBuffer ep
      pure result
    else pure result

/-- A packet that is no part of a larger transfer. -/
theorem continueTransfer_none {ep : BitVec 8} {state : State κ γ}
    (none : (state.inEndpoints ep.toNat).transfer.buffer = none) :
    continueTransfer ep state = .ret (.ok (true, .kUsbTestutilsXfrResultOk), state) := by
  unfold continueTransfer
  rw [Code.get_bind_apply, if_pos (by rw [none]; rfl)]
  rfl

/-- The body of the loop of `usb_testutils_poll` over the endpoints that have
sent a packet, where `call` are the client's callbacks. -/
def pollSent (call : κ -> XfrResult -> Code (State κ γ) Failure Unit) (ep : BitVec 8) :
    Code (State κ γ) Failure Unit := do
  let state <- Code.get
  let (result, pool) <- Code.lift (difUsbdevClearTxStatus .object .object state.pool ep)
  Code.set { state with pool := pool }
  tryDif result
  let (done, res) <- continueTransfer ep
  let state <- Code.get
  match done, (state.inEndpoints ep.toNat).txDoneCallback with
  | true, some callback => call callback res
  | _, _ => pure ()

/-! ## Packets that have been received -/

/-- What `usb_testutils_poll` does with a packet, where `call` are the client's callbacks. -/
def dispatchReceived (call : κ -> RxPacketInfo -> Buffer -> Code (State κ γ) Failure Unit)
    (packetInfo : RxPacketInfo) (buffer : Buffer) : Code (State κ γ) Failure Unit := do
  let state <- Code.get
  inRange packetInfo.endpoint.toNat numEndpoints
  match (state.outEndpoints packetInfo.endpoint.toNat).rxCallback with
  | some callback => call callback packetInfo buffer
  | none => do
      let (result, pool, _) := difUsbdevBufferReturn .object .object .object state.pool buffer
      Code.set { state with pool := pool }
      tryDif result

/-- The body of the loop of `usb_testutils_poll` over the packets that have been
received: whether there was one. -/
def pollReceived (call : κ -> RxPacketInfo -> Buffer -> Code (State κ γ) Failure Unit) :
    Code (State κ γ) Failure Bool := do
  let (result, isEmpty) <- Code.lift (difUsbdevStatusGetRxFifoEmpty .object .object)
  tryDif result
  if isEmpty then pure false
  else do
    let (result, received) <- Code.lift (difUsbdevRecv .object .object .object)
    tryDif result
    match received with
    | some (packetInfo, buffer) => do
        dispatchReceived call packetInfo buffer
        pure true
    | none => pure true

/-! ## Flushing -/

/-- The body of the loop of `usb_testutils_poll` over the endpoints to be flushed. -/
def pollFlush (call : κ -> Code (State κ γ) Failure Unit) (ep : BitVec 8) :
    Code (State κ γ) Failure Unit := do
  let state <- Code.get
  match (state.inEndpoints ep.toNat).flush with
  | some callback => call callback
  | none => pure ()

end UsbTestutils
end SunburstChip
