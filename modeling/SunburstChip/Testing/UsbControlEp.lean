import SunburstChip.Dif.UsbdevChunks
import SunburstChip.Testing.UsbTestutils

namespace SunburstChip
namespace UsbControlEp

open Mmio Usbdev UsbTestutils

/-!
# The control endpoint

The functions of `usb_testutils_controlep.c`.  Requests of the host arrive as
SETUP packets on the control endpoint.  Each is answered in further stages,
which `ctrlstate` keeps account of, and some of them have an effect on the
device only when the last stage has been completed.
-/

/-! ## Requests -/

/-- The device descriptor. -/
def kDevDscr : List (BitVec 8) :=
  [18, 1, 0x00, 0x02, 0x00, 0x00, 0x00, 64, 0xd1, 0x18, 0x3a, 0x50, 0, 0x1, 0, 0, 0, 1]

/-- `usb_setup_req_t` -/
inductive SetupReq where
  | kUsbSetupReqGetStatus
  | kUsbSetupReqClearFeature
  | kUsbSetupReqSetFeature
  | kUsbSetupReqSetAddress
  | kUsbSetupReqGetDescriptor
  | kUsbSetupReqSetDescriptor
  | kUsbSetupReqGetConfiguration
  | kUsbSetupReqSetConfiguration
  | kUsbSetupReqGetInterface
  | kUsbSetupReqSetInterface
  | kUsbSetupReqSynchFrame
  deriving DecidableEq

/-- The request with a number. -/
def SetupReq.ofByte (bRequest : BitVec 8) : Option SetupReq :=
  match bRequest.toNat with
  | 0 => some .kUsbSetupReqGetStatus
  | 1 => some .kUsbSetupReqClearFeature
  | 3 => some .kUsbSetupReqSetFeature
  | 5 => some .kUsbSetupReqSetAddress
  | 6 => some .kUsbSetupReqGetDescriptor
  | 7 => some .kUsbSetupReqSetDescriptor
  | 8 => some .kUsbSetupReqGetConfiguration
  | 9 => some .kUsbSetupReqSetConfiguration
  | 10 => some .kUsbSetupReqGetInterface
  | 11 => some .kUsbSetupReqSetInterface
  | 12 => some .kUsbSetupReqSynchFrame
  | _ => none

abbrev kVendorSetupReqTestConfig : BitVec 8 := 0x7c

abbrev kUsbReqTypeRecipientMask : BitVec 8 := 0x1f
abbrev kUsbReqTypeDevice : BitVec 8 := 0
abbrev kUsbReqTypeEndpoint : BitVec 8 := 2
abbrev kUsbReqTypeTypeMask : BitVec 8 := 0x60
abbrev kUsbReqTypeVendor : BitVec 8 := 0x40
abbrev kUsbReqTypeDirMask : BitVec 8 := 0x80

abbrev kUsbFeatureEndpointHalt : BitVec 16 := 0

abbrev kUsbStatusSelfPowered : BitVec 8 := 1
abbrev kUsbStatusHalted : BitVec 8 := 1

/-! ## The context -/

/-- `usb_testutils_ctstate_t` -/
inductive CtState where
  | kUsbTestutilsCtIdle
  | kUsbTestutilsCtWaitIn
  | kUsbTestutilsCtStatOut
  | kUsbTestutilsCtAddrStatIn
  | kUsbTestutilsCtCfgStatIn
  | kUsbTestutilsCtStatIn
  | kUsbTestutilsCtError
  deriving DecidableEq

/-- `usb_testutils_device_state_t` -/
inductive DeviceState where
  | kUsbTestutilsDeviceAttached
  | kUsbTestutilsDevicePowered
  | kUsbTestutilsDeviceDefault
  | kUsbTestutilsDeviceAddressed
  | kUsbTestutilsDeviceConfigured
  | kUsbTestutilsDeviceSuspended
  deriving DecidableEq

/-- `usb_testutils_controlep_ctx_t`; the descriptors are the data they point to,
and a `testDscr` that is absent is `NULL`. -/
structure CtCtx where
  ep : BitVec 8
  ctrlstate : CtState
  deviceState : DeviceState
  newDev : BitVec 8
  newConfig : BitVec 8
  usbConfig : BitVec 8
  cfgDscr : List (BitVec 8)
  cfgDscrLen : BitVec 32
  testDscr : Option (List (BitVec 8))
  testDscrLen : BitVec 32

/-- The functions that are registered as callbacks. -/
inductive Callback where
  | ctrlTxDone
  | ctrlRx
  | ctrlReset
  deriving DecidableEq

abbrev Memory := State Callback CtCtx

/-- Change the context. -/
def modifyCtx (change : CtCtx -> CtCtx) : Code Memory Failure Unit := do
  let state <- Code.get
  Code.set { state with client := change state.client }

theorem modifyCtx_bind {α : Type} (change : CtCtx -> CtCtx) (next : Unit -> Code Memory Failure α)
    (memory : Memory) : (modifyCtx change >>= next) memory =
      next () { memory with client := change memory.client } := rfl

/-! ## Answers -/

/-- The call of `dif_usbdev_buffer_request` in `setup_req`. -/
def requestBuffer : Code Memory Failure Buffer := do
  let state <- Code.get
  match difUsbdevBufferRequest .object .object .object state.pool with
  | (.kDifOk, pool, some buffer) => do
      Code.set { state with pool := pool }
      pure buffer
  | _ => .raise .check

/-- A packet is given to the hardware. -/
def sendBuffer (buffer : Buffer) : Code Memory Failure Unit := do
  let state <- Code.get
  let (result, _) <- Code.lift (difUsbdevSend .object state.client.ep .object buffer)
  checkDifOk result

/-- An answer with data of one packet. -/
def sendData (buffer : Buffer) (data : List (BitVec 8)) : Code Memory Failure CtState := do
  let (result, buffer, _) <- Code.lift (difUsbdevBufferWrite .object .object .object buffer data)
  checkDifOk result
  sendBuffer buffer
  pure .kUsbTestutilsCtWaitIn

/-- How much data is sent of what there is. -/
def dataLength (len : BitVec 32) (wLength : BitVec 16) : BitVec 32 :=
  if wLength.setWidth 32 < len then wLength.setWidth 32 else len

/-- The answer with the device descriptor. -/
def sendDevDscr (buffer : Buffer) (wLength : BitVec 16) : Code Memory Failure CtState := do
  let len := dataLength (.ofNat 32 kDevDscr.length) wLength
  let (result, buffer, bytesWritten) <- Code.lift
    (difUsbdevBufferWrite .object .object .object buffer (kDevDscr.take len.toNat))
  checkDifOk result
  check (decide (bytesWritten = len.toNat))
  sendBuffer buffer
  pure .kUsbTestutilsCtWaitIn

/-- The buffer that was requested is not needed. -/
def giveBack (buffer : Buffer) : Code Memory Failure Unit := do
  let state <- Code.get
  let (result, pool, _) := difUsbdevBufferReturn .object .object .object state.pool buffer
  Code.set { state with pool := pool }
  checkDifOk result

/-- The flags for the configuration descriptor. -/
def cfgFlags (cfgDscrLen : BitVec 32) (wLength : BitVec 16) : XfrFlags :=
  if cfgDscrLen < wLength.setWidth 32 then
    kUsbTestutilsXfrDoubleBuffered ||| kUsbTestutilsXfrEmployZLP
  else kUsbTestutilsXfrDoubleBuffered

/-- The answer with the configuration descriptor. -/
def sendCfgDscr (buffer : Buffer) (wLength : BitVec 16) : Code Memory Failure CtState := do
  let state <- Code.get
  let len := dataLength state.client.cfgDscrLen wLength
  if maxPacketSize <= len.toNat then do
    giveBack buffer
    let accepted <- usbTestutilsTransferSend 0 (some state.client.cfgDscr) len
      (cfgFlags state.client.cfgDscrLen wLength)
    pure (if accepted then .kUsbTestutilsCtWaitIn else .kUsbTestutilsCtError)
  else sendData buffer (state.client.cfgDscr.take len.toNat)

/-- An answer without data. -/
def sendStatus (buffer : Buffer) (ctrlstate : CtState) : Code Memory Failure CtState := do
  sendBuffer buffer
  pure ctrlstate

/-- The cases of `kUsbSetupReqSetFeature` and `kUsbSetupReqClearFeature`. -/
def setupFeature (buffer : Buffer) (endpoint : EndpointId) (wValue : BitVec 16)
    (newState : DifToggle) : Code Memory Failure CtState := do
  if wValue = kUsbFeatureEndpointHalt then do
    let result <- Code.lift (difUsbdevEndpointStallEnable .object endpoint newState)
    checkDifOk result
    sendStatus buffer .kUsbTestutilsCtStatIn
  else pure .kUsbTestutilsCtError

/-- The status that is asked for. -/
def requestedStatus (bmRequestType : BitVec 8) (endpoint : EndpointId) :
    Code Memory Failure (BitVec 8) := do
  if bmRequestType &&& kUsbReqTypeRecipientMask = kUsbReqTypeDevice then
    pure kUsbStatusSelfPowered
  else if bmRequestType &&& kUsbReqTypeRecipientMask = kUsbReqTypeEndpoint then do
    let (result, halted) <- Code.lift (difUsbdevEndpointStallGet .object endpoint .object)
    checkDifOk result
    pure (if halted then kUsbStatusHalted else 0)
  else pure 0

/-- The case of `kUsbSetupReqGetStatus`. -/
def setupGetStatus (buffer : Buffer) (bmRequestType : BitVec 8) (endpoint : EndpointId)
    (wLength : BitVec 16) : Code Memory Failure CtState := do
  let stat <- requestedStatus bmRequestType endpoint
  sendData buffer ([stat, 0].take (dataLength 2 wLength).toNat)

/-- The case of `kUsbSetupReqGetConfiguration`. -/
def setupGetConfiguration (buffer : Buffer) (wLength : BitVec 16) :
    Code Memory Failure CtState := do
  let state <- Code.get
  sendData buffer ([state.client.usbConfig].take (dataLength 1 wLength).toNat)

/-- The vendor's requests. -/
def setupVendor (buffer : Buffer) (bmRequestType bRequest : BitVec 8) (wLength : BitVec 16) :
    Code Memory Failure CtState := do
  let state <- Code.get
  match state.client.testDscr with
  | some testDscr =>
      if bmRequestType &&& kUsbReqTypeTypeMask = kUsbReqTypeVendor ∧
          bRequest = kVendorSetupReqTestConfig then
        sendData buffer (testDscr.take (dataLength state.client.testDscrLen wLength).toNat)
      else pure .kUsbTestutilsCtError
  | none => pure .kUsbTestutilsCtError

/-- The case of `kUsbSetupReqGetDescriptor`. -/
def setupGetDescriptor (buffer : Buffer) (wValue wLength : BitVec 16) :
    Code Memory Failure CtState :=
  if wValue &&& 0xff00 = 0x100 then sendDevDscr buffer wLength
  else if wValue &&& 0xff00 = 0x200 then sendCfgDscr buffer wLength
  else pure .kUsbTestutilsCtError

/-- The case of `kUsbSetupReqSetAddress`. -/
def setupSetAddress (buffer : Buffer) (wValue : BitVec 16) : Code Memory Failure CtState := do
  modifyCtx (fun ctctx => { ctctx with newDev := (wValue &&& 0x7f).setWidth 8 })
  sendStatus buffer .kUsbTestutilsCtAddrStatIn

/-- The case of `kUsbSetupReqSetConfiguration`. -/
def setupSetConfiguration (buffer : Buffer) (wValue : BitVec 16) :
    Code Memory Failure CtState := do
  modifyCtx (fun ctctx => { ctctx with newConfig := wValue.setWidth 8 })
  sendStatus buffer .kUsbTestutilsCtCfgStatIn

/-- The `switch` of `setup_req`, with the buffer that has been requested. -/
def serveRequest (buffer : Buffer) (bmRequestType bRequest : BitVec 8)
    (wValue wIndex wLength : BitVec 16) : Code Memory Failure CtState :=
  let endpoint : EndpointId := ⟨wIndex.setWidth 4, bmRequestType &&& kUsbReqTypeDirMask ≠ 0⟩
  match SetupReq.ofByte bRequest with
  | some .kUsbSetupReqGetDescriptor => setupGetDescriptor buffer wValue wLength
  | some .kUsbSetupReqSetAddress => setupSetAddress buffer wValue
  | some .kUsbSetupReqSetConfiguration => setupSetConfiguration buffer wValue
  | some .kUsbSetupReqGetConfiguration => setupGetConfiguration buffer wLength
  | some .kUsbSetupReqSetFeature => setupFeature buffer endpoint wValue kDifToggleEnabled
  | some .kUsbSetupReqClearFeature => setupFeature buffer endpoint wValue kDifToggleDisabled
  | some .kUsbSetupReqGetStatus => setupGetStatus buffer bmRequestType endpoint wLength
  | some .kUsbSetupReqSetInterface => sendStatus buffer .kUsbTestutilsCtStatIn
  | some .kUsbSetupReqGetInterface =>
      sendData buffer ([(0 : BitVec 8)].take (dataLength 1 wLength).toNat)
  | some .kUsbSetupReqSynchFrame =>
      sendData buffer ([(0 : BitVec 8), 0].take (dataLength 2 wLength).toNat)
  | some .kUsbSetupReqSetDescriptor | none => setupVendor buffer bmRequestType bRequest wLength

/-- `setup_req` -/
def setupReq (bmRequestType bRequest : BitVec 8) (wValue wIndex wLength : BitVec 16) :
    Code Memory Failure CtState := do
  let buffer <- requestBuffer
  serveRequest buffer bmRequestType bRequest wValue wIndex wLength

/-! ## The callbacks -/

/-- `ctrl_tx_done` -/
def ctrlTxDone (_result : XfrResult) : Code Memory Failure Unit := do
  let state <- Code.get
  match state.client.ctrlstate with
  | .kUsbTestutilsCtAddrStatIn => do
      let result <- Code.lift (difUsbdevAddressSet .object state.client.newDev)
      tryDif result
      modifyCtx (fun ctctx => { ctctx with
        ctrlstate := .kUsbTestutilsCtIdle, deviceState := .kUsbTestutilsDeviceAddressed })
  | .kUsbTestutilsCtCfgStatIn =>
      modifyCtx (fun ctctx => { ctctx with
        usbConfig := ctctx.newConfig
        ctrlstate := .kUsbTestutilsCtIdle
        deviceState := if ctctx.newConfig ≠ 0 then .kUsbTestutilsDeviceConfigured
          else .kUsbTestutilsDeviceAddressed })
  | .kUsbTestutilsCtStatIn =>
      modifyCtx (fun ctctx => { ctctx with ctrlstate := .kUsbTestutilsCtIdle })
  | .kUsbTestutilsCtWaitIn =>
      modifyCtx (fun ctctx => { ctctx with ctrlstate := .kUsbTestutilsCtStatOut })
  | _ => pure ()

/-- The call of `dif_usbdev_buffer_return` in `ctrl_rx`. -/
def returnBuffer (buffer : Buffer) : Code Memory Failure Unit := do
  let state <- Code.get
  let (result, pool, _) := difUsbdevBufferReturn .object .object .object state.pool buffer
  Code.set { state with pool := pool }
  tryDif result

/-- A buffer that has not been read is returned. -/
def returnUnused (buffer : Buffer) : Code Memory Failure Unit :=
  if buffer.type ≠ .kDifUsbdevBufferTypeStale then returnBuffer buffer else pure ()

/-- The end of `ctrl_rx`, for what was not expected. -/
def unexpected (buffer : Buffer) : Code Memory Failure Unit := do
  let result <- Code.lift (difUsbdevEndpointStallEnable .object ⟨0, true⟩ kDifToggleEnabled)
  tryDif result
  let result <- Code.lift (difUsbdevEndpointStallEnable .object ⟨0, false⟩ kDifToggleEnabled)
  tryDif result
  returnUnused buffer
  modifyCtx (fun ctctx => { ctctx with ctrlstate := .kUsbTestutilsCtIdle })

/-- Two bytes of a SETUP packet. -/
def word16 (bp : List (BitVec 8)) (i : Nat) : BitVec 16 :=
  ((bp.getD (i + 1) 0).setWidth 16 <<< 8) ||| (bp.getD i 0).setWidth 16

/-- The call of `setup_req` for the bytes of a SETUP packet. -/
def setupReqOf (bp : List (BitVec 8)) : Code Memory Failure CtState :=
  setupReq (bp.getD 0 0) (bp.getD 1 0) (word16 bp 2) (word16 bp 4) (word16 bp 6)

/-- The part of `ctrl_rx` for a SETUP packet. -/
def ctrlSetup (buffer : Buffer) : Code Memory Failure Unit := do
  let state <- Code.get
  let (result, pool, buffer, bp) <- Code.lift
    (difUsbdevBufferRead .object .object .object .object state.pool buffer 8)
  Code.set { state with pool := pool }
  tryDif result
  let ctrlstate <- setupReqOf bp
  modifyCtx (fun ctctx => { ctctx with ctrlstate := ctrlstate })
  if ctrlstate = .kUsbTestutilsCtError then unexpected buffer else pure ()

/-- The part of `ctrl_rx` for the status stage. -/
def ctrlStatus (buffer : Buffer) : Code Memory Failure Unit := do
  returnBuffer buffer
  modifyCtx (fun ctctx => { ctctx with ctrlstate := .kUsbTestutilsCtIdle })

/-- `ctrl_rx` -/
def ctrlRx (packetInfo : RxPacketInfo) (buffer : Buffer) : Code Memory Failure Unit := do
  let result <- Code.lift (difUsbdevEndpointOutEnable .object 0 kDifToggleEnabled)
  tryDif result
  let state <- Code.get
  match state.client.ctrlstate with
  | .kUsbTestutilsCtIdle =>
      if packetInfo.isSetup ∧ packetInfo.length = 8 then ctrlSetup buffer else unexpected buffer
  | .kUsbTestutilsCtStatOut =>
      if !packetInfo.isSetup ∧ packetInfo.length = 0 then ctrlStatus buffer else unexpected buffer
  | _ => unexpected buffer

/-- `ctrl_reset` -/
def ctrlReset : Code Memory Failure Unit :=
  modifyCtx (fun ctctx => { ctctx with
    ctrlstate := .kUsbTestutilsCtIdle, deviceState := .kUsbTestutilsDeviceDefault })

/-- `usb_testutils_controlep_init` -/
def usbTestutilsControlepInit (ep : BitVec 8) (cfgDscr : List (BitVec 8)) (cfgDscrLen : BitVec 32)
    (testDscr : Option (List (BitVec 8))) (testDscrLen : BitVec 32) :
    Code Memory Failure Unit := do
  usbTestutilsEndpointSetup ep .kUsbTransferTypeControl .kUsbTransferTypeControl .kUsbdevOutMessage
    (some .ctrlTxDone) (some .ctrlRx) none (some .ctrlReset)
  modifyCtx (fun ctctx => { ctctx with
    ep := ep
    ctrlstate := .kUsbTestutilsCtIdle
    cfgDscr := cfgDscr
    cfgDscrLen := cfgDscrLen
    testDscr := testDscr
    testDscrLen := testDscrLen
    deviceState := .kUsbTestutilsDeviceDefault })
  let result <- Code.lift (difUsbdevInterfaceEnable .object kDifToggleEnabled)
  tryDif result

/-! ## The callbacks as the library calls them -/

/-- The call of a callback for a packet that has been sent. -/
def callTxDone : Callback -> XfrResult -> Code Memory Failure Unit
  | .ctrlTxDone, result => ctrlTxDone result
  | _, _ => pure ()

/-- The call of a callback for a packet that has been received. -/
def callRx : Callback -> RxPacketInfo -> Buffer -> Code Memory Failure Unit
  | .ctrlRx, packetInfo, buffer => ctrlRx packetInfo buffer
  | _, _, _ => pure ()

end UsbControlEp
end SunburstChip
