import SunburstChip.Lib.Code
import SunburstChip.Scratch.PlatformUsbdev

namespace SunburstChip
namespace UsbdevUtils

open Mmio Usbdev OpenTitanUsbdev

/-!
# The scratch software on the USB

The class `UsbdevUtils`, which answers the control transfers of endpoint zero
and passes packets on to the callbacks of the other endpoints.  Its member
functions are routines with the object as their state.  A failed `assert` ends
the run.  The two loops of `service` go on for as long as the controller has
something to report, so they are given a number of rounds, and a run in which
they need more is not considered for that number.

The callbacks of the other endpoints belong to the client.  Of what they do,
only the packets that they send matter here.
-/

/-- Why a call does not return. -/
inductive Stop where
  /-- An assertion fails. -/
  | assertion
  /-- A loop has not come to its end within its rounds. -/
  | unfinished
  deriving DecidableEq

/-- `DeviceState` -/
inductive DeviceState where
  | devicePowered
  | deviceAddressed
  | deviceConfigured
  deriving DecidableEq

/-- `CtrlState` -/
inductive CtrlState where
  | ctrlSetup
  | ctrlStatusSetAddr
  | ctrlStatusGetDesc
  | ctrlStatusSetConfig
  deriving DecidableEq

/-- The descriptors given to the constructor, with the types of their lengths. -/
structure Descriptors where
  devDscr : List (BitVec 8)
  devLen : BitVec 8
  cfgDscr : List (BitVec 8)
  cfgLen : BitVec 16
  testDscr : List (BitVec 8)
  testLen : BitVec 8
  deriving DecidableEq

/-- An object of the class. -/
structure Utils where
  devAddr : BitVec 8
  devState : DeviceState
  ctrlState : CtrlState
  dscr : Descriptors
  bufAvail : BitVec 64
  deriving DecidableEq

/-- A call of `send_data` that a callback makes. -/
structure Send where
  ep : BitVec 8
  data : List (BitVec 8)
  pktLen : BitVec 16
  deriving DecidableEq

/-- The callbacks of the client; where none is registered, nothing is sent. -/
structure Client where
  recvCallback : (ep : BitVec 8) -> (setup : Bool) -> (data : List (BitVec 8)) ->
    (pktLen : BitVec 16) -> List Send
  txDoneCallback : (ep : BitVec 8) -> List Send

/-- A client without callbacks. -/
def Client.silent : Client := ⟨fun _ _ _ _ => [], fun _ => []⟩

abbrev kUsbSetupReqSetAddress : BitVec 8 := 5
abbrev kUsbSetupReqGetDescriptor : BitVec 8 := 6
abbrev kUsbSetupReqSetConfiguration : BitVec 8 := 9
abbrev kVendorSetupReqTestConfig : BitVec 8 := 0x7c
abbrev kUsbDescTypeDevice : BitVec 8 := 1
abbrev kUsbDescTypeConfiguration : BitVec 8 := 2

/-- A member function. -/
abbrev Member (α : Type) : Type := Code Utils Stop α

/-- `assert` -/
def assert (condition : Bool) : Member Unit :=
  if condition then pure () else .raise .assertion

/-- Change the object. -/
def modify (f : Utils -> Utils) : Member Unit := do
  let utils <- Code.get
  Code.set (f utils)

/-! ## Buffers -/

/-- The lowest bit that is set among those of the buffers. -/
def lowestBuffer (bufAvail : BitVec 64) : Option Nat :=
  (List.range bufferCount).find? (fun bufNum => 1 &&& (bufAvail >>> bufNum) ≠ 0)

/-- `buf_alloc`: the buffer, nothing where it returns `false`. -/
def bufAlloc : Member (Option (BitVec 8)) := do
  let utils <- Code.get
  match lowestBuffer utils.bufAvail with
  | none => pure none
  | some bufNum =>
      Code.set { utils with bufAvail := utils.bufAvail &&& ~~~(1#64 <<< bufNum) }
      pure (some (.ofNat 8 bufNum))

/-- Hand buffers over to the controller, and keep the ones it does not take. -/
def supply (bufAvail : BitVec 64) : Member Unit := do
  let bufAvail <- Code.lift (OpenTitanUsbdev.supplyBuffers bufAvail)
  modify (fun utils => { utils with bufAvail := bufAvail })

/-- `buf_release` -/
def bufRelease (bufNum : BitVec 8) : Member Unit := do
  let utils <- Code.get
  supply (utils.bufAvail ||| (1#64 <<< bufNum.toNat))

/-- `supply_buffers` -/
def supplyBuffers : Member Unit := do
  let utils <- Code.get
  supply utils.bufAvail

/-- `send_data` -/
def sendData (ep : BitVec 8) (data : List (BitVec 8)) (pktLen : BitVec 16) : Member Bool := do
  assert (decide (pktLen.toNat <= maxPacketLength))
  match <- bufAlloc with
  | none => pure false
  | some bufNum =>
      let rc <- Code.lift (packetSend bufNum ep data (pktLen.setWidth 8))
      if rc ≠ 0 then
        bufRelease bufNum
        pure false
      else
        pure true

/-- A callback of the client. -/
def sendAll : List Send -> Member Unit
  | [] => pure ()
  | send :: rest => do
      let _ <- sendData send.ep send.data send.pktLen
      sendAll rest

/-! ## The default control pipe -/

/-- Send a reply on endpoint zero, and go on to the next state. -/
def reply (bufNum : BitVec 8) (data : List (BitVec 8)) (size : BitVec 8) (next : CtrlState) :
    Member Unit := do
  let rc <- Code.lift (packetSend bufNum 0 data size)
  assert (rc == 0)
  modify (fun utils => { utils with ctrlState := next })

/-- The states of `ep0_recv`; what is returned says whether the buffer is to be released. -/
def ep0Decode (bufNum : BitVec 8) (setup : Bool) (data : List (BitVec 8)) (pktLen : BitVec 16) :
    Member Bool := do
  let byte (i : Nat) : BitVec 8 := data.getD i 0
  let utils <- Code.get
  match utils.ctrlState with
  | .ctrlSetup =>
      if setup && pktLen == 8 then
        let wValue : BitVec 16 := (byte 2).setWidth 16 ||| ((byte 3).setWidth 16 <<< 8)
        let wLen : BitVec 16 := (byte 6).setWidth 16 ||| ((byte 7).setWidth 16 <<< 8)
        if byte 1 = kUsbSetupReqGetDescriptor then
          if byte 3 = kUsbDescTypeDevice then
            let devLen := utils.dscr.devLen.setWidth 16
            let wLen := if devLen.toNat < wLen.toNat then devLen else wLen
            reply bufNum utils.dscr.devDscr (wLen.setWidth 8) .ctrlStatusGetDesc
            pure false
          else if byte 3 = kUsbDescTypeConfiguration then
            let cfgLen := utils.dscr.cfgLen
            let wLen := if cfgLen.toNat < wLen.toNat then cfgLen else wLen
            reply bufNum utils.dscr.cfgDscr (wLen.setWidth 8) .ctrlStatusGetDesc
            pure false
          else
            let rc <- Code.lift (setEndpointStalling 0 true)
            assert (rc == 0)
            pure true
        else if byte 1 = kUsbSetupReqSetAddress then
          modify (fun utils => { utils with devAddr := wValue.setWidth 8 })
          reply bufNum [] 0 .ctrlStatusSetAddr
          pure false
        else if byte 1 = kUsbSetupReqSetConfiguration then
          reply bufNum [] 0 .ctrlStatusSetConfig
          pure false
        else if byte 1 = kVendorSetupReqTestConfig then
          let testLen := utils.dscr.testLen.setWidth 16
          let wLen := if testLen.toNat < wLen.toNat then testLen else wLen
          reply bufNum utils.dscr.testDscr (wLen.setWidth 8) .ctrlStatusGetDesc
          pure false
        else
          modify (fun utils => { utils with ctrlState := .ctrlSetup })
          pure true
      else
        pure true
  | .ctrlStatusSetAddr | .ctrlStatusGetDesc | .ctrlStatusSetConfig =>
      modify (fun utils => { utils with ctrlState := .ctrlSetup })
      pure true

/-- `ep0_recv` -/
def ep0Recv (setup : Bool) (data : List (BitVec 8)) (pktLen : BitVec 16) : Member Unit := do
  match <- bufAlloc with
  | none => Code.raise .assertion
  | some bufNum =>
      let release <- ep0Decode bufNum setup data pktLen
      if release then bufRelease bufNum else pure ()

/-- `ep0_sent` -/
def ep0Sent : Member Unit := do
  let utils <- Code.get
  match utils.ctrlState with
  | .ctrlStatusSetAddr =>
      let rc <- Code.lift (setDeviceAddress utils.devAddr)
      assert (rc == 0)
      modify (fun utils => { utils with devState := .deviceAddressed, ctrlState := .ctrlSetup })
  | .ctrlStatusSetConfig =>
      modify (fun utils => { utils with devState := .deviceConfigured, ctrlState := .ctrlSetup })
  | .ctrlSetup | .ctrlStatusGetDesc =>
      modify (fun utils => { utils with ctrlState := .ctrlSetup })

/-! ## Servicing the device -/

/-- The callback for a packet that has been collected. -/
def txDone (client : Client) (ep : BitVec 8) : Member Unit :=
  if ep = 0 then ep0Sent else sendAll (client.txDoneCallback ep)

/-- The callback for a packet that has been received.  Nothing is called for
endpoints that the device does not have. -/
def recv (client : Client) (packet : OpenTitanUsbdev.Packet) : Member Unit :=
  if packet.endpointId = 0 then ep0Recv packet.isSetup packet.destination packet.size
  else sendAll
    (client.recvCallback packet.endpointId packet.isSetup packet.destination packet.size)

/-- The loop of `service` over the packets that have been collected. -/
def serviceSent (client : Client) : Nat -> Member Unit
  | 0 => .raise .unfinished
  | rounds + 1 => do
      match <- Code.lift retrieveCollectedPacket with
      | none => pure ()
      | some (ep, bufNum) =>
          bufRelease bufNum
          txDone client ep
          serviceSent client rounds

/-- The loop of `service` over the packets that have been received. -/
def serviceReceived (client : Client) : Nat -> Member Unit
  | 0 => .raise .unfinished
  | rounds + 1 => do
      match <- Code.lift packetReceive with
      | none => pure ()
      | some packet =>
          bufRelease packet.bufferId
          recv client packet
          serviceReceived client rounds

/-- `service` -/
def service (client : Client) (rounds : Nat) : Member Unit := do
  serviceSent client rounds
  supplyBuffers
  serviceReceived client rounds

/-- `setup_out_endpoint`, for one of the device's own endpoints: its callback
is known, so there is none to be remembered. -/
def setupOutEndpoint (ep : BitVec 8) (enabled setup iso : Bool) : Member Bool := do
  let rc <- Code.lift (configureOutEndpoint ep enabled setup iso)
  pure (rc == 0)

/-- `setup_in_endpoint`, likewise. -/
def setupInEndpoint (ep : BitVec 8) (enabled iso : Bool) : Member Bool := do
  let rc <- Code.lift (configureInEndpoint ep enabled iso)
  pure (rc == 0)

/-- The members before the body of the constructor. -/
def Utils.initial (dscr : Descriptors) : Utils where
  devAddr := 0
  devState := .devicePowered
  ctrlState := .ctrlSetup
  dscr := dscr
  bufAvail := (1#64 <<< bufferCount) - 1

/-- The body of the constructor. -/
def construct : Member Unit := do
  let (rc, bufAvail) <- Code.lift init
  modify (fun utils => { utils with bufAvail := bufAvail })
  assert (rc == 0)
  let ok <- setupOutEndpoint 0 true true false
  let ok <- if ok then setupInEndpoint 0 true false else pure false
  assert ok
  supplyBuffers

end UsbdevUtils
end SunburstChip
