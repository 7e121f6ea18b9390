import Mathlib.Logic.Function.Basic
import SunburstChip.Base.Memcpy
import SunburstChip.Dif.Base

namespace SunburstChip
namespace Usbdev

open Mmio

/-!
# The USB device and its packet buffers

The controller has 32 packet buffers, known by their numbers.  Software gives
it empty buffers through two Available FIFOs, takes filled ones from the RX
FIFO, and offers a buffer to the host through the CONFIGIN register of an
endpoint.  The buffers the controller does not have are kept in a pool, which
is a stack, or are with a caller as a `dif_usbdev_buffer_t`.

The functions are those of `dif_usbdev.c`.  An object behind a pointer is an
argument of its own next to the pointer, and is returned as the function
leaves it.
-/

/-! ## The controller -/

/-- An entry of the RX FIFO. -/
structure RxEntry where
  ep : BitVec 4
  setup : Bool
  size : BitVec 7
  buffer : BitVec 5
  deriving DecidableEq

/-- A CONFIGIN register. -/
structure ConfigIn where
  buffer : BitVec 5
  size : BitVec 7
  sending : Bool
  pend : Bool
  rdy : Bool
  deriving DecidableEq

/-- The controller as the driver sees it. -/
structure Controller where
  avSetup : List (BitVec 5)
  avOut : List (BitVec 5)
  rxFifo : List RxEntry
  configIn : Nat -> ConfigIn
  inSent : Nat -> Bool
  /-- The bits of `USBSTAT` that are about the link: frame, host lost, link state, sense. -/
  link : BitVec 32
  /-- Packet memory, by words. -/
  memory : Nat -> BitVec 32
  /-- The registers that only keep what is written to them, by offset. -/
  regs : Nat -> BitVec 32

abbrev numEndpoints : Nat := 12
abbrev maxPacketSize : Nat := 64
abbrev numBuffers : Nat := 32
abbrev avSetupFifoDepth : Nat := 4
abbrev avOutFifoDepth : Nat := 8
abbrev rxFifoDepth : Nat := 8

def ConfigIn.reset : ConfigIn := ⟨0, 0, false, false, false⟩

/-- The controller after reset. -/
def Controller.reset : Controller where
  avSetup := []
  avOut := []
  rxFifo := []
  configIn _ := .reset
  inSent _ := false
  link := 0
  memory _ := 0
  regs _ := 0

abbrev usbstatRegOffset : Nat := 0x1c
abbrev usbstatAvOutDepthField : BitfieldField32 := ⟨0xf, 16⟩
abbrev usbstatAvSetupDepthField : BitfieldField32 := ⟨0x7, 20⟩
abbrev usbstatAvOutFullBit : Nat := 23
abbrev usbstatRxDepthField : BitfieldField32 := ⟨0xf, 24⟩
abbrev usbstatAvSetupFullBit : Nat := 30
abbrev usbstatRxEmptyBit : Nat := 31
abbrev avoutbufferRegOffset : Nat := 0x20
abbrev avoutbufferBufferField : BitfieldField32 := ⟨0x1f, 0⟩
abbrev avsetupbufferRegOffset : Nat := 0x24
abbrev avsetupbufferBufferField : BitfieldField32 := ⟨0x1f, 0⟩
abbrev rxfifoRegOffset : Nat := 0x28
abbrev rxfifoBufferField : BitfieldField32 := ⟨0x1f, 0⟩
abbrev rxfifoSizeField : BitfieldField32 := ⟨0x7f, 8⟩
abbrev rxfifoSetupBit : Nat := 19
abbrev rxfifoEpField : BitfieldField32 := ⟨0xf, 20⟩
abbrev inSentRegOffset : Nat := 0x38
abbrev configin0RegOffset : Nat := 0x44
abbrev configinBufferField : BitfieldField32 := ⟨0x1f, 0⟩
abbrev configinSizeField : BitfieldField32 := ⟨0x7f, 8⟩
abbrev configinSendingBit : Nat := 29
abbrev configinPendBit : Nat := 30
abbrev configinRdyBit : Nat := 31
abbrev phyConfigRegOffset : Nat := 0x8c
abbrev phyConfigUseDiffRcvrBit : Nat := 0
abbrev phyConfigTxUseDSe0Bit : Nat := 1
abbrev phyConfigEopSingleBitBit : Nat := 2
abbrev phyConfigPinflipBit : Nat := 5
abbrev phyConfigUsbRefDisableBit : Nat := 6
abbrev bufferRegOffset : Nat := 0x800

/-- `USBSTAT` as it reads. -/
def Controller.usbstat (usbdev : Controller) : BitVec 32 :=
  let reg := usbdev.link &&& 0xffff
  let reg := bitfieldField32Write reg usbstatAvOutDepthField (.ofNat 32 usbdev.avOut.length)
  let reg := bitfieldField32Write reg usbstatAvSetupDepthField (.ofNat 32 usbdev.avSetup.length)
  let reg := bitfieldBit32Write reg usbstatAvOutFullBit
    (decide (avOutFifoDepth <= usbdev.avOut.length))
  let reg := bitfieldField32Write reg usbstatRxDepthField (.ofNat 32 usbdev.rxFifo.length)
  let reg := bitfieldBit32Write reg usbstatAvSetupFullBit
    (decide (avSetupFifoDepth <= usbdev.avSetup.length))
  bitfieldBit32Write reg usbstatRxEmptyBit usbdev.rxFifo.isEmpty

/-- An entry of the RX FIFO as `RXFIFO` reads. -/
def RxEntry.toWord (entry : RxEntry) : BitVec 32 :=
  let reg := bitfieldField32Write 0 rxfifoBufferField (entry.buffer.setWidth 32)
  let reg := bitfieldField32Write reg rxfifoSizeField (entry.size.setWidth 32)
  let reg := bitfieldBit32Write reg rxfifoSetupBit entry.setup
  bitfieldField32Write reg rxfifoEpField (entry.ep.setWidth 32)

/-- A CONFIGIN register as it reads. -/
def ConfigIn.toWord (configIn : ConfigIn) : BitVec 32 :=
  let reg := bitfieldField32Write 0 configinBufferField (configIn.buffer.setWidth 32)
  let reg := bitfieldField32Write reg configinSizeField (configIn.size.setWidth 32)
  let reg := bitfieldBit32Write reg configinSendingBit configIn.sending
  let reg := bitfieldBit32Write reg configinPendBit configIn.pend
  bitfieldBit32Write reg configinRdyBit configIn.rdy

/-- A CONFIGIN register after a write: `sending` and `pend` are of the kind
that is cleared by writing one. -/
def ConfigIn.write (configIn : ConfigIn) (value : BitVec 32) : ConfigIn where
  buffer := (bitfieldField32Read value configinBufferField).setWidth 5
  size := (bitfieldField32Read value configinSizeField).setWidth 7
  sending := configIn.sending && !bitfieldBit32Read value configinSendingBit
  pend := configIn.pend && !bitfieldBit32Read value configinPendBit
  rdy := bitfieldBit32Read value configinRdyBit

/-- `IN_SENT` as it reads. -/
def Controller.inSentWord (usbdev : Controller) : BitVec 32 :=
  (List.range numEndpoints).foldl
    (fun reg endpoint => bitfieldBit32Write reg endpoint (usbdev.inSent endpoint)) 0

/-- The endpoint whose CONFIGIN register is at an offset. -/
def configInEndpoint (offset : Nat) : Option Nat :=
  if configin0RegOffset <= offset ∧ offset < configin0RegOffset + 4 * numEndpoints then
    some ((offset - configin0RegOffset) / 4)
  else none

/-- The value a register reads as. -/
def Controller.readWord (usbdev : Controller) (offset : Nat) : BitVec 32 :=
  if offset = usbstatRegOffset then usbdev.usbstat
  else if offset = rxfifoRegOffset then (usbdev.rxFifo.head?.map RxEntry.toWord).getD 0
  else if offset = inSentRegOffset then usbdev.inSentWord
  else if bufferRegOffset <= offset then usbdev.memory ((offset - bufferRegOffset) / 4)
  else
    match configInEndpoint offset with
    | some endpoint => (usbdev.configIn endpoint).toWord
    | none => usbdev.regs offset

/-- A write to a register.  A buffer written to a full FIFO is discarded. -/
def Controller.writeWord (usbdev : Controller) (offset : Nat) (value : BitVec 32) : Controller :=
  if offset = avoutbufferRegOffset then
    if avOutFifoDepth <= usbdev.avOut.length then usbdev
    else { usbdev with avOut := usbdev.avOut ++
      [(bitfieldField32Read value avoutbufferBufferField).setWidth 5] }
  else if offset = avsetupbufferRegOffset then
    if avSetupFifoDepth <= usbdev.avSetup.length then usbdev
    else { usbdev with avSetup := usbdev.avSetup ++
      [(bitfieldField32Read value avsetupbufferBufferField).setWidth 5] }
  else if offset = usbstatRegOffset ∨ offset = rxfifoRegOffset then usbdev
  else if offset = inSentRegOffset then
    { usbdev with inSent := fun endpoint =>
        usbdev.inSent endpoint && !bitfieldBit32Read value endpoint }
  else if bufferRegOffset <= offset then
    { usbdev with memory := Function.update usbdev.memory ((offset - bufferRegOffset) / 4) value }
  else
    match configInEndpoint offset with
    | some endpoint => { usbdev with
        configIn := Function.update usbdev.configIn endpoint
          ((usbdev.configIn endpoint).write value) }
    | none => { usbdev with regs := Function.update usbdev.regs offset value }

/-- The controller as a device.  Reading `RXFIFO` takes the entry out. -/
def device : Device Controller where
  read32 offset usbdev :=
    (usbdev.readWord offset,
      if offset = rxfifoRegOffset then { usbdev with rxFifo := usbdev.rxFifo.tail } else usbdev)
  write32 offset value usbdev := usbdev.writeWord offset value
  write8 _ _ usbdev := usbdev

/-- Packet memory after the controller has stored a packet in a buffer. -/
def storePacket (memory : Nat -> BitVec 32) (buffer : BitVec 5) (packet : Nat -> BitVec 32) :
    Nat -> BitVec 32 :=
  fun word => if word / 16 = buffer.toNat then packet (word % 16) else memory word

/-- A step of the controller. -/
inductive Hardware : Controller -> Controller -> Prop where
  /-- A SETUP packet is received into the buffer at the head of the Available SETUP FIFO. -/
  | receiveSetup {usbdev : Controller} {buffer : BitVec 5} {rest : List (BitVec 5)}
      (ep : BitVec 4) (size : BitVec 7) (packet : Nat -> BitVec 32)
      (available : usbdev.avSetup = buffer :: rest)
      (room : usbdev.rxFifo.length < rxFifoDepth) :
      Hardware usbdev { usbdev with
        avSetup := rest
        rxFifo := usbdev.rxFifo ++ [⟨ep, true, size, buffer⟩]
        memory := storePacket usbdev.memory buffer packet }
  /-- An OUT packet is received into the buffer at the head of the Available OUT FIFO. -/
  | receiveOut {usbdev : Controller} {buffer : BitVec 5} {rest : List (BitVec 5)}
      (ep : BitVec 4) (size : BitVec 7) (packet : Nat -> BitVec 32)
      (available : usbdev.avOut = buffer :: rest)
      (room : usbdev.rxFifo.length < rxFifoDepth) :
      Hardware usbdev { usbdev with
        avOut := rest
        rxFifo := usbdev.rxFifo ++ [⟨ep, false, size, buffer⟩]
        memory := storePacket usbdev.memory buffer packet }
  /-- The host attempts to collect the packet of an endpoint. -/
  | attempt {usbdev : Controller} (endpoint : Nat) (inside : endpoint < numEndpoints)
      (ready : (usbdev.configIn endpoint).rdy = true) :
      Hardware usbdev { usbdev with
        configIn := Function.update usbdev.configIn endpoint
          { usbdev.configIn endpoint with sending := true } }
  /-- The host acknowledges the packet of an endpoint. -/
  | acknowledge {usbdev : Controller} (endpoint : Nat) (inside : endpoint < numEndpoints)
      (ready : (usbdev.configIn endpoint).rdy = true) :
      Hardware usbdev { usbdev with
        configIn := Function.update usbdev.configIn endpoint
          { usbdev.configIn endpoint with sending := false, rdy := false }
        inSent := Function.update usbdev.inSent endpoint true }
  /-- The state of the link changes. -/
  | link {usbdev : Controller} (link : BitVec 32) : Hardware usbdev { usbdev with link := link }

/-! ## The pool of free buffers -/

/-- `dif_usbdev_buffer_pool_t` -/
structure BufferPool where
  buffers : Vector (BitVec 8) numBuffers
  top : Int
  deriving DecidableEq

abbrev bufferPoolFull : Int := numBuffers - 1
abbrev bufferPoolEmpty : Int := -1

/-- `buffer_pool_is_full` -/
def bufferPoolIsFull (pool : BufferPool) : Bool := pool.top == bufferPoolFull

/-- `buffer_pool_is_empty` -/
def bufferPoolIsEmpty (pool : BufferPool) : Bool := pool.top == bufferPoolEmpty

/-- `buffer_pool_is_valid_buffer_id` -/
def bufferPoolIsValidBufferId (bufferId : BitVec 8) : Bool :=
  decide (bufferId.toNat < numBuffers)

/-- `buffer_pool_add`, nothing where it returns `false`. -/
def bufferPoolAdd (pool : BufferPool) (bufferId : BitVec 8) : Option BufferPool :=
  if bufferPoolIsFull pool || !bufferPoolIsValidBufferId bufferId then none
  else some
    { buffers := pool.buffers.setIfInBounds (pool.top + 1).toNat bufferId, top := pool.top + 1 }

/-- `buffer_pool_remove`, nothing where it returns `false`. -/
def bufferPoolRemove (pool : BufferPool) : Option (BitVec 8 × BufferPool) :=
  if bufferPoolIsEmpty pool then none
  else some (pool.buffers[pool.top.toNat]?.getD 0, { pool with top := pool.top - 1 })

/-- Add the buffers from `i` on, as far as adding succeeds. -/
def bufferPoolAddAll (pool : BufferPool) : List Nat -> BufferPool × Bool
  | [] => (pool, true)
  | i :: rest =>
      match bufferPoolAdd pool (.ofNat 8 i) with
      | none => (pool, false)
      | some pool => bufferPoolAddAll pool rest

/-- `buffer_pool_init` -/
def bufferPoolInit (pool : BufferPool) : BufferPool × Bool :=
  bufferPoolAddAll { pool with top := -1 } (List.range numBuffers)

/-! ## Buffers and packets -/

/-- `dif_usbdev_buffer_type_t` -/
inductive BufferType where
  | kDifUsbdevBufferTypeRead
  | kDifUsbdevBufferTypeWrite
  | kDifUsbdevBufferTypeStale
  deriving DecidableEq

/-- `dif_usbdev_buffer_t` -/
structure Buffer where
  id : BitVec 8
  offset : BitVec 8
  remainingBytes : BitVec 8
  type : BufferType
  deriving DecidableEq

/-- `dif_usbdev_rx_packet_info_t` -/
structure RxPacketInfo where
  endpoint : BitVec 8
  isSetup : Bool
  length : BitVec 8
  deriving DecidableEq

/-- `dif_usbdev_config_t` -/
structure Config where
  haveDifferentialReceiver : DifToggle
  useTxDSe0 : DifToggle
  singleBitEop : DifToggle
  pinFlip : DifToggle
  clockSyncSignals : DifToggle
  deriving DecidableEq

/-- `is_valid_endpoint` -/
def isValidEndpoint (endpointNumber : BitVec 8) : Bool :=
  decide (endpointNumber.toNat < numEndpoints)

/-- An endpoint that is not refused is one of those there are. -/
theorem below_of_accepted {endpoint : BitVec 8} {refused : Prop} (accepted : ¬ refused)
    (invalid : !isValidEndpoint endpoint -> refused) : endpoint.toNat < numEndpoints := by
  by_contra other
  apply accepted
  apply invalid
  rw [isValidEndpoint, decide_eq_false other]
  rfl

/-- The `config_in_reg_offset` of `kEndpointHwInfos`. -/
def configInRegOffset (endpoint : BitVec 8) : Nat := configin0RegOffset + 4 * endpoint.toNat

/-- `get_buffer_addr` -/
def getBufferAddr (bufferId offset : BitVec 8) : Nat :=
  bufferRegOffset + bufferId.toNat * maxPacketSize + offset.toNat

/-- `dif_usbdev_configure` -/
def difUsbdevConfigure (usbdev bufferPool : Pointer) (pool : BufferPool) (config : Config) :
    Mmio (DifResult × BufferPool) := do
  if usbdev = .null ∨ bufferPool = .null then
    return (.kDifBadArg, pool)
  let (pool, initialised) := bufferPoolInit pool
  if !initialised then
    return (.kDifError, pool)
  if !difIsValidToggle config.haveDifferentialReceiver || !difIsValidToggle config.useTxDSe0 ||
      !difIsValidToggle config.singleBitEop || !difIsValidToggle config.pinFlip ||
      !difIsValidToggle config.clockSyncSignals then
    return (.kDifBadArg, pool)
  let phyConfigVal := bitfieldBit32Write 0 phyConfigUseDiffRcvrBit
    (difToggleToBool config.haveDifferentialReceiver)
  let phyConfigVal := bitfieldBit32Write phyConfigVal phyConfigTxUseDSe0Bit
    (difToggleToBool config.useTxDSe0)
  let phyConfigVal := bitfieldBit32Write phyConfigVal phyConfigEopSingleBitBit
    (difToggleToBool config.singleBitEop)
  let phyConfigVal := bitfieldBit32Write phyConfigVal phyConfigPinflipBit
    (difToggleToBool config.pinFlip)
  let phyConfigVal := bitfieldBit32Write phyConfigVal phyConfigUsbRefDisableBit
    (!difToggleToBool config.clockSyncSignals)
  mmioRegionWrite32 phyConfigRegOffset phyConfigVal
  return (.kDifOk, pool)

/-- The loop of `dif_usbdev_fill_available_fifos`.  Each round that does not
leave it takes a buffer out of the pool, so there are at most as many rounds
as there are buffers in the pool to begin with. -/
def fillLoop : Nat -> BufferPool -> Mmio (DifResult × BufferPool)
  | 0, pool => return (.kDifOk, pool)
  | rounds + 1, pool => do
      if bufferPoolIsEmpty pool then
        return (.kDifOk, pool)
      let status <- mmioRegionRead32 usbstatRegOffset
      let avSetupDepth := bitfieldField32Read status usbstatAvSetupDepthField
      if 2 <= avSetupDepth && bitfieldBit32Read status usbstatAvOutFullBit then
        return (.kDifOk, pool)
      match bufferPoolRemove pool with
      | none => return (.kDifError, pool)
      | some (bufferId, pool) =>
          if 2 <= avSetupDepth then
            mmioRegionWrite32 avoutbufferRegOffset
              (bitfieldField32Write 0 avoutbufferBufferField (bufferId.setWidth 32))
          else
            mmioRegionWrite32 avsetupbufferRegOffset
              (bitfieldField32Write 0 avsetupbufferBufferField (bufferId.setWidth 32))
          fillLoop rounds pool

/-- `dif_usbdev_fill_available_fifos` -/
def difUsbdevFillAvailableFifos (usbdev bufferPool : Pointer) (pool : BufferPool) :
    Mmio (DifResult × BufferPool) := do
  if usbdev = .null ∨ bufferPool = .null then
    return (.kDifBadArg, pool)
  fillLoop (pool.top + 1).toNat pool

/-- `dif_usbdev_recv`: the result, and what is stored through `info` and `buffer`. -/
def difUsbdevRecv (usbdev info buffer : Pointer) :
    Mmio (DifResult × Option (RxPacketInfo × Buffer)) := do
  if usbdev = .null ∨ info = .null ∨ buffer = .null then
    return (.kDifBadArg, none)
  let fifoStatus <- mmioRegionRead32 usbstatRegOffset
  if bitfieldBit32Read fifoStatus usbstatRxEmptyBit then
    return (.kDifUnavailable, none)
  let fifoEntry <- mmioRegionRead32 rxfifoRegOffset
  let info : RxPacketInfo :=
    { endpoint := (bitfieldField32Read fifoEntry rxfifoEpField).setWidth 8
      isSetup := bitfieldBit32Read fifoEntry rxfifoSetupBit
      length := (bitfieldField32Read fifoEntry rxfifoSizeField).setWidth 8 }
  let buffer : Buffer :=
    { id := (bitfieldField32Read fifoEntry rxfifoBufferField).setWidth 8
      offset := 0
      remainingBytes := info.length
      type := .kDifUsbdevBufferTypeRead }
  return (.kDifOk, some (info, buffer))

/-- `dif_usbdev_status_get_rx_fifo_empty`: the result, and what is stored through `is_empty`. -/
def difUsbdevStatusGetRxFifoEmpty (usbdev isEmpty : Pointer) : Mmio (DifResult × Bool) := do
  if usbdev = .null ∨ isEmpty = .null then
    return (.kDifBadArg, false)
  let regVal <- mmioRegionRead32 usbstatRegOffset
  return (.kDifOk, bitfieldBit32Read regVal usbstatRxEmptyBit)

/-- `dif_usbdev_buffer_request`: the result, the pool, and what is stored through `buffer`. -/
def difUsbdevBufferRequest (usbdev bufferPool buffer : Pointer) (pool : BufferPool) :
    DifResult × BufferPool × Option Buffer :=
  if usbdev = .null ∨ bufferPool = .null ∨ buffer = .null then (.kDifBadArg, pool, none)
  else if bufferPoolIsEmpty pool then (.kDifUnavailable, pool, none)
  else
    match bufferPoolRemove pool with
    | none => (.kDifError, pool, none)
    | some (bufferId, pool) =>
        (.kDifOk, pool, some
          { id := bufferId
            offset := 0
            remainingBytes := .ofNat 8 maxPacketSize
            type := .kDifUsbdevBufferTypeWrite })

/-- `dif_usbdev_buffer_return` -/
def difUsbdevBufferReturn (usbdev bufferPool buffer : Pointer) (pool : BufferPool) (buf : Buffer) :
    DifResult × BufferPool × Buffer :=
  if usbdev = .null ∨ bufferPool = .null ∨ buffer = .null then (.kDifBadArg, pool, buf)
  else
    match buf.type with
    | .kDifUsbdevBufferTypeRead | .kDifUsbdevBufferTypeWrite =>
        match bufferPoolAdd pool buf.id with
        | none => (.kDifError, pool, buf)
        | some pool => (.kDifOk, pool, { buf with type := .kDifUsbdevBufferTypeStale })
    | .kDifUsbdevBufferTypeStale => (.kDifBadArg, pool, buf)

/-- `dif_usbdev_buffer_read`: the result, the pool, the buffer and the bytes
stored at `dst`, whose number is what `bytes_written` receives. -/
def difUsbdevBufferRead (usbdev bufferPool buffer dst : Pointer) (pool : BufferPool)
    (buf : Buffer) (dstLen : BitVec 32) :
    Mmio (DifResult × BufferPool × Buffer × List (BitVec 8)) := do
  if usbdev = .null ∨ bufferPool = .null ∨ buffer = .null ∨
      buf.type ≠ .kDifUsbdevBufferTypeRead ∨ dst = .null then
    return (.kDifBadArg, pool, buf, [])
  let bytesToCopy := min buf.remainingBytes.toNat dstLen.toNat
  let bytes <- mmioRegionMemcpyFromMmio32 (getBufferAddr buf.id buf.offset) bytesToCopy
  let buf := { buf with
    offset := buf.offset + .ofNat 8 bytesToCopy
    remainingBytes := buf.remainingBytes - .ofNat 8 bytesToCopy }
  if 0 < buf.remainingBytes then
    return (.kDifOk, pool, buf, bytes)
  match bufferPoolAdd pool buf.id with
  | none => return (.kDifError, pool, buf, bytes)
  | some pool => return (.kDifOk, pool, { buf with type := .kDifUsbdevBufferTypeStale }, bytes)

/-- `dif_usbdev_buffer_write`: the result, the buffer and the number of bytes
that `bytes_written` receives. -/
def difUsbdevBufferWrite (usbdev buffer src : Pointer) (buf : Buffer) (bytes : List (BitVec 8)) :
    Mmio (DifResult × Buffer × Nat) := do
  if usbdev = .null ∨ buffer = .null ∨ buf.type ≠ .kDifUsbdevBufferTypeWrite ∨ src = .null then
    return (.kDifBadArg, buf, 0)
  let bytesToCopy := min buf.remainingBytes.toNat bytes.length
  mmioRegionMemcpyToMmio32 (getBufferAddr buf.id buf.offset) (bytes.take bytesToCopy)
  let buf := { buf with
    offset := buf.offset + .ofNat 8 bytesToCopy
    remainingBytes := buf.remainingBytes - .ofNat 8 bytesToCopy }
  if buf.remainingBytes = 0 ∧ bytesToCopy < bytes.length then
    return (.kDifError, buf, bytesToCopy)
  return (.kDifOk, buf, bytesToCopy)

/-- `dif_usbdev_send` -/
def difUsbdevSend (usbdev : Pointer) (endpoint : BitVec 8) (buffer : Pointer) (buf : Buffer) :
    Mmio (DifResult × Buffer) := do
  if usbdev = .null ∨ !isValidEndpoint endpoint ∨ buffer = .null ∨
      buf.type ≠ .kDifUsbdevBufferTypeWrite then
    return (.kDifBadArg, buf)
  let configInVal := bitfieldField32Write 0 configinBufferField (buf.id.setWidth 32)
  let configInVal := bitfieldField32Write configInVal configinSizeField (buf.offset.setWidth 32)
  mmioRegionWrite32 (configInRegOffset endpoint) configInVal
  let configInVal := bitfieldBit32Write configInVal configinRdyBit true
  mmioRegionWrite32 (configInRegOffset endpoint) configInVal
  return (.kDifOk, { buf with type := .kDifUsbdevBufferTypeStale })

/-- `dif_usbdev_clear_tx_status` -/
def difUsbdevClearTxStatus (usbdev bufferPool : Pointer) (pool : BufferPool)
    (endpoint : BitVec 8) : Mmio (DifResult × BufferPool) := do
  if usbdev = .null ∨ bufferPool = .null ∨ !isValidEndpoint endpoint then
    return (.kDifBadArg, pool)
  let configInRegVal <- mmioRegionRead32 (configInRegOffset endpoint)
  let buffer : BitVec 8 := (bitfieldField32Read configInRegVal configinBufferField).setWidth 8
  mmioRegionWrite32 (configInRegOffset endpoint) (1#32 <<< configinPendBit)
  mmioRegionWrite32 inSentRegOffset (1#32 <<< endpoint.toNat)
  match bufferPoolAdd pool buffer with
  | none => return (.kDifError, pool)
  | some pool => return (.kDifOk, pool)

end Usbdev
end SunburstChip
