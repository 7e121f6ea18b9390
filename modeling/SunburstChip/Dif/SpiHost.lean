import SunburstChip.Dif.Base

namespace SunburstChip
namespace SpiHost

open Mmio

/-!
# The SPI host and its transactions

The transaction functions of `dif_spi_host.c`.  The controller behind them is
seen through what it is told, which is recorded in order, and through the two
registers software reads from it, which it may change at any moment: no
particular rate at which it accepts commands or moves data is assumed.

Buffers are addresses into a memory that the transmit side reads.  The
receive side reports the bytes it stores, in order, with their addresses.
-/

/-! ## The controller -/

/-- One access to `TXDATA`. -/
inductive TxData where
  | byte (value : BitVec 8)
  | word (value : BitVec 32)
  deriving DecidableEq

/-- The controller as software sees it. -/
structure Controller where
  status : BitVec 32
  /-- The word at the head of the receive FIFO. -/
  rxData : BitVec 32
  csid : BitVec 32
  /-- The words written to `COMMAND`, oldest first. -/
  commands : List (BitVec 32)
  /-- What was written to `TXDATA`, oldest first. -/
  txData : List TxData
  deriving DecidableEq

abbrev statusRegOffset : Nat := 0x14
abbrev statusTxqdField : BitfieldField32 := ⟨0xff, 0⟩
abbrev statusRxqdField : BitfieldField32 := ⟨0xff, 8⟩
abbrev statusReadyBit : Nat := 31
abbrev csidRegOffset : Nat := 0x1c
abbrev commandRegOffset : Nat := 0x20
abbrev commandCsaatBit : Nat := 0
abbrev commandSpeedField : BitfieldField32 := ⟨0x3, 1⟩
abbrev commandDirectionField : BitfieldField32 := ⟨0x3, 3⟩
abbrev commandLenField : BitfieldField32 := ⟨0xfffff, 5⟩
abbrev rxdataRegOffset : Nat := 0x24
abbrev txdataRegOffset : Nat := 0x28
abbrev paramTxDepth : BitVec 32 := 72

/-- The registers a transaction uses. -/
def device : Device Controller where
  read32 offset controller :=
    match offset with
    | 0x14 => (controller.status, controller)
    | 0x24 => (controller.rxData, controller)
    | _ => (0, controller)
  write32 offset value controller :=
    match offset with
    | 0x1c => { controller with csid := value }
    | 0x20 => { controller with commands := controller.commands ++ [value] }
    | 0x28 => { controller with txData := controller.txData ++ [.word value] }
    | _ => controller
  write8 offset value controller :=
    match offset with
    | 0x28 => { controller with txData := controller.txData ++ [.byte value] }
    | _ => controller

/-- The controller makes progress of some kind. -/
def Hardware (controller controller' : Controller) : Prop :=
  Exists fun status => Exists fun rxData =>
    controller' = { controller with status := status, rxData := rxData }

/-! ## Segments -/

/-- `dif_spi_host_width_t` -/
inductive Width where
  | kDifSpiHostWidthStandard
  | kDifSpiHostWidthDual
  | kDifSpiHostWidthQuad
  deriving DecidableEq

def Width.toWord : Width -> BitVec 32
  | .kDifSpiHostWidthStandard => 0
  | .kDifSpiHostWidthDual => 1
  | .kDifSpiHostWidthQuad => 2

/-- `dif_spi_host_direction_t` -/
inductive Direction where
  | kDifSpiHostDirectionDummy
  | kDifSpiHostDirectionRx
  | kDifSpiHostDirectionTx
  | kDifSpiHostDirectionBidirectional
  deriving DecidableEq

def Direction.toWord : Direction -> BitVec 32
  | .kDifSpiHostDirectionDummy => 0
  | .kDifSpiHostDirectionRx => 1
  | .kDifSpiHostDirectionTx => 2
  | .kDifSpiHostDirectionBidirectional => 3

/-- `dif_spi_host_addr_mode_t` -/
inductive AddrMode where
  | kDifSpiHostAddrMode3b
  | kDifSpiHostAddrMode4b
  deriving DecidableEq

/-- `dif_spi_host_segment_t`, one case a segment type, and one more for a tag
that is none of them. -/
inductive Segment where
  | opcode (width : Width) (opcode : BitVec 8)
  | address (width : Width) (mode : AddrMode) (address : BitVec 32)
  | dummy (width : Width) (length : BitVec 32)
  | tx (width : Width) (buf : BitVec 32) (length : BitVec 32)
  | rx (width : Width) (buf : BitVec 32) (length : BitVec 32)
  | bidir (width : Width) (txbuf rxbuf : BitVec 32) (length : BitVec 32)
  | other
  deriving DecidableEq

/-! ## The FIFOs -/

/-- Memory as the transmit side reads it. -/
abbrev Memory := BitVec 32 -> BitVec 8

/-- The bytes stored, in order, with their addresses. -/
abbrev Stores := List (BitVec 32 × BitVec 8)

/-- `misalignment32_of` -/
def misalignment32Of (addr : BitVec 32) : Nat := addr.toNat % 4

/-- `read_32`, of a little-endian word. -/
def read32 (memory : Memory) (ptr : BitVec 32) : BitVec 32 :=
  memory (ptr + 3) ++ memory (ptr + 2) ++ memory (ptr + 1) ++ memory ptr

/-- `wait_ready` -/
def waitReady : Mmio Unit := do
  let _ <- pollUntil statusRegOffset (fun reg => bitfieldBit32Read reg statusReadyBit)

/-- `wait_tx_fifo` -/
def waitTxFifo : Mmio Unit := do
  let _ <- pollUntil statusRegOffset
    (fun reg => bitfieldField32Read reg statusTxqdField != paramTxDepth)

/-- `wait_rx_fifo` -/
def waitRxFifo : Mmio Unit := do
  let _ <- pollUntil statusRegOffset (fun reg => bitfieldField32Read reg statusRxqdField != 0)

/-- `tx_fifo_write8` -/
def txFifoWrite8 (memory : Memory) (srcaddr : BitVec 32) : Mmio Unit := do
  waitTxFifo
  mmioRegionWrite8 txdataRegOffset (memory srcaddr)

/-- `tx_fifo_write32` -/
def txFifoWrite32 (memory : Memory) (srcaddr : BitVec 32) : Mmio Unit := do
  waitTxFifo
  mmioRegionWrite32 txdataRegOffset (read32 memory srcaddr)

/-- Write bytes until the pointer is aligned, then go on with what is left. -/
def writeUntilAligned (memory : Memory) : BitVec 32 -> Nat -> Mmio (BitVec 32 × Nat)
  | ptr, 0 => return (ptr, 0)
  | ptr, len + 1 =>
      if misalignment32Of ptr ≠ 0 then do
        txFifoWrite8 memory ptr
        writeUntilAligned memory (ptr + 1) len
      else return (ptr, len + 1)

/-- Write complete words, then go on with what is left. -/
def writeWords (memory : Memory) : BitVec 32 -> Nat -> Mmio (BitVec 32 × Nat)
  | ptr, len + 4 => do
      txFifoWrite32 memory ptr
      writeWords memory (ptr + 4) len
  | ptr, len => return (ptr, len)

/-- Write the leftover bytes. -/
def writeBytes (memory : Memory) : BitVec 32 -> Nat -> Mmio Unit
  | _, 0 => return ()
  | ptr, len + 1 => do
      txFifoWrite8 memory ptr
      writeBytes memory (ptr + 1) len

/-- `dif_spi_host_fifo_write` -/
def difSpiHostFifoWrite (spiHost : Pointer) (memory : Memory) (src : BitVec 32)
    (len : BitVec 16) : Mmio DifResult := do
  if spiHost = .null ∨ (src = 0 ∧ 0 < len) then
    return .kDifBadArg
  let (ptr, rest) <- writeUntilAligned memory src len.toNat
  let (ptr, rest) <- writeWords memory ptr rest
  writeBytes memory ptr rest
  return .kDifOk

/-- `queue_t`, whose eight bytes are kept as the little-endian word they form. -/
structure Queue where
  length : Nat
  data : BitVec 64
  deriving DecidableEq

/-- `enqueue_byte`, at an index inside the queue. -/
def enqueueByte (queue : Queue) (data : BitVec 8) : Queue where
  length := queue.length + 1
  data := (queue.data &&& ~~~(0xff#64 <<< (8 * queue.length))) |||
    (data.setWidth 64 <<< (8 * queue.length))

/-- `enqueue_word` -/
def enqueueWord (queue : Queue) (data : BitVec 32) : Queue :=
  if queue.length % 4 = 0 then
    { length := queue.length + 4
      data := (queue.data &&& ~~~(0xffffffff#64 <<< (8 * queue.length))) |||
        (data.setWidth 64 <<< (8 * queue.length)) }
  else
    let queue := enqueueByte queue (data.setWidth 8)
    let queue := enqueueByte queue ((data >>> 8).setWidth 8)
    let queue := enqueueByte queue ((data >>> 16).setWidth 8)
    enqueueByte queue ((data >>> 24).setWidth 8)

/-- `dequeue_byte` -/
def dequeueByte (queue : Queue) : BitVec 8 × Queue :=
  (queue.data.setWidth 8, ⟨queue.length - 1, queue.data >>> 8⟩)

/-- `dequeue_word`, which moves the upper word down and leaves it in place too. -/
def dequeueWord (queue : Queue) : BitVec 32 × Queue :=
  let upper : BitVec 32 := (queue.data >>> 32).setWidth 32
  (queue.data.setWidth 32, ⟨queue.length - 4, upper ++ upper⟩)

/-- Read a word into the queue if it holds fewer bytes than are needed. -/
def refill (needed : Nat) (queue : Queue) : Mmio Queue := do
  if queue.length < needed then
    waitRxFifo
    let word <- mmioRegionRead32 rxdataRegOffset
    return enqueueWord queue word
  else return queue

/-- Store bytes until the pointer is aligned, then go on with what is left. -/
def readUntilAligned : Queue -> BitVec 32 -> Nat -> Stores ->
    Mmio (Queue × BitVec 32 × Nat × Stores)
  | queue, ptr, 0, stores => return (queue, ptr, 0, stores)
  | queue, ptr, len + 1, stores =>
      if misalignment32Of ptr ≠ 0 then do
        let queue <- refill 1 queue
        let (byte, queue) := dequeueByte queue
        readUntilAligned queue (ptr + 1) len (stores ++ [(ptr, byte)])
      else return (queue, ptr, len + 1, stores)

/-- Store complete words, then go on with what is left. -/
def readWords : Queue -> BitVec 32 -> Nat -> Stores -> Mmio (Queue × BitVec 32 × Nat × Stores)
  | queue, ptr, len + 4, stores => do
      let queue <- refill 4 queue
      let (word, queue) := dequeueWord queue
      readWords queue (ptr + 4) len (stores ++
        [(ptr, word.setWidth 8), (ptr + 1, (word >>> 8).setWidth 8),
          (ptr + 2, (word >>> 16).setWidth 8), (ptr + 3, (word >>> 24).setWidth 8)])
  | queue, ptr, len, stores => return (queue, ptr, len, stores)

/-- Store the leftover bytes. -/
def readBytes : Queue -> BitVec 32 -> Nat -> Stores -> Mmio Stores
  | _, _, 0, stores => return stores
  | queue, ptr, len + 1, stores => do
      let queue <- refill 1 queue
      let (byte, queue) := dequeueByte queue
      readBytes queue (ptr + 1) len (stores ++ [(ptr, byte)])

/-- `dif_spi_host_fifo_read` -/
def difSpiHostFifoRead (spiHost : Pointer) (dst : BitVec 32) (len : BitVec 16) :
    Mmio (DifResult × Stores) := do
  if spiHost = .null ∨ (dst = 0 ∧ 0 < len) then
    return (.kDifBadArg, [])
  let (queue, ptr, rest, stores) <- readUntilAligned ⟨0, 0⟩ dst len.toNat []
  let (queue, ptr, rest, stores) <- readWords queue ptr rest stores
  let stores <- readBytes queue ptr rest stores
  return (.kDifOk, stores)

/-! ## Transactions -/

/-- The word `write_command_reg` writes.  The length is a `uint16_t` that is
promoted before one is subtracted from it. -/
def commandReg (length : BitVec 16) (speed : Width) (direction : Direction)
    (lastSegment : Bool) : BitVec 32 :=
  let reg := bitfieldField32Write 0 commandLenField (length.setWidth 32 - 1)
  let reg := bitfieldField32Write reg commandSpeedField speed.toWord
  let reg := bitfieldField32Write reg commandDirectionField direction.toWord
  bitfieldBit32Write reg commandCsaatBit (!lastSegment)

/-- `write_command_reg` -/
def writeCommandReg (length : BitVec 16) (speed : Width) (direction : Direction)
    (lastSegment : Bool) : Mmio Unit :=
  mmioRegionWrite32 commandRegOffset (commandReg length speed direction lastSegment)

/-- `bitfield_byteswap32` -/
def bitfieldByteswap32 (value : BitVec 32) : BitVec 32 :=
  value.extractLsb' 0 8 ++ value.extractLsb' 8 8 ++ value.extractLsb' 16 8 ++
    value.extractLsb' 24 8

/-- `issue_opcode` -/
def issueOpcode (width : Width) (opcode : BitVec 8) (lastSegment : Bool) : Mmio Unit := do
  waitTxFifo
  mmioRegionWrite8 txdataRegOffset opcode
  writeCommandReg 1 width .kDifSpiHostDirectionTx lastSegment

/-- `issue_address` -/
def issueAddress (width : Width) (mode : AddrMode) (address : BitVec 32) (lastSegment : Bool) :
    Mmio Unit := do
  waitTxFifo
  let address := bitfieldByteswap32 address
  match mode with
  | .kDifSpiHostAddrMode4b =>
      mmioRegionWrite32 txdataRegOffset address
      writeCommandReg 4 width .kDifSpiHostDirectionTx lastSegment
  | .kDifSpiHostAddrMode3b =>
      mmioRegionWrite32 txdataRegOffset (address >>> 8)
      writeCommandReg 3 width .kDifSpiHostDirectionTx lastSegment

/-- `issue_dummy` -/
def issueDummy (width : Width) (length : BitVec 32) (lastSegment : Bool) : Mmio Unit := do
  if 0 < length then
    writeCommandReg (length.setWidth 16) width .kDifSpiHostDirectionDummy lastSegment

/-- `issue_data_phase` -/
def issueDataPhase (memory : Memory) (segment : Segment) (lastSegment : Bool) :
    Mmio DifResult := do
  match segment with
  | .tx width buf length =>
      writeCommandReg (length.setWidth 16) width .kDifSpiHostDirectionTx lastSegment
      let _ <- difSpiHostFifoWrite .object memory buf (length.setWidth 16)
      return .kDifOk
  | .bidir width txbuf _ length =>
      writeCommandReg (length.setWidth 16) width .kDifSpiHostDirectionBidirectional lastSegment
      let _ <- difSpiHostFifoWrite .object memory txbuf (length.setWidth 16)
      return .kDifOk
  | .rx width _ length =>
      writeCommandReg (length.setWidth 16) width .kDifSpiHostDirectionRx lastSegment
      return .kDifOk
  | _ => return .kDifBadArg

/-- The body of the loop that issues the segments. -/
def issueSegment (memory : Memory) (segment : Segment) (lastSegment : Bool) :
    Mmio DifResult := do
  waitReady
  match segment with
  | .opcode width opcode =>
      issueOpcode width opcode lastSegment
      return .kDifOk
  | .address width mode address =>
      issueAddress width mode address lastSegment
      return .kDifOk
  | .dummy width length =>
      issueDummy width length lastSegment
      return .kDifOk
  | .tx .. | .rx .. | .bidir .. => issueDataPhase memory segment lastSegment
  | .other => return .kDifBadArg

/-- The loop that issues the segments from index `i` on, `length` in all. -/
def issueSegments (memory : Memory) (length : Nat) : Nat -> List Segment -> Mmio DifResult
  | _, [] => return .kDifOk
  | i, segment :: rest => do
      let error <- issueSegment memory segment (i == length - 1)
      if error ≠ .kDifOk then
        return error
      issueSegments memory length (i + 1) rest

/-- The body of the loop that reads back what the segments received. -/
def receiveSegment : Segment -> Mmio Stores
  | .rx _ buf length => do
      let reply <- difSpiHostFifoRead .object buf (length.setWidth 16)
      return reply.2
  | .bidir _ _ rxbuf length => do
      let reply <- difSpiHostFifoRead .object rxbuf (length.setWidth 16)
      return reply.2
  | _ => return []

/-- The loop that reads back what the segments received. -/
def receiveSegments : List Segment -> Mmio Stores
  | [] => return []
  | segment :: rest => do
      let stores <- receiveSegment segment
      let later <- receiveSegments rest
      return stores ++ later

/-- `dif_spi_host_transaction` -/
def difSpiHostTransaction (memory : Memory) (csid : BitVec 32) (segments : List Segment) :
    Mmio (DifResult × Stores) := do
  mmioRegionWrite32 csidRegOffset csid
  let error <- issueSegments memory segments.length 0 segments
  if error ≠ .kDifOk then
    return (error, [])
  let stores <- receiveSegments segments
  return (.kDifOk, stores)

end SpiHost
end SunburstChip
