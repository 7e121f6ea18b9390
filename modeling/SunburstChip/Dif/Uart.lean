import SunburstChip.Dif.Base

namespace SunburstChip
namespace Uart

open Mmio

/-!
# The UART

The functions of `dif_uart.c` and `dif_uart_autogen.c` that the console uses,
over a UART with its two FIFOs.  A write to a transmit FIFO that is full is
lost without a trace, so what was accepted and what was lost is recorded, with
the part of the software that wrote it.

The receive watermark is a status interrupt: its bit of `INTR_STATE` is the
comparison of the level with the configured watermark, and cannot be cleared.
-/

/-! ## The device -/

/-- Who writes to `WDATA`. -/
inductive Writer where
  | output
  | flowControl
  deriving DecidableEq

structure State where
  intrEnable : BitVec 32
  /-- The latched event bits of `INTR_STATE`. -/
  intrEvents : BitVec 32
  fifoCtrl : BitVec 32
  /-- The transmit FIFO, oldest byte first. -/
  tx : List (BitVec 8)
  /-- A byte taken from the transmit FIFO is being sent. -/
  sending : Bool
  /-- The receive FIFO, oldest byte first. -/
  rx : List (BitVec 8)
  /-- The writes to `WDATA` that the transmit FIFO had room for, oldest first. -/
  accepted : List (Writer × BitVec 8)
  /-- Those it had no room for. -/
  lost : List (Writer × BitVec 8)
  deriving DecidableEq

abbrev intrStateRegOffset : Nat := 0x0
abbrev intrEnableRegOffset : Nat := 0x4
abbrev statusRegOffset : Nat := 0x14
abbrev statusTxfullBit : Nat := 0
abbrev statusTxidleBit : Nat := 3
abbrev statusRxemptyBit : Nat := 5
abbrev rdataRegOffset : Nat := 0x18
abbrev rdataRdataField : BitfieldField32 := ⟨0xff, 0⟩
abbrev wdataRegOffset : Nat := 0x1c
abbrev wdataWdataField : BitfieldField32 := ⟨0xff, 0⟩
abbrev fifoCtrlRegOffset : Nat := 0x20
abbrev fifoCtrlRxilvlField : BitfieldField32 := ⟨0x7, 2⟩
abbrev fifoStatusRegOffset : Nat := 0x24
abbrev fifoStatusRxlvlField : BitfieldField32 := ⟨0xff, 16⟩

/-- `kDifUartFifoSizeBytes` -/
abbrev kDifUartFifoSizeBytes : Nat := 32

/-- The depth of the receive FIFO. -/
abbrev rxFifoDepth : Nat := 64

/-- The level that the value of `RXILVL` stands for. -/
def watermarkLevel : Nat -> Nat
  | 0 => 1
  | 1 => 2
  | 2 => 4
  | 3 => 8
  | 4 => 16
  | 5 => 32
  | _ => 62

/-- `kDifUartIrqRxWatermark`, as a bit of the interrupt registers. -/
abbrev intrCommonRxWatermarkBit : Nat := 1

namespace State

def rxWatermark (uart : State) : Nat :=
  watermarkLevel (bitfieldField32Read uart.fifoCtrl fifoCtrlRxilvlField).toNat

def intrState (uart : State) : BitVec 32 :=
  bitfieldBit32Write uart.intrEvents intrCommonRxWatermarkBit
    (decide (uart.rxWatermark <= uart.rx.length))

def status (uart : State) : BitVec 32 :=
  let reg := bitfieldBit32Write 0 statusTxfullBit (decide (kDifUartFifoSizeBytes <= uart.tx.length))
  let reg := bitfieldBit32Write reg statusTxidleBit (uart.tx.isEmpty && !uart.sending)
  bitfieldBit32Write reg statusRxemptyBit uart.rx.isEmpty

def fifoStatus (uart : State) : BitVec 32 :=
  bitfieldField32Write (BitVec.ofNat 32 uart.tx.length) fifoStatusRxlvlField
    (BitVec.ofNat 32 uart.rx.length)

/-- The transmit FIFO has room for a byte. -/
def HasRoom (uart : State) : Prop := uart.tx.length < kDifUartFifoSizeBytes

instance (uart : State) : Decidable uart.HasRoom :=
  inferInstanceAs (Decidable (_ < _))

/-- A write to `WDATA`. -/
def send (writer : Writer) (byte : BitVec 8) (uart : State) : State :=
  if uart.HasRoom then
    { uart with tx := uart.tx ++ [byte], accepted := uart.accepted ++ [(writer, byte)] }
  else { uart with lost := uart.lost ++ [(writer, byte)] }

end State

/-- The registers of the UART, as accessed by a part of the software. -/
def device (writer : Writer) : Device State where
  read32 offset uart :=
    match offset with
    | 0x0 => (uart.intrState, uart)
    | 0x4 => (uart.intrEnable, uart)
    | 0x14 => (uart.status, uart)
    | 0x18 => ((uart.rx.headD 0).setWidth 32, { uart with rx := uart.rx.tail })
    | 0x20 => (uart.fifoCtrl, uart)
    | 0x24 => (uart.fifoStatus, uart)
    | _ => (0, uart)
  write32 offset value uart :=
    match offset with
    | 0x0 => { uart with intrEvents := uart.intrEvents &&& ~~~value }
    | 0x4 => { uart with intrEnable := value }
    | 0x1c => uart.send writer (value.setWidth 8)
    | 0x20 => { uart with fifoCtrl := value }
    | _ => uart
  write8 _ _ uart := uart

/-- What the UART does by itself: it takes a byte from the transmit FIFO,
finishes sending one, receives one, or records an event. -/
inductive Hardware : State -> State -> Prop where
  | transmit (uart : State) (byte : BitVec 8) (rest : List (BitVec 8))
      (queued : uart.tx = byte :: rest) :
      Hardware uart { uart with tx := rest, sending := true }
  | sent (uart : State) : Hardware uart { uart with sending := false }
  | receive (uart : State) (byte : BitVec 8) (room : uart.rx.length < rxFifoDepth) :
      Hardware uart { uart with rx := uart.rx ++ [byte] }
  | event (uart : State) (intrEvents : BitVec 32) :
      Hardware uart { uart with intrEvents := intrEvents }

/-! ## Sending and receiving -/

/-- `uart_tx_full` -/
def uartTxFull : Mmio Bool := do
  let reg <- mmioRegionRead32 statusRegOffset
  return bitfieldBit32Read reg statusTxfullBit

/-- `uart_rx_empty` -/
def uartRxEmpty : Mmio Bool := do
  let reg <- mmioRegionRead32 statusRegOffset
  return bitfieldBit32Read reg statusRxemptyBit

/-- `uart_rx_fifo_read` -/
def uartRxFifoRead : Mmio (BitVec 8) := do
  let reg <- mmioRegionRead32 rdataRegOffset
  return (bitfieldField32Read reg rdataRdataField).setWidth 8

/-- `uart_tx_fifo_write` -/
def uartTxFifoWrite (byte : BitVec 8) : Mmio Unit :=
  mmioRegionWrite32 wdataRegOffset (bitfieldField32Write 0 wdataWdataField (byte.setWidth 32))

/-- `uart_bytes_send`, returning how many bytes were written. -/
def uartBytesSend : List (BitVec 8) -> Mmio Nat
  | [] => return 0
  | byte :: rest => do
      let full <- uartTxFull
      if full then
        return 0
      uartTxFifoWrite byte
      let bytesWritten <- uartBytesSend rest
      return bytesWritten + 1

/-- `uart_bytes_receive`, returning the bytes read. -/
def uartBytesReceive : Nat -> Mmio (List (BitVec 8))
  | 0 => return []
  | bytesRequested + 1 => do
      let empty <- uartRxEmpty
      if empty then
        return []
      let byte <- uartRxFifoRead
      let rest <- uartBytesReceive bytesRequested
      return byte :: rest

/-- `dif_uart_bytes_send`, with the number of bytes written, which the caller
may not ask for. -/
def difUartBytesSend (uart : Pointer) (data : List (BitVec 8)) : Mmio (DifResult × Nat) := do
  if uart = .null then
    return (.kDifBadArg, 0)
  let res <- uartBytesSend data
  return (.kDifOk, res)

/-- `dif_uart_byte_send_polled` -/
def difUartByteSendPolled (uart : Pointer) (byte : BitVec 8) : Mmio DifResult := do
  if uart = .null then
    return .kDifBadArg
  let _ <- pollUntil statusRegOffset (fun reg => !bitfieldBit32Read reg statusTxfullBit)
  let _ <- uartBytesSend [byte]
  let _ <- pollUntil statusRegOffset (fun reg => bitfieldBit32Read reg statusTxidleBit)
  return .kDifOk

/-- `dif_uart_byte_receive_polled`.  The byte keeps what it was if nothing is
received. -/
def difUartByteReceivePolled (uart : Pointer) (byte : BitVec 8) :
    Mmio (DifResult × BitVec 8) := do
  if uart = .null then
    return (.kDifBadArg, byte)
  let _ <- pollUntil statusRegOffset (fun reg => !bitfieldBit32Read reg statusRxemptyBit)
  let received <- uartBytesReceive 1
  return (.kDifOk, received.headD byte)

/-- `dif_uart_rx_bytes_available` -/
def difUartRxBytesAvailable (uart : Pointer) : Mmio (DifResult × BitVec 32) := do
  if uart = .null then
    return (.kDifBadArg, 0)
  let reg <- mmioRegionRead32 fifoStatusRegOffset
  return (.kDifOk, bitfieldField32Read reg fifoStatusRxlvlField)

/-- `dif_uart_watermark_t` -/
inductive DifUartWatermark where
  | kDifUartWatermarkByte1
  | kDifUartWatermarkByte2
  | kDifUartWatermarkByte4
  | kDifUartWatermarkByte8
  | kDifUartWatermarkByte16
  | kDifUartWatermarkByte32
  | kDifUartWatermarkByte62
  deriving DecidableEq

/-- The value of `RXILVL` for a watermark. -/
def DifUartWatermark.rxilvl : DifUartWatermark -> BitVec 32
  | .kDifUartWatermarkByte1 => 0
  | .kDifUartWatermarkByte2 => 1
  | .kDifUartWatermarkByte4 => 2
  | .kDifUartWatermarkByte8 => 3
  | .kDifUartWatermarkByte16 => 4
  | .kDifUartWatermarkByte32 => 5
  | .kDifUartWatermarkByte62 => 6

/-- `dif_uart_watermark_rx_set` -/
def difUartWatermarkRxSet (uart : Pointer) (watermark : DifUartWatermark) : Mmio DifResult := do
  if uart = .null then
    return .kDifBadArg
  let reg <- mmioRegionRead32 fifoCtrlRegOffset
  mmioRegionWrite32 fifoCtrlRegOffset
    (bitfieldField32Write reg fifoCtrlRxilvlField watermark.rxilvl)
  return .kDifOk

/-! ## Interrupts -/

/-- `dif_uart_irq_t` -/
inductive DifUartIrq where
  | kDifUartIrqTxWatermark
  | kDifUartIrqRxWatermark
  | kDifUartIrqTxDone
  | kDifUartIrqRxOverflow
  | kDifUartIrqRxFrameErr
  | kDifUartIrqRxBreakErr
  | kDifUartIrqRxTimeout
  | kDifUartIrqRxParityErr
  | kDifUartIrqTxEmpty
  deriving DecidableEq

/-- `uart_get_irq_bit_index` -/
def uartGetIrqBitIndex : DifUartIrq -> Nat
  | .kDifUartIrqTxWatermark => 0
  | .kDifUartIrqRxWatermark => intrCommonRxWatermarkBit
  | .kDifUartIrqTxDone => 2
  | .kDifUartIrqRxOverflow => 3
  | .kDifUartIrqRxFrameErr => 4
  | .kDifUartIrqRxBreakErr => 5
  | .kDifUartIrqRxTimeout => 6
  | .kDifUartIrqRxParityErr => 7
  | .kDifUartIrqTxEmpty => 8

/-- `dif_uart_irq_is_pending` -/
def difUartIrqIsPending (uart : Pointer) (irq : DifUartIrq) : Mmio (DifResult × Bool) := do
  if uart = .null then
    return (.kDifBadArg, false)
  let intrStateReg <- mmioRegionRead32 intrStateRegOffset
  return (.kDifOk, bitfieldBit32Read intrStateReg (uartGetIrqBitIndex irq))

/-- `dif_uart_irq_acknowledge` -/
def difUartIrqAcknowledge (uart : Pointer) (irq : DifUartIrq) : Mmio DifResult := do
  if uart = .null then
    return .kDifBadArg
  mmioRegionWrite32 intrStateRegOffset (bitfieldBit32Write 0 (uartGetIrqBitIndex irq) true)
  return .kDifOk

/-- `dif_uart_irq_set_enabled` -/
def difUartIrqSetEnabled (uart : Pointer) (irq : DifUartIrq) (state : DifToggle) :
    Mmio DifResult := do
  if uart = .null then
    return .kDifBadArg
  let intrEnableReg <- mmioRegionRead32 intrEnableRegOffset
  let enableBit := state == kDifToggleEnabled
  mmioRegionWrite32 intrEnableRegOffset
    (bitfieldBit32Write intrEnableReg (uartGetIrqBitIndex irq) enableBit)
  return .kDifOk

/-- `dif_uart_irq_disable_all`, with the snapshot it passes to the caller. -/
def difUartIrqDisableAll (uart : Pointer) : Mmio (DifResult × BitVec 32) := do
  if uart = .null then
    return (.kDifBadArg, 0)
  let snapshot <- mmioRegionRead32 intrEnableRegOffset
  mmioRegionWrite32 intrEnableRegOffset 0
  return (.kDifOk, snapshot)

/-- `dif_uart_irq_restore_all` -/
def difUartIrqRestoreAll (uart : Pointer) (snapshot : BitVec 32) : Mmio DifResult := do
  if uart = .null then
    return .kDifBadArg
  mmioRegionWrite32 intrEnableRegOffset snapshot
  return .kDifOk

/-! ## What the registers read as -/

theorem txfull_status (uart : State) :
    bitfieldBit32Read uart.status statusTxfullBit = true ↔ ¬ uart.HasRoom := by
  unfold State.status bitfieldBit32Read bitfieldBit32Write
  rw [bitfieldField32Read_write_other (by decide), bitfieldField32Read_write_other (by decide)]
  have read := bitfieldBit32Read_write_same (show statusTxfullBit < 32 by decide) 0
    (decide (kDifUartFifoSizeBytes <= uart.tx.length))
  unfold bitfieldBit32Read bitfieldBit32Write at read
  rw [read, decide_eq_true_iff]
  exact Nat.not_lt.symm

theorem rxlvl_fifoStatus {uart : State} (fits : uart.rx.length <= 64) :
    (bitfieldField32Read uart.fifoStatus fifoStatusRxlvlField).toNat = uart.rx.length := by
  unfold State.fifoStatus
  rw [bitfieldField32Read_write_same (by decide),
    toNat_and_mask (show fifoStatusRxlvlField.mask.toNat = 2 ^ 8 - 1 from rfl),
    BitVec.toNat_ofNat]
  omega

theorem rxWatermark_intrState (uart : State) :
    bitfieldBit32Read uart.intrState intrCommonRxWatermarkBit =
      decide (uart.rxWatermark <= uart.rx.length) :=
  bitfieldBit32Read_write_same (by decide) _ _

/-! ## What hardware leaves alone -/

theorem Hardware.accepted_eq {uart uart' : State} (move : Hardware uart uart') :
    uart'.accepted = uart.accepted := by
  cases move <;> rfl

theorem Hardware.lost_eq {uart uart' : State} (move : Hardware uart uart') :
    uart'.lost = uart.lost := by
  cases move <;> rfl

/-- The transmit FIFO only drains. -/
theorem Hardware.hasRoom {uart uart' : State} (move : Hardware uart uart')
    (room : uart.HasRoom) : uart'.HasRoom := by
  cases move with
  | transmit byte rest queued =>
      unfold State.HasRoom at room
      rw [queued, List.length_cons] at room
      exact Nat.lt_of_succ_lt room
  | sent | receive | event => exact room

theorem send_accepted {uart : State} (room : uart.HasRoom) (writer : Writer) (byte : BitVec 8) :
    uart.send writer byte =
      { uart with tx := uart.tx ++ [byte], accepted := uart.accepted ++ [(writer, byte)] } :=
  if_pos room

/-- The word that `uart_tx_fifo_write` writes. -/
def wdata (byte : BitVec 8) : BitVec 32 :=
  bitfieldField32Write 0 wdataWdataField (byte.setWidth 32)

theorem wdata_byte (byte : BitVec 8) : (wdata byte).setWidth 8 = byte := by
  apply BitVec.eq_of_getLsbD_eq
  intro i inside
  have mask : (255 : BitVec 32).getLsbD i = true := by
    have all : forall j : Fin 8, (255 : BitVec 32).getLsbD j = true := by decide
    exact all ⟨i, inside⟩
  have zero : (0 : BitVec 32).getLsbD i = false := BitVec.getLsbD_zero
  simp only [wdata, bitfieldField32Write, BitVec.getLsbD_setWidth, BitVec.getLsbD_or,
    BitVec.getLsbD_and, BitVec.shiftLeft_zero, inside, decide_true, Bool.true_and]
  rw [mask, zero, decide_eq_true (Nat.lt_trans inside (by decide : 8 < 32)), Bool.false_and,
    Bool.false_or, Bool.true_and, Bool.and_true]

end Uart
end SunburstChip
