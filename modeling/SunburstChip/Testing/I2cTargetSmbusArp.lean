import Mathlib.Logic.Function.Iterate
import SunburstChip.Dif.I2c
import SunburstChip.Testing.Base

namespace SunburstChip
namespace SmbusArp

open Mmio I2c

/-!
# An SMBus target with an assigned address

The state machine of `i2c_target_smbus_arp_test.c`.  A controller assigns an
address to the target by the SMBus Address Resolution Protocol, and afterwards
writes and reads a message at that address.  The machine takes one step when an
interrupt has told it that the hardware waits, and each state has a function of
its own for it.
-/

/-! ## Packet error codes -/

/-- One bit of a CRC-8 with the polynomial `x^8 + x^2 + x + 1`. -/
def crc8Shift (crc : BitVec 8) : BitVec 8 :=
  if crc.getMsbD 0 then (crc <<< 1) ^^^ 0x07 else crc <<< 1

/-- One more byte. -/
def crc8Add (crc byte : BitVec 8) : BitVec 8 := crc8Shift^[8] (crc ^^^ byte)

/-- The CRC-8 of some bytes. -/
def crc8 (bytes : List (BitVec 8)) : BitVec 8 := bytes.foldl crc8Add 0

/-- `pec_lut` -/
def pecLut : List (BitVec 8) :=
  [0x00, 0x07, 0x0e, 0x09, 0x1c, 0x1b, 0x12, 0x15, 0x38, 0x3f, 0x36, 0x31, 0x24, 0x23, 0x2a, 0x2d,
    0x70, 0x77, 0x7e, 0x79, 0x6c, 0x6b, 0x62, 0x65, 0x48, 0x4f, 0x46, 0x41, 0x54, 0x53, 0x5a, 0x5d,
    0xe0, 0xe7, 0xee, 0xe9, 0xfc, 0xfb, 0xf2, 0xf5, 0xd8, 0xdf, 0xd6, 0xd1, 0xc4, 0xc3, 0xca, 0xcd,
    0x90, 0x97, 0x9e, 0x99, 0x8c, 0x8b, 0x82, 0x85, 0xa8, 0xaf, 0xa6, 0xa1, 0xb4, 0xb3, 0xba, 0xbd,
    0xc7, 0xc0, 0xc9, 0xce, 0xdb, 0xdc, 0xd5, 0xd2, 0xff, 0xf8, 0xf1, 0xf6, 0xe3, 0xe4, 0xed, 0xea,
    0xb7, 0xb0, 0xb9, 0xbe, 0xab, 0xac, 0xa5, 0xa2, 0x8f, 0x88, 0x81, 0x86, 0x93, 0x94, 0x9d, 0x9a,
    0x27, 0x20, 0x29, 0x2e, 0x3b, 0x3c, 0x35, 0x32, 0x1f, 0x18, 0x11, 0x16, 0x03, 0x04, 0x0d, 0x0a,
    0x57, 0x50, 0x59, 0x5e, 0x4b, 0x4c, 0x45, 0x42, 0x6f, 0x68, 0x61, 0x66, 0x73, 0x74, 0x7d, 0x7a,
    0x89, 0x8e, 0x87, 0x80, 0x95, 0x92, 0x9b, 0x9c, 0xb1, 0xb6, 0xbf, 0xb8, 0xad, 0xaa, 0xa3, 0xa4,
    0xf9, 0xfe, 0xf7, 0xf0, 0xe5, 0xe2, 0xeb, 0xec, 0xc1, 0xc6, 0xcf, 0xc8, 0xdd, 0xda, 0xd3, 0xd4,
    0x69, 0x6e, 0x67, 0x60, 0x75, 0x72, 0x7b, 0x7c, 0x51, 0x56, 0x5f, 0x58, 0x4d, 0x4a, 0x43, 0x44,
    0x19, 0x1e, 0x17, 0x10, 0x05, 0x02, 0x0b, 0x0c, 0x21, 0x26, 0x2f, 0x28, 0x3d, 0x3a, 0x33, 0x34,
    0x4e, 0x49, 0x40, 0x47, 0x52, 0x55, 0x5c, 0x5b, 0x76, 0x71, 0x78, 0x7f, 0x6a, 0x6d, 0x64, 0x63,
    0x3e, 0x39, 0x30, 0x37, 0x22, 0x25, 0x2c, 0x2b, 0x06, 0x01, 0x08, 0x0f, 0x1a, 0x1d, 0x14, 0x13,
    0xae, 0xa9, 0xa0, 0xa7, 0xb2, 0xb5, 0xbc, 0xbb, 0x96, 0x91, 0x98, 0x9f, 0x8a, 0x8d, 0x84, 0x83,
    0xde, 0xd9, 0xd0, 0xd7, 0xc2, 0xc5, 0xcc, 0xcb, 0xe6, 0xe1, 0xe8, 0xef, 0xfa, 0xfd, 0xf4, 0xf3]

/-- `calc_pec` -/
def calcPec (remainder next : BitVec 8) : BitVec 8 := pecLut.getD (remainder ^^^ next).toNat 0

/-- The table holds what eight steps of the CRC-8 make of each byte. -/
theorem pecLut_eq : pecLut = (List.range 256).map (fun i => crc8Shift^[8] (BitVec.ofNat 8 i)) := by
  decide +kernel

/-- The table computes the CRC-8. -/
theorem calcPec_eq (remainder next : BitVec 8) : calcPec remainder next = crc8Add remainder next := by
  have inside : (remainder ^^^ next).toNat < 256 := (remainder ^^^ next).isLt
  have entry : (List.range 256)[(remainder ^^^ next).toNat]? = some (remainder ^^^ next).toNat :=
    List.getElem?_range inside
  have byte : BitVec.ofNat 8 (remainder ^^^ next).toNat = remainder ^^^ next := by simp
  rw [calcPec, pecLut_eq, List.getD_eq_getElem?_getD, List.getElem?_map, entry]
  exact congrArg crc8Shift^[8] byte

/-- No bit of the CRC is lost. -/
theorem crc8Shift_eq_zero {crc : BitVec 8} (zero : crc8Shift crc = 0) : crc = 0 := by
  revert crc
  decide

/-- Adding the CRC itself makes it zero, and nothing else does. -/
theorem crc8Add_eq_zero {crc byte : BitVec 8} (zero : crc8Add crc byte = 0) : byte = crc := by
  have unshifted (n : Nat) (x : BitVec 8) (zero : crc8Shift^[n] x = 0) : x = 0 := by
    induction n generalizing x with
    | zero => exact zero
    | succ n ih => exact crc8Shift_eq_zero (ih _ zero)
  exact (BitVec.xor_eq_zero_iff.mp (unshifted 8 _ zero)).symm

/-! ## The static variables -/

/-- `i2c_state_t` -/
inductive I2cState where
  | kI2cStateIdle
  | kI2cStateArpPec
  | kI2cStateArpGetUdidWait
  | kI2cStateArpGetUdidTransmit
  | kI2cStateArpCheckUdid
  | kI2cStateMessageWait
  | kI2cStateMessageReceive
  | kI2cStateMessageTransmit
  | kI2cStateMessageFinish
  | kI2cStateAssignAddressComplete
  | kI2cStateTransactionNack
  deriving DecidableEq

abbrev kArpCmdPrepareToArp : BitVec 8 := 0x01
abbrev kArpCmdResetDevice : BitVec 8 := 0x02
abbrev kArpCmdGetUdid : BitVec 8 := 0x03
abbrev kArpCmdAssignAddress : BitVec 8 := 0x04

/-- `kSmbusArpId` -/
def kSmbusArpId : DifI2cId where
  address := 0x61
  mask := 0x7f

/-- The static variables.  `kSmbusUdid` and `kMessageAddr` are configured before
the machine is started. -/
structure Memory where
  kSmbusUdid : Vector (BitVec 8) 16
  kMessageAddr : BitVec 32
  runningPec : BitVec 8
  arpAv : Bool
  arpAr : Bool
  arpCmdPending : BitVec 8
  i2cId : DifI2cId
  i2cIrqEnables : BitVec 32
  i2cEvent : Bool
  state : I2cState
  message : Vector (BitVec 8) 32
  deriving DecidableEq

/-- Change the static variables. -/
def modify (change : Memory -> Memory) : Code Memory Failure Unit := do
  let memory <- Code.get
  Code.set (change memory)

/-! ## `TRY` of the device interface functions -/

def tryAcquireByte : Code Memory Failure (BitVec 8 × DifI2cSignal) := do
  let (result, entry) <- Code.lift (difI2cAcquireByte .object)
  tryDif result
  pure entry

def tryGetPendingAcqByte : Code Memory Failure (BitVec 8) := do
  let (result, data) <- Code.lift (difI2cGetPendingAcqByte .object)
  tryDif result
  pure data

/-- The level of the ACQ FIFO, which is the only one asked for. -/
def tryGetAcqFifoLevel : Code Memory Failure (BitVec 16) := do
  let (result, levels) <- Code.lift (difI2cGetFifoLevels .object)
  tryDif result
  pure ((levels.map FifoLevels.acqFifoLevel).getD 0)

def tryGetTargetTxHaltEvents : Code Memory Failure DifI2cTargetTxHaltEvents := do
  let (result, events) <- Code.lift (difI2cGetTargetTxHaltEvents .object)
  tryDif result
  pure (events.getD ⟨false, false, false⟩)

/-- `TRY` of a function that returns nothing else. -/
def tryLift (program : Mmio DifResult) : Code Memory Failure Unit := do
  let result <- Code.lift program
  tryDif result

def trySetAutoAckCount (count : BitVec 16) : Code Memory Failure Unit :=
  tryLift (difI2cSetAutoAckCount .object count)

def tryNackTransaction : Code Memory Failure Unit := tryLift (difI2cNackTransaction .object)

def tryIrqAcknowledge (irq : DifI2cIrq) : Code Memory Failure Unit :=
  tryLift (difI2cIrqAcknowledge .object irq)

def tryTransmitByte (byte : BitVec 8) : Code Memory Failure Unit :=
  tryLift (difI2cTransmitByte .object byte)

/-! ## New transactions -/

/-- An interrupt is pending in a snapshot. -/
def irqRead (irqSnapshot : BitVec 32) (irq : DifI2cIrq) : Bool :=
  bitfieldBit32Read irqSnapshot irq.index

/-- The value of a comparison. -/
def boolToInt (condition : Bool) : BitVec 32 := if condition then 1 else 0

/-- A branch of `process_new_command` that goes on with a command. -/
def acceptCommand (command : BitVec 8) (state : I2cState) (count : BitVec 16) :
    Code Memory Failure Unit := do
  modify ({ · with arpCmdPending := command, state := state })
  trySetAutoAckCount count

/-- A branch of `process_new_command` that refuses the transaction. -/
def nackCommand : Code Memory Failure Unit := do
  modify ({ · with state := .kI2cStateTransactionNack })
  tryNackTransaction

/-- The choice among the commands at the address of the protocol. -/
def chooseArpCommand (memory : Memory) (command : BitVec 8) : Code Memory Failure Unit :=
  if command == kArpCmdPrepareToArp then
    acceptCommand command .kI2cStateArpPec 2
  else if command == kArpCmdResetDevice then
    acceptCommand command .kI2cStateArpPec 2
  else if command == kArpCmdGetUdid then
    if memory.arpAr then
      nackCommand
    else
      acceptCommand command .kI2cStateArpGetUdidWait 1
  else if command == kArpCmdAssignAddress then
    acceptCommand command .kI2cStateArpCheckUdid 17
  -- The address is compared with 1 here and below, not shifted.
  else if command.setWidth 32 == (boolToInt (memory.i2cId.address < 1) ||| 0) then
    if memory.arpAv then
      acceptCommand kArpCmdResetDevice .kI2cStateArpPec 2
    else
      nackCommand
  else if command.setWidth 32 == (boolToInt (memory.i2cId.address < 1) ||| 1) then
    if memory.arpAv then
      acceptCommand kArpCmdGetUdid .kI2cStateArpGetUdidWait 1
    else
      nackCommand
  else
    nackCommand

/-- The branch of `process_new_command` for the address of the protocol. -/
def processArpCommand : Code Memory Failure Unit := do
  let command <- tryGetPendingAcqByte
  let memory <- Code.get
  chooseArpCommand memory command

/-- The branch of `process_new_command` for the assigned address. -/
def processMessageCommand : Code Memory Failure Unit := do
  let command <- tryGetPendingAcqByte
  let memory <- Code.get
  if command.setWidth 32 == (memory.kMessageAddr &&& 0xff) then do
    modify ({ · with state := .kI2cStateMessageWait })
    trySetAutoAckCount 1
  else
    nackCommand

/-- `process_new_command` -/
def processNewCommand (irqSnapshot : BitVec 32) (i2cStatus : DifI2cStatus) :
    Code Memory Failure Unit := do
  tryCheck (irqRead irqSnapshot .kDifI2cIrqAcqStretch)
  tryCheck (!i2cStatus.acqFifoEmpty)
  let (data, signal) <- tryAcquireByte
  tryCheck (signal == kDifI2cSignalStart)
  modify ({ · with runningPec := 0 })
  tryCheck (data &&& 1 == 0)
  tryCheck i2cStatus.ackCtrlStretch
  let memory <- Code.get
  if data >>> 1 == kSmbusArpId.address then
    processArpCommand
  else if memory.arpAv && data >>> 1 == memory.i2cId.address then
    processMessageCommand
  else
    tryCheck false

/-! ## Commands of the protocol -/

/-- Take an entry that has to have a signal. -/
def acquireSignalled (expected : DifI2cSignal) : Code Memory Failure (BitVec 8) := do
  let (data, signal) <- tryAcquireByte
  tryCheck (signal == expected)
  pure data

/-- Take a byte that is part of the packet error code. -/
def acquirePec : Code Memory Failure (BitVec 8) := do
  let data <- acquireSignalled kDifI2cSignalNone
  modify (fun memory => { memory with runningPec := calcPec memory.runningPec data })
  pure data

/-- What `check_arp_pec` does for both commands that consist of a command byte
and a packet error code. -/
def checkShortCommand (irqSnapshot : BitVec 32) (i2cStatus : DifI2cStatus) :
    Code Memory Failure Unit := do
  tryCheck (irqRead irqSnapshot .kDifI2cIrqCmdComplete)
  tryCheck (!i2cStatus.acqFifoEmpty)
  let acqFifoLevel <- tryGetAcqFifoLevel
  tryCheck (decide (acqFifoLevel ≥ 3))
  let (data, signal) <- tryAcquireByte
  tryCheck (signal == kDifI2cSignalNone)
  let memory <- Code.get
  tryCheck (data == memory.arpCmdPending)
  modify (fun memory => { memory with runningPec := calcPec memory.runningPec data })
  let _ <- acquirePec
  let _ <- acquireSignalled kDifI2cSignalStop
  tryIrqAcknowledge .kDifI2cIrqCmdComplete
  modify ({ · with arpCmdPending := 0, state := .kI2cStateIdle })
  let memory <- Code.get
  tryCheck (memory.runningPec == 0)

/-- The checks of `check_arp_pec` for Assign Address, and the address received. -/
def checkAssignment (irqSnapshot : BitVec 32) (i2cStatus : DifI2cStatus) :
    Code Memory Failure (BitVec 8) := do
  tryCheck (irqRead irqSnapshot .kDifI2cIrqAcqStretch)
  tryCheck i2cStatus.ackCtrlStretch
  tryCheck (!i2cStatus.acqFifoEmpty)
  let acqFifoLevel <- tryGetAcqFifoLevel
  tryCheck (decide (acqFifoLevel ≥ 2))
  let (data, signal) <- tryAcquireByte
  tryCheck (signal == kDifI2cSignalNone)
  let memory <- Code.get
  tryCheck (data == memory.kSmbusUdid[15])
  modify (fun memory => { memory with runningPec := calcPec memory.runningPec data })
  let newAddress <- acquirePec
  let data <- tryGetPendingAcqByte
  let memory <- Code.get
  tryCheck (memory.runningPec == data)
  pure newAddress

/-- The last byte of a UDID. -/
def udidLast (udid : Vector (BitVec 8) 16) : BitVec 8 := udid[15]

/-- What `check_arp_pec` does with an address that has passed the checks. -/
def commitAddress (newAddress : BitVec 8) : Code Memory Failure Unit := do
  modify (fun memory => { memory with i2cId.address := newAddress >>> 1 })
  let memory <- Code.get
  tryLift (difI2cSetDeviceId .object (some kSmbusArpId) (some memory.i2cId))
  modify ({ · with arpAr := true, arpAv := true, state := .kI2cStateAssignAddressComplete })
  trySetAutoAckCount 1

/-- `check_arp_pec` -/
def checkArpPec (irqSnapshot : BitVec 32) (i2cStatus : DifI2cStatus) :
    Code Memory Failure Unit := do
  let memory <- Code.get
  if memory.arpCmdPending = kArpCmdPrepareToArp then do
    checkShortCommand irqSnapshot i2cStatus
    modify ({ · with arpAr := false })
  else if memory.arpCmdPending = kArpCmdResetDevice then do
    checkShortCommand irqSnapshot i2cStatus
    modify ({ · with arpAr := false, arpAv := false })
  else if memory.arpCmdPending = kArpCmdAssignAddress then do
    let newAddress <- checkAssignment irqSnapshot i2cStatus
    commitAddress newAddress
  else
    tryCheck false

/-- The part of `prepare_udid_reply` that fills the TX FIFO. -/
def transmitUdid (txStretch : Bool) (i2cStatus : DifI2cStatus) : Code Memory Failure Unit := do
  tryCheck txStretch
  tryCheck i2cStatus.txFifoEmpty
  let events <- tryGetTargetTxHaltEvents
  tryCheck events.txPending
  tryCheck (!events.busTimeout)
  tryLift (difI2cClearTargetTxHaltEvents .object events)
  let data <- acquireSignalled kDifI2cSignalRepeat
  tryCheck (data.setWidth 32 == ((kSmbusArpId.address.setWidth 32 <<< 1) ||| 1))
  let memory <- Code.get
  tryTransmitByte (16 + 1)
  let pec <- memory.kSmbusUdid.toList.foldlM (fun pec byte => do
    tryTransmitByte byte
    pure (calcPec pec byte)) (calcPec 0 (16 + 1))
  let currentAddress := if memory.arpAv then (memory.i2cId.address <<< 1) ||| 1 else 0xff
  tryTransmitByte currentAddress
  let pec := calcPec pec currentAddress
  tryTransmitByte pec
  modify ({ · with state := .kI2cStateArpGetUdidTransmit })

/-- `prepare_udid_reply` -/
def prepareUdidReply (irqSnapshot : BitVec 32) (i2cStatus : DifI2cStatus) :
    Code Memory Failure Unit := do
  let memory <- Code.get
  tryCheck (memory.arpCmdPending == kArpCmdGetUdid)
  let cmdComplete := irqRead irqSnapshot .kDifI2cIrqCmdComplete
  let txStretch := irqRead irqSnapshot .kDifI2cIrqTxStretch
  if cmdComplete then do
    tryCheck (!i2cStatus.acqFifoEmpty)
    let data <- acquireSignalled kDifI2cSignalNone
    tryCheck (data.setWidth 32 == ((memory.i2cId.address.setWidth 32 <<< 1) ||| 1) ||
      data == kArpCmdGetUdid)
    tryIrqAcknowledge .kDifI2cIrqCmdComplete
    if !txStretch then
      pure ()
    else
      transmitUdid txStretch i2cStatus
  else
    transmitUdid txStretch i2cStatus

/-- `complete_get_udid` -/
def completeGetUdid (irqSnapshot : BitVec 32) (i2cStatus : DifI2cStatus) :
    Code Memory Failure Unit := do
  let memory <- Code.get
  tryCheck (memory.arpCmdPending == kArpCmdGetUdid)
  tryCheck (irqRead irqSnapshot .kDifI2cIrqCmdComplete)
  tryCheck (!i2cStatus.acqFifoEmpty)
  let _ <- acquireSignalled kDifI2cSignalStop
  let events <- tryGetTargetTxHaltEvents
  tryCheck (!events.txPending)
  tryCheck (!events.busTimeout)
  tryCheck (!events.arbitrationLost)
  tryIrqAcknowledge .kDifI2cIrqCmdComplete
  modify ({ · with arpCmdPending := 0, state := .kI2cStateIdle })

/-- The loop of `check_received_udid`: whether the bytes match so far. -/
def matchUdid (udidMatch : Bool) (expected : BitVec 8) : Code Memory Failure Bool := do
  let data <- acquirePec
  pure (udidMatch && data == expected)

/-- `check_received_udid` -/
def checkReceivedUdid (irqSnapshot : BitVec 32) (i2cStatus : DifI2cStatus) :
    Code Memory Failure Unit := do
  let memory <- Code.get
  tryCheck (memory.arpCmdPending == kArpCmdAssignAddress)
  tryCheck (irqRead irqSnapshot .kDifI2cIrqAcqStretch)
  tryCheck (!i2cStatus.acqFifoEmpty)
  let acqFifoLevel <- tryGetAcqFifoLevel
  tryCheck (decide (acqFifoLevel ≥ 17))
  let (data, signal) <- tryAcquireByte
  tryCheck (signal == kDifI2cSignalNone)
  tryCheck (data == memory.arpCmdPending)
  modify (fun memory => { memory with runningPec := calcPec memory.runningPec data })
  let (data, signal) <- tryAcquireByte
  tryCheck (signal == kDifI2cSignalNone)
  tryCheck (data == 17)
  modify (fun memory => { memory with runningPec := calcPec memory.runningPec data })
  let udidMatch <- (memory.kSmbusUdid.toList.take 15).foldlM matchUdid true
  let data <- tryGetPendingAcqByte
  if udidMatch && data == memory.kSmbusUdid[15] then do
    modify ({ · with state := .kI2cStateArpPec })
    trySetAutoAckCount 2
  else
    nackCommand

/-- `finish_assign_addr` -/
def finishAssignAddr (irqSnapshot : BitVec 32) (i2cStatus : DifI2cStatus) :
    Code Memory Failure Unit := do
  tryCheck (irqRead irqSnapshot .kDifI2cIrqCmdComplete)
  tryCheck (!i2cStatus.acqFifoEmpty)
  let _ <- acquireSignalled kDifI2cSignalNone
  let _ <- acquireSignalled kDifI2cSignalStop
  tryIrqAcknowledge .kDifI2cIrqCmdComplete
  modify ({ · with arpCmdPending := 0, state := .kI2cStateIdle })

/-- The loop of `finish_nack`: whether the end of the transaction is among so
many entries. -/
def drainNack : Nat -> Code Memory Failure Bool
  | 0 => pure false
  | left + 1 => do
      let (_, signal) <- tryAcquireByte
      if signal == kDifI2cSignalNackStop then
        pure true
      else
        drainNack left

/-- `finish_nack` -/
def finishNack (irqSnapshot : BitVec 32) (i2cStatus : DifI2cStatus) :
    Code Memory Failure Unit := do
  if irqRead irqSnapshot .kDifI2cIrqCmdComplete then
    tryIrqAcknowledge .kDifI2cIrqCmdComplete
  else
    pure ()
  let sawStop <-
    if !i2cStatus.acqFifoEmpty then do
      let acqFifoLevel <- tryGetAcqFifoLevel
      drainNack acqFifoLevel.toNat
    else
      pure false
  if !sawStop then
    tryLift (difI2cSetTargetWatermarks .object 0 0)
  else do
    tryLift (difI2cSetTargetWatermarks .object 0 paramAcqFifoDepth)
    modify ({ · with arpCmdPending := 0, state := .kI2cStateIdle })

/-! ## The message -/

/-- `message_cmd_dispatch` -/
def messageCmdDispatch (irqSnapshot : BitVec 32) (i2cStatus : DifI2cStatus) :
    Code Memory Failure Unit := do
  let acqStretch := irqRead irqSnapshot .kDifI2cIrqAcqStretch
  let cmdComplete := irqRead irqSnapshot .kDifI2cIrqCmdComplete
  let memory <- Code.get
  tryCheck (!i2cStatus.acqFifoEmpty)
  let data <- acquireSignalled kDifI2cSignalNone
  tryCheck (data == memory.kMessageAddr.setWidth 8)
  if acqStretch && !cmdComplete then do
    modify ({ · with state := .kI2cStateMessageReceive })
    trySetAutoAckCount 32
  else if cmdComplete then do
    tryIrqAcknowledge .kDifI2cIrqCmdComplete
    modify ({ · with state := .kI2cStateMessageTransmit })
  else
    tryCheck false

/-- The loop of `message_receive`. -/
def receiveByte (i : Fin 32) : Code Memory Failure Unit := do
  let data <- acquireSignalled kDifI2cSignalNone
  modify (fun memory => { memory with message := memory.message.set i data })

/-- `message_receive` -/
def messageReceive (irqSnapshot : BitVec 32) (i2cStatus : DifI2cStatus) :
    Code Memory Failure Unit := do
  tryCheck (!irqRead irqSnapshot .kDifI2cIrqAcqStretch)
  tryCheck (irqRead irqSnapshot .kDifI2cIrqCmdComplete)
  tryCheck (!i2cStatus.acqFifoEmpty)
  let acqFifoLevel <- tryGetAcqFifoLevel
  tryCheck (decide (acqFifoLevel ≥ 32 + 1))
  (List.finRange 32).foldlM (fun _ i => receiveByte i) ()
  let _ <- acquireSignalled kDifI2cSignalStop
  tryIrqAcknowledge .kDifI2cIrqCmdComplete
  modify ({ · with state := .kI2cStateIdle })

/-- `message_transmit` -/
def messageTransmit (irqSnapshot : BitVec 32) (i2cStatus : DifI2cStatus) :
    Code Memory Failure Unit := do
  tryCheck (irqRead irqSnapshot .kDifI2cIrqTxStretch)
  tryCheck i2cStatus.txFifoEmpty
  tryCheck (!i2cStatus.acqFifoEmpty)
  let data <- acquireSignalled kDifI2cSignalRepeat
  let memory <- Code.get
  tryCheck (data.setWidth 32 == ((memory.i2cId.address.setWidth 32 <<< 1) ||| 1))
  let events <- tryGetTargetTxHaltEvents
  tryCheck events.txPending
  tryCheck (!events.busTimeout)
  tryLift (difI2cClearTargetTxHaltEvents .object events)
  memory.message.toList.foldlM (fun _ byte => tryTransmitByte byte) ()
  modify ({ · with state := .kI2cStateMessageFinish })

/-- `message_finish` -/
def messageFinish (irqSnapshot : BitVec 32) (i2cStatus : DifI2cStatus) :
    Code Memory Failure Unit := do
  tryCheck (irqRead irqSnapshot .kDifI2cIrqCmdComplete)
  tryCheck (!i2cStatus.acqFifoEmpty)
  let _ <- acquireSignalled kDifI2cSignalStop
  tryIrqAcknowledge .kDifI2cIrqCmdComplete
  modify ({ · with state := .kI2cStateIdle })

/-! ## The machine -/

/-- `i2c_isr` -/
def i2cIsr (irq : DifI2cIrq) : Code Memory Failure Unit := do
  match irq with
  | .kDifI2cIrqAcqThreshold | .kDifI2cIrqCmdComplete | .kDifI2cIrqTxStretch
  | .kDifI2cIrqAcqStretch => modify ({ · with i2cEvent := true })
  | _ => check false
  let (result, enables) <- Code.lift (difI2cIrqDisableAll .object)
  checkDifOk result
  modify ({ · with i2cIrqEnables := enables })

/-- The `switch` of `smbus_arp_test`. -/
def handler (state : I2cState) (irqSnapshot : BitVec 32) (i2cStatus : DifI2cStatus) :
    Code Memory Failure Unit :=
  match state with
  | .kI2cStateIdle => processNewCommand irqSnapshot i2cStatus
  | .kI2cStateArpPec => checkArpPec irqSnapshot i2cStatus
  | .kI2cStateArpGetUdidWait => prepareUdidReply irqSnapshot i2cStatus
  | .kI2cStateArpGetUdidTransmit => completeGetUdid irqSnapshot i2cStatus
  | .kI2cStateArpCheckUdid => checkReceivedUdid irqSnapshot i2cStatus
  | .kI2cStateMessageWait => messageCmdDispatch irqSnapshot i2cStatus
  | .kI2cStateMessageReceive => messageReceive irqSnapshot i2cStatus
  | .kI2cStateMessageTransmit => messageTransmit irqSnapshot i2cStatus
  | .kI2cStateMessageFinish => messageFinish irqSnapshot i2cStatus
  | .kI2cStateAssignAddressComplete => finishAssignAddr irqSnapshot i2cStatus
  | .kI2cStateTransactionNack => finishNack irqSnapshot i2cStatus

/-- A round of the loop of `smbus_arp_test` from the end of the waiting to the
end of the `switch`: whether the message has been received. -/
def handleEvent : Code Memory Failure Bool := do
  modify ({ · with i2cEvent := false })
  let (result, irqSnapshot) <- Code.lift (difI2cIrqGetState .object)
  checkDifOk result
  let (result, i2cStatus) <- Code.lift (difI2cGetStatus .object)
  checkDifOk result
  let memory <- Code.get
  handler memory.state irqSnapshot (i2cStatus.getD (.ofRegs 0 0))
  pure (memory.state == .kI2cStateMessageFinish)

/-- The end of the round, which lets the interrupts in again. -/
def restoreInterrupts : Code Memory Failure Unit := do
  let memory <- Code.get
  let result <- Code.lift (difI2cIrqRestoreAll .object memory.i2cIrqEnables)
  checkDifOk result

end SmbusArp
end SunburstChip
