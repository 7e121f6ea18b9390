import SunburstChip.Dif.Base

namespace SunburstChip
namespace I2c

open Mmio

/-!
# The I2C target

The functions of `dif_i2c.c` and `dif_i2c_autogen.c` by which software answers
as an I2C target: it takes what a controller has written from the ACQ FIFO,
looks at the byte that waits for its acknowledgement, and puts replies in the
TX FIFO.  Which addresses the hardware answers to is up to `TARGET_ID`.
-/

/-! ## Registers -/

abbrev intrStateRegOffset : Nat := 0x0
abbrev intrEnableRegOffset : Nat := 0x4
abbrev ctrlRegOffset : Nat := 0x10
abbrev ctrlEnablehostBit : Nat := 0
abbrev ctrlEnabletargetBit : Nat := 1
abbrev ctrlLlpbkBit : Nat := 2
abbrev ctrlAckCtrlEnBit : Nat := 4
abbrev statusRegOffset : Nat := 0x14
abbrev statusFmtfullBit : Nat := 0
abbrev statusRxfullBit : Nat := 1
abbrev statusFmtemptyBit : Nat := 2
abbrev statusHostidleBit : Nat := 3
abbrev statusTargetidleBit : Nat := 4
abbrev statusRxemptyBit : Nat := 5
abbrev statusTxfullBit : Nat := 6
abbrev statusAcqfullBit : Nat := 7
abbrev statusTxemptyBit : Nat := 8
abbrev statusAcqemptyBit : Nat := 9
abbrev statusAckCtrlStretchBit : Nat := 10
abbrev targetFifoConfigRegOffset : Nat := 0x28
abbrev targetFifoConfigTxThreshField : BitfieldField32 := ⟨0xfff, 0⟩
abbrev targetFifoConfigAcqThreshField : BitfieldField32 := ⟨0xfff, 16⟩
abbrev hostFifoStatusRegOffset : Nat := 0x2c
abbrev hostFifoStatusFmtlvlField : BitfieldField32 := ⟨0xfff, 0⟩
abbrev hostFifoStatusRxlvlField : BitfieldField32 := ⟨0xfff, 16⟩
abbrev targetFifoStatusRegOffset : Nat := 0x30
abbrev targetFifoStatusTxlvlField : BitfieldField32 := ⟨0xfff, 0⟩
abbrev targetFifoStatusAcqlvlField : BitfieldField32 := ⟨0xfff, 16⟩
abbrev targetIdRegOffset : Nat := 0x54
abbrev targetIdAddress0Field : BitfieldField32 := ⟨0x7f, 0⟩
abbrev targetIdMask0Field : BitfieldField32 := ⟨0x7f, 7⟩
abbrev targetIdAddress1Field : BitfieldField32 := ⟨0x7f, 14⟩
abbrev targetIdMask1Field : BitfieldField32 := ⟨0x7f, 21⟩
abbrev acqdataRegOffset : Nat := 0x58
abbrev acqdataAbyteField : BitfieldField32 := ⟨0xff, 0⟩
abbrev acqdataSignalField : BitfieldField32 := ⟨0x7, 8⟩
abbrev txdataRegOffset : Nat := 0x5c
abbrev txdataTxdataField : BitfieldField32 := ⟨0xff, 0⟩
abbrev targetAckCtrlRegOffset : Nat := 0x6c
abbrev targetAckCtrlNbytesMask : BitVec 32 := 0x1ff
abbrev targetAckCtrlNbytesField : BitfieldField32 := ⟨targetAckCtrlNbytesMask, 0⟩
abbrev targetAckCtrlNackBit : Nat := 31
abbrev acqFifoNextDataRegOffset : Nat := 0x70
abbrev targetEventsRegOffset : Nat := 0x7c
abbrev targetEventsTxPendingBit : Nat := 0
abbrev targetEventsBusTimeoutBit : Nat := 1
abbrev targetEventsArbitrationLostBit : Nat := 2

/-- `I2C_PARAM_FIFO_DEPTH` -/
abbrev paramFifoDepth : BitVec 16 := 64

/-- `I2C_PARAM_ACQ_FIFO_DEPTH` -/
abbrev paramAcqFifoDepth : BitVec 16 := 268

/-! ## Interrupts -/

/-- `dif_i2c_irq_t` -/
inductive DifI2cIrq where
  | kDifI2cIrqFmtThreshold
  | kDifI2cIrqRxThreshold
  | kDifI2cIrqAcqThreshold
  | kDifI2cIrqRxOverflow
  | kDifI2cIrqControllerHalt
  | kDifI2cIrqSclInterference
  | kDifI2cIrqSdaInterference
  | kDifI2cIrqStretchTimeout
  | kDifI2cIrqSdaUnstable
  | kDifI2cIrqCmdComplete
  | kDifI2cIrqTxStretch
  | kDifI2cIrqTxThreshold
  | kDifI2cIrqAcqStretch
  | kDifI2cIrqUnexpStop
  | kDifI2cIrqHostTimeout
  deriving DecidableEq

/-- The value of the enumeration, which is also the bit of the interrupt in the
registers. -/
def DifI2cIrq.index : DifI2cIrq -> Nat
  | .kDifI2cIrqFmtThreshold => 0
  | .kDifI2cIrqRxThreshold => 1
  | .kDifI2cIrqAcqThreshold => 2
  | .kDifI2cIrqRxOverflow => 3
  | .kDifI2cIrqControllerHalt => 4
  | .kDifI2cIrqSclInterference => 5
  | .kDifI2cIrqSdaInterference => 6
  | .kDifI2cIrqStretchTimeout => 7
  | .kDifI2cIrqSdaUnstable => 8
  | .kDifI2cIrqCmdComplete => 9
  | .kDifI2cIrqTxStretch => 10
  | .kDifI2cIrqTxThreshold => 11
  | .kDifI2cIrqAcqStretch => 12
  | .kDifI2cIrqUnexpStop => 13
  | .kDifI2cIrqHostTimeout => 14

/-- `dif_i2c_irq_get_state` -/
def difI2cIrqGetState (i2c : Pointer) : Mmio (DifResult × BitVec 32) := do
  if i2c = .null then
    return (.kDifBadArg, 0)
  let snapshot <- mmioRegionRead32 intrStateRegOffset
  return (.kDifOk, snapshot)

/-- `dif_i2c_irq_acknowledge` -/
def difI2cIrqAcknowledge (i2c : Pointer) (irq : DifI2cIrq) : Mmio DifResult := do
  if i2c = .null then
    return .kDifBadArg
  mmioRegionWrite32 intrStateRegOffset (bitfieldBit32Write 0 irq.index true)
  return .kDifOk

/-- `dif_i2c_irq_disable_all` for a caller that asks for the snapshot. -/
def difI2cIrqDisableAll (i2c : Pointer) : Mmio (DifResult × BitVec 32) := do
  if i2c = .null then
    return (.kDifBadArg, 0)
  let snapshot <- mmioRegionRead32 intrEnableRegOffset
  mmioRegionWrite32 intrEnableRegOffset 0
  return (.kDifOk, snapshot)

/-- `dif_i2c_irq_restore_all` -/
def difI2cIrqRestoreAll (i2c : Pointer) (snapshot : BitVec 32) : Mmio DifResult := do
  if i2c = .null then
    return .kDifBadArg
  mmioRegionWrite32 intrEnableRegOffset snapshot
  return .kDifOk

/-! ## Status -/

/-- `dif_i2c_status_t` -/
structure DifI2cStatus where
  enableHost : Bool
  enableTarget : Bool
  lineLoopback : Bool
  ackControlEn : Bool
  fmtFifoFull : Bool
  rxFifoFull : Bool
  fmtFifoEmpty : Bool
  rxFifoEmpty : Bool
  hostIdle : Bool
  targetIdle : Bool
  txFifoFull : Bool
  acqFifoFull : Bool
  txFifoEmpty : Bool
  acqFifoEmpty : Bool
  ackCtrlStretch : Bool
  deriving DecidableEq

/-- The status that the values of `CTRL` and `STATUS` stand for. -/
def DifI2cStatus.ofRegs (ctrl reg : BitVec 32) : DifI2cStatus where
  enableHost := bitfieldBit32Read ctrl ctrlEnablehostBit
  enableTarget := bitfieldBit32Read ctrl ctrlEnabletargetBit
  lineLoopback := bitfieldBit32Read ctrl ctrlLlpbkBit
  ackControlEn := bitfieldBit32Read ctrl ctrlAckCtrlEnBit
  fmtFifoFull := bitfieldBit32Read reg statusFmtfullBit
  rxFifoFull := bitfieldBit32Read reg statusRxfullBit
  fmtFifoEmpty := bitfieldBit32Read reg statusFmtemptyBit
  rxFifoEmpty := bitfieldBit32Read reg statusRxemptyBit
  hostIdle := bitfieldBit32Read reg statusHostidleBit
  targetIdle := bitfieldBit32Read reg statusTargetidleBit
  txFifoFull := bitfieldBit32Read reg statusTxfullBit
  acqFifoFull := bitfieldBit32Read reg statusAcqfullBit
  txFifoEmpty := bitfieldBit32Read reg statusTxemptyBit
  acqFifoEmpty := bitfieldBit32Read reg statusAcqemptyBit
  ackCtrlStretch := bitfieldBit32Read reg statusAckCtrlStretchBit

/-- `dif_i2c_get_status` -/
def difI2cGetStatus (i2c : Pointer) : Mmio (DifResult × Option DifI2cStatus) := do
  if i2c = .null then
    return (.kDifBadArg, none)
  let ctrl <- mmioRegionRead32 ctrlRegOffset
  let reg <- mmioRegionRead32 statusRegOffset
  return (.kDifOk, some (.ofRegs ctrl reg))

/-- `dif_i2c_target_tx_halt_events_t` -/
structure DifI2cTargetTxHaltEvents where
  txPending : Bool
  busTimeout : Bool
  arbitrationLost : Bool
  deriving DecidableEq

/-- `dif_i2c_get_target_tx_halt_events` -/
def difI2cGetTargetTxHaltEvents (i2c : Pointer) :
    Mmio (DifResult × Option DifI2cTargetTxHaltEvents) := do
  if i2c = .null then
    return (.kDifBadArg, none)
  let reg <- mmioRegionRead32 targetEventsRegOffset
  return (.kDifOk, some {
    txPending := bitfieldBit32Read reg targetEventsTxPendingBit
    busTimeout := bitfieldBit32Read reg targetEventsBusTimeoutBit
    arbitrationLost := bitfieldBit32Read reg targetEventsArbitrationLostBit })

/-- `dif_i2c_clear_target_tx_halt_events` -/
def difI2cClearTargetTxHaltEvents (i2c : Pointer) (events : DifI2cTargetTxHaltEvents) :
    Mmio DifResult := do
  if i2c = .null then
    return .kDifBadArg
  let reg := bitfieldBit32Write 0 targetEventsTxPendingBit events.txPending
  let reg := bitfieldBit32Write reg targetEventsBusTimeoutBit events.busTimeout
  let reg := bitfieldBit32Write reg targetEventsArbitrationLostBit events.arbitrationLost
  mmioRegionWrite32 targetEventsRegOffset reg
  return .kDifOk

/-! ## FIFOs -/

/-- `dif_i2c_signal_t`, an enumeration whose variables may hold any word. -/
abbrev DifI2cSignal := BitVec 32

abbrev kDifI2cSignalNone : DifI2cSignal := 0
abbrev kDifI2cSignalStart : DifI2cSignal := 1
abbrev kDifI2cSignalStop : DifI2cSignal := 2
abbrev kDifI2cSignalRepeat : DifI2cSignal := 3
abbrev kDifI2cSignalNackStop : DifI2cSignal := 6

/-- The levels of the FIFOs, of which a caller may ask for some only. -/
structure FifoLevels where
  fmtFifoLevel : BitVec 16
  rxFifoLevel : BitVec 16
  txFifoLevel : BitVec 16
  acqFifoLevel : BitVec 16
  deriving DecidableEq

/-- `dif_i2c_get_fifo_levels` -/
def difI2cGetFifoLevels (i2c : Pointer) : Mmio (DifResult × Option FifoLevels) := do
  if i2c = .null then
    return (.kDifBadArg, none)
  let host <- mmioRegionRead32 hostFifoStatusRegOffset
  let target <- mmioRegionRead32 targetFifoStatusRegOffset
  return (.kDifOk, some {
    fmtFifoLevel := (bitfieldField32Read host hostFifoStatusFmtlvlField).setWidth 16
    rxFifoLevel := (bitfieldField32Read host hostFifoStatusRxlvlField).setWidth 16
    txFifoLevel := (bitfieldField32Read target targetFifoStatusTxlvlField).setWidth 16
    acqFifoLevel := (bitfieldField32Read target targetFifoStatusAcqlvlField).setWidth 16 })

/-- `dif_i2c_set_target_watermarks` -/
def difI2cSetTargetWatermarks (i2c : Pointer) (txLevel acqLevel : BitVec 16) :
    Mmio DifResult := do
  if i2c = .null || acqLevel > paramAcqFifoDepth || txLevel ≥ paramFifoDepth then
    return .kDifBadArg
  let ctrlValue <- mmioRegionRead32 targetFifoConfigRegOffset
  let ctrlValue :=
    bitfieldField32Write ctrlValue targetFifoConfigTxThreshField (txLevel.setWidth 32)
  let ctrlValue :=
    bitfieldField32Write ctrlValue targetFifoConfigAcqThreshField (acqLevel.setWidth 32)
  mmioRegionWrite32 targetFifoConfigRegOffset ctrlValue
  return .kDifOk

/-- The byte of an entry of the ACQ FIFO. -/
def abyte (word : BitVec 32) : BitVec 8 := (bitfieldField32Read word acqdataAbyteField).setWidth 8

/-- The signal of an entry of the ACQ FIFO. -/
def signal (word : BitVec 32) : DifI2cSignal := bitfieldField32Read word acqdataSignalField

/-- `dif_i2c_acquire_byte` for a caller that asks for the byte and the signal. -/
def difI2cAcquireByte (i2c : Pointer) : Mmio (DifResult × BitVec 8 × DifI2cSignal) := do
  if i2c = .null then
    return (.kDifBadArg, 0, 0)
  let acqByte <- mmioRegionRead32 acqdataRegOffset
  return (.kDifOk, abyte acqByte, signal acqByte)

/-- `dif_i2c_transmit_byte` -/
def difI2cTransmitByte (i2c : Pointer) (byte : BitVec 8) : Mmio DifResult := do
  if i2c = .null then
    return .kDifBadArg
  mmioRegionWrite32 txdataRegOffset (bitfieldField32Write 0 txdataTxdataField (byte.setWidth 32))
  return .kDifOk

/-! ## Acknowledgements -/

/-- `dif_i2c_set_auto_ack_count` -/
def difI2cSetAutoAckCount (i2c : Pointer) (count : BitVec 16) : Mmio DifResult := do
  if i2c = .null then
    return .kDifBadArg
  if count.setWidth 32 > targetAckCtrlNbytesMask then
    return .kDifBadArg
  mmioRegionWrite32 targetAckCtrlRegOffset
    (bitfieldField32Write 0 targetAckCtrlNbytesField (count.setWidth 32))
  return .kDifOk

/-- `dif_i2c_nack_transaction` -/
def difI2cNackTransaction (i2c : Pointer) : Mmio DifResult := do
  if i2c = .null then
    return .kDifBadArg
  mmioRegionWrite32 targetAckCtrlRegOffset (bitfieldBit32Write 0 targetAckCtrlNackBit true)
  return .kDifOk

/-- `dif_i2c_get_pending_acq_byte` -/
def difI2cGetPendingAcqByte (i2c : Pointer) : Mmio (DifResult × BitVec 8) := do
  if i2c = .null then
    return (.kDifBadArg, 0)
  let word <- mmioRegionRead32 acqFifoNextDataRegOffset
  return (.kDifOk, (0xff &&& word).setWidth 8)

/-! ## Addresses -/

/-- `dif_i2c_id_t` -/
structure DifI2cId where
  mask : BitVec 8
  address : BitVec 8
  deriving DecidableEq

/-- What `dif_i2c_set_device_id` adds to the word for one of the two addresses. -/
def idFields (config : BitVec 32) (addressField maskField : BitfieldField32) :
    Option DifI2cId -> BitVec 32
  | some id =>
      let config := bitfieldField32Write config addressField (id.address.setWidth 32)
      bitfieldField32Write config maskField (id.mask.setWidth 32)
  -- Don't listen by default.
  | none => bitfieldField32Write config addressField 0x7f

/-- The word for `TARGET_ID`. -/
def targetIdWord (id0 id1 : Option DifI2cId) : BitVec 32 :=
  let config := idFields 0 targetIdAddress0Field targetIdMask0Field id0
  idFields config targetIdAddress1Field targetIdMask1Field id1

/-- `dif_i2c_set_device_id` -/
def difI2cSetDeviceId (i2c : Pointer) (id0 id1 : Option DifI2cId) : Mmio DifResult := do
  if i2c = .null then
    return .kDifBadArg
  mmioRegionWrite32 targetIdRegOffset (targetIdWord id0 id1)
  return .kDifOk

/-- The second address reads back as it was set, if it has seven bits. -/
theorem targetIdWord_address1 (id0 : Option DifI2cId) (id : DifI2cId)
    (sevenBits : id.address.toNat < 128) :
    bitfieldField32Read (targetIdWord id0 (some id)) targetIdAddress1Field =
      id.address.setWidth 32 := by
  have cut : id.address.setWidth 32 &&& targetIdAddress1Field.mask = id.address.setWidth 32 := by
    apply BitVec.eq_of_toNat_eq
    have small : id.address.toNat < 2 ^ 7 := sevenBits
    have wide : (id.address.setWidth 32).toNat = id.address.toNat :=
      BitVec.toNat_setWidth_of_le (by decide)
    rw [BitVec.toNat_and, wide]
    exact Nat.and_two_pow_sub_one_of_lt_two_pow small
  calc bitfieldField32Read (targetIdWord id0 (some id)) targetIdAddress1Field
      = bitfieldField32Read (bitfieldField32Write
          (idFields 0 targetIdAddress0Field targetIdMask0Field id0) targetIdAddress1Field
          (id.address.setWidth 32)) targetIdAddress1Field :=
        bitfieldField32Read_write_other (by decide) _ _
    _ = id.address.setWidth 32 &&& targetIdAddress1Field.mask :=
        bitfieldField32Read_write_same (by decide) _ _
    _ = id.address.setWidth 32 := cut

end I2c
end SunburstChip
