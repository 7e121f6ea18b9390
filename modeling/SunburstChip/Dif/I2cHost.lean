import SunburstChip.Dif.I2c

namespace SunburstChip
namespace I2c

open Mmio BitfieldField32

/-!
# The I2C controller

The functions of `dif_i2c.c` by which software acts as an I2C host.  What it
wants done it pushes as entries onto the FMT FIFO, a byte with its flags each,
and the bytes that a target sends it takes from the RX FIFO.

The controller behind them is seen through the two FIFOs and the events that
have halted it.  An entry that is pushed onto a full FIFO is lost.
-/

/-! ## Registers -/

abbrev rdataRegOffset : Nat := 0x18
abbrev rdataRdataField : BitfieldField32 := ⟨0xff, 0⟩
abbrev fdataRegOffset : Nat := 0x1c
abbrev fdataFbyteField : BitfieldField32 := ⟨0xff, 0⟩
abbrev fdataStartBit : Nat := 8
abbrev fdataStopBit : Nat := 9
abbrev fdataReadbBit : Nat := 10
abbrev fdataRcontBit : Nat := 11
abbrev fdataNakokBit : Nat := 12
abbrev fifoCtrlRegOffset : Nat := 0x20
abbrev fifoCtrlRxrstBit : Nat := 0
abbrev fifoCtrlFmtrstBit : Nat := 1
abbrev controllerEventsRegOffset : Nat := 0x78
abbrev controllerEventsNackBit : Nat := 0
abbrev controllerEventsUnhandledNackTimeoutBit : Nat := 1
abbrev controllerEventsBusTimeoutBit : Nat := 2
abbrev controllerEventsArbitrationLostBit : Nat := 3

/-! ## Entries of the FMT FIFO -/

/-- `dif_i2c_fmt_flags_t` -/
structure DifI2cFmtFlags where
  start : Bool
  stop : Bool
  read : Bool
  readCont : Bool
  suppressNakIrq : Bool
  deriving DecidableEq

/-- `parse_flags`, with the word it is given and may change. -/
def parseFlags (flags : DifI2cFmtFlags) (fmtByte : BitVec 32) : DifResult × BitVec 32 :=
  let hasWriteFlags := flags.start || flags.suppressNakIrq
  let hasReadFlags := flags.read || flags.readCont
  if hasWriteFlags && hasReadFlags then
    (.kDifBadArg, fmtByte)
  else if flags.readCont && !flags.read then
    (.kDifBadArg, fmtByte)
  else
    let fmtByte := bitfieldBit32Write fmtByte 8 flags.start
    let fmtByte := bitfieldBit32Write fmtByte fdataStopBit flags.stop
    let fmtByte := bitfieldBit32Write fmtByte fdataReadbBit flags.read
    let fmtByte := bitfieldBit32Write fmtByte fdataRcontBit flags.readCont
    (.kDifOk, bitfieldBit32Write fmtByte fdataNakokBit flags.suppressNakIrq)

/-- What one word written to `FDATA` asks for. -/
structure Entry where
  byte : BitVec 8
  flags : DifI2cFmtFlags
  deriving DecidableEq

def Entry.ofWord (word : BitVec 32) : Entry where
  byte := (bitfieldField32Read word fdataFbyteField).setWidth 8
  flags := {
    start := bitfieldBit32Read word fdataStartBit
    stop := bitfieldBit32Read word fdataStopBit
    read := bitfieldBit32Read word fdataReadbBit
    readCont := bitfieldBit32Read word fdataRcontBit
    suppressNakIrq := bitfieldBit32Read word fdataNakokBit }

/-- A byte written next to flags leaves them as they are. -/
theorem entry_fbyte (fmtByte : BitVec 32) (byte : BitVec 8) :
    Entry.ofWord (bitfieldField32Write fmtByte fdataFbyteField (byte.setWidth 32)) =
      ⟨byte, (Entry.ofWord fmtByte).flags⟩ := by
  have narrow : (byte.setWidth 32 &&& fdataFbyteField.mask).setWidth 8 = byte := by
    rw [BitVec.setWidth_and, BitVec.setWidth_setWidth_of_le _ (by decide)]
    exact (congrArg₂ _ (BitVec.setWidth_eq byte) rfl).trans BitVec.and_allOnes
  have bit : forall index, (Apart fdataFbyteField (bitfieldBit32ToField32 index)) ->
      bitfieldBit32Read (bitfieldField32Write fmtByte fdataFbyteField (byte.setWidth 32)) index =
        bitfieldBit32Read fmtByte index := by
    intro index apart
    unfold bitfieldBit32Read
    rw [bitfieldField32Read_write_other apart]
  unfold Entry.ofWord
  rw [bitfieldField32Read_write_same (by decide), narrow, bit _ (by decide), bit _ (by decide),
    bit _ (by decide), bit _ (by decide), bit _ (by decide)]

/-- The flags are written where the controller looks for them. -/
theorem entry_parseFlags {flags : DifI2cFmtFlags} {fmtByte : BitVec 32}
    (parsed : parseFlags flags 0 = (.kDifOk, fmtByte)) : (Entry.ofWord fmtByte).flags = flags := by
  dsimp only [parseFlags] at parsed
  split at parsed
  · cases parsed
  · split at parsed
    · cases parsed
    · cases parsed
      simp (disch := decide) only [Entry.ofWord, bitfieldBit32Read_write_same,
        bitfieldBit32Read_write_other]

/-! ## The controller -/

/-- The controller as software sees it. -/
structure Host where
  /-- The FMT FIFO, oldest entry first. -/
  fmt : List Entry
  /-- The RX FIFO, oldest byte first. -/
  rx : List (BitVec 8)
  /-- The events that have halted the controller. -/
  events : BitVec 32
  ctrl : BitVec 32
  /-- What `STATUS` and `INTR_STATE` say of other things. -/
  otherStatus : BitVec 32
  otherIntrState : BitVec 32

namespace Host

/-- There is room in the FMT FIFO. -/
def HasRoom (host : Host) : Prop := host.fmt.length < paramFifoDepth.toNat

instance (host : Host) : Decidable host.HasRoom := inferInstanceAs (Decidable (_ < _))

def status (host : Host) : BitVec 32 :=
  let reg := bitfieldBit32Write host.otherStatus statusFmtfullBit (!decide host.HasRoom)
  let reg := bitfieldBit32Write reg statusFmtemptyBit host.fmt.isEmpty
  bitfieldBit32Write reg statusRxemptyBit host.rx.isEmpty

def intrState (host : Host) : BitVec 32 :=
  bitfieldBit32Write host.otherIntrState DifI2cIrq.kDifI2cIrqControllerHalt.index
    (host.events != 0)

/-- An entry is pushed onto the FMT FIFO. -/
def push (host : Host) (entry : Entry) : Host :=
  if host.HasRoom then { host with fmt := host.fmt ++ [entry] } else host

/-- What a write to `FIFO_CTRL` resets. -/
def resetFifos (host : Host) (value : BitVec 32) : Host :=
  { host with
    fmt := if bitfieldBit32Read value fifoCtrlFmtrstBit then [] else host.fmt
    rx := if bitfieldBit32Read value fifoCtrlRxrstBit then [] else host.rx }

end Host

/-- The registers of the controller.  `FIFO_CTRL` reads as zero. -/
def hostDevice : Device Host where
  read32 offset host :=
    match offset with
    | 0x0 => (host.intrState, host)
    | 0x10 => (host.ctrl, host)
    | 0x14 => (host.status, host)
    | 0x18 => ((host.rx.headD 0).setWidth 32, { host with rx := host.rx.tail })
    | 0x78 => (host.events, host)
    | _ => (0, host)
  write32 offset value host :=
    match offset with
    | 0x10 => { host with ctrl := value }
    | 0x1c => host.push (.ofWord value)
    | 0x20 => host.resetFifos value
    -- Events are cleared by writing ones.
    | 0x78 => { host with events := host.events &&& ~~~value }
    | _ => host
  write8 _ _ host := host

theorem fmtfull_status (host : Host) :
    bitfieldBit32Read host.status statusFmtfullBit = !decide host.HasRoom := by
  unfold Host.status
  rw [bitfieldBit32Read_write_other (by decide), bitfieldBit32Read_write_other (by decide),
    bitfieldBit32Read_write_same (by decide)]

/-! ## Functions -/

/-- `spin_while_status_bit` -/
def spinWhileStatusBit (bit : Nat) (set : Bool) : Mmio Unit := do
  let _ <- pollUntil statusRegOffset (fun reg => bitfieldBit32Read reg bit != set)

/-- The loop of `dif_i2c_write_bytes_raw`. -/
def writeBytesRaw (fmtByte : BitVec 32) : List (BitVec 8) -> Mmio Unit
  | [] => return ()
  | byte :: bytes => do
      let reg := bitfieldField32Write fmtByte fdataFbyteField (byte.setWidth 32)
      mmioRegionWrite32 fdataRegOffset reg
      spinWhileStatusBit statusFmtfullBit true
      writeBytesRaw fmtByte bytes

/-- `dif_i2c_write_bytes_raw` of as many bytes as the buffer at `bytes` holds. -/
def difI2cWriteBytesRaw (i2c bytes : Pointer) (content : List (BitVec 8))
    (flags : DifI2cFmtFlags) : Mmio DifResult := do
  if i2c = .null ∨ bytes = .null ∨ content.length = 0 then
    return .kDifBadArg
  let (result, fmtByte) := parseFlags flags 0
  if result ≠ .kDifOk then
    return result
  writeBytesRaw fmtByte content
  return .kDifOk

/-- `dif_i2c_write_byte_raw` -/
def difI2cWriteByteRaw (i2c : Pointer) (byte : BitVec 8) (flags : DifI2cFmtFlags) :
    Mmio DifResult := do
  if i2c = .null then
    return .kDifBadArg
  let (result, fmtByte) := parseFlags flags 0
  if result ≠ .kDifOk then
    return result
  mmioRegionWrite32 fdataRegOffset
    (bitfieldField32Write fmtByte fdataFbyteField (byte.setWidth 32))
  return .kDifOk

/-- The loop of `dif_i2c_read_bytes`: the bytes it puts in the buffer. -/
def readBytes : Nat -> Mmio (List (BitVec 8))
  | 0 => return []
  | size + 1 => do
      spinWhileStatusBit statusRxemptyBit true
      let values <- mmioRegionRead32 rdataRegOffset
      let bytes <- readBytes size
      return (bitfieldField32Read values rdataRdataField).setWidth 8 :: bytes

/-- `dif_i2c_read_bytes`, with the bytes that it has put in the buffer. -/
def difI2cReadBytes (i2c : Pointer) (size : Nat) (buffer : Pointer) :
    Mmio (DifResult × List (BitVec 8)) := do
  if i2c = .null ∨ buffer = .null then
    return (.kDifBadArg, [])
  let bytes <- readBytes size
  return (.kDifOk, bytes)

/-- `dif_i2c_controller_halt_events_t` -/
structure DifI2cControllerHaltEvents where
  nackReceived : Bool
  unhandledNackTimeout : Bool
  busTimeout : Bool
  arbitrationLost : Bool
  deriving DecidableEq

/-- `dif_i2c_get_controller_halt_events` -/
def difI2cGetControllerHaltEvents (i2c : Pointer) :
    Mmio (DifResult × Option DifI2cControllerHaltEvents) := do
  if i2c = .null then
    return (.kDifBadArg, none)
  let reg <- mmioRegionRead32 controllerEventsRegOffset
  return (.kDifOk, some {
    nackReceived := bitfieldBit32Read reg controllerEventsNackBit
    unhandledNackTimeout := bitfieldBit32Read reg controllerEventsUnhandledNackTimeoutBit
    busTimeout := bitfieldBit32Read reg controllerEventsBusTimeoutBit
    arbitrationLost := bitfieldBit32Read reg controllerEventsArbitrationLostBit })

/-- `dif_i2c_clear_controller_halt_events` -/
def difI2cClearControllerHaltEvents (i2c : Pointer) (events : DifI2cControllerHaltEvents) :
    Mmio DifResult := do
  if i2c = .null then
    return .kDifBadArg
  let reg := bitfieldBit32Write 0 controllerEventsNackBit events.nackReceived
  let reg := bitfieldBit32Write reg controllerEventsUnhandledNackTimeoutBit
    events.unhandledNackTimeout
  let reg := bitfieldBit32Write reg controllerEventsBusTimeoutBit events.busTimeout
  let reg := bitfieldBit32Write reg controllerEventsArbitrationLostBit events.arbitrationLost
  mmioRegionWrite32 controllerEventsRegOffset reg
  return .kDifOk

/-- What `dif_i2c_reset_rx_fifo` and `dif_i2c_reset_fmt_fifo` share. -/
def resetFifo (bit : Nat) (i2c : Pointer) : Mmio DifResult := do
  if i2c = .null then
    return .kDifBadArg
  let reg <- mmioRegionRead32 fifoCtrlRegOffset
  mmioRegionWrite32 fifoCtrlRegOffset (bitfieldBit32Write reg bit true)
  return .kDifOk

/-- `dif_i2c_reset_rx_fifo` -/
def difI2cResetRxFifo : Pointer -> Mmio DifResult := resetFifo fifoCtrlRxrstBit

/-- `dif_i2c_reset_fmt_fifo` -/
def difI2cResetFmtFifo : Pointer -> Mmio DifResult := resetFifo fifoCtrlFmtrstBit

/-- `dif_i2c_host_set_enabled` -/
def difI2cHostSetEnabled (i2c : Pointer) (state : DifToggle) : Mmio DifResult := do
  if i2c = .null then
    return .kDifBadArg
  if !difIsValidToggle state then
    return .kDifBadArg
  let flag := difToggleToBool state
  let reg <- mmioRegionRead32 ctrlRegOffset
  mmioRegionWrite32 ctrlRegOffset (bitfieldBit32Write reg ctrlEnablehostBit flag)
  return .kDifOk

/-- `dif_i2c_irq_is_pending` -/
def difI2cIrqIsPending (i2c : Pointer) (irq : DifI2cIrq) : Mmio (DifResult × Bool) := do
  if i2c = .null then
    return (.kDifBadArg, false)
  let intrStateReg <- mmioRegionRead32 intrStateRegOffset
  return (.kDifOk, bitfieldBit32Read intrStateReg irq.index)

end I2c
end SunburstChip
