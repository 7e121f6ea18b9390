import SunburstChip.Dif.Uart
import SunburstChip.Lib.Interleaving
import SunburstChip.Testing.Base

namespace SunburstChip
namespace OttfConsole

open Mmio Uart

/-!
# The flow control of the test console

The functions of `ottf_console.c` that tell the other side when to pause and
when to resume, the interrupt handler among them.

The handler and the code it interrupts share the UART and two volatile
variables, and either may find the other's work half done.  So a volatile
variable is accessed like a register, at an address of its own, and so are the
two switches of the processor that let an interrupt through.  The interrupt
controller between the UART and the processor is taken to forward the
interrupt.
-/

/-! ## State -/

/-- `ottf_console_flow_control_t` -/
inductive FlowControl where
  | kOttfConsoleFlowControlNone
  | kOttfConsoleFlowControlAuto
  | kOttfConsoleFlowControlResume
  | kOttfConsoleFlowControlPause
  deriving DecidableEq

def FlowControl.toWord : FlowControl -> BitVec 32
  | .kOttfConsoleFlowControlNone => 0
  | .kOttfConsoleFlowControlAuto => 1
  | .kOttfConsoleFlowControlResume => 17
  | .kOttfConsoleFlowControlPause => 19

/-- `kFlowControlLowWatermark` -/
abbrev kFlowControlLowWatermark : BitVec 32 := 4

/-- `kFlowControlHighWatermark` -/
abbrev kFlowControlHighWatermark : BitVec 32 := 8

/-- `kFlowControlRxWatermark` -/
abbrev kFlowControlRxWatermark : DifUartWatermark := .kDifUartWatermarkByte8

/-- The UART, the variables and the switches. -/
structure Console where
  uart : Uart.State
  /-- `flow_control_state`, as a word. -/
  flowControlState : BitVec 32
  /-- `flow_control_irqs` -/
  flowControlIrqs : BitVec 32
  globalInterrupts : Bool
  externalInterrupts : Bool
  deriving DecidableEq

abbrev flowControlStateAddr : Nat := 0x1000
abbrev flowControlIrqsAddr : Nat := 0x1004
abbrev globalInterruptsAddr : Nat := 0x1008
abbrev externalInterruptsAddr : Nat := 0x100c

/-- The UART and the cells, as accessed by a part of the software. -/
def device (writer : Writer) : Device Console where
  read32 offset console :=
    match offset with
    | 0x1000 => (console.flowControlState, console)
    | 0x1004 => (console.flowControlIrqs, console)
    | _ => (((Uart.device writer).read32 offset console.uart).1,
        { console with uart := ((Uart.device writer).read32 offset console.uart).2 })
  write32 offset value console :=
    match offset with
    | 0x1000 => { console with flowControlState := value }
    | 0x1004 => { console with flowControlIrqs := value }
    | 0x1008 => { console with globalInterrupts := value != 0 }
    | 0x100c => { console with externalInterrupts := value != 0 }
    | _ => { console with uart := (Uart.device writer).write32 offset value console.uart }
  write8 _ _ console := console

/-- The UART moves by itself. -/
def Hardware (console console' : Console) : Prop :=
  Exists fun uart => Uart.Hardware console.uart uart ∧ console' = { console with uart := uart }

/-- The receive watermark interrupt of the UART is enabled. -/
def RxWatermarkEnabled (console : Console) : Prop :=
  bitfieldBit32Read console.uart.intrEnable intrCommonRxWatermarkBit = true

instance (console : Console) : Decidable (RxWatermarkEnabled console) :=
  inferInstanceAs (Decidable (_ = true))

/-- The receive watermark interrupt reaches the processor. -/
def Pending (console : Console) : Prop :=
  console.globalInterrupts = true ∧ console.externalInterrupts = true ∧
    RxWatermarkEnabled console ∧ console.uart.rxWatermark <= console.uart.rx.length

/-! ## Flow control -/

/-- Read a volatile variable. -/
def readCell (addr : Nat) : Code Unit Failure (BitVec 32) := Code.lift (mmioRegionRead32 addr)

/-- Write a volatile variable. -/
def writeCell (addr : Nat) (value : BitVec 32) : Code Unit Failure Unit :=
  Code.lift (mmioRegionWrite32 addr value)

/-- The decision that `manage_flow_control` takes by itself, with the change of
the interrupt that goes with it, or none if everything stays as it is. -/
def autoDecision (uart : Pointer) : Code Unit Failure (Option FlowControl) := do
  let (result, avail) <- Code.lift (difUartRxBytesAvailable uart)
  tryDif result
  if avail < kFlowControlLowWatermark then
    let state <- readCell flowControlStateAddr
    if state ≠ FlowControl.kOttfConsoleFlowControlResume.toWord then
      let result <- Code.lift (difUartIrqSetEnabled uart .kDifUartIrqRxWatermark kDifToggleEnabled)
      checkDifOk result
      return some .kOttfConsoleFlowControlResume
  if kFlowControlHighWatermark <= avail then
    let state <- readCell flowControlStateAddr
    if state ≠ FlowControl.kOttfConsoleFlowControlPause.toWord then
      let result <- Code.lift (difUartIrqSetEnabled uart .kDifUartIrqRxWatermark kDifToggleDisabled)
      checkDifOk result
      return some .kOttfConsoleFlowControlPause
  return none

/-- The end of `manage_flow_control`: the decision is sent and remembered. -/
def sendDecision (uart : Pointer) (ctrl : FlowControl) : Code Unit Failure (BitVec 32) := do
  let (result, _) <- Code.lift (difUartBytesSend uart [ctrl.toWord.setWidth 8])
  checkDifOk result
  writeCell flowControlStateAddr ctrl.toWord
  readCell flowControlStateAddr

/-- `manage_flow_control` -/
def manageFlowControl (uart : Pointer) (ctrl : FlowControl) : Code Unit Failure (BitVec 32) := do
  let state <- readCell flowControlStateAddr
  if state = FlowControl.kOttfConsoleFlowControlNone.toWord then
    readCell flowControlStateAddr
  else if ctrl = .kOttfConsoleFlowControlAuto then
    let decision <- autoDecision uart
    match decision with
    | some ctrl => sendDecision uart ctrl
    | none => readCell flowControlStateAddr
  else sendDecision uart ctrl

/-- The status that a routine returns, as a value.  A failed test still ends
its caller. -/
def statusOf {α : Type} (routine : Code Unit Failure α) :
    Code Unit Failure (Except AbslStatus α) := fun state =>
  routine state >>= fun
    | (.ok value, state) => .ret (.ok (.ok value), state)
    | (.error (.status code), state) => .ret (.ok (.error code), state)
    | (.error reason, state) => .ret (.error reason, state)

/-- `ottf_console_flow_control_isr`, for the UART of the console. -/
def ottfConsoleFlowControlIsr (uart : Pointer) : Code Unit Failure Bool := do
  let irqs <- readCell flowControlIrqsAddr
  writeCell flowControlIrqsAddr (irqs + 1)
  let (result, rx) <- Code.lift (difUartIrqIsPending uart .kDifUartIrqRxWatermark)
  checkDifOk result
  if rx then
    let _ <- statusOf (manageFlowControl uart .kOttfConsoleFlowControlAuto)
    let result <- Code.lift (difUartIrqAcknowledge uart .kDifUartIrqRxWatermark)
    checkDifOk result
    return true
  return false

/-- The first line of `ottf_console_flow_control`, up to its decision. -/
def disableInterrupts (uart : Pointer) : Code Unit Failure (BitVec 32) := do
  let (result, snapshot) <- Code.lift (difUartIrqDisableAll uart)
  checkDifOk result
  return snapshot

/-- The last line of `ottf_console_flow_control`, after its decision. -/
def restoreInterrupts (uart : Pointer) (snapshot : BitVec 32) : Code Unit Failure Unit := do
  let result <- Code.lift (difUartIrqRestoreAll uart snapshot)
  checkDifOk result

/-- `ottf_console_flow_control` -/
def ottfConsoleFlowControl (uart : Pointer) (ctrl : FlowControl) :
    Code Unit Failure (Except AbslStatus (BitVec 32)) := do
  let snapshot <- disableInterrupts uart
  let s <- statusOf (manageFlowControl uart ctrl)
  restoreInterrupts uart snapshot
  return s

/-- The part of `ottf_console_flow_control_enable` that sets things up. -/
def prepareFlowControl (uart : Pointer) : Code Unit Failure Unit := do
  let result <- Code.lift (difUartWatermarkRxSet uart kFlowControlRxWatermark)
  checkDifOk result
  let result <- Code.lift (difUartIrqSetEnabled uart .kDifUartIrqRxWatermark kDifToggleEnabled)
  checkDifOk result
  writeCell flowControlStateAddr FlowControl.kOttfConsoleFlowControlAuto.toWord
  writeCell globalInterruptsAddr 1
  writeCell externalInterruptsAddr 1

/-- `ottf_console_flow_control_enable`, for the UART of the console. -/
def ottfConsoleFlowControlEnable (uart : Pointer) : Code Unit Failure Unit := do
  prepareFlowControl uart
  let _ <- ottfConsoleFlowControl uart .kOttfConsoleFlowControlResume
  return ()

end OttfConsole
end SunburstChip
