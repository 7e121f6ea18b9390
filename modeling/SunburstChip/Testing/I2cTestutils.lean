import SunburstChip.Base.Math
import SunburstChip.Dif.I2cHost
import SunburstChip.Lib.Schedule
import SunburstChip.Testing.Base

namespace SunburstChip
namespace I2c

open Mmio

/-!
# Transactions of an I2C host

The functions of `i2c_testutils.c` by which a test writes to a target and reads
from one.

A read polls in loops that nothing in the program bounds.  They are given a
number of rounds here, and a routine that runs out of them ends early without a
reason of the source, which is `none`.
-/

variable {τ : Type}

/-- The direction of a transaction, in the lowest bit of the address byte. -/
abbrev kI2cWrite : BitVec 8 := 0
abbrev kI2cRead : BitVec 8 := 1

/-- `kDefaultFlags` -/
def kDefaultFlags : DifI2cFmtFlags where
  start := false
  stop := false
  read := false
  readCont := false
  suppressNakIrq := false

/-- `i2c_testutils_write` of as many bytes as `data` holds. -/
def i2cTestutilsWrite (i2c : Pointer) (addr : BitVec 8) (data : List (BitVec 8))
    (skipStop : Bool) : Code τ Failure Unit := do
  tryCheck (decide (0 < data.length))
  -- First write the address.
  let flags := { kDefaultFlags with start := true }
  let dataFrame := addr <<< 1 ||| kI2cWrite
  let result <- .lift (difI2cWriteByteRaw i2c dataFrame flags)
  tryDif result
  -- Once the address phase is through, the rest is generic data.
  let flags := kDefaultFlags
  if 1 < data.length then
    let result <- .lift (difI2cWriteBytesRaw i2c .object (data.take (data.length - 1)) flags)
    tryDif result
  -- Issue a stop for the last byte.
  let flags := { flags with stop := !skipStop }
  let result <- .lift (difI2cWriteByteRaw i2c (data.getD (data.length - 1) 0) flags)
  tryDif result

/-! ## Timeouts -/

/-- The clock of the processor: its frequency, and what each reading of the cycle
counter gives. -/
structure Clock where
  kClockFreqCpuHz : BitVec 64
  mcycle : Nat -> BitVec 64

/-- `ibex_timeout_t` -/
structure IbexTimeout where
  cycles : BitVec 64
  start : BitVec 64
  deriving DecidableEq

/-- The cycles that a timeout in microseconds takes. -/
def Clock.cycles (clock : Clock) (timeoutUsec : BitVec 32) : BitVec 64 :=
  (udiv64Slow (clock.kClockFreqCpuHz * timeoutUsec.setWidth 64) 1000000).1

/-- What a read leaves behind: the bytes it has stored, each with its distance from
`data`, and how often it has read the cycle counter. -/
structure ReadState where
  stores : List (Nat × BitVec 8)
  readings : Nat
  deriving DecidableEq

/-- `ibex_mcycle_read` -/
def ibexMcycleRead (clock : Clock) : Code ReadState (Option Failure) (BitVec 64) := do
  let state <- .get
  .set { state with readings := state.readings + 1 }
  return clock.mcycle state.readings

/-- `ibex_timeout_init` -/
def ibexTimeoutInit (clock : Clock) (timeoutUsec : BitVec 32) :
    Code ReadState (Option Failure) IbexTimeout := do
  let start <- ibexMcycleRead clock
  return { cycles := clock.cycles timeoutUsec, start := start }

/-- `ibex_timeout_check` -/
def ibexTimeoutCheck (clock : Clock) (timeout : IbexTimeout) :
    Code ReadState (Option Failure) Bool := do
  let now <- ibexMcycleRead clock
  return decide (now - timeout.start > timeout.cycles)

/-! ## Reads -/

/-- `TRY` where a routine may also run out of rounds. -/
def tryRound (result : DifResult) : Code τ (Option Failure) Unit := .explain some (tryDif result)

/-- A round of the loop of `i2c_testutils_wait_transaction_finish`. -/
def waitRound (i2c : Pointer) : Code τ (Option Failure) (Unit ⊕ BitVec 32) := do
  let (result, controllerHalted) <- .lift (difI2cIrqIsPending i2c .kDifI2cIrqControllerHalt)
  tryRound result
  if controllerHalted then
    return .inr 1
  else
    let (result, status) <- .lift (difI2cGetStatus i2c)
    tryRound result
    let status := status.getD (.ofRegs 0 0)
    if !status.fmtFifoEmpty then return .inl () else return .inr 0

/-- `i2c_testutils_wait_transaction_finish` -/
def i2cTestutilsWaitTransactionFinish (fuel : Nat) (i2c : Pointer) :
    Code τ (Option Failure) (BitVec 32) :=
  .rounds none (fun _ => waitRound i2c) fuel ()

/-- The part of `i2c_testutils_issue_read` after a NAK. -/
def recoverFromNack (i2c : Pointer) (haltEvents : DifI2cControllerHaltEvents) :
    Code τ (Option Failure) Unit := do
  let result <- .lift (difI2cResetFmtFifo i2c)
  tryRound result
  let result <- .lift (difI2cClearControllerHaltEvents i2c haltEvents)
  tryRound result
  -- Force a stop to be sent after the unexpected NAK.
  let result <- .lift (difI2cHostSetEnabled i2c kDifToggleDisabled)
  tryRound result
  let result <- .lift (difI2cHostSetEnabled i2c kDifToggleEnabled)
  tryRound result

/-- The part of `i2c_testutils_issue_read` after the address. -/
def requestOrRecover (i2c : Pointer) (byteCount : BitVec 8) : Code τ (Option Failure) Bool := do
  let (result, haltEvents) <- .lift (difI2cGetControllerHaltEvents i2c)
  tryRound result
  let haltEvents := haltEvents.getD ⟨false, false, false, false⟩
  if !haltEvents.nackReceived then
    -- Inform the controller how many bytes to read.
    let flags := { kDefaultFlags with read := true, stop := true }
    let result <- .lift (difI2cWriteByteRaw i2c byteCount flags)
    tryRound result
    return haltEvents.nackReceived
  else
    recoverFromNack i2c haltEvents
    return haltEvents.nackReceived

/-- `i2c_testutils_issue_read`, which tells whether there was a NAK. -/
def i2cTestutilsIssueRead (fuel : Nat) (i2c : Pointer) (addr byteCount : BitVec 8) :
    Code τ (Option Failure) Bool := do
  -- First, write the address.
  let flags := { kDefaultFlags with start := true }
  let dataFrame := addr <<< 1 ||| kI2cRead
  let result <- .lift (difI2cWriteByteRaw i2c dataFrame flags)
  tryRound result
  let _ <- i2cTestutilsWaitTransactionFinish fuel i2c
  requestOrRecover i2c byteCount

/-- A round of the loop that waits for an ACK, with the NAKs so far. -/
def nakRound (fuel : Nat) (clock : Clock) (i2c : Pointer) (addr chunk : BitVec 8)
    (timer : IbexTimeout) (nakCount : BitVec 32) :
    Code ReadState (Option Failure) (BitVec 32 ⊕ BitVec 32) := do
  let nack <- i2cTestutilsIssueRead fuel i2c addr chunk
  if nack then
    let nakCount := nakCount + 1
    let expired <- ibexTimeoutCheck clock timer
    if expired then .raise (some (.status .kDeadlineExceeded)) else return .inl nakCount
  else
    return .inr nakCount

/-- Where `i2c_testutils_read` stands between two chunks. -/
structure Chunks where
  /-- How far `data` has moved. -/
  data : Nat
  byteCount : BitVec 32
  nakCount : BitVec 32
  deriving DecidableEq

/-- The bytes of a chunk are stored one after the other. -/
def storeBytes (data : Nat) (bytes : List (BitVec 8)) : Code ReadState (Option Failure) Unit := do
  let state <- .get
  .set { state with stores := state.stores ++ bytes.mapIdx (fun i byte => (data + i, byte)) }

/-- The end of the loop over the chunks. -/
def nextChunk (start : Chunks) : Code τ (Option Failure) (Chunks ⊕ BitVec 32) :=
  if start.byteCount > 0 then pure (.inl start) else pure (.inr start.nakCount)

/-- The size of the next chunk.  The number of bytes has to be communicated in one
byte, and they have to fit into the RX FIFO. -/
def chunkOf (byteCount : BitVec 32) : BitVec 8 :=
  let fifoDepth : BitVec 32 := paramFifoDepth.setWidth 32
  let maxChunk := if fifoDepth < 0xff then fifoDepth else 0xff
  (if byteCount < maxChunk then byteCount else maxChunk).setWidth 8

/-- A round of the loop over the chunks. -/
def chunkRound (fuel : Nat) (clock : Clock) (i2c : Pointer) (addr : BitVec 8) (data : Pointer)
    (timer : IbexTimeout) (start : Chunks) :
    Code ReadState (Option Failure) (Chunks ⊕ BitVec 32) := do
  let chunk := chunkOf start.byteCount
  -- Loop until there is an ACK from the device or a timeout.
  let nakCount <- .rounds none (nakRound fuel clock i2c addr chunk timer) fuel start.nakCount
  if chunk > 0 then
    let (result, bytes) <- .lift (difI2cReadBytes i2c chunk.toNat data)
    tryRound result
    storeBytes start.data bytes
    nextChunk ⟨start.data + chunk.toNat, start.byteCount - chunk.setWidth 32, nakCount⟩
  else
    nextChunk { start with nakCount := nakCount }

/-- `i2c_testutils_read`, which returns how often there was a NAK. -/
def i2cTestutilsRead (fuel : Nat) (clock : Clock) (i2c : Pointer) (addr : BitVec 8)
    (byteCount : BitVec 32) (data : Pointer) (timeout : BitVec 32) :
    Code ReadState (Option Failure) (BitVec 32) := do
  let timer <- ibexTimeoutInit clock timeout
  -- Make sure to start from a clean state.
  let (result, haltEvents) <- .lift (difI2cGetControllerHaltEvents i2c)
  tryRound result
  let haltEvents := haltEvents.getD ⟨false, false, false, false⟩
  let result <- .lift (difI2cClearControllerHaltEvents i2c haltEvents)
  tryRound result
  let result <- .lift (difI2cResetRxFifo i2c)
  tryRound result
  let nakCount <- .rounds none (chunkRound fuel clock i2c addr data timer) fuel ⟨0, byteCount, 0⟩
  let _ <- i2cTestutilsWaitTransactionFinish fuel i2c
  return nakCount

end I2c
end SunburstChip
