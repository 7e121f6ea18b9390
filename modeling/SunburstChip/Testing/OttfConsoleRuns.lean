import SunburstChip.Testing.OttfConsoleHandler

namespace SunburstChip
namespace OttfConsole

open Mmio Uart FlowControl

/-!
# The console in use

A program that uses the console makes one call after another.  Between any two
accesses the hardware moves, and the handler is invoked if the interrupt is
pending.  A run is considered under conditions, which can rule out invocations
at some positions and accesses in some states.
-/

/-- What a program that uses the console calls. -/
inductive Operation where
  | enable
  | output (byte : BitVec 8)
  | receive (byte : BitVec 8)
  | flowControl (ctrl : FlowControl)
  deriving DecidableEq

namespace Operation

/-- The call, whose results are of no consequence. -/
def program : Operation -> Mmio Unit
  | enable => do
      let _ <- ottfConsoleFlowControlEnable .object ()
      return ()
  | output byte => do
      let _ <- difUartByteSendPolled .object byte
      return ()
  | receive byte => do
      let _ <- difUartByteReceivePolled .object byte
      return ()
  | flowControl ctrl => do
      let _ <- ottfConsoleFlowControl .object ctrl ()
      return ()

def writer : Operation -> Writer
  | output _ => .output
  | enable | receive _ | flowControl _ => .flowControl

/-- The call is one of those that decide about the flow control. -/
def Decides : Operation -> Prop
  | enable | flowControl _ => True
  | output _ | receive _ => False

end Operation

/-- Where the handler can be invoked, and in which states the accesses of an
operation, and those of the handler, are considered. -/
structure Conditions where
  admits : Operation -> Position -> Console -> Prop
  meets : Operation -> Position -> Console -> Prop
  handler : Position -> Console -> Prop

/-- Every run is considered. -/
def unconditioned : Conditions where
  admits _ _ _ := True
  meets _ _ _ := True
  handler _ _ := True

/-- What surrounds the program during an operation. -/
def consoleWorld (conditions : Conditions) (op : Operation) : World Console where
  device := device op.writer
  env place console console' := Hardware console console' ∨
    (conditions.admits op place console ∧ Handler conditions.handler console console')
  meets := conditions.meets op

/-- What is reached by operations of which the first can begin in its state,
and each can follow the one before. -/
inductive Running (conditions : Conditions) (begins : Operation -> Console -> Prop)
    (follows : Operation -> Operation -> Prop) : Operation -> Mmio Unit × Console -> Prop where
  | start {op : Operation} {s : Console} (begun : begins op s) :
      Running conditions begins follows op (op.program, s)
  | step {op : Operation} {config config' : Mmio Unit × Console}
      (running : Running conditions begins follows op config)
      (step : Step (consoleWorld conditions op) config config') :
      Running conditions begins follows op config'
  | call {op op' : Operation} {s : Console}
      (running : Running conditions begins follows op (.ret (), s)) (followed : follows op op') :
      Running conditions begins follows op' (op'.program, s)

namespace Running

variable {conditions : Conditions} {begins : Operation -> Console -> Prop}
  {follows : Operation -> Operation -> Prop} {op : Operation} {config config' : Mmio Unit × Console}

theorem reaches (running : Running conditions begins follows op config)
    (reaches : Reaches (consoleWorld conditions op) config config') :
    Running conditions begins follows op config' := by
  induction reaches with
  | refl => exact running
  | tail _ step ih => exact ih.step step

/-- If each operation leaves what the next one needs, what is invariant during
an operation holds whenever it is under way, and what it leaves when it is
over. -/
theorem invariant {inv : Operation -> Position -> Console -> Prop} {pre post : Operation -> Console -> Prop}
    (live : forall op, Live (consoleWorld conditions op) (inv op) False (pre op) op.program
      (fun _ => post op))
    (starts : forall op s, begins op s -> pre op s)
    (leaves : forall op op' s, follows op op' -> post op s -> pre op' s)
    (running : Running conditions begins follows op config) :
    inv op config.1.position config.2 ∧ (config.1 = .ret () -> post op config.2) := by
  -- Every configuration is reached from the beginning of its operation.
  have begun : Exists fun s => pre op s ∧
      Reaches (consoleWorld conditions op) (op.program, s) config := by
    induction running with
    | @start op s begun => exact ⟨s, starts op s begun, .refl⟩
    | step _ step ih =>
        rcases ih with ⟨s, holds, reaches⟩
        exact ⟨s, holds, reaches.tail step⟩
    | @call op op' s _ followed ih =>
        rcases ih with ⟨_, holds, reaches⟩
        exact ⟨s, leaves op op' s followed ((live op _ holds _ reaches).2.1 () rfl), .refl⟩
  rcases begun with ⟨s, holds, reaches⟩
  have all := live op s holds config reaches
  exact ⟨all.1, all.2.1 ()⟩

end Running

/-! ## Operations with all interrupts disabled -/

/-- All interrupts are disabled. -/
structure Masked (rest : Console -> Prop) (s : Console) : Prop where
  disabled : s.uart.intrEnable = 0
  level : Level s
  rest : rest s

/-- No handler is invoked. -/
theorem keeps_masked {rest : Console -> Prop} {inv : Position -> Console -> Prop}
    {conditions : Conditions} (op : Operation) (stable : Stable Hardware rest) (place : Position)
    (within : forall s, Masked rest s -> inv place s) :
    Keeps (consoleWorld conditions op) inv place (Masked rest) := by
  refine ⟨within, ?_⟩
  rintro s s' (move | ⟨_, handler⟩) masked
  · exact ⟨move.intrEnable_eq.trans masked.disabled, move.level masked.level,
      stable s s' move masked.rest⟩
  · have enabled := handler.1.2.2.1
    unfold RxWatermarkEnabled at enabled
    rw [masked.disabled] at enabled
    exact absurd enabled (by decide)

/-! ## Operations that decide nothing -/

section Keeping

variable {conditions : Conditions} {inv : Position -> Console -> Prop} {pre : Console -> Prop}

/-- Polled output, during which an assertion is kept if it is by what the
transmit FIFO does. -/
theorem live_output (byte : BitVec 8)
    (keeps : forall place, Keeps (consoleWorld conditions (.output byte)) inv place pre)
    (written : forall s, pre s -> pre { s with uart := s.uart.send .output byte }) :
    Live (consoleWorld conditions (.output byte)) inv False pre (Operation.output byte).program
      (fun _ => pre) := by
  have bytes : Live (consoleWorld conditions (.output byte)) inv False pre (uartBytesSend [byte])
      (fun _ => pre) := by
    refine Live.read32 (fun _ => pre) (keeps _) (fun never => never.elim) (fun s holds _ => holds)
      (fun reg => ?_)
    change Live _ inv False _ (if bitfieldBit32Read reg statusTxfullBit = true then _ else _) _
    by_cases full : bitfieldBit32Read reg statusTxfullBit = true
    · simp only [if_pos full]
      exact Live.ret (keeps _) (fun _ holds => holds)
    · simp only [if_neg full]
      refine Live.write32 pre (keeps _) (fun never => never.elim) ?_
        (Live.ret (keeps _) (fun _ holds => holds))
      intro s holds _
      have after := written s holds
      rw [<- wdata_byte byte] at after
      exact after
  have polled : Live (consoleWorld conditions (.output byte)) inv False pre
      (difUartByteSendPolled .object byte) (fun _ => pre) := by
    refine Live.poll32 (fun _ => pre) (keeps _) (fun never => never.elim)
      (fun never => never.elim) (fun s holds _ _ => holds) (fun _ => ?_)
    rw [bind_ret]
    refine Live.bind bytes (fun _ => ?_)
    refine Live.poll32 (fun _ => pre) (keeps _) (fun never => never.elim)
      (fun never => never.elim) (fun s holds _ _ => holds) (fun _ => ?_)
    exact Live.ret (keeps _) (fun _ holds => holds)
  exact Live.bind polled (fun _ => Live.ret (keeps _) (fun _ holds => holds))

/-- Polled input, during which an assertion is kept if it is by taking a byte
from the receive FIFO. -/
theorem live_receive (byte : BitVec 8)
    (keeps : forall place, Keeps (consoleWorld conditions (.receive byte)) inv place pre)
    (taken : forall s : Console, pre s ->
      pre { s with uart := { s.uart with rx := s.uart.rx.tail } }) :
    Live (consoleWorld conditions (.receive byte)) inv False pre (Operation.receive byte).program
      (fun _ => pre) := by
  have bytes : Live (consoleWorld conditions (.receive byte)) inv False pre (uartBytesReceive 1)
      (fun _ => pre) := by
    refine Live.read32 (fun _ => pre) (keeps _) (fun never => never.elim) (fun s holds _ => holds)
      (fun reg => ?_)
    change Live _ inv False _ (if bitfieldBit32Read reg statusRxemptyBit = true then _ else _) _
    by_cases empty : bitfieldBit32Read reg statusRxemptyBit = true
    · simp only [if_pos empty]
      exact Live.ret (keeps _) (fun _ holds => holds)
    · simp only [if_neg empty]
      refine Live.read32 (fun _ => pre) (keeps _) (fun never => never.elim)
        (fun s holds _ => taken s holds) (fun _ => ?_)
      exact Live.ret (keeps _) (fun _ holds => holds)
  have polled : Live (consoleWorld conditions (.receive byte)) inv False pre
      (difUartByteReceivePolled .object byte) (fun _ => pre) := by
    refine Live.poll32 (fun _ => pre) (keeps _) (fun never => never.elim)
      (fun never => never.elim) (fun s holds _ _ => holds) (fun _ => ?_)
    rw [bind_ret]
    exact Live.bind bytes (fun _ => Live.ret (keeps _) (fun _ holds => holds))
  exact Live.bind polled (fun _ => Live.ret (keeps _) (fun _ holds => holds))

end Keeping

end OttfConsole
end SunburstChip
