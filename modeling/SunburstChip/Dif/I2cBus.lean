import SunburstChip.Dif.I2cHost
import SunburstChip.Lib.Schedule
import Mathlib.Order.WellFounded

namespace SunburstChip
namespace I2c

open Mmio

/-!
# The bus of an I2C host

An enabled controller takes one entry of the FMT FIFO after the other.  It sends
the bytes, and a target acknowledges them or not; an unexpected NAK halts the
controller.  An entry for a read it works at until it moves on, and the target
sends as many bytes as the entry asks for, at any moments.  The next entry has to
wait for them.

The requests and the bytes sent by targets are remembered.
-/

/-- The number of bytes that an entry for a read asks for: 0 is interpreted as 256. -/
def readLength (byte : BitVec 8) : Nat := if byte = 0 then 256 else byte.toNat

/-- A controller, and what has happened on its bus. -/
structure Bus where
  host : Host
  /-- The controller works at a read, which is the oldest entry of the FMT FIFO. -/
  busy : Bool
  /-- The byte last sent after a start. -/
  addressed : BitVec 8
  /-- The reads that have been requested: the address byte before each, and its length. -/
  requests : List (BitVec 8 × Nat)
  /-- The bytes that targets have sent. -/
  sent : List (BitVec 8)

namespace Bus

/-- The number of bytes that have been requested. -/
def requested (bus : Bus) : Nat := (bus.requests.map Prod.snd).sum

/-- Targets have sent all that has been requested. -/
def Served (bus : Bus) : Prop := bus.requested <= bus.sent.length

instance (bus : Bus) : Decidable bus.Served := inferInstanceAs (Decidable (_ <= _))

/-- The entries at which the controller does not work yet. -/
def queue (bus : Bus) : List Entry := bif bus.busy then bus.host.fmt.tail else bus.host.fmt

/-- The controller is ready to take an entry. -/
structure Ready (bus : Bus) : Prop where
  enabled : bitfieldBit32Read bus.host.ctrl ctrlEnablehostBit = true
  running : bus.host.events = 0
  free : bus.busy = false
  served : bus.Served

end Bus

/-- The host, once a byte has arrived.  With a full RX FIFO it is lost. -/
def Host.receive (host : Host) (byte : BitVec 8) : Host :=
  if host.rx.length < paramFifoDepth.toNat then { host with rx := host.rx ++ [byte] } else host

/-- What happens on the bus. -/
inductive Moves : Bus -> Bus -> Prop where
  /-- A byte is sent, and an acknowledgement follows or is not asked for. -/
  | ack {bus : Bus} {entry : Entry} {rest : List Entry} (ready : bus.Ready)
      (oldest : bus.host.fmt = entry :: rest) (write : entry.flags.read = false) :
      Moves bus { bus with
        host := { bus.host with fmt := rest }
        addressed := if entry.flags.start then entry.byte else bus.addressed }
  /-- A byte is not acknowledged, and its entry may stay. -/
  | nack {bus : Bus} {entry : Entry} {rest fmt : List Entry} (ready : bus.Ready)
      (oldest : bus.host.fmt = entry :: rest) (write : entry.flags.read = false)
      (expected : entry.flags.suppressNakIrq = false) (left : fmt = entry :: rest ∨ fmt = rest) :
      Moves bus { bus with host := { bus.host with fmt := fmt, events := 1 } }
  /-- The controller begins with a read. -/
  | request {bus : Bus} {entry : Entry} {rest : List Entry} (ready : bus.Ready)
      (oldest : bus.host.fmt = entry :: rest) (read : entry.flags.read = true) :
      Moves bus { bus with
        busy := true
        requests := bus.requests ++ [(bus.addressed, readLength entry.byte)] }
  /-- The controller is through with the entry of a read. -/
  | release {bus : Bus} (busy : bus.busy = true) :
      Moves bus { bus with busy := false, host := { bus.host with fmt := bus.host.fmt.tail } }
  /-- A target sends a byte. -/
  | receive {bus : Bus} (byte : BitVec 8) (owing : ¬ bus.Served) :
      Moves bus { bus with host := bus.host.receive byte, sent := bus.sent ++ [byte] }

/-- The registers of the controller on its bus. -/
def busDevice : Device Bus where
  read32 offset bus :=
    ((hostDevice.read32 offset bus.host).1,
      { bus with host := (hostDevice.read32 offset bus.host).2 })
  write32 offset value bus := { bus with host := hostDevice.write32 offset value bus.host }
  write8 offset value bus := { bus with host := hostDevice.write8 offset value bus.host }

/-! ## Nothing goes on for ever -/

/-- How much an entry has the bus do at most. -/
def Entry.work (entry : Entry) : Nat :=
  if entry.flags.read then readLength entry.byte + 2 else 1

namespace Bus

/-- How much is left to do. -/
def work (bus : Bus) : Nat :=
  (bus.requested - bus.sent.length) + (bus.queue.map Entry.work).sum + bus.busy.toNat +
    (if bus.host.events = 0 then 1 else 0)

variable {bus bus' : Bus}

theorem queue_free (free : bus.busy = false) : bus.queue = bus.host.fmt := by
  unfold queue
  rw [free]
  rfl

theorem queue_busy (busy : bus.busy = true) : bus.queue = bus.host.fmt.tail := by
  unfold queue
  rw [busy]
  rfl

end Bus

theorem Entry.work_pos (entry : Entry) : 0 < entry.work := by
  unfold Entry.work
  split <;> omega

/-- Every move leaves less to do. -/
theorem Moves.work_lt {bus bus' : Bus} (move : Moves bus bus') : bus'.work < bus.work := by
  cases move with
  | @ack entry rest ready oldest write =>
      have positive := entry.work_pos
      have free := ready.free
      simp only [Bus.work, Bus.queue, Bus.requested, free, oldest]
      grind
  | @nack entry rest fmt ready oldest write expected left =>
      have free := ready.free
      have halted : ¬ (1 : BitVec 32) = 0 := by decide
      simp only [Bus.work, Bus.queue, Bus.requested, free, oldest, ready.running, if_neg halted]
      rcases left with rfl | rfl
      · simp
      · grind
  | @request entry rest ready oldest read =>
      have served := ready.served
      have free := ready.free
      have asks : entry.work = readLength entry.byte + 2 := if_pos read
      simp only [Bus.Served, Bus.requested] at served
      simp only [Bus.work, Bus.queue, Bus.requested, free, oldest, List.map_append, List.sum_append,
        List.map_cons, List.sum_cons, List.map_nil, List.sum_nil, List.tail_cons]
      grind
  | release busy =>
      simp only [Bus.work, Bus.queue, Bus.requested, busy]
      grind
  | receive byte owing =>
      have same : (bus.host.receive byte).fmt = bus.host.fmt ∧
          (bus.host.receive byte).events = bus.host.events := by
        unfold Host.receive
        split <;> exact ⟨rfl, rfl⟩
      simp only [Bus.Served, Bus.requested, Nat.not_le] at owing
      simp only [Bus.work, Bus.queue, Bus.requested, same, List.length_append,
        List.length_singleton]
      omega

/-- The bus comes to rest. -/
theorem moves_wellFounded : WellFounded (fun bus' bus => Moves bus bus') :=
  Subrelation.wf Moves.work_lt (measure Bus.work).wf

end I2c
end SunburstChip
