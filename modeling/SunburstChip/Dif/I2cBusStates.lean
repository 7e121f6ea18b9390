import SunburstChip.Dif.I2cBus

namespace SunburstChip
namespace I2c

open Mmio

/-!
# What holds of the bus whatever happens on it

Between two reads nothing arrives, and the bus comes to rest when the FMT FIFO is
empty or the controller has been halted.  While a single read is under way, what
has been taken from the RX FIFO and what is in it are what the target has sent,
as long as the FIFO can hold the whole read.
-/

variable {bus bus' : Bus} {events : BitVec 32} {rx sent : List (BitVec 8)}
  {requests : List (BitVec 8 × Nat)} {address : BitVec 8}

/-- Nothing moves with nothing to take, or a controller that takes nothing. -/
theorem settled_of_free (free : bus.busy = false) (served : bus.Served)
    (rest : bus.host.fmt = [] ∨ bus.host.events ≠ 0) : Settled Moves bus := by
  intro bus' move
  cases move with
  | ack ready oldest | nack ready oldest | request ready oldest =>
      rcases rest with empty | halted
      · exact absurd (oldest.symm.trans empty) (List.cons_ne_nil _ _)
      · exact halted ready.running
  | release busy => exact absurd (free.symm.trans busy) Bool.false_ne_true
  | receive byte owing => exact owing served

/-- The controller only takes entries. -/
theorem stable_hasRoom : Stable Moves (fun bus => bus.host.HasRoom) := by
  intro bus bus' move room
  unfold Host.HasRoom at room ⊢
  cases move with
  | ack ready oldest write =>
      rw [oldest, List.length_cons] at room
      exact Nat.lt_of_succ_lt room
  | nack ready oldest write expected left =>
      rw [oldest] at room
      rcases left with rfl | rfl
      · exact room
      · exact Nat.lt_of_succ_lt room
  | request => exact room
  | release => exact Nat.lt_of_le_of_lt (List.length_tail ▸ Nat.sub_le _ _) room
  | receive byte owing =>
      unfold Host.receive
      split
      · exact room
      · exact room

/-! ## Between two reads -/

/-- All that has been requested has been sent, and no other read waits.  The events
are those there were, or a NAK has come. -/
structure Calm (events : BitVec 32) (rx : List (BitVec 8)) (requests : List (BitVec 8 × Nat))
    (sent : List (BitVec 8)) (bus : Bus) : Prop where
  enabled : bitfieldBit32Read bus.host.ctrl ctrlEnablehostBit = true
  events : bus.host.events = events ∨ events = 0 ∧ bus.host.events = 1
  rx : bus.host.rx = rx
  requests : bus.requests = requests
  sent : bus.sent = sent
  served : bus.Served
  writes : forall entry, entry ∈ bus.queue -> entry.flags.read = false
  begun : bus.busy = true -> bus.host.fmt ≠ []
  halted : bus.host.events ≠ 0 -> bus.busy = false

namespace Calm

/-- An entry that the controller could take is no read. -/
theorem oldest_writes (calm : Calm events rx requests sent bus) {entry : Entry}
    {rest : List Entry} (free : bus.busy = false) (oldest : bus.host.fmt = entry :: rest) :
    forall entry', entry' ∈ entry :: rest -> entry'.flags.read = false := by
  have queue := (Bus.queue_free free).trans oldest
  intro entry' among
  exact calm.writes entry' (queue ▸ among)

theorem stable : Stable Moves (Calm events rx requests sent) := by
  intro bus bus' move calm
  cases move with
  | @ack entry rest ready oldest write =>
      have writes := calm.oldest_writes ready.free oldest
      refine { calm with writes := ?_, begun := ?_ }
      · intro entry' among
        change entry' ∈ bif bus.busy then rest.tail else rest at among
        rw [ready.free] at among
        exact writes entry' (List.mem_cons_of_mem _ among)
      · exact fun busy => absurd (ready.free.symm.trans busy) Bool.false_ne_true
  | @nack entry rest fmt ready oldest write expected left =>
      have writes := calm.oldest_writes ready.free oldest
      refine { calm with events := .inr ⟨?_, rfl⟩, writes := ?_, begun := ?_, halted := ?_ }
      · rcases calm.events with same | one
        · exact same.symm.trans ready.running
        · exact one.1
      · intro entry' among
        change entry' ∈ bif bus.busy then fmt.tail else fmt at among
        rw [ready.free] at among
        rcases left with rfl | rfl
        · exact writes entry' among
        · exact writes entry' (List.mem_cons_of_mem _ among)
      · exact fun busy => absurd (ready.free.symm.trans busy) Bool.false_ne_true
      · exact fun _ => ready.free
  | @request entry rest ready oldest read =>
      have write := calm.oldest_writes ready.free oldest entry List.mem_cons_self
      exact absurd (write.symm.trans read) Bool.false_ne_true
  | release busy =>
      refine { calm with writes := ?_, begun := ?_, halted := fun _ => rfl }
      · intro entry' among
        have queue : bus.queue = bus.host.fmt.tail := Bus.queue_busy busy
        exact calm.writes entry' (queue ▸ among)
      · exact fun never => absurd never Bool.false_ne_true
  | receive byte owing => exact absurd calm.served owing

/-- Nothing moves any more exactly if the FMT FIFO is empty or the controller has been
halted. -/
theorem settled_iff (calm : Calm events rx requests sent bus) :
    Settled Moves bus ↔ bus.host.fmt = [] ∨ bus.host.events ≠ 0 := by
  constructor
  · intro settled
    by_contra moving
    push Not at moving
    rcases moving with ⟨some, running⟩
    cases busy : bus.busy with
    | true => exact settled _ (.release busy)
    | false =>
        rcases List.exists_cons_of_ne_nil some with ⟨entry, rest, oldest⟩
        have write := calm.oldest_writes busy oldest entry List.mem_cons_self
        exact settled _ (.ack ⟨calm.enabled, running, busy, calm.served⟩ oldest write)
  · intro rest
    refine settled_of_free ?_ calm.served rest
    rcases rest with empty | halted
    · exact Bool.eq_false_iff.mpr (fun busy => calm.begun busy empty)
    · exact calm.halted halted

end Calm

/-! ## Once an address has been pushed -/

/-- The last byte before the next entry is an address. -/
def Addresses (address : BitVec 8) (bus : Bus) : Prop :=
  bus.host.events = 0 -> (bus.queue = [] -> bus.addressed = address) ∧
    forall entry, entry ∈ bus.queue.getLast? -> entry.byte = address ∧ entry.flags.start = true

/-- Nothing goes on between two reads but what leads to an address. -/
theorem stable_addresses :
    Stable Moves (fun bus => Calm 0 rx requests sent bus ∧ Addresses address bus) := by
  rintro bus bus' move ⟨calm, addresses⟩
  refine ⟨Calm.stable _ _ move calm, ?_⟩
  cases move with
  | @ack entry rest ready oldest write =>
      have queue := (Bus.queue_free ready.free).trans oldest
      have before := addresses ready.running
      rw [queue] at before
      intro running
      constructor
      · intro last
        change (bif bus.busy then rest.tail else rest) = [] at last
        rw [ready.free, cond_false] at last
        rw [last] at before
        have address := before.2 entry rfl
        exact (if_pos address.2).trans address.1
      · intro entry' isLast
        change entry' ∈ (bif bus.busy then rest.tail else rest).getLast? at isLast
        rw [ready.free, cond_false] at isLast
        refine before.2 entry' ?_
        rw [List.getLast?_cons, Option.mem_def.mp isLast]
        rfl
  | nack ready oldest write expected left =>
      exact fun running => absurd (show (1 : BitVec 32) = 0 from running) (by decide)
  | @request entry rest ready oldest read =>
      have write := calm.oldest_writes ready.free oldest entry List.mem_cons_self
      exact absurd (write.symm.trans read) Bool.false_ne_true
  | release busy =>
      intro running
      have queue : bus.queue = bus.host.fmt.tail := Bus.queue_busy busy
      have before := addresses running
      rw [queue] at before
      exact before
  | receive byte owing => exact absurd calm.served owing

/-- An address behind all entries. -/
theorem Calm.push {bus : Bus} (calm : Calm 0 [] requests sent bus) {entry : Entry}
    (write : entry.flags.read = false) (start : entry.flags.start = true) :
    Calm 0 [] requests sent
        { bus with host := { bus.host with fmt := bus.host.fmt ++ [entry] } } ∧
      Addresses entry.byte
        { bus with host := { bus.host with fmt := bus.host.fmt ++ [entry] } } := by
  have queue : Bus.queue { bus with host := { bus.host with fmt := bus.host.fmt ++ [entry] } } =
      bus.queue ++ [entry] := by
    change (bif bus.busy then (bus.host.fmt ++ [entry]).tail else bus.host.fmt ++ [entry]) =
      (bif bus.busy then bus.host.fmt.tail else bus.host.fmt) ++ [entry]
    cases busy : bus.busy with
    | true => exact List.tail_append_of_ne_nil (calm.begun busy)
    | false => rfl
  constructor
  · refine { calm with writes := ?_, begun := ?_ }
    · intro entry' among
      rw [queue] at among
      rcases List.mem_append.mp among with before | last
      · exact calm.writes entry' before
      · rw [List.mem_singleton.mp last]
        exact write
    · exact fun _ => List.append_ne_nil_of_right_ne_nil _ (List.cons_ne_nil _ _)
  · intro _
    rw [queue]
    refine ⟨fun none => absurd none (List.append_ne_nil_of_right_ne_nil _ (List.cons_ne_nil _ _)),
      fun entry' last => ?_⟩
    rw [List.getLast?_concat] at last
    cases last
    exact ⟨rfl, start⟩

/-! ## A single read -/

/-- The controller has not begun with a read, whose entry is the only one. -/
structure Unbegun (address : BitVec 8) (length : Nat) (requests : List (BitVec 8 × Nat))
    (sent : List (BitVec 8)) (bus : Bus) : Prop where
  ready : bus.Ready
  oldest : Exists fun entry =>
    bus.host.fmt = [entry] ∧ entry.flags.read = true ∧ readLength entry.byte = length
  rx : bus.host.rx = []
  addressed : bus.addressed = address
  requests : bus.requests = requests
  sent : bus.sent = sent

/-- The controller has begun with a read, and some of its bytes have been taken from
the RX FIFO. -/
structure Begun (address : BitVec 8) (length : Nat) (requests : List (BitVec 8 × Nat))
    (sent taken : List (BitVec 8)) (bus : Bus) : Prop where
  enabled : bitfieldBit32Read bus.host.ctrl ctrlEnablehostBit = true
  running : bus.host.events = 0
  alone : bus.host.fmt.length = bus.busy.toNat
  requests : bus.requests = requests ++ [(address, length)]
  sent : bus.sent = sent ++ taken ++ bus.host.rx
  within : taken.length + bus.host.rx.length <= length

/-- A read is under way. -/
def Reading (address : BitVec 8) (length : Nat) (requests : List (BitVec 8 × Nat))
    (sent taken : List (BitVec 8)) (bus : Bus) : Prop :=
  taken = [] ∧ Unbegun address length requests sent bus ∨
    Begun address length requests sent taken bus

variable {length : Nat} {taken : List (BitVec 8)}

/-- All that has been requested has been sent. -/
abbrev Balanced (requests : List (BitVec 8 × Nat)) (sent : List (BitVec 8)) : Prop :=
  (requests.map Prod.snd).sum = sent.length

namespace Begun

theorem requested (begun : Begun address length requests sent taken bus)
    (balanced : Balanced requests sent) : bus.requested = sent.length + length := by
  unfold Bus.requested
  rw [begun.requests, List.map_append, List.sum_append, balanced]
  simp

theorem length_sent (begun : Begun address length requests sent taken bus) :
    bus.sent.length = sent.length + (taken.length + bus.host.rx.length) := by
  rw [begun.sent, List.length_append, List.length_append, Nat.add_assoc]

/-- No entry waits behind that of the read. -/
theorem not_oldest (begun : Begun address length requests sent taken bus) {entry : Entry}
    {rest : List Entry} (free : bus.busy = false) : bus.host.fmt ≠ entry :: rest := by
  intro oldest
  have alone := begun.alone
  rw [oldest, free] at alone
  exact Nat.succ_ne_zero _ alone

theorem stable (balanced : Balanced requests sent) (fits : length <= paramFifoDepth.toNat) :
    Stable Moves (Begun address length requests sent taken) := by
  intro bus bus' move begun
  cases move with
  | ack ready oldest | nack ready oldest | request ready oldest =>
      exact absurd oldest (begun.not_oldest ready.free)
  | release busy =>
      have alone := begun.alone
      rw [busy] at alone
      refine { begun with alone := ?_ }
      rw [List.length_tail, alone]
      rfl
  | receive byte owing =>
      unfold Bus.Served at owing
      rw [begun.requested balanced, begun.length_sent] at owing
      have room : bus.host.rx.length < paramFifoDepth.toNat := by omega
      have arrived : bus.host.receive byte = { bus.host with rx := bus.host.rx ++ [byte] } :=
        if_pos room
      rw [arrived]
      refine { begun with sent := ?_, within := ?_ }
      · rw [begun.sent, List.append_assoc _ bus.host.rx]
      · rw [List.length_append, List.length_singleton]
        omega

/-- All bytes of the read have been taken. -/
theorem calm (begun : Begun address length requests sent taken bus)
    (balanced : Balanced requests sent) (all : taken.length = length) :
    Calm 0 [] (requests ++ [(address, length)]) (sent ++ taken) bus := by
  have within := begun.within
  have requested := begun.requested balanced
  have arrived := begun.length_sent
  have empty : bus.host.rx = [] := List.length_eq_zero_iff.mp (by omega)
  have alone := begun.alone
  have queue : bus.queue = [] := by
    cases busy : bus.busy with
    | true =>
        rw [busy] at alone
        rw [Bus.queue_busy busy]
        exact List.length_eq_zero_iff.mp (by rw [List.length_tail, alone]; rfl)
    | false =>
        rw [busy] at alone
        rw [Bus.queue_free busy]
        exact List.length_eq_zero_iff.mp alone
  refine ⟨begun.enabled, .inl begun.running, empty, begun.requests, ?_, ?_, ?_, ?_, ?_⟩
  · rw [begun.sent, empty, List.append_nil]
  · unfold Bus.Served
    omega
  · rw [queue]
    exact fun _ never => absurd never List.not_mem_nil
  · intro busy none
    rw [none, busy] at alone
    exact absurd alone (by decide)
  · exact fun halted => absurd begun.running halted

end Begun

namespace Reading

theorem stable (balanced : Balanced requests sent) (fits : length <= paramFifoDepth.toNat) :
    Stable Moves (Reading address length requests sent taken) := by
  rintro bus bus' move (⟨none, unbegun⟩ | begun)
  · rcases unbegun.oldest with ⟨entry', alone, read', asks⟩
    cases move with
    | ack ready oldest write | nack ready oldest write =>
        cases alone.symm.trans oldest
        exact absurd (write.symm.trans read') Bool.false_ne_true
    | request ready oldest read =>
        cases alone.symm.trans oldest
        refine .inr ⟨unbegun.ready.enabled, unbegun.ready.running, ?_, ?_, ?_, ?_⟩
        · rw [alone]
          rfl
        · rw [unbegun.requests, unbegun.addressed, asks]
        · rw [none, unbegun.rx, unbegun.sent, List.append_nil, List.append_nil]
        · rw [none, unbegun.rx]
          exact Nat.zero_le _
    | release busy => exact absurd (unbegun.ready.free.symm.trans busy) Bool.false_ne_true
    | receive byte owing => exact absurd unbegun.ready.served owing
  · exact .inr (Begun.stable balanced fits _ _ move begun)

/-- What is missing arrives before the bus comes to rest. -/
theorem arrived (reading : Reading address length requests sent taken bus)
    (balanced : Balanced requests sent) (missing : taken.length < length)
    (settled : Settled Moves bus) : bus.host.rx ≠ [] := by
  intro empty
  rcases reading with ⟨none, unbegun⟩ | begun
  · rcases unbegun.oldest with ⟨entry, alone, read, asks⟩
    exact settled _ (.request unbegun.ready alone read)
  · refine settled _ (.receive 0 ?_)
    unfold Bus.Served
    rw [begun.requested balanced, begun.length_sent, empty, List.length_nil]
    omega

/-- A byte is taken from the RX FIFO. -/
theorem take (reading : Reading address length requests sent taken bus) {byte : BitVec 8}
    {rest : List (BitVec 8)} (oldest : bus.host.rx = byte :: rest) :
    Begun address length requests sent (taken ++ [byte])
      { bus with host := { bus.host with rx := rest } } := by
  rcases reading with ⟨-, unbegun⟩ | begun
  · exact absurd (oldest.symm.trans unbegun.rx) (List.cons_ne_nil _ _)
  · have within := begun.within
    refine { begun with sent := ?_, within := ?_ }
    · rw [begun.sent, oldest, <- List.append_assoc, List.append_assoc (sent ++ taken)]
      rfl
    · rw [oldest, List.length_cons] at within
      rw [List.length_append, List.length_singleton]
      change taken.length + 1 + rest.length <= length
      omega

end Reading

end I2c
end SunburstChip
