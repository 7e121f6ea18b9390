import SunburstChip.Testing.UsbStreamsRuns

namespace SunburstChip
namespace UsbStreams

open Mmio Usbdev UsbTestutils

/-!
# Streams over a sleep

The state of the streams is stored, the device sleeps, and the streams are
resumed in a context that has been initialised anew.  What the host has
accepted before, and what it accepts afterwards, is to be the beginning of what
the stream would have sent without the sleep.

It is, whenever the device has been told of all packets the host had collected
at the time the state was stored.  A packet that had been collected but whose
completion was still to be processed is sent once more.
-/

/-! ## Sequences of packets -/

/-- A stream after so many packets, where `leftovers` are what happens to be on
the stack at each of them. -/
def Stream.afterPackets (leftovers : Nat -> Nat -> BitVec 8) (s : Stream) : Nat -> Stream
  | 0 => s
  | count + 1 => (nextPacket (leftovers count) (s.afterPackets leftovers count)).2

/-- The packets of an uninterrupted stream, one after the other. -/
def Stream.packet (leftovers : Nat -> Nat -> BitVec 8) (s : Stream) (k : Nat) : Packet :=
  (nextPacket (leftovers k) (s.afterPackets leftovers k)).1

/-- The packets are the first ones of an uninterrupted stream. -/
def Stream.Begins (s : Stream) (packets : List Packet) : Prop :=
  Exists fun leftovers => packets = (List.range packets.length).map (s.packet leftovers)

section

variable {s : Stream} {before middle after : StreamTx}

/-- The packets behind the first one. -/
theorem afterPackets_succ (leftovers : Nat -> Nat -> BitVec 8) (s : Stream) (count : Nat) :
    s.afterPackets leftovers (count + 1) =
      (nextPacket (leftovers 0) s).2.afterPackets (fun k => leftovers (k + 1)) count := by
  induction count with
  | zero => rfl
  | succ count ih => rw [Stream.afterPackets, ih, Stream.afterPackets]

theorem packet_succ (leftovers : Nat -> Nat -> BitVec 8) (s : Stream) (k : Nat) :
    s.packet leftovers (k + 1) =
      (nextPacket (leftovers 0) s).2.packet (fun k => leftovers (k + 1)) k := by
  rw [Stream.packet, afterPackets_succ, Stream.packet]

/-- What a stream can make one after the other is how it goes on. -/
theorem Stream.MakesAll.begins {packets : List Packet} (all : s.MakesAll before packets after) :
    Stream.Begins { s with tx := before } packets := by
  induction packets generalizing before with
  | nil => exact ⟨fun _ _ => 0, rfl⟩
  | cons packet rest ih =>
      rcases all with ⟨middle, ⟨stack, made, left⟩, others⟩
      rcases ih others with ⟨leftovers, same⟩
      let leftovers' : Nat -> Nat -> BitVec 8
        | 0 => stack
        | k + 1 => leftovers k
      have next : (nextPacket stack { s with tx := before }).2 = { s with tx := middle } := by
        rw [<- nextPacket_stream, left]
      refine ⟨leftovers', ?_⟩
      rw [List.length_cons, List.range_succ_eq_map, List.map_cons, List.map_map]
      have first : Stream.packet leftovers' { s with tx := before } 0 = packet := made
      have behind : (Stream.packet leftovers' { s with tx := before } ∘ Nat.succ) =
          Stream.packet leftovers { s with tx := middle } := by
        funext k
        exact (packet_succ leftovers' { s with tx := before } k).trans
          (congrArg (fun s => Stream.packet leftovers s k) next)
      rw [first, behind, <- same]

end

/-! ## Storing and loading -/

section

variable {n : Nat} {memory : Memory}

theorem saveStreams_eq (ctx : StreamsCtx) (ids : List Nat)
    (inside : forall id, id ∈ ids -> id < usbutilsStreamsMax) :
    saveStreams ctx ids memory = .ret (.ok (ids.map ctx.streams), memory) := by
  induction ids with
  | nil => rfl
  | cons id rest ih =>
      unfold saveStreams
      rw [inRange_bind (inside id List.mem_cons_self), Code.bind_apply,
        ih (fun other later => inside other (List.mem_cons_of_mem _ later))]
      rfl

/-- What is stored of some streams. -/
def StreamsCtx.saved (ctx : StreamsCtx) : Saved :=
  ⟨ctx.nstreams, (List.range ctx.nstreams.toNat).map ctx.streams⟩

/-- The state is stored if there is room for it, and is left as it is. -/
theorem suspend_eq (sizeofStream : Nat) {size : BitVec 32}
    (few : memory.client.nstreams.toNat <= usbutilsStreamsMax)
    (room : savedSize sizeofStream memory.client.nstreams <= size.toNat) :
    usbTestutilsStreamsSuspend sizeofStream .object .object .object size memory =
      .ret (.ok (memory.client.saved, savedSize sizeofStream memory.client.nstreams), memory) := by
  unfold usbTestutilsStreamsSuspend
  rw [Code.get_bind_apply, if_neg (by simp [Nat.not_lt.mpr room]), Code.bind_apply,
    saveStreams_eq]
  · rfl
  · exact fun id inside => Nat.lt_of_lt_of_le (List.mem_range.mp inside) few

theorem size_of_suspend {sizeofStream : Nat} {size : BitVec 32} {ctx buf used : Pointer}
    {out : Saved × Nat} {memory' : Memory}
    (suspended : usbTestutilsStreamsSuspend sizeofStream ctx buf used size memory =
      .ret (.ok out, memory')) :
    ctx = .object ∧ buf = .object ∧ used = .object ∧
      savedSize sizeofStream memory.client.nstreams <= size.toNat := by
  by_cases bad : ctx = .null ∨ buf = .null ∨ used = .null ∨
      size.toNat < savedSize sizeofStream memory.client.nstreams
  · unfold usbTestutilsStreamsSuspend at suspended
    rw [Code.get_bind_apply, if_pos bad] at suspended
    cases suspended
  · simp only [not_or, Nat.not_lt] at bad
    cases ctx <;> cases buf <;> cases used <;> simp_all

/-- A stream that goes on from its committed state. -/
def Stream.rewound (s : Stream) : Stream := { s with tx := s.txCmt }

theorem loadStreams_eq (memory : Memory) (first : Nat) (loaded : List Stream)
    (few : first + loaded.length <= usbutilsStreamsMax) :
    Exists fun streams =>
      loadStreams first loaded memory = .ret (.ok (), { memory with
        client := { memory.client with streams := streams } }) ∧
      (forall i s, loaded[i]? = some s -> streams (first + i) = s.rewound) ∧
      forall id, id < first -> streams id = memory.client.streams id := by
  induction loaded generalizing first memory with
  | nil => exact ⟨memory.client.streams, rfl, nofun, fun _ _ => rfl⟩
  | cons s rest ih =>
      rw [List.length_cons] at few
      let memory' : Memory := { memory with client := memory.client.setStream first s.rewound }
      rcases ih memory' (first + 1) (by omega) with ⟨streams, result, here, before⟩
      refine ⟨streams, ?_, ?_, ?_⟩
      · unfold loadStreams
        rw [inRange_bind (show first < usbutilsStreamsMax by omega), Code.get_bind_apply,
          Code.set_bind_apply]
        exact result
      · intro i s' found
        cases i with
        | zero =>
            rw [List.getElem?_cons_zero, Option.some.injEq] at found
            rw [<- found]
            exact (before first (Nat.lt_succ_self first)).trans (Function.update_self _ _ _)
        | succ i =>
            rw [List.getElem?_cons_succ] at found
            rw [show first + (i + 1) = first + 1 + i by omega]
            exact here i s' found
      · intro id less
        exact (before id (Nat.lt_succ_of_lt less)).trans
          (Function.update_of_ne (Nat.ne_of_lt less) _ _)

/-- Streams that are loaded into a context that has just been initialised. -/
theorem resume_eq (sizeofStream : Nat) {ctx : StreamsCtx} {len : BitVec 32}
    (stored : Apportioned n ctx) (fresh : Apportioned n memory.client)
    (empty : forall id, id < n -> memory.client.queue id = [])
    (complete : savedSize sizeofStream ctx.nstreams <= len.toNat) :
    Exists fun ctx' =>
      usbTestutilsStreamsResume sizeofStream .object .object ctx.saved len memory =
        .ret (.ok (), { memory with client := ctx' }) ∧
      Apportioned n ctx' ∧ (forall id, id < n -> ctx'.queue id = []) ∧
      forall id, id < n -> ctx'.streams id = (ctx.streams id).rewound := by
  have small : n <= 11 := fresh.few
  have count : ctx.nstreams.toNat = n := stored.count
  have total := fresh.total_eq_zero empty
  have length : ctx.saved.streams.length = n := by
    rw [StreamsCtx.saved, List.length_map, List.length_range, count]
  have wide : (ctx.nstreams.setWidth 32).toNat = n := by
    rw [BitVec.toNat_setWidth, count]
    exact Nat.mod_eq_of_lt (by omega)
  rcases loadStreams_eq memory 0 ctx.saved.streams
    (by rw [length, Nat.zero_add]; exact fresh.few) with ⟨streams, loaded, here, _⟩
  have rewound (id : Nat) (inside : id < n) : streams id = (ctx.streams id).rewound := by
    have found : ctx.saved.streams[id]? = some (ctx.streams id) := by
      rw [StreamsCtx.saved, List.getElem?_map, List.getElem?_range (by rw [count]; exact inside)]
      rfl
    have same := here id _ found
    rwa [Nat.zero_add] at same
  have endpoints (id : Nat) (inside : id < (ctx.nstreams.setWidth 32).toNat) :
      (streams id).txEp.toNat = id + 1 := by
    rw [wide] at inside
    rw [rewound id inside]
    exact stored.endpoints id inside
  let memory' : Memory := { memory with client := { memory.client with streams := streams } }
  rcases streamsCountSet_spec memory' (by rw [wide]; exact fresh.few) endpoints with
    ⟨ctx', counted, same, apportioned, queues⟩
  rw [wide] at apportioned queues
  refine ⟨ctx', ?_, apportioned, queues, fun id inside => ?_⟩
  · unfold usbTestutilsStreamsResume
    have positive : ¬ len.toNat < 1 := by
      unfold savedSize at complete
      omega
    have present : ¬ len.toNat < savedSize sizeofStream ctx.saved.nstreams :=
      Nat.not_lt.mpr complete
    have taken : ctx.saved.streams.take ctx.saved.nstreams.toNat = ctx.saved.streams :=
      List.take_of_length_le (by rw [length]; exact Nat.le_of_eq count.symm)
    rw [if_neg (by simp [positive]), Code.get_bind_apply, if_neg (by simp [total]),
      if_neg present, taken, Code.bind_apply, loaded]
    change Mmio.bind (usbTestutilsStreamsCountSet (ctx.nstreams.setWidth 32) _) _ = _
    rw [counted]
    rfl
  · rw [same]
    exact rewound id inside

theorem size_of_resume {sizeofStream : Nat} {ctx data : Pointer} {saved : Saved}
    {len : BitVec 32} {memory' : Memory} (fresh : memory.client.txQueuedTotal = 0)
    (resumed : usbTestutilsStreamsResume sizeofStream ctx data saved len memory =
      .ret (.ok (), memory')) :
    ctx = .object ∧ data = .object ∧ savedSize sizeofStream saved.nstreams <= len.toNat := by
  unfold usbTestutilsStreamsResume at resumed
  by_cases bad : ctx = .null ∨ data = .null ∨ len.toNat < 1
  · rw [if_pos bad] at resumed
    cases resumed
  · by_cases short : len.toNat < savedSize sizeofStream saved.nstreams
    · rw [if_neg bad, Code.get_bind_apply, if_neg (by simp [fresh]), if_pos short] at resumed
      cases resumed
    · simp only [not_or] at bad
      cases ctx <;> cases data <;> simp_all

end

/-! ## Runs over sleeps -/

/-- The packets of a stream the host has accepted: those the device has been
told of, and the one its endpoint has sent since. -/
def Streaming.accepted (state : Streaming) (id : Nat) : List Packet :=
  state.collected id ++
    if state.controller.inSent (id + 1) then offered state.controller (id + 1) else []

/-- The states of the runs with some streams in which the device may sleep: the
state is stored at a `point` of a run, and loaded after the streams have been
initialised again.  What the host has accepted until then stays accepted. -/
inductive Continued (point : Streaming -> Prop) (setup : Setup) (m : Nat) : Streaming -> Prop where
  | init {usbdev usbdev' : Controller} {objects : Nat -> Buffer} {memory memory' : Memory}
      (configured : Usbdev.Reachable m ⟨usbdev, memory.pool, objects⟩)
      (unused : forall id, id < setup.nstreams.toNat -> usbdev.Pending (id + 1) = false ∧
        (memory.inEndpoints (id + 1)).transfer.buffer = none)
      (execution : Exec device Hardware usbdev (setup.init memory) usbdev' (.ok (), memory')) :
      Continued point setup m ⟨usbdev', objects, memory', fun _ => [], fun _ => []⟩
  | step {state state' : Streaming} (before : Continued point setup m state)
      (step : Step setup.nstreams.toNat m state state') : Continued point setup m state'
  | resume {state : Streaming} {usbdev usbdev' : Controller} {objects : Nat -> Buffer}
      {memory memory' memory'' : Memory} {saved : Saved} {used sizeofStream : Nat}
      {size len : BitVec 32} {ctx buf usedAt ctx' data : Pointer} (setup' : Setup)
      (before : Continued point setup m state) (here : point state)
      (suspended : usbTestutilsStreamsSuspend sizeofStream ctx buf usedAt size state.memory =
        .ret (.ok (saved, used), state.memory))
      (asMany : setup'.nstreams = setup.nstreams)
      (configured : Usbdev.Reachable m ⟨usbdev, memory.pool, objects⟩)
      (unused : forall id, id < setup.nstreams.toNat -> usbdev.Pending (id + 1) = false ∧
        (memory.inEndpoints (id + 1)).transfer.buffer = none)
      (execution : Exec device Hardware usbdev (setup'.init memory) usbdev' (.ok (), memory'))
      (resumed : usbTestutilsStreamsResume sizeofStream ctx' data saved len memory' =
        .ret (.ok (), memory'')) :
      Continued point setup m ⟨usbdev', objects, memory'', state.accepted, state.accepted⟩

/-- The device has been told of every packet that the host has collected. -/
def Settled (n : Nat) (state : Streaming) : Prop :=
  forall id, id < n -> state.controller.inSent (id + 1) = false

section

variable {n m id : Nat} {original : Nat -> Stream} {known : Nat -> Packet} {state : Streaming}
  {setup : Setup}

theorem Settled.accepted (settled : Settled n state) (inside : id < n) :
    state.accepted id = state.collected id := by
  unfold Streaming.accepted
  rw [settled id inside]
  exact List.append_nil _

/-- The streams go on where they were when their state was stored. -/
theorem Running.resume {usbdev usbdev' : Controller} {objects : Nat -> Buffer}
    {memory memory' memory'' : Memory} {saved : Saved} {used sizeofStream : Nat}
    {size len : BitVec 32} {ctx buf usedAt ctx' data : Pointer} {setup' : Setup}
    (running : Running setup.nstreams.toNat m original known state)
    (settled : Settled setup.nstreams.toNat state)
    (suspended : usbTestutilsStreamsSuspend sizeofStream ctx buf usedAt size state.memory =
      .ret (.ok (saved, used), state.memory))
    (asMany : setup'.nstreams = setup.nstreams)
    (configured : Usbdev.Reachable m ⟨usbdev, memory.pool, objects⟩)
    (unused : forall id, id < setup.nstreams.toNat -> usbdev.Pending (id + 1) = false ∧
      (memory.inEndpoints (id + 1)).transfer.buffer = none)
    (execution : Exec device Hardware usbdev (setup'.init memory) usbdev' (.ok (), memory'))
    (resumed : usbTestutilsStreamsResume sizeofStream ctx' data saved len memory' =
      .ret (.ok (), memory'')) :
    Running setup.nstreams.toNat m original (fun _ => [])
      ⟨usbdev', objects, memory'', state.accepted, state.accepted⟩ := by
  have fresh := Running.init configured (asMany ▸ unused) execution
  rw [asMany] at fresh
  have empty (id : Nat) (inside : id < setup.nstreams.toNat) : memory'.client.queue id = [] :=
    List.map_eq_nil_iff.mp (fresh.queues id inside).inOrder.symm
  have few := running.apportioned.few
  rw [<- running.apportioned.count] at few
  rcases size_of_suspend suspended with ⟨rfl, rfl, rfl, room⟩
  rw [suspend_eq sizeofStream few room] at suspended
  have stored : state.memory.client.saved = saved := by
    cases suspended
    rfl
  rw [<- stored] at resumed
  rcases size_of_resume (fresh.apportioned.total_eq_zero empty) resumed with ⟨rfl, rfl, complete⟩
  rcases resume_eq sizeofStream running.apportioned fresh.apportioned empty complete with
    ⟨ctx, loaded, apportioned, queues, rewound⟩
  rw [loaded] at resumed
  have final : { memory' with client := ctx } = memory'' := by
    cases resumed
    rfl
  rw [<- final]
  refine ⟨apportioned, ?_, fresh.alone, fresh.callbacks, fun id inside => ?_⟩
  · have tracked := fresh.tracked
    rw [waiting_empty empty, slots_empty empty] at tracked
    dsimp only
    rw [waiting_empty queues, slots_empty queues]
    exact tracked
  · have kept := running.queues id inside
    dsimp only
    rw [queues id inside, rewound id inside, settled.accepted inside]
    exact ⟨kept.alike.setTx _, nofun, nofun, (List.append_nil _).symm, kept.committed, rfl⟩

theorem Running.continue (running : Running setup.nstreams.toNat m setup.stream known state)
    (inside : id < setup.nstreams.toNat) :
    (setup.stream id).MakesAll (setup.stream id).tx (state.filled id)
      (state.memory.client.streams id).tx := by
  have kept := running.queues id inside
  rw [kept.inOrder]
  exact kept.committed.append kept.ahead.makesAll

/-- The host has accepted what the stream makes, up to what has been sent. -/
theorem Running.accepted (running : Running n m original known state) (inside : id < n) :
    Exists fun after =>
      (original id).MakesAll (original id).tx (state.accepted id) after := by
  have kept := running.queues id inside
  unfold Streaming.accepted
  split
  · rw [running.offered inside]
    cases queue : state.memory.client.queue id with
    | nil => exact ⟨_, kept.committed.append rfl⟩
    | cons head rest =>
        have ahead := kept.ahead
        rw [queue] at ahead
        exact ⟨head.tx, kept.committed.concat ahead.1⟩
  · rw [List.append_nil]
    exact ⟨_, kept.committed⟩

theorem Continued.running (continued : Continued (Settled setup.nstreams.toNat) setup m state) :
    Exists fun known => Running setup.nstreams.toNat m setup.stream known state := by
  induction continued with
  | init configured unused execution => exact ⟨_, Running.init configured unused execution⟩
  | step before step ih =>
      rcases ih with ⟨known, running⟩
      exact running.step step
  | resume setup' before here suspended asMany configured unused execution resumed ih =>
      rcases ih with ⟨known, running⟩
      exact ⟨_, running.resume here suspended asMany configured unused execution resumed⟩

/-! ## Continuity -/

theorem signature_generating (s : Stream) : (signature s).2.generating = s.generating := by
  unfold signature noteSignature
  split
  · dsimp only
    split <;> split <;> rfl
  · rfl

/-- What is on the stack does not matter to a stream that generates its data. -/
theorem nextPacket_generating {s : Stream} (generating : s.generating = true)
    (stack stack' : Nat -> BitVec 8) : nextPacket stack s = nextPacket stack' s := by
  have still := signature_generating
    { s with tx.bufSize := (packetLength s s.tx.bytes s.tx.bufSize).2 }
  unfold nextPacket payload packetData
  dsimp only at still ⊢
  rw [still, if_pos generating, if_pos generating]

theorem afterPackets_generating {s : Stream} (generating : s.generating = true)
    (leftovers leftovers' : Nat -> Nat -> BitVec 8) (count : Nat) :
    s.afterPackets leftovers count = s.afterPackets leftovers' count ∧
      (s.afterPackets leftovers count).generating = true := by
  induction count with
  | zero => exact ⟨rfl, generating⟩
  | succ count ih =>
      have next := nextPacket_stream (leftovers count) (s.afterPackets leftovers count)
      rw [Stream.afterPackets, Stream.afterPackets, <- ih.1]
      constructor
      · rw [nextPacket_generating ih.2 (leftovers count) (leftovers' count)]
      · rw [<- next]
        exact ih.2

theorem packet_generating {s : Stream} (generating : s.generating = true)
    (leftovers leftovers' : Nat -> Nat -> BitVec 8) : s.packet leftovers = s.packet leftovers' := by
  funext k
  have same := afterPackets_generating generating leftovers leftovers' k
  rw [Stream.packet, Stream.packet, <- same.1, nextPacket_generating same.2]

/-- Of two beginnings of a stream that generates its data the shorter one is a
beginning of the longer one. -/
theorem Stream.Begins.isPrefix {s : Stream} (generating : s.generating = true)
    {packets packets' : List Packet} (begins : s.Begins packets) (begins' : s.Begins packets')
    (shorter : packets.length <= packets'.length) : packets <+: packets' := by
  rcases begins with ⟨leftovers, same⟩
  rcases begins' with ⟨leftovers', same'⟩
  rw [packet_generating generating leftovers' leftovers] at same'
  rw [List.prefix_iff_eq_take]
  calc packets = (List.range packets.length).map (s.packet leftovers) := same
    _ = ((List.range packets'.length).take packets.length).map (s.packet leftovers) := by
        rw [List.take_range, Nat.min_eq_left shorter]
    _ = ((List.range packets'.length).map (s.packet leftovers)).take packets.length :=
        List.map_take
    _ = packets'.take packets.length := by rw [<- same']

/-- Whatever the number of sleeps, if the device has been told of all packets
that had been collected whenever its state was stored, the packets that the host
has accepted, and those accepted before the last sleep with all that have been
filled after it, are what an uninterrupted stream sends, packet by packet; and
for a stream that generates its data, this is what is filled in any run without
sleeps. -/
theorem accepted_continues (continued : Continued (Settled setup.nstreams.toNat) setup m state)
    (inside : id < setup.nstreams.toNat) :
    (setup.stream id).Begins (state.accepted id) ∧ (setup.stream id).Begins (state.filled id) ∧
      ((setup.stream id).generating = true -> forall (m' : Nat) (state' : Streaming),
        Reachable setup m' state' -> forall packets,
          packets = state.accepted id ∨ packets = state.filled id ->
            packets.length <= (state'.filled id).length -> packets <+: state'.filled id) := by
  rcases continued.running with ⟨known, running⟩
  rcases running.accepted inside with ⟨after, makes⟩
  have goesOn := running.continue inside
  refine ⟨makes.begins, goesOn.begins, fun generating m' state' reachable packets which shorter => ?_⟩
  rcases reachable.running with ⟨known', running'⟩
  have whole := (running'.continue inside).begins
  rcases which with rfl | rfl
  · exact makes.begins.isPrefix generating whole shorter
  · exact goesOn.begins.isPrefix generating whole shorter

end

theorem Reachable.continued {point : Streaming -> Prop} {setup : Setup} {m : Nat} {state : Streaming}
    (reachable : Reachable setup m state) : Continued point setup m state := by
  induction reachable with
  | init configured unused execution => exact .init configured unused execution
  | step before step ih => exact ih.step step

/-- One stream goes on after a sleep, initialised again, from the state that was stored. -/
def resumed (state : Streaming) : Streaming :=
  let after := ranFrom streamInitialised
    (usbTestutilsStreamsResume 72 .object .object state.memory.client.saved 73)
  ⟨streamInitialised.1, configuredSystem.objects, after.2, state.accepted, state.accepted⟩

set_option maxRecDepth 8000 in
theorem Continued.resumed {point : Streaming -> Prop} {state : Streaming}
    (before : Continued point oneStream 1 state) (here : point state)
    (single : state.memory.client.nstreams = 1)
    (loaded : usbTestutilsStreamsResume 72 .object .object state.memory.client.saved 73
      streamInitialised.2 = .ret (.ok (), (resumed state).memory)) :
    Continued point oneStream 1 (resumed state) := by
  have suspended : usbTestutilsStreamsSuspend 72 .object .object .object 100 state.memory =
      .ret (.ok (state.memory.client.saved, 73), state.memory) := by
    rw [suspend_eq 72 (by rw [single]; decide) (by rw [single]; decide), single]
    rfl
  exact before.resume oneStream here suspended rfl reachable_configuredSystem
    (fun _ _ => ⟨rfl, rfl⟩)
    (exec_ranFrom (configuredSystem.controller, memoryBefore) oneStream.init (by decide +kernel))
    loaded

/-- The signature has been processed before the sleep, and the packet of data that was waiting is
filled again and collected after it. -/
def dataResumed : Streaming := acknowledged (serviced (resumed signatureTold))

set_option maxRecDepth 8000 in
theorem continued_dataResumed : Continued (Settled 1) oneStream 1 dataResumed := by
  have settled : Settled 1 signatureTold := by
    intro id inside
    rw [Nat.lt_one_iff.mp inside]
    decide +kernel
  have asleep : Continued (Settled 1) oneStream 1 signatureTold := reachable_signatureTold.continued
  have awake := asleep.resumed settled rfl rfl
  have filled := awake.step (step_serviced (by decide +kernel))
  exact filled.step (step_acknowledged (by decide +kernel))

theorem accepted_continues_dataResumed :
    Continued (Settled oneStream.nstreams.toNat) oneStream 1 dataResumed ∧
      (dataResumed.accepted 0).map List.length = [16, 46] ∧
      (oneStream.stream 0).Begins (dataResumed.accepted 0) ∧
      dataResumed.filled 0 <+: signatureTold.filled 0 := by
  have continues := @accepted_continues 1 0 dataResumed oneStream continued_dataResumed Nat.one_pos
  exact ⟨continued_dataResumed, by decide +kernel, continues.1, continues.2.2 rfl 1 signatureTold
    reachable_signatureTold _ (Or.inr rfl) (by decide +kernel)⟩

/-! ## A packet that is accepted twice -/

/-- The host has collected the signature before the sleep, the device has not been told, and the host
has collected another packet after it. -/
def signatureRepeated : Streaming :=
  acknowledged (serviced (resumed (acknowledged (serviced initialised))))

set_option maxRecDepth 8000 in
theorem continued_signatureRepeated : Continued (fun _ => True) oneStream 1 signatureRepeated := by
  have queued := reachable_initialised.step (step_serviced (by decide +kernel))
  have asleep : Continued (fun _ => True) oneStream 1 (acknowledged (serviced initialised)) :=
    (queued.step (step_acknowledged (by decide +kernel))).continued
  have awake := asleep.resumed trivial rfl rfl
  have filled := awake.step (step_serviced (by decide +kernel))
  exact filled.step (step_acknowledged (by decide +kernel))

theorem length_accepted_signatureRepeated :
    (signatureRepeated.accepted 0).map List.length = [16, 16] := by decide +kernel

/-- The first packet is accepted before the sleep and again after it, where an
uninterrupted stream would have gone on with its data. -/
theorem accepted_repeated : ¬ (forall (setup : Setup) (m : Nat) (state : Streaming),
    Continued (fun _ => True) setup m state -> forall id, id < setup.nstreams.toNat ->
      (setup.stream id).Begins (state.accepted id)) := by
  intro continues
  rcases continues oneStream 1 signatureRepeated continued_signatureRepeated 0 (by decide) with
    ⟨leftovers, same⟩
  have generating : (oneStream.stream 0).generating = true := rfl
  rw [packet_generating generating leftovers (fun _ _ => 0)] at same
  have lengths := congrArg (List.map List.length) same
  have count : (signatureRepeated.accepted 0).length = 2 := by
    rw [<- List.length_map List.length, length_accepted_signatureRepeated]
    rfl
  rw [length_accepted_signatureRepeated, count] at lengths
  revert lengths
  decide

end UsbStreams
end SunburstChip
