import SunburstChip.Testing.UsbStreamsService

namespace SunburstChip
namespace UsbStreams

open Mmio Usbdev UsbTestutils
open Function (update update_eq_self update_of_ne update_self)

/-!
# Runs with streams

Streams are initialised on a configured controller, and from then on are
serviced and told of completions in any order, while the controller moves and
others use the driver.  In every state of such a run the counters add up, the
packets of a stream have been handed to the controller in the order in which
they were filled, and the controller has the packet at the head of each queue
and no other.
-/

/-- The controller, the buffer objects of others, and the memory; and what has
been observed, the packets each stream has filled and the packets that had been
collected by the host when it was told of a completion. -/
structure Streaming where
  controller : Controller
  objects : Nat -> Buffer
  memory : Memory
  filled : Nat -> List Packet
  collected : Nat -> List Packet

/-- What the driver is about. -/
def Streaming.system (state : Streaming) : System :=
  ⟨state.controller, state.memory.pool, state.objects⟩

/-- What is in the buffers of some entries. -/
def contents (usbdev : Controller) (entries : List TxBuf) : List Packet :=
  entries.map (fun entry => usbdev.packetBytes entry.buf.id.toNat entry.buf.offset.toNat)

/-- A step of a run: the controller moves, others use the driver and endpoints
that are not the streams', a stream is serviced, or a stream is told that its
packet has been collected. -/
inductive Step (n m : Nat) : Streaming -> Streaming -> Prop where
  | hardware {state : Streaming} {usbdev : Controller} (move : Hardware state.controller usbdev) :
      Step n m state { state with controller := usbdev }
  | others {state : Streaming} {usbdev : Controller}
      {result : DifResult × BufferPool × (Nat -> Buffer)} (call : Call)
      (inEndpoints : Nat -> InEndpoint Callback) (outEndpoints : Nat -> OutEndpoint Callback)
      (allowed : call.Allowed m state.system)
      (elsewhere : call.Elsewhere (state.memory.client.slots n))
      (apart : forall id, id < n -> inEndpoints (id + 1) = state.memory.inEndpoints (id + 1))
      (execution : Exec device Hardware state.controller
        (call.perform state.memory.pool state.objects) usbdev result) :
      Step n m state { state with
        controller := usbdev
        objects := result.2.2
        memory := ⟨result.2.1, inEndpoints, outEndpoints, state.memory.client⟩ }
  | service {state : Streaming} {usbdev : Controller} {out : Except Failure Unit × Memory}
      (stack : Nat -> BitVec 8) (id : BitVec 8)
      (stream : id.toNat < n ∨ usbutilsStreamsMax <= id.toNat)
      (execution : Exec device Hardware state.controller
        (usbTestutilsStreamService stack id state.memory) usbdev out) :
      Step n m state { state with
        controller := usbdev
        memory := out.2
        filled := update state.filled id.toNat (state.filled id.toNat ++
          contents usbdev ((out.2.client.queue id.toNat).drop
            (state.memory.client.queue id.toNat).length)) }
  | txDone {state : Streaming} {usbdev : Controller} {out : Except Failure Unit × Memory}
      (id : Nat) (stream : id < n) (sent : state.controller.inSent (id + 1) = true)
      (execution : Exec device Hardware state.controller
        (pollSent call (.ofNat 8 (id + 1)) state.memory) usbdev out) :
      Step n m state { state with
        controller := usbdev
        memory := out.2
        collected := update state.collected id
          (state.collected id ++ offered state.controller (id + 1)) }

/-- The states of the runs with some streams, which are initialised on a
configured controller on which none of their endpoints is in use. -/
inductive Reachable (setup : Setup) (m : Nat) : Streaming -> Prop where
  | init {usbdev usbdev' : Controller} {objects : Nat -> Buffer} {memory memory' : Memory}
      (configured : Usbdev.Reachable m ⟨usbdev, memory.pool, objects⟩)
      (unused : forall id, id < setup.nstreams.toNat -> usbdev.Pending (id + 1) = false ∧
        (memory.inEndpoints (id + 1)).transfer.buffer = none)
      (execution : Exec device Hardware usbdev (setup.init memory) usbdev' (.ok (), memory')) :
      Reachable setup m ⟨usbdev', objects, memory', fun _ => [], fun _ => []⟩
  | step {state state' : Streaming} (before : Reachable setup m state)
      (step : Step setup.nstreams.toNat m state state') : Reachable setup m state'

/-! ## What holds in every state -/

/-- The counters, the endpoints and the queues fit together, where `known` is
what is in the buffers. -/
structure Running (n m : Nat) (original : Nat -> Stream) (known : Nat -> Packet)
    (state : Streaming) : Prop where
  apportioned : Apportioned n state.memory.client
  tracked : Tracked m (state.memory.client.waiting n) (state.memory.client.slots n) known
    state.system
  alone : forall id, id < n -> (state.memory.inEndpoints (id + 1)).transfer.buffer = none
  callbacks : forall id, id < n ->
    (state.memory.inEndpoints (id + 1)).txDoneCallback = some (.strmTxDone id)
  queues : forall id, id < n -> QueueKept (original id) known (state.memory.client.streams id)
    (state.memory.client.queue id) (state.filled id) (state.collected id)

section

variable {n m id : Nat} {original : Nat -> Stream} {known : Nat -> Packet}
  {state state' : Streaming}
variable {entry : TxBuf} {ctx : StreamsCtx} {usbdev : Controller} {state : Streaming}

/-- What is in the queues is the streams' alone. -/
theorem mine_of_mem_queue (few : n <= usbutilsStreamsMax) (inside : id < n)
    (queued : entry ∈ ctx.queue id) :
    Mine (ctx.waiting n) (ctx.slots n) entry.buf.id.toNat := by
  change n <= 11 at few
  cases queue : ctx.queue id with
  | nil =>
      rw [queue] at queued
      cases queued
  | cons head rest =>
      rw [queue] at queued
      rcases List.mem_cons.mp queued with first | later
      · refine Or.inr ⟨id + 1, (show id + 1 < 12 by omega), head.buf.offset.toNat, ?_⟩
        rw [StreamsCtx.slots_of_lt inside, queue, first]
        rfl
      · refine Or.inl (Multiset.mem_sum.mpr ⟨id, Finset.mem_range.mpr inside, ?_⟩)
        rw [queue]
        exact Multiset.mem_coe.mpr (List.mem_map_of_mem later)

theorem Running.packetBytes (running : Running n m original known state) (inside : id < n)
    (queued : entry ∈ state.memory.client.queue id) :
    state.controller.packetBytes entry.buf.id.toNat entry.buf.offset.toNat =
      known entry.buf.id.toNat := by
  have begins := running.tracked.contents _
    (mine_of_mem_queue running.apportioned.few inside queued)
  rw [<- (running.queues id inside).lengths entry queued]
  exact begins.packetBytes

/-- An endpoint offers the packet at the head of its queue. -/
theorem Running.offered (running : Running n m original known state) (inside : id < n) :
    offered state.controller (id + 1) =
      ((state.memory.client.queue id).take 1).map (fun entry => known entry.buf.id.toNat) := by
  have described := running.tracked.endpoints (id + 1)
  rw [StreamsCtx.slots_of_lt inside] at described
  unfold Usbdev.offered
  cases queue : state.memory.client.queue id with
  | nil =>
      rw [queue] at described
      rw [show state.controller.Pending (id + 1) = false from described]
      rfl
  | cons head rest =>
      rw [queue] at described
      rcases described with ⟨pending, buffer, size⟩
      have first : head ∈ state.memory.client.queue id := by
        rw [queue]
        exact List.mem_cons_self
      have bytes := running.packetBytes inside first
      rw [show state.controller.Pending (id + 1) = true from pending, if_pos rfl]
      rw [show (state.controller.configIn (id + 1)).buffer.toNat = _ from buffer,
        show (state.controller.configIn (id + 1)).size.toNat = _ from size, bytes]
      rfl

/-! ## Each step keeps it -/

theorem Running.hardware (running : Running n m original known state)
    (move : Hardware state.controller usbdev) :
    Running n m original known { state with controller := usbdev } :=
  ⟨running.apportioned, running.tracked.hardware move, running.alone, running.callbacks,
    running.queues⟩

theorem Running.others {result : DifResult × BufferPool × (Nat -> Buffer)}
    (running : Running n m original known state) {call : Call}
    {inEndpoints : Nat -> InEndpoint Callback} {outEndpoints : Nat -> OutEndpoint Callback}
    (allowed : call.Allowed m state.system)
    (elsewhere : call.Elsewhere (state.memory.client.slots n))
    (apart : forall id, id < n -> inEndpoints (id + 1) = state.memory.inEndpoints (id + 1))
    (execution : Exec device Hardware state.controller
      (call.perform state.memory.pool state.objects) usbdev result) :
    Running n m original known { state with
      controller := usbdev
      objects := result.2.2
      memory := ⟨result.2.1, inEndpoints, outEndpoints, state.memory.client⟩ } := by
  have tracked := perform_tracked call elsewhere _ _ _ ⟨running.tracked, allowed⟩ execution
  refine ⟨running.apportioned, tracked, fun id inside => ?_, fun id inside => ?_, running.queues⟩
  · dsimp only
    rw [apart id inside]
    exact running.alone id inside
  · dsimp only
    rw [apart id inside]
    exact running.callbacks id inside

/-- A stream that there cannot be is not serviced. -/
theorem service_tooMany {memory : Memory} {id : BitVec 8} (stack : Nat -> BitVec 8)
    (tooMany : usbutilsStreamsMax <= id.toNat) :
    usbTestutilsStreamService stack id memory = .ret (.error (.status .kInternal), memory) := by
  unfold usbTestutilsStreamService tryCheck
  rw [decide_eq_false (Nat.not_lt.mpr tooMany)]
  rfl

/-- Memory in which a packet has been queued. -/
theorem Running.pushed {pool : BufferPool} {stack : Nat -> BitVec 8} {bufferId : BitVec 8}
    (running : Running n m original known state) (inside : id < n)
    (fresh : ¬ Mine (state.memory.client.waiting n) (state.memory.client.slots n) bufferId.toNat)
    (room : state.memory.client.txBufsQueued (id + 1) < state.memory.client.txBufsLimit (id + 1))
    (roomTotal : state.memory.client.txQueuedTotal < .ofNat 8 usbutilsStreamsTxbufMax)
    (tracked : Tracked m ((state.memory.client.serviced stack id bufferId).waiting n)
      ((state.memory.client.serviced stack id bufferId).slots n)
      (update known bufferId.toNat
        (nextPacket stack (state.memory.client.streams id)).1) ⟨usbdev, pool, state.objects⟩) :
    Running n m original
      (update known bufferId.toNat (nextPacket stack (state.memory.client.streams id)).1)
      { state with
        controller := usbdev
        memory := { state.memory with
          pool := pool, client := state.memory.client.serviced stack id bufferId }
        filled := update state.filled id (state.filled id ++
          [(nextPacket stack (state.memory.client.streams id)).1]) } := by
  have few := running.apportioned.few
  have endpoint := running.apportioned.endpoints id inside
  have lessTotal : state.memory.client.txQueuedTotal.toNat < 24 := BitVec.lt_def.mp roomTotal
  have queued := running.apportioned.queued_le inside
  have unchanged (other : Nat) (below : other < n) (entry : TxBuf)
      (here : entry ∈ state.memory.client.queue other) :
      update known bufferId.toNat (nextPacket stack (state.memory.client.streams id)).1
        entry.buf.id.toNat = known entry.buf.id.toNat := by
    apply update_of_ne
    intro same
    apply fresh
    rw [<- same]
    exact mine_of_mem_queue few below here
  have sameEp : (nextPacket stack (state.memory.client.streams id)).2.txEp =
      (state.memory.client.streams id).txEp := by
    rw [<- nextPacket_stream]
  have apportioned : Apportioned n (state.memory.client.serviced stack id bufferId) := by
    unfold StreamsCtx.serviced
    dsimp only
    rw [endpoint]
    exact running.apportioned.enqueue inside rfl sameEp room roomTotal
  refine ⟨apportioned, tracked, running.alone, running.callbacks, fun other below => ?_⟩
  by_cases here : other = id
  · subst here
    have kept := (running.queues other below).congr (unchanged other below)
    have filled := filled_nextEntry stack (state.memory.client.streams other) bufferId
    have contents : update known bufferId.toNat
        (nextPacket stack (state.memory.client.streams other)).1
        (nextEntry stack (state.memory.client.streams other) bufferId).buf.id.toNat =
          (nextPacket stack (state.memory.client.streams other)).1 := update_self _ _ _
    have pushed := kept.push stack contents filled.offset filled.type rfl
    have queue := StreamsCtx.queue_serviced stack bufferId endpoint
      (show (state.memory.client.txBufsQueued (other + 1)).toNat < 24 by omega)
    have stream : (state.memory.client.serviced stack other bufferId).streams other =
        (nextPacket stack (state.memory.client.streams other)).2 := update_self _ _ _
    dsimp only
    rw [queue, stream, update_self]
    exact pushed
  · have kept := (running.queues other below).congr (unchanged other below)
    have queue : (state.memory.client.serviced stack id bufferId).queue other =
        state.memory.client.queue other := StreamsCtx.queue_enqueue_of_ne endpoint here
    have stream : (state.memory.client.serviced stack id bufferId).streams other =
        state.memory.client.streams other := update_of_ne here _ _
    dsimp only
    rw [queue, stream, update_of_ne here]
    exact kept

/-- Memory after the packet at the head of a queue has been collected. -/
theorem Running.popped {pool : BufferPool} (running : Running n m original known state)
    (inside : id < n) (sent : state.controller.inSent (id + 1) = true)
    (tracked : Tracked m ((state.memory.client.completed id).waiting n)
      ((state.memory.client.completed id).slots n) known ⟨usbdev, pool, state.objects⟩) :
    Running n m original known { state with
      controller := usbdev
      memory := { state.memory with pool := pool, client := state.memory.client.completed id }
      collected := update state.collected id
        (state.collected id ++ Usbdev.offered state.controller (id + 1)) } := by
  have endpoint := running.apportioned.endpoints id inside
  have offered := running.offered inside
  have nonempty : 0 < (state.memory.client.txBufsQueued (id + 1)).toNat := by
    rw [<- StreamsCtx.length_queue]
    apply List.length_pos_iff.mpr
    intro empty
    have pending : state.controller.Pending (id + 1) = true := by
      rw [Controller.Pending, sent, Bool.or_true]
    rw [empty] at offered
    unfold Usbdev.offered at offered
    rw [if_pos pending] at offered
    cases offered
  refine ⟨running.apportioned.completed inside nonempty, tracked, running.alone,
    running.callbacks, fun other below => ?_⟩
  by_cases here : other = id
  · subst here
    have kept := running.queues other below
    have queue := StreamsCtx.queue_completed endpoint nonempty
    have first := StreamsCtx.queue_eq_cons nonempty
    have stream : (state.memory.client.completed other).streams other =
        { state.memory.client.streams other with
          txCmt := (state.memory.client.txBufs (other + 1) 0).tx } := by
      unfold StreamsCtx.completed StreamsCtx.headSent
      dsimp only
      rw [endpoint]
      split <;> exact update_self _ _ _
    dsimp only
    rw [stream, queue, update_self, offered]
    generalize state.memory.client.txBufs (other + 1) 0 = head at *
    rw [first] at kept ⊢
    generalize (state.memory.client.queue other).tail = rest at *
    have popped := kept.pop
    cases rest with
    | nil => exact popped
    | cons next others => exact popped.setHead _
  · have queue := StreamsCtx.queue_completed_of_ne endpoint here
    have stream : (state.memory.client.completed id).streams other =
        state.memory.client.streams other := by
      unfold StreamsCtx.completed StreamsCtx.headSent
      dsimp only
      split <;> exact update_of_ne here _ _
    dsimp only
    rw [queue, stream, update_of_ne here]
    exact running.queues other below

theorem Running.service {out : Except Failure Unit × Memory} {stack : Nat -> BitVec 8}
    {id : BitVec 8} (running : Running n m original known state)
    (stream : id.toNat < n ∨ usbutilsStreamsMax <= id.toNat)
    (execution : Exec device Hardware state.controller
      (usbTestutilsStreamService stack id state.memory) usbdev out) :
    Exists fun known' => Running n m original known' { state with
      controller := usbdev
      memory := out.2
      filled := update state.filled id.toNat (state.filled id.toNat ++
        UsbStreams.contents usbdev ((out.2.client.queue id.toNat).drop
          (state.memory.client.queue id.toNat).length)) } := by
  have same : update state.filled id.toNat (state.filled id.toNat ++
      UsbStreams.contents usbdev ((state.memory.client.queue id.toNat).drop
        (state.memory.client.queue id.toNat).length)) = state.filled := by
    rw [List.drop_length]
    change update state.filled id.toNat (state.filled id.toNat ++ []) = _
    rw [List.append_nil, update_eq_self]
  rcases stream with inside | tooMany
  · rcases service_spec stack inside running.apportioned running.tracked execution with
      ⟨_, ⟨unchanged, tracked⟩ |
        ⟨bufferId, pool, _, fresh, room, roomTotal, memory, tracked⟩⟩
    · rw [unchanged, same]
      exact ⟨known, running.apportioned, tracked, running.alone, running.callbacks,
        running.queues⟩
    · have pushed := running.pushed inside fresh room roomTotal tracked
      have lessTotal : state.memory.client.txQueuedTotal.toNat < 24 := BitVec.lt_def.mp roomTotal
      have queued := running.apportioned.queued_le inside
      have queue := StreamsCtx.queue_serviced stack bufferId
        (running.apportioned.endpoints id.toNat inside)
        (show (state.memory.client.txBufsQueued (id.toNat + 1)).toNat < 24 by omega)
      have last : nextEntry stack (state.memory.client.streams id.toNat) bufferId ∈
          (state.memory.client.serviced stack id.toNat bufferId).queue id.toNat := by
        rw [queue]
        exact List.mem_append_right _ (List.mem_singleton_self _)
      have bytes := pushed.packetBytes inside last
      have known : update known bufferId.toNat
          (nextPacket stack (state.memory.client.streams id.toNat)).1 (nextEntry stack
            (state.memory.client.streams id.toNat) bufferId).buf.id.toNat =
          (nextPacket stack (state.memory.client.streams id.toNat)).1 := update_self _ _ _
      rw [known] at bytes
      rw [memory]
      dsimp only at bytes ⊢
      rw [queue, List.drop_left]
      unfold UsbStreams.contents
      rw [List.map_singleton, bytes]
      exact ⟨_, pushed⟩
  · rw [service_tooMany stack tooMany] at execution
    have idle : Triple device Hardware
        (fun usbdev => Tracked m (state.memory.client.waiting n) (state.memory.client.slots n)
          known ⟨usbdev, state.memory.pool, state.objects⟩)
        (.ret ((.error (.status .kInternal), state.memory) : Except Failure Unit × Memory))
        (fun out usbdev => out = (.error (.status .kInternal), state.memory) ∧
          Tracked m (state.memory.client.waiting n) (state.memory.client.slots n) known
            ⟨usbdev, state.memory.pool, state.objects⟩) :=
      Triple.ret stable_tracked (fun _ tracked => ⟨rfl, tracked⟩)
    rcases idle _ _ _ running.tracked execution with ⟨rfl, tracked⟩
    dsimp only
    rw [same]
    exact ⟨known, running.apportioned, tracked, running.alone, running.callbacks, running.queues⟩

theorem Running.short (running : Running n m original known state) (inside : id < n)
    (queued : entry ∈ state.memory.client.queue id) :
    entry.buf.offset.toNat < 128 := by
  have begins := running.tracked.contents _
    (mine_of_mem_queue running.apportioned.few inside queued)
  have length : (known entry.buf.id.toNat).length <= 64 := begins.1
  rw [(running.queues id inside).lengths entry queued] at length
  omega

theorem Running.txDone {out : Except Failure Unit × Memory}
    (running : Running n m original known state) (inside : id < n)
    (sent : state.controller.inSent (id + 1) = true)
    (execution : Exec device Hardware state.controller
      (pollSent call (.ofNat 8 (id + 1)) state.memory) usbdev out) :
    out.1 = .ok () ∧ Running n m original known { state with
      controller := usbdev
      memory := out.2
      collected := update state.collected id
        (state.collected id ++ Usbdev.offered state.controller (id + 1)) } := by
  rcases completion_spec inside running.apportioned (running.alone id inside)
    (running.callbacks id inside) (running.queues id inside).ready
    (fun _ queued => running.short inside queued) running.tracked sent execution with
    ⟨fine, pool, memory, tracked⟩
  rw [memory]
  exact ⟨fine, running.popped inside sent tracked⟩

theorem Running.step (running : Running n m original known state) (step : Step n m state state') :
    Exists fun known' => Running n m original known' state' := by
  cases step with
  | hardware move => exact ⟨known, running.hardware move⟩
  | others call inEndpoints outEndpoints allowed elsewhere apart execution =>
      exact ⟨known, running.others allowed elsewhere apart execution⟩
  | service stack id stream execution => exact running.service stream execution
  | txDone id stream sent execution => exact ⟨known, (running.txDone stream sent execution).2⟩

/-! ## Beginning -/

/-- Endpoints that are not in use. -/
def unusedSlots (n endpoint : Nat) : Slot :=
  if 0 < endpoint ∧ endpoint <= n then .idle else .untracked

theorem tracked_unused {system : System} (configured : Usbdev.Reachable m system)
    (unused : forall id, id < n -> system.controller.Pending (id + 1) = false) :
    Tracked m 0 (unusedSlots n) (fun _ => []) system := by
  apply configured.tracked
  · intro endpoint
    unfold unusedSlots
    split
    · next used =>
        rcases Nat.exists_eq_succ_of_ne_zero (Nat.ne_of_gt used.1) with ⟨id, rfl⟩
        exact unused id used.2
    · trivial
  · intro endpoint buffer size holds
    unfold unusedSlots at holds
    split at holds <;> cases holds

theorem slots_empty (empty : forall id, id < n -> ctx.queue id = []) :
    ctx.slots n = unusedSlots n := by
  funext endpoint
  unfold StreamsCtx.slots unusedSlots
  split
  · next used =>
      rw [empty (endpoint - 1) (by omega)]
      rfl
  · rfl

theorem waiting_empty (empty : forall id, id < n -> ctx.queue id = []) :
    ctx.waiting n = 0 := by
  apply Finset.sum_eq_zero
  intro id inside
  rw [empty id (Finset.mem_range.mp inside)]
  rfl

theorem Running.init {setup : Setup} {usbdev' : Controller} {objects : Nat -> Buffer}
    {memory memory' : Memory} (configured : Usbdev.Reachable m ⟨usbdev, memory.pool, objects⟩)
    (unused : forall id, id < setup.nstreams.toNat -> usbdev.Pending (id + 1) = false ∧
      (memory.inEndpoints (id + 1)).transfer.buffer = none)
    (execution : Exec device Hardware usbdev (setup.init memory) usbdev' (.ok (), memory')) :
    Running setup.nstreams.toNat m setup.stream (fun _ => [])
      ⟨usbdev', objects, memory', fun _ => [], fun _ => []⟩ := by
  have tracked := tracked_unused configured (fun id inside => (unused id inside).1)
  rcases init_spec setup (few_of_init execution) _ _ _ tracked execution with
    ⟨_, initialised, tracked'⟩
  refine ⟨initialised.apportioned, ?_, fun id inside => ?_, initialised.callbacks,
    fun id inside => ?_⟩
  · dsimp only [Streaming.system]
    rw [waiting_empty initialised.queues, slots_empty initialised.queues, initialised.pool]
    exact tracked'
  · exact (congrArg Transfer.buffer (initialised.transfers (id + 1))).trans (unused id inside).2
  · dsimp only
    rw [initialised.queues id inside, initialised.streams id inside]
    exact ⟨rfl, nofun, nofun, rfl, rfl, rfl⟩

theorem Reachable.running {setup : Setup} (reachable : Reachable setup m state) :
    Exists fun known => Running setup.nstreams.toNat m setup.stream known state := by
  induction reachable with
  | init configured unused execution => exact ⟨_, Running.init configured unused execution⟩
  | step before step ih =>
      rcases ih with ⟨known, running⟩
      exact running.step step

/-! ## The queues -/

/-- The controller has the buffer, to receive a packet into, or with a packet
that it has received or that it has been given to send. -/
def HasBuffer (usbdev : Controller) (id : Nat) : Prop :=
  (Exists fun buffer => buffer ∈ usbdev.avSetup ∧ buffer.toNat = id) ∨
    (Exists fun buffer => buffer ∈ usbdev.avOut ∧ buffer.toNat = id) ∨
    (Exists fun entry => entry ∈ usbdev.rxFifo ∧ entry.buffer.toNat = id) ∨
    Exists fun endpoint => endpoint < numEndpoints ∧ usbdev.Pending endpoint = true ∧
      (usbdev.configIn endpoint).buffer.toNat = id

/-- What is kept of the transmit queues of `n` streams: the counters add up and
are within their limits, no access is out of range and nothing else goes wrong
either, packets are handed to the controller in the order in which they have
been filled, and the controller has what is at the head of each queue. -/
structure QueuesKept (n : Nat) (state : Streaming) : Prop where
  total : state.memory.client.txQueuedTotal.toNat =
    ∑ id ∈ Finset.range n, (state.memory.client.txBufsQueued (id + 1)).toNat
  bounded : state.memory.client.txQueuedTotal.toNat <= usbutilsStreamsTxbufMax
  limits : forall id, id < n -> (state.memory.client.txBufsLimit (id + 1)).toNat =
    (usbutilsStreamsTxbufMax + n - 1) / n
  limited : forall id, id < n -> (state.memory.client.txBufsQueued (id + 1)).toNat <=
    (state.memory.client.txBufsLimit (id + 1)).toNat
  serviceInRange : forall (stack : Nat -> BitVec 8) (id : BitVec 8) (usbdev : Controller)
    (out : Except Failure Unit × Memory), id.toNat < n ->
    Exec device Hardware state.controller (usbTestutilsStreamService stack id state.memory)
      usbdev out -> out.1 = .ok ()
  txDoneInRange : forall (id : Nat) (usbdev : Controller) (out : Except Failure Unit × Memory),
    id < n -> state.controller.inSent (id + 1) = true ->
    Exec device Hardware state.controller (pollSent call (.ofNat 8 (id + 1)) state.memory)
      usbdev out -> out.1 = .ok ()
  inOrder : forall id, id < n -> state.filled id =
    state.collected id ++ offered state.controller (id + 1) ++
      contents state.controller (state.memory.client.queue id).tail
  pending : forall id, id < n -> (state.controller.Pending (id + 1) = true ↔
    state.memory.client.queue id ≠ [])
  owned : forall id, id < n -> forall idx entry,
    (state.memory.client.queue id)[idx]? = some entry ->
      (HasBuffer state.controller entry.buf.id.toNat ↔ idx = 0)
  head : forall id, id < n -> forall entry, (state.memory.client.queue id)[0]? = some entry ->
    (state.controller.configIn (id + 1)).buffer.toNat = entry.buf.id.toNat ∧
      (state.controller.configIn (id + 1)).size.toNat = entry.buf.offset.toNat

/-- What is in hand, the controller does not have. -/
theorem not_hasBuffer_of_inHand {away : Multiset Nat} {slots : Nat -> Slot} {system : System}
    {bufferId : Nat} (tracked : Tracked m away slots known system) (inHand : bufferId ∈ away) :
    ¬ HasBuffer system.controller bufferId := by
  have elsewhere (place : Place) (inside : place ∈ places m) : bufferId ∉ system.held place :=
    tracked.account.accounted.not_held_of_inHand (Multiset.nodup_range _) inside inHand
  rintro (⟨buffer, there, rfl⟩ | ⟨buffer, there, rfl⟩ | ⟨entry, there, rfl⟩ |
    ⟨endpoint, below, pending, rfl⟩)
  · exact elsewhere .availableSetup (mem_places_availableSetup m)
      (Multiset.mem_coe.mpr (List.mem_map_of_mem there))
  · exact elsewhere .availableOut (mem_places_availableOut m)
      (Multiset.mem_coe.mpr (List.mem_map_of_mem there))
  · exact elsewhere .received (mem_places_received m)
      (Multiset.mem_coe.mpr (List.mem_map_of_mem there))
  · apply elsewhere (.configIn endpoint) (mem_places_configIn.mpr below)
    simp only [System.held, pending, if_true]
    exact Multiset.mem_singleton_self _

theorem Running.head (running : Running n m original known state) (inside : id < n)
    {rest : List TxBuf} (queue : state.memory.client.queue id = entry :: rest) :
    state.controller.Pending (id + 1) = true ∧
      (state.controller.configIn (id + 1)).buffer.toNat = entry.buf.id.toNat ∧
      (state.controller.configIn (id + 1)).size.toNat = entry.buf.offset.toNat := by
  have described := running.tracked.endpoints (id + 1)
  rw [StreamsCtx.slots_of_lt inside, queue] at described
  exact described

theorem Running.idle (running : Running n m original known state) (inside : id < n)
    (queue : state.memory.client.queue id = []) : state.controller.Pending (id + 1) = false := by
  have described := running.tracked.endpoints (id + 1)
  rw [StreamsCtx.slots_of_lt inside, queue] at described
  exact described

theorem Running.owned (running : Running n m original known state) (inside : id < n) {idx : Nat}
    (here : (state.memory.client.queue id)[idx]? = some entry) :
    HasBuffer state.controller entry.buf.id.toNat ↔ idx = 0 := by
  have few : n <= 11 := running.apportioned.few
  cases queue : state.memory.client.queue id with
  | nil =>
      rw [queue] at here
      cases here
  | cons head rest =>
      rw [queue] at here
      cases idx with
      | zero =>
          rw [List.getElem?_cons_zero, Option.some.injEq] at here
          rcases running.head inside queue with ⟨pending, buffer, size⟩
          rw [<- here]
          have offers : HasBuffer state.controller head.buf.id.toNat :=
            Or.inr (Or.inr (Or.inr ⟨id + 1, (show id + 1 < 12 by omega), pending, buffer⟩))
          exact ⟨fun _ => rfl, fun _ => offers⟩
      | succ idx =>
          rw [List.getElem?_cons_succ] at here
          have inHand : entry.buf.id.toNat ∈ state.memory.client.waiting n := by
            refine Multiset.mem_sum.mpr ⟨id, Finset.mem_range.mpr inside, ?_⟩
            rw [queue]
            exact Multiset.mem_coe.mpr (List.mem_map_of_mem (List.mem_of_getElem? here))
          have notThere := not_hasBuffer_of_inHand running.tracked inHand
          exact ⟨fun there => absurd there notThere, nofun⟩

/-- In every state of every run with streams the queues are kept. -/
theorem queues_kept {setup : Setup} (reachable : Reachable setup m state) :
    QueuesKept setup.nstreams.toNat state := by
  rcases reachable.running with ⟨known, running⟩
  constructor
  · exact running.apportioned.total
  · exact running.apportioned.bounded
  · exact running.apportioned.limits
  · exact running.apportioned.limited
  · intro stack id usbdev out inside execution
    exact (service_spec stack inside running.apportioned running.tracked execution).1
  · intro id usbdev out inside sent execution
    exact (running.txDone inside sent execution).1
  · intro id inside
    have waiting : contents state.controller (state.memory.client.queue id).tail =
        (state.memory.client.queue id).tail.map (fun entry => known entry.buf.id.toNat) :=
      List.map_congr_left
        (fun _ queued => running.packetBytes inside (List.mem_of_mem_tail queued))
    rw [(running.queues id inside).inOrder, running.offered inside, waiting, List.append_assoc,
      <- List.map_append, <- List.drop_one, List.take_append_drop]
  · intro id inside
    cases queue : state.memory.client.queue id with
    | nil =>
        rw [running.idle inside queue]
        exact ⟨nofun, fun nonempty => absurd rfl nonempty⟩
    | cons head rest => exact ⟨fun _ => List.cons_ne_nil _ _, fun _ => (running.head inside queue).1⟩
  · exact fun id inside idx entry here => running.owned inside here
  · intro id inside entry here
    cases queue : state.memory.client.queue id with
    | nil =>
        rw [queue] at here
        cases here
    | cons head rest =>
        rw [queue, List.getElem?_cons_zero, Option.some.injEq] at here
        rw [<- here]
        exact (running.head inside queue).2

/-- One bulk stream on a driver that has just been configured. -/
def oneStream : Setup := ⟨1, fun _ => .kUsbTransferTypeBulk, 100, 0x30⟩

/-- Memory before the stream is initialised. -/
def memoryBefore : Memory where
  pool := configuredSystem.pool
  inEndpoints _ := ⟨.kUsbTransferTypeControl, none, none, none, ⟨none, 0, 0, 0, false, false,
    ⟨0, 0, 0, .kDifUsbdevBufferTypeStale⟩⟩⟩
  outEndpoints _ := ⟨.kUsbTransferTypeControl, none, none⟩
  client := {
    nstreams := 0
    streams _ := initialStream 0 .kUsbTransferTypeBulk 0 0 0 0
    txBufsLimit _ := 0
    txBufsQueued _ := 0
    txQueuedTotal := 0
    txBufs _ _ := ⟨⟨0, 0, 0, .kDifUsbdevBufferTypeStale⟩, ⟨false, 0, 0, 0, 0⟩⟩ }

/-- The controller and the memory after a routine that nothing disturbs. -/
def ranFrom (start : Controller × Memory) (code : Code Memory Failure Unit) :
    Controller × Memory :=
  match (code start.2).run device start.1 with
  | some ((.ok (), memory), usbdev) => (usbdev, memory)
  | _ => start

/-- The routine comes to an end there without a failure. -/
def succeeds (start : Controller × Memory) (code : Code Memory Failure Unit) : Bool :=
  match (code start.2).run device start.1 with
  | some ((.ok (), _), _) => true
  | _ => false

theorem exec_ranFrom (start : Controller × Memory) (code : Code Memory Failure Unit)
    (fine : succeeds start code = true) :
    Exec device Hardware start.1 (code start.2) (ranFrom start code).1
      (.ok (), (ranFrom start code).2) := by
  apply exec_of_run
  unfold succeeds at fine
  unfold ranFrom
  split at fine
  · next ran => rw [ran]
  · cases fine

/-- What services the stream. -/
def service : Code Memory Failure Unit := usbTestutilsStreamService (fun _ => 0) 0

/-- One stream has just been initialised. -/
def streamInitialised : Controller × Memory :=
  ranFrom (configuredSystem.controller, memoryBefore) oneStream.init

/-- The state then. -/
def initialised : Streaming :=
  ⟨streamInitialised.1, configuredSystem.objects, streamInitialised.2, fun _ => [], fun _ => []⟩

/-- The stream is serviced. -/
def serviced (state : Streaming) : Streaming :=
  let after := ranFrom (state.controller, state.memory) service
  { state with
    controller := after.1
    memory := after.2
    filled := update state.filled 0 (state.filled 0 ++
      contents after.1 ((after.2.client.queue 0).drop (state.memory.client.queue 0).length)) }

theorem step_serviced (fine : succeeds (state.controller, state.memory) service = true) :
    Step 1 1 state (serviced state) :=
  .service (fun _ => 0) 0 (Or.inl Nat.one_pos) (exec_ranFrom _ _ fine)

/-- The host collects the packet of the stream. -/
def acknowledged (state : Streaming) : Streaming :=
  { state with
    controller.configIn := update state.controller.configIn 1
      { state.controller.configIn 1 with sending := false, rdy := false }
    controller.inSent := update state.controller.inSent 1 true }

theorem step_acknowledged (rdy : (state.controller.configIn 1).rdy = true) :
    Step 1 1 state (acknowledged state) :=
  .hardware (.acknowledge 1 (by decide) rdy)

/-- The stream is told of it. -/
def told (state : Streaming) : Streaming :=
  let after := ranFrom (state.controller, state.memory) (pollSent call 1)
  { state with
    controller := after.1
    memory := after.2
    collected := update state.collected 0
      (state.collected 0 ++ offered state.controller 1) }

theorem step_told (sent : state.controller.inSent 1 = true)
    (fine : succeeds (state.controller, state.memory) (pollSent call 1) = true) :
    Step 1 1 state (told state) :=
  .txDone 0 Nat.one_pos sent (exec_ranFrom _ _ fine)

set_option maxRecDepth 8000 in
theorem reachable_initialised : Reachable oneStream 1 initialised :=
  .init reachable_configuredSystem (fun _ _ => ⟨rfl, rfl⟩)
    (exec_ranFrom (configuredSystem.controller, memoryBefore) oneStream.init (by decide +kernel))

/-- The signature and a packet of data have been filled, and the signature has been collected. -/
def signatureTold : Streaming := told (acknowledged (serviced (serviced initialised)))

theorem reachable_signatureTold : Reachable oneStream 1 signatureTold := by
  have queued := reachable_initialised.step (step_serviced (by decide +kernel))
  have both := queued.step (step_serviced (by decide +kernel))
  have collected := both.step (step_acknowledged (by decide +kernel))
  exact collected.step (step_told rfl (by decide +kernel))

theorem queues_kept_signatureTold : Reachable oneStream 1 signatureTold ∧
    (signatureTold.filled 0).map List.length = [16, 46] ∧
      (signatureTold.collected 0).map List.length = [16] ∧ QueuesKept 1 signatureTold :=
  ⟨reachable_signatureTold, by decide +kernel, by decide +kernel,
    queues_kept reachable_signatureTold⟩

end

end UsbStreams
end SunburstChip
