import Mathlib.Algebra.Order.BigOperators.Group.Finset
import SunburstChip.Lib.ArrayQueue
import SunburstChip.Testing.UsbStreamsPackets

namespace SunburstChip
namespace UsbStreams

open Mmio Usbdev UsbTestutils ArrayQueue
open Function (update update_eq_self update_idem update_of_ne update_self)

/-!
# The transmit queues

The queue of a stream is the front of the array of its endpoint.  Servicing a
stream pushes onto it, and the completion of a packet pops from it.  Whatever
the order in which this happens, the counters add up, the packet at the head of
each queue is the one its endpoint offers to the host, and the packets behind
it are in hand.
-/

/-- The queue of a stream, which transmits at the endpoint behind its number. -/
def StreamsCtx.queue (ctx : StreamsCtx) (id : Nat) : List TxBuf :=
  entries (ctx.txBufs (id + 1)) (ctx.txBufsQueued (id + 1)).toNat

/-- What an endpoint offers to the host, by the queue of its stream. -/
def headSlot : List TxBuf -> Slot
  | [] => .idle
  | entry :: _ => .holds entry.buf.id.toNat entry.buf.offset.toNat

/-- What the endpoints of `n` streams offer. -/
def StreamsCtx.slots (n : Nat) (ctx : StreamsCtx) (endpoint : Nat) : Slot :=
  if 0 < endpoint ∧ endpoint <= n then headSlot (ctx.queue (endpoint - 1)) else .untracked

/-- The buffers of a queue that have not been sent. -/
def waitingOf (queue : List TxBuf) : Multiset Nat :=
  (queue.tail.map (fun entry => entry.buf.id.toNat) : List Nat)

/-- The buffers of `n` streams that have been filled and not been sent. -/
def StreamsCtx.waiting (n : Nat) (ctx : StreamsCtx) : Multiset Nat :=
  ∑ id ∈ Finset.range n, waitingOf (ctx.queue id)

/-- The counters of `n` streams. -/
structure Apportioned (n : Nat) (ctx : StreamsCtx) : Prop where
  few : n <= usbutilsStreamsMax
  count : ctx.nstreams.toNat = n
  endpoints : forall id, id < n -> (ctx.streams id).txEp.toNat = id + 1
  limits : forall id, id < n ->
    (ctx.txBufsLimit (id + 1)).toNat = (usbutilsStreamsTxbufMax + n - 1) / n
  limited : forall id, id < n ->
    (ctx.txBufsQueued (id + 1)).toNat <= (ctx.txBufsLimit (id + 1)).toNat
  total : ctx.txQueuedTotal.toNat =
    ∑ id ∈ Finset.range n, (ctx.txBufsQueued (id + 1)).toNat
  bounded : ctx.txQueuedTotal.toNat <= usbutilsStreamsTxbufMax

section

variable {n id : Nat} {ctx ctx' : StreamsCtx}

theorem StreamsCtx.length_queue (ctx : StreamsCtx) (id : Nat) :
    (ctx.queue id).length = (ctx.txBufsQueued (id + 1)).toNat := length_entries _ _

theorem StreamsCtx.slots_of_lt (inside : id < n) :
    ctx.slots n (id + 1) = headSlot (ctx.queue id) :=
  if_pos ⟨Nat.succ_pos id, inside⟩

/-- A change to one queue changes what its endpoint offers. -/
theorem StreamsCtx.slots_update (inside : id < n)
    (elsewhere : forall other, other < n -> other ≠ id -> ctx'.queue other = ctx.queue other) :
    ctx'.slots n = update (ctx.slots n) (id + 1) (headSlot (ctx'.queue id)) := by
  funext endpoint
  by_cases here : endpoint = id + 1
  · rw [here, update_self, slots_of_lt inside]
  · rw [update_of_ne here]
    unfold slots
    by_cases used : 0 < endpoint ∧ endpoint <= n
    · rw [if_pos used, if_pos used, elsewhere _ (by omega) (by omega)]
    · rw [if_neg used, if_neg used]

/-- A sum in which one summand is replaced. -/
theorem sum_exchange {α : Type} [AddCommMonoid α] (f f' : Nat -> α) (inside : id < n)
    (elsewhere : forall other, other < n -> other ≠ id -> f' other = f other) :
    ∑ other ∈ Finset.range n, f' other + f id = ∑ other ∈ Finset.range n, f other + f' id := by
  have member : id ∈ Finset.range n := Finset.mem_range.mpr inside
  have rest : ∑ other ∈ (Finset.range n).erase id, f' other =
      ∑ other ∈ (Finset.range n).erase id, f other :=
    Finset.sum_congr rfl (fun other erased =>
      elsewhere other (Finset.mem_range.mp (Finset.mem_of_mem_erase erased))
        (Finset.ne_of_mem_erase erased))
  rw [<- Finset.add_sum_erase _ _ member, <- Finset.add_sum_erase _ _ member, rest]
  abel

/-- A change to one queue changes what is waiting by what is waiting there. -/
theorem StreamsCtx.waiting_update (inside : id < n)
    (elsewhere : forall other, other < n -> other ≠ id -> ctx'.queue other = ctx.queue other) :
    ctx'.waiting n + waitingOf (ctx.queue id) = ctx.waiting n + waitingOf (ctx'.queue id) :=
  sum_exchange _ _ inside
    (fun other below apart => congrArg waitingOf (elsewhere other below apart))

theorem sum_queued_update (count : Nat -> BitVec 8) (inside : id < n) (queued : BitVec 8) :
    ∑ other ∈ Finset.range n, (update count (id + 1) queued (other + 1)).toNat +
        (count (id + 1)).toNat =
      ∑ other ∈ Finset.range n, (count (other + 1)).toNat + queued.toNat := by
  have summed := sum_exchange (fun other => (count (other + 1)).toNat)
    (fun other => (update count (id + 1) queued (other + 1)).toNat) inside
    (fun other _ apart => by
      rw [update_of_ne (fun same => apart (Nat.succ_injective same))])
  simpa only [update_self] using summed

theorem waitingOf_push {queue : List TxBuf} (entry : TxBuf) (nonempty : queue ≠ []) :
    waitingOf (queue ++ [entry]) = waitingOf queue + {entry.buf.id.toNat} := by
  cases queue with
  | nil => exact absurd rfl nonempty
  | cons head rest =>
      simp only [waitingOf, List.cons_append, List.tail_cons, List.map_append, List.map_singleton]
      exact coe_concat_eq _ _

theorem Apportioned.queued_le (apportioned : Apportioned n ctx) (inside : id < n) :
    (ctx.txBufsQueued (id + 1)).toNat <= ctx.txQueuedTotal.toNat := by
  rw [apportioned.total, <- Finset.add_sum_erase _ _ (Finset.mem_range.mpr inside)]
  exact Nat.le_add_right _ _

/-- With empty queues nothing is queued. -/
theorem Apportioned.total_eq_zero (apportioned : Apportioned n ctx)
    (empty : forall id, id < n -> ctx.queue id = []) : ctx.txQueuedTotal = 0 := by
  apply BitVec.eq_of_toNat_eq
  rw [apportioned.total]
  apply Finset.sum_eq_zero
  intro id inside
  rw [<- StreamsCtx.length_queue, empty id (Finset.mem_range.mp inside)]
  rfl

/-! ## Pushing -/

variable {entry : TxBuf} {s : Stream} {txEp other : Nat}

theorem StreamsCtx.queue_enqueue (endpoint : txEp = id + 1)
    (room : (ctx.txBufsQueued (id + 1)).toNat < 24) :
    (ctx.enqueue id txEp (ctx.txBufsQueued (id + 1)) s entry).queue id =
      ctx.queue id ++ [entry] := by
  subst endpoint
  have count : (ctx.txBufsQueued (id + 1) + 1).toNat = (ctx.txBufsQueued (id + 1)).toNat + 1 := by
    rw [BitVec.toNat_add]
    change ((ctx.txBufsQueued (id + 1)).toNat + 1) % 256 = _
    omega
  simp only [queue, enqueue, setQueued, setTxBuf, setStream, update_self, count]
  exact entries_push _ _ _

theorem StreamsCtx.queue_enqueue_of_ne {nqueued : BitVec 8} (endpoint : txEp = id + 1)
    (apart : other ≠ id) :
    (ctx.enqueue id txEp nqueued s entry).queue other = ctx.queue other := by
  subst endpoint
  have apart' : other + 1 ≠ id + 1 := fun same => apart (Nat.succ_injective same)
  simp only [queue, enqueue, setQueued, setTxBuf, setStream, update_of_ne apart']

theorem Apportioned.enqueue (apportioned : Apportioned n ctx) (inside : id < n)
    (endpoint : txEp = id + 1) (same : s.txEp = (ctx.streams id).txEp)
    (room : ctx.txBufsQueued (id + 1) < ctx.txBufsLimit (id + 1))
    (roomTotal : ctx.txQueuedTotal < .ofNat 8 usbutilsStreamsTxbufMax) :
    Apportioned n (ctx.enqueue id txEp (ctx.txBufsQueued (id + 1)) s entry) := by
  subst endpoint
  have less : (ctx.txBufsQueued (id + 1)).toNat < (ctx.txBufsLimit (id + 1)).toNat :=
    BitVec.lt_def.mp room
  have lessTotal : ctx.txQueuedTotal.toNat < 24 := BitVec.lt_def.mp roomTotal
  have small := (ctx.txBufsLimit (id + 1)).isLt
  have up : (ctx.txBufsQueued (id + 1) + 1).toNat = (ctx.txBufsQueued (id + 1)).toNat + 1 := by
    rw [BitVec.toNat_add]
    change ((ctx.txBufsQueued (id + 1)).toNat + 1) % 256 = _
    omega
  have total : (ctx.txQueuedTotal + 1).toNat = ctx.txQueuedTotal.toNat + 1 := by
    rw [BitVec.toNat_add]
    change (ctx.txQueuedTotal.toNat + 1) % 256 = _
    omega
  constructor
  · exact apportioned.few
  · exact apportioned.count
  · intro other below
    simp only [StreamsCtx.enqueue, StreamsCtx.setQueued, StreamsCtx.setTxBuf,
      StreamsCtx.setStream]
    by_cases here : other = id
    · subst here
      rw [update_self, same]
      exact apportioned.endpoints other below
    · rw [update_of_ne here]
      exact apportioned.endpoints other below
  · exact apportioned.limits
  · intro other below
    simp only [StreamsCtx.enqueue, StreamsCtx.setQueued, StreamsCtx.setTxBuf,
      StreamsCtx.setStream]
    by_cases here : other = id
    · subst here
      rw [update_self, up]
      exact less
    · rw [update_of_ne (fun same => here (Nat.succ_injective same))]
      exact apportioned.limited other below
  · have summed := sum_queued_update ctx.txBufsQueued inside (ctx.txBufsQueued (id + 1) + 1)
    have before := apportioned.total
    simp only [StreamsCtx.enqueue, StreamsCtx.setQueued, StreamsCtx.setTxBuf,
      StreamsCtx.setStream, total]
    omega
  · simp only [StreamsCtx.enqueue, StreamsCtx.setQueued, StreamsCtx.setTxBuf,
      StreamsCtx.setStream, total]
    exact lessTotal

/-! ## Popping -/

/-- The context after the completion of the packet at the head of a queue, but
for what is sent next. -/
def StreamsCtx.dequeue (ctx : StreamsCtx) (id txEp : Nat) : StreamsCtx :=
  let s := { ctx.streams id with txCmt := (ctx.txBufs txEp 0).tx }
  { (ctx.setStream id s).setQueued txEp (ctx.txBufsQueued txEp - 1) with
    txBufs := update ctx.txBufs txEp
      (shiftDown (ctx.txBufs txEp) 1 ((ctx.txBufsQueued txEp).toNat - 1))
    txQueuedTotal := ctx.txQueuedTotal - 1 }

theorem shuffleTxBufs_eq (txEp : Nat) {idx count : Nat} (positive : 0 < idx)
    (bounds : idx + count <= 24) (state : Memory) :
    shuffleTxBufs txEp idx count state = .ret (.ok (), { state with client := { state.client with
      txBufs := update state.client.txBufs txEp
        (shiftDown (state.client.txBufs txEp) idx count) } }) := by
  induction count generalizing idx state with
  | zero =>
      rw [shiftDown_zero, update_eq_self]
      rfl
  | succ count ih =>
      unfold shuffleTxBufs
      rw [inRange_bind (by change idx < 24; omega), Code.get_bind_apply, Code.set_bind_apply,
        ih (Nat.succ_pos idx) (by omega)]
      simp only [StreamsCtx.setTxBuf, update_self, update_idem]
      rw [shiftDown_succ _ _ positive]

theorem strmTxDone_eq (state : Memory) (below : (state.client.streams id).txEp.toNat < 12)
    (some : 0 < state.client.txBufsQueued (state.client.streams id).txEp.toNat)
    (few : (state.client.txBufsQueued (state.client.streams id).txEp.toNat).toNat <= 24) :
    strmTxDone id state = sendHead (state.client.streams id).txEp
      (state.client.txBufsQueued (state.client.streams id).txEp.toNat - 1)
      { state with client := state.client.dequeue id (state.client.streams id).txEp.toNat } := by
  have positive := BitVec.lt_def.mp some
  change 0 < BitVec.toNat _ at positive
  unfold strmTxDone
  rw [Code.get_bind_apply, inRange_bind (show _ < 12 from below),
    tryCheck_bind (decide_eq_true some), Code.set_bind_apply, Code.bind_apply,
    shuffleTxBufs_eq _ Nat.one_pos (by omega)]
  rfl

theorem StreamsCtx.queue_dequeue (endpoint : txEp = id + 1)
    (some : 0 < (ctx.txBufsQueued (id + 1)).toNat) :
    (ctx.dequeue id txEp).queue id = (ctx.queue id).tail := by
  subst endpoint
  have down : (ctx.txBufsQueued (id + 1) - 1).toNat = (ctx.txBufsQueued (id + 1)).toNat - 1 := by
    rw [BitVec.toNat_sub]
    change (256 - 1 + _) % 256 = _
    omega
  simp only [queue, dequeue, setQueued, update_self, down]
  rw [entries_shiftDown, Nat.sub_add_cancel some]

theorem StreamsCtx.queue_dequeue_of_ne (endpoint : txEp = id + 1) (apart : other ≠ id) :
    (ctx.dequeue id txEp).queue other = ctx.queue other := by
  subst endpoint
  have apart' : other + 1 ≠ id + 1 := fun same => apart (Nat.succ_injective same)
  simp only [queue, dequeue, setQueued, setStream, update_of_ne apart']

theorem Apportioned.dequeue (apportioned : Apportioned n ctx) (inside : id < n)
    (endpoint : txEp = id + 1) (some : 0 < (ctx.txBufsQueued (id + 1)).toNat) :
    Apportioned n (ctx.dequeue id txEp) := by
  subst endpoint
  have atLeast := apportioned.queued_le inside
  have bounded : ctx.txQueuedTotal.toNat <= 24 := apportioned.bounded
  have down : (ctx.txBufsQueued (id + 1) - 1).toNat = (ctx.txBufsQueued (id + 1)).toNat - 1 := by
    rw [BitVec.toNat_sub]
    change (256 - 1 + _) % 256 = _
    omega
  have total : (ctx.txQueuedTotal - 1).toNat = ctx.txQueuedTotal.toNat - 1 := by
    rw [BitVec.toNat_sub]
    change (256 - 1 + _) % 256 = _
    omega
  constructor
  · exact apportioned.few
  · exact apportioned.count
  · intro other below
    simp only [StreamsCtx.dequeue, StreamsCtx.setQueued, StreamsCtx.setStream]
    by_cases here : other = id
    · subst here
      rw [update_self]
      exact apportioned.endpoints other below
    · rw [update_of_ne here]
      exact apportioned.endpoints other below
  · exact apportioned.limits
  · intro other below
    simp only [StreamsCtx.dequeue, StreamsCtx.setQueued, StreamsCtx.setStream]
    have limited := apportioned.limited other below
    by_cases here : other = id
    · subst here
      rw [update_self, down]
      omega
    · rw [update_of_ne (fun same => here (Nat.succ_injective same))]
      exact limited
  · have summed := sum_queued_update ctx.txBufsQueued inside (ctx.txBufsQueued (id + 1) - 1)
    have before := apportioned.total
    simp only [StreamsCtx.dequeue, StreamsCtx.setQueued, StreamsCtx.setStream, total]
    omega
  · simp only [StreamsCtx.dequeue, StreamsCtx.setQueued, StreamsCtx.setStream, total]
    change _ <= 24
    omega

/-- The head of a queue is replaced by one with the same buffer. -/
theorem StreamsCtx.queue_setHead {endpoint : Nat} (entry : TxBuf) (here : endpoint = id + 1)
    (some : 0 < (ctx.txBufsQueued (id + 1)).toNat) :
    (ctx.setTxBuf endpoint 0 entry).queue id = entry :: (ctx.queue id).tail := by
  subst here
  rcases Nat.exists_eq_succ_of_ne_zero (Nat.ne_of_gt some) with ⟨rest, count⟩
  simp only [queue, setTxBuf, update_self, count]
  exact entries_setHead _ _ _

theorem StreamsCtx.queue_setHead_of_ne {endpoint : Nat} (entry : TxBuf) (here : endpoint = id + 1)
    (apart : other ≠ id) :
    (ctx.setTxBuf endpoint 0 entry).queue other = ctx.queue other := by
  subst here
  have apart' : other + 1 ≠ id + 1 := fun same => apart (Nat.succ_injective same)
  simp only [queue, setTxBuf, update_of_ne apart']

end

/-! ## What streams generate -/

/-- The stream can make the packet in one transmission state, and is in the
other one after it. -/
def Stream.Makes (s : Stream) (before : StreamTx) (packet : Packet) (after : StreamTx) : Prop :=
  Exists fun stack => (nextPacket stack { s with tx := before }).1 = packet ∧
    (nextPacket stack { s with tx := before }).2.tx = after

/-- The stream can make the packets one after the other. -/
def Stream.MakesAll (s : Stream) (before : StreamTx) : List Packet -> StreamTx -> Prop
  | [], after => before = after
  | packet :: rest, after => Exists fun middle =>
      s.Makes before packet middle ∧ s.MakesAll middle rest after

/-- The stream can make what is in the buffers of a queue, and each entry has
the transmission state after its packet. -/
def Stream.Ahead (s : Stream) (known : Nat -> Packet) (before : StreamTx) :
    List TxBuf -> StreamTx -> Prop
  | [], after => before = after
  | entry :: rest, after =>
      s.Makes before (known entry.buf.id.toNat) entry.tx ∧ s.Ahead known entry.tx rest after

section

variable {s : Stream} {known known' : Nat -> Packet} {before middle after : StreamTx}

theorem Stream.MakesAll.append {packets packets' : List Packet}
    (first : s.MakesAll before packets middle) (second : s.MakesAll middle packets' after) :
    s.MakesAll before (packets ++ packets') after := by
  induction packets generalizing before with
  | nil =>
      rw [show before = middle from first]
      exact second
  | cons packet rest ih =>
      rcases first with ⟨next, makes, others⟩
      exact ⟨next, makes, ih others⟩

theorem Stream.MakesAll.concat {packets : List Packet} {packet : Packet}
    (all : s.MakesAll before packets middle) (last : s.Makes middle packet after) :
    s.MakesAll before (packets ++ [packet]) after :=
  all.append ⟨after, last, rfl⟩

theorem Stream.Ahead.makesAll {queue : List TxBuf} (ahead : s.Ahead known before queue after) :
    s.MakesAll before (queue.map (fun entry => known entry.buf.id.toNat)) after := by
  induction queue generalizing before with
  | nil => exact ahead
  | cons entry rest ih => exact ⟨entry.tx, ahead.1, ih ahead.2⟩

theorem Stream.Ahead.concat {queue : List TxBuf} {entry : TxBuf}
    (ahead : s.Ahead known before queue middle)
    (last : s.Makes middle (known entry.buf.id.toNat) entry.tx) :
    s.Ahead known before (queue ++ [entry]) entry.tx := by
  induction queue generalizing before with
  | nil =>
      rw [show before = middle from ahead]
      exact ⟨last, rfl⟩
  | cons first rest ih => exact ⟨ahead.1, ih ahead.2⟩

theorem Stream.Ahead.congr {queue : List TxBuf} (ahead : s.Ahead known before queue after)
    (same : forall entry, entry ∈ queue ->
      known' entry.buf.id.toNat = known entry.buf.id.toNat) :
    s.Ahead known' before queue after := by
  induction queue generalizing before with
  | nil => exact ahead
  | cons first rest ih =>
      refine ⟨?_, ih ahead.2 (fun entry inside => same entry (List.mem_cons_of_mem _ inside))⟩
      rw [same first List.mem_cons_self]
      exact ahead.1

theorem noteSignature_txCmt (s : Stream) (txCmt : StreamTx) :
    noteSignature { s with txCmt := txCmt } = { noteSignature s with txCmt := txCmt } := by
  rcases s with ⟨_, xfrType, _, _, _, _, _, _, _, _, _, _, _, sending, _⟩
  cases sending <;> cases xfrType <;> rfl

theorem signature_txCmt (s : Stream) (txCmt : StreamTx) :
    signature { s with txCmt := txCmt } =
      ((signature s).1, { (signature s).2 with txCmt := txCmt }) := by
  unfold signature
  by_cases required : s.tx.sigRequired = true
  · rw [if_pos required, if_pos required]
    exact Prod.ext rfl (noteSignature_txCmt { s with tx.seq := s.tx.seq + 1 } txCmt)
  · rw [if_neg required, if_neg required]

/-- The committed state has no part in what is made. -/
theorem nextPacket_txCmt (stack : Nat -> BitVec 8) (s : Stream) (txCmt : StreamTx) :
    nextPacket stack { s with txCmt := txCmt } =
      ((nextPacket stack s).1, { (nextPacket stack s).2 with txCmt := txCmt }) := by
  have signed := signature_txCmt
    { s with tx.bufSize := (packetLength s s.tx.bytes s.tx.bufSize).2 } txCmt
  unfold nextPacket
  dsimp only at signed ⊢
  change (let length := packetLength s s.tx.bytes s.tx.bufSize
    let signed := signature { s with txCmt := txCmt, tx.bufSize := length.2 }
    let filled := payload stack signed.2 (length.1.toNat - signed.1.length)
    (signed.1 ++ filled.1, filled.2)) = _
  dsimp only
  rw [signed]
  rfl

end

/-- The streams differ in nothing but their transmission states. -/
def Stream.Alike (original s : Stream) : Prop :=
  s = { original with tx := s.tx, txCmt := s.txCmt }

theorem Stream.Alike.setTx {original s : Stream} (alike : original.Alike s) (tx : StreamTx) :
    original.Alike { s with tx := tx } :=
  congrArg (fun s : Stream => ({ s with tx := tx } : Stream)) (show s = _ from alike)

theorem Stream.Alike.setTxCmt {original s : Stream} (alike : original.Alike s)
    (txCmt : StreamTx) : original.Alike { s with txCmt := txCmt } :=
  congrArg (fun s : Stream => ({ s with txCmt := txCmt } : Stream)) (show s = _ from alike)

/-- The queue of one stream: what is in it has been filled and not collected,
and it begins with what comes after the committed state and ends with what
comes before the state of the stream. -/
structure QueueKept (original : Stream) (known : Nat -> Packet) (s : Stream) (queue : List TxBuf)
    (filled collected : List Packet) : Prop where
  alike : original.Alike s
  ready : forall entry, entry ∈ queue.tail -> entry.buf.type = .kDifUsbdevBufferTypeWrite
  lengths : forall entry, entry ∈ queue ->
    (known entry.buf.id.toNat).length = entry.buf.offset.toNat
  inOrder : filled = collected ++ queue.map (fun entry => known entry.buf.id.toNat)
  committed : original.MakesAll original.tx collected s.txCmt
  ahead : original.Ahead known s.txCmt queue s.tx

section

variable {original s : Stream} {known known' : Nat -> Packet} {queue : List TxBuf}
  {filled collected : List Packet}

theorem QueueKept.congr (kept : QueueKept original known s queue filled collected)
    (same : forall entry, entry ∈ queue ->
      known' entry.buf.id.toNat = known entry.buf.id.toNat) :
    QueueKept original known' s queue filled collected := by
  refine ⟨kept.alike, kept.ready, fun entry inside => ?_, ?_, kept.committed,
    kept.ahead.congr same⟩
  · rw [same entry inside]
    exact kept.lengths entry inside
  · rw [kept.inOrder]
    apply congrArg
    exact List.map_congr_left (fun entry inside => (same entry inside).symm)

/-- A packet that the stream makes is put into its queue. -/
theorem QueueKept.push (kept : QueueKept original known s queue filled collected)
    (stack : Nat -> BitVec 8) {entry : TxBuf}
    (contents : known entry.buf.id.toNat = (nextPacket stack s).1)
    (length : entry.buf.offset.toNat = (nextPacket stack s).1.length)
    (type : entry.buf.type = .kDifUsbdevBufferTypeWrite)
    (tx : entry.tx = (nextPacket stack s).2.tx) :
    QueueKept original known (nextPacket stack s).2 (queue ++ [entry])
      (filled ++ [(nextPacket stack s).1]) collected := by
  have stream := nextPacket_stream stack s
  have sameCmt : (nextPacket stack s).2.txCmt = s.txCmt := by
    rw [<- stream]
  have makes : original.Makes s.tx (nextPacket stack s).1 (nextPacket stack s).2.tx := by
    refine ⟨stack, ?_⟩
    have alike := nextPacket_txCmt stack { original with tx := s.tx } s.txCmt
    rw [show ({ original with tx := s.tx, txCmt := s.txCmt } : Stream) = s from
      kept.alike.symm] at alike
    rw [alike]
    exact ⟨rfl, rfl⟩
  refine ⟨?_, ?_, ?_, ?_, ?_, ?_⟩
  · rw [<- stream]
    exact kept.alike.setTx _
  · intro other inside
    cases queue with
    | nil => cases inside
    | cons head rest =>
        rcases List.mem_append.mp inside with before | last
        · exact kept.ready other before
        · rw [List.mem_singleton.mp last]
          exact type
  · intro other inside
    rcases List.mem_append.mp inside with before | last
    · exact kept.lengths other before
    · rw [List.mem_singleton.mp last, contents, length]
  · rw [kept.inOrder, List.map_append, List.append_assoc, List.map_singleton, contents]
  · rw [sameCmt]
    exact kept.committed
  · rw [sameCmt, <- tx]
    apply kept.ahead.concat
    rw [contents, tx]
    exact makes

/-- The packet at the head of the queue is collected. -/
theorem QueueKept.pop {head : TxBuf} {rest : List TxBuf}
    (kept : QueueKept original known s (head :: rest) filled collected) :
    QueueKept original known { s with txCmt := head.tx } rest filled
      (collected ++ [known head.buf.id.toNat]) := by
  refine ⟨kept.alike.setTxCmt _, ?_, ?_, ?_, ?_, kept.ahead.2⟩
  · exact fun entry inside => kept.ready entry (List.mem_of_mem_tail inside)
  · exact fun entry inside => kept.lengths entry (List.mem_cons_of_mem _ inside)
  · rw [kept.inOrder, List.map_cons, List.append_assoc]
    rfl
  · exact kept.committed.concat kept.ahead.1

/-- The buffer at the head of the queue is no longer the driver's. -/
theorem QueueKept.setHead {head : TxBuf} {rest : List TxBuf}
    (kept : QueueKept original known s (head :: rest) filled collected) (type : BufferType) :
    QueueKept original known s ({ head with buf.type := type } :: rest) filled collected := by
  refine ⟨kept.alike, kept.ready, ?_, kept.inOrder, kept.committed, kept.ahead⟩
  intro entry inside
  rcases List.mem_cons.mp inside with here | later
  · rw [here]
    exact kept.lengths head List.mem_cons_self
  · exact kept.lengths entry (List.mem_cons_of_mem _ later)

end

end UsbStreams
end SunburstChip
