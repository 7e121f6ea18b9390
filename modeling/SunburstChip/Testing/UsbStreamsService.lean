import SunburstChip.Testing.UsbStreamsInit

namespace SunburstChip
namespace UsbStreams

open Mmio Usbdev UsbTestutils ArrayQueue
open Function (update update_eq_self update_idem update_self)

/-!
# Servicing streams

What `usb_testutils_stream_service` and the completion of a packet do to the
controller and to memory, each in one specification: the queue of the stream is
pushed onto or popped from, and its endpoint offers what is then at its head.
-/

section

variable {n m id : Nat} {known : Nat -> Packet} {objects : Nat -> Buffer} {ctx ctx' : StreamsCtx}

theorem written_append (buf : Buffer) (bytes bytes' : List (BitVec 8)) :
    (buf.written bytes).written bytes' = buf.written (bytes ++ bytes') := by
  have length : BitVec.ofNat 8 (bytes ++ bytes').length =
      BitVec.ofNat 8 bytes.length + BitVec.ofNat 8 bytes'.length := by
    rw [List.length_append, BitVec.ofNat_add]
  have remaining : buf.remainingBytes - BitVec.ofNat 8 bytes.length - BitVec.ofNat 8 bytes'.length =
      buf.remainingBytes - (BitVec.ofNat 8 bytes.length + BitVec.ofNat 8 bytes'.length) := by
    bv_omega
  simp only [Buffer.written, length, <- BitVec.add_assoc, remaining]

/-! ## The ends of the queues -/

variable {system : System} {entry : TxBuf} {memory : Memory}

/-- A packet that is alone in its queue is offered to the host. -/
theorem tracked_pushFirst (inside : id < n) (here : ctx.queue id = [])
    (after : ctx'.queue id = [entry])
    (elsewhere : forall other, other < n -> other ≠ id -> ctx'.queue other = ctx.queue other)
    (tracked : Tracked m (ctx.waiting n) (update (ctx.slots n) (id + 1)
      (.holds entry.buf.id.toNat entry.buf.offset.toNat)) known system) :
    Tracked m (ctx'.waiting n) (ctx'.slots n) known system := by
  have waiting := StreamsCtx.waiting_update inside elsewhere
  rw [here, after] at waiting
  have same : ctx'.waiting n = ctx.waiting n := add_right_cancel waiting
  rw [StreamsCtx.slots_update inside elsewhere, after, same]
  exact tracked

/-- A packet behind others is in hand. -/
theorem tracked_pushNext (inside : id < n) (here : ctx.queue id ≠ [])
    (after : ctx'.queue id = ctx.queue id ++ [entry])
    (elsewhere : forall other, other < n -> other ≠ id -> ctx'.queue other = ctx.queue other)
    (tracked : Tracked m (ctx.waiting n + {entry.buf.id.toNat}) (ctx.slots n) known system) :
    Tracked m (ctx'.waiting n) (ctx'.slots n) known system := by
  have waiting := StreamsCtx.waiting_update inside elsewhere
  rw [after, waitingOf_push entry here, add_comm (waitingOf _), <- add_assoc] at waiting
  have same : ctx'.waiting n = ctx.waiting n + {entry.buf.id.toNat} := add_right_cancel waiting
  have head : headSlot (ctx.queue id ++ [entry]) = ctx.slots n (id + 1) := by
    rw [StreamsCtx.slots_of_lt inside]
    cases queue : ctx.queue id with
    | nil => exact absurd queue here
    | cons first rest => rfl
  rw [StreamsCtx.slots_update inside elsewhere, after, head, update_eq_self, same]
  exact tracked

/-! ## Servicing a stream -/

/-- What is put at the end of a queue when a stream is serviced. -/
def nextEntry (stack : Nat -> BitVec 8) (s : Stream) (bufferId : BitVec 8) : TxBuf :=
  ⟨(emptyBuffer bufferId).written (nextPacket stack s).1, (nextPacket stack s).2.tx⟩

/-- The context after a packet has been filled and queued. -/
def StreamsCtx.serviced (ctx : StreamsCtx) (stack : Nat -> BitVec 8) (id : Nat)
    (bufferId : BitVec 8) : StreamsCtx :=
  let s := ctx.streams id
  ctx.enqueue id s.txEp.toNat (ctx.txBufsQueued s.txEp.toNat) (nextPacket stack s).2
    (nextEntry stack s bufferId)

theorem StreamsCtx.queue_serviced (stack : Nat -> BitVec 8) (bufferId : BitVec 8)
    (endpoint : (ctx.streams id).txEp.toNat = id + 1)
    (room : (ctx.txBufsQueued (id + 1)).toNat < 24) :
    (ctx.serviced stack id bufferId).queue id =
      ctx.queue id ++ [nextEntry stack (ctx.streams id) bufferId] := by
  unfold serviced
  dsimp only
  rw [endpoint]
  exact queue_enqueue rfl room

theorem filled_nextEntry (stack : Nat -> BitVec 8) (s : Stream) (bufferId : BitVec 8) :
    Filled (nextEntry stack s bufferId).buf (nextPacket stack s).1 := by
  apply (filled_nil bufferId).written
  rw [List.length_nil, Nat.zero_add]
  exact length_nextPacket_le stack s

/-- A packet that has been put into a queue is sent if there are no others. -/
theorem present_spec {txEp nqueued : BitVec 8} {pool : BufferPool} (inside : id < n)
    (endpoint : txEp.toNat = id + 1) (few : n <= usbutilsStreamsMax)
    (queued : (ctx.queue id).length = nqueued.toNat) (small : nqueued.toNat < 24)
    (after : ctx'.queue id = ctx.queue id ++ [entry])
    (elsewhere : forall other, other < n -> other ≠ id -> ctx'.queue other = ctx.queue other)
    (type : entry.buf.type = .kDifUsbdevBufferTypeWrite) (offset : entry.buf.offset.toNat < 128) :
    Triple device Hardware
      (fun usbdev => Tracked m (ctx.waiting n + {entry.buf.id.toNat}) (ctx.slots n) known
        ⟨usbdev, pool, objects⟩)
      ((if nqueued + 1 <= 1 then do
          let (result, _) <- Code.lift (difUsbdevSend .object txEp .object entry.buf)
          tryDif result
        else pure () : Code Memory Failure Unit) memory)
      (fun out usbdev => out = (.ok (), memory) ∧
        Tracked m (ctx'.waiting n) (ctx'.slots n) known ⟨usbdev, pool, objects⟩) := by
  change n <= 11 at few
  by_cases first : nqueued + 1 <= 1
  · have none : nqueued.toNat = 0 := by
      rw [BitVec.le_def, BitVec.toNat_add] at first
      change (nqueued.toNat + 1) % 256 <= 1 at first
      omega
    have here : ctx.queue id = [] := List.length_eq_zero_iff.mp (queued.trans none)
    rw [here, List.nil_append] at after
    have idle : ctx.slots n txEp.toNat = .idle := by
      rw [endpoint, StreamsCtx.slots_of_lt inside, here]
      rfl
    rw [if_pos first]
    refine Code.triple_lift_ok _ (send_tracked (by omega) type offset idle) ?_
    exact Triple.ret stable_tracked (fun usbdev tracked =>
      ⟨rfl, tracked_pushFirst inside here after elsewhere (endpoint ▸ tracked)⟩)
  · have some : ctx.queue id ≠ [] := by
      intro here
      rw [here] at queued
      apply first
      rw [BitVec.le_def, BitVec.toNat_add, <- queued]
      decide
    rw [if_neg first]
    exact Triple.ret stable_tracked (fun usbdev tracked =>
      ⟨rfl, tracked_pushNext inside some after elsewhere tracked⟩)

theorem fillAndQueue_spec (memory : Memory) {id : BitVec 8} (stack : Nat -> BitVec 8)
    (inside : id.toNat < n) (apportioned : Apportioned n memory.client) (bufferId : BitVec 8)
    (roomTotal : memory.client.txQueuedTotal < .ofNat 8 usbutilsStreamsTxbufMax) :
    Triple device Hardware
      (fun usbdev => Tracked m (memory.client.waiting n + {bufferId.toNat})
        (memory.client.slots n) (update known bufferId.toNat [])
        ⟨usbdev, memory.pool, objects⟩)
      (fillAndQueue stack id
        (memory.client.txBufsQueued (memory.client.streams id.toNat).txEp.toNat)
        (emptyBuffer bufferId) memory)
      (fun out usbdev =>
        out = (.ok (), { memory with client := memory.client.serviced stack id.toNat bufferId }) ∧
        Tracked m ((memory.client.serviced stack id.toNat bufferId).waiting n)
          ((memory.client.serviced stack id.toNat bufferId).slots n)
          (update known bufferId.toNat
            (nextPacket stack (memory.client.streams id.toNat)).1)
          ⟨usbdev, memory.pool, objects⟩) := by
  have endpoint := apportioned.endpoints id.toNat inside
  have few := apportioned.queued_le inside
  have lessTotal : memory.client.txQueuedTotal.toNat < 24 := BitVec.lt_def.mp roomTotal
  have elsewhere (other : Nat) (below : other < n) (apart : other ≠ id.toNat) :
      (memory.client.serviced stack id.toNat bufferId).queue other = memory.client.queue other :=
    StreamsCtx.queue_enqueue_of_ne endpoint apart
  have after := StreamsCtx.queue_serviced stack bufferId endpoint
    (show (memory.client.txBufsQueued (id.toNat + 1)).toNat < 24 by omega)
  have filled := filled_nextEntry stack (memory.client.streams id.toNat) bufferId
  generalize stream : memory.client.streams id.toNat = s at *
  -- First the signature and the data are written to the buffer.
  unfold fillAndQueue
  rw [Code.get_bind_apply, stream]
  dsimp only
  generalize length : packetLength s s.tx.bytes s.tx.bufSize = pair
  have short := packetLength_le s s.tx.bytes s.tx.bufSize
  rw [length] at short
  generalize signed : signature { s with tx.bufSize := pair.2 } = sig
  have small : sig.1.length <= 64 := by
    rw [<- signed]
    rcases length_signature { s with tx.bufSize := pair.2 } with none | sixteen
    · rw [none]
      decide
    · rw [sixteen]
      decide
  generalize added : payload stack sig.2 (pair.1.toNat - sig.1.length) = data
  have packet : nextPacket stack s = (sig.1 ++ data.1, data.2) := by
    unfold nextPacket
    dsimp only
    rw [length, signed, added]
  have filledSig : Filled ((emptyBuffer bufferId).written sig.1) sig.1 :=
    (filled_nil bufferId).written (by rw [List.length_nil, Nat.zero_add]; exact small)
  have signing : Triple device Hardware
      (Containing m (memory.client.waiting n + {bufferId.toNat}) (memory.client.slots n) known
        memory.pool objects bufferId.toNat [])
      (addSignature { s with tx.bufSize := pair.2 } (emptyBuffer bufferId) memory) _ :=
    addSignature_spec (filled_nil bufferId)
  have adding : Triple device Hardware
      (Containing m (memory.client.waiting n + {bufferId.toNat}) (memory.client.slots n) known
        memory.pool objects bufferId.toNat sig.1)
      (addData stack sig.2 ((emptyBuffer bufferId).written sig.1) (.ofNat 8 sig.1.length) pair.1
        memory) _ :=
    addData_spec stack filledSig short
  rw [signed] at signing
  rw [added, written_append] at adding
  refine Code.triple_bind_ok _ signing (Code.triple_bind_ok _ adding ?_)
  -- Then it is put behind the others, and sent if there are none.
  have serviced : memory.client.serviced stack id.toNat bufferId =
      memory.client.enqueue id.toNat s.txEp.toNat (memory.client.txBufsQueued s.txEp.toNat) data.2
        ⟨(emptyBuffer bufferId).written (sig.1 ++ data.1), data.2.tx⟩ := by
    unfold StreamsCtx.serviced nextEntry
    dsimp only
    rw [stream, packet]
  have buffer : (nextEntry stack s bufferId).buf =
      (emptyBuffer bufferId).written (sig.1 ++ data.1) := by
    unfold nextEntry
    rw [packet]
  have offset : (nextEntry stack s bufferId).buf.offset.toNat < 128 := by
    have room : _ <= 64 := filled.short
    rw [filled.offset]
    omega
  have queued : (memory.client.queue id.toNat).length =
      (memory.client.txBufsQueued s.txEp.toNat).toNat := by
    rw [endpoint]
    exact StreamsCtx.length_queue _ _
  dsimp only
  rw [inRange_bind (by rw [endpoint]; change _ < 24; omega), Code.get_bind_apply,
    Code.set_bind_apply, <- serviced, packet, <- buffer]
  exact present_spec inside endpoint apportioned.few queued (by rw [endpoint]; omega) after
    elsewhere filled.type offset

/-- There is more to transmit, `tx_more`. -/
def Stream.More (s : Stream) : Prop :=
  s.xfrType = .kUsbTransferTypeIsochronous ∨ s.tx.bytes < s.transferBytes

instance (s : Stream) : Decidable s.More :=
  inferInstanceAs (Decidable (s.xfrType = .kUsbTransferTypeIsochronous ∨
    s.tx.bytes < s.transferBytes))

/-- Servicing a stream does nothing, or, if there is more to transmit, fills a packet and queues
it. -/
theorem service_spec {id : BitVec 8} {usbdev usbdev' : Controller}
    {out : Except Failure Unit × Memory} (stack : Nat -> BitVec 8) (inside : id.toNat < n)
    (apportioned : Apportioned n memory.client)
    (tracked : Tracked m (memory.client.waiting n) (memory.client.slots n) known
      ⟨usbdev, memory.pool, objects⟩)
    (execution : Exec device Hardware usbdev (usbTestutilsStreamService stack id memory)
      usbdev' out) :
    out.1 = .ok () ∧
      ((out.2 = memory ∧ Tracked m (memory.client.waiting n) (memory.client.slots n) known
          ⟨usbdev', memory.pool, objects⟩) ∨
        Exists fun bufferId => Exists fun pool => (memory.client.streams id.toNat).More ∧
          ¬ Mine (memory.client.waiting n) (memory.client.slots n) bufferId.toNat ∧
          memory.client.txBufsQueued (id.toNat + 1) < memory.client.txBufsLimit (id.toNat + 1) ∧
          memory.client.txQueuedTotal < .ofNat 8 usbutilsStreamsTxbufMax ∧
          out.2 = { memory with
            pool := pool, client := memory.client.serviced stack id.toNat bufferId } ∧
          Tracked m ((memory.client.serviced stack id.toNat bufferId).waiting n)
            ((memory.client.serviced stack id.toNat bufferId).slots n)
            (update known bufferId.toNat
              (nextPacket stack (memory.client.streams id.toNat)).1)
            ⟨usbdev', pool, objects⟩) := by
  have few : n <= 11 := apportioned.few
  have endpoint := apportioned.endpoints id.toNat inside
  have idle : Triple device Hardware
      (fun usbdev => Tracked m (memory.client.waiting n) (memory.client.slots n) known
        ⟨usbdev, memory.pool, objects⟩)
      (.ret ((.ok (), memory) : Except Failure Unit × Memory))
      (fun out usbdev => out = (.ok (), memory) ∧ Tracked m (memory.client.waiting n)
        (memory.client.slots n) known ⟨usbdev, memory.pool, objects⟩) :=
    Triple.ret stable_tracked (fun _ tracked => ⟨rfl, tracked⟩)
  unfold usbTestutilsStreamService at execution
  rw [tryCheck_bind (decide_eq_true (show id.toNat < usbutilsStreamsMax from
    Nat.lt_of_lt_of_le inside apportioned.few)), Code.get_bind_apply] at execution
  dsimp only at execution
  rw [inRange_bind (show _ < numEndpoints by rw [endpoint]; change _ < 12; omega)] at execution
  split at execution
  · next more =>
      rcases request_tracked tracked with unavailable | ⟨bufferId, pool, taken, valid, fresh, given⟩
      · rw [unavailable] at execution
        rcases idle _ _ _ tracked execution with ⟨rfl, after⟩
        exact ⟨rfl, Or.inl ⟨rfl, after⟩⟩
      · rw [taken] at execution
        dsimp only at execution
        rw [Code.set_bind_apply] at execution
        rcases fillAndQueue_spec { memory with pool := pool } stack inside apportioned bufferId
          more.2.2 _ _ _ given execution with ⟨rfl, after⟩
        rw [endpoint] at more
        exact ⟨rfl, Or.inr ⟨bufferId, pool, of_decide_eq_true more.1, fresh, more.2.1, more.2.2,
          rfl, after⟩⟩
  · rcases idle _ _ _ tracked execution with ⟨rfl, after⟩
    exact ⟨rfl, Or.inl ⟨rfl, after⟩⟩

/-! ## Completions -/

/-- An entry whose buffer has been sent. -/
def TxBuf.sent (entry : TxBuf) : TxBuf :=
  { entry with buf := { entry.buf with type := .kDifUsbdevBufferTypeStale } }

/-- A queue after the completion of the packet at its head. -/
def popped : List TxBuf -> List TxBuf
  | [] | [_] => []
  | _ :: next :: others => next.sent :: others

/-- The context after the buffer at the head of a queue has been sent, if there is one. -/
def StreamsCtx.headSent (ctx : StreamsCtx) (txEp : Nat) (nqueued : BitVec 8) : StreamsCtx :=
  if nqueued ≠ 0 then ctx.setTxBuf txEp 0 (ctx.txBufs txEp 0).sent else ctx

/-- The context after a completion. -/
def StreamsCtx.completed (ctx : StreamsCtx) (id : Nat) : StreamsCtx :=
  let txEp := (ctx.streams id).txEp.toNat
  (ctx.dequeue id txEp).headSent txEp (ctx.txBufsQueued txEp - 1)

/-- The first entry of the array is the head of the queue. -/
theorem StreamsCtx.queue_eq_cons (some : 0 < (ctx.txBufsQueued (id + 1)).toNat) :
    ctx.queue id = ctx.txBufs (id + 1) 0 :: (ctx.queue id).tail := by
  rcases Nat.exists_eq_succ_of_ne_zero (Nat.ne_of_gt some) with ⟨rest, count⟩
  rw [queue, count, entries_succ, List.tail_cons]

theorem StreamsCtx.queue_completed (endpoint : (ctx.streams id).txEp.toNat = id + 1)
    (some : 0 < (ctx.txBufsQueued (id + 1)).toNat) :
    (ctx.completed id).queue id = popped (ctx.queue id) := by
  have tail : (ctx.dequeue id (id + 1)).queue id = (ctx.queue id).tail :=
    StreamsCtx.queue_dequeue rfl some
  have left : (ctx.dequeue id (id + 1)).txBufsQueued (id + 1) = ctx.txBufsQueued (id + 1) - 1 :=
    update_self _ _ _
  have length := StreamsCtx.length_queue (ctx.dequeue id (id + 1)) id
  rw [tail] at length
  unfold completed headSent
  dsimp only
  rw [endpoint, <- left]
  by_cases more : (ctx.dequeue id (id + 1)).txBufsQueued (id + 1) ≠ 0
  · have positive : 0 < ((ctx.dequeue id (id + 1)).txBufsQueued (id + 1)).toNat :=
      Nat.pos_of_ne_zero (fun zero => more (BitVec.eq_of_toNat_eq zero))
    have first := StreamsCtx.queue_eq_cons positive
    rw [if_pos more, StreamsCtx.queue_setHead _ rfl positive, tail]
    rw [tail] at first
    rcases queue : ctx.queue id with _ | ⟨head, _ | ⟨next, others⟩⟩
    · rw [queue] at first
      cases first
    · rw [queue] at first
      cases first
    · rw [queue] at first
      rw [<- (List.cons.inj first).1]
      rfl
  · rw [not_not] at more
    rw [more] at length
    rw [if_neg (not_not.mpr more), tail]
    rcases queue : ctx.queue id with _ | ⟨head, _ | ⟨next, others⟩⟩
    · rfl
    · rfl
    · rw [queue] at length
      cases length

theorem StreamsCtx.queue_completed_of_ne {other : Nat}
    (endpoint : (ctx.streams id).txEp.toNat = id + 1) (apart : other ≠ id) :
    (ctx.completed id).queue other = ctx.queue other := by
  unfold completed headSent
  dsimp only
  split
  · rw [StreamsCtx.queue_setHead_of_ne _ endpoint apart,
      StreamsCtx.queue_dequeue_of_ne endpoint apart]
  · exact StreamsCtx.queue_dequeue_of_ne endpoint apart

theorem Apportioned.completed (apportioned : Apportioned n ctx) (inside : id < n)
    (some : 0 < (ctx.txBufsQueued (id + 1)).toNat) : Apportioned n (ctx.completed id) := by
  have left := apportioned.dequeue inside (apportioned.endpoints id inside) some
  unfold StreamsCtx.completed StreamsCtx.headSent
  dsimp only
  split
  · exact ⟨left.few, left.count, left.endpoints, left.limits, left.limited, left.total, left.bounded⟩
  · exact left

/-- The endpoint of a queue that has been popped offers what is now at its head. -/
theorem tracked_popped {head : TxBuf} {rest : List TxBuf} (inside : id < n)
    (queue : ctx.queue id = head :: rest) (after : ctx'.queue id = popped (head :: rest))
    (elsewhere : forall other, other < n -> other ≠ id -> ctx'.queue other = ctx.queue other)
    (tracked : Tracked m (ctx'.waiting n) (update (ctx.slots n) (id + 1) (headSlot rest)) known
      system) :
    Tracked m (ctx'.waiting n) (ctx'.slots n) known system := by
  have same : headSlot (popped (head :: rest)) = headSlot rest := by
    cases rest <;> rfl
  rw [StreamsCtx.slots_update inside elsewhere, after, same]
  exact tracked

/-- The buffer at the head of a queue. -/
def firstOf : List TxBuf -> Multiset Nat
  | [] => 0
  | entry :: _ => {entry.buf.id.toNat}

theorem waiting_popped {head : TxBuf} {rest : List TxBuf} (inside : id < n)
    (queue : ctx.queue id = head :: rest) (after : ctx'.queue id = popped (head :: rest))
    (elsewhere : forall other, other < n -> other ≠ id -> ctx'.queue other = ctx.queue other) :
    ctx.waiting n = ctx'.waiting n + firstOf rest := by
  have waiting := StreamsCtx.waiting_update inside elsewhere
  rw [queue, after] at waiting
  cases rest with
  | nil =>
      rw [firstOf, add_zero]
      exact (add_right_cancel waiting).symm
  | cons next others =>
      have split : waitingOf (head :: next :: others) =
          waitingOf (popped (head :: next :: others)) + {next.buf.id.toNat} :=
        coe_cons_eq _ _
      rw [split, <- add_assoc, add_right_comm] at waiting
      exact (add_right_cancel waiting).symm

theorem sendHead_spec (memory : Memory) {txEp : BitVec 8} {away : Multiset Nat}
    {slots : Nat -> Slot} (endpoint : txEp.toNat = id + 1) (below : id + 1 < 12)
    (ready : forall entry, entry ∈ memory.client.queue id ->
      entry.buf.type = .kDifUsbdevBufferTypeWrite)
    (offset : forall entry, entry ∈ memory.client.queue id -> entry.buf.offset.toNat < 128)
    (idle : slots (id + 1) = .idle) :
    Triple device Hardware
      (fun usbdev => Tracked m (away + firstOf (memory.client.queue id)) slots known
        ⟨usbdev, memory.pool, objects⟩)
      (sendHead txEp (memory.client.txBufsQueued (id + 1)) memory)
      (fun out usbdev =>
        out = (.ok (), { memory with
          client := memory.client.headSent txEp.toNat (memory.client.txBufsQueued (id + 1)) }) ∧
        Tracked m away
          (update slots (id + 1) (headSlot (memory.client.queue id))) known
          ⟨usbdev, memory.pool, objects⟩) := by
  unfold sendHead StreamsCtx.headSent
  by_cases more : memory.client.txBufsQueued (id + 1) ≠ 0
  · have positive : 0 < (memory.client.txBufsQueued (id + 1)).toNat :=
      Nat.pos_of_ne_zero (fun zero => more (BitVec.eq_of_toNat_eq zero))
    have queue := StreamsCtx.queue_eq_cons positive
    have first : memory.client.txBufs (id + 1) 0 ∈ memory.client.queue id := by
      rw [queue]
      exact List.mem_cons_self
    have type := ready _ first
    have short := offset _ first
    rw [if_pos more, if_pos more, Code.get_bind_apply, queue]
    dsimp only
    rw [<- endpoint] at type short idle ⊢
    refine Code.triple_lift_ok _ (send_tracked (by omega) type short idle) ?_
    exact Triple.ret stable_tracked (fun usbdev tracked => ⟨rfl, tracked⟩)
  · have none := not_not.mp more
    have empty : memory.client.queue id = [] := by
      rw [StreamsCtx.queue, none]
      rfl
    have same : update slots (id + 1) (headSlot []) = slots := by
      rw [show headSlot [] = slots (id + 1) from idle.symm, update_eq_self]
    rw [if_neg more, if_neg more, empty, firstOf, add_zero, same]
    exact Triple.ret stable_tracked (fun usbdev tracked => ⟨rfl, tracked⟩)

/-- A completion, with what is sent next. -/
theorem completion_spec {usbdev usbdev' : Controller} {out : Except Failure Unit × Memory}
    (inside : id < n) (apportioned : Apportioned n memory.client)
    (alone : (memory.inEndpoints (id + 1)).transfer.buffer = none)
    (callback : (memory.inEndpoints (id + 1)).txDoneCallback = some (.strmTxDone id))
    (ready : forall entry, entry ∈ (memory.client.queue id).tail ->
      entry.buf.type = .kDifUsbdevBufferTypeWrite)
    (offset : forall entry, entry ∈ memory.client.queue id -> entry.buf.offset.toNat < 128)
    (tracked : Tracked m (memory.client.waiting n) (memory.client.slots n) known
      ⟨usbdev, memory.pool, objects⟩) (sent : usbdev.inSent (id + 1) = true)
    (execution : Exec device Hardware usbdev (pollSent call (.ofNat 8 (id + 1)) memory)
      usbdev' out) :
    out.1 = .ok () ∧ Exists fun pool =>
      out.2 = { memory with pool := pool, client := memory.client.completed id } ∧
      Tracked m ((memory.client.completed id).waiting n) ((memory.client.completed id).slots n)
        known ⟨usbdev', pool, objects⟩ := by
  have few : n <= 11 := apportioned.few
  have number : (BitVec.ofNat 8 (id + 1)).toNat = id + 1 := by
    rw [BitVec.toNat_ofNat]
    omega
  have endpoint := apportioned.endpoints id inside
  -- The endpoint has a packet, so the queue is not empty.
  have nonempty : Exists fun head => Exists fun rest =>
      memory.client.queue id = head :: rest := by
    cases queue : memory.client.queue id with
    | nil =>
        have idle := tracked.endpoints (id + 1)
        rw [StreamsCtx.slots_of_lt inside, queue] at idle
        have pending : usbdev.Pending (id + 1) = true := by
          rw [Controller.Pending, sent, Bool.or_true]
        rw [show usbdev.Pending (id + 1) = false from idle] at pending
        cases pending
    | cons head rest => exact ⟨head, rest, rfl⟩
  rcases nonempty with ⟨head, rest, queue⟩
  have count := StreamsCtx.length_queue memory.client id
  rw [queue, List.length_cons] at count
  have after := StreamsCtx.queue_completed endpoint (show 0 < _ by omega)
  rw [queue] at after
  have elsewhere (other : Nat) (_ : other < n) (apart : other ≠ id) :
      (memory.client.completed id).queue other = memory.client.queue other :=
    StreamsCtx.queue_completed_of_ne endpoint apart
  have waiting := waiting_popped inside queue after elsewhere
  have dequeued := StreamsCtx.queue_dequeue endpoint (show 0 < (memory.client.txBufsQueued
    (id + 1)).toNat by omega)
  rw [queue, List.tail_cons] at dequeued ready
  have polled : Triple device Hardware
      (fun usbdev => Tracked m (memory.client.waiting n) (memory.client.slots n) known
          ⟨usbdev, memory.pool, objects⟩ ∧
        usbdev.inSent (BitVec.ofNat 8 (id + 1)).toNat = true)
      (pollSent call (.ofNat 8 (id + 1)) memory)
      (fun out usbdev => out.1 = .ok () ∧ Exists fun pool =>
        out.2 = { memory with pool := pool, client := memory.client.completed id } ∧
        Tracked m ((memory.client.completed id).waiting n)
          ((memory.client.completed id).slots n) known ⟨usbdev, pool, objects⟩) := by
    unfold pollSent
    rw [Code.get_bind_apply]
    refine Code.triple_lift_bind _ (clearTxStatus_tracked (by omega)) ?_
    rintro ⟨result, pool⟩ start finish out ⟨rfl, cleared⟩ execution
    dsimp only at execution
    rw [Code.set_bind_apply, tryDif_ok_bind, Code.bind_apply,
      continueTransfer_none (by rw [number]; exact alone)] at execution
    change Exec device Hardware start (((Code.get >>= fun state => _) : Code Memory Failure Unit)
      { memory with pool := pool }) finish out at execution
    rw [Code.get_bind_apply] at execution
    dsimp only at execution
    rw [number, callback] at execution
    change Exec device Hardware start (strmTxDone id { memory with pool := pool }) finish out
      at execution
    have left : (memory.client.dequeue id (memory.client.streams id).txEp.toNat).txBufsQueued
        (id + 1) = memory.client.txBufsQueued (memory.client.streams id).txEp.toNat - 1 := by
      rw [endpoint]
      exact update_self _ _ _
    have positive : 0 < memory.client.txBufsQueued (memory.client.streams id).txEp.toNat := by
      rw [endpoint, BitVec.lt_def, <- count]
      exact Nat.succ_pos _
    have bounded : (memory.client.txBufsQueued (memory.client.streams id).txEp.toNat).toNat <= 24 :=
      by
        rw [endpoint]
        exact Nat.le_trans (apportioned.queued_le inside) apportioned.bounded
    have below : (memory.client.streams id).txEp.toNat < 12 := by
      rw [endpoint]
      omega
    rw [strmTxDone_eq { memory with pool := pool } below positive bounded, <- left] at execution
    rw [waiting, <- dequeued, number] at cleared
    have presented := sendHead_spec { memory with
        pool := pool
        client := memory.client.dequeue id (memory.client.streams id).txEp.toNat }
      endpoint (by omega) (by rw [dequeued]; exact ready)
      (by
        rw [dequeued]
        exact fun entry inside => offset entry (by rw [queue]; exact List.mem_cons_of_mem _ inside))
      (update_self _ _ _) _ _ _ cleared execution
    rcases presented with ⟨rfl, after'⟩
    rw [update_idem, dequeued] at after'
    refine ⟨rfl, pool, ?_, tracked_popped inside queue after elsewhere after'⟩
    rw [left]
    rfl
  exact polled _ _ _ ⟨tracked, by rw [number]; exact sent⟩ execution

end

end UsbStreams
end SunburstChip
