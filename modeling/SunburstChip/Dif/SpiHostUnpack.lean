import SunburstChip.Dif.SpiHostProgress
import SunburstChip.Lib.Transcript

namespace SunburstChip
namespace SpiHost

open Mmio

/-!
# Unpacking the receive FIFO

`dif_spi_host_fifo_read` pops words and stores bytes.  Between the two there is
a queue of eight bytes, from which a word can be taken at any position in the
stream.  A word is only popped while the queue holds fewer bytes than are
needed next, which are four at most, so the queue holds seven at most.

The words can be any: whatever the receive FIFO returns, however long the
controller takes, is a transcript.
-/

/-! ## The queue as bytes -/

namespace Queue

/-- One byte of the queue. -/
def byteAt (data : BitVec 64) (i : Nat) : BitVec 8 := (data >>> (8 * i)).setWidth 8

/-- The bytes in the queue, oldest first. -/
def bytes (queue : Queue) : List (BitVec 8) := (List.range queue.length).map (byteAt queue.data)

theorem length_bytes (queue : Queue) : queue.bytes.length = queue.length := by
  rw [bytes, List.length_map, List.length_range]

theorem getLsbD_byteAt (data : BitVec 64) (i j : Nat) :
    (byteAt data i).getLsbD j = (decide (j < 8) && data.getLsbD (8 * i + j)) := by
  rw [byteAt, BitVec.getLsbD_setWidth, BitVec.getLsbD_ushiftRight]

/-- A value written into the data reads back, and the other bits are as before. -/
theorem getLsbD_splice (data value : BitVec 64) {width position : Nat}
    (narrow : forall m, width <= m -> value.getLsbD m = false) {k : Nat} (inside : k < 64) :
    ((data &&& ~~~((BitVec.ofNat 64 (2 ^ width - 1)) <<< position)) |||
        (value <<< position)).getLsbD k =
      if position <= k ∧ k < position + width then value.getLsbD (k - position)
      else data.getLsbD k := by
  rw [BitVec.getLsbD_or, BitVec.getLsbD_and, BitVec.getLsbD_not, BitVec.getLsbD_shiftLeft,
    BitVec.getLsbD_shiftLeft, BitVec.getLsbD_ofNat, Nat.testBit_two_pow_sub_one]
  by_cases below : k < position
  · rw [if_neg (fun within => absurd below (Nat.not_lt.mpr within.1))]
    simp [inside, below]
  · by_cases within : k < position + width
    · rw [if_pos ⟨Nat.not_lt.mp below, within⟩]
      have offset : k - position < width := by omega
      have word : k - position < 64 := by omega
      simp [inside, below, offset, word]
    · rw [if_neg (fun both => within both.2)]
      have offset : ¬ k - position < width := by omega
      simp [inside, below, offset, narrow _ (Nat.not_lt.mp offset)]

/-- A byte of the data after some have been written. -/
theorem byteAt_splice (data value : BitVec 64) {count i : Nat}
    (narrow : forall m, 8 * count <= m -> value.getLsbD m = false) (k : Nat) :
    byteAt ((data &&& ~~~((BitVec.ofNat 64 (2 ^ (8 * count) - 1)) <<< (8 * i))) |||
        (value <<< (8 * i))) k =
      if i <= k ∧ k < i + count ∧ k < 8 then byteAt value (k - i) else byteAt data k := by
  apply BitVec.eq_of_getLsbD_eq
  intro j bound
  rw [getLsbD_byteAt]
  by_cases inside : 8 * k + j < 64
  · rw [getLsbD_splice data value narrow inside]
    by_cases within : i <= k ∧ k < i + count
    · rw [if_pos (show 8 * i <= 8 * k + j ∧ 8 * k + j < 8 * i + 8 * count by omega),
        if_pos ⟨within.1, within.2, by omega⟩, getLsbD_byteAt]
      congr 2
      omega
    · rw [if_neg (show ¬ (8 * i <= 8 * k + j ∧ 8 * k + j < 8 * i + 8 * count) by omega),
        if_neg (fun both => within ⟨both.1, both.2.1⟩), getLsbD_byteAt]
  · rw [if_neg (show ¬ (i <= k ∧ k < i + count ∧ k < 8) by omega), getLsbD_byteAt,
      BitVec.getLsbD_of_ge _ _ (Nat.le_of_not_lt inside),
      BitVec.getLsbD_of_ge data _ (Nat.le_of_not_lt inside)]

/-- What is written behind the bytes of the queue is behind them. -/
theorem bytes_append (queue : Queue) (value : BitVec 64) {count : Nat}
    (narrow : forall m, 8 * count <= m -> value.getLsbD m = false)
    (fits : queue.length + count <= 8) :
    bytes ⟨queue.length + count,
        (queue.data &&& ~~~((BitVec.ofNat 64 (2 ^ (8 * count) - 1)) <<< (8 * queue.length))) |||
          (value <<< (8 * queue.length))⟩ =
      queue.bytes ++ (List.range count).map (byteAt value) := by
  rw [bytes, List.range_add, List.map_append, List.map_map]
  congr 1
  · apply List.map_congr_left
    intro k inside
    rw [List.mem_range] at inside
    rw [byteAt_splice queue.data value narrow, if_neg (by omega)]
  · apply List.map_congr_left
    intro k inside
    rw [List.mem_range] at inside
    change byteAt _ (queue.length + k) = _
    rw [byteAt_splice queue.data value narrow, if_pos (by omega), Nat.add_sub_cancel_left]

theorem bytes_enqueueByte {queue : Queue} (data : BitVec 8) (fits : queue.length < 8) :
    (enqueueByte queue data).bytes = queue.bytes ++ [data] := by
  have narrow : forall m, 8 * 1 <= m -> (data.setWidth 64).getLsbD m = false := by
    intro m above
    rw [BitVec.getLsbD_setWidth, BitVec.getLsbD_of_ge data _ above, Bool.and_false]
  have value : byteAt (data.setWidth 64) 0 = data := by
    rw [byteAt, Nat.mul_zero, BitVec.ushiftRight_zero, BitVec.setWidth_setWidth_of_le _ (by decide),
      BitVec.setWidth_eq]
  exact (bytes_append queue _ narrow fits).trans (congrArg (queue.bytes ++ [·]) value)

theorem byteAt_setWidth (word : BitVec 32) (i : Nat) :
    byteAt (word.setWidth 64) i = (word >>> (8 * i)).setWidth 8 := by
  apply BitVec.eq_of_getLsbD_eq
  intro j bound
  rw [getLsbD_byteAt, BitVec.getLsbD_setWidth, BitVec.getLsbD_setWidth, BitVec.getLsbD_ushiftRight]
  by_cases inside : 8 * i + j < 64
  · simp [inside]
  · rw [BitVec.getLsbD_of_ge word _ (by omega), Bool.and_false, Bool.and_false]

theorem bytesOf_eq (word : BitVec 32) :
    (List.range 4).map (fun i => (word >>> (8 * i)).setWidth 8) = bytesOf word := by
  change [(word >>> 0).setWidth 8, (word >>> 8).setWidth 8, (word >>> 16).setWidth 8,
    (word >>> 24).setWidth 8] = bytesOf word
  rw [BitVec.ushiftRight_zero]
  rfl

/-- The bytes of a word that is enqueued, in the order of the stream. -/
theorem bytes_enqueueWord {queue : Queue} (word : BitVec 32) (fits : queue.length + 4 <= 8) :
    (enqueueWord queue word).bytes = queue.bytes ++ bytesOf word := by
  unfold enqueueWord
  split
  · have narrow : forall m, 8 * 4 <= m -> (word.setWidth 64).getLsbD m = false := by
      intro m above
      rw [BitVec.getLsbD_setWidth, BitVec.getLsbD_of_ge word _ above, Bool.and_false]
    have value : (List.range 4).map (byteAt (word.setWidth 64)) = bytesOf word := by
      rw [<- bytesOf_eq]
      exact List.map_congr_left (fun i _ => byteAt_setWidth word i)
    exact (bytes_append queue _ narrow fits).trans (congrArg (queue.bytes ++ ·) value)
  · have length : forall (queue : Queue) (data : BitVec 8),
        (enqueueByte queue data).length = queue.length + 1 := fun _ _ => rfl
    rw [bytes_enqueueByte _ (by simp only [length]; omega),
      bytes_enqueueByte _ (by simp only [length]; omega),
      bytes_enqueueByte _ (by simp only [length]; omega), bytes_enqueueByte _ (by omega)]
    simp only [List.append_assoc]
    rfl

theorem bytes_dequeueByte {queue : Queue} (some : 0 < queue.length) :
    queue.bytes = (dequeueByte queue).1 :: (dequeueByte queue).2.bytes := by
  rcases Nat.exists_eq_add_of_lt some with ⟨rest, length⟩
  have next : forall i, byteAt (queue.data >>> 8) i = byteAt queue.data (i + 1) := by
    intro i
    rw [byteAt, byteAt, <- BitVec.shiftRight_add, Nat.mul_succ, Nat.add_comm 8]
  have first : byteAt queue.data 0 = queue.data.setWidth 8 := by
    rw [byteAt, Nat.mul_zero, BitVec.ushiftRight_zero]
  unfold bytes dequeueByte
  rw [length, Nat.zero_add, List.range_succ_eq_map, List.map_cons, List.map_map, first]
  change _ = _ :: (List.range rest).map (byteAt (queue.data >>> 8))
  exact congrArg _ (List.map_congr_left (fun i _ => (next i).symm))

/-- The four oldest bytes form the word that is taken, and the upper four move down. -/
theorem bytes_dequeueWord {queue : Queue} (some : 4 <= queue.length) (fits : queue.length <= 8) :
    queue.bytes = bytesOf (dequeueWord queue).1 ++ (dequeueWord queue).2.bytes := by
  rcases Nat.exists_eq_add_of_le some with ⟨rest, length⟩
  have lower : forall i, i < 4 ->
      byteAt queue.data i = ((queue.data.setWidth 32) >>> (8 * i)).setWidth 8 := by
    intro i inside
    apply BitVec.eq_of_getLsbD_eq
    intro j bound
    have word : 8 * i + j < 32 := by omega
    rw [getLsbD_byteAt, BitVec.getLsbD_setWidth, BitVec.getLsbD_ushiftRight,
      BitVec.getLsbD_setWidth, decide_eq_true word, Bool.true_and]
  have upper : forall i, i < 4 -> byteAt queue.data (4 + i) = byteAt (dequeueWord queue).2.data i := by
    intro i inside
    apply BitVec.eq_of_getLsbD_eq
    intro j bound
    have word : 8 * i + j < 32 := by omega
    rw [getLsbD_byteAt, getLsbD_byteAt]
    change _ = (_ && ((queue.data >>> 32).setWidth 32 ++ (queue.data >>> 32).setWidth 32).getLsbD _)
    rw [BitVec.getLsbD_append, if_pos word, BitVec.getLsbD_setWidth, decide_eq_true word,
      Bool.true_and, BitVec.getLsbD_ushiftRight]
    congr 2
    omega
  have fewer : queue.length - 4 = rest := by omega
  change (List.range queue.length).map (byteAt queue.data) = _ ++
    (List.range (queue.length - 4)).map (byteAt (dequeueWord queue).2.data)
  rw [fewer, length, List.range_add, List.map_append, List.map_map, <- bytesOf_eq]
  congr 1
  · exact List.map_congr_left (fun i inside => lower i (List.mem_range.mp inside))
  · exact List.map_congr_left (fun i inside =>
      upper i (Nat.lt_of_lt_of_le (List.mem_range.mp inside) (by omega)))

end Queue

/-! ## The queue made visible -/

/-- `readUntilAligned`, with every content of the queue. -/
def readUntilAlignedHeld : Queue -> BitVec 32 -> Nat -> Stores -> List Queue ->
    Mmio ((Queue × BitVec 32 × Nat × Stores) × List Queue)
  | queue, ptr, 0, stores, held => return ((queue, ptr, 0, stores), held)
  | queue, ptr, len + 1, stores, held =>
      if misalignment32Of ptr ≠ 0 then do
        let full <- refill 1 queue
        let (byte, queue) := dequeueByte full
        readUntilAlignedHeld queue (ptr + 1) len (stores ++ [(ptr, byte)]) (held ++ [full, queue])
      else return ((queue, ptr, len + 1, stores), held)

/-- `readWords`, with every content of the queue. -/
def readWordsHeld : Queue -> BitVec 32 -> Nat -> Stores -> List Queue ->
    Mmio ((Queue × BitVec 32 × Nat × Stores) × List Queue)
  | queue, ptr, len + 4, stores, held => do
      let full <- refill 4 queue
      let (word, queue) := dequeueWord full
      readWordsHeld queue (ptr + 4) len (stores ++
        [(ptr, word.setWidth 8), (ptr + 1, (word >>> 8).setWidth 8),
          (ptr + 2, (word >>> 16).setWidth 8), (ptr + 3, (word >>> 24).setWidth 8)])
        (held ++ [full, queue])
  | queue, ptr, len, stores, held => return ((queue, ptr, len, stores), held)

/-- `readBytes`, with every content of the queue. -/
def readBytesHeld : Queue -> BitVec 32 -> Nat -> Stores -> List Queue -> Mmio (Stores × List Queue)
  | _, _, 0, stores, held => return (stores, held)
  | queue, ptr, len + 1, stores, held => do
      let full <- refill 1 queue
      let (byte, queue) := dequeueByte full
      readBytesHeld queue (ptr + 1) len (stores ++ [(ptr, byte)]) (held ++ [full, queue])

/-- `dif_spi_host_fifo_read`, with every content of the queue. -/
def difSpiHostFifoReadHeld (spiHost : Pointer) (dst : BitVec 32) (len : BitVec 16) :
    Mmio ((DifResult × Stores) × List Queue) := do
  if spiHost = .null ∨ (dst = 0 ∧ 0 < len) then
    return ((.kDifBadArg, []), [])
  let ((queue, ptr, rest, stores), held) <-
    readUntilAlignedHeld ⟨0, 0⟩ dst len.toNat [] [⟨0, 0⟩]
  let ((queue, ptr, rest, stores), held) <- readWordsHeld queue ptr rest stores held
  let (stores, held) <- readBytesHeld queue ptr rest stores held
  return ((.kDifOk, stores), held)

theorem forget_readUntilAlignedHeld (queue : Queue) (ptr : BitVec 32) (left : Nat)
    (stores : Stores) (held : List Queue) :
    forget (readUntilAlignedHeld queue ptr left stores held) =
      readUntilAligned queue ptr left stores := by
  induction left generalizing queue ptr stores held with
  | zero => rfl
  | succ left ih =>
      rw [readUntilAlignedHeld, readUntilAligned]
      split
      · exact forget_bind _ _ _ (fun full => ih _ _ _ _)
      · rfl

theorem forget_readWordsHeld (queue : Queue) (ptr : BitVec 32) (left : Nat) (stores : Stores)
    (held : List Queue) :
    forget (readWordsHeld queue ptr left stores held) = readWords queue ptr left stores := by
  fun_induction readWordsHeld queue ptr left stores held with
  | case1 queue ptr left stores held ih => exact forget_bind _ _ _ (fun full => ih full _ _)
  | case2 queue ptr left stores held few => rw [readWords] <;> first | rfl | exact few

theorem forget_readBytesHeld (queue : Queue) (ptr : BitVec 32) (left : Nat) (stores : Stores)
    (held : List Queue) :
    forget (readBytesHeld queue ptr left stores held) = readBytes queue ptr left stores := by
  induction left generalizing queue ptr stores held with
  | zero => rfl
  | succ left ih => exact forget_bind _ _ _ (fun full => ih _ _ _ _)

/-- The function is the same with the queue visible. -/
theorem forget_difSpiHostFifoReadHeld (spiHost : Pointer) (dst : BitVec 32) (len : BitVec 16) :
    forget (difSpiHostFifoReadHeld spiHost dst len) = difSpiHostFifoRead spiHost dst len := by
  unfold difSpiHostFifoReadHeld difSpiHostFifoRead
  split
  · rfl
  · rw [<- forget_readUntilAlignedHeld _ _ _ _ [⟨0, 0⟩]]
    refine forget_bind_forget _ _ _ ?_
    rintro ⟨⟨queue, ptr, rest, stores⟩, held⟩
    dsimp only
    rw [<- forget_readWordsHeld _ _ _ _ held]
    refine forget_bind_forget _ _ _ ?_
    rintro ⟨⟨queue, ptr, rest, stores⟩, held⟩
    dsimp only
    rw [<- forget_readBytesHeld _ _ _ _ held]
    refine forget_bind_forget _ _ _ ?_
    exact fun _ => rfl

/-! ## The stream and the stores -/

/-- The words popped from the receive FIFO, in order. -/
def popped (events : List Event) : List (BitVec 32) := readsAt rxdataRegOffset events

theorem popped_append (events events' : List Event) :
    popped (events ++ events') = popped events ++ popped events' := readsAt_append _ _ _

/-- The little-endian byte stream of some words. -/
def streamOf (words : List (BitVec 32)) : List (BitVec 8) := words.flatMap bytesOf

/-- Bytes stored one behind the other. -/
def storesAt (ptr : BitVec 32) (bytes : List (BitVec 8)) : Stores :=
  bytes.mapIdx (fun i byte => (ptr + BitVec.ofNat 32 i, byte))

theorem length_streamOf (words : List (BitVec 32)) : (streamOf words).length = 4 * words.length := by
  induction words with
  | nil => rfl
  | cons word words ih =>
      change (bytesOf word ++ streamOf words).length = _
      rw [List.length_append, ih, List.length_cons]
      change 4 + _ = _
      omega

theorem streamOf_append (words words' : List (BitVec 32)) :
    streamOf (words ++ words') = streamOf words ++ streamOf words' := List.flatMap_append

theorem storesAt_append (ptr : BitVec 32) (bytes bytes' : List (BitVec 8)) :
    storesAt ptr (bytes ++ bytes') =
      storesAt ptr bytes ++ storesAt (ptr + BitVec.ofNat 32 bytes.length) bytes' := by
  unfold storesAt
  rw [List.mapIdx_append]
  congr 1
  refine congrArg (fun f => List.mapIdx f bytes') (funext fun i => funext fun byte => ?_)
  rw [BitVec.add_assoc, <- BitVec.ofNat_add, Nat.add_comm]

/-- The state of the function between two rounds. -/
structure Reading where
  queue : Queue
  ptr : BitVec 32
  left : Nat
  stores : Stores
  held : List Queue

/-- From one state to another these words are popped: some bytes of the stream
are stored, the rest stays in the queue, which never holds more than eight. -/
structure Unpacks (before : Reading) (words : List (BitVec 32)) (after : Reading) : Prop where
  few : after.queue.length <= 3
  moved : Exists fun bytes => before.queue.bytes ++ streamOf words = bytes ++ after.queue.bytes ∧
    after.ptr = before.ptr + BitVec.ofNat 32 bytes.length ∧
    before.left = bytes.length + after.left ∧
    after.stores = before.stores ++ storesAt before.ptr bytes
  held : (forall queue, queue ∈ before.held -> queue.length <= 8) ->
    forall queue, queue ∈ after.held -> queue.length <= 8

namespace Unpacks

variable {before middle after : Reading} {words words' : List (BitVec 32)}

theorem refl (few : before.queue.length <= 3) : Unpacks before [] before := by
  refine ⟨few, ⟨[], ?_, ?_, (Nat.zero_add _).symm, (List.append_nil _).symm⟩, fun holds => holds⟩
  · exact List.append_nil _
  · exact (BitVec.add_zero _).symm

theorem trans (first : Unpacks before words middle) (second : Unpacks middle words' after) :
    Unpacks before (words ++ words') after := by
  rcases first.moved with ⟨bytes, stream, ptr, left, stores⟩
  rcases second.moved with ⟨bytes', stream', ptr', left', stores'⟩
  refine ⟨second.few, ⟨bytes ++ bytes', ?_, ?_, ?_, ?_⟩, fun holds => second.held (first.held holds)⟩
  · rw [streamOf_append, <- List.append_assoc, stream, List.append_assoc, stream', List.append_assoc]
  · rw [ptr', ptr, BitVec.add_assoc, <- BitVec.ofNat_add, List.length_append]
  · rw [left, left', List.length_append, Nat.add_assoc]
  · rw [stores', stores, ptr, storesAt_append, List.append_assoc]

/-- One round: the queue is filled up, and its oldest bytes are stored. -/
theorem round {full queue : Queue} {stores : Stores} {held : List Queue} (bytes : List (BitVec 8))
    (filled : full.bytes = before.queue.bytes ++ streamOf words)
    (taken : full.bytes = bytes ++ queue.bytes) (bound : full.length <= bytes.length + 3)
    (fits : full.length <= 8) (enough : bytes.length <= before.left)
    (stored : stores = before.stores ++ storesAt before.ptr bytes)
    (noted : held = before.held ++ [full, queue]) :
    Unpacks before words ⟨queue, before.ptr + BitVec.ofNat 32 bytes.length,
      before.left - bytes.length, stores, held⟩ := by
  have lengths := congrArg List.length taken
  rw [List.length_append, Queue.length_bytes, Queue.length_bytes] at lengths
  refine ⟨?_, ⟨bytes, ?_, rfl, ?_, stored⟩, ?_⟩
  · change queue.length <= 3
    omega
  · exact filled.symm.trans taken
  · change before.left = bytes.length + (before.left - bytes.length)
    omega
  · intro holds queue' member
    change queue' ∈ held at member
    rw [noted, List.mem_append] at member
    rcases member with before | now
    · exact holds queue' before
    · simp only [List.mem_cons, List.not_mem_nil, or_false] at now
      rcases now with rfl | rfl
      · exact fits
      · omega

end Unpacks

/-! ## The loops -/

section Loops

variable {events : List Event} {queue full : Queue} {ptr : BitVec 32} {left needed : Nat}
  {stores : Stores} {held : List Queue}

/-- Waiting pops nothing. -/
theorem popped_waitRxFifo {out : Unit} (transcript : Transcript waitRxFifo events out) :
    popped events = [] := by
  have within : waitRxFifo.Within (fun access => access = .read32 statusRegOffset) :=
    ⟨rfl, fun _ => trivial⟩
  refine List.filterMap_eq_nil_iff.mpr (fun event member => ?_)
  have access := within.events transcript event member
  cases event with
  | read32 offset value =>
      cases access
      rfl
  | write32 | write8 => cases access

/-- A word is popped if the queue holds too few bytes, and then it holds enough. -/
theorem transcript_refill (few : queue.length <= 3) (small : needed <= 4)
    (transcript : Transcript (refill needed queue) events full) :
    needed <= full.length ∧ full.length <= needed + 3 ∧
      full.bytes = queue.bytes ++ streamOf (popped events) := by
  unfold refill at transcript
  split at transcript
  · next short =>
      rcases transcript_bind transcript with ⟨waiting, rest, out, rfl, waited, popping⟩
      rcases transcript_read32.mp popping with ⟨word, none, rfl, returned⟩
      rcases transcript_ret.mp returned with ⟨rfl, rfl⟩
      rw [popped_append, popped_waitRxFifo waited, List.nil_append]
      have length := length_enqueueWord queue word
      refine ⟨by omega, by omega, ?_⟩
      rw [Queue.bytes_enqueueWord word (by omega)]
      exact congrArg (queue.bytes ++ ·) (List.append_nil _).symm
  · next enough =>
      rcases transcript_ret.mp transcript with ⟨rfl, rfl⟩
      exact ⟨Nat.not_lt.mp enough, by omega, (List.append_nil _).symm⟩

/-- One byte is stored. -/
theorem unpacks_byte (few : queue.length <= 3)
    (transcript : Transcript (refill 1 queue) events full) :
    Unpacks ⟨queue, ptr, left + 1, stores, held⟩ (popped events)
      ⟨(dequeueByte full).2, ptr + 1, left, stores ++ [(ptr, (dequeueByte full).1)],
        held ++ [full, (dequeueByte full).2]⟩ := by
  rcases transcript_refill few (by decide) transcript with ⟨some, bound, filled⟩
  have start : storesAt ptr [(dequeueByte full).1] = [(ptr, (dequeueByte full).1)] := by
    change [(ptr + BitVec.ofNat 32 0, _)] = _
    rw [BitVec.add_zero]
  exact Unpacks.round [(dequeueByte full).1] filled (Queue.bytes_dequeueByte some) bound
    (by omega) (Nat.le_add_left 1 left) (congrArg (stores ++ ·) start.symm) rfl

theorem unpacks_readUntilAlignedHeld {out : (Queue × BitVec 32 × Nat × Stores) × List Queue}
    (few : queue.length <= 3)
    (transcript : Transcript (readUntilAlignedHeld queue ptr left stores held) events out) :
    Unpacks ⟨queue, ptr, left, stores, held⟩ (popped events)
      ⟨out.1.1, out.1.2.1, out.1.2.2.1, out.1.2.2.2, out.2⟩ := by
  induction left generalizing queue ptr stores held events with
  | zero =>
      rcases transcript_ret.mp transcript with ⟨rfl, rfl⟩
      exact Unpacks.refl few
  | succ left ih =>
      rw [readUntilAlignedHeld] at transcript
      split at transcript
      · rcases transcript_bind transcript with ⟨first, rest, full, rfl, refilled, others⟩
        have byte := @unpacks_byte _ _ _ ptr left stores held few refilled
        rw [popped_append]
        exact byte.trans (ih byte.few others)
      · rcases transcript_ret.mp transcript with ⟨rfl, rfl⟩
        exact Unpacks.refl few

theorem unpacks_readBytesHeld {out : Stores × List Queue} (few : queue.length <= 3)
    (transcript : Transcript (readBytesHeld queue ptr left stores held) events out) :
    Exists fun queue' => Exists fun ptr' =>
      Unpacks ⟨queue, ptr, left, stores, held⟩ (popped events) ⟨queue', ptr', 0, out.1, out.2⟩ := by
  induction left generalizing queue ptr stores held events with
  | zero =>
      rcases transcript_ret.mp transcript with ⟨rfl, rfl⟩
      exact ⟨queue, ptr, Unpacks.refl few⟩
  | succ left ih =>
      rcases transcript_bind transcript with ⟨first, rest, full, rfl, refilled, others⟩
      have byte := @unpacks_byte _ _ _ ptr left stores held few refilled
      rcases ih byte.few others with ⟨queue', ptr', bytes⟩
      rw [popped_append]
      exact ⟨queue', ptr', byte.trans bytes⟩

/-- One word is stored. -/
theorem unpacks_word (few : queue.length <= 3)
    (transcript : Transcript (refill 4 queue) events full) :
    Unpacks ⟨queue, ptr, left + 4, stores, held⟩ (popped events)
      ⟨(dequeueWord full).2, ptr + 4, left, stores ++
        [(ptr, (dequeueWord full).1.setWidth 8), (ptr + 1, ((dequeueWord full).1 >>> 8).setWidth 8),
          (ptr + 2, ((dequeueWord full).1 >>> 16).setWidth 8),
          (ptr + 3, ((dequeueWord full).1 >>> 24).setWidth 8)],
        held ++ [full, (dequeueWord full).2]⟩ := by
  rcases transcript_refill few (by decide) transcript with ⟨some, bound, filled⟩
  have start : storesAt ptr (bytesOf (dequeueWord full).1) =
      [(ptr, (dequeueWord full).1.setWidth 8), (ptr + 1, ((dequeueWord full).1 >>> 8).setWidth 8),
        (ptr + 2, ((dequeueWord full).1 >>> 16).setWidth 8),
        (ptr + 3, ((dequeueWord full).1 >>> 24).setWidth 8)] := by
    change [(ptr + BitVec.ofNat 32 0, _), _, _, _] = _
    rw [BitVec.add_zero]
    rfl
  exact Unpacks.round (bytesOf (dequeueWord full).1) filled
    (Queue.bytes_dequeueWord some (by omega)) bound (by omega) (Nat.le_add_left 4 left)
    (congrArg (stores ++ ·) start.symm) rfl

theorem unpacks_readWordsHeld {out : (Queue × BitVec 32 × Nat × Stores) × List Queue}
    (few : queue.length <= 3)
    (transcript : Transcript (readWordsHeld queue ptr left stores held) events out) :
    Unpacks ⟨queue, ptr, left, stores, held⟩ (popped events)
      ⟨out.1.1, out.1.2.1, out.1.2.2.1, out.1.2.2.2, out.2⟩ := by
  fun_induction readWordsHeld queue ptr left stores held generalizing events with
  | case1 queue ptr left stores held ih =>
      rcases transcript_bind transcript with ⟨first, rest, full, rfl, refilled, others⟩
      have word := @unpacks_word _ _ _ ptr left stores held few refilled
      rw [popped_append]
      exact word.trans (ih full _ _ word.few others)
  | case2 queue ptr left stores held few' =>
      rcases transcript_ret.mp transcript with ⟨rfl, rfl⟩
      exact Unpacks.refl few

end Loops

/-! ## The whole call -/

section Call

variable {dst : BitVec 32} {len : BitVec 16} {events : List Event}

/-- What the call does, with the queue visible. -/
theorem unpacks_difSpiHostFifoReadHeld {out : (DifResult × Stores) × List Queue}
    (buffer : ¬ (dst = 0 ∧ 0 < len))
    (transcript : Transcript (difSpiHostFifoReadHeld .object dst len) events out) :
    out.1.1 = .kDifOk ∧ Exists fun queue => Exists fun ptr =>
      Unpacks ⟨⟨0, 0⟩, dst, len.toNat, [], [⟨0, 0⟩]⟩ (popped events)
        ⟨queue, ptr, 0, out.1.2, out.2⟩ := by
  unfold difSpiHostFifoReadHeld at transcript
  rw [if_neg (show ¬ (Pointer.object = .null ∨ (dst = 0 ∧ 0 < len)) from
    fun either => either.elim nofun buffer)] at transcript
  rcases transcript_bind transcript with ⟨head, rest, ⟨⟨queue, ptr, left, stores⟩, held⟩, rfl,
    aligned, others⟩
  rcases transcript_bind others with ⟨body, rest, ⟨⟨queue', ptr', left', stores'⟩, held'⟩, rfl,
    words, others⟩
  rcases transcript_bind others with ⟨tail, rest, ⟨stores'', held''⟩, rfl, bytes, returned⟩
  rcases transcript_ret.mp returned with ⟨rfl, rfl⟩
  have first := unpacks_readUntilAlignedHeld (Nat.zero_le 3) aligned
  have second := unpacks_readWordsHeld first.few words
  rcases unpacks_readBytesHeld second.few bytes with ⟨queue, ptr, third⟩
  refine ⟨rfl, queue, ptr, ?_⟩
  rw [List.append_nil, popped_append, popped_append]
  exact first.trans (second.trans third)

/-- What has been stored is the beginning of the stream, and no word has been
popped in vain. -/
theorem Unpacks.complete {words : List (BitVec 32)} {queue : Queue} {ptr : BitVec 32}
    {length : Nat} {stores : Stores} {held : List Queue}
    (unpacks : Unpacks ⟨⟨0, 0⟩, dst, length, [], [⟨0, 0⟩]⟩ words ⟨queue, ptr, 0, stores, held⟩) :
    stores = storesAt dst ((streamOf words).take length) ∧ words.length = (length + 3) / 4 ∧
      forall queue, queue ∈ held -> queue.length <= 8 := by
  rcases unpacks.moved with ⟨bytes, stream, -, left, stored⟩
  have few : queue.length <= 3 := unpacks.few
  have same : streamOf words = bytes ++ queue.bytes := stream
  have all : length = bytes.length := left
  refine ⟨?_, ?_, unpacks.held ?_⟩
  · rw [same, all, List.take_left]
    exact stored
  · have lengths := congrArg List.length same
    rw [length_streamOf, List.length_append, Queue.length_bytes, <- all] at lengths
    omega
  · intro queue' member
    cases List.mem_singleton.mp member
    exact Nat.zero_le 8

theorem answers_refill (needed : Nat) (queue : Queue) :
    (refill needed queue).Polls (Answers rxdataRegOffset) := by
  unfold refill
  split
  · exact ⟨⟨by decide, 0x100, by decide⟩, fun _ _ => trivial⟩
  · trivial

/-- Nothing but the receive FIFO is waited for. -/
theorem answers_difSpiHostFifoRead (spiHost : Pointer) (dst : BitVec 32) (len : BitVec 16) :
    (difSpiHostFifoRead spiHost dst len).Polls (Answers rxdataRegOffset) := by
  have aligned : forall left queue ptr stores,
      (readUntilAligned queue ptr left stores).Polls (Answers rxdataRegOffset) := by
    intro left
    induction left with
    | zero => exact fun _ _ _ => trivial
    | succ left ih =>
        intro queue ptr stores
        rw [readUntilAligned]
        split
        · exact (answers_refill 1 queue).bind (fun _ => ih _ _ _)
        · trivial
  have words : forall queue ptr left stores,
      (readWords queue ptr left stores).Polls (Answers rxdataRegOffset) := by
    intro queue ptr left stores
    fun_induction readWords queue ptr left stores with
    | case1 queue ptr left stores ih => exact (answers_refill 4 queue).bind (fun full => ih _ _)
    | case2 => trivial
  have bytes : forall left queue ptr stores,
      (readBytes queue ptr left stores).Polls (Answers rxdataRegOffset) := by
    intro left
    induction left with
    | zero => exact fun _ _ _ => trivial
    | succ left ih => exact fun queue _ _ => (answers_refill 1 queue).bind (fun _ => ih _ _ _)
  unfold difSpiHostFifoRead
  split
  · trivial
  · refine (aligned _ _ _ _).bind (fun _ => ?_)
    refine (words _ _ _ _).bind (fun _ => ?_)
    exact (bytes _ _ _ _).bind (fun _ => trivial)

end Call

/-- Whatever words are popped, `dif_spi_host_fifo_read` stores the beginning of
their stream in the buffer and nothing elsewhere, pops as many words as that takes,
and never holds more than eight bytes in its queue.  Any words can be popped. -/
theorem fifoRead_unpacks (dst : BitVec 32) (len : BitVec 16) (buffer : ¬ (dst = 0 ∧ 0 < len)) :
    (forall events out, Transcript (difSpiHostFifoRead .object dst len) events out ->
      out = (.kDifOk, storesAt dst ((streamOf (popped events)).take len.toNat)) ∧
      out.2.length = len.toNat ∧ (popped events).length = (len.toNat + 3) / 4 ∧
      Exists fun held => Transcript (difSpiHostFifoReadHeld .object dst len) events (out, held) ∧
        forall queue, queue ∈ held -> queue.length <= 8) ∧
    forall words : List (BitVec 32), words.length = (len.toNat + 3) / 4 ->
      Exists fun events => Exists fun out =>
        Transcript (difSpiHostFifoRead .object dst len) events out ∧ popped events = words := by
  have sound : forall events out, Transcript (difSpiHostFifoRead .object dst len) events out ->
      out = (.kDifOk, storesAt dst ((streamOf (popped events)).take len.toNat)) ∧
      out.2.length = len.toNat ∧ (popped events).length = (len.toNat + 3) / 4 ∧
      Exists fun held => Transcript (difSpiHostFifoReadHeld .object dst len) events (out, held) ∧
        forall queue, queue ∈ held -> queue.length <= 8 := by
    intro events out transcript
    rw [<- forget_difSpiHostFifoReadHeld] at transcript
    rcases transcript_bind transcript with ⟨visible, rest, ⟨out', held⟩, rfl, seen, returned⟩
    rcases transcript_ret.mp returned with ⟨rfl, rfl⟩
    rw [List.append_nil]
    rcases unpacks_difSpiHostFifoReadHeld buffer seen with ⟨ok, queue, ptr, unpacks⟩
    rcases unpacks.complete with ⟨stores, count, fits⟩
    refine ⟨Prod.ext ok stores, ?_, count, held, seen, fits⟩
    have stored : out.2 = storesAt dst ((streamOf (popped visible)).take len.toNat) := stores
    rw [stored, storesAt, List.length_mapIdx, List.length_take, length_streamOf]
    omega
  refine ⟨sound, fun words enough => ?_⟩
  rcases (answers_difSpiHostFifoRead .object dst len).transcript (fun i => words.getD i 0) with
    ⟨events, out, count, transcript, reads⟩
  have length : (popped events).length = words.length :=
    (sound events out transcript).2.2.1.trans enough.symm
  refine ⟨events, out, transcript, List.ext_getElem length (fun i inside inside' => ?_)⟩
  have value : popped events = (List.range count).map (fun i => words.getD i 0) := reads
  simp only [value, List.getElem_map, List.getElem_range, List.getD_eq_getElem _ _ inside']

/-- Five bytes for an address that is not aligned, with one word left over in part. -/
theorem fifoRead_unpacks_five :
    (forall events out, Transcript (difSpiHostFifoRead .object 0x1002 5) events out ->
      out = (.kDifOk, storesAt 0x1002 ((streamOf (popped events)).take 5)) ∧
      out.2.length = 5 ∧ (popped events).length = 2 ∧
      Exists fun held => Transcript (difSpiHostFifoReadHeld .object 0x1002 5) events (out, held) ∧
        forall queue, queue ∈ held -> queue.length <= 8) ∧
    forall words : List (BitVec 32), words.length = 2 ->
      Exists fun events => Exists fun out =>
        Transcript (difSpiHostFifoRead .object 0x1002 5) events out ∧ popped events = words :=
  fifoRead_unpacks 0x1002 5 (by decide)

end SpiHost
end SunburstChip
