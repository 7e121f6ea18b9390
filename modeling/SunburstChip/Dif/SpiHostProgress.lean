import SunburstChip.Dif.SpiHostFifos

namespace SunburstChip
namespace SpiHost

open Mmio Fifos

/-!
# When a bidirectional transaction completes

While the buffer is being sent, what the FIFOs hold is determined by how many
entries were written and how many bytes were shifted.  Software can be held up
only by a full transmit FIFO, and the controller then only by a full receive
FIFO, which it is after 256 bytes.  So the sending gets stuck exactly if more
entries than the transmit FIFO holds are left after 256 bytes.  Once it is
through, the reading asks for no more words than are received.
-/

/-- Software and the controller, which shifts at any moment it can. -/
def fifoWorld : World Fifos := .of fifoDevice Shifts

/-- On the proviso the program never waits for a controller that has stalled. -/
abbrev Progresses {α : Type} (given : Prop) (pre : Fifos -> Prop) (m : Mmio α)
    (post : α -> Fifos -> Prop) : Prop :=
  Live fifoWorld (fun _ _ => True) given pre m post

theorem kept {place : Position} {assertion : Fifos -> Prop} (stable : Stable Shifts assertion) :
    Keeps fifoWorld (fun _ _ => True) place assertion :=
  ⟨fun _ _ => trivial, stable⟩

/-! ## What the FIFOs hold -/

/-- The entries of the given sizes were written for a command of `len` bytes,
and `popped` words were read back. -/
structure Moving (len : Nat) (sent : List Nat) (popped : Nat) (fifos : Fifos) : Prop where
  sizes : forall size, size ∈ sent -> 0 < size
  remaining_le : fifos.remaining <= len
  shifted_le : len - fifos.remaining <= sent.sum
  queued : fifos.tx.map List.length = unsent (len - fifos.remaining) sent
  entries : forall entry, entry ∈ fifos.tx -> entry ≠ []
  tx_le : fifos.tx.length <= 72
  rx_le : fifos.rx.length <= 64
  partialWord : fifos.remaining ≠ 0 ->
    4 * (fifos.rx.length + popped) + fifos.partialWord.length = len - fifos.remaining
  partialWord_lt : fifos.partialWord.length < 4
  complete : fifos.remaining = 0 -> fifos.rx.length + popped = (len + 3) / 4
  /-- A full receive FIFO stopped the controller at the end of a word. -/
  full : fifos.rx.length = 64 -> fifos.partialWord = []

theorem length_shiftOut {tx : List (List (BitVec 8))}
    (entries : forall entry, entry ∈ tx -> entry ≠ []) :
    (shiftOut tx).map List.length = unsent 1 (tx.map List.length) := by
  rcases tx with _ | ⟨_ | ⟨first, _ | ⟨second, entry⟩⟩, rest⟩
  · rfl
  · exact absurd rfl (entries [] List.mem_cons_self)
  · have positive : forall size, size ∈ rest.map List.length -> 0 < size := by
      intro size member
      rcases List.mem_map.mp member with ⟨entry, inside, rfl⟩
      exact List.length_pos_iff.mpr (entries entry (List.mem_cons_of_mem _ inside))
    exact (unsent_zero positive).symm
  · rfl

theorem shiftOut_ne_nil {tx : List (List (BitVec 8))}
    (entries : forall entry, entry ∈ tx -> entry ≠ []) :
    forall entry, entry ∈ shiftOut tx -> entry ≠ [] := by
  intro entry member
  rcases tx with _ | ⟨_ | ⟨first, _ | ⟨second, bytes⟩⟩, rest⟩
  · cases member
  · exact absurd rfl (entries [] List.mem_cons_self)
  · exact entries entry (List.mem_cons_of_mem _ member)
  · rcases List.mem_cons.mp member with rfl | inside
    · exact List.cons_ne_nil _ _
    · exact entries entry (List.mem_cons_of_mem _ inside)

theorem length_shiftOut_le (tx : List (List (BitVec 8))) : (shiftOut tx).length <= tx.length := by
  rcases tx with _ | ⟨_ | ⟨first, _ | ⟨second, bytes⟩⟩, rest⟩ <;>
    simp only [shiftOut, List.length_cons, List.length_nil] <;> omega

theorem length_tx_shift_le (received : BitVec 8) (fifos : Fifos) :
    (fifos.shift received).tx.length <= fifos.tx.length := by
  rw [tx_shift]
  exact length_shiftOut_le fifos.tx

/-- The invariant does not depend on when the controller shifts. -/
theorem stable_moving (len : Nat) (sent : List Nat) (popped : Nat) :
    Stable Shifts (Moving len sent popped) := by
  rintro fifos fifos' ⟨⟨more, queued, room⟩, received, rfl⟩ moving
  have remaining_le := moving.remaining_le
  have shifted_le := moving.shifted_le
  have partialWord := moving.partialWord (Nat.pos_iff_ne_zero.mp more)
  have partialWord_lt := moving.partialWord_lt
  have room : fifos.rx.length < 64 := room
  have unfinished : len - fifos.remaining < sent.sum := by
    refine Nat.lt_of_le_of_ne shifted_le ?_
    intro all
    have none := moving.queued
    rw [unsent_eq_nil (Nat.le_of_eq all.symm) moving.sizes, List.map_eq_nil_iff] at none
    exact queued none
  have next : len - (fifos.remaining - 1) = len - fifos.remaining + 1 := by omega
  have queued' : (shiftOut fifos.tx).map List.length = unsent (len - (fifos.remaining - 1)) sent := by
    rw [next, unsent_add, <- moving.queued]
    exact length_shiftOut moving.entries
  have tx_le := Nat.le_trans (length_tx_shift_le received fifos) moving.tx_le
  have entries := shiftOut_ne_nil moving.entries
  rw [tx_shift] at tx_le
  unfold shift
  dsimp only
  rw [List.length_append, List.length_singleton]
  by_cases flush : fifos.partialWord.length + 1 = 4 ∨ fifos.remaining - 1 = 0
  · rw [if_pos flush]
    refine ⟨moving.sizes, ?_, ?_, queued', entries, tx_le, ?_, ?_, ?_, ?_, fun _ => rfl⟩ <;>
      simp only [List.length_append, List.length_singleton, List.length_nil]
    · omega
    · omega
    · omega
    · intro more'
      omega
    · omega
    · intro last
      omega
  · rw [if_neg flush]
    refine ⟨moving.sizes, ?_, ?_, queued', entries, tx_le, moving.rx_le, ?_, ?_, ?_, ?_⟩ <;>
      simp only [List.length_append, List.length_singleton]
    · omega
    · omega
    · intro more'
      omega
    · omega
    · intro last
      omega
    · intro full
      omega

variable {fifos : Fifos} {len : Nat} {total : List Nat}

/-- With entries queued, only a full receive FIFO stops the controller, and it
does so after 256 bytes. -/
theorem canShift_of_tx {sent : List Nat} (moving : Moving len sent 0 fifos)
    (sum_le : sent.sum <= len) (queued : fifos.tx ≠ [])
    (room : (unsent 256 sent).length < fifos.tx.length) : fifos.CanShift := by
  have more : fifos.remaining ≠ 0 := by
    intro finished
    have none := moving.queued
    rw [finished, Nat.sub_zero, unsent_eq_nil sum_le moving.sizes, List.map_eq_nil_iff] at none
    exact queued none
  refine ⟨Nat.pos_iff_ne_zero.mpr more, queued, Nat.lt_of_le_of_ne moving.rx_le ?_⟩
  intro full
  have partialWord := moving.partialWord more
  rw [full, moving.full full] at partialWord
  have queue := congrArg List.length moving.queued
  rw [<- partialWord, List.length_map] at queue
  exact Nat.ne_of_gt room queue

/-- With the receive FIFO drained and words still to come, the controller can
go on. -/
theorem canShift_of_rx {popped : Nat} {sent : List Nat} (moving : Moving len sent popped fifos)
    (sum_eq : sent.sum = len) (drained : fifos.rx = []) (wanted : 4 * popped < len) :
    fifos.CanShift := by
  have more : fifos.remaining ≠ 0 := by
    intro finished
    have words := moving.complete finished
    rw [drained, List.length_nil] at words
    omega
  have remaining_le := moving.remaining_le
  refine ⟨Nat.pos_iff_ne_zero.mpr more, ?_, ?_⟩
  · intro none
    have queue := moving.queued
    rw [none, List.map_nil] at queue
    exact unsent_ne_nil (show len - fifos.remaining < sent.sum by omega) queue.symm
  · rw [drained]
    exact Nat.succ_pos 63

/-! ## Sending -/

/-- Entries of the sizes in `todo` are still to be written, of all those in `total`. -/
def Filling (len : Nat) (total todo : List Nat) (fifos : Fifos) : Prop :=
  Exists fun sent => sent ++ todo = total ∧ Moving len sent 0 fifos

theorem stable_filling (len : Nat) (total todo : List Nat) :
    Stable Shifts (Filling len total todo) := by
  rintro fifos fifos' shifts ⟨sent, split, moving⟩
  exact ⟨sent, split, stable_moving len sent 0 _ _ shifts moving⟩

/-- The entries left once 256 bytes were shifted fit the transmit FIFO. -/
def Fits (total : List Nat) : Prop := (unsent 256 total).length <= 72

instance (total : List Nat) : Decidable (Fits total) :=
  inferInstanceAs (Decidable ((unsent 256 total).length <= 72))

theorem filling_push {todo : List Nat} (entry : List (BitVec 8))
    (filling : Filling len total (entry.length :: todo) fifos)
    (positive : forall size, size ∈ total -> 0 < size) (room : fifos.tx.length < 72) :
    Filling len total todo (fifos.push entry) := by
  rcases filling with ⟨sent, split, moving⟩
  have split' : sent ++ [entry.length] ++ todo = total := by
    rw [List.append_assoc]
    exact split
  have one : 0 < entry.length := by
    refine positive _ ?_
    rw [<- split]
    exact List.mem_append_right sent List.mem_cons_self
  unfold push
  rw [if_pos (show fifos.tx.length < paramTxDepth.toNat from room)]
  refine ⟨sent ++ [entry.length], split', ?_, moving.remaining_le, ?_, ?_, ?_, ?_, moving.rx_le,
    moving.partialWord, moving.partialWord_lt, moving.complete, moving.full⟩
  · intro size member
    refine positive size ?_
    rw [<- split']
    exact List.mem_append_left todo member
  · rw [List.sum_append]
    exact Nat.le_trans moving.shifted_le (Nat.le_add_right _ _)
  · rw [unsent_append moving.shifted_le ?_, List.map_append, moving.queued]
    · rfl
    · intro size member
      rw [List.mem_singleton.mp member]
      exact one
  · intro entry' member
    rcases List.mem_append.mp member with inside | last
    · exact moving.entries entry' inside
    · rw [List.mem_singleton.mp last]
      exact List.length_pos_iff.mp one
  · rw [List.length_append]
    exact room

section Sending

variable {len : Nat} {total : List Nat} (positive : forall size, size ∈ total -> 0 < size)
  (sum_eq : total.sum = len)

include sum_eq positive in
/-- Waiting for room in the transmit FIFO. -/
theorem live_waitTxFifo {size : Nat} {todo : List Nat} :
    Progresses (Fits total) (Filling len total (size :: todo)) waitTxFifo
      (fun _ fifos => Filling len total (size :: todo) fifos ∧ fifos.tx.length < 72) := by
  have stable : Stable Shifts (fun fifos =>
      Filling len total (size :: todo) fifos ∧ fifos.tx.length < 72) := by
    rintro fifos fifos' shifts ⟨filling, room⟩
    refine ⟨stable_filling _ _ _ _ _ shifts filling, ?_⟩
    rcases shifts with ⟨can, received, rfl⟩
    exact Nat.lt_of_le_of_lt (length_tx_shift_le received fifos) room
  refine Live.poll32 (fun _ fifos => Filling len total (size :: todo) fifos ∧
    fifos.tx.length < 72) (kept (stable_filling _ _ _)) (fun _ _ _ => trivial) ?_ ?_ ?_
  · rintro fits fifos ⟨sent, split, moving⟩ failed
    have full : fifos.tx.length = 72 := by
      have below := (txqd_status moving.tx_le).not.mp (Bool.eq_false_iff.mp failed)
      exact Nat.le_antisymm moving.tx_le (Nat.not_lt.mp below)
    have sum_le : sent.sum <= len := by
      rw [<- sum_eq, <- split, List.sum_append]
      exact Nat.le_add_right _ _
    -- One entry at least is still to be written, so those queued after 256
    -- bytes would not be all that are left then.
    have room : (unsent 256 sent).length < fifos.tx.length := by
      by_cases within : 256 <= sent.sum
      · have all := fits
        unfold Fits at all
        rw [<- split, unsent_append within ?_, List.length_append, List.length_cons] at all
        · omega
        · intro size' member
          exact positive size' (split ▸ List.mem_append_right sent member)
      · rw [unsent_eq_nil (by omega) moving.sizes, full]
        exact Nat.succ_pos 71
    have queued : fifos.tx ≠ [] := by
      intro none
      rw [none] at full
      cases full
    exact ⟨fifos.shift 0, canShift_of_tx moving sum_le queued room, 0, rfl⟩
  · intro fifos filling _ passed
    rcases filling with ⟨sent, split, moving⟩
    exact ⟨⟨sent, split, moving⟩, (txqd_status moving.tx_le).mp passed⟩
  · intro value
    exact Live.ret (kept stable) (fun _ both => both)

include sum_eq positive in
theorem live_txFifoWrite8 (memory : Memory) (srcaddr : BitVec 32) {todo : List Nat} :
    Progresses (Fits total) (Filling len total (1 :: todo))
      (txFifoWrite8 memory srcaddr) (fun _ => Filling len total todo) := by
  refine Live.bind (live_waitTxFifo positive sum_eq) (fun _ => ?_)
  refine Live.write8 (Filling len total todo) (kept ?_) (fun _ _ _ => trivial) ?_
    (Live.ret (kept (stable_filling _ _ _)) ?_)
  · rintro fifos fifos' shifts ⟨filling, room⟩
    refine ⟨stable_filling _ _ _ _ _ shifts filling, ?_⟩
    rcases shifts with ⟨can, received, rfl⟩
    exact Nat.lt_of_le_of_lt (length_tx_shift_le received fifos) room
  · rintro fifos ⟨filling, room⟩ _
    exact filling_push [memory srcaddr] filling positive room
  · exact fun _ filling => filling

include sum_eq positive in
theorem live_txFifoWrite32 (memory : Memory) (srcaddr : BitVec 32) {todo : List Nat} :
    Progresses (Fits total) (Filling len total (4 :: todo))
      (txFifoWrite32 memory srcaddr) (fun _ => Filling len total todo) := by
  refine Live.bind (live_waitTxFifo positive sum_eq) (fun _ => ?_)
  refine Live.write32 (Filling len total todo) (kept ?_) (fun _ _ _ => trivial) ?_
    (Live.ret (kept (stable_filling _ _ _)) ?_)
  · rintro fifos fifos' shifts ⟨filling, room⟩
    refine ⟨stable_filling _ _ _ _ _ shifts filling, ?_⟩
    rcases shifts with ⟨can, received, rfl⟩
    exact Nat.lt_of_le_of_lt (length_tx_shift_le received fifos) room
  · rintro fifos ⟨filling, room⟩ _
    exact filling_push (bytesOf (read32 memory srcaddr)) filling positive room
  · exact fun _ filling => filling

include sum_eq positive in
theorem live_writeUntilAligned (memory : Memory) (ptr : BitVec 32) (rest : Nat) :
    Progresses (Fits total) (Filling len total (entrySizes ptr rest))
      (writeUntilAligned memory ptr rest)
      (fun left => Filling len total (wordSizes left.2)) := by
  induction rest generalizing ptr with
  | zero => exact Live.ret (kept (stable_filling _ _ _)) (fun _ filling => filling)
  | succ rest ih =>
      rw [writeUntilAligned, entrySizes]
      by_cases misaligned : misalignment32Of ptr ≠ 0
      · rw [if_pos misaligned, if_pos misaligned]
        exact Live.bind (live_txFifoWrite8 positive sum_eq memory ptr) (fun _ => ih (ptr + 1))
      · rw [if_neg misaligned, if_neg misaligned]
        exact Live.ret (kept (stable_filling _ _ _)) (fun _ filling => filling)

include sum_eq positive in
theorem live_writeWords (memory : Memory) (ptr : BitVec 32) (rest : Nat) :
    Progresses (Fits total) (Filling len total (wordSizes rest))
      (writeWords memory ptr rest)
      (fun left => Filling len total (List.replicate left.2 1)) := by
  fun_induction writeWords memory ptr rest with
  | case1 ptr rest ih =>
      rw [wordSizes]
      exact Live.bind (live_txFifoWrite32 positive sum_eq memory ptr) (fun _ => ih)
  | case2 ptr rest few =>
      rw [wordSizes]
      · exact Live.ret (kept (stable_filling _ _ _)) (fun _ filling => filling)
      · exact few

include sum_eq positive in
theorem live_writeBytes (memory : Memory) (ptr : BitVec 32) (rest : Nat) :
    Progresses (Fits total) (Filling len total (List.replicate rest 1))
      (writeBytes memory ptr rest) (fun _ => Filling len total []) := by
  induction rest generalizing ptr with
  | zero => exact Live.ret (kept (stable_filling _ _ _)) (fun _ filling => filling)
  | succ rest ih =>
      rw [writeBytes, List.replicate_succ]
      exact Live.bind (live_txFifoWrite8 positive sum_eq memory ptr) (fun _ => ih (ptr + 1))

end Sending

/-- When all is written, what was not shifted by then is in the transmit FIFO,
and no more than 256 bytes were shifted. -/
theorem fits_of_moving (moving : Moving len total 0 fifos) (sum_eq : total.sum = len) :
    Fits total := by
  have rx_le := moving.rx_le
  by_cases finished : fifos.remaining = 0
  · have words := moving.complete finished
    unfold Fits
    rw [unsent_eq_nil (show total.sum <= 256 by omega) moving.sizes]
    exact Nat.zero_le 72
  · have partialWord := moving.partialWord finished
    have partialWord_lt := moving.partialWord_lt
    have shifted : len - fifos.remaining <= 256 := by
      by_cases full : fifos.rx.length = 64
      · rw [full, moving.full full] at partialWord
        exact Nat.le_of_eq partialWord.symm
      · omega
    have queue := congrArg List.length moving.queued
    rw [List.length_map] at queue
    calc (unsent 256 total).length
        <= (unsent (len - fifos.remaining) total).length := length_unsent_anti shifted total
      _ = fifos.tx.length := queue.symm
      _ <= 72 := moving.tx_le

/-- The sending ends with every entry written, and cannot get that far unless
they fit. -/
theorem live_difSpiHostFifoWrite (memory : Memory) {src : BitVec 32} (buffer : src ≠ 0)
    (len : BitVec 16) :
    Progresses (Fits (entrySizes src len.toNat))
      (Filling len.toNat (entrySizes src len.toNat) (entrySizes src len.toNat))
      (difSpiHostFifoWrite .object memory src len)
      (fun _ fifos => Fits (entrySizes src len.toNat) ∧
        Moving len.toNat (entrySizes src len.toNat) 0 fifos) := by
  have positive : forall size, size ∈ entrySizes src len.toNat -> 0 < size :=
    fun size member => entrySizes_pos member
  have sum_eq := sum_entrySizes src len.toNat
  have accepted : ¬ ((Pointer.object = .null) ∨ (src = 0 ∧ 0 < len)) := by
    rintro (null | ⟨null, _⟩)
    · cases null
    · exact buffer null
  unfold difSpiHostFifoWrite
  rw [if_neg accepted]
  refine Live.bind (live_writeUntilAligned positive sum_eq memory src len.toNat) ?_
  rintro ⟨ptr, rest⟩
  refine Live.bind (live_writeWords positive sum_eq memory ptr rest) ?_
  rintro ⟨ptr, rest⟩
  refine Live.bind (live_writeBytes positive sum_eq memory ptr rest) (fun _ => ?_)
  refine Live.ret (kept (stable_filling _ _ _)) ?_
  rintro fifos ⟨sent, split, moving⟩
  rw [List.append_nil] at split
  cases split
  refine ⟨?_, moving⟩
  exact fits_of_moving moving (sum_entrySizes src len.toNat)

/-! ## Reading back -/

/-- `left` bytes are still to be stored, some of which wait in the queue. -/
def Draining (len : Nat) (total : List Nat) (queue : Queue) (left : Nat) (fifos : Fifos) : Prop :=
  Exists fun popped => 4 * popped + left = len + queue.length ∧ Moving len total popped fifos

theorem stable_draining (len : Nat) (total : List Nat) (queue : Queue) (left : Nat) :
    Stable Shifts (Draining len total queue left) := by
  rintro fifos fifos' shifts ⟨popped, count, moving⟩
  exact ⟨popped, count, stable_moving len total popped _ _ shifts moving⟩

theorem length_enqueueWord (queue : Queue) (word : BitVec 32) :
    (enqueueWord queue word).length = queue.length + 4 := by
  unfold enqueueWord
  split <;> rfl

theorem draining_pop {left : Nat} {queue : Queue} (word : BitVec 32)
    (draining : Draining len total queue left fifos) (some : fifos.rx ≠ []) :
    Draining len total (enqueueWord queue word) left { fifos with rx := fifos.rx.tail } := by
  rcases draining with ⟨popped, count, moving⟩
  have length_tail := List.length_tail (l := fifos.rx)
  have length_pos := List.length_pos_iff.mpr some
  have rx_le := moving.rx_le
  refine ⟨popped + 1, ?_, moving.sizes, moving.remaining_le, moving.shifted_le, moving.queued,
    moving.entries, moving.tx_le, ?_, ?_, moving.partialWord_lt, ?_, ?_⟩
  · rw [length_enqueueWord]
    omega
  · dsimp only
    omega
  · intro more
    have partialWord := moving.partialWord more
    dsimp only
    omega
  · intro finished
    have words := moving.complete finished
    dsimp only
    omega
  · intro full
    dsimp only at full
    omega

section Reading

variable {given : Prop} {len : Nat} {total : List Nat} (sum_eq : total.sum = len)

include sum_eq in
/-- Software only waits for a word when bytes are missing that the command
has still to receive. -/
theorem live_refill {needed left : Nat} (few : needed <= 4) (enough : needed <= left)
    (queue : Queue) :
    Progresses given (Draining len total queue left) (refill needed queue)
      (fun queue' fifos => needed <= queue'.length ∧ Draining len total queue' left fifos) := by
  unfold refill
  by_cases short : queue.length < needed
  · rw [if_pos short]
    have stable : Stable Shifts (fun fifos =>
        Draining len total queue left fifos ∧ fifos.rx ≠ []) := by
      rintro fifos fifos' shifts ⟨draining, some⟩
      refine ⟨stable_draining _ _ _ _ _ _ shifts draining, ?_⟩
      rcases shifts with ⟨can, received, rfl⟩
      unfold shift
      dsimp only
      split
      · exact List.append_ne_nil_of_left_ne_nil some _
      · exact some
    refine Live.poll32 (fun _ fifos => Draining len total queue left fifos ∧ fifos.rx ≠ [])
      (kept (stable_draining _ _ _ _)) (fun _ _ _ => trivial) ?_ ?_ (fun _ => ?_)
    · rintro _ fifos ⟨popped, count, moving⟩ failed
      have drained := (rxqd_status moving.rx_le).not.mp (Bool.eq_false_iff.mp failed)
      exact ⟨fifos.shift 0, canShift_of_rx moving sum_eq (Classical.not_not.mp drained)
        (by omega), 0, rfl⟩
    · rintro fifos ⟨popped, count, moving⟩ _ passed
      exact ⟨⟨popped, count, moving⟩, (rxqd_status moving.rx_le).mp passed⟩
    · refine Live.read32 (fun word => Draining len total (enqueueWord queue word) left) (kept stable)
        (fun _ _ _ => trivial) ?_ ?_
      · rintro fifos ⟨draining, some⟩ _
        exact draining_pop _ draining some
      · intro word
        refine Live.ret (kept (stable_draining _ _ _ _)) (fun fifos draining => ⟨?_, draining⟩)
        rw [length_enqueueWord]
        omega
  · rw [if_neg short]
    exact Live.ret (kept (stable_draining _ _ _ _))
      (fun fifos draining => ⟨Nat.not_lt.mp short, draining⟩)

theorem draining_dequeueByte {left : Nat} {queue : Queue} {fifos : Fifos}
    (draining : Draining len total queue (left + 1) fifos) (some : 1 <= queue.length) :
    Draining len total (dequeueByte queue).2 left fifos := by
  rcases draining with ⟨popped, count, moving⟩
  refine ⟨popped, ?_, moving⟩
  change 4 * popped + left = len + (queue.length - 1)
  omega

theorem draining_dequeueWord {left : Nat} {queue : Queue} {fifos : Fifos}
    (draining : Draining len total queue (left + 4) fifos) (some : 4 <= queue.length) :
    Draining len total (dequeueWord queue).2 left fifos := by
  rcases draining with ⟨popped, count, moving⟩
  refine ⟨popped, ?_, moving⟩
  change 4 * popped + left = len + (queue.length - 4)
  omega

include sum_eq in
theorem live_readUntilAligned (queue : Queue) (ptr : BitVec 32) (left : Nat) (stores : Stores) :
    Progresses given (Draining len total queue left)
      (readUntilAligned queue ptr left stores)
      (fun out => Draining len total out.1 out.2.2.1) := by
  induction left generalizing queue ptr stores with
  | zero => exact Live.ret (kept (stable_draining _ _ _ _)) (fun _ draining => draining)
  | succ left ih =>
      rw [readUntilAligned]
      by_cases misaligned : misalignment32Of ptr ≠ 0
      · rw [if_pos misaligned]
        refine Live.bind (live_refill sum_eq (by omega) (Nat.le_add_left 1 left) queue) ?_
        intro queue'
        refine Live.assume (fun some => ?_)
        refine Live.consequence (ih _ _ _) ?_ (fun _ _ holds => holds)
        exact fun fifos draining => draining_dequeueByte draining some
      · rw [if_neg misaligned]
        exact Live.ret (kept (stable_draining _ _ _ _)) (fun _ draining => draining)

include sum_eq in
theorem live_readWords (queue : Queue) (ptr : BitVec 32) (left : Nat) (stores : Stores) :
    Progresses given (Draining len total queue left) (readWords queue ptr left stores)
      (fun out => Draining len total out.1 out.2.2.1) := by
  induction left using Nat.strong_induction_on generalizing queue ptr stores with
  | h left ih =>
      by_cases whole : 4 <= left
      · rcases Nat.exists_eq_add_of_le whole with ⟨rest, rfl⟩
        rw [Nat.add_comm 4 rest, readWords]
        refine Live.bind (live_refill sum_eq (Nat.le_refl 4) (Nat.le_add_left 4 rest) queue) ?_
        intro queue'
        refine Live.assume (fun some => ?_)
        refine Live.consequence (ih rest (by omega) _ _ _) ?_ (fun _ _ holds => holds)
        exact fun fifos draining => draining_dequeueWord draining some
      · rw [readWords]
        · exact Live.ret (kept (stable_draining _ _ _ _)) (fun _ draining => draining)
        · intro rest same
          omega

include sum_eq in
theorem live_readBytes (queue : Queue) (ptr : BitVec 32) (left : Nat) (stores : Stores) :
    Progresses given (Draining len total queue left) (readBytes queue ptr left stores)
      (fun _ _ => True) := by
  induction left generalizing queue ptr stores with
  | zero => exact Live.ret (kept (stable_draining _ _ _ _)) (fun _ _ => trivial)
  | succ left ih =>
      rw [readBytes]
      refine Live.bind (live_refill sum_eq (by omega) (Nat.le_add_left 1 left) queue) ?_
      intro queue'
      refine Live.assume (fun some => ?_)
      refine Live.consequence (ih _ _ _) ?_ (fun _ _ holds => holds)
      exact fun fifos draining => draining_dequeueByte draining some

end Reading

/-- The reading gets every word it waits for, into whatever buffer. -/
theorem live_difSpiHostFifoRead {given : Prop} (dst : BitVec 32) {len : BitVec 16}
    (sum_eq : total.sum = len.toNat) :
    Progresses given (Moving len.toNat total 0) (difSpiHostFifoRead .object dst len)
      (fun _ _ => True) := by
  have start : forall fifos, Moving len.toNat total 0 fifos ->
      Draining len.toNat total ⟨0, 0⟩ len.toNat fifos :=
    fun fifos moving => ⟨0, Nat.zero_add _, moving⟩
  unfold difSpiHostFifoRead
  by_cases null : (Pointer.object = .null) ∨ (dst = 0 ∧ 0 < len)
  · rw [if_pos null]
    exact Live.ret (kept (stable_moving _ _ _)) (fun _ _ => trivial)
  · rw [if_neg null]
    refine Live.consequence ?_ start (fun _ _ holds => holds)
    refine Live.bind (live_readUntilAligned sum_eq _ _ _ _) ?_
    rintro ⟨queue, ptr, rest, stores⟩
    refine Live.bind (live_readWords sum_eq _ _ _ _) ?_
    rintro ⟨queue, ptr, rest, stores⟩
    refine Live.bind (live_readBytes sum_eq _ _ _ _) (fun stores => ?_)
    exact Live.ret (kept (fun _ _ _ holds => holds)) (fun _ _ => trivial)

/-! ## The lengths that fit -/

/-- The bytes written one by one until the pointer is aligned. -/
def headBytes (ptr : BitVec 32) (len : Nat) : Nat := min len ((4 - misalignment32Of ptr) % 4)

/-- How often `dif_spi_host_fifo_write` writes to `TXDATA`. -/
def fifoWrites (ptr : BitVec 32) (len : Nat) : Nat :=
  headBytes ptr len + (len - headBytes ptr len) / 4 + (len - headBytes ptr len) % 4

/-- The writes for a buffer are at most 72, the depth of the transmit FIFO,
more than those used up by the first 256 bytes: 64 words, or the bytes before
the first aligned address and 63 words. -/
def TransferFits (txbuf : BitVec 32) (len : Nat) : Prop :=
  fifoWrites txbuf len <=
    72 + (if misalignment32Of txbuf = 0 then 64 else headBytes txbuf len + 63)

instance (txbuf : BitVec 32) (len : Nat) : Decidable (TransferFits txbuf len) :=
  inferInstanceAs (Decidable (_ <= _))

theorem entrySizes_eq (ptr : BitVec 32) (len : Nat) :
    entrySizes ptr len =
      List.replicate (headBytes ptr len) 1 ++ wordSizes (len - headBytes ptr len) := by
  fun_induction entrySizes ptr len with
  | case1 ptr =>
      rw [headBytes, Nat.zero_min]
      rfl
  | case2 ptr len misaligned ih =>
      have head : headBytes ptr (len + 1) = headBytes (ptr + 1) len + 1 := by
        unfold headBytes misalignment32Of at *
        rw [BitVec.toNat_add]
        change min (len + 1) _ = min len ((4 - (ptr.toNat + 1) % 2 ^ 32 % 4) % 4) + 1
        omega
      rw [ih, head, List.replicate_succ, List.cons_append,
        Nat.succ_sub_succ_eq_sub]
  | case3 ptr len aligned =>
      have head : headBytes ptr (len + 1) = 0 := by
        unfold headBytes
        rw [Classical.not_not.mp aligned]
        exact Nat.min_zero _
      rw [head, List.replicate_zero, List.nil_append, Nat.sub_zero]

theorem length_unsent_ones (shifted count : Nat) :
    (unsent shifted (List.replicate count 1)).length = count - shifted := by
  induction count generalizing shifted with
  | zero => exact (Nat.zero_sub shifted).symm
  | succ count ih =>
      rw [List.replicate_succ, unsent]
      by_cases none : shifted < 1
      · rw [if_pos none, List.length_cons, List.length_replicate]
        omega
      · rw [if_neg none, ih]
        omega

theorem unsent_ones_append {shifted count : Nat} (sizes : List Nat) (enough : count <= shifted) :
    unsent shifted (List.replicate count 1 ++ sizes) = unsent (shifted - count) sizes := by
  induction count generalizing shifted with
  | zero => rfl
  | succ count ih =>
      rw [List.replicate_succ, List.cons_append, unsent, if_neg (by omega), ih (by omega)]
      congr 1
      omega

theorem length_unsent_wordSizes (shifted len : Nat) :
    (unsent shifted (wordSizes len)).length =
      if shifted <= 4 * (len / 4) then len / 4 - shifted / 4 + len % 4 else len - shifted := by
  fun_induction wordSizes len generalizing shifted with
  | case1 len ih =>
      rw [unsent]
      by_cases first : shifted < 4
      · rw [if_pos first, List.length_cons]
        have all := ih 0
        rw [unsent_zero (fun size member => wordSizes_pos member)] at all
        rw [all]
        split <;> split <;> omega
      · rw [if_neg first, ih]
        split <;> split <;> omega
  | case2 len few =>
      have small : len < 4 := by
        by_contra large
        exact few (len - 4) (by omega)
      rw [length_unsent_ones]
      split <;> omega

/-- What the invariant needs is a bound on the length. -/
theorem fits_entrySizes (ptr : BitVec 32) (len : Nat) :
    Fits (entrySizes ptr len) ↔ TransferFits ptr len := by
  have small : headBytes ptr len <= 3 := by
    unfold headBytes
    omega
  have aligned : misalignment32Of ptr = 0 -> headBytes ptr len = 0 := by
    intro zero
    rw [headBytes, zero]
    exact Nat.min_zero len
  have misaligned : misalignment32Of ptr ≠ 0 -> 0 < headBytes ptr len ∨ len = 0 := by
    unfold headBytes misalignment32Of
    omega
  have inside : headBytes ptr len <= len := Nat.min_le_left _ _
  unfold Fits TransferFits fifoWrites
  rw [entrySizes_eq, unsent_ones_append _ (by omega), length_unsent_wordSizes]
  split <;> split <;> omega

/-! ## The transaction -/

theorem stable_idle : Stable Shifts (fun fifos => Exists fun csid => fifos = idle csid) := by
  rintro fifos fifos' ⟨⟨more, _⟩, _⟩ ⟨csid, rfl⟩
  exact absurd more (Nat.lt_irrefl 0)

/-- There is nothing to send. -/
def Unqueued (fifos : Fifos) : Prop := fifos.tx = []

theorem stable_unqueued : Stable Shifts Unqueued := by
  rintro fifos fifos' ⟨⟨_, queued, _⟩, _⟩ none
  exact absurd none queued

/-- The order of a transaction of one bidirectional segment: the command is
issued at an idle controller, all is sent, and all is read back. -/
theorem live_bidirectional {given : Prop} {start sent : Fifos -> Prop} (memory : Memory)
    (csid : BitVec 32) (width : Width) (txbuf rxbuf length : BitVec 32)
    (stable : Stable Shifts sent)
    (command : forall csid', start { idle csid' with
      remaining := commandLength (commandReg (length.setWidth 16) width
        .kDifSpiHostDirectionBidirectional true) })
    (write : Progresses given start
      (difSpiHostFifoWrite .object memory txbuf (length.setWidth 16))
      (fun _ fifos => given ∧ sent fifos))
    (read : Progresses given sent
      (difSpiHostFifoRead .object rxbuf (length.setWidth 16)) (fun _ _ => True)) :
    Progresses given (fun fifos => Exists fun csid' => fifos = idle csid')
      (difSpiHostTransaction memory csid [.bidir width txbuf rxbuf length])
      (fun _ _ => given) := by
  have stableGiven : Stable Shifts (fun fifos => given ∧ sent fifos) :=
    fun fifos fifos' shifts both => ⟨both.1, stable fifos fifos' shifts both.2⟩
  have issued : Progresses given (fun fifos => Exists fun csid' => fifos = idle csid')
      (issueSegment memory (.bidir width txbuf rxbuf length) true)
      (fun error fifos => error = .kDifOk ∧ given ∧ sent fifos) := by
    refine Live.poll32 (fun _ fifos => Exists fun csid' => fifos = idle csid') (kept stable_idle)
      (fun _ _ _ => trivial) ?_ ?_ (fun _ => ?_)
    · rintro _ fifos ⟨csid', rfl⟩ busy
      have ready : bitfieldBit32Read (idle csid').status statusReadyBit = true := by
        unfold status idle
        rw [bitfieldBit32Read_write_same (by decide)]
        rfl
      exact absurd (ready.symm.trans busy) (by decide)
    · exact fun fifos idle _ _ => idle
    · refine Live.write32 start (kept stable_idle) (fun _ _ _ => trivial) ?_ ?_
      · rintro fifos ⟨csid', rfl⟩ _
        exact command csid'
      · rw [bind_ret]
        refine Live.bind write (fun _ => ?_)
        exact Live.ret (kept stableGiven) (fun fifos both => ⟨rfl, both⟩)
  refine Live.write32 (fun fifos => Exists fun csid' => fifos = idle csid') (kept stable_idle)
    (fun _ _ _ => trivial) ?_ ?_
  · rintro fifos ⟨csid', rfl⟩ _
    exact ⟨csid, rfl⟩
  · have all : Progresses given (fun fifos => Exists fun csid' => fifos = idle csid')
        (issueSegments memory [Segment.bidir width txbuf rxbuf length].length 0
          [.bidir width txbuf rxbuf length])
        (fun error fifos => error = .kDifOk ∧ given ∧ sent fifos) := by
      refine Live.bind issued (fun error => Live.assume ?_)
      rintro rfl
      exact Live.ret (kept stableGiven) (fun fifos both => ⟨rfl, both⟩)
    rw [bind_ret]
    refine Live.bind all (fun error => Live.assume ?_)
    rintro rfl
    refine Live.assume (fun proviso => ?_)
    have received : Progresses given sent
        (receiveSegments [.bidir width txbuf rxbuf length]) (fun _ _ => True) := by
      have first : Progresses given sent
          (receiveSegment (.bidir width txbuf rxbuf length)) (fun _ _ => True) := by
        refine Live.bind read (fun reply => ?_)
        exact Live.ret (kept (fun _ _ _ holds => holds)) (fun _ _ => trivial)
      refine Live.bind first (fun stores => ?_)
      exact Live.ret (kept (fun _ _ _ holds => holds)) (fun _ _ => trivial)
    refine Live.bind received (fun stores => ?_)
    exact Live.ret (kept (fun _ _ _ holds => holds)) (fun _ _ => proviso)

theorem live_transaction (memory : Memory) (csid : BitVec 32) (width : Width)
    {txbuf : BitVec 32} (buffer : txbuf ≠ 0) (rxbuf length : BitVec 32) :
    Progresses (Fits (entrySizes txbuf (length.setWidth 16).toNat))
      (fun fifos => Exists fun csid' => fifos = idle csid')
      (difSpiHostTransaction memory csid [.bidir width txbuf rxbuf length])
      (fun _ _ => Fits (entrySizes txbuf (length.setWidth 16).toNat)) := by
  have asked := commandLength_commandReg (length.setWidth 16) width
    .kDifSpiHostDirectionBidirectional true
  by_cases none : length.setWidth 16 = (0 : BitVec 16)
  · -- The longest command is issued, but nothing is sent or read for it.
    have written : difSpiHostFifoWrite .object memory txbuf (length.setWidth 16) =
        ret .kDifOk := by
      rw [none]
      unfold difSpiHostFifoWrite
      rw [if_neg]
      · rfl
      · rintro (null | ⟨null, _⟩)
        · cases null
        · exact buffer null
    have read : difSpiHostFifoRead .object rxbuf (length.setWidth 16) = ret (.kDifOk, []) := by
      rw [none]
      unfold difSpiHostFifoRead
      rw [if_neg]
      · rfl
      · rintro (null | ⟨_, some⟩)
        · cases null
        · exact absurd some (by decide)
    have unqueued : forall csid', Unqueued { idle csid' with
        remaining := commandLength (commandReg (length.setWidth 16) width
          .kDifSpiHostDirectionBidirectional true) } := fun _ => rfl
    refine live_bidirectional memory csid width txbuf rxbuf length stable_unqueued unqueued ?_ ?_
    · rw [written]
      refine Live.ret (kept stable_unqueued) (fun fifos unqueued => ⟨?_, unqueued⟩)
      rw [none]
      exact Nat.zero_le 72
    · rw [read]
      exact Live.ret (kept stable_unqueued) (fun _ _ => trivial)
  · have sum_eq := sum_entrySizes txbuf (length.setWidth 16).toNat
    rw [if_neg none] at asked
    refine live_bidirectional memory csid width txbuf rxbuf length (stable_moving _ _ _) ?_
      (live_difSpiHostFifoWrite memory buffer _) (live_difSpiHostFifoRead rxbuf sum_eq)
    intro csid'
    refine ⟨[], List.nil_append _, ?_⟩
    rw [asked]
    have positive : (length.setWidth 16).toNat ≠ 0 :=
      fun zero => none (BitVec.eq_of_toNat_eq zero)
    refine ⟨?_, Nat.le_refl _, ?_, rfl, ?_, Nat.zero_le _, Nat.zero_le _, ?_, Nat.succ_pos 3,
      ?_, fun _ => rfl⟩
    · intro size member
      cases member
    · exact Nat.le_of_eq (Nat.sub_self _)
    · intro entry member
      cases member
    · exact fun _ => (Nat.sub_self _).symm
    · exact fun zero => absurd zero positive

/-- A transaction of one bidirectional segment never comes to wait for a
controller that waits for it exactly if what is left to write after the first
256 bytes fits the transmit FIFO. -/
theorem bidirectional_deadlockFree_iff (memory : Memory) (csid csid' : BitVec 32) (width : Width)
    (txbuf rxbuf length : BitVec 32) (buffer : txbuf ≠ 0) :
    DeadlockFree fifoWorld
        (difSpiHostTransaction memory csid [.bidir width txbuf rxbuf length], idle csid') ↔
      TransferFits txbuf (length.setWidth 16).toNat := by
  rw [<- fits_entrySizes]
  exact (live_transaction memory csid width buffer rxbuf length).deadlockFree_iff
    (fun _ => shifts_wellFounded) ⟨csid', rfl⟩

/-- A small transfer. -/
theorem bidirectional_deadlockFree_sixteen :
    DeadlockFree fifoWorld
      (difSpiHostTransaction (fun _ => 0) 0 [.bidir .kDifSpiHostWidthStandard 0x1000 0x2000 16],
        idle 0) :=
  (bidirectional_deadlockFree_iff _ _ _ _ _ _ _ (by decide)).mpr (by decide)

/-- A thousand bytes from an aligned buffer are 250 words, and the FIFOs have
room for 136. -/
theorem bidirectional_deadlock_thousand :
    ¬ DeadlockFree fifoWorld
      (difSpiHostTransaction (fun _ => 0) 0
        [.bidir .kDifSpiHostWidthStandard 0x1000 0x2000 1000], idle 0) := by
  intro free
  have fits := ((live_transaction (fun _ => 0) 0 .kDifSpiHostWidthStandard
    (show (0x1000 : BitVec 32) ≠ 0 by decide) 0x2000 1000).deadlockFree_iff
    (fun _ => shifts_wellFounded) ⟨0, rfl⟩).mp free
  rw [fits_entrySizes] at fits
  revert fits
  decide

end SpiHost
end SunburstChip
