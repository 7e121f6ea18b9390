import SunburstChip.Dif.SpiHostProgress

namespace SunburstChip
namespace SpiHost

open Mmio

/-!
# Packing the transmit FIFO

`dif_spi_host_fifo_write` writes bytes until its pointer is aligned, then words,
then bytes again.  However it cuts the buffer up, the bytes are presented in
order; and before each write it has seen room in the FIFO, which the controller
can only have made more of since.
-/

/-! ## What is presented to the controller -/

/-- The accesses made to the controller, with the states they met. -/
abbrev FifoLog := List (Access × Fifos)

/-- The controller takes data from the transmit FIFO, at any rate. -/
def Drains (fifos fifos' : Fifos) : Prop := fifos'.tx.length <= fifos.tx.length

/-- The bytes that an access presents to `TXDATA`. -/
def bytesPresented : Access -> List (BitVec 8)
  | .write32 offset value => if offset = txdataRegOffset then bytesOf value else []
  | .write8 offset value => if offset = txdataRegOffset then [value] else []
  | .read32 _ => []

/-- All bytes presented, a word as its four little-endian bytes. -/
def presented (log : FifoLog) : List (BitVec 8) :=
  log.flatMap (fun access => bytesPresented access.1)

/-- Right before each access that presents data, `STATUS` was read and the FIFO
was below its depth. -/
def Paced (log : FifoLog) : Prop :=
  forall before access state after, log = before ++ (access, state) :: after ->
    bytesPresented access ≠ [] ->
      Exists fun earlier => Exists fun look =>
        before = earlier ++ [(.read32 statusRegOffset, look)] ∧
          look.tx.length < paramTxDepth.toNat

theorem presented_append (log log' : FifoLog) :
    presented (log ++ log') = presented log ++ presented log' := List.flatMap_append

/-- One more access is paced if it presents nothing or follows a look. -/
theorem Paced.snoc {log : FifoLog} {access : Access} {state : Fifos} (paced : Paced log)
    (here : bytesPresented access ≠ [] ->
      Exists fun earlier => Exists fun look =>
        log = earlier ++ [(.read32 statusRegOffset, look)] ∧
          look.tx.length < paramTxDepth.toNat) :
    Paced (log ++ [(access, state)]) := by
  intro before access' state' after split presents
  rcases List.eq_nil_or_concat after with rfl | ⟨after', last, rfl⟩
  · rcases List.append_inj' split rfl with ⟨rfl, same⟩
    cases same
    exact here presents
  · rw [List.concat_eq_append, <- List.cons_append, <- List.append_assoc] at split
    exact paced before access' state' after' (List.append_inj' split rfl).1 presents

/-- The bytes of a buffer. -/
def sourceBytes (memory : Memory) (ptr : BitVec 32) (len : Nat) : List (BitVec 8) :=
  (List.range len).map (fun i => memory (ptr + BitVec.ofNat 32 i))

theorem sourceBytes_add (memory : Memory) (ptr : BitVec 32) (count more : Nat) :
    sourceBytes memory ptr (count + more) =
      sourceBytes memory ptr count ++ sourceBytes memory (ptr + BitVec.ofNat 32 count) more := by
  unfold sourceBytes
  rw [List.range_add, List.map_append, List.map_map]
  congr 1
  refine List.map_congr_left (fun i _ => ?_)
  change memory (ptr + BitVec.ofNat 32 (count + i)) = _
  rw [BitVec.add_assoc, <- BitVec.ofNat_add]

theorem sourceBytes_one (memory : Memory) (ptr : BitVec 32) :
    sourceBytes memory ptr 1 = [memory ptr] := by
  change [memory (ptr + BitVec.ofNat 32 0)] = _
  rw [BitVec.add_zero]

/-- The bytes that a word was put together from. -/
theorem bytesOf_append (a b c d : BitVec 8) : bytesOf (d ++ c ++ b ++ a) = [a, b, c, d] := by
  have bit : forall j, (d ++ c ++ b ++ a).getLsbD j = if j < 8 then a.getLsbD j else
      if j - 8 < 8 then b.getLsbD (j - 8) else if j - 8 - 8 < 8 then c.getLsbD (j - 8 - 8) else
        d.getLsbD (j - 8 - 8 - 8) := by
    intro j
    rw [BitVec.getLsbD_append, BitVec.getLsbD_append, BitVec.getLsbD_append]
  have byte : forall (k : Nat) (x : BitVec 8),
      (forall j, j < 8 -> (d ++ c ++ b ++ a).getLsbD (k + j) = x.getLsbD j) ->
      ((d ++ c ++ b ++ a) >>> k).setWidth 8 = x := by
    intro k x same
    apply BitVec.eq_of_getLsbD_eq
    intro j inside
    rw [BitVec.getLsbD_setWidth, BitVec.getLsbD_ushiftRight, same j inside, decide_eq_true inside,
      Bool.true_and]
  have first := byte 0 a (fun j inside => by rw [bit, Nat.zero_add, if_pos inside])
  rw [BitVec.ushiftRight_zero] at first
  unfold bytesOf
  rw [first, byte 8 b, byte 16 c, byte 24 d]
  · intro j inside
    rw [bit, if_neg (by omega), if_neg (by omega), if_neg (by omega)]
    congr 1
    omega
  · intro j inside
    rw [bit, if_neg (by omega), if_neg (by omega), if_pos (by omega)]
    congr 1
    omega
  · intro j inside
    rw [bit, if_neg (by omega), if_pos (by omega)]
    congr 1
    omega

/-- A word holds the four bytes it was read from. -/
theorem bytesOf_read32 (memory : Memory) (ptr : BitVec 32) :
    bytesOf (read32 memory ptr) = sourceBytes memory ptr 4 := by
  have four : sourceBytes memory ptr 4 =
      [memory (ptr + BitVec.ofNat 32 0), memory (ptr + 1), memory (ptr + 2), memory (ptr + 3)] := rfl
  rw [four, BitVec.add_zero]
  exact bytesOf_append _ _ _ _

/-! ## Writes that are paced -/

/-- What has been presented so far, with a look in front of each piece. -/
structure Packed (done : List (BitVec 8)) (s : Fifos × FifoLog) : Prop where
  presented : presented s.2 = done
  paced : Paced s.2
  level : s.1.tx.length <= paramTxDepth.toNat

/-- The last access was a look that found room. -/
structure Looked (done : List (BitVec 8)) (s : Fifos × FifoLog) : Prop where
  packed : Packed done s
  last : Exists fun earlier => Exists fun look =>
    s.2 = earlier ++ [(.read32 statusRegOffset, look)] ∧ look.tx.length < paramTxDepth.toNat

section Live

variable {source done : List (BitVec 8)} {s s' : Fifos × FifoLog} {α : Type}

theorem Packed.drains (packed : Packed done s) (move : Onwards Drains s s') : Packed done s' := by
  rcases packed with ⟨presented, paced, level⟩
  rw [<- move.2] at presented paced
  exact ⟨presented, paced, Nat.le_trans move.1 level⟩

/-- What holds at every moment of the call. -/
abbrev PackLive (source : List (BitVec 8)) (pre : Fifos × FifoLog -> Prop) (program : Mmio α)
    (post : α -> Fifos × FifoLog -> Prop) : Prop :=
  Live (Remembering fifoDevice Drains)
    (fun _ s => presented s.2 <+: source ∧ Paced s.2) False pre program post

theorem keeps_packed (asked : done <+: source) (place : Position) :
    Keeps (Remembering fifoDevice Drains)
      (fun _ s => presented s.2 <+: source ∧ Paced s.2) place (Packed done) := by
  refine ⟨fun s packed => ⟨?_, packed.paced⟩, fun s s' move packed => packed.drains move⟩
  rw [packed.presented]
  exact asked

theorem keeps_looked (asked : done <+: source) (place : Position) :
    Keeps (Remembering fifoDevice Drains)
      (fun _ s => presented s.2 <+: source ∧ Paced s.2) place (Looked done) := by
  refine ⟨fun s looked => (keeps_packed asked place).1 s looked.packed, ?_⟩
  rintro s s' move ⟨packed, last⟩
  rw [<- move.2] at last
  exact ⟨packed.drains move, last⟩

/-- After the wait, a look has found room. -/
theorem live_packed_waitTxFifo (next : Unit -> Mmio α) {post : α -> Fifos × FifoLog -> Prop}
    (asked : done <+: source) (after : PackLive source (Looked done) (next ()) post) :
    PackLive source (Packed done) (waitTxFifo >>= next) post := by
  refine Live.poll32 (fun _ => Looked done) (keeps_packed asked _) (fun never => never.elim)
    (fun never => never.elim) ?_ (fun _ => after)
  rintro s ⟨presented, paced, level⟩ _ passed
  have room : s.1.tx.length < paramTxDepth.toNat := (Fifos.txqd_status level).mp passed
  refine ⟨⟨?_, ?_, level⟩, s.2, s.1, rfl, room⟩
  · exact ((presented_append s.2 _).trans (List.append_nil _)).trans presented
  · exact paced.snoc (fun presents => absurd rfl presents)

/-- An access that presents data leaves the FIFO within its depth. -/
theorem level_push (entry : List (BitVec 8)) {fifos : Fifos}
    (level : fifos.tx.length <= paramTxDepth.toNat) :
    (fifos.push entry).tx.length <= paramTxDepth.toNat := by
  unfold Fifos.push
  split
  · next room =>
      rw [List.length_append]
      exact room
  · exact level

/-- One byte is presented. -/
theorem live_write8 {value : BitVec 8} {next : Mmio α} {post : α -> Fifos × FifoLog -> Prop}
    (asked : done <+: source) (after : PackLive source (Packed (done ++ [value])) next post) :
    PackLive source (Looked done) (.write8 txdataRegOffset value next) post := by
  refine Live.write8 _ (keeps_looked asked _) (fun never => never.elim) ?_ after
  rintro s ⟨⟨presented, paced, level⟩, last⟩ _
  refine ⟨(presented_append s.2 _).trans (congrArg (· ++ [value]) presented), ?_,
    level_push [value] level⟩
  exact paced.snoc (fun _ => last)

/-- One word is presented. -/
theorem live_write32 {value : BitVec 32} {next : Mmio α} {post : α -> Fifos × FifoLog -> Prop}
    (asked : done <+: source) (after : PackLive source (Packed (done ++ bytesOf value)) next post) :
    PackLive source (Looked done) (.write32 txdataRegOffset value next) post := by
  refine Live.write32 _ (keeps_looked asked _) (fun never => never.elim) ?_ after
  rintro s ⟨⟨presented, paced, level⟩, last⟩ _
  refine ⟨(presented_append s.2 _).trans (congrArg (· ++ bytesOf value) presented), ?_,
    level_push (bytesOf value) level⟩
  exact paced.snoc (fun _ => last)

/-! ## The loops -/

section Loops

variable {memory : Memory} {ptr : BitVec 32} {left : Nat}

/-- What has been written of a buffer is written in one piece. -/
def Sent (source : List (BitVec 8)) (memory : Memory) (out : BitVec 32 × Nat)
    (s : Fifos × FifoLog) : Prop :=
  Exists fun done => done ++ sourceBytes memory out.1 out.2 = source ∧ Packed done s

/-- One byte of the buffer is presented. -/
theorem live_txFifoWrite8_packed {next : Unit -> Mmio α} {post : α -> Fifos × FifoLog -> Prop}
    (todo : done ++ sourceBytes memory ptr (left + 1) = source)
    (after : forall done, done ++ sourceBytes memory (ptr + 1) left = source ->
      PackLive source (Packed done) (next ()) post) :
    PackLive source (Packed done) (txFifoWrite8 memory ptr >>= next) post := by
  have asked : done <+: source := ⟨_, todo⟩
  rw [Nat.add_comm left, sourceBytes_add, sourceBytes_one, <- List.append_assoc] at todo
  exact live_packed_waitTxFifo (fun _ => .write8 txdataRegOffset (memory ptr) (next ())) asked
    (live_write8 asked (after _ todo))

/-- One word of the buffer is presented. -/
theorem live_txFifoWrite32_packed {next : Unit -> Mmio α} {post : α -> Fifos × FifoLog -> Prop}
    (todo : done ++ sourceBytes memory ptr (left + 4) = source)
    (after : forall done, done ++ sourceBytes memory (ptr + 4) left = source ->
      PackLive source (Packed done) (next ()) post) :
    PackLive source (Packed done) (txFifoWrite32 memory ptr >>= next) post := by
  have asked : done <+: source := ⟨_, todo⟩
  rw [Nat.add_comm left, sourceBytes_add, <- bytesOf_read32, <- List.append_assoc] at todo
  exact live_packed_waitTxFifo (fun _ => .write32 txdataRegOffset (read32 memory ptr) (next ()))
    asked (live_write32 asked (after _ todo))

theorem live_sent (todo : done ++ sourceBytes memory ptr left = source) :
    PackLive source (Packed done) (.ret (ptr, left)) (Sent source memory) :=
  Live.ret (keeps_packed ⟨_, todo⟩ _) (fun _ packed => ⟨done, todo, packed⟩)

theorem live_writeUntilAligned_packed
    (todo : done ++ sourceBytes memory ptr left = source) :
    PackLive source (Packed done) (writeUntilAligned memory ptr left) (Sent source memory) := by
  induction left generalizing ptr done with
  | zero => exact live_sent todo
  | succ left ih =>
      rw [writeUntilAligned]
      split
      · exact live_txFifoWrite8_packed todo (fun done todo => ih todo)
      · exact live_sent todo

theorem live_writeWords_packed (todo : done ++ sourceBytes memory ptr left = source) :
    PackLive source (Packed done) (writeWords memory ptr left) (Sent source memory) := by
  fun_induction writeWords memory ptr left generalizing done with
  | case1 ptr left ih => exact live_txFifoWrite32_packed todo (fun done todo => ih todo)
  | case2 ptr left few => exact live_sent todo

theorem live_writeBytes_packed (todo : done ++ sourceBytes memory ptr left = source) :
    PackLive source (Packed done) (writeBytes memory ptr left) (fun _ => Packed source) := by
  induction left generalizing ptr done with
  | zero =>
      have all : done = source := (List.append_nil done).symm.trans todo
      rw [all]
      exact Live.ret (keeps_packed List.prefix_rfl _) (fun _ packed => packed)
  | succ left ih => exact live_txFifoWrite8_packed todo (fun done todo => ih todo)

/-- What follows a loop starts with what the loop left of the buffer. -/
theorem live_of_sent {out : BitVec 32 × Nat} {program : Mmio α}
    {post : α -> Fifos × FifoLog -> Prop}
    (live : forall done, done ++ sourceBytes memory out.1 out.2 = source ->
      PackLive source (Packed done) program post) :
    PackLive source (Sent source memory out) program post :=
  fun s ⟨done, todo, packed⟩ => live done todo s packed

/-- The whole buffer is presented. -/
theorem live_difSpiHostFifoWrite_packed {src : BitVec 32} {len : BitVec 16}
    (buffer : ¬ (src = 0 ∧ 0 < len)) :
    PackLive (sourceBytes memory src len.toNat) (Packed [])
      (difSpiHostFifoWrite .object memory src len)
      (fun result s => result = .kDifOk ∧ Packed (sourceBytes memory src len.toNat) s) := by
  unfold difSpiHostFifoWrite
  rw [if_neg (show ¬ (Pointer.object = .null ∨ (src = 0 ∧ 0 < len)) from
    fun either => either.elim nofun buffer)]
  refine Live.bind (live_writeUntilAligned_packed rfl) (fun out => live_of_sent ?_)
  intro done todo
  refine Live.bind (live_writeWords_packed todo) (fun out => live_of_sent ?_)
  intro done todo
  refine Live.bind (live_writeBytes_packed todo) (fun _ => ?_)
  exact Live.ret (keeps_packed List.prefix_rfl _) (fun _ packed => ⟨rfl, packed⟩)

end Loops

end Live

/-! ## The loads made visible -/

/-- One access to the buffer. -/
inductive Load where
  | byte (addr : BitVec 32)
  | word (addr : BitVec 32)

/-- A byte of the buffer, or a word of it at an aligned address. -/
def Load.Inside (src : BitVec 32) (len : Nat) : Load -> Prop
  | .byte addr => Exists fun i => i < len ∧ addr = src + BitVec.ofNat 32 i
  | .word addr => misalignment32Of addr = 0 ∧
      Exists fun i => i + 4 <= len ∧ addr = src + BitVec.ofNat 32 i

/-- `writeUntilAligned`, with every load. -/
def writeUntilAlignedLoads (memory : Memory) : BitVec 32 -> Nat -> List Load ->
    Mmio ((BitVec 32 × Nat) × List Load)
  | ptr, 0, loads => return ((ptr, 0), loads)
  | ptr, len + 1, loads =>
      if misalignment32Of ptr ≠ 0 then do
        txFifoWrite8 memory ptr
        writeUntilAlignedLoads memory (ptr + 1) len (loads ++ [.byte ptr])
      else return ((ptr, len + 1), loads)

/-- `writeWords`, with every load. -/
def writeWordsLoads (memory : Memory) : BitVec 32 -> Nat -> List Load ->
    Mmio ((BitVec 32 × Nat) × List Load)
  | ptr, len + 4, loads => do
      txFifoWrite32 memory ptr
      writeWordsLoads memory (ptr + 4) len (loads ++ [.word ptr])
  | ptr, len, loads => return ((ptr, len), loads)

/-- `writeBytes`, with every load. -/
def writeBytesLoads (memory : Memory) : BitVec 32 -> Nat -> List Load -> Mmio (Unit × List Load)
  | _, 0, loads => return ((), loads)
  | ptr, len + 1, loads => do
      txFifoWrite8 memory ptr
      writeBytesLoads memory (ptr + 1) len (loads ++ [.byte ptr])

/-- `dif_spi_host_fifo_write`, with every load. -/
def difSpiHostFifoWriteLoads (spiHost : Pointer) (memory : Memory) (src : BitVec 32)
    (len : BitVec 16) : Mmio (DifResult × List Load) := do
  if spiHost = .null ∨ (src = 0 ∧ 0 < len) then
    return (.kDifBadArg, [])
  let ((ptr, rest), loads) <- writeUntilAlignedLoads memory src len.toNat []
  let ((ptr, rest), loads) <- writeWordsLoads memory ptr rest loads
  let (_, loads) <- writeBytesLoads memory ptr rest loads
  return (.kDifOk, loads)

section Loads

variable (memory : Memory) (ptr : BitVec 32) (left : Nat) (loads : List Load)

theorem forget_writeUntilAlignedLoads :
    forget (writeUntilAlignedLoads memory ptr left loads) = writeUntilAligned memory ptr left := by
  induction left generalizing ptr loads with
  | zero => rfl
  | succ left ih =>
      rw [writeUntilAlignedLoads, writeUntilAligned]
      split
      · exact forget_bind _ _ _ (fun _ => ih _ _)
      · rfl

theorem forget_writeWordsLoads :
    forget (writeWordsLoads memory ptr left loads) = writeWords memory ptr left := by
  fun_induction writeWordsLoads memory ptr left loads with
  | case1 ptr left loads ih => exact forget_bind _ _ _ (fun _ => ih)
  | case2 ptr left loads few => rw [writeWords] <;> first | rfl | exact few

theorem forget_writeBytesLoads :
    forget (writeBytesLoads memory ptr left loads) = writeBytes memory ptr left := by
  induction left generalizing ptr loads with
  | zero => rfl
  | succ left ih => exact forget_bind _ _ _ (fun _ => ih _ _)

end Loads

/-- The function is the same with its loads visible. -/
theorem forget_difSpiHostFifoWriteLoads (spiHost : Pointer) (memory : Memory) (src : BitVec 32)
    (len : BitVec 16) : forget (difSpiHostFifoWriteLoads spiHost memory src len) =
      difSpiHostFifoWrite spiHost memory src len := by
  unfold difSpiHostFifoWriteLoads difSpiHostFifoWrite
  split
  · rfl
  · rw [<- forget_writeUntilAlignedLoads _ _ _ []]
    refine forget_bind_forget _ _ _ ?_
    rintro ⟨⟨ptr, rest⟩, loads⟩
    dsimp only
    rw [<- forget_writeWordsLoads _ _ _ loads]
    refine forget_bind_forget _ _ _ ?_
    rintro ⟨⟨ptr, rest⟩, loads⟩
    dsimp only
    rw [<- forget_writeBytesLoads _ _ _ loads]
    refine forget_bind_forget _ _ _ ?_
    exact fun _ => rfl

section Loads

variable {src : BitVec 32} {len : Nat}

/-- The loads so far are inside the buffer, and so is the rest of it. -/
structure Loading (src : BitVec 32) (len : Nat) (ptr : BitVec 32) (left : Nat)
    (loads : List Load) : Prop where
  rest : Exists fun i => i + left = len ∧ ptr = src + BitVec.ofNat 32 i
  inside : forall load, load ∈ loads -> load.Inside src len

variable {loads : List Load} {ptr : BitVec 32} {left : Nat}

theorem Loading.step {count : Nat} {load : Load}
    (loading : Loading src len ptr (left + count) loads)
    (here : forall i, i + (left + count) = len -> ptr = src + BitVec.ofNat 32 i ->
      load.Inside src len) :
    Loading src len (ptr + BitVec.ofNat 32 count) left (loads ++ [load]) := by
  rcases loading.rest with ⟨i, total, start⟩
  refine ⟨⟨i + count, by omega, ?_⟩, fun load' member => ?_⟩
  · rw [start, BitVec.add_assoc, <- BitVec.ofNat_add]
  · rcases List.mem_append.mp member with before | now
    · exact loading.inside load' before
    · rw [List.mem_singleton.mp now]
      exact here i total start

/-- One byte is loaded. -/
theorem Loading.byte (loading : Loading src len ptr (left + 1) loads) :
    Loading src len (ptr + 1) left (loads ++ [.byte ptr]) :=
  loading.step (fun i total start => ⟨i, by omega, start⟩)

/-- One word is loaded. -/
theorem Loading.word (loading : Loading src len ptr (left + 4) loads)
    (aligned : misalignment32Of ptr = 0) :
    Loading src len (ptr + 4) left (loads ++ [.word ptr]) :=
  loading.step (fun i total start => ⟨aligned, i, by omega, start⟩)

variable {memory : Memory} {ptr : BitVec 32} {left : Nat} {loads : List Load}

/-- The bytes in front end at an aligned address, or with the buffer. -/
theorem returns_writeUntilAlignedLoads (loading : Loading src len ptr left loads) :
    (writeUntilAlignedLoads memory ptr left loads).Returns (fun out =>
      Loading src len out.1.1 out.1.2 out.2 ∧ (misalignment32Of out.1.1 = 0 ∨ out.1.2 = 0)) := by
  induction left generalizing ptr loads with
  | zero => exact ⟨loading, .inr rfl⟩
  | succ left ih =>
      rw [writeUntilAlignedLoads]
      split
      · exact Returns.bind (returns_true _) (fun _ _ => ih loading.byte)
      · next aligned => exact ⟨loading, .inl (Classical.not_not.mp aligned)⟩

/-- An address stays aligned from word to word. -/
theorem misalignment32Of_add_four (aligned : misalignment32Of ptr = 0) :
    misalignment32Of (ptr + 4) = 0 := by
  unfold misalignment32Of at aligned ⊢
  rw [BitVec.toNat_add]
  change (ptr.toNat + 4) % 2 ^ 32 % 4 = 0
  omega

theorem returns_writeWordsLoads (loading : Loading src len ptr left loads)
    (aligned : misalignment32Of ptr = 0 ∨ left = 0) :
    (writeWordsLoads memory ptr left loads).Returns (fun out =>
      Loading src len out.1.1 out.1.2 out.2) := by
  fun_induction writeWordsLoads memory ptr left loads with
  | case1 ptr left loads ih =>
      have start : misalignment32Of ptr = 0 := aligned.resolve_right (Nat.succ_ne_zero _)
      exact Returns.bind (returns_true _)
        (fun _ _ => ih (loading.word start) (.inl (misalignment32Of_add_four start)))
  | case2 ptr left loads few => exact loading

theorem returns_writeBytesLoads (loading : Loading src len ptr left loads) :
    (writeBytesLoads memory ptr left loads).Returns (fun out =>
      forall load, load ∈ out.2 -> load.Inside src len) := by
  induction left generalizing ptr loads with
  | zero => exact loading.inside
  | succ left ih => exact Returns.bind (returns_true _) (fun _ _ => ih loading.byte)

/-- Every load is inside the buffer, and of a word only where it is aligned. -/
theorem returns_difSpiHostFifoWriteLoads (spiHost : Pointer) (memory : Memory) (src : BitVec 32)
    (len : BitVec 16) : (difSpiHostFifoWriteLoads spiHost memory src len).Returns (fun out =>
      forall load, load ∈ out.2 -> load.Inside src len.toNat) := by
  have start : Loading src len.toNat src len.toNat [] := by
    refine ⟨⟨0, Nat.zero_add _, (BitVec.add_zero _).symm⟩, fun load member => ?_⟩
    exact absurd member List.not_mem_nil
  unfold difSpiHostFifoWriteLoads
  split
  · exact fun load member => absurd member List.not_mem_nil
  · refine Returns.bind (returns_writeUntilAlignedLoads start) (fun out aligned => ?_)
    refine Returns.bind (returns_writeWordsLoads aligned.1 aligned.2) (fun out loading => ?_)
    exact Returns.bind (returns_writeBytesLoads loading) (fun _ inside => inside)

end Loads

/-! ## The whole call -/

/-- The FIFO is all that the function waits for. -/
theorem polls_difSpiHostFifoWrite {kind : Nat -> (BitVec 32 -> Bool) -> Prop}
    (room : kind statusRegOffset
      (fun reg => bitfieldField32Read reg statusTxqdField != paramTxDepth))
    (spiHost : Pointer) (memory : Memory) (src : BitVec 32) (len : BitVec 16) :
    (difSpiHostFifoWrite spiHost memory src len).Polls kind := by
  have wait : waitTxFifo.Polls kind := ⟨room, fun _ => trivial⟩
  have byte : forall ptr, (txFifoWrite8 memory ptr).Polls kind :=
    fun _ => wait.bind (fun _ => trivial)
  have word : forall ptr, (txFifoWrite32 memory ptr).Polls kind :=
    fun _ => wait.bind (fun _ => trivial)
  have aligned : forall left ptr, (writeUntilAligned memory ptr left).Polls kind := by
    intro left
    induction left with
    | zero => exact fun _ => trivial
    | succ left ih =>
        intro ptr
        rw [writeUntilAligned]
        split
        · exact (byte ptr).bind (fun _ => ih _)
        · trivial
  have words : forall ptr left, (writeWords memory ptr left).Polls kind := by
    intro ptr left
    fun_induction writeWords memory ptr left with
    | case1 ptr left ih => exact (word ptr).bind (fun _ => ih)
    | case2 => trivial
  have bytes : forall left ptr, (writeBytes memory ptr left).Polls kind := by
    intro left
    induction left with
    | zero => exact fun _ => trivial
    | succ left ih => exact fun ptr => (byte ptr).bind (fun _ => ih _)
  unfold difSpiHostFifoWrite
  split
  · trivial
  · refine (aligned _ _).bind (fun _ => ?_)
    refine (words _ _).bind (fun _ => ?_)
    exact (bytes _ _).bind (fun _ => trivial)

/-- A controller that drains its FIFO ends the wait. -/
theorem canEnd_waitTxFifo : CanEnd (Remembering fifoDevice Drains) statusRegOffset
    (fun reg => bitfieldField32Read reg statusTxqdField != paramTxDepth) := by
  intro s
  refine ⟨({ s.1 with tx := [] }, s.2), .single ⟨Nat.zero_le _, rfl⟩, ?_⟩
  have empty : ({ s.1 with tx := [] } : Fifos).tx.length < 72 := Nat.zero_lt_succ 71
  exact (Fifos.txqd_status (Nat.le_of_lt empty)).mpr empty

/-- However fast the controller drains its FIFO, at every moment what has been
presented to it is the beginning of the buffer, each access of it right after a
look that found the FIFO below its depth, and in the end, which the call can
always come to, it is the whole buffer.  Nothing outside the buffer is loaded, and
words only from aligned addresses. -/
theorem fifoWrite_packs (memory : Memory) (src : BitVec 32) (len : BitVec 16) (fifos : Fifos)
    (buffer : ¬ (src = 0 ∧ 0 < len)) (level : fifos.tx.length <= paramTxDepth.toNat) :
    (forall config, Reaches (Remembering fifoDevice Drains)
        (difSpiHostFifoWrite .object memory src len, fifos, []) config ->
      presented config.2.2 <+: sourceBytes memory src len.toNat ∧ Paced config.2.2 ∧
      (forall result, config.1 = .ret result ->
        result = .kDifOk ∧ presented config.2.2 = sourceBytes memory src len.toNat) ∧
      Exists fun result => Exists fun final =>
        Reaches (Remembering fifoDevice Drains) config (.ret result, final)) ∧
    forget (difSpiHostFifoWriteLoads .object memory src len) =
      difSpiHostFifoWrite .object memory src len ∧
    (difSpiHostFifoWriteLoads .object memory src len).Returns (fun out =>
      forall load, load ∈ out.2 -> load.Inside src len.toNat) := by
  refine ⟨fun config reaches => ?_, forget_difSpiHostFifoWriteLoads _ _ _ _,
    returns_difSpiHostFifoWriteLoads _ _ _ _⟩
  have start : Packed [] ((fifos, []) : Fifos × FifoLog) := by
    refine ⟨rfl, fun before access state after split => ?_, level⟩
    exact absurd split.symm (List.append_ne_nil_of_right_ne_nil before (List.cons_ne_nil _ _))
  have all := live_difSpiHostFifoWrite_packed buffer (fifos, []) start config reaches
  have polls := polls_difSpiHostFifoWrite canEnd_waitTxFifo .object memory src len
  refine ⟨all.1.1, all.1.2, fun result returned => ?_,
    polls.returns_reached (fun _ _ => trivial) reaches⟩
  have done := all.2.1 result returned
  exact ⟨done.1, done.2.presented⟩

/-- Seven bytes from an address that is not aligned. -/
theorem fifoWrite_packs_seven :
    (forall config, Reaches (Remembering fifoDevice Drains)
        (difSpiHostFifoWrite .object (BitVec.setWidth 8) 0x2001 7, Fifos.idle 0, []) config ->
      presented config.2.2 <+: sourceBytes (BitVec.setWidth 8) 0x2001 7 ∧ Paced config.2.2 ∧
      (forall result, config.1 = .ret result ->
        result = .kDifOk ∧ presented config.2.2 = sourceBytes (BitVec.setWidth 8) 0x2001 7) ∧
      Exists fun result => Exists fun final =>
        Reaches (Remembering fifoDevice Drains) config (.ret result, final)) ∧
    forget (difSpiHostFifoWriteLoads .object (BitVec.setWidth 8) 0x2001 7) =
      difSpiHostFifoWrite .object (BitVec.setWidth 8) 0x2001 7 ∧
    (difSpiHostFifoWriteLoads .object (BitVec.setWidth 8) 0x2001 7).Returns (fun out =>
      forall load, load ∈ out.2 -> load.Inside 0x2001 7) :=
  fifoWrite_packs (BitVec.setWidth 8) 0x2001 7 (Fifos.idle 0) (by decide) (by decide)

end SpiHost
end SunburstChip
