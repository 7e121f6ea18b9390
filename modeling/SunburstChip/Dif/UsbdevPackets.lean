import SunburstChip.Dif.UsbdevEndpoints

namespace SunburstChip
namespace Usbdev

open Mmio
open Function (update update_of_ne update_self)

/-!
# What is in packet memory

A caller that fills a buffer and sends it relies on the bytes staying there
until the host has collected them.  They do, since everything else that writes
to packet memory writes to other buffers: the controller to those of the
Available FIFOs, and other callers to those they own.  `Tracked` puts together
what is known between the calls of one caller: that all buffers are accounted
for, what its endpoints offer, and what its buffers contain.
-/

/-- A byte of a buffer. -/
def Controller.byteAt (usbdev : Controller) (id i : Nat) : BitVec 8 :=
  wordByte (usbdev.memory (16 * id + i / 4)) (i % 4)

/-- The first bytes of a buffer. -/
def Controller.packetBytes (usbdev : Controller) (id size : Nat) : List (BitVec 8) :=
  (List.range size).map (usbdev.byteAt id)

/-- A buffer begins with some bytes. -/
def Controller.BeginsWith (usbdev : Controller) (id : Nat) (bytes : List (BitVec 8)) : Prop :=
  bytes.length <= maxPacketSize ∧
    forall i, i < bytes.length -> bytes[i]? = some (usbdev.byteAt id i)

variable {id n : Nat} {slots : Nat -> Slot} {away : Multiset Nat} {known : Nat -> List (BitVec 8)}
  {system : System}

theorem Controller.BeginsWith.packetBytes {usbdev : Controller} {bytes : List (BitVec 8)}
    (begins : usbdev.BeginsWith id bytes) :
    usbdev.packetBytes id bytes.length = bytes := by
  apply List.ext_getElem?
  intro i
  by_cases inside : i < bytes.length
  · rw [begins.2 i inside, Controller.packetBytes, List.getElem?_map,
      List.getElem?_range inside]
    rfl
  · rw [List.getElem?_eq_none (Nat.le_of_not_lt inside), List.getElem?_eq_none]
    simpa [Controller.packetBytes] using inside

section

variable {usbdev usbdev' : Controller} {id : Nat} {bytes : List (BitVec 8)}

theorem beginsWith_nil : usbdev.BeginsWith id [] := ⟨Nat.zero_le _, nofun⟩

theorem Controller.BeginsWith.congr (begins : usbdev.BeginsWith id bytes)
    (same : forall i, i < 64 -> usbdev'.byteAt id i = usbdev.byteAt id i) :
    usbdev'.BeginsWith id bytes :=
  ⟨begins.1, fun i inside => by
    rw [same i (Nat.lt_of_lt_of_le inside begins.1)]
    exact begins.2 i inside⟩

/-- A write to packet memory changes the bytes of one buffer only. -/
theorem byteAt_update_of_ne {memory : Nat -> BitVec 32} {word : Nat} (value : BitVec 32)
    (apart : word / 16 ≠ id) {i : Nat} (inside : i < 64) :
    ({ usbdev with memory := update memory word value } : Controller).byteAt id i =
      ({ usbdev with memory := memory } : Controller).byteAt id i := by
  have other : 16 * id + i / 4 ≠ word := by omega
  simp only [Controller.byteAt, update_of_ne other]

/-- A packet that is received changes the bytes of its buffer only. -/
theorem byteAt_storePacket_of_ne {buffer : BitVec 5} (packet : Nat -> BitVec 32)
    (apart : buffer.toNat ≠ id) {i : Nat} (inside : i < 64) :
    ({ usbdev with memory := storePacket usbdev.memory buffer packet } : Controller).byteAt id i =
      usbdev.byteAt id i := by
  have other : (16 * id + i / 4) / 16 ≠ buffer.toNat := by omega
  simp only [Controller.byteAt, storePacket, if_neg other]

end

/-! ## Buffers that only one caller writes to -/

/-- None of the caller's buffers can be received into, and they contain what
the caller knows. -/
structure Safe (mine : Nat -> Prop) (known : Nat -> List (BitVec 8)) (usbdev : Controller) :
    Prop where
  unavailable : forall buffer, buffer ∈ usbdev.avSetup ∨ buffer ∈ usbdev.avOut ->
    ¬ mine buffer.toNat
  contents : forall id, mine id -> usbdev.BeginsWith id (known id)

section

variable {mine : Nat -> Prop} {known : Nat -> List (BitVec 8)} {usbdev usbdev' : Controller}

theorem Safe.congr (safe : Safe mine known usbdev)
    (available : forall buffer, buffer ∈ usbdev'.avSetup ∨ buffer ∈ usbdev'.avOut ->
      buffer ∈ usbdev.avSetup ∨ buffer ∈ usbdev.avOut)
    (same : forall id i, mine id -> i < 64 -> usbdev'.byteAt id i = usbdev.byteAt id i) :
    Safe mine known usbdev' :=
  ⟨fun buffer inside => safe.unavailable buffer (available buffer inside),
    fun id isMine => (safe.contents id isMine).congr (same id · isMine)⟩

theorem stable_safe : Stable Hardware (Safe mine known) := by
  intro usbdev usbdev' move safe
  cases move with
  | @receiveSetup buffer rest ep size packet available room =>
      have notMine := safe.unavailable buffer (Or.inl (by rw [available]; exact .head _))
      apply safe.congr
      · rintro other (inside | inside)
        · exact Or.inl (by rw [available]; exact .tail _ inside)
        · exact Or.inr inside
      · intro id i isMine inside
        apply byteAt_storePacket_of_ne packet _ inside
        rintro rfl
        exact notMine isMine
  | @receiveOut buffer rest ep size packet available room =>
      have notMine := safe.unavailable buffer (Or.inr (by rw [available]; exact .head _))
      apply safe.congr
      · rintro other (inside | inside)
        · exact Or.inl inside
        · exact Or.inr (by rw [available]; exact .tail _ inside)
      · intro id i isMine inside
        apply byteAt_storePacket_of_ne packet _ inside
        rintro rfl
        exact notMine isMine
  | attempt | acknowledge | link => exact ⟨safe.unavailable, safe.contents⟩

/-- The access makes none of the caller's buffers available for reception, and
writes to none of them. -/
def Harmless (mine : Nat -> Prop) : Access -> Prop
  | .write32 offset value =>
      (offset = avoutbufferRegOffset ∨ offset = avsetupbufferRegOffset ->
        ¬ mine ((bitfieldField32Read value avoutbufferBufferField).setWidth 5).toNat) ∧
      (bufferRegOffset <= offset -> ¬ mine ((offset - bufferRegOffset) / 64))
  | .read32 _ | .write8 _ _ => True

theorem Safe.after {access : Access} (harmless : Harmless mine access)
    (safe : Safe mine known usbdev) : Safe mine known (device.after access usbdev) := by
  cases access with
  | write8 offset value => exact safe
  | read32 offset =>
      simp only [Device.after, device]
      split
      · exact ⟨safe.unavailable, safe.contents⟩
      · exact safe
  | write32 offset value =>
      rcases harmless with ⟨notOffered, notWritten⟩
      simp only [Device.after, device, Controller.writeWord]
      split
      · next isOut =>
          have notMine := notOffered (Or.inl isOut)
          split
          · exact safe
          · refine ⟨?_, safe.contents⟩
            rintro buffer (inside | inside)
            · exact safe.unavailable buffer (Or.inl inside)
            · rcases List.mem_append.mp inside with before | last
              · exact safe.unavailable buffer (Or.inr before)
              · rw [List.mem_singleton.mp last]
                exact notMine
      · split
        · next isSetup =>
            have notMine := notOffered (Or.inr isSetup)
            split
            · exact safe
            · refine ⟨?_, safe.contents⟩
              rintro buffer (inside | inside)
              · rcases List.mem_append.mp inside with before | last
                · exact safe.unavailable buffer (Or.inl before)
                · rw [List.mem_singleton.mp last]
                  exact notMine
              · exact safe.unavailable buffer (Or.inr inside)
        · split
          · exact safe
          · split
            · exact ⟨safe.unavailable, safe.contents⟩
            · split
              · next inMemory =>
                  refine safe.congr (fun _ inside => inside) (fun id i isMine inside => ?_)
                  apply byteAt_update_of_ne value _ inside
                  rintro rfl
                  rw [Nat.div_div_eq_div_mul] at isMine
                  exact notWritten inMemory isMine
              · split <;> exact ⟨safe.unavailable, safe.contents⟩

/-- A program of harmless accesses leaves the caller's buffers alone. -/
theorem safe_of_within {α : Type} {m : Mmio α} (within : m.Within (Harmless mine)) :
    Triple device Hardware (Safe mine known) m (fun _ => Safe mine known) :=
  Triple.invariant stable_safe (fun _ _ harmless safe => safe.after harmless) within

/-! ## Filling one's own buffers -/

variable {id word : Nat} {bytes : List (BitVec 8)}

theorem Controller.BeginsWith.append {before : List (BitVec 8)}
    (begins : usbdev.BeginsWith id before) (room : before.length + bytes.length <= maxPacketSize)
    (kept : forall i, i < before.length -> usbdev'.byteAt id i = usbdev.byteAt id i)
    (written : forall i, i < bytes.length ->
      bytes[i]? = some (usbdev'.byteAt id (before.length + i))) :
    usbdev'.BeginsWith id (before ++ bytes) := by
  refine ⟨by rw [List.length_append]; exact room, fun i inside => ?_⟩
  rw [List.length_append] at inside
  rw [List.getElem?_append]
  split
  · next first =>
      rw [kept i first]
      exact begins.2 i first
  · next later =>
      have again := written (i - before.length) (by omega)
      rwa [show before.length + (i - before.length) = i by omega] at again

/-- A word of packet memory as it is read, for a buffer whose bytes are known. -/
def WordOf (bytes : List (BitVec 8)) (word : Nat) (value : BitVec 32) : Prop :=
  forall i, i < 4 -> 4 * word + i < bytes.length ->
    bytes[4 * word + i]? = some (wordByte value i)

theorem readWord_safe {α : Type} {next : BitVec 32 -> Mmio α} {post : α -> Controller -> Prop}
    (own : mine id)
    (after : forall value, WordOf (known id) word value ->
      Triple device Hardware (Safe mine known) (next value) post) :
    Triple device Hardware (Safe mine known)
      (.read32 (bufferRegOffset + 64 * id + 4 * word) next) post := by
  have above : 0x800 <= bufferRegOffset + 64 * id + 4 * word := by
    change 0x800 <= 0x800 + 64 * id + 4 * word
    omega
  have notFifo : bufferRegOffset + 64 * id + 4 * word ≠ rxfifoRegOffset := by
    change _ ≠ 0x28
    omega
  refine Triple.read32 (fun value usbdev => WordOf (known id) word value ∧ Safe mine known usbdev)
    stable_safe ?_ ?_
  · intro usbdev safe
    rw [read32_of_ne usbdev notFifo]
    refine ⟨fun i small inside => ?_, safe⟩
    have index : (bufferRegOffset + 64 * id + 4 * word - bufferRegOffset) / 4 =
        16 * id + (4 * word + i) / 4 := by
      rw [Nat.add_assoc, Nat.add_sub_cancel_left]
      omega
    have byte : (4 * word + i) % 4 = i := by omega
    rw [(safe.contents id own).2 _ inside, readWord_memory usbdev above, Controller.byteAt, index,
      byte]
  · intro value start finish out both execution
    exact after value both.1 start finish out both.2 execution

/-- Write a word of a buffer of one's own, behind what it contains; the bytes of
the word that come before are written as they are. -/
theorem Safe.writeWord {before : List (BitVec 8)} {value : BitVec 32}
    (safe : Safe mine (update known id before) usbdev)
    (position : before.length / 4 = word) (short : before.length % 4 + bytes.length <= 4)
    (room : before.length + bytes.length <= maxPacketSize) (nonempty : bytes ≠ [])
    (kept : forall i, i < before.length % 4 -> before[4 * word + i]? = some (wordByte value i))
    (written : forall i, i < bytes.length ->
      bytes[i]? = some (wordByte value (before.length % 4 + i))) :
    Safe mine (update known id (before ++ bytes))
      (usbdev.writeWord (bufferRegOffset + 64 * id + 4 * word) value) := by
  have above : 0x800 <= bufferRegOffset + 64 * id + 4 * word := by
    change 0x800 <= 0x800 + 64 * id + 4 * word
    omega
  have index : (bufferRegOffset + 64 * id + 4 * word - bufferRegOffset) / 4 = 16 * id + word := by
    rw [Nat.add_assoc, Nat.add_sub_cancel_left]
    omega
  have positive : 0 < bytes.length := List.length_pos_iff.mpr nonempty
  have inside : word < 16 := by
    change _ <= 64 at room
    omega
  rw [writeWord_memory usbdev value above, index]
  refine ⟨safe.unavailable, fun other isMine => ?_⟩
  by_cases same : other = id
  · subst same
    have begins := safe.contents other isMine
    rw [update_self] at begins
    rw [update_self]
    apply begins.append room
    · intro i first
      by_cases here : i / 4 = word
      · have again := kept (i % 4) (by omega)
        rw [show 4 * word + i % 4 = i by omega, begins.2 i first] at again
        have byte : usbdev.byteAt other i = wordByte value (i % 4) := Option.some.inj again
        simp only [Controller.byteAt, here, update_self] at byte ⊢
        exact byte.symm
      · have apart : 16 * other + i / 4 ≠ 16 * other + word := by omega
        simp only [Controller.byteAt, update_of_ne apart]
    · intro i first
      rw [written i first]
      have here : 16 * other + (before.length + i) / 4 = 16 * other + word := by omega
      have byte : (before.length + i) % 4 = before.length % 4 + i := by omega
      simp only [Controller.byteAt, here, byte, update_self]
  · have begins := safe.contents other isMine
    rw [update_of_ne same] at begins
    rw [update_of_ne same]
    exact begins.congr (fun i inside' => byteAt_update_of_ne value (by omega) inside')

theorem memcpyWords_safe {before : List (BitVec 8)} (position : before.length = 4 * word)
    (room : before.length + bytes.length <= maxPacketSize) :
    Triple device Hardware (Safe mine (update known id before))
      (memcpyWordsToMmio32 (bufferRegOffset + 64 * id + 4 * word) bytes)
      (fun _ => Safe mine (update known id (before ++ bytes))) := by
  -- The induction is on the bytes left; what has been copied grows by a word.
  induction left : bytes.length using Nat.strongRecOn generalizing word before bytes with
  | ind length ih =>
      by_cases few : bytes.length < 4
      · by_cases nonempty : bytes = []
        · subst nonempty
          rw [List.append_nil]
          exact Triple.ret stable_safe (fun _ safe => safe)
        · rw [memcpyWordsToMmio32_few _ (List.length_pos_iff.mpr nonempty) few]
          have harmless : Harmless mine
              (.read32 (bufferRegOffset + 64 * id + 4 * word)) := trivial
          refine Triple.read32 (fun _ => Safe mine (update known id before)) stable_safe
            (fun usbdev safe => safe.after harmless) (fun currentWord => ?_)
          refine Triple.write32 _ stable_safe (fun usbdev safe => ?_)
            (Triple.ret stable_safe (fun _ safe => safe))
          have start : before.length % 4 = 0 := by omega
          apply safe.writeWord (by omega) (by omega) room nonempty
          · intro i inside
            omega
          · intro i inside
            rw [start, Nat.zero_add, wordByte_setWordBytes _ _ (by omega) (by omega),
              if_pos (Nat.zero_le i), Nat.sub_zero, List.getD_eq_getElem?_getD,
              List.getElem?_eq_getElem inside]
            rfl
      · rcases bytes with _ | ⟨a, _ | ⟨b, _ | ⟨c, _ | ⟨d, rest⟩⟩⟩⟩
        · exact absurd (show 0 < 4 by decide) few
        · exact absurd (show 1 < 4 by decide) few
        · exact absurd (show 2 < 4 by decide) few
        · exact absurd (show 3 < 4 by decide) few
        · have four : [a, b, c, d].length = 4 := rfl
          rw [show a :: b :: c :: d :: rest = [a, b, c, d] ++ rest from rfl,
            List.length_append, four] at room left
          refine Triple.write32 (Safe mine (update known id (before ++ [a, b, c, d])))
            stable_safe (fun usbdev safe => ?_) ?_
          · have start : before.length % 4 = 0 := by omega
            apply safe.writeWord (by omega) (by omega) (by omega) (List.cons_ne_nil _ _)
            · intro i inside
              omega
            · intro i inside
              have limit : i < 4 := inside
              rw [start, Nat.zero_add, wordByte_setWordBytes _ _ (Nat.le_of_eq four) limit,
                if_pos (Nat.zero_le i)]
              have cases4 : i = 0 ∨ i = 1 ∨ i = 2 ∨ i = 3 := by omega
              rcases cases4 with rfl | rfl | rfl | rfl <;> rfl
          · have position' : (before ++ [a, b, c, d]).length = 4 * (word + 1) := by
              rw [List.length_append, position, four]
              omega
            have room' : (before ++ [a, b, c, d]).length + rest.length <= maxPacketSize := by
              rw [List.length_append, four]
              omega
            have later := ih rest.length (by omega) position' room' rfl
            rw [List.append_assoc] at later
            exact later

/-- A copy into a buffer concerns that buffer only. -/
theorem harmless_memcpyToMmio32 {offset : Nat} (fits : offset + bytes.length <= maxPacketSize)
    (other : ¬ mine id) :
    (mmioRegionMemcpyToMmio32 (bufferRegOffset + id * maxPacketSize + offset) bytes).Within
      (Harmless mine) := by
  refine (between_memcpyToMmio32 _ _).imp (fun access between => ?_)
  have room : offset + bytes.length <= 64 := fits
  cases access with
  | read32 | write8 => trivial
  | write32 word value =>
      rcases between with ⟨low, high⟩
      change 0x800 + id * 64 + offset - (0x800 + id * 64 + offset) % 4 <= word at low
      change word < 0x800 + id * 64 + offset + bytes.length at high
      refine ⟨?_, fun _ => ?_⟩
      · rintro (rfl | rfl)
        · exact absurd low (by change ¬ _ <= 0x20; omega)
        · exact absurd low (by change ¬ _ <= 0x24; omega)
      · rw [show (word - 0x800) / 64 = id by omega]
        exact other

/-- The first word is read, so that the bytes before the copied ones can be
written as they are. -/
theorem memcpyHead_safe {before : List (BitVec 8)} (own : mine id)
    (room : before.length + bytes.length <= maxPacketSize) (nonempty : bytes ≠ []) :
    Triple device Hardware (Safe mine (update known id before))
      (.read32 (bufferRegOffset + 64 * id + 4 * (before.length / 4)) (fun currentWord =>
        .write32 (bufferRegOffset + 64 * id + 4 * (before.length / 4))
          (setWordBytes currentWord (before.length % 4) (bytes.take (4 - before.length % 4)))
          (.ret ())))
      (fun _ => Safe mine (update known id
        (before ++ bytes.take (4 - before.length % 4)))) := by
  have positive : 0 < bytes.length := List.length_pos_iff.mpr nonempty
  have limit : (bytes.take (4 - before.length % 4)).length <= 4 - before.length % 4 :=
    List.length_take_le _ _
  have shorter : (bytes.take (4 - before.length % 4)).length <= bytes.length :=
    List.length_take_le' _ _
  have some : bytes.take (4 - before.length % 4) ≠ [] := by
    rw [<- List.length_pos_iff, List.length_take]
    omega
  refine readWord_safe own (fun currentWord here => Triple.write32 _ stable_safe ?_
    (Triple.ret stable_safe (fun _ safe => safe)))
  intro usbdev safe
  rw [update_self] at here
  apply safe.writeWord rfl (by omega) (by omega) some
  · intro i inside
    rw [here i (by omega) (by omega), wordByte_setWordBytes _ _ (by omega) (by omega),
      if_neg (by omega)]
  · intro i inside
    rw [wordByte_setWordBytes _ _ (by omega) (by omega), if_pos (Nat.le_add_right _ _),
      Nat.add_sub_cancel_left, List.getD_eq_getElem?_getD, List.getElem?_eq_getElem inside]
    rfl

/-- Copy bytes into a buffer, behind what it contains. -/
theorem memcpyToMmio32_safe {before : List (BitVec 8)}
    (room : before.length + bytes.length <= maxPacketSize) :
    Triple device Hardware (Safe mine (update known id before))
      (mmioRegionMemcpyToMmio32 (bufferRegOffset + id * maxPacketSize + before.length) bytes)
      (fun _ => Safe mine (update known id (before ++ bytes))) := by
  have offset : bufferRegOffset + id * maxPacketSize + before.length =
      bufferRegOffset + 64 * id + 4 * (before.length / 4) + before.length % 4 := by
    change 0x800 + id * 64 + before.length = 0x800 + 64 * id + 4 * (before.length / 4) + _
    omega
  have misalignment : (bufferRegOffset + id * maxPacketSize + before.length) % 4 =
      before.length % 4 := by
    change (0x800 + id * 64 + before.length) % 4 = _
    omega
  by_cases own : mine id
  · unfold mmioRegionMemcpyToMmio32
    split
    · next empty =>
        rw [empty, List.append_nil]
        exact Triple.ret stable_safe (fun _ safe => safe)
    · next nonempty =>
        dsimp only
        rw [misalignment, offset, Nat.add_sub_cancel]
        by_cases aligned : before.length % 4 = 0
        · rw [if_neg (not_not.mpr aligned), aligned, Nat.add_zero]
          exact memcpyWords_safe (by omega) room
        · rw [if_pos aligned]
          change Triple _ _ _ ((Mmio.read32 _ (fun _ => .write32 _ _ (.ret ()))) >>= fun _ =>
            memcpyWordsToMmio32 _ (bytes.drop (4 - before.length % 4))) _
          refine Triple.bind (memcpyHead_safe own room nonempty) (fun _ => ?_)
          by_cases all : bytes.length <= 4 - before.length % 4
          · rw [List.drop_of_length_le all, List.take_of_length_le all]
            exact Triple.ret stable_safe (fun _ safe => safe)
          · have full : (before ++ bytes.take (4 - before.length % 4)).length =
                4 * (before.length / 4 + 1) := by
              rw [List.length_append, List.length_take]
              omega
            have room' : (before ++ bytes.take (4 - before.length % 4)).length +
                (bytes.drop (4 - before.length % 4)).length <= maxPacketSize := by
              rw [List.length_append, List.length_take, List.length_drop]
              omega
            have rest : Triple device Hardware (Safe mine (update known id
                (before ++ bytes.take (4 - before.length % 4)))) _ _ := memcpyWords_safe full room'
            rw [List.append_assoc, List.take_append_drop] at rest
            convert rest using 2
            omega
  · intro start finish out safe execution
    have kept := safe_of_within (harmless_memcpyToMmio32 room own) start finish out safe execution
    refine ⟨kept.unavailable, fun other isMine => ?_⟩
    have apart : other ≠ id := fun same => own (same ▸ isMine)
    have begins := kept.contents other isMine
    rwa [update_of_ne apart] at begins ⊢

end

/-! ## What a caller knows -/

/-- The buffers a caller has in hand or has given to an endpoint of its own. -/
def Mine (away : Multiset Nat) (slots : Nat -> Slot) (id : Nat) : Prop :=
  id ∈ away ∨ Exists fun endpoint => endpoint < numEndpoints ∧
    Exists fun size => slots endpoint = .holds id size

/-- What may still be written to a buffer is within it. -/
def Buffer.Fits (buf : Buffer) : Prop :=
  buf.type = .kDifUsbdevBufferTypeWrite ->
    buf.offset.toNat + buf.remainingBytes.toNat <= maxPacketSize

/-- The buffers in hand, the endpoints and the contents of its buffers are what
a caller takes them to be, and all buffers are accounted for. -/
structure Tracked (n : Nat) (away : Multiset Nat) (slots : Nat -> Slot)
    (known : Nat -> List (BitVec 8)) (system : System) : Prop where
  account : Invariant n away system
  endpoints : Described slots system.controller
  contents : forall id, Mine away slots id -> system.controller.BeginsWith id (known id)
  fits : forall index, (system.objects index).Fits

section

variable {n : Nat} {away : Multiset Nat} {slots : Nat -> Slot} {known : Nat -> List (BitVec 8)}
  {usbdev usbdev' : Controller} {pool : BufferPool} {objects : Nat -> Buffer}

/-- What an endpoint holds is accounted for at its CONFIGIN register. -/
theorem Described.mem_held {endpoint id size : Nat} (described : Described slots usbdev)
    (holds : slots endpoint = .holds id size) :
    id ∈ (System.mk usbdev pool objects).held (.configIn endpoint) := by
  have here := described endpoint
  rw [holds] at here
  simp only [System.held, here.1, if_true, here.2.1]
  exact Multiset.mem_singleton_self id

variable {system : System} {mine : Nat -> Prop} {offset : Nat} {endpoint : BitVec 8} {buf : Buffer}

/-- None of the caller's buffers is at any place but its endpoints. -/
theorem Tracked.not_held (tracked : Tracked n away slots known system) {place : Place}
    (inside : place ∈ places n) (elsewhere : forall endpoint, place ≠ .configIn endpoint)
    {id : Nat} (mine : Mine away slots id) : id ∉ system.held place := by
  rcases mine with inHand | ⟨endpoint, below, size, holds⟩
  · exact tracked.account.accounted.not_held_of_inHand (Multiset.nodup_range _) inside inHand
  · exact tracked.account.accounted.not_held_of_held (Multiset.nodup_range _)
      (mem_places_configIn.mpr below) inside (elsewhere endpoint)
      (tracked.endpoints.mem_held holds)

theorem Tracked.safe (tracked : Tracked n away slots known ⟨usbdev, pool, objects⟩) :
    Safe (Mine away slots) known usbdev := by
  refine ⟨?_, tracked.contents⟩
  rintro buffer (inside | inside) mine
  · exact tracked.not_held (mem_places_availableSetup n) (fun _ => nofun) mine
      (Multiset.mem_coe.mpr (List.mem_map_of_mem inside))
  · exact tracked.not_held (mem_places_availableOut n) (fun _ => nofun) mine
      (Multiset.mem_coe.mpr (List.mem_map_of_mem inside))

theorem Tracked.hardware (tracked : Tracked n away slots known ⟨usbdev, pool, objects⟩)
    (move : Hardware usbdev usbdev') : Tracked n away slots known ⟨usbdev', pool, objects⟩ :=
  ⟨tracked.account.hardware move, tracked.endpoints.hardware move,
    (stable_safe _ _ move tracked.safe).contents, tracked.fits⟩

theorem stable_tracked :
    Stable Hardware (fun usbdev => Tracked n away slots known ⟨usbdev, pool, objects⟩) :=
  fun _ _ move tracked => tracked.hardware move

theorem Tracked.returned {α : Type} {value out : α} {finish : Controller}
    (tracked : Tracked n away slots known ⟨usbdev, pool, objects⟩)
    (execution : Exec device Hardware usbdev (.ret value) finish out) :
    out = value ∧ Tracked n away slots known ⟨finish, pool, objects⟩ := by
  have stable : Stable Hardware
      (fun usbdev => Tracked n away slots known ⟨usbdev, pool, objects⟩) := stable_tracked
  apply Triple.returned stable ?_ execution
  exact tracked

/-! ## The calls of others -/

theorem harmless_of_lt {value : BitVec 32}
    (apart : offset ≠ avoutbufferRegOffset ∧ offset ≠ avsetupbufferRegOffset)
    (low : offset < bufferRegOffset) : Harmless mine (.write32 offset value) :=
  ⟨fun available => absurd available (not_or.mpr apart), fun above => absurd low (by omega)⟩

theorem harmless_configIn (inside : endpoint.toNat < 12) (value : BitVec 32) :
    Harmless mine (.write32 (configInRegOffset endpoint) value) := by
  apply harmless_of_lt
  · change 0x44 + 4 * endpoint.toNat ≠ 0x20 ∧ 0x44 + 4 * endpoint.toNat ≠ 0x24
    omega
  · change 0x44 + 4 * endpoint.toNat < 0x800
    omega

theorem harmless_fillLoop (rounds : Nat) {pool : BufferPool} (bounds : pool.InBounds)
    (valid : forall id, id ∈ pool.stack -> id.toNat < 32)
    (others : forall id, id ∈ pool.stack -> ¬ mine id.toNat) :
    (fillLoop rounds pool).Within (Harmless mine) := by
  induction rounds generalizing pool with
  | zero => trivial
  | succ rounds ih =>
      unfold fillLoop
      rw [within_ite]
      refine ⟨fun _ => trivial, fun _ => ⟨trivial, fun status => ?_⟩⟩
      simp only [bind_ret]
      rw [within_ite]
      refine ⟨fun _ => trivial, fun _ => ?_⟩
      cases removed : bufferPoolRemove pool with
      | none => trivial
      | some taken =>
          rcases taken with ⟨id, pool'⟩
          rcases bufferPoolRemove_stack bounds removed with ⟨stack, bounds'⟩
          have here : id ∈ pool.stack := by
            rw [stack]
            exact List.mem_append.mpr (Or.inr (List.mem_singleton_self id))
          have later (id' : BitVec 8) (inside : id' ∈ pool'.stack) : id' ∈ pool.stack := by
            rw [stack]
            exact List.mem_append.mpr (Or.inl inside)
          have rest := ih bounds' (fun id' inside => valid id' (later id' inside))
            (fun id' inside => others id' (later id' inside))
          have offered : ¬ mine ((bitfieldField32Read (bitfieldField32Write 0
              avoutbufferBufferField (id.setWidth 32)) avoutbufferBufferField).setWidth 5).toNat := by
            rw [available_buffer rfl (valid id here)]
            exact others id here
          dsimp only
          split
          · exact ⟨⟨fun _ => offered, fun above => absurd above (by decide)⟩, rest⟩
          · exact ⟨⟨fun _ => offered, fun above => absurd above (by decide)⟩, rest⟩

theorem harmless_recv (usbdev info buffer : Pointer) :
    (difUsbdevRecv usbdev info buffer).Within (Harmless mine) :=
  recv_within (fun _ => trivial) _ _ _

/-- The calls other callers may make are harmless to the buffers of this one. -/
theorem harmless_perform (tracked : Tracked n away slots known ⟨usbdev, pool, objects⟩)
    (call : Call) (allowed : call.Allowed n ⟨usbdev, pool, objects⟩) :
    (call.perform pool objects).Within (Harmless (Mine away slots)) := by
  cases call with
  | fillAvailableFifos usbdev bufferPool =>
      refine within_bind ?_ (fun _ => trivial)
      unfold difUsbdevFillAvailableFifos
      rw [within_ite]
      refine ⟨fun _ => trivial, fun _ => harmless_fillLoop _ tracked.account.bounds ?_ ?_⟩
      · intro id inside
        have counted := tracked.account.accounted.held_le (mem_places_pool n)
        exact Multiset.mem_range.mp (Multiset.mem_of_le counted (Multiset.mem_add.mpr
          (Or.inl (Multiset.mem_coe.mpr (List.mem_map_of_mem inside)))))
      · exact fun id inside mine => tracked.not_held (mem_places_pool n) (fun _ => nofun) mine
          (Multiset.mem_coe.mpr (List.mem_map_of_mem inside))
  | recv usbdev info buffer object => exact within_bind (harmless_recv _ _ _) (fun _ => trivial)
  | bufferRequest | bufferReturn => trivial
  | bufferRead usbdev bufferPool buffer dst object dstLen =>
      refine within_bind ?_ (fun _ => trivial)
      unfold difUsbdevBufferRead
      rw [within_ite]
      refine ⟨fun _ => trivial, fun _ => within_bind ((reads_memcpyFromMmio32 (by decide)
        (getBufferAddr_above _ _) _).imp (fun access reads => ?_)) (fun _ => ?_)⟩
      · cases access with
        | read32 | write8 => trivial
        | write32 => exact reads.elim
      · dsimp only
        rw [within_ite]
        refine ⟨fun _ => trivial, fun _ => ?_⟩
        split <;> trivial
  | bufferWrite usbdev buffer src object bytes =>
      refine within_bind ?_ (fun _ => trivial)
      unfold difUsbdevBufferWrite
      rw [within_ite]
      refine ⟨fun _ => trivial, fun accepted => within_bind ?_ (fun _ => ?_)⟩
      · have type : (objects object).type = .kDifUsbdevBufferTypeWrite := by
          by_contra other
          exact accepted (by simp [other])
        have room : (objects object).offset.toNat + (objects object).remainingBytes.toNat <=
            maxPacketSize := tracked.fits object type
        apply harmless_memcpyToMmio32
        · rw [List.length_take]
          omega
        · intro mine
          apply tracked.not_held (mem_places_object.mpr allowed) (fun _ => nofun) mine
          simp [System.held, Buffer.Owned, type]
      · dsimp only
        split <;> trivial
  | send usbdev endpoint buffer object =>
      exact within_bind (send_within (fun inside _ => harmless_configIn inside _) _ _ _)
        (fun _ => trivial)
  | clearTxStatus usbdev bufferPool endpoint =>
      exact within_bind (clearTxStatus_within (fun _ => trivial)
        (fun inside _ => harmless_configIn inside _)
        (fun _ => harmless_of_lt (by decide) (by decide)) _ _ _) (fun _ => trivial)

theorem Buffer.Fits.written (fits : buf.Fits) (bytes : List (BitVec 8))
    (room : bytes.length <= buf.remainingBytes.toNat) : (buf.written bytes).Fits := by
  intro type
  have before := fits type
  have small := buf.remainingBytes.isLt
  change (buf.offset + BitVec.ofNat 8 bytes.length).toNat +
    (buf.remainingBytes - BitVec.ofNat 8 bytes.length).toNat <= 64
  change buf.offset.toNat + buf.remainingBytes.toNat <= 64 at before
  rw [BitVec.toNat_add, BitVec.toNat_sub, BitVec.toNat_ofNat]
  omega

theorem fits_update (fits : forall index, (objects index).Fits) {buffer : Buffer} (index : Nat)
    (here : buffer.Fits) : forall other, (update objects index buffer other).Fits := by
  intro other
  by_cases same : other = index
  · subst same
    rw [update_self]
    exact here
  · rw [update_of_ne same]
    exact fits other

/-- Every call leaves buffer objects that fit their buffers. -/
theorem returns_fits (fits : forall index, (objects index).Fits) (call : Call) :
    (call.perform pool objects).Returns (fun result => forall index, (result.2.2 index).Fits) := by
  cases call with
  | fillAvailableFifos | clearTxStatus => exact (returns_true _).bind (fun _ _ => fits)
  | recv usbdev info buffer object =>
      have received : (difUsbdevRecv usbdev info buffer).Returns
          (fun out => forall buf, out.2.map Prod.snd = some buf -> buf.Fits) := by
        unfold difUsbdevRecv
        split
        · exact nofun
        · intro status
          simp only [bind_ret]
          split
          · exact nofun
          · rintro entry buf ⟨⟩
            exact nofun
      refine received.bind (fun out fits' => ?_)
      change forall index, (storeObject objects object (out.2.map Prod.snd) index).Fits
      cases stored : out.2.map Prod.snd with
      | none => exact fits
      | some buf => exact fits_update fits object (fits' buf stored)
  | bufferRequest usbdev bufferPool buffer object =>
      change forall index, (storeObject objects object
        (difUsbdevBufferRequest usbdev bufferPool buffer pool).2.2 index).Fits
      unfold difUsbdevBufferRequest
      split
      · exact fits
      · split
        · exact fits
        · cases bufferPoolRemove pool with
          | none => exact fits
          | some taken => exact fits_update fits object (fun _ => Nat.le_refl 64)
  | bufferRead usbdev bufferPool buffer dst object dstLen =>
      have read : (difUsbdevBufferRead usbdev bufferPool buffer dst pool (objects object)
          dstLen).Returns (fun out => out.2.2.1.Fits) := by
        unfold difUsbdevBufferRead
        split
        · exact fits object
        · next accepted =>
            have type : (objects object).type = .kDifUsbdevBufferTypeRead := by
              by_contra other
              exact accepted (by simp [other])
            refine (returns_true _).bind (fun bytes _ => ?_)
            dsimp only
            split
            · intro isWrite
              rw [show _ = _ from isWrite] at type
              cases type
            · cases bufferPoolAdd pool (objects object).id with
              | none =>
                  intro isWrite
                  rw [show _ = _ from isWrite] at type
                  cases type
              | some pool' => exact nofun
      exact read.bind (fun out fits' => fits_update fits object fits')
  | bufferWrite usbdev buffer src object bytes =>
      have written : (difUsbdevBufferWrite usbdev buffer src (objects object) bytes).Returns
          (fun out => out.2.1.Fits) := by
        unfold difUsbdevBufferWrite
        split
        · exact fits object
        · refine (returns_true _).bind (fun _ _ => ?_)
          have taken : (bytes.take (min (objects object).remainingBytes.toNat bytes.length)).length =
              min (objects object).remainingBytes.toNat bytes.length := by
            rw [List.length_take]
            omega
          have fits' := (fits object).written
            (bytes.take (min (objects object).remainingBytes.toNat bytes.length)) (by omega)
          unfold Buffer.written at fits'
          rw [taken] at fits'
          dsimp only
          split
          · exact fits'
          · exact fits'
      exact written.bind (fun out fits' => fits_update fits object fits')
  | bufferReturn usbdev bufferPool buffer object =>
      change forall index, (update objects object
        (difUsbdevBufferReturn usbdev bufferPool buffer pool (objects object)).2.2 index).Fits
      apply fits_update fits object
      unfold difUsbdevBufferReturn
      split
      · exact fits object
      · split
        · split
          · exact fits object
          · exact nofun
        · split
          · exact fits object
          · exact nofun
        · exact fits object
  | send usbdev endpoint buffer object =>
      have sent : (difUsbdevSend usbdev endpoint buffer (objects object)).Returns
          (fun out => out.2.Fits) := by
        unfold difUsbdevSend
        split
        · exact fits object
        · exact nofun
      exact sent.bind (fun out fits' => fits_update fits object fits')

/-- In the runs of a driver all buffer objects fit their buffers. -/
theorem Reachable.fits (reachable : Reachable n system) :
    forall index, (system.objects index).Fits := by
  induction reachable with
  | configure usbdev bufferPool config free execution =>
      intro index type
      have owned := free index
      rw [Buffer.Owned, type] at owned
      cases owned
  | hardware before move ih => exact ih
  | call before call allowed execution ih => exact (returns_fits ih call).of_exec execution

/-- A caller that has nothing in hand and knows no packet. -/
theorem Reachable.tracked (reachable : Reachable n system)
    (described : Described slots system.controller)
    (nothing : forall endpoint buffer size, slots endpoint ≠ .holds buffer size) :
    Tracked n 0 slots known system := by
  refine ⟨reachable.invariant, described, fun id mine => ?_, reachable.fits⟩
  rcases mine with inHand | ⟨endpoint, below, size, holds⟩
  · cases inHand
  · exact absurd holds (nothing endpoint id size)

/-- The calls other callers make leave what this one knows as it is. -/
theorem perform_tracked (call : Call) (elsewhere : call.Elsewhere slots) :
    Triple device Hardware
      (fun usbdev => Tracked n away slots known ⟨usbdev, pool, objects⟩ ∧
        call.Allowed n ⟨usbdev, pool, objects⟩)
      (call.perform pool objects)
      (fun result usbdev => Tracked n away slots known ⟨usbdev, result.2.1, result.2.2⟩) := by
  rintro start finish result ⟨tracked, allowed⟩ execution
  exact
    { account := (perform_spec call start finish result ⟨tracked.account, allowed⟩ execution).2
      endpoints := described_of_within (within_perform call elsewhere) start finish result
        tracked.endpoints execution
      contents := (safe_of_within (harmless_perform tracked call allowed) start finish result
        tracked.safe execution).contents
      fits := (returns_fits tracked.fits call).of_exec execution }

/-! ## A caller's own calls -/

/-- A buffer that is requested is in hand and empty. -/
theorem request_tracked (tracked : Tracked n away slots known ⟨usbdev, pool, objects⟩) :
    difUsbdevBufferRequest .object .object .object pool = (.kDifUnavailable, pool, none) ∨
      Exists fun id => Exists fun pool' =>
        difUsbdevBufferRequest .object .object .object pool =
          (.kDifOk, pool', some ⟨id, 0, .ofNat 8 maxPacketSize, .kDifUsbdevBufferTypeWrite⟩) ∧
        id.toNat < 32 ∧ ¬ Mine away slots id.toNat ∧
        Tracked n (away + {id.toNat}) slots (update known id.toNat [])
          ⟨usbdev, pool', objects⟩ := by
  rcases bufferRequest_cases tracked.account with unavailable | ⟨id, pool', taken, account⟩
  · exact Or.inl unavailable
  · have valid : id.toNat < 32 := account.valid
    have fresh : ¬ Mine away slots id.toNat := by
      rintro (inHand | ⟨endpoint, below, size, holds⟩)
      · have once := (account.accounted.nodup (Multiset.nodup_range _) (mem_places_pool n))
        rw [<- add_assoc, Multiset.nodup_add] at once
        exact Multiset.disjoint_left.mp once.2.2 (Multiset.mem_add.mpr (Or.inr inHand))
          (Multiset.mem_singleton_self _)
      · exact account.accounted.not_held_of_inHand (Multiset.nodup_range _)
          (mem_places_configIn.mpr below)
          (Multiset.mem_add.mpr (Or.inr (Multiset.mem_singleton_self _)))
          (tracked.endpoints.mem_held holds)
    refine Or.inr ⟨id, pool', taken, valid, fresh, account, tracked.endpoints, ?_, tracked.fits⟩
    intro other mine
    by_cases same : other = id.toNat
    · rw [same, update_self]
      exact beginsWith_nil
    · rw [update_of_ne same]
      apply tracked.contents
      rcases mine with inHand | holds
      · rcases Multiset.mem_add.mp inHand with before | here
        · exact Or.inl before
        · exact absurd (Multiset.mem_singleton.mp here) same
      · exact Or.inr holds

/-- Bytes written to a buffer in hand come behind what it contains. -/
theorem bufferWrite_tracked {before bytes : List (BitVec 8)}
    (type : buf.type = .kDifUsbdevBufferTypeWrite) (position : buf.offset.toNat = before.length)
    (room : before.length + bytes.length <= maxPacketSize)
    (fits : bytes.length <= buf.remainingBytes.toNat) :
    Triple device Hardware
      (fun usbdev => Tracked n away slots (update known buf.id.toNat before)
        ⟨usbdev, pool, objects⟩)
      (difUsbdevBufferWrite .object .object .object buf bytes)
      (fun out usbdev => out = (.kDifOk, buf.written bytes, bytes.length) ∧
        Tracked n away slots (update known buf.id.toNat (before ++ bytes))
          ⟨usbdev, pool, objects⟩) := by
  have written : Triple device Hardware
      (Safe (Mine away slots) (update known buf.id.toNat before))
      (difUsbdevBufferWrite .object .object .object buf bytes)
      (fun _ => Safe (Mine away slots) (update known buf.id.toNat (before ++ bytes))) := by
    unfold difUsbdevBufferWrite
    rw [if_neg (by simp [type]), Nat.min_eq_right fits]
    dsimp only
    rw [List.take_of_length_le (Nat.le_refl _)]
    have copied : Triple device Hardware
        (Safe (Mine away slots) (update known buf.id.toNat before))
        (mmioRegionMemcpyToMmio32 (getBufferAddr buf.id buf.offset) bytes)
        (fun _ => Safe (Mine away slots)
          (update known buf.id.toNat (before ++ bytes))) := by
      unfold getBufferAddr
      rw [position]
      exact memcpyToMmio32_safe room
    refine Triple.bind copied (fun _ => ?_)
    split <;> exact Triple.ret stable_safe (fun _ safe => safe)
  intro start finish out tracked execution
  have account := bufferWrite_fits type fits start finish out tracked.account execution
  exact ⟨account.1,
    { account := account.2
      endpoints := described_of_within (within_memory (memory_bufferWrite _ _ _ _ _)) start finish
        out tracked.endpoints execution
      contents := (written start finish out tracked.safe execution).contents
      fits := tracked.fits }⟩

/-- A buffer in hand that is sent is what its endpoint holds. -/
theorem send_tracked (below : endpoint.toNat < 12) (type : buf.type = .kDifUsbdevBufferTypeWrite)
    (offset : buf.offset.toNat < 128) (idle : slots endpoint.toNat = .idle) :
    Triple device Hardware
      (fun usbdev => Tracked n (away + {buf.id.toNat}) slots known ⟨usbdev, pool, objects⟩)
      (difUsbdevSend .object endpoint .object buf)
      (fun out usbdev => out = (.kDifOk, { buf with type := .kDifUsbdevBufferTypeStale }) ∧
        Tracked n away (update slots endpoint.toNat
          (.holds buf.id.toNat buf.offset.toNat)) known ⟨usbdev, pool, objects⟩) := by
  have accepted : ¬ (Pointer.object = .null ∨ !isValidEndpoint endpoint ∨ Pointer.object = .null ∨
      buf.type ≠ .kDifUsbdevBufferTypeWrite) := by
    simp [isValidEndpoint, below, type]
  intro start finish out tracked execution
  have notPending : start.Pending endpoint.toNat = false := by
    have described := tracked.endpoints endpoint.toNat
    rwa [idle] at described
  have harmless : (difUsbdevSend .object endpoint .object buf).Within
      (Harmless (Mine (away + {buf.id.toNat}) slots)) := by
    unfold difUsbdevSend
    rw [if_neg accepted]
    exact ⟨harmless_configIn below _, harmless_configIn below _, trivial⟩
  have account := send_inHand accepted start finish out ⟨tracked.account, notPending⟩ execution
  refine ⟨account.1, account.2, send_described accepted tracked.account.valid offset start finish
    out tracked.endpoints execution, fun id mine => ?_, tracked.fits⟩
  apply (safe_of_within harmless start finish out tracked.safe execution).contents
  rcases mine with inHand | ⟨other, below', size, holds⟩
  · exact Or.inl (Multiset.mem_add.mpr (Or.inl inHand))
  · by_cases same : other = endpoint.toNat
    · subst same
      rw [update_self, Slot.holds.injEq] at holds
      rw [<- holds.1]
      exact Or.inl (Multiset.mem_add.mpr (Or.inr (Multiset.mem_singleton_self _)))
    · rw [update_of_ne same] at holds
      exact Or.inr ⟨other, below', size, holds⟩

/-- An endpoint of the caller that is cleared after its packet has been sent is idle. -/
theorem clearTxStatus_tracked (below : endpoint.toNat < 12) :
    Triple device Hardware
      (fun usbdev => Tracked n away slots known ⟨usbdev, pool, objects⟩ ∧
        usbdev.inSent endpoint.toNat = true)
      (difUsbdevClearTxStatus .object .object pool endpoint)
      (fun out usbdev => out.1 = .kDifOk ∧
        Tracked n away (update slots endpoint.toNat .idle) known
          ⟨usbdev, out.2, objects⟩) := by
  have accepted : ¬ (Pointer.object = .null ∨ Pointer.object = .null ∨
      !isValidEndpoint endpoint) := by
    simp [isValidEndpoint, below]
  rintro start finish out ⟨tracked, sent⟩ execution
  have harmless : (difUsbdevClearTxStatus .object .object pool endpoint).Within
      (Harmless (Mine away slots)) := by
    unfold difUsbdevClearTxStatus
    rw [if_neg accepted]
    refine ⟨trivial, fun word => ⟨harmless_configIn below _, ?_, ?_⟩⟩
    · exact harmless_of_lt (by decide) (by decide)
    · split <;> trivial
  have account := clearTxStatus_sent accepted start finish out ⟨tracked.account, sent⟩ execution
  refine ⟨account.1, account.2, clearTxStatus_described accepted start finish out
    tracked.endpoints execution, fun id mine => ?_, tracked.fits⟩
  apply (safe_of_within harmless start finish out tracked.safe execution).contents
  rcases mine with inHand | ⟨other, below', size, holds⟩
  · exact Or.inl inHand
  · by_cases same : other = endpoint.toNat
    · subst same
      rw [update_self] at holds
      cases holds
    · rw [update_of_ne same] at holds
      exact Or.inr ⟨other, below', size, holds⟩

/-- A register that only keeps what is written to it. -/
def PlainRegister (offset : Nat) : Prop :=
  offset < bufferRegOffset ∧ configInEndpoint offset = none ∧
    offset ∉ [avoutbufferRegOffset, avsetupbufferRegOffset, usbstatRegOffset, rxfifoRegOffset,
      inSentRegOffset]

instance (offset : Nat) : Decidable (PlainRegister offset) := by
  unfold PlainRegister
  infer_instance

theorem writeWord_plain (plain : PlainRegister offset) (value : BitVec 32) :
    usbdev.writeWord offset value =
      { usbdev with regs := update usbdev.regs offset value } := by
  rcases plain with ⟨low, notConfig, others⟩
  simp only [List.mem_cons, List.not_mem_nil, or_false, not_or] at others
  have readable : ¬ (offset = usbstatRegOffset ∨ offset = rxfifoRegOffset) :=
    not_or.mpr ⟨others.2.2.1, others.2.2.2.1⟩
  simp only [Controller.writeWord, if_neg others.1, if_neg others.2.1, if_neg readable,
    if_neg others.2.2.2.2, if_neg (Nat.not_le.mpr low), notConfig]

/-- Switching something on or off for an endpoint changes nothing else. -/
theorem functionalityEnable_tracked {newState : DifToggle} (plain : PlainRegister offset)
    (valid : isValidEndpoint endpoint = true) (toggle : difIsValidToggle newState = true) :
    Triple device Hardware (fun usbdev => Tracked n away slots known ⟨usbdev, pool, objects⟩)
      (endpointFunctionalityEnable .object offset endpoint newState)
      (fun result usbdev => result = .kDifOk ∧
        Tracked n away slots known ⟨usbdev, pool, objects⟩) := by
  have notFifo : offset ≠ rxfifoRegOffset := by
    rintro rfl
    exact plain.2.2 (by decide)
  unfold endpointFunctionalityEnable
  rw [if_neg (by simp [valid, toggle])]
  refine Triple.read32 (fun _ usbdev => Tracked n away slots known ⟨usbdev, pool, objects⟩)
    stable_tracked ?_ (fun regVal => Triple.write32
      (fun usbdev => Tracked n away slots known ⟨usbdev, pool, objects⟩) stable_tracked ?_
      (Triple.ret stable_tracked (fun _ tracked => ⟨rfl, tracked⟩)))
  · intro usbdev tracked
    rw [read32_of_ne usbdev notFifo]
    exact tracked
  · intro usbdev tracked
    change Tracked n away slots known ⟨usbdev.writeWord offset _, pool, objects⟩
    rw [writeWord_plain plain]
    rcases tracked with ⟨⟨accounted, avSetup, avOut, bounds, exclusive⟩, endpoints, contents, fits⟩
    exact ⟨⟨accounted, avSetup, avOut, bounds, exclusive⟩, endpoints, contents, fits⟩

/-- The same for a register of each direction. -/
theorem directionEnable_tracked {inOffset outOffset : Nat} {endpoint : EndpointId}
    {newState : DifToggle} (plainIn : PlainRegister inOffset) (plainOut : PlainRegister outOffset)
    (valid : isValidEndpoint (endpoint.number.setWidth 8) = true)
    (toggle : difIsValidToggle newState = true) :
    Triple device Hardware (fun usbdev => Tracked n away slots known ⟨usbdev, pool, objects⟩)
      (endpointFunctionalityEnable .object (if endpoint.direction then inOffset else outOffset)
        (endpoint.number.setWidth 8) newState)
      (fun result usbdev => result = .kDifOk ∧
        Tracked n away slots known ⟨usbdev, pool, objects⟩) := by
  apply functionalityEnable_tracked _ valid toggle
  split
  · exact plainIn
  · exact plainOut

end

/-! ## Packets -/

/-- The bytes of a packet. -/
abbrev Packet := List (BitVec 8)

/-- The packet an endpoint offers to the host, if it offers one. -/
def offered (usbdev : Controller) (endpoint : Nat) : List Packet :=
  if usbdev.Pending endpoint then
    [usbdev.packetBytes (usbdev.configIn endpoint).buffer.toNat
      (usbdev.configIn endpoint).size.toNat]
  else []

/-- An endpoint of the caller offers the packet that its buffer contains. -/
theorem Tracked.offers {endpoint : Nat} {packet : Packet}
    (tracked : Tracked n away slots known system) (below : endpoint < 12)
    (holds : slots endpoint = .holds id packet.length) (contains : known id = packet) :
    system.controller.Pending endpoint = true ∧ offered system.controller endpoint = [packet] := by
  have described := tracked.endpoints endpoint
  rw [holds] at described
  rcases described with ⟨pending, buffer, size⟩
  have begins := tracked.contents id (.inr ⟨endpoint, below, packet.length, holds⟩)
  rw [contains] at begins
  refine ⟨pending, ?_⟩
  unfold offered
  rw [if_pos pending, buffer, size]
  exact congrArg (fun bytes => [bytes]) begins.packetBytes

/-- A buffer in hand is not the one that an endpoint holds. -/
theorem Tracked.apart {endpoint id' size : Nat} (tracked : Tracked n away slots known system)
    (below : endpoint < 12) (holds : slots endpoint = .holds id size) (inHand : id' ∈ away) :
    id ≠ id' := by
  rintro rfl
  exact tracked.account.accounted.not_held_of_inHand (Multiset.nodup_range _)
    (mem_places_configIn.mpr below) inHand (tracked.endpoints.mem_held holds)

/-- A buffer is in hand once. -/
theorem Tracked.apart_inHand {id' : Nat} (tracked : Tracked n (away + {id}) slots known system)
    (inHand : id' ∈ away) : id' ≠ id := by
  rintro rfl
  have once := tracked.account.accounted.nodup (Multiset.nodup_range _) (mem_places_pool n)
  rw [<- add_assoc, Multiset.nodup_add] at once
  exact Multiset.disjoint_left.mp once.2.2 (Multiset.mem_add.mpr (Or.inr inHand))
    (Multiset.mem_singleton_self _)

/-- A buffer that has just been requested. -/
abbrev emptyBuffer (id : BitVec 8) : Buffer :=
  ⟨id, 0, .ofNat 8 maxPacketSize, .kDifUsbdevBufferTypeWrite⟩

/-- A buffer to be written to that contains just these bytes. -/
structure Filled (buf : Buffer) (bytes : List (BitVec 8)) : Prop where
  type : buf.type = .kDifUsbdevBufferTypeWrite
  offset : buf.offset.toNat = bytes.length
  remaining : buf.remainingBytes.toNat = maxPacketSize - bytes.length
  short : bytes.length <= maxPacketSize

theorem filled_nil (id : BitVec 8) : Filled (emptyBuffer id) [] :=
  ⟨rfl, rfl, rfl, Nat.zero_le _⟩

theorem Filled.written {buf : Buffer} {before bytes : List (BitVec 8)} (filled : Filled buf before)
    (room : before.length + bytes.length <= maxPacketSize) :
    Filled (buf.written bytes) (before ++ bytes) := by
  rcases filled with ⟨type, offset, remaining, short⟩
  change _ <= 64 at room short
  change _ = 64 - _ at remaining
  refine ⟨type, ?_, ?_, ?_⟩
  · change (buf.offset + BitVec.ofNat 8 bytes.length).toNat = _
    rw [BitVec.toNat_add, BitVec.toNat_ofNat, List.length_append, offset]
    omega
  · change (buf.remainingBytes - BitVec.ofNat 8 bytes.length).toNat = 64 - _
    rw [BitVec.toNat_sub, BitVec.toNat_ofNat, List.length_append, remaining]
    omega
  · change _ <= 64
    rw [List.length_append]
    omega

theorem written_nil (buf : Buffer) : buf.written [] = buf := by
  simp [Buffer.written]

section

variable {n : Nat} {away : Multiset Nat} {slots : Nat -> Slot} {known : Nat -> List (BitVec 8)}
  {pool : BufferPool} {objects : Nat -> Buffer}

/-- What is tracked while a buffer contains some bytes. -/
abbrev Containing (n : Nat) (away : Multiset Nat) (slots : Nat -> Slot)
    (known : Nat -> List (BitVec 8)) (pool : BufferPool) (objects : Nat -> Buffer) (id : Nat)
    (bytes : List (BitVec 8)) (usbdev : Controller) : Prop :=
  Tracked n away slots (update known id bytes) ⟨usbdev, pool, objects⟩

/-- Bytes written to a filled buffer come behind its others. -/
theorem bufferWrite_filled {buf : Buffer} {before bytes : List (BitVec 8)}
    (filled : Filled buf before)
    (room : before.length + bytes.length <= maxPacketSize) :
    Triple device Hardware (Containing n away slots known pool objects buf.id.toNat before)
      (difUsbdevBufferWrite .object .object .object buf bytes)
      (fun out usbdev => out = (.kDifOk, buf.written bytes, bytes.length) ∧
        Containing n away slots known pool objects buf.id.toNat (before ++ bytes) usbdev) := by
  apply bufferWrite_tracked filled.type filled.offset room
  rw [filled.remaining]
  omega

end

end Usbdev
end SunburstChip
