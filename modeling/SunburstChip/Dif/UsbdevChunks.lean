import SunburstChip.Dif.UsbdevPackets

namespace SunburstChip
namespace Usbdev

open Mmio
open Function (update update_of_ne update_self)

/-!
# Packets in pieces

A packet may be written to its buffer by any number of calls, and a packet that
has been received may be read by any number of calls.  However it is divided,
the pieces make up the packet: the position in the buffer object goes on where
the previous call has stopped, whether or not this is at a word boundary, and
nothing is written outside the buffer.
-/

/-! ## Copying out of a buffer -/

section

variable {mine : Nat -> Prop} {known : Nat -> List (BitVec 8)}
variable {len : Nat} {buf : Buffer} {pool : BufferPool}

/-- Bytes given one by one are a part of a list. -/
theorem map_range_eq_take {f : Nat -> BitVec 8} {bytes : List (BitVec 8)} {start : Nat}
    (each : forall i, i < len -> bytes[start + i]? = some (f i)) :
    (List.range len).map f = (bytes.drop start).take len := by
  apply List.ext_getElem?
  intro i
  rw [List.getElem?_map, List.getElem?_take]
  by_cases inside : i < len
  · rw [if_pos inside, List.getElem?_drop, each i inside, List.getElem?_range inside]
    rfl
  · rw [if_neg inside, List.getElem?_eq_none (by simpa using inside)]
    rfl

theorem memcpyWordsFrom_safe {id word : Nat} (own : mine id)
    (inside : 4 * word + len <= (known id).length) :
    Triple device Hardware (Safe mine known)
      (memcpyWordsFromMmio32 (bufferRegOffset + 64 * id + 4 * word) len)
      (fun out usbdev => out = ((known id).drop (4 * word)).take len ∧ Safe mine known usbdev) := by
  -- The induction is on what is left to be read, a word at a time.
  induction left : len using Nat.strongRecOn generalizing word len with
  | ind length ih =>
      subst left
      by_cases few : len < 4
      · by_cases none : len = 0
        · subst none
          exact Triple.ret stable_safe (fun _ safe => ⟨rfl, safe⟩)
        · have single : memcpyWordsFromMmio32 (bufferRegOffset + 64 * id + 4 * word) len =
              .read32 (bufferRegOffset + 64 * id + 4 * word) (fun currentWord =>
                .ret ((List.range len).map (wordByte currentWord))) := by
            rcases len with _ | _ | _ | _ | len
            · exact absurd rfl none
            · rfl
            · rfl
            · rfl
            · omega
          rw [single]
          refine readWord_safe own (fun value here => Triple.ret stable_safe (fun _ safe => ?_))
          exact ⟨map_range_eq_take (fun i small => here i (by omega) (by omega)), safe⟩
      · rcases len with _ | _ | _ | _ | len
        · omega
        · omega
        · omega
        · omega
        · change Triple _ _ _ (.read32 _ (fun currentWord =>
            memcpyWordsFromMmio32 (bufferRegOffset + 64 * id + 4 * (word + 1)) len >>= fun rest =>
              .ret ((List.range 4).map (wordByte currentWord) ++ rest))) _
          refine readWord_safe own (fun value here => ?_)
          refine Triple.bind (ih len (by omega) (by omega) rfl) (fun rest => ?_)
          have stable : Stable Hardware (fun usbdev =>
              rest = ((known id).drop (4 * (word + 1))).take len ∧ Safe mine known usbdev) :=
            fun _ _ move both => ⟨both.1, stable_safe _ _ move both.2⟩
          refine Triple.ret stable (fun _ both => ⟨?_, both.2⟩)
          have first : (List.range 4).map (wordByte value) = ((known id).drop (4 * word)).take 4 :=
            map_range_eq_take (fun i small => here i small (by omega))
          rw [first, both.1, show 4 * (word + 1) = 4 * word + 4 by omega, <- List.drop_drop,
            Nat.add_comm len 4, List.take_add]

/-- Copy bytes out of a buffer of one's own. -/
theorem memcpyFromMmio32_safe {id start : Nat} (own : mine id)
    (inside : start + len <= (known id).length) :
    Triple device Hardware (Safe mine known)
      (mmioRegionMemcpyFromMmio32 (bufferRegOffset + id * maxPacketSize + start) len)
      (fun out usbdev => out = ((known id).drop start).take len ∧ Safe mine known usbdev) := by
  have offset : bufferRegOffset + id * maxPacketSize + start =
      bufferRegOffset + 64 * id + 4 * (start / 4) + start % 4 := by
    change 0x800 + id * 64 + start = 0x800 + 64 * id + 4 * (start / 4) + _
    omega
  have misalignment : (bufferRegOffset + id * maxPacketSize + start) % 4 = start % 4 := by
    change (0x800 + id * 64 + start) % 4 = _
    omega
  unfold mmioRegionMemcpyFromMmio32
  split
  · next none =>
      subst none
      exact Triple.ret stable_safe (fun _ safe => ⟨rfl, safe⟩)
  · next some =>
      dsimp only
      rw [misalignment, offset, Nat.add_sub_cancel]
      by_cases aligned : start % 4 = 0
      · rw [if_neg (not_not.mpr aligned), aligned, Nat.add_zero]
        have whole : 4 * (start / 4) = start := by omega
        rw [<- whole] at inside ⊢
        rw [Nat.mul_div_cancel_left _ (by decide)]
        exact memcpyWordsFrom_safe own inside
      · rw [if_pos aligned]
        change Triple _ _ _ (.read32 _ (fun currentWord =>
          memcpyWordsFromMmio32 _ (len - min (4 - start % 4) len) >>= fun rest =>
            .ret ((List.range (min (4 - start % 4) len)).map
              (fun i => wordByte currentWord (start % 4 + i)) ++ rest))) _
        refine readWord_safe own (fun value here => ?_)
        have first : (List.range (min (4 - start % 4) len)).map
            (fun i => wordByte value (start % 4 + i)) =
              ((known id).drop start).take (min (4 - start % 4) len) := by
          apply map_range_eq_take
          intro i small
          have again := here (start % 4 + i) (by omega) (by omega)
          rwa [show 4 * (start / 4) + (start % 4 + i) = start + i by omega] at again
        have others : Triple device Hardware (Safe mine known)
            (memcpyWordsFromMmio32 (bufferRegOffset + 64 * id + 4 * (start / 4) + start % 4 +
              min (4 - start % 4) len) (len - min (4 - start % 4) len))
            (fun rest usbdev => rest = ((known id).drop (start + min (4 - start % 4) len)).take
              (len - min (4 - start % 4) len) ∧ Safe mine known usbdev) := by
          by_cases all : len <= 4 - start % 4
          · rw [Nat.min_eq_right all, Nat.sub_self]
            exact Triple.ret stable_safe (fun _ safe => ⟨rfl, safe⟩)
          · rw [Nat.min_eq_left (by omega)]
            have next : start + (4 - start % 4) = 4 * (start / 4 + 1) := by omega
            rw [next, show bufferRegOffset + 64 * id + 4 * (start / 4) + start % 4 +
              (4 - start % 4) = bufferRegOffset + 64 * id + 4 * (start / 4 + 1) by omega]
            exact memcpyWordsFrom_safe own (by omega)
        refine Triple.bind others (fun rest => ?_)
        refine Triple.ret (fun _ _ move both => ⟨both.1, stable_safe _ _ move both.2⟩)
          (fun _ both => ⟨?_, both.2⟩)
        rw [first, both.1, <- List.drop_drop, <- List.take_add]
        congr 1
        omega

/-! ## Writing in pieces -/

/-- Successive calls of `dif_usbdev_buffer_write`: the buffer they leave, and
what each of them returns. -/
def writeChunks (buf : Buffer) :
    List (List (BitVec 8)) -> Mmio (Buffer × List (DifResult × Buffer × Nat))
  | [] => return (buf, [])
  | chunk :: chunks => do
      let out <- difUsbdevBufferWrite .object .object .object buf chunk
      let rest <- writeChunks out.2.1 chunks
      return (rest.1, out :: rest.2)

/-- What a call returns that is to write `chunk` behind `before`. -/
structure Wrote (before chunk : List (BitVec 8)) (out : DifResult × Buffer × Nat) : Prop where
  result : out.1 = if chunk.length <= maxPacketSize - before.length then .kDifOk else .kDifError
  count : out.2.2 = min (maxPacketSize - before.length) chunk.length
  sum : out.2.1.offset.toNat + out.2.1.remainingBytes.toNat = maxPacketSize

theorem Wrote.of_take {before chunk : List (BitVec 8)} {out : DifResult × Buffer × Nat}
    (wrote : Wrote (before.take maxPacketSize) chunk out) : Wrote before chunk out := by
  have room : maxPacketSize - (before.take maxPacketSize).length =
      maxPacketSize - before.length := by
    rw [List.length_take]
    omega
  rcases wrote with ⟨result, count, sum⟩
  rw [room] at result count
  exact ⟨result, count, sum⟩

theorem Filled.sum {bytes : List (BitVec 8)} (filled : Filled buf bytes) :
    buf.offset.toNat + buf.remainingBytes.toNat = maxPacketSize := by
  rw [filled.offset, filled.remaining]
  exact Nat.add_sub_cancel' filled.short

/-- As much of a chunk as fits behind the bytes before it. -/
theorem take_append_chunk {before : List (BitVec 8)} (chunk : List (BitVec 8))
    (short : before.length <= maxPacketSize) :
    (before ++ chunk).take maxPacketSize =
      before ++ chunk.take (maxPacketSize - before.length) := by
  rw [List.take_append, List.take_of_length_le short]

theorem fits_take {before : List (BitVec 8)} (chunk : List (BitVec 8))
    (short : before.length <= maxPacketSize) :
    before.length + (chunk.take (maxPacketSize - before.length)).length <= maxPacketSize := by
  rw [List.length_take]
  omega

/-- Bytes that do not fit are written as far as they do, which the call reports. -/
theorem bufferWrite_returns {before : List (BitVec 8)} (chunk : List (BitVec 8))
    (filled : Filled buf before) :
    (difUsbdevBufferWrite .object .object .object buf chunk).Returns (fun out =>
      Wrote before chunk out ∧ out.2.1.id = buf.id ∧
        Filled out.2.1 ((before ++ chunk).take maxPacketSize)) := by
  have count : (chunk.take (maxPacketSize - before.length)).length =
      min (maxPacketSize - before.length) chunk.length := List.length_take
  have after := filled.written (fits_take chunk filled.short)
  have written : buf.written (chunk.take (maxPacketSize - before.length)) =
      { buf with
        offset := buf.offset + .ofNat 8 (min (maxPacketSize - before.length) chunk.length)
        remainingBytes := buf.remainingBytes -
          .ofNat 8 (min (maxPacketSize - before.length) chunk.length) } := by
    rw [<- count]
    rfl
  have remaining : (buf.remainingBytes -
      BitVec.ofNat 8 (min (maxPacketSize - before.length) chunk.length)).toNat =
        maxPacketSize - (before.length + min (maxPacketSize - before.length) chunk.length) := by
    rw [<- count, <- List.length_append]
    exact after.remaining
  -- The call fails exactly when the buffer is full and something has been left over.
  have full : buf.remainingBytes -
      BitVec.ofNat 8 (min (maxPacketSize - before.length) chunk.length) = 0 ∧
      min (maxPacketSize - before.length) chunk.length < chunk.length ↔
        ¬ chunk.length <= maxPacketSize - before.length := by
    rw [<- BitVec.toNat_inj, remaining]
    change _ = 0 ∧ _ ↔ _
    omega
  unfold difUsbdevBufferWrite
  rw [if_neg (by simp [filled.type]), filled.remaining, take_append_chunk chunk filled.short]
  refine (returns_true _).bind (fun _ _ => ?_)
  dsimp only
  rw [if_congr full rfl rfl]
  split
  · next tooLong =>
      rw [<- written]
      exact ⟨⟨(if_neg tooLong).symm, rfl, after.sum⟩, rfl, after⟩
  · next fits =>
      rw [<- written]
      exact ⟨⟨(if_pos (not_not.mp fits)).symm, rfl, after.sum⟩, rfl, after⟩

theorem bufferWrite_safe {before chunk : List (BitVec 8)} (filled : Filled buf before) :
    Triple device Hardware (Safe mine (update known buf.id.toNat before))
      (difUsbdevBufferWrite .object .object .object buf chunk)
      (fun _ => Safe mine (update known buf.id.toNat
        ((before ++ chunk).take maxPacketSize))) := by
  have copied : Triple device Hardware (Safe mine (update known buf.id.toNat before))
      (mmioRegionMemcpyToMmio32 (getBufferAddr buf.id buf.offset)
        (chunk.take (maxPacketSize - before.length)))
      (fun _ => Safe mine (update known buf.id.toNat
        (before ++ chunk.take (maxPacketSize - before.length)))) := by
    unfold getBufferAddr
    rw [filled.offset]
    exact memcpyToMmio32_safe (fits_take chunk filled.short)
  unfold difUsbdevBufferWrite
  rw [if_neg (by simp [filled.type]), filled.remaining, take_append_chunk chunk filled.short]
  dsimp only
  rw [<- List.take_eq_take_min]
  refine Triple.bind copied (fun _ => ?_)
  split <;> exact Triple.ret stable_safe (fun _ safe => safe)

/-- The call writes to its own buffer. -/
theorem harmless_bufferWrite {before : List (BitVec 8)} (chunk : List (BitVec 8))
    (filled : Filled buf before) (other : ¬ mine buf.id.toNat) :
    (difUsbdevBufferWrite .object .object .object buf chunk).Within (Harmless mine) := by
  unfold difUsbdevBufferWrite
  rw [if_neg (by simp [filled.type]), filled.remaining]
  dsimp only
  rw [<- List.take_eq_take_min]
  refine within_bind ?_ (fun _ => ?_)
  · unfold getBufferAddr
    rw [filled.offset]
    exact harmless_memcpyToMmio32 (fits_take chunk filled.short) other
  · split <;> trivial

/-- What each call of a run returns. -/
def WroteEach (before : List (BitVec 8)) (chunks : List (List (BitVec 8)))
    (outs : List (DifResult × Buffer × Nat)) : Prop :=
  outs.length = chunks.length ∧ forall i chunk out, chunks[i]? = some chunk ->
    outs[i]? = some out -> Wrote (before ++ (chunks.take i).flatten) chunk out

/-- A further call writes as if the bytes that did not fit were there. -/
theorem take_append_again (before chunk : List (BitVec 8)) :
    (before.take maxPacketSize ++ chunk).take maxPacketSize =
      (before ++ chunk).take maxPacketSize := by
  rw [List.take_append, List.take_append, List.take_take, Nat.min_self, List.length_take]
  congr 2
  omega

theorem writeChunks_returns {before : List (BitVec 8)} (chunks : List (List (BitVec 8)))
    (filled : Filled buf (before.take maxPacketSize)) :
    (writeChunks buf chunks).Returns (fun out => WroteEach before chunks out.2 ∧
      out.1.id = buf.id ∧ Filled out.1 ((before ++ chunks.flatten).take maxPacketSize)) := by
  -- The induction is on the chunks; what comes before may be more than has fitted.
  induction chunks generalizing buf before with
  | nil =>
      refine ⟨⟨rfl, nofun⟩, rfl, ?_⟩
      rwa [List.flatten_nil, List.append_nil]
  | cons chunk chunks ih =>
      refine (bufferWrite_returns chunk filled).bind ?_
      rintro out ⟨wrote, sameId, filled'⟩
      rw [take_append_again] at filled'
      refine (ih filled').bind ?_
      rintro rest ⟨each, sameId', full⟩
      rw [List.append_assoc, <- List.flatten_cons] at full
      refine ⟨⟨congrArg Nat.succ each.1, ?_⟩, sameId'.trans sameId, full⟩
      intro i chunk' out' here here'
      cases i with
      | zero =>
          cases here
          cases here'
          rw [List.take_zero, List.flatten_nil, List.append_nil]
          exact wrote.of_take
      | succ i =>
          have later := each.2 i chunk' out' here here'
          rwa [List.append_assoc, <- List.flatten_cons] at later

theorem writeChunks_safe {before : List (BitVec 8)} (chunks : List (List (BitVec 8)))
    (filled : Filled buf (before.take maxPacketSize)) :
    Triple device Hardware
      (Safe mine (update known buf.id.toNat (before.take maxPacketSize)))
      (writeChunks buf chunks)
      (fun _ => Safe mine (update known buf.id.toNat
        ((before ++ chunks.flatten).take maxPacketSize))) := by
  induction chunks generalizing buf before with
  | nil =>
      rw [List.flatten_nil, List.append_nil]
      exact Triple.ret stable_safe (fun _ safe => safe)
  | cons chunk chunks ih =>
      intro start finish out safe execution
      rcases exec_bind execution with ⟨middle, first, writing, execution⟩
      have safe' := bufferWrite_safe filled start middle first safe writing
      rcases (bufferWrite_returns chunk filled).of_exec writing with ⟨_, sameId, filled'⟩
      rw [take_append_again] at safe' filled'
      rw [<- sameId] at safe'
      rcases exec_bind execution with ⟨later, rest, further, returning⟩
      have safe'' := ih filled' middle later rest safe' further
      rw [List.append_assoc, <- List.flatten_cons, sameId] at safe''
      exact (Triple.returned stable_safe safe'' returning).2

theorem harmless_writeChunks {before : List (BitVec 8)} (chunks : List (List (BitVec 8)))
    (filled : Filled buf (before.take maxPacketSize)) (other : ¬ mine buf.id.toNat) :
    (writeChunks buf chunks).Within (Harmless mine) := by
  induction chunks generalizing buf before with
  | nil => trivial
  | cons chunk chunks ih =>
      apply (bufferWrite_returns chunk filled).within_bind (harmless_bufferWrite chunk filled other)
      rintro out ⟨_, sameId, filled'⟩
      rw [take_append_again] at filled'
      rw [<- sameId] at other
      exact within_bind (ih filled' other) (fun _ => trivial)

/-! ## Reading in pieces -/

/-- Successive calls of `dif_usbdev_buffer_read`, and what each of them returns. -/
def readChunks (pool : BufferPool) (buf : Buffer) :
    List (BitVec 32) -> Mmio (List (DifResult × BufferPool × Buffer × List (BitVec 8)))
  | [] => return []
  | dstLen :: lens => do
      let out <- difUsbdevBufferRead .object .object .object .object pool buf dstLen
      let rest <- readChunks out.2.1 out.2.2.1 lens
      return out :: rest

/-- A buffer that contains a packet of which `done` bytes have been read. -/
structure Unread (buf : Buffer) (packet : List (BitVec 8)) (done : Nat) : Prop where
  type : buf.type = .kDifUsbdevBufferTypeRead
  offset : buf.offset.toNat = done
  remaining : buf.remainingBytes.toNat = packet.length - done
  within : done <= packet.length
  short : packet.length <= maxPacketSize

/-- What a call returns that is to read `len` further bytes, where `pool'` is
the pool with the buffer. -/
structure ReadPart (pool pool' : BufferPool) (packet : List (BitVec 8)) (done len : Nat)
    (out : DifResult × BufferPool × Buffer × List (BitVec 8)) : Prop where
  result : out.1 = .kDifOk
  bytes : out.2.2.2 = (packet.drop done).take len
  sum : out.2.2.1.offset.toNat + out.2.2.1.remainingBytes.toNat = packet.length
  pool : out.2.1 = if done + len < packet.length then pool else pool'

/-- The buffer after a call. -/
def ReadTo (packet : List (BitVec 8)) (done : Nat) (buf : Buffer) : Prop :=
  if done < packet.length then Unread buf packet done else buf.type = .kDifUsbdevBufferTypeStale

theorem bufferRead_safe {pool' : BufferPool} {done : Nat} (dstLen : BitVec 32)
    (own : mine buf.id.toNat) (unread : Unread buf (known buf.id.toNat) done)
    (added : bufferPoolAdd pool buf.id = some pool') :
    Triple device Hardware (Safe mine known)
      (difUsbdevBufferRead .object .object .object .object pool buf dstLen)
      (fun out usbdev => ReadPart pool pool' (known buf.id.toNat) done dstLen.toNat out ∧
        out.2.2.1.id = buf.id ∧
        ReadTo (known buf.id.toNat) (done + dstLen.toNat) out.2.2.1 ∧ Safe mine known usbdev) := by
  generalize packet : known buf.id.toNat = bytes at unread ⊢
  rcases unread with ⟨type, offset, remaining, within, short⟩
  change bytes.length <= 64 at short
  generalize count : min (bytes.length - done) dstLen.toNat = len
  have copied : Triple device Hardware (Safe mine known)
      (mmioRegionMemcpyFromMmio32 (getBufferAddr buf.id buf.offset) len)
      (fun out usbdev => out = (bytes.drop done).take len ∧ Safe mine known usbdev) := by
    unfold getBufferAddr
    rw [offset, <- packet]
    exact memcpyFromMmio32_safe own (by rw [packet]; omega)
  have part : (bytes.drop done).take len = (bytes.drop done).take dstLen.toNat := by
    rw [List.take_eq_take_min (i := dstLen.toNat), List.length_drop, Nat.min_comm, count]
  have offset' : (buf.offset + BitVec.ofNat 8 len).toNat = done + len := by
    rw [BitVec.toNat_add, BitVec.toNat_ofNat, offset]
    omega
  have remaining' : (buf.remainingBytes - BitVec.ofNat 8 len).toNat =
      bytes.length - (done + len) := by
    rw [BitVec.toNat_sub, BitVec.toNat_ofNat, remaining]
    omega
  unfold difUsbdevBufferRead
  rw [if_neg (by simp [type]), remaining, count]
  refine Triple.bind copied (fun out => ?_)
  have stable : Stable Hardware (fun usbdev =>
      out = (bytes.drop done).take len ∧ Safe mine known usbdev) :=
    fun _ _ move both => ⟨both.1, stable_safe _ _ move both.2⟩
  have sum : (buf.offset + BitVec.ofNat 8 len).toNat +
      (buf.remainingBytes - BitVec.ofNat 8 len).toNat = bytes.length := by
    rw [offset', remaining']
    omega
  have moreLeft : 0 < buf.remainingBytes - BitVec.ofNat 8 len ↔
      done + dstLen.toNat < bytes.length := by
    rw [BitVec.lt_def, remaining']
    change 0 < _ ↔ _
    omega
  dsimp only
  by_cases more : done + dstLen.toNat < bytes.length
  · rw [if_pos (moreLeft.mpr more)]
    refine Triple.ret stable (fun usbdev both => ⟨⟨rfl, both.1.trans part, sum, ?_⟩, rfl, ?_,
      both.2⟩)
    · rw [if_pos more]
    · unfold ReadTo
      rw [if_pos more]
      exact ⟨type, by rw [offset']; omega, by rw [remaining']; omega, Nat.le_of_lt more, short⟩
  · rw [if_neg (fun left => more (moreLeft.mp left)), added]
    refine Triple.ret stable (fun usbdev both => ⟨⟨rfl, both.1.trans part, sum, ?_⟩, rfl, ?_,
      both.2⟩)
    · rw [if_neg more]
    · unfold ReadTo
      rw [if_neg more]

/-- The bytes asked for by some calls. -/
def asked (lens : List (BitVec 32)) : Nat := (lens.map BitVec.toNat).sum

theorem asked_cons (dstLen : BitVec 32) (lens : List (BitVec 32)) :
    asked (dstLen :: lens) = dstLen.toNat + asked lens := by
  simp [asked]

/-- What the calls of a run return, where `pool'` is the pool with the buffer:
the first call that leaves nothing to be read adds the buffer to the pool, and
the calls after it are refused. -/
structure ReadEach (pool pool' : BufferPool) (packet : List (BitVec 8)) (done : Nat)
    (lens : List (BitVec 32)) (outs : List (DifResult × BufferPool × Buffer × List (BitVec 8))) :
    Prop where
  length : outs.length = lens.length
  bytes : (outs.map (fun out => out.2.2.2)).flatten = (packet.drop done).take (asked lens)
  sum : forall out, out ∈ outs ->
    out.2.2.1.offset.toNat + out.2.2.1.remainingBytes.toNat = packet.length
  pool : forall i out, outs[i]? = some out ->
    out.2.1 = if done + asked (lens.take (i + 1)) < packet.length then pool else pool'
  result : forall i out, outs[i]? = some out ->
    out.1 = if i = 0 ∨ done + asked (lens.take i) < packet.length then .kDifOk else .kDifBadArg

/-- Calls for a buffer that has been returned are refused. -/
theorem readChunks_stale (stale : buf.type = .kDifUsbdevBufferTypeStale) (lens : List (BitVec 32)) :
    readChunks pool buf lens =
      .ret (lens.map (fun _ => (DifResult.kDifBadArg, pool, buf, []))) := by
  induction lens with
  | nil => rfl
  | cons dstLen lens ih =>
      have refused : difUsbdevBufferRead .object .object .object .object pool buf dstLen =
          .ret (.kDifBadArg, pool, buf, []) := by
        unfold difUsbdevBufferRead
        rw [if_pos (by simp [stale])]
        rfl
      unfold readChunks
      rw [refused, ret_bind, ih]
      rfl

section

variable {pool pool' : BufferPool} {packet : List (BitVec 8)} {done : Nat} {dstLen : BitVec 32}
  {lens : List (BitVec 32)} {out : DifResult × BufferPool × Buffer × List (BitVec 8)}
  {rest : List (DifResult × BufferPool × Buffer × List (BitVec 8))}

/-- Something is left after the first call. -/
theorem ReadEach.cons (part : ReadPart pool pool' packet done dstLen.toNat out)
    (more : done + dstLen.toNat < packet.length)
    (each : ReadEach pool pool' packet (done + dstLen.toNat) lens rest) :
    ReadEach pool pool' packet done (dstLen :: lens) (out :: rest) := by
  constructor
  · exact congrArg Nat.succ each.length
  · rw [List.map_cons, List.flatten_cons, part.bytes, each.bytes, asked_cons, <- List.drop_drop,
      <- List.take_add]
  · intro other inside
    rcases List.mem_cons.mp inside with rfl | later
    · exact part.sum
    · exact each.sum other later
  · intro i other here
    cases i with
    | zero =>
        cases here
        exact part.pool
    | succ i =>
        rw [each.pool i other here, List.take_succ_cons, asked_cons, <- Nat.add_assoc]
  · intro i other here
    cases i with
    | zero =>
        cases here
        rw [part.result, if_pos (Or.inl rfl)]
    | succ i =>
        have reached : (i + 1 = 0 ∨ done + asked ((dstLen :: lens).take (i + 1)) < packet.length) ↔
            (i = 0 ∨ done + dstLen.toNat + asked (lens.take i) < packet.length) := by
          rw [List.take_succ_cons, asked_cons, <- Nat.add_assoc]
          constructor
          · exact fun later => Or.inr (later.resolve_left (Nat.succ_ne_zero i))
          · rintro (first | later)
            · subst first
              exact Or.inr more
            · exact Or.inr later
        rw [each.result i other here, if_congr reached rfl rfl]

/-- The first call reads the last byte. -/
theorem ReadEach.returned (part : ReadPart pool pool' packet done dstLen.toNat out)
    (last : packet.length <= done + dstLen.toNat) :
    ReadEach pool pool' packet done (dstLen :: lens)
      (out :: lens.map (fun _ => (.kDifBadArg, pool', out.2.2.1, []))) := by
  have beyond (i : Nat) :
      ¬ done + asked ((dstLen :: lens).take (i + 1)) < packet.length := by
    rw [List.take_succ_cons, asked_cons]
    omega
  have given {i : Nat} {other : DifResult × BufferPool × Buffer × List (BitVec 8)}
      (here : (lens.map (fun _ => (DifResult.kDifBadArg, pool', out.2.2.1,
        ([] : List (BitVec 8)))))[i]? = some other) :
      other = (.kDifBadArg, pool', out.2.2.1, []) := by
    rw [List.getElem?_map, Option.map_eq_some_iff] at here
    rcases here with ⟨_, _, rfl⟩
    rfl
  constructor
  · rw [List.length_cons, List.length_map, List.length_cons]
  · have nothing : (lens.map (fun _ => ([] : List (BitVec 8)))).flatten = [] := by
      simp
    rw [List.map_cons, List.flatten_cons, part.bytes, List.map_map]
    change _ ++ (lens.map (fun _ => ([] : List (BitVec 8)))).flatten = _
    rw [nothing, List.append_nil, asked_cons, List.take_of_length_le, List.take_of_length_le]
    · rw [List.length_drop]
      omega
    · rw [List.length_drop]
      omega
  · intro other inside
    rcases List.mem_cons.mp inside with rfl | later
    · exact part.sum
    · rcases List.mem_map.mp later with ⟨_, _, rfl⟩
      exact part.sum
  · intro i other here
    rw [if_neg (beyond i)]
    cases i with
    | zero =>
        cases here
        rw [part.pool, if_neg (Nat.not_lt.mpr last)]
    | succ i => rw [given here]
  · intro i other here
    cases i with
    | zero =>
        cases here
        rw [part.result, if_pos (Or.inl rfl)]
    | succ i => rw [given here, if_neg (not_or.mpr ⟨Nat.succ_ne_zero i, beyond i⟩)]

end

theorem readChunks_safe {pool' : BufferPool} {done : Nat} (lens : List (BitVec 32))
    (own : mine buf.id.toNat) (unread : Unread buf (known buf.id.toNat) done)
    (added : bufferPoolAdd pool buf.id = some pool') :
    Triple device Hardware (Safe mine known) (readChunks pool buf lens)
      (fun outs usbdev => ReadEach pool pool' (known buf.id.toNat) done lens outs ∧
        Safe mine known usbdev) := by
  induction lens generalizing buf done with
  | nil =>
      refine Triple.ret stable_safe (fun _ safe => ⟨⟨rfl, ?_, nofun, nofun, nofun⟩, safe⟩)
      rfl
  | cons dstLen lens ih =>
      refine Triple.bind (bufferRead_safe dstLen own unread added) (fun out => ?_)
      rintro start finish outs ⟨part, sameId, readTo, safe⟩ execution
      rcases exec_bind execution with ⟨middle, rest, reading, returning⟩
      by_cases more : done + dstLen.toNat < (known buf.id.toNat).length
      · rw [ReadTo, if_pos more, <- sameId] at readTo
        rw [part.pool, if_pos more] at reading
        rw [<- sameId] at own added
        rcases ih own readTo added start middle rest safe reading with ⟨each, safe'⟩
        have returned := Triple.returned stable_safe safe' returning
        rw [sameId] at each
        rw [returned.1]
        exact ⟨each.cons part more, returned.2⟩
      · rw [ReadTo, if_neg more] at readTo
        rw [part.pool, if_neg more, readChunks_stale readTo] at reading
        have refused := Triple.returned stable_safe safe reading
        have returned := Triple.returned stable_safe refused.2 returning
        rw [returned.1, refused.1]
        exact ⟨.returned part (Nat.not_lt.mp more), returned.2⟩

end

/-! ## Receiving -/

/-- What `dif_usbdev_recv` reports of an entry of the RX FIFO. -/
def RxEntry.info (entry : RxEntry) : RxPacketInfo :=
  ⟨entry.ep.setWidth 8, entry.setup, entry.size.setWidth 8⟩

/-- The buffer that `dif_usbdev_recv` gives for an entry of the RX FIFO. -/
def RxEntry.received (entry : RxEntry) : Buffer :=
  ⟨entry.buffer.setWidth 8, 0, entry.size.setWidth 8, .kDifUsbdevBufferTypeRead⟩

/-- The packet of an entry of the RX FIFO. -/
def RxEntry.packet (entry : RxEntry) (usbdev : Controller) : List (BitVec 8) :=
  usbdev.packetBytes entry.buffer.toNat entry.size.toNat

theorem rxEntry_size (entry : RxEntry) :
    (bitfieldField32Read entry.toWord rxfifoSizeField).setWidth 8 = entry.size.setWidth 8 := by
  have small := entry.size.isLt
  apply BitVec.eq_of_toNat_eq
  unfold RxEntry.toWord bitfieldBit32Write
  rw [bitfieldField32Read_write_other (by decide), bitfieldField32Read_write_other (by decide),
    bitfieldField32Read_write_same (by decide), BitVec.toNat_setWidth,
    toNat_and_mask (show rxfifoSizeField.mask.toNat = 2 ^ 7 - 1 from rfl), BitVec.toNat_setWidth,
    BitVec.toNat_setWidth]
  omega

theorem rxEntry_ep (entry : RxEntry) :
    (bitfieldField32Read entry.toWord rxfifoEpField).setWidth 8 = entry.ep.setWidth 8 := by
  have small := entry.ep.isLt
  apply BitVec.eq_of_toNat_eq
  unfold RxEntry.toWord
  rw [bitfieldField32Read_write_same (by decide), BitVec.toNat_setWidth,
    toNat_and_mask (show rxfifoEpField.mask.toNat = 2 ^ 4 - 1 from rfl), BitVec.toNat_setWidth,
    BitVec.toNat_setWidth]
  omega

theorem rxEntry_setup (entry : RxEntry) :
    bitfieldBit32Read entry.toWord rxfifoSetupBit = entry.setup := by
  unfold RxEntry.toWord bitfieldBit32Read
  rw [bitfieldField32Read_write_other (by decide)]
  exact bitfieldBit32Read_write_same (by decide) _ _

section

variable {n : Nat} {away : Multiset Nat} {pool : BufferPool} {objects : Nat -> Buffer}
  {entry : RxEntry} {packet : List (BitVec 8)} {mine : Nat -> Prop}
  {known : Nat -> List (BitVec 8)}

theorem RxEntry.unread (size : packet.length = entry.size.toNat)
    (short : packet.length <= maxPacketSize) : Unread entry.received packet 0 := by
  have small := entry.size.isLt
  refine ⟨rfl, rfl, ?_, Nat.zero_le _, short⟩
  rw [size, RxEntry.received, BitVec.toNat_setWidth]
  omega

theorem RxEntry.received_id (entry : RxEntry) :
    entry.received.id.toNat = entry.buffer.toNat := by
  have small := entry.buffer.isLt
  rw [RxEntry.received, BitVec.toNat_setWidth]
  omega

/-- The entry is the next one to be received. -/
structure Next (n : Nat) (away : Multiset Nat) (pool : BufferPool) (objects : Nat -> Buffer)
    (entry : RxEntry) (mine : Nat -> Prop) (known : Nat -> List (BitVec 8)) (usbdev : Controller) :
    Prop where
  account : Invariant n away ⟨usbdev, pool, objects⟩
  head : usbdev.rxFifo.head? = some entry
  safe : Safe mine known usbdev

theorem Next.hardware {usbdev usbdev' : Controller}
    (next : Next n away pool objects entry mine known usbdev) (move : Hardware usbdev usbdev') :
    Next n away pool objects entry mine known usbdev' := by
  refine ⟨next.account.hardware move, ?_, stable_safe _ _ move next.safe⟩
  have head := next.head
  cases move with
  | receiveSetup | receiveOut =>
      dsimp only
      rw [List.head?_append, head]
      rfl
  | attempt | acknowledge | link => exact head

theorem stable_next : Stable Hardware (Next n away pool objects entry mine known) :=
  fun _ _ move next => next.hardware move

/-- Receive the next packet. -/
theorem recv_next :
    Triple device Hardware (Next n away pool objects entry mine known)
      (difUsbdevRecv .object .object .object)
      (fun out usbdev => out = (.kDifOk, some (entry.info, entry.received)) ∧
        Invariant n (away + {entry.received.id.toNat}) ⟨usbdev, pool, objects⟩ ∧
        Safe mine known usbdev) := by
  unfold difUsbdevRecv
  rw [if_neg (by simp)]
  -- The FIFO is not empty, and stays so.
  refine Triple.read32 (fun status usbdev => bitfieldBit32Read status usbstatRxEmptyBit = false ∧
    Next n away pool objects entry mine known usbdev) stable_next ?_ (fun status => ?_)
  · intro usbdev next
    rw [read32_of_ne usbdev (by decide)]
    refine ⟨?_, next⟩
    change bitfieldBit32Read usbdev.usbstat usbstatRxEmptyBit = false
    rw [usbstat_rxEmpty]
    have head := next.head
    cases fifo : usbdev.rxFifo with
    | nil =>
        rw [fifo] at head
        cases head
    | cons first rest => rfl
  rintro start finish out ⟨notEmpty, next⟩ execution
  simp only [bind_ret] at execution
  rw [notEmpty] at execution
  have taken : Triple device Hardware (Next n away pool objects entry mine known)
      (mmioRegionRead32 rxfifoRegOffset) (fun word usbdev => word = entry.toWord ∧
        Invariant n (away + {entry.received.id.toNat}) ⟨usbdev, pool, objects⟩ ∧
        Safe mine known usbdev) := by
    refine Triple.read32 (fun word usbdev => word = entry.toWord ∧
      Invariant n (away + {entry.received.id.toNat}) ⟨usbdev, pool, objects⟩ ∧
      Safe mine known usbdev) stable_next ?_
      (fun word => Triple.ret ?_ (fun _ taken => taken))
    · intro usbdev next
      have harmless : Harmless mine (.read32 rxfifoRegOffset) :=
        trivial
      have word : (device.read32 rxfifoRegOffset usbdev).1 = entry.toWord := by
        change ((usbdev.rxFifo.head?.map RxEntry.toWord).getD 0) = _
        rw [next.head]
        rfl
      have nonempty : usbdev.rxFifo ≠ [] := by
        intro empty
        have head := next.head
        rw [empty] at head
        cases head
      have account := next.account.readRxFifo nonempty
      rw [word, rxEntry_buffer, <- entry.received_id] at account
      exact ⟨word, account, next.safe.after harmless⟩
    · exact fun _ _ move taken =>
        ⟨taken.1, taken.2.1.hardware move, stable_safe _ _ move taken.2.2⟩
  rcases exec_bind (m := mmioRegionRead32 rxfifoRegOffset) execution with
    ⟨middle, word, reading, returning⟩
  rcases taken start middle word next reading with ⟨isEntry, account, safe⟩
  subst isEntry
  have stable : Stable Hardware (fun usbdev =>
      Invariant n (away + {entry.received.id.toNat}) ⟨usbdev, pool, objects⟩ ∧
        Safe mine known usbdev) :=
    fun _ _ move both => ⟨both.1.hardware move, stable_safe _ _ move both.2⟩
  have returned := Triple.returned stable ⟨account, safe⟩ returning
  refine ⟨returned.1.trans ?_, returned.2⟩
  have buffer : (bitfieldField32Read entry.toWord rxfifoBufferField).setWidth 8 =
      entry.buffer.setWidth 8 :=
    BitVec.eq_of_toNat_eq ((rxEntry_buffer entry).trans entry.received_id.symm)
  rw [rxEntry_size, rxEntry_ep, rxEntry_setup, buffer]
  rfl

variable {slots : Nat -> Slot}

/-- What a caller knows, while it receives a packet. -/
theorem Tracked.next {usbdev : Controller}
    (tracked : Tracked n away slots known ⟨usbdev, pool, objects⟩)
    (head : usbdev.rxFifo.head? = some entry)
    (begins : usbdev.BeginsWith entry.buffer.toNat packet) :
    Next n away pool objects entry
      (fun id => Mine away slots id ∨ id = entry.buffer.toNat)
      (update known entry.buffer.toNat packet) usbdev := by
  have here : entry.buffer.toNat ∈ (System.mk usbdev pool objects).held .received := by
    have inside : entry ∈ usbdev.rxFifo := List.mem_of_mem_head? head
    exact Multiset.mem_coe.mpr (List.mem_map_of_mem (f := fun entry => entry.buffer.toNat) inside)
  have apart {place : Place} (inside : place ∈ places n) (other : place ≠ .received) :
      entry.buffer.toNat ∉ (System.mk usbdev pool objects).held place :=
    tracked.account.accounted.not_held_of_held (Multiset.nodup_range _) (mem_places_received n)
      inside other here
  have others : ¬ Mine away slots entry.buffer.toNat :=
    fun isMine => tracked.not_held (mem_places_received n) (fun _ => nofun) isMine here
  refine ⟨tracked.account, head, ?_, ?_⟩
  · rintro buffer inside (isMine | same)
    · exact tracked.safe.unavailable buffer inside isMine
    · rcases inside with inside | inside
      · apply apart (mem_places_availableSetup n) nofun
        exact same ▸ Multiset.mem_coe.mpr (List.mem_map_of_mem inside)
      · apply apart (mem_places_availableOut n) nofun
        exact same ▸ Multiset.mem_coe.mpr (List.mem_map_of_mem inside)
  · intro id isMine
    by_cases same : id = entry.buffer.toNat
    · rw [same, update_self]
      exact begins
    · rw [update_of_ne same]
      exact tracked.contents id (isMine.resolve_right same)

/-- A packet waits to be received: its entry, and its bytes. -/
structure Waiting (n : Nat) (away : Multiset Nat) (slots : Nat -> Slot)
    (known : Nat -> List (BitVec 8)) (pool : BufferPool) (objects : Nat -> Buffer) (entry : RxEntry)
    (packet : List (BitVec 8)) (usbdev : Controller) : Prop where
  tracked : Tracked n away slots known ⟨usbdev, pool, objects⟩
  head : usbdev.rxFifo.head? = some entry
  begins : usbdev.BeginsWith entry.buffer.toNat packet

theorem stable_waiting :
    Stable Hardware (Waiting n away slots known pool objects entry packet) := by
  rintro usbdev usbdev' move ⟨tracked, head, begins⟩
  have next := (tracked.next head begins).hardware move
  refine ⟨tracked.hardware move, next.head, ?_⟩
  have contents := next.safe.contents entry.buffer.toNat (Or.inr rfl)
  rwa [update_self] at contents

/-- A packet that waits is seen in the status. -/
theorem rxFifoEmpty_waiting :
    Triple device Hardware (Waiting n away slots known pool objects entry packet)
      (difUsbdevStatusGetRxFifoEmpty .object .object)
      (fun out usbdev => out = (.kDifOk, false) ∧
        Waiting n away slots known pool objects entry packet usbdev) := by
  refine Triple.read32 (fun word usbdev => bitfieldBit32Read word usbstatRxEmptyBit = false ∧
    Waiting n away slots known pool objects entry packet usbdev) stable_waiting ?_
    (fun word => Triple.ret ?_ ?_)
  · intro usbdev waiting
    rw [read32_of_ne usbdev (by decide)]
    refine ⟨?_, waiting⟩
    change bitfieldBit32Read usbdev.usbstat usbstatRxEmptyBit = false
    rw [usbstat_rxEmpty]
    have head := waiting.head
    cases fifo : usbdev.rxFifo with
    | nil =>
        rw [fifo] at head
        cases head
    | cons first rest => rfl
  · exact fun _ _ move both => ⟨both.1, stable_waiting _ _ move both.2⟩
  · rintro usbdev ⟨notEmpty, waiting⟩
    rw [notEmpty]
    exact ⟨rfl, waiting⟩

/-- A packet that is received is in hand. -/
theorem recv_tracked :
    Triple device Hardware
      (fun usbdev => Tracked n away slots known ⟨usbdev, pool, objects⟩ ∧
        usbdev.rxFifo.head? = some entry ∧ usbdev.BeginsWith entry.buffer.toNat packet)
      (difUsbdevRecv .object .object .object)
      (fun out usbdev => out = (.kDifOk, some (entry.info, entry.received)) ∧
        Tracked n (away + {entry.received.id.toNat}) slots
          (update known entry.received.id.toNat packet) ⟨usbdev, pool, objects⟩) := by
  rintro start finish out ⟨tracked, head, begins⟩ execution
  rcases recv_next start finish out (tracked.next head begins) execution with
    ⟨returned, account, safe⟩
  have endpoints := described_of_within (within_recv _ _ _) start finish out tracked.endpoints
    execution
  refine ⟨returned, account, endpoints, fun id isMine => ?_, tracked.fits⟩
  rw [entry.received_id] at isMine ⊢
  apply safe.contents
  rcases isMine with inHand | holds
  · rcases Multiset.mem_add.mp inHand with before | here
    · exact Or.inl (Or.inl before)
    · exact Or.inr (Multiset.mem_singleton.mp here)
  · exact Or.inl (Or.inr holds)

/-- Bytes of a packet in hand are read; with the last of them it is returned. -/
theorem bufferRead_tracked {buf : Buffer} {done : Nat} (dstLen : BitVec 32)
    (unread : Unread buf (known buf.id.toNat) done) :
    Triple device Hardware
      (fun usbdev => Tracked n (away + {buf.id.toNat}) slots known ⟨usbdev, pool, objects⟩)
      (difUsbdevBufferRead .object .object .object .object pool buf dstLen)
      (fun out usbdev => Exists fun pool' => bufferPoolAdd pool buf.id = some pool' ∧
        ReadPart pool pool' (known buf.id.toNat) done dstLen.toNat out ∧
        out.2.2.1.id = buf.id ∧
        ReadTo (known buf.id.toNat) (done + dstLen.toNat) out.2.2.1 ∧
        Tracked n (if done + dstLen.toNat < (known buf.id.toNat).length then
          away + {buf.id.toNat} else away) slots known ⟨usbdev, out.2.1, objects⟩) := by
  intro start finish out tracked execution
  rcases tracked.account.addable with ⟨pool', added⟩
  have own : Mine (away + {buf.id.toNat}) slots buf.id.toNat :=
    Or.inl (Multiset.mem_add.mpr (Or.inr (Multiset.mem_singleton_self _)))
  rcases bufferRead_safe dstLen own unread added start finish out tracked.safe execution with
    ⟨part, sameId, readTo, safe⟩
  have memory := memory_bufferRead .object .object .object .object pool buf dstLen
  have endpoints := described_of_within (within_memory memory) start finish out
    tracked.endpoints execution
  have account : Invariant n (away + {buf.id.toNat}) ⟨finish, pool, objects⟩ :=
    Triple.invariant stable_invariant (fun access usbdev => invariant_memory) memory start finish
      out tracked.account execution
  refine ⟨pool', added, part, sameId, readTo, ?_⟩
  rw [part.pool]
  by_cases more : done + dstLen.toNat < (known buf.id.toNat).length
  · rw [if_pos more, if_pos more]
    exact ⟨account, endpoints, safe.contents, tracked.fits⟩
  · rw [if_neg more, if_neg more]
    refine ⟨account.add added, endpoints, fun id isMine => safe.contents id ?_, tracked.fits⟩
    rcases isMine with inHand | holds
    · exact Or.inl (Multiset.mem_add.mpr (Or.inl inHand))
    · exact Or.inr holds

theorem length_packetBytes (usbdev : Controller) (id size : Nat) :
    (usbdev.packetBytes id size).length = size := by
  simp [Controller.packetBytes]

theorem beginsWith_packetBytes (usbdev : Controller) (id : Nat) {size : Nat}
    (short : size <= maxPacketSize) : usbdev.BeginsWith id (usbdev.packetBytes id size) := by
  refine ⟨by rw [length_packetBytes]; exact short, fun i inside => ?_⟩
  rw [length_packetBytes] at inside
  rw [Controller.packetBytes, List.getElem?_map, List.getElem?_range inside]
  rfl

end

/-! ## One copy -/

/-- Write a packet in pieces and send it. -/
def writeAndSend (endpoint : BitVec 8) (buf : Buffer) (chunks : List (List (BitVec 8))) :
    Mmio (List (DifResult × Buffer × Nat) × DifResult) := do
  let written <- writeChunks buf chunks
  let sent <- difUsbdevSend .object endpoint .object written.1
  return (written.2, sent.1)

/-- Receive a packet and read it in pieces. -/
def recvChunks (pool : BufferPool) (lens : List (BitVec 32)) :
    Mmio (Option RxPacketInfo × List (DifResult × BufferPool × Buffer × List (BitVec 8))) := do
  let received <- difUsbdevRecv .object .object .object
  match received.2 with
  | none => return (none, [])
  | some (info, buf) => do
      let outs <- readChunks pool buf lens
      return (some info, outs)

/-- The controller receives nothing into the buffer. -/
def Controller.Unavailable (usbdev : Controller) (id : Nat) : Prop :=
  forall buffer, buffer ∈ usbdev.avSetup ∨ buffer ∈ usbdev.avOut -> buffer.toNat ≠ id

/-- No access writes to another packet buffer. -/
def WritesOnly {α : Type} (id : Nat) (program : Mmio α) : Prop :=
  program.Within (Harmless (fun other => other ≠ id))

/-- The pieces have been written to their buffer like one packet, as far as
they fit, and to no other, and the packet is on offer. -/
structure WrittenWhole (start finish : Controller) (endpoint id : Nat)
    (chunks : List (List (BitVec 8))) (out : List (DifResult × Buffer × Nat) × DifResult) :
    Prop where
  each : WroteEach [] chunks out.1
  bytes : finish.packetBytes id (chunks.flatten.take maxPacketSize).length =
    chunks.flatten.take maxPacketSize
  others : forall other, other ≠ id -> start.Unavailable other ->
    forall i, i < maxPacketSize -> finish.byteAt other i = start.byteAt other i
  sent : out.2 = .kDifOk
  size : (finish.configIn endpoint).size.toNat = (chunks.flatten.take maxPacketSize).length
  buffer : (finish.configIn endpoint).buffer.toNat = id

/-- The pieces that have been read make up the packet, and its buffer has been
returned to the pool by the call that read the last byte. -/
structure ReadWhole (start : Controller) (pool : BufferPool) (entry : RxEntry)
    (lens : List (BitVec 32))
    (out : Option RxPacketInfo × List (DifResult × BufferPool × Buffer × List (BitVec 8))) :
    Prop where
  info : out.1 = some entry.info
  each : Exists fun pool' => bufferPoolAdd pool entry.received.id = some pool' ∧
    ReadEach pool pool' (entry.packet start) 0 lens out.2

section

variable {n : Nat} {usbdev finish : Controller} {pool pool' : BufferPool}
  {objects : Nat -> Buffer} {buf : Buffer} {endpoint : BitVec 8}

theorem send_returns (valid : isValidEndpoint endpoint = true)
    (type : buf.type = .kDifUsbdevBufferTypeWrite) :
    (difUsbdevSend .object endpoint .object buf).Returns (fun out => out.1 = .kDifOk) := by
  unfold difUsbdevSend
  rw [if_neg (by simp [valid, type])]
  exact rfl

theorem harmless_send {mine : Nat -> Prop} (usbdev buffer : Pointer) (buf : Buffer) :
    (difUsbdevSend usbdev endpoint buffer buf).Within (Harmless mine) :=
  send_within (fun inside _ => harmless_configIn inside _) _ _ _

theorem writesOnly_writeAndSend (chunks : List (List (BitVec 8))) (filled : Filled buf []) :
    WritesOnly buf.id.toNat (writeAndSend endpoint buf chunks) := by
  have empty : Filled buf (([] : List (BitVec 8)).take maxPacketSize) := filled
  have harmless : (writeChunks buf chunks).Within
      (Harmless (fun other => other ≠ buf.id.toNat)) :=
    harmless_writeChunks chunks empty (not_not.mpr rfl)
  exact within_bind harmless
    (fun _ => within_bind (harmless_send _ _ _) (fun _ => trivial))

theorem written_whole {chunks : List (List (BitVec 8))}
    {out : List (DifResult × Buffer × Nat) × DifResult}
    (account : Invariant n {buf.id.toNat} ⟨usbdev, pool, objects⟩) (filled : Filled buf [])
    (valid : isValidEndpoint endpoint = true)
    (execution : Exec device Hardware usbdev (writeAndSend endpoint buf chunks) finish out) :
    WrittenWhole usbdev finish endpoint.toNat buf.id.toNat chunks out := by
  have below : endpoint.toNat < 12 := of_decide_eq_true valid
  have here : buf.id.toNat ∈ ({buf.id.toNat} : Multiset Nat) := Multiset.mem_singleton_self _
  have own : usbdev.Unavailable buf.id.toNat := by
    rintro buffer (inside | inside) same
    · apply account.accounted.not_held_of_inHand (Multiset.nodup_range _)
        (mem_places_availableSetup n) here
      exact same ▸ Multiset.mem_coe.mpr (List.mem_map_of_mem inside)
    · apply account.accounted.not_held_of_inHand (Multiset.nodup_range _)
        (mem_places_availableOut n) here
      exact same ▸ Multiset.mem_coe.mpr (List.mem_map_of_mem inside)
  -- What all the buffers contain that nothing is received into.
  have safe : Safe usbdev.Unavailable
      (update (fun id => usbdev.packetBytes id maxPacketSize) buf.id.toNat
        (([] : List (BitVec 8)).take maxPacketSize)) usbdev := by
    refine ⟨fun buffer inside unavailable => unavailable buffer inside rfl, fun id _ => ?_⟩
    by_cases same : id = buf.id.toNat
    · rw [same, update_self]
      exact beginsWith_nil
    · rw [update_of_ne same]
      exact beginsWith_packetBytes _ _ (Nat.le_refl _)
  have empty : Filled buf (([] : List (BitVec 8)).take maxPacketSize) := filled
  rcases exec_bind execution with ⟨middle, written, writing, execution⟩
  rcases (writeChunks_returns chunks empty).of_exec writing with ⟨each, sameId, full⟩
  have safe' := writeChunks_safe chunks empty usbdev middle written safe writing
  rw [List.nil_append] at full safe'
  rcases exec_bind execution with ⟨later, sent, sending, returning⟩
  have accepted : ¬ (Pointer.object = .null ∨ !isValidEndpoint endpoint ∨ Pointer.object = .null ∨
      written.1.type ≠ .kDifUsbdevBufferTypeWrite) := by
    simp [valid, full.type]
  have small : written.1.offset.toNat < 128 := by
    rw [full.offset]
    exact Nat.lt_of_le_of_lt full.short (by decide)
  have below32 : written.1.id.toNat < 32 := by
    rw [sameId]
    rw [<- zero_add ({buf.id.toNat} : Multiset Nat)] at account
    exact account.valid
  have safe'' := safe_of_within (harmless_send _ _ _) middle later sent safe' sending
  have nowhere : Described (fun _ => Slot.untracked) middle := fun _ => trivial
  have described := send_described accepted below32 small middle later sent nowhere sending
  have stable : Stable Hardware (fun usbdev' => Safe usbdev.Unavailable (update
      (fun id => usbdev.packetBytes id maxPacketSize) buf.id.toNat
        (chunks.flatten.take maxPacketSize)) usbdev' ∧
      Described (update (fun _ => Slot.untracked) endpoint.toNat
        (.holds written.1.id.toNat written.1.offset.toNat)) usbdev') :=
    fun _ _ move both => ⟨stable_safe _ _ move both.1, both.2.hardware move⟩
  rcases Triple.returned stable ⟨safe'', described⟩ returning with ⟨rfl, safeEnd, describedEnd⟩
  have slot := describedEnd endpoint.toNat
  rw [update_self] at slot
  have contents := safeEnd.contents buf.id.toNat own
  rw [update_self] at contents
  refine ⟨each, contents.packetBytes, ?_, (send_returns valid full.type).of_exec sending, ?_, ?_⟩
  · intro other apart unavailable i inside
    have kept := safeEnd.contents other unavailable
    rw [update_of_ne apart] at kept
    have byte := kept.2 i (by rwa [length_packetBytes])
    rw [Controller.packetBytes, List.getElem?_map, List.getElem?_range inside] at byte
    exact (Option.some.inj byte).symm
  · exact slot.2.2.trans full.offset
  · rw [slot.2.1, sameId]

theorem read_whole {entry : RxEntry} {lens : List (BitVec 32)}
    {out : Option RxPacketInfo × List (DifResult × BufferPool × Buffer × List (BitVec 8))}
    {slots : Nat -> Slot} {known : Nat -> List (BitVec 8)}
    (tracked : Tracked n 0 slots known ⟨usbdev, pool, objects⟩)
    (head : usbdev.rxFifo.head? = some entry) (short : entry.size.toNat <= maxPacketSize)
    (execution : Exec device Hardware usbdev (recvChunks pool lens) finish out) :
    ReadWhole usbdev pool entry lens out := by
  rcases exec_bind execution with ⟨middle, received, receiving, execution⟩
  have begins : usbdev.BeginsWith entry.buffer.toNat (entry.packet usbdev) :=
    beginsWith_packetBytes _ _ short
  rcases recv_next usbdev middle received (tracked.next head begins) receiving with
    ⟨rfl, account, safe⟩
  rcases account.addable with ⟨pool', added⟩
  dsimp only at execution
  rcases exec_bind execution with ⟨later, outs, reading, returning⟩
  have unread : Unread entry.received (entry.packet usbdev) 0 := by
    apply RxEntry.unread
    · exact length_packetBytes _ _ _
    · rwa [RxEntry.packet, length_packetBytes]
  have contains : update known entry.buffer.toNat (entry.packet usbdev)
      entry.received.id.toNat = entry.packet usbdev := by
    rw [entry.received_id, update_self]
  have own : Mine 0 slots entry.received.id.toNat ∨
      entry.received.id.toNat = entry.buffer.toNat := Or.inr entry.received_id
  have each := (readChunks_safe lens own (contains.symm ▸ unread) added middle later outs safe
    reading).1
  rw [contains] at each
  rw [(exec_ret returning).1]
  exact ⟨rfl, pool', added, each⟩

/-- Whatever the pieces are, from any state of any run. -/
theorem chunks_one_copy (reachable : Reachable n ⟨usbdev, pool, objects⟩) :
    (forall pool' buf endpoint chunks finish out,
      difUsbdevBufferRequest .object .object .object pool = (.kDifOk, pool', some buf) ->
      isValidEndpoint endpoint = true ->
      Exec device Hardware usbdev (writeAndSend endpoint buf chunks) finish out ->
      WrittenWhole usbdev finish endpoint.toNat buf.id.toNat chunks out ∧
        WritesOnly buf.id.toNat (writeAndSend endpoint buf chunks)) ∧
    (forall entry lens finish out, usbdev.rxFifo.head? = some entry ->
      entry.size.toNat <= maxPacketSize ->
      Exec device Hardware usbdev (recvChunks pool lens) finish out ->
      ReadWhole usbdev pool entry lens out) := by
  constructor
  · intro pool' buf endpoint chunks finish out requested valid execution
    rcases bufferRequest_cases reachable.invariant with unavailable | ⟨id, pool'', taken, account⟩
    · rw [unavailable] at requested
      cases requested
    · rw [taken] at requested
      cases requested
      rw [zero_add] at account
      exact ⟨written_whole account (filled_nil id) valid execution,
        writesOnly_writeAndSend chunks (filled_nil id)⟩
  · intro entry lens finish out head short execution
    have tracked : Tracked n 0 (fun _ => .untracked) (fun _ => []) ⟨usbdev, pool, objects⟩ :=
      reachable.tracked (fun _ => trivial) (fun _ _ _ => nofun)
    exact read_whole tracked head short execution

set_option maxRecDepth 8000 in
/-- Six bytes received and read in three pieces, five written in two. -/
theorem chunks_one_copy_received : Exists fun usbdev => Exists fun pool =>
    Reachable 1 ⟨usbdev, pool, configuredSystem.objects⟩ ∧
    (Exists fun buf => Exists fun finish => Exists fun out =>
      WrittenWhole usbdev finish 1 buf.id.toNat [[0x11], [0x22, 0x33, 0x44, 0x55]] out ∧
      WritesOnly buf.id.toNat (writeAndSend 1 buf [[0x11], [0x22, 0x33, 0x44, 0x55]])) ∧
    Exists fun entry => Exists fun out => ReadWhole usbdev pool entry [1, 2, 3] out := by
  have ran : Exists fun usbdev => Exists fun pool => Exists fun buffer => Exists fun rest =>
      Exists fun pool' => Exists fun buf => Exists fun finish => Exists fun out =>
      Exists fun finish' => Exists fun out' =>
      (Call.perform (.fillAvailableFifos .object .object) configuredSystem.pool
        configuredSystem.objects).run device configuredSystem.controller =
          some ((.kDifOk, pool, configuredSystem.objects), usbdev) ∧
      usbdev.avOut = buffer :: rest ∧ usbdev.rxFifo = [] ∧
      difUsbdevBufferRequest .object .object .object pool = (.kDifOk, pool', some buf) ∧
      (writeAndSend 1 buf [[0x11], [0x22, 0x33, 0x44, 0x55]]).run device
        (receivedOut usbdev buffer rest) = some (out, finish) ∧
      (recvChunks pool [1, 2, 3]).run device (receivedOut usbdev buffer rest) =
        some (out', finish') :=
    ⟨_, _, _, _, _, _, _, _, _, _, rfl, rfl, rfl, rfl, rfl, rfl⟩
  rcases ran with ⟨usbdev, pool, buffer, rest, pool', buf, finish, out, finish', out', filled,
    available, empty, requested, written, read⟩
  have reachable := reachable_receivedOut filled available empty
  have copies := chunks_one_copy reachable
  have head : (receivedOut usbdev buffer rest).rxFifo.head? = some ⟨1, false, 6, buffer⟩ := by
    unfold receivedOut
    rw [empty]
    rfl
  have short : (6 : BitVec 7).toNat <= maxPacketSize := by decide
  exact ⟨_, pool, reachable,
    ⟨buf, finish, out, copies.1 pool' buf 1 _ finish out requested rfl (exec_of_run written)⟩,
    ⟨1, false, 6, buffer⟩, out', copies.2 _ _ finish' out' head short (exec_of_run read)⟩

end

end Usbdev
end SunburstChip
