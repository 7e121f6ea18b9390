import SunburstChip.Base.MemcpyRegion
import SunburstChip.Base.Memory
import SunburstChip.Dif.Usbdev

namespace SunburstChip
namespace Usbdev

open Mmio

/-!
# Raw copies of packets

`dif_usbdev_buffer_raw_write` and `dif_usbdev_buffer_raw_read` copy a packet
between an aligned buffer in main memory and the start of a packet buffer.
They go by blocks of four words, by words and by the bytes that are left, and
leave the same bytes as the copying functions for any region.

A pointer into main memory is an address, and 0 is `NULL`.
-/

/-! ## The functions -/

/-- The word that a pointer points at. -/
def wordAt (memory : Memory) (ptr : Nat) : BitVec 32 := setWordBytes 0 0 (memory.load ptr 4)

/-- An assignment to the word that a pointer points at. -/
def setWordAt (memory : Memory) (ptr : Nat) (word : BitVec 32) : Memory :=
  memory.store ptr ((List.range 4).map (wordByte word))

/-- The loop over blocks of four words of `dif_usbdev_buffer_raw_write`, with the number
of its rounds: where it leaves `ws` and `buffer_offset`. -/
def rawWriteBlocks (memory : Memory) : Nat -> Nat -> Nat -> Mmio (Nat × Nat)
  | 0, ws, bufferOffset => return (ws, bufferOffset)
  | rounds + 1, ws, bufferOffset => do
      mmioRegionWrite32 bufferOffset (wordAt memory ws)
      mmioRegionWrite32 (bufferOffset + 4) (wordAt memory (ws + 4))
      mmioRegionWrite32 (bufferOffset + 8) (wordAt memory (ws + 8))
      mmioRegionWrite32 (bufferOffset + 12) (wordAt memory (ws + 12))
      rawWriteBlocks memory rounds (ws + 16) (bufferOffset + 16)

/-- Its loop over words. -/
def rawWriteWords (memory : Memory) : Nat -> Nat -> Nat -> Mmio (Nat × Nat)
  | 0, ws, bufferOffset => return (ws, bufferOffset)
  | rounds + 1, ws, bufferOffset => do
      mmioRegionWrite32 bufferOffset (wordAt memory ws)
      rawWriteWords memory rounds (ws + 4) (bufferOffset + 4)

/-- The word that it makes of the bytes that are left. -/
def rawTail (memory : Memory) (bs srcLen : Nat) : BitVec 32 :=
  let d := (memory bs).setWidth 32
  if 1 < srcLen then
    let d := d ||| (memory (bs + 1)).setWidth 32 <<< 8
    if 2 < srcLen then d ||| (memory (bs + 2)).setWidth 32 <<< 16 else d
  else d

/-- `dif_usbdev_buffer_raw_write` -/
def difUsbdevBufferRawWrite (usbdev : Pointer) (id : BitVec 8) (memory : Memory)
    (src srcLen : Nat) : Mmio DifResult := do
  if usbdev = .null ∨ src = 0 ∨ Base.misalignment32Of src ≠ 0 ∨ maxPacketSize < srcLen then
    return .kDifBadArg
  let (ws, bufferOffset) <- rawWriteBlocks memory (srcLen / 16) src (getBufferAddr id 0)
  let srcLen := srcLen % 16
  if srcLen ≠ 0 then
    let (ws, bufferOffset) <- rawWriteWords memory (srcLen / 4) ws bufferOffset
    let srcLen := srcLen % 4
    if srcLen ≠ 0 then
      mmioRegionWrite32 bufferOffset (rawTail memory ws srcLen)
  return .kDifOk

/-- The loop over blocks of four words of `dif_usbdev_buffer_raw_read`. -/
def rawReadBlocks : Nat -> Nat -> Nat -> Memory -> Mmio (Nat × Nat × Memory)
  | 0, wd, bufferOffset, memory => return (wd, bufferOffset, memory)
  | rounds + 1, wd, bufferOffset, memory => do
      let memory := setWordAt memory wd (<- mmioRegionRead32 bufferOffset)
      let memory := setWordAt memory (wd + 4) (<- mmioRegionRead32 (bufferOffset + 4))
      let memory := setWordAt memory (wd + 8) (<- mmioRegionRead32 (bufferOffset + 8))
      let memory := setWordAt memory (wd + 12) (<- mmioRegionRead32 (bufferOffset + 12))
      rawReadBlocks rounds (wd + 16) (bufferOffset + 16) memory

/-- Its loop over words. -/
def rawReadWords : Nat -> Nat -> Nat -> Memory -> Mmio (Nat × Nat × Memory)
  | 0, wd, bufferOffset, memory => return (wd, bufferOffset, memory)
  | rounds + 1, wd, bufferOffset, memory => do
      let memory := setWordAt memory wd (<- mmioRegionRead32 bufferOffset)
      rawReadWords rounds (wd + 4) (bufferOffset + 4) memory

/-- The bytes that are left, taken from a word. -/
def setRawTail (memory : Memory) (bd dstLen : Nat) (d : BitVec 32) : Memory :=
  let memory := memory.store bd [d.setWidth 8]
  if 1 < dstLen then
    let memory := memory.store (bd + 1) [(d >>> 8).setWidth 8]
    if 2 < dstLen then memory.store (bd + 2) [(d >>> 16).setWidth 8] else memory
  else memory

/-- `dif_usbdev_buffer_raw_read`, with main memory as it leaves it. -/
def difUsbdevBufferRawRead (usbdev : Pointer) (id : BitVec 8) (memory : Memory)
    (dst dstLen : Nat) : Mmio (DifResult × Memory) := do
  if usbdev = .null ∨ dst = 0 ∨ Base.misalignment32Of dst ≠ 0 ∨ maxPacketSize < dstLen then
    return (.kDifBadArg, memory)
  let (wd, bufferOffset, memory) <-
    rawReadBlocks (dstLen / 16) dst (getBufferAddr id 0) memory
  let dstLen := dstLen % 16
  if dstLen = 0 then
    return (.kDifOk, memory)
  let (wd, bufferOffset, memory) <- rawReadWords (dstLen / 4) wd bufferOffset memory
  let dstLen := dstLen % 4
  if dstLen = 0 then
    return (.kDifOk, memory)
  let d <- mmioRegionRead32 bufferOffset
  return (.kDifOk, setRawTail memory wd dstLen d)

/-! ## Words -/

section

variable (memory packet : Memory)

theorem map_wordByte_wordAt (ptr : Nat) :
    (List.range 4).map (wordByte (wordAt memory ptr)) = memory.load ptr 4 := by
  have bytes := map_wordByte_load memory ptr (show 0 + 4 <= 4 by decide)
  simp only [Nat.zero_add, Nat.add_zero] at bytes
  exact bytes

/-- Four words one after the other. -/
theorem store_block (offset ptr : Nat) :
    (((packet.store offset (memory.load ptr 4)).store (offset + 4)
        (memory.load (ptr + 4) 4)).store (offset + 8) (memory.load (ptr + 8) 4)).store
          (offset + 12) (memory.load (ptr + 12) 4) =
      packet.store offset (memory.load ptr 16) := by
  have two : (packet.store offset (memory.load ptr 4)).store (offset + 4)
      (memory.load (ptr + 4) 4) = packet.store offset (memory.load ptr 8) :=
    packet.store_load_add memory offset ptr 4 4
  have three : (packet.store offset (memory.load ptr 8)).store (offset + 8)
      (memory.load (ptr + 8) 4) = packet.store offset (memory.load ptr 12) :=
    packet.store_load_add memory offset ptr 8 4
  rw [two, three]
  exact packet.store_load_add memory offset ptr 12 4

theorem wordByte_or (left right : BitVec 32) (i : Nat) :
    wordByte (left ||| right) i = wordByte left i ||| wordByte right i :=
  BitVec.extractLsb'_or

/-- The bytes of a word that has one byte only. -/
theorem wordByte_shifted (byte : BitVec 8) {i j : Nat} (inside : i < 4) (inside' : j < 4) :
    wordByte (byte.setWidth 32 <<< (8 * j)) i = if i = j then byte else 0 := by
  have single : byte.setWidth 32 <<< (8 * j) = setWordByte 0 j byte := by
    simp [setWordByte]
  rw [single, wordByte_setWordByte 0 inside' inside]
  split
  · rfl
  · simp [wordByte]

/-- The last word has the bytes that are left, and zeros behind them. -/
theorem map_wordByte_rawTail (bs : Nat) {srcLen : Nat} (some : 0 < srcLen) (few : srcLen < 4) :
    (List.range 4).map (wordByte (rawTail memory bs srcLen)) =
      memory.load bs srcLen ++ List.replicate (4 - srcLen) 0 := by
  have first (byte : BitVec 8) (i : Nat) (inside : i < 4) :
      wordByte (byte.setWidth 32) i = if i = 0 then byte else 0 := by
    simpa using @wordByte_shifted byte i 0 inside (by decide)
  have second (byte : BitVec 8) (i : Nat) (inside : i < 4) :
      wordByte (byte.setWidth 32 <<< 8) i = if i = 1 then byte else 0 := by
    simpa using @wordByte_shifted byte i 1 inside (by decide)
  have third (byte : BitVec 8) (i : Nat) (inside : i < 4) :
      wordByte (byte.setWidth 32 <<< 16) i = if i = 2 then byte else 0 := by
    simpa using @wordByte_shifted byte i 2 inside (by decide)
  rcases srcLen with _ | _ | _ | _ | srcLen
  · exact absurd some (Nat.lt_irrefl 0)
  · simp [List.range_succ, List.replicate_succ, Memory.load, rawTail, first]
  · simp [List.range_succ, List.replicate_succ, Memory.load, rawTail, wordByte_or, first, second]
  · simp [List.range_succ, List.replicate_succ, Memory.load, rawTail, wordByte_or, first, second,
      third]
  · omega

/-- Casting a shifted word to a byte. -/
theorem setWidth_shift (word : BitVec 32) (i : Nat) :
    (word >>> (8 * i)).setWidth 8 = wordByte word i := by
  apply BitVec.eq_of_getLsbD_eq
  intro k small
  simp [wordByte, small]

/-- The bytes that are left are taken from the front of a word. -/
theorem setRawTail_wordAt (offset bd : Nat) {dstLen : Nat} (some : 0 < dstLen) (few : dstLen < 4) :
    setRawTail memory bd dstLen (wordAt packet offset) =
      memory.store bd (packet.load offset dstLen) := by
  have byte (i : Nat) (inside : i < 4) :
      (wordAt packet offset >>> (8 * i)).setWidth 8 = packet (offset + i) := by
    rw [setWidth_shift]
    exact wordByte_load packet offset inside
  have first : (wordAt packet offset).setWidth 8 = packet offset := byte 0 (by decide)
  have second : (wordAt packet offset >>> 8).setWidth 8 = packet (offset + 1) := byte 1 (by decide)
  have third : (wordAt packet offset >>> 16).setWidth 8 = packet (offset + 2) := byte 2 (by decide)
  have two := memory.store_load_add packet bd offset 1 1
  have three := memory.store_load_add packet bd offset 2 1
  rcases dstLen with _ | _ | _ | _ | dstLen
  · exact absurd some (Nat.lt_irrefl 0)
  · simp [setRawTail, first]
  · simpa [setRawTail, first, second] using two
  · simp only [Nat.reduceAdd, Memory.load_one] at two three
    simp [setRawTail, first, second, third, two, three]
  · omega

end

/-! ## Writing -/

section

variable (memory : Memory)

theorem run_rawWriteBlocks (rounds ws bufferOffset : Nat) (packet : Memory) :
    (rawWriteBlocks memory rounds ws bufferOffset).run byteRegion packet =
      some ((ws + 16 * rounds, bufferOffset + 16 * rounds),
        packet.store bufferOffset (memory.load ws (16 * rounds))) := by
  induction rounds generalizing ws bufferOffset packet with
  | zero => simp [rawWriteBlocks]
  | succ rounds ih =>
      change (rawWriteBlocks memory rounds (ws + 16) (bufferOffset + 16)).run byteRegion
        ((((packet.store bufferOffset _).store (bufferOffset + 4) _).store (bufferOffset + 8)
          _).store (bufferOffset + 12) _) = _
      rw [map_wordByte_wordAt, map_wordByte_wordAt, map_wordByte_wordAt, map_wordByte_wordAt,
        store_block, ih, packet.store_load_add memory bufferOffset ws 16 (16 * rounds)]
      have size : 16 * (rounds + 1) = 16 + 16 * rounds := by omega
      rw [size, Nat.add_assoc, Nat.add_assoc]

theorem run_rawWriteWords (rounds ws bufferOffset : Nat) (packet : Memory) :
    (rawWriteWords memory rounds ws bufferOffset).run byteRegion packet =
      some ((ws + 4 * rounds, bufferOffset + 4 * rounds),
        packet.store bufferOffset (memory.load ws (4 * rounds))) := by
  induction rounds generalizing ws bufferOffset packet with
  | zero => simp [rawWriteWords]
  | succ rounds ih =>
      change (rawWriteWords memory rounds (ws + 4) (bufferOffset + 4)).run byteRegion
        (packet.store bufferOffset _) = _
      rw [map_wordByte_wordAt, ih, packet.store_load_add memory bufferOffset ws 4 (4 * rounds)]
      have size : 4 * (rounds + 1) = 4 + 4 * rounds := by omega
      rw [size, Nat.add_assoc, Nat.add_assoc]

/-- A buffer that the functions accept. -/
structure Acceptable (ptr len : Nat) : Prop where
  there : ptr ≠ 0
  aligned : ptr % 4 = 0
  fits : len <= maxPacketSize

theorem Acceptable.passes {ptr len : Nat} (acceptable : Acceptable ptr len) :
    ¬ (Pointer.object = .null ∨ ptr = 0 ∨ Base.misalignment32Of ptr ≠ 0 ∨
      maxPacketSize < len) := by
  rintro (null | null | misaligned | long)
  · cases null
  · exact acceptable.there null
  · exact misaligned acceptable.aligned
  · exact Nat.not_lt.mpr acceptable.fits long

/-- The packet is written with zeros up to the end of its last word. -/
theorem run_bufferRawWrite (id : BitVec 8) {src srcLen : Nat}
    (acceptable : Acceptable src srcLen) (packet : Memory) :
    (difUsbdevBufferRawWrite .object id memory src srcLen).run byteRegion packet =
      some (.kDifOk, packet.store (getBufferAddr id 0)
        (memory.load src srcLen ++ List.replicate ((4 - srcLen % 4) % 4) 0)) := by
  unfold difUsbdevBufferRawWrite
  rw [if_neg acceptable.passes]
  rw [run_bind_of (run_rawWriteBlocks memory (srcLen / 16) src (getBufferAddr id 0) packet)]
  generalize getBufferAddr id 0 = addr
  dsimp only
  by_cases blocks : srcLen % 16 = 0
  · have all : 16 * (srcLen / 16) = srcLen := by omega
    have padding : (4 - srcLen % 4) % 4 = 0 := by omega
    rw [if_neg (not_not.mpr blocks), all, padding, List.replicate_zero, List.append_nil]
    rfl
  · rw [if_pos blocks, run_bind_of (run_rawWriteWords memory _ _ _ _), packet.store_load_add]
    dsimp only
    by_cases words : srcLen % 16 % 4 = 0
    · have all : 16 * (srcLen / 16) + 4 * (srcLen % 16 / 4) = srcLen := by omega
      have padding : (4 - srcLen % 4) % 4 = 0 := by omega
      rw [if_neg (not_not.mpr words), all, padding, List.replicate_zero, List.append_nil]
      rfl
    · have tail := map_wordByte_rawTail memory
        (src + 16 * (srcLen / 16) + 4 * (srcLen % 16 / 4)) (Nat.pos_of_ne_zero words)
        (Nat.mod_lt _ (by decide))
      have padding : (4 - srcLen % 4) % 4 = 4 - srcLen % 16 % 4 := by omega
      have all : 16 * (srcLen / 16) + 4 * (srcLen % 16 / 4) + srcLen % 16 % 4 = srcLen := by omega
      rw [if_pos words]
      change some (_, Memory.store _ _ _) = _
      rw [tail, <- Memory.store_append, Nat.add_assoc src, Nat.add_assoc addr,
        packet.store_load_add, all, padding]
      rw [Memory.load_length, Nat.add_assoc addr, all, <- Memory.store_append, Memory.load_length]

end

/-! ## Reading -/

section

variable (packet : Memory)

theorem run_rawReadBlocks (rounds wd bufferOffset : Nat) (memory : Memory) :
    (rawReadBlocks rounds wd bufferOffset memory).run byteRegion packet =
      some ((wd + 16 * rounds, bufferOffset + 16 * rounds,
        memory.store wd (packet.load bufferOffset (16 * rounds))), packet) := by
  induction rounds generalizing wd bufferOffset memory with
  | zero => simp [rawReadBlocks]
  | succ rounds ih =>
      change (rawReadBlocks rounds (wd + 16) (bufferOffset + 16)
        ((((memory.store wd ((List.range 4).map (wordByte (wordAt packet bufferOffset)))).store
          (wd + 4) ((List.range 4).map (wordByte (wordAt packet (bufferOffset + 4))))).store
          (wd + 8) ((List.range 4).map (wordByte (wordAt packet (bufferOffset + 8))))).store
          (wd + 12) ((List.range 4).map (wordByte (wordAt packet (bufferOffset + 12)))))).run
            byteRegion packet = _
      rw [map_wordByte_wordAt, map_wordByte_wordAt, map_wordByte_wordAt, map_wordByte_wordAt]
      rw [store_block, ih, memory.store_load_add packet wd bufferOffset 16 (16 * rounds)]
      have size : 16 * (rounds + 1) = 16 + 16 * rounds := by omega
      rw [size, Nat.add_assoc, Nat.add_assoc]

theorem run_rawReadWords (rounds wd bufferOffset : Nat) (memory : Memory) :
    (rawReadWords rounds wd bufferOffset memory).run byteRegion packet =
      some ((wd + 4 * rounds, bufferOffset + 4 * rounds,
        memory.store wd (packet.load bufferOffset (4 * rounds))), packet) := by
  induction rounds generalizing wd bufferOffset memory with
  | zero => simp [rawReadWords]
  | succ rounds ih =>
      change (rawReadWords rounds (wd + 4) (bufferOffset + 4)
        (memory.store wd ((List.range 4).map (wordByte (wordAt packet bufferOffset))))).run
          byteRegion packet = _
      rw [map_wordByte_wordAt, ih, memory.store_load_add packet wd bufferOffset 4 (4 * rounds)]
      have size : 4 * (rounds + 1) = 4 + 4 * rounds := by omega
      rw [size, Nat.add_assoc, Nat.add_assoc]

/-- The packet is read into the buffer, and nothing behind it. -/
theorem run_bufferRawRead (id : BitVec 8) {dst dstLen : Nat} (acceptable : Acceptable dst dstLen)
    (memory : Memory) :
    (difUsbdevBufferRawRead .object id memory dst dstLen).run byteRegion packet =
      some ((.kDifOk, memory.store dst (packet.load (getBufferAddr id 0) dstLen)), packet) := by
  unfold difUsbdevBufferRawRead
  rw [if_neg acceptable.passes]
  rw [run_bind_of (run_rawReadBlocks packet (dstLen / 16) dst (getBufferAddr id 0) memory)]
  generalize getBufferAddr id 0 = addr
  dsimp only
  by_cases blocks : dstLen % 16 = 0
  · have all : 16 * (dstLen / 16) = dstLen := by omega
    rw [if_pos blocks, all]
    rfl
  · rw [if_neg blocks, run_bind_of (run_rawReadWords packet _ _ _ _), memory.store_load_add]
    dsimp only
    by_cases words : dstLen % 16 % 4 = 0
    · have all : 16 * (dstLen / 16) + 4 * (dstLen % 16 / 4) = dstLen := by omega
      rw [if_pos words, all]
      rfl
    · have all : 16 * (dstLen / 16) + 4 * (dstLen % 16 / 4) + dstLen % 16 % 4 = dstLen := by omega
      rw [if_neg words]
      change some ((_, setRawTail _ _ _ (wordAt packet _)), packet) = _
      rw [setRawTail_wordAt _ _ _ _ (Nat.pos_of_ne_zero words) (Nat.mod_lt _ (by decide)),
        Nat.add_assoc dst, Nat.add_assoc addr, memory.store_load_add, all]

end

/-! ## What the functions access -/

/-- An access to one of the words that a packet takes. -/
def InPacket (addr len : Nat) : Access -> Prop
  | .read32 word | .write32 word _ => Exists fun i => i < (len + 3) / 4 ∧ word = addr + 4 * i
  | .write8 _ _ => False

section

variable {addr len : Nat}

theorem inPacket_rawWriteBlocks (memory : Memory) (rounds ws : Nat) {start : Nat}
    (inside : start + 4 * rounds <= (len + 3) / 4) :
    (rawWriteBlocks memory rounds ws (addr + 4 * start)).Within (InPacket addr len) := by
  induction rounds generalizing ws start with
  | zero => trivial
  | succ rounds ih =>
      have rest := @ih (ws + 16) (start + 4) (by omega)
      refine ⟨⟨start, by omega, rfl⟩, ⟨start + 1, by omega, by omega⟩,
        ⟨start + 2, by omega, by omega⟩, ⟨start + 3, by omega, by omega⟩, ?_⟩
      rwa [show addr + 4 * (start + 4) = addr + 4 * start + 16 by omega] at rest

theorem inPacket_rawWriteWords (memory : Memory) (rounds ws : Nat) {start : Nat}
    (inside : start + rounds <= (len + 3) / 4) :
    (rawWriteWords memory rounds ws (addr + 4 * start)).Within (InPacket addr len) := by
  induction rounds generalizing ws start with
  | zero => trivial
  | succ rounds ih =>
      have rest := @ih (ws + 4) (start + 1) (by omega)
      refine ⟨⟨start, by omega, rfl⟩, ?_⟩
      rwa [show addr + 4 * (start + 1) = addr + 4 * start + 4 by omega] at rest

theorem returns_rawWriteBlocks (memory : Memory) (rounds ws bufferOffset : Nat) :
    (rawWriteBlocks memory rounds ws bufferOffset).Returns
      (fun out => out.2 = bufferOffset + 16 * rounds) := by
  induction rounds generalizing ws bufferOffset with
  | zero => exact rfl
  | succ rounds ih => exact (ih (ws + 16) (bufferOffset + 16)).imp (fun out same => by omega)

theorem returns_rawWriteWords (memory : Memory) (rounds ws bufferOffset : Nat) :
    (rawWriteWords memory rounds ws bufferOffset).Returns
      (fun out => out.2 = bufferOffset + 4 * rounds) := by
  induction rounds generalizing ws bufferOffset with
  | zero => exact rfl
  | succ rounds ih => exact (ih (ws + 4) (bufferOffset + 4)).imp (fun out same => by omega)

theorem inPacket_bufferRawWrite (id : BitVec 8) (memory : Memory) (src srcLen : Nat) :
    (difUsbdevBufferRawWrite .object id memory src srcLen).Within
      (InPacket (getBufferAddr id 0) srcLen) := by
  unfold difUsbdevBufferRawWrite
  generalize getBufferAddr id 0 = addr
  split
  · trivial
  · refine (returns_rawWriteBlocks memory _ _ _).within_bind
      (@inPacket_rawWriteBlocks addr srcLen memory _ _ 0 (by omega)) ?_
    rintro ⟨ws, bufferOffset⟩ position
    dsimp only at position ⊢
    rw [position, show addr + 16 * (srcLen / 16) = addr + 4 * (4 * (srcLen / 16)) by omega]
    split
    · refine (returns_rawWriteWords memory _ _ _).within_bind
        (inPacket_rawWriteWords memory _ _ (by omega)) ?_
      rintro ⟨ws, bufferOffset⟩ position
      dsimp only at position ⊢
      split
      · exact ⟨⟨4 * (srcLen / 16) + srcLen % 16 / 4, by omega, by omega⟩, trivial⟩
      · trivial
    · trivial

theorem inPacket_rawReadBlocks (rounds wd : Nat) {start : Nat} (memory : Memory)
    (inside : start + 4 * rounds <= (len + 3) / 4) :
    (rawReadBlocks rounds wd (addr + 4 * start) memory).Within (InPacket addr len) := by
  induction rounds generalizing wd start memory with
  | zero => trivial
  | succ rounds ih =>
      refine ⟨⟨start, by omega, rfl⟩, fun first => ⟨⟨start + 1, by omega, by omega⟩, fun second =>
        ⟨⟨start + 2, by omega, by omega⟩, fun third => ⟨⟨start + 3, by omega, by omega⟩,
          fun fourth => ?_⟩⟩⟩⟩
      have rest := @ih (wd + 16) (start + 4) (setWordAt (setWordAt (setWordAt (setWordAt memory wd
        first) (wd + 4) second) (wd + 8) third) (wd + 12) fourth) (by omega)
      rwa [show addr + 4 * (start + 4) = addr + 4 * start + 16 by omega] at rest

theorem inPacket_rawReadWords (rounds wd : Nat) {start : Nat} (memory : Memory)
    (inside : start + rounds <= (len + 3) / 4) :
    (rawReadWords rounds wd (addr + 4 * start) memory).Within (InPacket addr len) := by
  induction rounds generalizing wd start memory with
  | zero => trivial
  | succ rounds ih =>
      refine ⟨⟨start, by omega, rfl⟩, fun word => ?_⟩
      have rest := @ih (wd + 4) (start + 1) (setWordAt memory wd word) (by omega)
      rwa [show addr + 4 * (start + 1) = addr + 4 * start + 4 by omega] at rest

theorem returns_rawReadBlocks (rounds wd bufferOffset : Nat) (memory : Memory) :
    (rawReadBlocks rounds wd bufferOffset memory).Returns
      (fun out => out.2.1 = bufferOffset + 16 * rounds) := by
  induction rounds generalizing wd bufferOffset memory with
  | zero => exact rfl
  | succ rounds ih =>
      exact fun _ _ _ _ => (ih _ (bufferOffset + 16) _).imp (fun out same => by omega)

theorem returns_rawReadWords (rounds wd bufferOffset : Nat) (memory : Memory) :
    (rawReadWords rounds wd bufferOffset memory).Returns
      (fun out => out.2.1 = bufferOffset + 4 * rounds) := by
  induction rounds generalizing wd bufferOffset memory with
  | zero => exact rfl
  | succ rounds ih => exact fun _ => (ih _ (bufferOffset + 4) _).imp (fun out same => by omega)

theorem inPacket_bufferRawRead (id : BitVec 8) (memory : Memory) (dst dstLen : Nat) :
    (difUsbdevBufferRawRead .object id memory dst dstLen).Within
      (InPacket (getBufferAddr id 0) dstLen) := by
  unfold difUsbdevBufferRawRead
  generalize getBufferAddr id 0 = addr
  split
  · trivial
  · refine (returns_rawReadBlocks _ _ _ memory).within_bind
      (@inPacket_rawReadBlocks addr dstLen _ _ 0 memory (by omega)) ?_
    rintro ⟨wd, bufferOffset, memory⟩ position
    dsimp only at position ⊢
    rw [position, show addr + 16 * (dstLen / 16) = addr + 4 * (4 * (dstLen / 16)) by omega]
    split
    · trivial
    · refine (returns_rawReadWords _ _ _ memory).within_bind
        (inPacket_rawReadWords _ _ memory (by omega)) ?_
      rintro ⟨wd, bufferOffset, memory⟩ position
      dsimp only at position ⊢
      split
      · trivial
      · exact ⟨⟨4 * (dstLen / 16) + dstLen % 16 / 4, by omega, by omega⟩, fun _ => trivial⟩

end

/-! ## Agreement -/

/-- The raw copies leave the bytes of the packet as the copying functions for any region do,
access the words of the packet only, and write nothing behind the buffer. -/
theorem bufferRaw_agrees (id : BitVec 8) (memory packet : Memory) {ptr len : Nat}
    (acceptable : Acceptable ptr len) :
    (Exists fun written => Exists fun copied =>
      (difUsbdevBufferRawWrite .object id memory ptr len).run byteRegion packet =
        some (.kDifOk, written) ∧
      (mmioRegionMemcpyToMmio32 (getBufferAddr id 0) (memory.load ptr len)).run byteRegion packet =
        some ((), copied) ∧
      written.load (getBufferAddr id 0) len = copied.load (getBufferAddr id 0) len ∧
      forall other, Memory.Outside (getBufferAddr id 0) (4 * ((len + 3) / 4)) other ->
        written other = packet other) ∧
    (difUsbdevBufferRawWrite .object id memory ptr len).Within
      (InPacket (getBufferAddr id 0) len) ∧
    (Exists fun bytes => bytes.length = len ∧
      (mmioRegionMemcpyFromMmio32 (getBufferAddr id 0) len).run byteRegion packet =
        some (bytes, packet) ∧
      (difUsbdevBufferRawRead .object id memory ptr len).run byteRegion packet =
        some ((.kDifOk, memory.store ptr bytes), packet)) ∧
    (difUsbdevBufferRawRead .object id memory ptr len).Within
      (InPacket (getBufferAddr id 0) len) := by
  refine ⟨⟨_, _, run_bufferRawWrite memory id acceptable packet, run_memcpyToMmio32 _ _ _, ?_, ?_⟩,
    inPacket_bufferRawWrite id memory ptr len,
    ⟨_, packet.load_length _ _, run_memcpyFromMmio32 packet _ _,
      run_bufferRawRead packet id acceptable memory⟩,
    inPacket_bufferRawRead id memory ptr len⟩
  · have written := packet.load_store_self (getBufferAddr id 0) (memory.load ptr len)
      (List.replicate ((4 - len % 4) % 4) 0)
    have copied := packet.load_store_self (getBufferAddr id 0) (memory.load ptr len) []
    rw [Memory.load_length] at written copied
    rw [List.append_nil] at copied
    rw [written, copied]
  · intro other outside
    have whole : (memory.load ptr len ++ List.replicate ((4 - len % 4) % 4) 0).length =
        4 * ((len + 3) / 4) := by
      rw [List.length_append, Memory.load_length, List.length_replicate]
      omega
    apply Memory.store_outside
    rw [whole]
    exact outside

theorem bufferRaw_agrees_eleven :
    (Exists fun written => Exists fun copied =>
      (difUsbdevBufferRawWrite .object 3 (BitVec.ofNat 8) 8 11).run byteRegion (fun _ => 0xff) =
        some (.kDifOk, written) ∧
      (mmioRegionMemcpyToMmio32 (getBufferAddr 3 0) (Memory.load (BitVec.ofNat 8) 8 11)).run
        byteRegion (fun _ => 0xff) = some ((), copied) ∧
      written.load (getBufferAddr 3 0) 11 = copied.load (getBufferAddr 3 0) 11 ∧
      forall other, Memory.Outside (getBufferAddr 3 0) (4 * ((11 + 3) / 4)) other ->
        written other = 0xff) ∧
    (difUsbdevBufferRawWrite .object 3 (BitVec.ofNat 8) 8 11).Within
      (InPacket (getBufferAddr 3 0) 11) ∧
    (Exists fun bytes => bytes.length = 11 ∧
      (mmioRegionMemcpyFromMmio32 (getBufferAddr 3 0) 11).run byteRegion (fun _ => 0xff) =
        some (bytes, fun _ => 0xff) ∧
      (difUsbdevBufferRawRead .object 3 (BitVec.ofNat 8) 8 11).run byteRegion (fun _ => 0xff) =
        some ((.kDifOk, Memory.store (BitVec.ofNat 8) 8 bytes), fun _ => 0xff)) ∧
    (difUsbdevBufferRawRead .object 3 (BitVec.ofNat 8) 8 11).Within
      (InPacket (getBufferAddr 3 0) 11) :=
  bufferRaw_agrees 3 (BitVec.ofNat 8) (fun _ => 0xff) ⟨by decide, by decide, by decide⟩

end Usbdev
end SunburstChip
