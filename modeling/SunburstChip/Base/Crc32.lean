import Mathlib.Logic.Function.Iterate
import SunburstChip.Base.Memcpy
import SunburstChip.Lib.Generator

namespace SunburstChip

/-!
# CRC-32

The portable code of `crc32.c`.  `crc32_add` takes whole words where the
buffer is aligned, which makes no difference: the state is that of adding one
byte after the other, and adding a byte is adding its bits to the shift register
of IEEE 802.3.  Adding bytes loses nothing of the state before, so that two
states that differ stay different.
-/

/-- `kCrc32Poly` -/
abbrev kCrc32Poly : BitVec 32 := 0xedb88320

/-- The body of the loop of `crc32_internal_add8`. -/
def crc32Shift (ctx : BitVec 32) : BitVec 32 :=
  if ctx.getLsbD 0 then (ctx >>> 1) ^^^ kCrc32Poly else ctx >>> 1

/-- `crc32_internal_add8` -/
def crc32InternalAdd8 (ctx : BitVec 32) (byte : BitVec 8) : BitVec 32 :=
  crc32Shift^[8] (ctx ^^^ byte.setWidth 32)

/-- `crc32_internal_add32` -/
def crc32InternalAdd32 (ctx word : BitVec 32) : BitVec 32 :=
  (List.range 4).foldl (fun ctx i => crc32InternalAdd8 ctx (wordByte word i)) ctx

/-- `crc32_init` -/
abbrev crc32Init : BitVec 32 := 0xffffffff

/-- `crc32_add8` -/
def crc32Add8 (ctx : BitVec 32) (byte : BitVec 8) : BitVec 32 := crc32InternalAdd8 ctx byte

/-- The unaligned head of `crc32_add`: the state, and what is left of a buffer. -/
def crc32AddHead : BitVec 32 -> Nat -> List (BitVec 8) -> BitVec 32 × List (BitVec 8)
  | state, _, [] => (state, [])
  | state, address, byte :: rest =>
      if address % 4 ≠ 0 then crc32AddHead (crc32InternalAdd8 state byte) (address + 1) rest
      else (state, byte :: rest)

/-- The aligned body of `crc32_add`, which reads little-endian words. -/
def crc32AddBody : BitVec 32 -> List (BitVec 8) -> BitVec 32 × List (BitVec 8)
  | state, b0 :: b1 :: b2 :: b3 :: rest =>
      crc32AddBody (crc32InternalAdd32 state (setWordBytes 0 0 [b0, b1, b2, b3])) rest
  | state, rest => (state, rest)

/-- `crc32_add`, for a buffer at some address. -/
def crc32Add (ctx : BitVec 32) (address : Nat) (buf : List (BitVec 8)) : BitVec 32 :=
  let (state, rest) := crc32AddHead ctx address buf
  let (state, rest) := crc32AddBody state rest
  rest.foldl crc32InternalAdd8 state

/-- `crc32_finish` -/
def crc32Finish (ctx : BitVec 32) : BitVec 32 := ctx ^^^ 0xffffffff

/-- `crc32` -/
def crc32 (buf : List (BitVec 8)) : BitVec 32 := crc32Finish (crc32Add crc32Init 0 buf)

/-! ## Words and bytes -/

theorem crc32InternalAdd32_bytes (ctx : BitVec 32) (b0 b1 b2 b3 : BitVec 8) :
    crc32InternalAdd32 ctx (setWordBytes 0 0 [b0, b1, b2, b3]) =
      [b0, b1, b2, b3].foldl crc32InternalAdd8 ctx := by
  have byte (i : Nat) (inside : i < 4) : wordByte (setWordBytes 0 0 [b0, b1, b2, b3]) i =
      [b0, b1, b2, b3].getD i (wordByte 0 i) := by
    rw [wordByte_setWordBytes _ _ (Nat.le_refl 4) inside, if_pos (Nat.zero_le i), Nat.sub_zero]
  change crc32InternalAdd8 (crc32InternalAdd8 (crc32InternalAdd8 (crc32InternalAdd8 ctx
    (wordByte _ 0)) (wordByte _ 1)) (wordByte _ 2)) (wordByte _ 3) = _
  rw [byte 0 (by decide), byte 1 (by decide), byte 2 (by decide), byte 3 (by decide)]
  rfl

theorem crc32AddHead_foldl (state : BitVec 32) (address : Nat) (buf : List (BitVec 8)) :
    (crc32AddHead state address buf).2.foldl crc32InternalAdd8 (crc32AddHead state address buf).1 =
      buf.foldl crc32InternalAdd8 state := by
  induction buf generalizing state address with
  | nil => rfl
  | cons byte rest ih =>
      unfold crc32AddHead
      split
      · exact ih _ _
      · rfl

theorem crc32AddBody_foldl (state : BitVec 32) (buf : List (BitVec 8)) :
    (crc32AddBody state buf).2.foldl crc32InternalAdd8 (crc32AddBody state buf).1 =
      buf.foldl crc32InternalAdd8 state := by
  induction state, buf using crc32AddBody.induct with
  | case1 state b0 b1 b2 b3 rest ih =>
      rw [crc32AddBody, ih, crc32InternalAdd32_bytes]
      rfl
  | case2 state rest short =>
      unfold crc32AddBody
      split
      · next b0 b1 b2 b3 rest => exact absurd rfl (short b0 b1 b2 b3 rest)
      · rfl

/-- Where the buffer lies makes no difference. -/
theorem crc32Add_eq_foldl (ctx : BitVec 32) (address : Nat) (buf : List (BitVec 8)) :
    crc32Add ctx address buf = buf.foldl crc32Add8 ctx := by
  change (crc32AddBody _ _).2.foldl crc32InternalAdd8 (crc32AddBody _ _).1 = _
  rw [crc32AddBody_foldl, crc32AddHead_foldl]
  rfl

/-! ## Bit by bit -/

/-- The polynomial of IEEE 802.3, without its highest coefficient. -/
def ieee8023Poly : BitVec 32 := 0x04c11db7

/-- One bit is shifted into the reflected register of IEEE 802.3. -/
def ieee8023Bit (register : BitVec 32) (bit : Bool) : BitVec 32 :=
  if register.getLsbD 0 ^^ bit then (register >>> 1) ^^^ ieee8023Poly.reverse else register >>> 1

/-- The bits of bytes in the order in which they are sent, the lowest one first. -/
def bitsOf (bytes : List (BitVec 8)) : List Bool :=
  bytes.flatMap (fun byte => (List.range 8).map byte.getLsbD)

/-- The reflected register after some bytes. -/
def ieee8023 (register : BitVec 32) (bytes : List (BitVec 8)) : BitVec 32 :=
  (bitsOf bytes).foldl ieee8023Bit register

theorem kCrc32Poly_eq : kCrc32Poly = ieee8023Poly.reverse := by decide +kernel

/-- The bits that wait above the lowest one are shifted along with the register. -/
theorem crc32Shift_xor (register bits : BitVec 32) :
    crc32Shift (register ^^^ bits) = ieee8023Bit register (bits.getLsbD 0) ^^^ (bits >>> 1) := by
  unfold crc32Shift ieee8023Bit
  rw [BitVec.getLsbD_xor, BitVec.ushiftRight_xor_distrib, kCrc32Poly_eq]
  split
  · rw [BitVec.xor_assoc, BitVec.xor_assoc, BitVec.xor_comm (bits >>> 1)]
  · rfl

/-- So are they by a number of shifts, each of which takes in one of them. -/
theorem crc32Shift_iterate_xor (register bits : BitVec 32) (n : Nat) :
    crc32Shift^[n] (register ^^^ bits) =
      ((List.range n).map bits.getLsbD).foldl ieee8023Bit register ^^^ (bits >>> n) := by
  induction n with
  | zero => simp
  | succ n ih =>
      have next : (bits >>> n).getLsbD 0 = bits.getLsbD n := by simp
      have shifted : bits >>> n >>> 1 = bits >>> (n + 1) := (BitVec.shiftRight_add bits n 1).symm
      rw [Function.iterate_succ_apply', ih, crc32Shift_xor, next, shifted, List.range_succ,
        List.map_append, List.foldl_append]
      rfl

theorem crc32InternalAdd8_bits (ctx : BitVec 32) (byte : BitVec 8) :
    crc32InternalAdd8 ctx byte = ieee8023 ctx [byte] := by
  have none : byte.setWidth 32 >>> 8 = 0#32 := by
    apply BitVec.eq_of_getLsbD_eq
    intro i _
    simp
  have low : (List.range 8).map (byte.setWidth 32).getLsbD = bitsOf [byte] := by
    simp [bitsOf, List.range_succ]
  unfold crc32InternalAdd8 ieee8023
  rw [crc32Shift_iterate_xor, none, low, BitVec.xor_zero]

theorem ieee8023_append (register : BitVec 32) (bytes more : List (BitVec 8)) :
    ieee8023 register (bytes ++ more) = ieee8023 (ieee8023 register bytes) more := by
  simp [ieee8023, bitsOf]

theorem foldl_crc32Add8_bits (ctx : BitVec 32) (buf : List (BitVec 8)) :
    buf.foldl crc32Add8 ctx = ieee8023 ctx buf := by
  induction buf generalizing ctx with
  | nil => rfl
  | cons byte rest ih =>
      rw [List.foldl_cons, ih, crc32Add8, crc32InternalAdd8_bits, <- ieee8023_append]
      rfl

/-- Buffers that are added one after the other, wherever each of them lies. -/
def crc32AddAll (ctx : BitVec 32) (pieces : List (Nat × List (BitVec 8))) : BitVec 32 :=
  pieces.foldl (fun ctx piece => crc32Add ctx piece.1 piece.2) ctx

theorem crc32AddAll_bits (ctx : BitVec 32) (pieces : List (Nat × List (BitVec 8))) :
    crc32AddAll ctx pieces = ieee8023 ctx (pieces.flatMap (·.2)) := by
  induction pieces generalizing ctx with
  | nil => rfl
  | cons piece pieces ih =>
      change crc32AddAll (crc32Add ctx piece.1 piece.2) pieces = _
      rw [ih, crc32Add_eq_foldl, foldl_crc32Add8_bits, List.flatMap_cons, ieee8023_append]

/-- Adding a buffer is shifting its bits into the register, wherever it lies, and it makes no
difference how a message is cut into buffers. -/
theorem crc32Add_bitwise (ctx : BitVec 32) (address : Nat) (buf : List (BitVec 8))
    (pieces : List (Nat × List (BitVec 8))) :
    crc32Add ctx address buf = ieee8023 ctx buf ∧
      crc32Finish (crc32AddAll crc32Init pieces) = crc32 (pieces.flatMap (·.2)) := by
  constructor
  · rw [crc32Add_eq_foldl, foldl_crc32Add8_bits]
  · rw [crc32AddAll_bits, crc32, crc32Add_eq_foldl, foldl_crc32Add8_bits]

/-! ## States that differ -/

/-- The register shifts to the right, and its polynomial has the highest bit set. -/
theorem crc32Shift_injective : Function.Injective crc32Shift :=
  @Generator.galois_injective 32 kCrc32Poly (by decide)

theorem crc32Add8_injective (byte : BitVec 8) : Function.Injective (crc32Add8 · byte) := by
  intro ctx ctx' same
  have added := crc32Shift_injective.iterate 8 same
  exact (BitVec.xor_left_inj _).mp added

theorem foldl_crc32Add8_injective (buf : List (BitVec 8)) :
    Function.Injective (buf.foldl crc32Add8 ·) := by
  induction buf with
  | nil => exact fun _ _ same => same
  | cons byte rest ih =>
      intro ctx ctx' same
      exact crc32Add8_injective byte (ih same)

theorem crc32Finish_injective : Function.Injective crc32Finish :=
  fun _ _ same => (BitVec.xor_left_inj _).mp same

end SunburstChip
