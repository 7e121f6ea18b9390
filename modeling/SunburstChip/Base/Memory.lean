import Mathlib.Algebra.Group.Nat.Defs
import SunburstChip.Base.Memcpy
import SunburstChip.Lib.Memory

namespace SunburstChip
namespace Base

open Routine

/-!
# Memory functions

The functions of `memory.c`, which work on whole words where both of their
pointers allow it.  A pointer is an address, 0 is `NULL`, and objects end within
the address space, so that neither an offset nor an address wraps.

What the functions are for is said byte by byte.
-/

/-- Code of a function that returns a `ρ`. -/
abbrev Code (ρ α : Type) := Routine MainMemory ρ α

/-- `misalignment32_of` -/
def misalignment32Of (addr : Nat) : Nat := addr % 4

/-- A byte that a pointer points at. -/
def byteAt {ρ : Type} (ptr : Nat) : Code ρ (BitVec 8) := do
  let bytes <- fetch ptr 1
  return bytes.getD 0 0

/-- An assignment to the byte a pointer points at. -/
def setByteAt {ρ : Type} (ptr : Nat) (byte : BitVec 8) : Code ρ Unit := deposit ptr [byte]

/-- `read_32` -/
def read32 {ρ : Type} (ptr : Nat) : Code ρ (BitVec 32) := do
  let bytes <- fetch ptr 4
  return setWordBytes 0 0 bytes

/-- `write_32` -/
def write32 {ρ : Type} (value : BitVec 32) (ptr : Nat) : Code ρ Unit :=
  deposit ptr ((List.range 4).map (wordByte value))

/-- `compute_num_leading_bytes` -/
def computeNumLeadingBytes (left right len : Nat) : Nat :=
  if len < 4 then len
  else
    let leftAhead := misalignment32Of left
    let rightAhead := misalignment32Of right
    if right = 0 ∨ leftAhead = rightAhead then (4 - leftAhead) &&& 0x3 else len

/-- `compute_alignment`: the start of the body and that of the tail. -/
def computeAlignment (left right len : Nat) : Nat × Nat :=
  let numLeadingBytes := computeNumLeadingBytes left right len
  let numWords := (len - numLeadingBytes) / 4
  (numLeadingBytes, numLeadingBytes + numWords * 4)

/-- `repeat_byte_to_u32` -/
def repeatByteToU32 (byte : BitVec 8) : BitVec 32 :=
  let word := byte.setWidth 32
  word <<< 24 ||| word <<< 16 ||| word <<< 8 ||| word

/-- The three loops of a function that goes up, over bytes, words and bytes. -/
def upwards {ρ : Type} (left right len : Nat) (byte word : Nat -> Code ρ Unit) :
    Code ρ Unit := do
  let (bodyOffset, tailOffset) := computeAlignment left right len
  let i <- countUp 1 bodyOffset byte len 0
  let i <- countUp 4 tailOffset word len i
  let _ <- countUp 1 len byte len i

/-- The three loops of a function that goes down.  The loop bodies get the offset
that they access. -/
def downwards {ρ : Type} (left right len : Nat) (byte word : Nat -> Code ρ Unit) :
    Code ρ Unit := do
  let (bodyOffset, tailOffset) := computeAlignment left right len
  let fin <- countDown 1 tailOffset (fun fin => byte (fin - 1)) len len
  let fin <- countDown 4 bodyOffset (fun fin => word (fin - 4)) len fin
  let _ <- countDown 1 0 (fun fin => byte (fin - 1)) len fin

/-- `memcpy` -/
def memcpy (dest src len : Nat) : Code Nat Nat :=
  if dest = 0 ∨ src = 0 then pure dest
  else do
    upwards dest src len
      (fun i => do setByteAt (dest + i) (<- byteAt (src + i)))
      (fun i => do write32 (<- read32 (src + i)) (dest + i))
    return dest

/-- `memset` -/
def memset (dest : Nat) (value : BitVec 32) (len : Nat) : Code Nat Nat := do
  let value8 := value.setWidth 8
  let value32 := repeatByteToU32 value8
  upwards dest 0 len
    (fun i => setByteAt (dest + i) value8)
    (fun i => write32 value32 (dest + i))
  return dest

/-- `kMemCmpEq` -/
def kMemCmpEq : Int := 0

/-- `kMemCmpLt` -/
def kMemCmpLt : Int := -42

/-- `kMemCmpGt` -/
def kMemCmpGt : Int := 42

/-- A comparison that makes a function return, if there is a difference.  What is
compared has been loaded once. -/
def compareOr {width : Nat} (left right : BitVec width) : Code Int Unit :=
  if left < right then raise kMemCmpLt
  else if right < left then raise kMemCmpGt
  else pure ()

/-- `__builtin_bswap32` -/
def bswap32 (word : BitVec 32) : BitVec 32 :=
  setWordBytes 0 0 [wordByte word 3, wordByte word 2, wordByte word 1, wordByte word 0]

/-- `memcmp` -/
def memcmp (lhs rhs len : Nat) : Code Int Int := do
  upwards lhs rhs len
    (fun i => do compareOr (<- byteAt (lhs + i)) (<- byteAt (rhs + i)))
    (fun i => do compareOr (bswap32 (<- read32 (lhs + i))) (bswap32 (<- read32 (rhs + i))))
  return kMemCmpEq

/-- `memrcmp` -/
def memrcmp (lhs rhs len : Nat) : Code Int Int := do
  downwards lhs rhs len
    (fun i => do compareOr (<- byteAt (lhs + i)) (<- byteAt (rhs + i)))
    (fun i => do compareOr (<- read32 (lhs + i)) (<- read32 (rhs + i)))
  return kMemCmpEq

/-- Whether a byte of a word has all of its bits set, `UINT8_MAX`. -/
def byteSet (bits : BitVec 32) (i : Nat) : Bool := (bits >>> (8 * i)) &&& 0xff == 0xff

/-- `PTRDIFF_MAX` -/
def ptrdiffMax : Nat := 2 ^ 31 - 1

/-- `memchr`, where nothing is returned for `NULL`. -/
def memchr (ptr : Nat) (value : BitVec 32) (len : Nat) :
    Code (Option Nat) (Option Nat) := do
  let value8 := value.setWidth 8
  let byte := fun i => do
    if (<- byteAt (ptr + i)) = value8 then raise (some (ptr + i)) else pure ()
  let (bodyOffset, tailOffset) := computeAlignment ptr 0 len
  let i <- countUp 1 bodyOffset byte len 0
  -- Strings of unknown length are searched bytewise.
  let tailOffset := if len >= ptrdiffMax then 0 else tailOffset
  let value32 := repeatByteToU32 value8
  let i <- countUp 4 tailOffset (fun i => do
    let word <- read32 (ptr + i)
    let bitsEq := ~~~(word ^^^ value32)
    if byteSet bitsEq 0 then raise (some (ptr + i))
    else if byteSet bitsEq 1 then raise (some (ptr + i + 1))
    else if byteSet bitsEq 2 then raise (some (ptr + i + 2))
    else if byteSet bitsEq 3 then raise (some (ptr + i + 3))
    else pure ()) len i
  let _ <- countUp 1 len byte len i
  return none

/-- `memrchr`, where nothing is returned for `NULL`. -/
def memrchr (ptr : Nat) (value : BitVec 32) (len : Nat) :
    Code (Option Nat) (Option Nat) := do
  let value8 := value.setWidth 8
  let value32 := repeatByteToU32 value8
  downwards ptr 0 len
    (fun i => do
      if (<- byteAt (ptr + i)) = value8 then raise (some (ptr + i)) else pure ())
    (fun i => do
      let word <- read32 (ptr + i)
      let bitsEq := ~~~(word ^^^ value32)
      if byteSet bitsEq 3 then raise (some (ptr + i + 3))
      else if byteSet bitsEq 2 then raise (some (ptr + i + 2))
      else if byteSet bitsEq 1 then raise (some (ptr + i + 1))
      else if byteSet bitsEq 0 then raise (some (ptr + i))
      else pure ())
  return none

/-- A call of a function: what it returns, and memory with the accesses it made. -/
def call {ρ : Type} (code : Code ρ ρ) (memory : Memory) : ρ × MainMemory :=
  let (out, after) := code ⟨memory, []⟩
  (returned out, after)

/-! ## Byte by byte -/

/-- Copying bytes one after the other. -/
def copyBytes (dest src : Nat) : Nat -> Memory -> Memory
  | 0, memory => memory
  | len + 1, memory =>
      let memory := copyBytes dest src len memory
      memory.store (dest + len) [memory (src + len)]

/-- Setting bytes one after the other. -/
def setBytes (dest : Nat) (byte : BitVec 8) : Nat -> Memory -> Memory
  | 0, memory => memory
  | len + 1, memory => (setBytes dest byte len memory).store (dest + len) [byte]

/-- The sign of the first difference. -/
def firstDifference : List (BitVec 8) -> List (BitVec 8) -> Int
  | left :: lefts, right :: rights =>
      if left < right then -1 else if right < left then 1 else firstDifference lefts rights
  | _, _ => 0

/-- The sign of the last difference. -/
def lastDifference (memory : Memory) (lhs rhs : Nat) : Nat -> Int
  | 0 => 0
  | len + 1 =>
      if memory (lhs + len) < memory (rhs + len) then -1
      else if memory (rhs + len) < memory (lhs + len) then 1
      else lastDifference memory lhs rhs len

/-- Where a byte occurs last. -/
def lastOccurrence (memory : Memory) (ptr : Nat) (byte : BitVec 8) : Nat -> Option Nat
  | 0 => none
  | len + 1 =>
      if memory (ptr + len) = byte then some (ptr + len)
      else lastOccurrence memory ptr byte len

/-- A region of memory does not begin at `NULL`, unless it is empty. -/
def Region (ptr len : Nat) : Prop := len = 0 ∨ 0 < ptr

/-- Only the bytes of a region are written, and words are accessed at addresses that
are multiples of four. -/
def Orderly (dest len : Nat) : MemoryAccess -> Prop
  | .load address size => size = 4 -> address % 4 = 0
  | .store address size =>
      (size = 4 -> address % 4 = 0) ∧ dest <= address ∧ address + size <= dest + len

/-- What a function returns and what it makes of memory are as they should, and so
are its accesses on the way, where it may write to a region. -/
def Does {ρ : Type} (code : Code ρ ρ) (memory : Memory) (dest len : Nat)
    (post : ρ -> Memory -> Prop) : Prop :=
  post (call code memory).1 (call code memory).2.memory ∧
  forall access, access ∈ (call code memory).2.accesses -> Orderly dest len access

end Base
end SunburstChip
