import SunburstChip.Dif.UsbdevRaw
import SunburstChip.Scratch.PlatformUsbdev

namespace SunburstChip
namespace OpenTitanUsbdev

open Routine

/-!
# The transfer of a packet

`usbdev_transfer` moves a packet between main memory and the packet buffers.  It
goes by blocks of four words, then by the words that are left, then by bytes on
the side of main memory and by a last word on the side of the device.  The two
loops together are one loop over words, which is what is proved of them; the
functions of the model that only look at the device say the same.
-/

/-! ## The function -/

/-- The memory that a transfer writes and the one that it reads.  One of them is main memory, the
other one is that of the packet buffers, so that no address is in both. -/
structure Transfer where
  destination : MainMemory
  source : MainMemory

section

variable (address : Nat)

/-- `*source` -/
def loadWord : Routine Transfer Empty (BitVec 32) := fun t =>
  (.ok (Usbdev.wordAt t.source.memory address),
    { t with source := ⟨t.source.memory, t.source.accesses ++ [.load address 4]⟩ })

/-- A byte of the source. -/
def loadByte : Routine Transfer Empty (BitVec 8) := fun t =>
  (.ok (t.source.memory address),
    { t with source := ⟨t.source.memory, t.source.accesses ++ [.load address 1]⟩ })

/-- `*destination = word` -/
def storeWord (word : BitVec 32) : Routine Transfer Empty Unit := fun t =>
  (.ok (), { t with
    destination := ⟨Usbdev.setWordAt t.destination.memory address word,
      t.destination.accesses ++ [.store address 4]⟩ })

/-- An assignment to a byte of the destination. -/
def storeByte (byte : BitVec 8) : Routine Transfer Empty Unit := fun t =>
  (.ok (), { t with
    destination := ⟨t.destination.memory.store address [byte],
      t.destination.accesses ++ [.store address 1]⟩ })

end

/-- `*destination = *source` -/
def copyWord (destination source : Nat) : Routine Transfer Empty Unit := do
  let word <- loadWord source
  storeWord destination word

/-- `UnrollFactor` -/
def unrollFactor : BitVec 8 := 4

/-- `UnrollMask` -/
def unrollMask : BitVec 32 := unrollFactor.setWidth 32 * 4 - 1

/-- The unrolled loop, with where it leaves the two pointers.  There are `fuel` rounds at most. -/
def unrolledWords (sourceEnd : Nat) : Nat -> Nat -> Nat -> Routine Transfer Empty (Nat × Nat)
  | 0, destination, source => return (destination, source)
  | fuel + 1, destination, source =>
      if source < sourceEnd then do
        copyWord destination source
        copyWord (destination + 4) (source + 4)
        copyWord (destination + 8) (source + 8)
        copyWord (destination + 12) (source + 12)
        unrolledWords sourceEnd fuel (destination + 16) (source + 16)
      else return (destination, source)

/-- The loop over the remaining whole words, with where it leaves `size` and the two pointers. -/
def remainingWords : Nat -> BitVec 8 -> Nat -> Nat -> Routine Transfer Empty (BitVec 8 × Nat × Nat)
  | 0, size, destination, source => return (size, destination, source)
  | fuel + 1, size, destination, source =>
      if size >= unrollFactor then do
        copyWord destination source
        remainingWords fuel (size - unrollFactor) (destination + 4) (source + 4)
      else return (size, destination, source)

/-- `if (condition) partialWord |= trailingBytes[i] << shift;` -/
def collectByte (condition : Bool) (address shift : Nat) (partialWord : BitVec 32) :
    Routine Transfer Empty (BitVec 32) :=
  if condition then do
    let byte <- loadByte address
    return partialWord ||| byte.setWidth 32 <<< shift
  else return partialWord

/-- `if (condition) destinationBytes[i] = ...;` -/
def unpackByte (condition : Bool) (address : Nat) (byte : BitVec 8) : Routine Transfer Empty Unit :=
  if condition then storeByte address byte else return ()

/-- The trailing bytes to the device. -/
def collectTail (size : BitVec 8) (destination source : Nat) : Routine Transfer Empty Unit := do
  let first <- loadByte source
  let partialWord <- collectByte (size > 1) (source + 1) 8 (first.setWidth 32)
  let partialWord <- collectByte (size > 2) (source + 2) 16 partialWord
  storeWord destination partialWord

/-- The trailing bytes from the device. -/
def unpackTail (size : BitVec 8) (destination source : Nat) : Routine Transfer Empty Unit := do
  let trailingBytes <- loadWord source
  storeByte destination (trailingBytes.setWidth 8)
  unpackByte (size > 1) (destination + 1) ((trailingBytes >>> 8).setWidth 8)
  unpackByte (size > 2) (destination + 2) ((trailingBytes >>> 16).setWidth 8)

/-- `usbdev_transfer` -/
def usbdevTransfer (destination source : Nat) (size : BitVec 8) (toDevice : Bool) :
    Routine Transfer Empty Unit := do
  let unrollSize := size.setWidth 32 &&& ~~~unrollMask
  let sourceEnd := source + unrollSize.toNat
  let (destination, source) <- unrolledWords sourceEnd unrollSize.toNat destination source
  let size := (size.setWidth 32 &&& unrollMask).setWidth 8
  let (size, destination, source) <- remainingWords size.toNat size destination source
  if size = 0 then
    return ()
  else if toDevice then
    collectTail size destination source
  else
    unpackTail size destination source

/-! ## Whole words -/

/-- What a number of words makes of the two memories. -/
def Transfer.words (t : Transfer) (destination source count : Nat) : Transfer where
  destination := ⟨t.destination.memory.store destination
      (t.source.memory.load source (4 * count)),
    t.destination.accesses ++ (List.range count).map (fun i => .store (destination + 4 * i) 4)⟩
  source := ⟨t.source.memory,
    t.source.accesses ++ (List.range count).map (fun i => .load (source + 4 * i) 4)⟩

@[simp] theorem Transfer.words_zero (t : Transfer) (destination source : Nat) :
    t.words destination source 0 = t := by
  simp [Transfer.words]

/-- More words behind the ones that have been copied. -/
theorem Transfer.words_words (t : Transfer) (destination source count more : Nat) :
    (t.words destination source count).words (destination + 4 * count) (source + 4 * count) more =
      t.words destination source (count + more) := by
  have shift (access : Nat -> MemoryAccess) (base : Nat) : (List.range more).map
      (fun i => access (base + 4 * count + 4 * i)) =
        ((List.range more).map (count + ·)).map (fun i => access (base + 4 * i)) := by
    rw [List.map_map]
    apply List.map_congr_left
    intro i _
    change _ = access (base + 4 * (count + i))
    rw [Nat.mul_add, Nat.add_assoc]
  unfold Transfer.words
  dsimp only
  rw [Memory.store_load_add, <- Nat.mul_add, List.append_assoc, List.append_assoc,
    shift (.store · 4), shift (.load · 4), <- List.map_append, <- List.map_append, <- List.range_add]

theorem copyWord_apply (destination source : Nat) (t : Transfer) :
    copyWord destination source t = (.ok (), t.words destination source 1) := by
  have bytes := Usbdev.map_wordByte_wordAt t.source.memory source
  have load : loadWord source t = (.ok (Usbdev.wordAt t.source.memory source),
    { t with source := ⟨t.source.memory, t.source.accesses ++ [.load source 4]⟩ }) := rfl
  unfold copyWord
  rw [bind_ok load]
  unfold storeWord Usbdev.setWordAt Transfer.words
  dsimp only
  rw [bytes]
  rfl

theorem unrolledWords_apply {sourceEnd rounds fuel : Nat} {destination source : Nat}
    (whole : sourceEnd = source + 16 * rounds) (enough : rounds <= fuel) (t : Transfer) :
    unrolledWords sourceEnd fuel destination source t =
      (.ok (destination + 16 * rounds, source + 16 * rounds),
        t.words destination source (4 * rounds)) := by
  induction fuel generalizing rounds destination source t with
  | zero =>
      have none : rounds = 0 := by omega
      subst none
      simp [unrolledWords]
  | succ fuel ih =>
      unfold unrolledWords
      by_cases more : source < sourceEnd
      · rcases Nat.exists_eq_add_of_lt (show 0 < rounds by omega) with ⟨rest, split⟩
        rw [Nat.zero_add] at split
        subst split
        have second := t.words_words destination source 1 1
        have third := t.words_words destination source 2 1
        have fourth := t.words_words destination source 3 1
        have others := @ih rest (destination + 16) (source + 16) (by omega) (by omega)
          (t.words destination source 4)
        have all := t.words_words destination source 4 (4 * rest)
        have count : 4 + 4 * rest = 4 * (rest + 1) := by omega
        have shift (start : Nat) : start + 16 + 16 * rest = start + 16 * (rest + 1) := by omega
        rw [if_pos more, bind_ok (copyWord_apply _ _ _), bind_ok (copyWord_apply _ _ _), second,
          bind_ok (copyWord_apply _ _ _), third, bind_ok (copyWord_apply _ _ _), fourth, others,
          all, count, shift, shift]
      · have none : rounds = 0 := by omega
        subst none
        rw [if_neg more]
        simp

theorem toNat_mod_four (size : BitVec 8) : (size % 4).toNat = size.toNat % 4 :=
  BitVec.toNat_umod

theorem remainingWords_apply {size : BitVec 8} {fuel : Nat} {destination source : Nat}
    (enough : size.toNat / 4 <= fuel) (t : Transfer) :
    remainingWords fuel size destination source t =
      (.ok (size % 4, destination + 4 * (size.toNat / 4), source + 4 * (size.toNat / 4)),
        t.words destination source (size.toNat / 4)) := by
  have few : forall size : BitVec 8, size.toNat < 4 -> size.toNat / 4 = 0 ∧ size % 4 = size := by
    intro size small
    refine ⟨by omega, BitVec.eq_of_toNat_eq ?_⟩
    rw [toNat_mod_four]
    omega
  induction fuel generalizing size destination source t with
  | zero =>
      rcases few size (by omega) with ⟨none, small⟩
      rw [none, small]
      simp [remainingWords]
  | succ fuel ih =>
      unfold remainingWords
      by_cases more : size >= unrollFactor
      · have less : (size - unrollFactor).toNat = size.toNat - 4 := by
          unfold unrollFactor at *
          bv_omega
        have enough' : 4 <= size.toNat := more
        have same : (size - unrollFactor) % 4 = size % 4 := by
          apply BitVec.eq_of_toNat_eq
          rw [toNat_mod_four, toNat_mod_four, less]
          omega
        have rest : (size - unrollFactor).toNat / 4 + 1 = size.toNat / 4 := by omega
        have shift (start count : Nat) : start + 4 + 4 * count = start + (4 * count + 4) := by omega
        have all := t.words_words destination source 1 ((size - unrollFactor).toNat / 4)
        rw [if_pos more, bind_ok (copyWord_apply _ _ _), ih (by omega), all, same, <- rest,
          Nat.add_comm 1, Nat.mul_add_one, shift, shift]
      · have small : size.toNat < 4 := Nat.lt_of_not_le more
        rcases few size small with ⟨none, same⟩
        rw [if_neg more, none, same]
        simp

/-! ## Trailing bytes -/

/-- What the trailing bytes to the device make of the two memories. -/
def Transfer.collected (t : Transfer) (destination source len : Nat) : Transfer where
  destination := ⟨t.destination.memory.store destination
      (t.source.memory.load source len ++ List.replicate (4 - len) 0),
    t.destination.accesses ++ [.store destination 4]⟩
  source := ⟨t.source.memory,
    t.source.accesses ++ (List.range len).map (fun i => .load (source + i) 1)⟩

/-- What those from the device make of them. -/
def Transfer.unpacked (t : Transfer) (destination source len : Nat) : Transfer where
  destination := ⟨t.destination.memory.store destination (t.source.memory.load source len),
    t.destination.accesses ++ (List.range len).map (fun i => .store (destination + i) 1)⟩
  source := ⟨t.source.memory, t.source.accesses ++ [.load source 4]⟩

/-- One, two or three bytes. -/
theorem few_cases {size : BitVec 8} (some : size ≠ 0) (few : size.toNat < 4) :
    size = 1 ∨ size = 2 ∨ size = 3 := by
  bv_omega

section

variable {size : BitVec 8}

theorem collectTail_apply (some : size ≠ 0) (few : size.toNat < 4) (destination source : Nat)
    (t : Transfer) : collectTail size destination source t =
      (.ok (), t.collected destination source size.toNat) := by
  have word := Usbdev.map_wordByte_rawTail t.source.memory source
    (Nat.pos_of_ne_zero (fun zero => some (BitVec.eq_of_toNat_eq zero))) few
  have result : collectTail size destination source t = (.ok (), ⟨⟨Usbdev.setWordAt
      t.destination.memory destination (Usbdev.rawTail t.source.memory source size.toNat),
      t.destination.accesses ++ [.store destination 4]⟩,
      (t.collected destination source size.toNat).source⟩) := by
    rcases few_cases some few with rfl | rfl | rfl
    · rfl
    · simp [collectTail, bind_apply, andThen, loadByte, collectByte, storeWord,
        Transfer.collected, Usbdev.rawTail, List.range_succ]
    · simp [collectTail, bind_apply, andThen, loadByte, collectByte, storeWord,
        Transfer.collected, Usbdev.rawTail, List.range_succ]
  rw [result]
  unfold Usbdev.setWordAt
  rw [word]
  rfl

theorem unpackTail_apply (some : size ≠ 0) (few : size.toNat < 4) (destination source : Nat)
    (t : Transfer) : unpackTail size destination source t =
      (.ok (), t.unpacked destination source size.toNat) := by
  have bytes := Usbdev.setRawTail_wordAt t.destination.memory t.source.memory source destination
    (Nat.pos_of_ne_zero (fun zero => some (BitVec.eq_of_toNat_eq zero))) few
  unfold Transfer.unpacked
  rw [<- bytes]
  rcases few_cases some few with rfl | rfl | rfl
  · rfl
  · simp [unpackTail, bind_apply, andThen, loadWord, unpackByte, storeByte, Usbdev.setRawTail,
      List.range_succ]
  · simp [unpackTail, bind_apply, andThen, loadWord, unpackByte, storeByte, Usbdev.setRawTail,
      List.range_succ]

end

/-! ## The whole transfer -/

section

variable (size : BitVec 8)

/-- `UnrollSize` is that of the blocks of four words. -/
theorem unrollSize_toNat :
    (size.setWidth 32 &&& ~~~unrollMask).toNat = 16 * (size.toNat / 16) := by
  revert size
  decide +kernel

/-- What is left of `size` behind the blocks. -/
theorem masked_toNat : ((size.setWidth 32 &&& unrollMask).setWidth 8).toNat = size.toNat % 16 := by
  revert size
  decide +kernel

end

/-- What a whole transfer makes of the two memories. -/
def Transfer.whole (t : Transfer) (destination source len : Nat) (toDevice : Bool) : Transfer :=
  let words := t.words destination source (len / 4)
  if len % 4 = 0 then words
  else if toDevice then
    words.collected (destination + 4 * (len / 4)) (source + 4 * (len / 4)) (len % 4)
  else words.unpacked (destination + 4 * (len / 4)) (source + 4 * (len / 4)) (len % 4)

theorem usbdevTransfer_apply (destination source : Nat) (size : BitVec 8) (toDevice : Bool)
    (t : Transfer) : usbdevTransfer destination source size toDevice t =
      (.ok (), t.whole destination source size.toNat toDevice) := by
  have blocks (sourceEnd : Nat) (ends : sourceEnd = source + 16 * (size.toNat / 16)) :=
    @unrolledWords_apply sourceEnd (size.toNat / 16) (16 * (size.toNat / 16)) destination source
      ends (by omega) t
  have rest := masked_toNat size
  generalize masked : (size.setWidth 32 &&& unrollMask).setWidth 8 = left at rest
  have words := @remainingWords_apply left left.toNat (destination + 16 * (size.toNat / 16))
    (source + 16 * (size.toNat / 16)) (by omega) (t.words destination source (4 * (size.toNat / 16)))
  have count : 4 * (size.toNat / 16) + left.toNat / 4 = size.toNat / 4 := by omega
  have tail : (left % 4).toNat = size.toNat % 4 := by
    rw [toNat_mod_four]
    omega
  have position (start : Nat) :
      start + 16 * (size.toNat / 16) + 4 * (left.toNat / 4) = start + 4 * (size.toNat / 4) := by
    omega
  have block (start : Nat) : start + 16 * (size.toNat / 16) =
      start + 4 * (4 * (size.toNat / 16)) := by omega
  have all := t.words_words destination source (4 * (size.toNat / 16)) (left.toNat / 4)
  rw [<- block, <- block, count] at all
  rw [position, position, all] at words
  unfold usbdevTransfer Transfer.whole
  dsimp only
  rw [unrollSize_toNat, masked, bind_ok (blocks _ rfl)]
  dsimp only
  rw [bind_ok words]
  dsimp only
  by_cases none : size.toNat % 4 = 0
  · have zero : left % 4 = 0 := BitVec.eq_of_toNat_eq (tail.trans none)
    rw [if_pos none, if_pos zero]
    rfl
  · have more : left % 4 ≠ 0 := by
      intro zero
      rw [zero] at tail
      exact none tail.symm
    have few : (left % 4).toNat < 4 := by omega
    rw [if_neg none, if_neg more]
    cases toDevice with
    | true =>
        have collected := collectTail_apply more few (destination + 4 * (size.toNat / 4))
          (source + 4 * (size.toNat / 4)) (t.words destination source (size.toNat / 4))
        rw [tail] at collected
        exact collected
    | false =>
        have unpacked := unpackTail_apply more few (destination + 4 * (size.toNat / 4))
          (source + 4 * (size.toNat / 4)) (t.words destination source (size.toNat / 4))
        rw [tail] at unpacked
        exact unpacked

/-! ## What is written and what is accessed -/

/-- The bytes that a transfer writes: the last word to the device is filled up. -/
def written (bytes : List (BitVec 8)) (toDevice : Bool) : List (BitVec 8) :=
  if toDevice then bytes ++ List.replicate ((4 - bytes.length % 4) % 4) 0 else bytes

/-- A store to one of a number of whole words. -/
def StoresWord (base words : Nat) (access : MemoryAccess) : Prop :=
  Exists fun i => i < words ∧ access = .store (base + 4 * i) 4

/-- An access to some of the bytes from an address on. -/
def Inside (base len : Nat) : MemoryAccess -> Prop
  | .load address size | .store address size => base <= address ∧ address + size <= base + len

section

variable (t : Transfer) (destination source len : Nat)

theorem whole_memory (toDevice : Bool) :
    (t.whole destination source len toDevice).destination.memory =
        t.destination.memory.store destination
          (written (t.source.memory.load source len) toDevice) ∧
      (t.whole destination source len toDevice).source.memory = t.source.memory := by
  have all : 4 * (len / 4) + len % 4 = len := Nat.div_add_mod len 4
  have bytes := t.destination.memory.store_load_add t.source.memory destination source
    (4 * (len / 4)) (len % 4)
  rw [all] at bytes
  unfold Transfer.whole written
  dsimp only
  by_cases none : len % 4 = 0
  · have padding : (4 - len % 4) % 4 = 0 := by omega
    have words : 4 * (len / 4) = len := by omega
    rw [if_pos none, Memory.load_length, padding, List.replicate_zero, List.append_nil, ite_self]
    unfold Transfer.words
    dsimp only
    rw [words]
    exact ⟨rfl, rfl⟩
  · rw [if_neg none, Memory.load_length]
    cases toDevice with
    | true =>
        have padding : (4 - len % 4) % 4 = 4 - len % 4 := by omega
        refine ⟨?_, rfl⟩
        have filled := Memory.store_append (t.destination.memory.store destination
          (t.source.memory.load source (4 * (len / 4)))) (destination + 4 * (len / 4))
          (t.source.memory.load (source + 4 * (len / 4)) (len % 4))
          (List.replicate (4 - len % 4) 0)
        rw [bytes, Memory.load_length, Nat.add_assoc, all] at filled
        have split := t.destination.memory.store_append destination
          (t.source.memory.load source len) (List.replicate (4 - len % 4) 0)
        rw [Memory.load_length] at split
        rw [padding]
        exact filled.symm.trans split
    | false => exact ⟨bytes, rfl⟩

variable {t destination source len}

theorem mem_words {count words : Nat} (fits : count <= words) {access : MemoryAccess}
    (made : access ∈ (List.range count).map (fun i => .store (destination + 4 * i) 4)) :
    StoresWord destination words access := by
  rcases List.mem_map.mp made with ⟨i, small, rfl⟩
  exact ⟨i, Nat.lt_of_lt_of_le (List.mem_range.mp small) fits, rfl⟩

/-- A row of accesses of the same size, one behind the other. -/
theorem mem_row {start size count base : Nat} {make : Nat -> Nat -> MemoryAccess}
    (kind : make = .load ∨ make = .store) (low : base <= start)
    (fits : start + size * count <= base + len) {access : MemoryAccess}
    (made : access ∈ (List.range count).map (fun i => make (start + size * i) size)) :
    Inside base len access := by
  rcases List.mem_map.mp made with ⟨i, small, rfl⟩
  have below : size * (i + 1) <= size * count := Nat.mul_le_mul_left _ (List.mem_range.mp small)
  rw [Nat.mul_succ] at below
  rcases kind with rfl | rfl
  · exact ⟨by omega, by omega⟩
  · exact ⟨by omega, by omega⟩

theorem mem_bytes {start count base : Nat} {make : Nat -> Nat -> MemoryAccess}
    (kind : make = .load ∨ make = .store) (low : base <= start) (fits : start + count <= base + len)
    {access : MemoryAccess} (made : access ∈ (List.range count).map (fun i => make (start + i) 1)) :
    Inside base len access := by
  have row := @mem_row len start 1 count base make kind low (by omega) access
  simp only [Nat.one_mul] at row
  exact row made

end

section

variable (destination source len : Nat) (target origin : Memory)

/-- To the device, whole words are stored, and bytes of the packet are loaded. -/
theorem whole_toDevice : (forall access,
      access ∈ (Transfer.whole ⟨⟨target, []⟩, ⟨origin, []⟩⟩ destination source len
        true).destination.accesses -> StoresWord destination ((len + 3) / 4) access) ∧
    forall access, access ∈ (Transfer.whole ⟨⟨target, []⟩, ⟨origin, []⟩⟩ destination source len
      true).source.accesses -> Inside source len access := by
  unfold Transfer.whole
  by_cases none : len % 4 = 0
  · rw [if_pos none]
    exact ⟨fun access made => mem_words (by omega) made,
      fun access made => mem_row (Or.inl rfl) (Nat.le_refl _) (by omega) made⟩
  · rw [if_neg none, if_pos rfl]
    constructor
    · intro access made
      rcases List.mem_append.mp made with word | last
      · exact mem_words (by omega) word
      · rw [List.mem_singleton.mp last]
        exact ⟨len / 4, by omega, rfl⟩
    · intro access made
      rcases List.mem_append.mp made with word | trailing
      · exact mem_row (Or.inl rfl) (Nat.le_refl _) (by omega) word
      · exact mem_bytes (Or.inl rfl) (Nat.le_add_right _ _) (by omega) trailing

/-- From the device, no more than the bytes of the packet are stored. -/
theorem whole_fromDevice : forall access,
    access ∈ (Transfer.whole ⟨⟨target, []⟩, ⟨origin, []⟩⟩ destination source len
      false).destination.accesses -> Inside destination len access := by
  intro access made
  unfold Transfer.whole at made
  by_cases none : len % 4 = 0
  · rw [if_pos none] at made
    exact mem_row (Or.inr rfl) (Nat.le_refl _) (by omega) made
  · rw [if_neg none, if_neg (by decide)] at made
    rcases List.mem_append.mp made with word | trailing
    · exact mem_row (Or.inr rfl) (Nat.le_refl _) (by omega) word
    · exact mem_bytes (Or.inr rfl) (Nat.le_add_right _ _) (by omega) trailing

end

/-! ## The device alone -/

theorem transferWords_run (destination words : Nat) (bytes : List (BitVec 8))
    (enough : 4 * words <= bytes.length) (packet : Memory) :
    (transferWords destination bytes words).run byteRegion packet =
      some ((), packet.store destination (bytes.take (4 * words))) := by
  induction words generalizing destination bytes packet with
  | zero => simp [transferWords]
  | succ words ih =>
      rcases bytes with _ | ⟨a, _ | ⟨b, _ | ⟨c, _ | ⟨d, bytes⟩⟩⟩⟩
      all_goals simp only [List.length_cons, List.length_nil] at enough
      · omega
      · omega
      · omega
      · omega
      · have word := store_setWordBytes_four packet destination a b c d
        have rest := ih (destination + 4) bytes (by omega) (packet.store destination [a, b, c, d])
        have all := packet.store_append destination [a, b, c, d] (bytes.take (4 * words))
        change (transferWords (destination + 4) bytes words).run byteRegion
          (packet.store destination
            ((List.range 4).map (wordByte (setWordBytes 0 0 [a, b, c, d])))) = _
        rw [word, rest]
        exact congrArg (fun memory => some ((), memory)) all

/-- A word of a few bytes is filled up with zeros. -/
theorem map_wordByte_setWordBytes {bytes : List (BitVec 8)} (few : bytes.length <= 4) :
    (List.range 4).map (wordByte (setWordBytes 0 0 bytes)) =
      bytes ++ List.replicate (4 - bytes.length) 0 := by
  have zero : forall j, j < 4 -> wordByte 0 j = 0 := by decide
  apply List.ext_getElem
  · simp
    omega
  · intro j inside _
    have small : j < 4 := by simpa using inside
    rw [List.getElem_map, List.getElem_range, wordByte_setWordBytes _ _ (by omega) small,
      if_pos (Nat.zero_le _), zero j small, List.getElem_append, Nat.sub_zero]
    by_cases given : j < bytes.length
    · simp [given]
    · simp [given]

/-- The function that only looks at the device writes what a transfer to it does. -/
theorem transferToDevice_run (destination : Nat) (size : BitVec 8) (bytes : List (BitVec 8))
    (packet : Memory) (given : bytes.length = size.toNat) :
    (transferToDevice destination bytes size).run byteRegion packet =
      some ((), packet.store destination (written bytes true)) := by
  have all : bytes.take (4 * (size.toNat / 4)) ++ bytes.drop (4 * (size.toNat / 4)) = bytes :=
    List.take_append_drop _ _
  have front : (bytes.take (4 * (size.toNat / 4))).length = 4 * (size.toNat / 4) := by
    rw [List.length_take]
    omega
  have back : (bytes.drop (4 * (size.toNat / 4))).length = size.toNat % 4 := by
    rw [List.length_drop]
    omega
  unfold transferToDevice written
  dsimp only
  rw [Mmio.run_bind_of (transferWords_run _ _ _ (by omega) _), given, if_pos rfl]
  by_cases none : size.toNat % 4 = 0
  · have nothing : bytes.drop (4 * (size.toNat / 4)) = [] :=
      List.eq_nil_of_length_eq_zero (back.trans none)
    rw [nothing, List.append_nil] at all
    rw [if_pos none, none, all]
    simp
  · have padding : (4 - size.toNat % 4) % 4 = 4 - size.toNat % 4 := by omega
    have tail : (bytes.drop (4 * (size.toNat / 4))).take (size.toNat % 4) =
        bytes.drop (4 * (size.toNat / 4)) := List.take_of_length_le (Nat.le_of_eq back)
    have last := @map_wordByte_setWordBytes (bytes.drop (4 * (size.toNat / 4))) (by omega)
    have split := packet.store_append destination (bytes.take (4 * (size.toNat / 4)))
      (bytes.drop (4 * (size.toNat / 4)) ++ List.replicate (4 - size.toNat % 4) 0)
    rw [front, <- List.append_assoc, all] at split
    rw [back] at last
    rw [if_neg none, tail, padding, <- split, <- last]
    rfl

/-- A transfer leaves in the packet buffers what the function that only looks at them does, and
takes from them the bytes that the other one returns. -/
theorem usbdevTransfer_device (destination source : Nat) (size : BitVec 8) (t : Transfer) :
    (transferToDevice destination (t.source.memory.load source size.toNat) size).run byteRegion
        t.destination.memory =
      some ((), (usbdevTransfer destination source size true t).2.destination.memory) ∧
    Exists fun bytes =>
      (transferFromDevice source size.toNat).run byteRegion t.source.memory =
          some (bytes, t.source.memory) ∧
        (usbdevTransfer destination source size false t).2.destination.memory =
          t.destination.memory.store destination bytes := by
  rw [usbdevTransfer_apply, usbdevTransfer_apply]
  dsimp only
  rw [(whole_memory t destination source size.toNat true).1,
    (whole_memory t destination source size.toNat false).1]
  refine ⟨transferToDevice_run _ _ _ _ (Memory.load_length _ _ _), _, ?_, rfl⟩
  exact run_memcpyWordsFromMmio32 t.source.memory source size.toNat

/-- A transfer copies the bytes of the packet.  To the device it stores whole words only, no more
than the packet needs, and loads nothing behind the packet; from the device it stores nothing
behind the packet. -/
theorem usbdevTransfer_copies (destination source : Nat) (size : BitVec 8) (toDevice : Bool)
    (target origin : Memory) :
    Exists fun after =>
      usbdevTransfer destination source size toDevice ⟨⟨target, []⟩, ⟨origin, []⟩⟩ = (.ok (), after) ∧
        after.destination.memory.load destination size.toNat =
          origin.load source size.toNat ∧
        after.source.memory = origin ∧
        (toDevice = true ->
          (forall access, access ∈ after.destination.accesses ->
            StoresWord destination ((size.toNat + 3) / 4) access) ∧
          (forall access, access ∈ after.source.accesses -> Inside source size.toNat access) ∧
          forall other, Memory.Outside destination (4 * ((size.toNat + 3) / 4)) other ->
            after.destination.memory other = target other) ∧
        (toDevice = false ->
          (forall access, access ∈ after.destination.accesses ->
            Inside destination size.toNat access) ∧
          forall other, Memory.Outside destination size.toNat other ->
            after.destination.memory other = target other) := by
  rcases whole_memory ⟨⟨target, []⟩, ⟨origin, []⟩⟩ destination source size.toNat toDevice with
    ⟨memory, kept⟩
  have loaded (more : List (BitVec 8)) :=
    target.load_store_self destination (origin.load source size.toNat) more
  rw [Memory.load_length] at loaded
  refine ⟨_, usbdevTransfer_apply destination source size toDevice _, ?_, kept, ?_, ?_⟩
  · rw [memory]
    cases toDevice with
    | true => exact loaded _
    | false => simpa [written] using loaded []
  · rintro rfl
    rcases whole_toDevice destination source size.toNat target origin with ⟨stores, loads⟩
    refine ⟨stores, loads, ?_⟩
    intro other outside
    rw [memory]
    apply Memory.store_outside
    have length : (written (origin.load source size.toNat) true).length =
        4 * ((size.toNat + 3) / 4) := by
      simp [written]
      omega
    rw [length]
    exact outside
  · rintro rfl
    refine ⟨whole_fromDevice destination source size.toNat target origin, ?_⟩
    intro other outside
    rw [memory]
    apply Memory.store_outside
    have length : (written (origin.load source size.toNat) false).length = size.toNat := by
      simp [written]
    rw [length]
    exact outside

end OpenTitanUsbdev
end SunburstChip
