import SunburstChip.Base.Memory

namespace SunburstChip
namespace Base

open Routine

/-!
# Words instead of bytes

The memory functions of `memory.c` do what the same functions would do one byte
at a time.  The loops are about an offset, and what they keep is said for any
offset, so that it does not matter how much of a region is accessed by words.
-/

/-! ## Alignment -/

theorem computeNumLeadingBytes_le (left right len : Nat) :
    computeNumLeadingBytes left right len <= len := by
  unfold computeNumLeadingBytes
  split
  · exact Nat.le_refl len
  · next long =>
      dsimp only
      split
      · have small : (4 - misalignment32Of left) &&& 0x3 <= 0x3 := Nat.and_le_right
        omega
      · exact Nat.le_refl len

theorem computeAlignment_le (left right len : Nat) :
    (computeAlignment left right len).1 <= (computeAlignment left right len).2 ∧
      (computeAlignment left right len).2 <= len := by
  have leading := computeNumLeadingBytes_le left right len
  unfold computeAlignment
  dsimp only
  omega

theorem computeAlignment_whole (left right len : Nat) :
    ((computeAlignment left right len).2 - (computeAlignment left right len).1) % 4 = 0 := by
  unfold computeAlignment
  dsimp only
  omega

/-- The body, if there is one, begins at multiples of four. -/
theorem computeAlignment_aligned {left right len : Nat}
    (body : (computeAlignment left right len).1 < (computeAlignment left right len).2) :
    (left + (computeAlignment left right len).1) % 4 = 0 ∧
      (right = 0 ∨ (right + (computeAlignment left right len).1) % 4 = 0) := by
  have mask : forall ahead, ahead < 4 -> (4 - ahead) &&& 0x3 = (4 - ahead) % 4 := by decide
  have ahead := mask (left % 4) (Nat.mod_lt left (by decide))
  unfold computeAlignment computeNumLeadingBytes misalignment32Of at *
  dsimp only at *
  split at body
  · omega
  · next long =>
      rw [if_neg long]
      split at body
      · next together =>
          rw [if_pos together, ahead]
          omega
      · omega

/-! ## The three loops -/

section

variable {ρ : Type} {left right len : Nat} {byte word : Nat -> Code ρ Unit}
variable (inv : Nat -> MainMemory -> Prop) {early : ρ -> MainMemory -> Prop}

/-- Going up, a word is accessed at a multiple of four, and the region has four more
bytes there. -/
theorem triple_upwards
    (bytes : forall i, i < len ->
      Triple (inv i) (byte i) (Ends (fun _ => inv (i + 1)) early))
    (words : forall i, i + 4 <= len -> (left + i) % 4 = 0 ->
      (right = 0 ∨ (right + i) % 4 = 0) ->
      Triple (inv i) (word i) (Ends (fun _ => inv (i + 4)) early)) :
    Triple (inv 0) (upwards left right len byte word) (Ends (fun _ => inv len) early) := by
  have within := computeAlignment_le left right len
  have whole := computeAlignment_whole left right len
  have aligned := @computeAlignment_aligned left right len
  unfold upwards
  dsimp only
  generalize (computeAlignment left right len).1 = bodyOffset at *
  generalize (computeAlignment left right len).2 = tailOffset at *
  have head : Triple (inv 0) (countUp 1 bodyOffset byte len 0)
      (Ends (fun i s => i = bodyOffset ∧ inv bodyOffset s) early) :=
    Triple.countUp (by decide) (Nat.mod_one _) (fun i _ inside _ => bytes i (by omega)) (by omega)
      (by omega)
  have body : Triple (inv bodyOffset) (countUp 4 tailOffset word len bodyOffset)
      (Ends (fun i s => i = tailOffset ∧ inv tailOffset s) early) := by
    apply Triple.countUp (by decide) whole _ within.1 (by omega)
    intro i behind inside steps
    have multiple := aligned (by omega)
    exact words i (by omega) (by omega) (by omega)
  have tail : Triple (inv tailOffset) (countUp 1 len byte len tailOffset)
      (Ends (fun i s => i = len ∧ inv len s) early) :=
    Triple.countUp (by decide) (Nat.mod_one _) (fun i _ inside _ => bytes i (by omega)) (by omega)
      (by omega)
  apply head.next
  rintro i s ⟨rfl, holds⟩
  apply body.next _ _ s holds
  rintro i s ⟨rfl, holds⟩
  apply tail.next _ _ s holds
  rintro i s ⟨_, holds⟩
  exact holds

/-- So it is going down. -/
theorem triple_downwards
    (bytes : forall i, i < len ->
      Triple (inv (i + 1)) (byte i) (Ends (fun _ => inv i) early))
    (words : forall i, i + 4 <= len -> (left + i) % 4 = 0 ->
      (right = 0 ∨ (right + i) % 4 = 0) ->
      Triple (inv (i + 4)) (word i) (Ends (fun _ => inv i) early)) :
    Triple (inv len) (downwards left right len byte word) (Ends (fun _ => inv 0) early) := by
  have within := computeAlignment_le left right len
  have whole := computeAlignment_whole left right len
  have aligned := @computeAlignment_aligned left right len
  unfold downwards
  dsimp only
  generalize (computeAlignment left right len).1 = bodyOffset at *
  generalize (computeAlignment left right len).2 = tailOffset at *
  have single : forall fin, 1 <= fin -> fin <= len ->
      Triple (inv fin) (byte (fin - 1)) (Ends (fun _ => inv (fin - 1)) early) := by
    intro fin some inside
    have round := bytes (fin - 1) (by omega)
    rwa [Nat.sub_add_cancel some] at round
  have tail : Triple (inv len) (countDown 1 tailOffset (fun fin => byte (fin - 1)) len len)
      (Ends (fun i s => i = tailOffset ∧ inv tailOffset s) early) :=
    Triple.countDown (by decide) (Nat.mod_one _)
      (fun fin inside behind _ => single fin (by omega) behind) (by omega) (by omega)
  have body : Triple (inv tailOffset)
      (countDown 4 bodyOffset (fun fin => word (fin - 4)) len tailOffset)
      (Ends (fun i s => i = bodyOffset ∧ inv bodyOffset s) early) := by
    apply Triple.countDown (by decide) whole _ within.1 (by omega)
    intro fin inside behind steps
    have multiple := aligned (by omega)
    have round := words (fin - 4) (by omega) (by omega) (by omega)
    rwa [Nat.sub_add_cancel (by omega)] at round
  have head : Triple (inv bodyOffset)
      (countDown 1 0 (fun fin => byte (fin - 1)) len bodyOffset)
      (Ends (fun i s => i = 0 ∧ inv 0 s) early) :=
    Triple.countDown (by decide) (Nat.mod_one _)
      (fun fin inside behind _ => single fin (by omega) (by omega)) (by omega) (by omega)
  apply tail.next
  rintro i s ⟨rfl, holds⟩
  apply body.next _ _ s holds
  rintro i s ⟨rfl, holds⟩
  apply head.next _ _ s holds
  rintro i s ⟨_, holds⟩
  exact holds

end

/-! ## Bytes of words -/

theorem map_wordByte (a b c d : BitVec 8) :
    (List.range 4).map (wordByte (setWordBytes 0 0 [a, b, c, d])) = [a, b, c, d] := by
  have read : forall j, j < 4 ->
      wordByte (setWordBytes 0 0 [a, b, c, d]) j = [a, b, c, d].getD j 0 := by
    intro j inside
    rw [wordByte_setWordBytes _ _ (by simp) inside, if_pos (Nat.zero_le j), Nat.sub_zero]
    rcases j with _ | _ | _ | _ | j
    · rfl
    · rfl
    · rfl
    · rfl
    · omega
  change [wordByte _ 0, wordByte _ 1, wordByte _ 2, wordByte _ 3] = _
  rw [read 0 (by decide), read 1 (by decide), read 2 (by decide), read 3 (by decide)]
  rfl

theorem toNat_word (word : BitVec 32) :
    word.toNat = (wordByte word 0).toNat + 2 ^ 8 * (wordByte word 1).toNat +
      2 ^ 16 * (wordByte word 2).toNat + 2 ^ 24 * (wordByte word 3).toNat := by
  have bound := word.isLt
  simp only [wordByte, BitVec.extractLsb'_toNat, Nat.shiftRight_eq_div_pow]
  omega

/-- The number that four bytes are, the first of them being the lowest. -/
theorem toNat_setWordBytes (a b c d : BitVec 8) :
    (setWordBytes 0 0 [a, b, c, d]).toNat =
      a.toNat + 2 ^ 8 * b.toNat + 2 ^ 16 * c.toNat + 2 ^ 24 * d.toNat := by
  have bytes : [wordByte (setWordBytes 0 0 [a, b, c, d]) 0,
      wordByte (setWordBytes 0 0 [a, b, c, d]) 1, wordByte (setWordBytes 0 0 [a, b, c, d]) 2,
      wordByte (setWordBytes 0 0 [a, b, c, d]) 3] = [a, b, c, d] := map_wordByte a b c d
  simp only [List.cons.injEq, and_true] at bytes
  rw [toNat_word, bytes.1, bytes.2.1, bytes.2.2.1, bytes.2.2.2]

theorem bswap32_setWordBytes (a b c d : BitVec 8) :
    bswap32 (setWordBytes 0 0 [a, b, c, d]) = setWordBytes 0 0 [d, c, b, a] := by
  have bytes : [wordByte (setWordBytes 0 0 [a, b, c, d]) 0,
      wordByte (setWordBytes 0 0 [a, b, c, d]) 1, wordByte (setWordBytes 0 0 [a, b, c, d]) 2,
      wordByte (setWordBytes 0 0 [a, b, c, d]) 3] = [a, b, c, d] := map_wordByte a b c d
  simp only [List.cons.injEq, and_true] at bytes
  unfold bswap32
  rw [bytes.1, bytes.2.1, bytes.2.2.1, bytes.2.2.2]

theorem repeatByteToU32_eq : forall byte : BitVec 8,
    repeatByteToU32 byte = setWordBytes 0 0 [byte, byte, byte, byte] := by decide +kernel

theorem map_repeatByteToU32 (byte : BitVec 8) :
    (List.range 4).map (wordByte (repeatByteToU32 byte)) = List.replicate 4 byte := by
  rw [repeatByteToU32_eq, map_wordByte]
  rfl

theorem wordByte_repeatByteToU32 (byte : BitVec 8) {i : Nat} (inside : i < 4) :
    wordByte (repeatByteToU32 byte) i = byte := by
  have read := congrArg (fun bytes => bytes[i]?) (map_repeatByteToU32 byte)
  simp only [List.getElem?_map, List.getElem?_range inside, Option.map_some,
    List.getElem?_replicate_of_lt inside, Option.some.injEq] at read
  exact read

theorem toNat_byteMask (bits : BitVec 32) (i : Nat) :
    ((bits >>> (8 * i)) &&& 0xff).toNat = (wordByte bits i).toNat := by
  unfold wordByte
  rw [BitVec.toNat_and, BitVec.toNat_ushiftRight, BitVec.extractLsb'_toNat]
  exact Nat.and_two_pow_sub_one_eq_mod _ 8

theorem wordByte_not (word : BitVec 32) {i : Nat} (inside : i < 4) :
    wordByte (~~~word) i = ~~~(wordByte word i) := by
  apply BitVec.eq_of_getLsbD_eq
  intro k small
  have within : 8 * i + k < 32 := by omega
  simp [wordByte, small, within]

/-- The bits in which a word equals the repeated byte are all those of a byte where
the word has that byte. -/
theorem byteSet_eq (word : BitVec 32) (byte : BitVec 8) {i : Nat} (inside : i < 4) :
    byteSet (~~~(word ^^^ repeatByteToU32 byte)) i = decide (wordByte word i = byte) := by
  have full : forall bits : BitVec 32, byteSet bits i = decide (wordByte bits i = 0xff) := by
    intro bits
    unfold byteSet
    rw [beq_eq_decide, decide_eq_decide, <- BitVec.toNat_inj, <- BitVec.toNat_inj, toNat_byteMask]
    rfl
  rw [full, wordByte_not _ inside, decide_eq_decide]
  have differences : wordByte (word ^^^ repeatByteToU32 byte) i = wordByte word i ^^^ byte := by
    unfold wordByte
    rw [BitVec.extractLsb'_xor]
    exact congrArg _ (wordByte_repeatByteToU32 byte inside)
  rw [differences]
  constructor
  · intro none
    have zero := congrArg (fun bits => ~~~bits) none
    rw [BitVec.not_not] at zero
    exact BitVec.xor_eq_zero_iff.mp zero
  · intro same
    rw [same, BitVec.xor_self]
    rfl

/-! ## Accesses -/

/-- Memory is as expected, and it has been accessed as it should. -/
def Holds (dest len : Nat) (memory : Memory) (s : MainMemory) : Prop :=
  s.memory = memory ∧ forall access, access ∈ s.accesses -> Orderly dest len access

section

variable {ρ : Type} {dest len : Nat} {memory : Memory} {early : ρ -> MainMemory -> Prop}

theorem Holds.noted {next : Memory} {s : MainMemory} (holds : Holds dest len memory s)
    {access : MemoryAccess} (orderly : Orderly dest len access) :
    Holds dest len next ⟨next, s.accesses ++ [access]⟩ := by
  refine ⟨rfl, fun other inside => ?_⟩
  rcases List.mem_append.mp inside with before | now
  · exact holds.2 other before
  · rw [List.mem_singleton.mp now]
    exact orderly

theorem triple_fetch {address size : Nat} (aligned : size = 4 -> address % 4 = 0) :
    Triple (Holds dest len memory) (fetch address size)
      (Ends (fun bytes s => bytes = memory.load address size ∧ Holds dest len memory s) early) := by
  intro s holds
  have same := holds.1
  subst same
  exact ⟨rfl, holds.noted aligned⟩

theorem triple_byteAt (address : Nat) :
    Triple (Holds dest len memory) (byteAt address)
      (Ends (fun byte s => byte = memory address ∧ Holds dest len memory s) early) := by
  apply (triple_fetch (fun same => absurd same (by decide))).next
  rintro bytes s ⟨rfl, holds⟩
  exact ⟨rfl, holds⟩

theorem triple_read32 {address : Nat} (aligned : address % 4 = 0) :
    Triple (Holds dest len memory) (read32 address)
      (Ends (fun word s => word = setWordBytes 0 0 [memory address, memory (address + 1),
        memory (address + 2), memory (address + 3)] ∧ Holds dest len memory s) early) := by
  apply (triple_fetch (fun _ => aligned)).next
  rintro bytes s ⟨rfl, holds⟩
  exact ⟨rfl, holds⟩

theorem triple_deposit {address : Nat} {bytes : List (BitVec 8)}
    (aligned : bytes.length = 4 -> address % 4 = 0) (above : dest <= address)
    (inside : address + bytes.length <= dest + len) :
    Triple (Holds dest len memory) (deposit address bytes)
      (Ends (fun _ => Holds dest len (memory.store address bytes)) early) := by
  intro s holds
  have same := holds.1
  subst same
  exact holds.noted ⟨aligned, above, inside⟩

/-- What a function does, from what its code does on a fresh record of accesses. -/
theorem does_of_triple {code : Code ρ ρ} {post : ρ -> Memory -> Prop}
    (triple : Triple (Holds dest len memory) code
      (Ends (fun out s => Exists fun after => Holds dest len after s ∧ post out after)
        (fun out s => Exists fun after => Holds dest len after s ∧ post out after))) :
    Does code memory dest len post := by
  have start : Holds dest len memory ⟨memory, []⟩ := ⟨rfl, fun access inside => by cases inside⟩
  have outcome := triple _ start
  unfold Does call
  generalize code ⟨memory, []⟩ = ended at outcome ⊢
  rcases ended with ⟨out | out, s⟩
  · rcases outcome with ⟨after, ⟨rfl, orderly⟩, holds⟩
    exact ⟨holds, orderly⟩
  · rcases outcome with ⟨after, ⟨rfl, orderly⟩, holds⟩
    exact ⟨holds, orderly⟩

end

/-! ## Writing -/

section

variable {dest src len : Nat} (memory : Memory)

theorem copyBytes_eq (apart : Memory.Apart dest src len) {i : Nat} (inside : i <= len) :
    copyBytes dest src i memory = memory.store dest (memory.load src i) := by
  induction i with
  | zero => exact (memory.store_nil dest).symm
  | succ i ih =>
      have outside : Memory.Outside dest (memory.load src i).length (src + i) := by
        rw [memory.load_length]
        rcases apart with behind | before
        · exact Or.inr (by omega)
        · exact Or.inl (by omega)
      have position : dest + i = dest + (memory.load src i).length := by rw [memory.load_length]
      rw [copyBytes, ih (by omega), memory.store_outside outside, position, memory.store_append,
        memory.load_add]
      rfl

theorem setBytes_eq (dest : Nat) (byte : BitVec 8) (i : Nat) :
    setBytes dest byte i memory = memory.store dest (List.replicate i byte) := by
  induction i with
  | zero => exact (memory.store_nil dest).symm
  | succ i ih =>
      have position : dest + i = dest + (List.replicate i byte).length := by
        rw [List.length_replicate]
      rw [setBytes, ih, position, memory.store_append, List.replicate_succ']

/-- Copying `size` bytes more. -/
theorem copy_more (apart : Memory.Apart dest src len) {i size : Nat} (inside : i + size <= len) :
    (memory.store dest (memory.load src i)).store (dest + i)
        ((memory.store dest (memory.load src i)).load (src + i) size) =
      memory.store dest (memory.load src (i + size)) := by
  have kept : (memory.store dest (memory.load src i)).load (src + i) size =
      memory.load (src + i) size := by
    apply memory.load_store
    rw [memory.load_length]
    rcases apart with behind | before
    · exact Or.inr (by omega)
    · exact Or.inl (by omega)
  have position : dest + i = dest + (memory.load src i).length := by rw [memory.load_length]
  rw [kept, memory.load_add, position, memory.store_append]

theorem set_more (dest : Nat) (byte : BitVec 8) (i size : Nat) :
    (memory.store dest (List.replicate i byte)).store (dest + i) (List.replicate size byte) =
      memory.store dest (List.replicate (i + size) byte) := by
  have position : dest + i = dest + (List.replicate i byte).length := by
    rw [List.length_replicate]
  rw [position, memory.store_append, List.replicate_append_replicate]

variable {ρ : Type} {early : ρ -> MainMemory -> Prop} {i : Nat}

theorem triple_copyByte (apart : Memory.Apart dest src len) (inside : i < len) :
    Triple (Holds dest len (memory.store dest (memory.load src i)))
      (do setByteAt (dest + i) (<- byteAt (src + i)))
      (Ends (fun _ => Holds dest len (memory.store dest (memory.load src (i + 1)))) early) := by
  apply (triple_byteAt (src + i)).next
  rintro byte s ⟨rfl, holds⟩
  have above : dest <= dest + i := Nat.le_add_right dest i
  have more := @copy_more dest src len memory apart i 1 inside
  rw [<- more]
  exact triple_deposit (by simp) above (by simp; omega) s holds

theorem triple_copyWord (apart : Memory.Apart dest src len) (inside : i + 4 <= len)
    (aligned : (dest + i) % 4 = 0) (aligned' : (src + i) % 4 = 0) :
    Triple (Holds dest len (memory.store dest (memory.load src i)))
      (do write32 (<- read32 (src + i)) (dest + i))
      (Ends (fun _ => Holds dest len (memory.store dest (memory.load src (i + 4)))) early) := by
  apply (triple_read32 aligned').next
  rintro word s ⟨rfl, holds⟩
  have above : dest <= dest + i := Nat.le_add_right dest i
  have more := copy_more memory apart inside
  rw [<- more]
  unfold write32
  rw [map_wordByte]
  exact triple_deposit (fun _ => aligned) above (by simp; omega) s holds

theorem triple_setByte (byte : BitVec 8) (inside : i < len) :
    Triple (Holds dest len (memory.store dest (List.replicate i byte)))
      (setByteAt (dest + i) byte)
      (Ends (fun _ => Holds dest len (memory.store dest (List.replicate (i + 1) byte)))
        early) := by
  have above : dest <= dest + i := Nat.le_add_right dest i
  rw [<- set_more]
  exact triple_deposit (by simp) above (by simp; omega)

theorem triple_setWord (byte : BitVec 8) (inside : i + 4 <= len)
    (aligned : (dest + i) % 4 = 0) :
    Triple (Holds dest len (memory.store dest (List.replicate i byte)))
      (write32 (repeatByteToU32 byte) (dest + i))
      (Ends (fun _ => Holds dest len (memory.store dest (List.replicate (i + 4) byte)))
        early) := by
  have above : dest <= dest + i := Nat.le_add_right dest i
  rw [<- set_more]
  unfold write32
  rw [map_repeatByteToU32]
  exact triple_deposit (fun _ => aligned) above (by simp; omega)

end

/-- `memcpy` copies its bytes. -/
theorem memcpy_does (memory : Memory) {dest src len : Nat} (here : Region dest len)
    (there : Region src len) (apart : Memory.Apart dest src len) :
    Does (memcpy dest src len) memory dest len (fun result after =>
      result = dest ∧ after = copyBytes dest src len memory) := by
  rw [copyBytes_eq memory apart (Nat.le_refl len)]
  apply does_of_triple
  unfold memcpy
  by_cases null : dest = 0 ∨ src = 0
  · have empty : len = 0 := by
      unfold Region at here there
      omega
    subst empty
    rw [if_pos null]
    exact fun s holds => ⟨memory, holds, rfl, (memory.store_nil dest).symm⟩
  · have source : src ≠ 0 := fun zero => null (Or.inr zero)
    have start : Holds dest len memory = Holds dest len (memory.store dest (memory.load src 0)) :=
      by rw [Memory.load_zero, Memory.store_nil]
    rw [if_neg null, start]
    apply Triple.next
    · exact triple_upwards (fun i => Holds dest len (memory.store dest (memory.load src i)))
        (fun i inside => triple_copyByte memory apart inside)
        (fun i inside aligned aligned' =>
          triple_copyWord memory apart inside aligned (aligned'.resolve_left source))
    · exact fun _ s holds => ⟨_, holds, rfl, rfl⟩

/-- `memset` sets its bytes. -/
theorem memset_does (memory : Memory) (dest : Nat) (value : BitVec 32) (len : Nat) :
    Does (memset dest value len) memory dest len (fun result after =>
      result = dest ∧ after = setBytes dest (value.setWidth 8) len memory) := by
  rw [setBytes_eq]
  apply does_of_triple
  have start : Holds dest len memory =
      Holds dest len (memory.store dest (List.replicate 0 (value.setWidth 8))) := by
    rw [List.replicate_zero, Memory.store_nil]
  rw [start]
  apply Triple.next
  · exact triple_upwards
      (fun i => Holds dest len (memory.store dest (List.replicate i (value.setWidth 8))))
      (fun i inside => triple_setByte memory (value.setWidth 8) inside)
      (fun i inside aligned _ => triple_setWord memory (value.setWidth 8) inside aligned)
  · exact fun _ s holds => ⟨_, holds, rfl, rfl⟩

/-! ## Comparing -/

/-- The sign of a comparison. -/
def signOf {width : Nat} (left right : BitVec width) : Int :=
  if left < right then -1 else if right < left then 1 else 0

theorem triple_compareOr {width : Nat} (left right : BitVec width) (holds : MainMemory -> Prop) :
    Triple holds (compareOr left right)
      (Ends (fun _ s => signOf left right = 0 ∧ holds s)
        (fun result s => result.sign = signOf left right ∧ signOf left right ≠ 0 ∧ holds s)) := by
  intro s now
  unfold compareOr signOf
  split
  · exact ⟨rfl, by decide, now⟩
  · split
    · exact ⟨rfl, by decide, now⟩
    · exact ⟨rfl, now⟩

theorem firstDifference_append {lefts rights : List (BitVec 8)}
    (same : lefts.length = rights.length) (lefts' rights' : List (BitVec 8)) :
    firstDifference (lefts ++ lefts') (rights ++ rights') =
      if firstDifference lefts rights = 0 then firstDifference lefts' rights'
      else firstDifference lefts rights := by
  induction lefts generalizing rights with
  | nil =>
      rw [List.length_nil, eq_comm, List.length_eq_zero_iff] at same
      subst same
      rfl
  | cons left lefts ih =>
      cases rights with
      | nil => cases same
      | cons right rights =>
          have behind := ih (Nat.succ.inj same)
          rw [List.cons_append, List.cons_append, firstDifference, firstDifference]
          split
          · rfl
          · split
            · rfl
            · exact behind

theorem firstDifference_single (left right : BitVec 8) :
    firstDifference [left] [right] = signOf left right := rfl

/-- The last digit only matters where the others are the same. -/
theorem compare_digits {x x' : Nat} (digit : x < 2 ^ 8) (digit' : x' < 2 ^ 8) (y y' : Nat)
    (next : Int) :
    (if x + 2 ^ 8 * y < x' + 2 ^ 8 * y' then -1
      else if x' + 2 ^ 8 * y' < x + 2 ^ 8 * y then 1 else next) =
      if y < y' then -1 else if y' < y then 1 else if x < x' then -1 else if x' < x then 1
      else next := by
  rcases Nat.lt_trichotomy y y' with less | rfl | more
  · rw [if_pos less, if_pos (by omega)]
  · simp only [Nat.add_lt_add_iff_right, Nat.lt_irrefl, if_false]
  · rw [if_neg (by omega), if_pos (by omega), if_neg (by omega), if_pos more]

/-- Words are compared from their last byte on. -/
theorem signOf_words (a b c d a' b' c' d' : BitVec 8) :
    signOf (setWordBytes 0 0 [a, b, c, d]) (setWordBytes 0 0 [a', b', c', d']) =
      firstDifference [d, c, b, a] [d', c', b', a'] := by
  have digits (a b c d : BitVec 8) : (setWordBytes 0 0 [a, b, c, d]).toNat =
      a.toNat + 2 ^ 8 * (b.toNat + 2 ^ 8 * (c.toNat + 2 ^ 8 * d.toNat)) := by
    rw [toNat_setWordBytes]
    omega
  simp only [signOf, firstDifference, BitVec.lt_def, digits]
  rw [compare_digits a.isLt a'.isLt, compare_digits b.isLt b'.isLt,
    compare_digits c.isLt c'.isLt]

section

variable (memory : Memory) {lhs rhs len i : Nat}

/-- The first difference is among the next bytes, or behind them. -/
theorem firstDifference_load {size : Nat} (inside : i + size <= len) :
    firstDifference (memory.load (lhs + i) (len - i)) (memory.load (rhs + i) (len - i)) =
      if firstDifference (memory.load (lhs + i) size) (memory.load (rhs + i) size) = 0 then
        firstDifference (memory.load (lhs + (i + size)) (len - (i + size)))
          (memory.load (rhs + (i + size)) (len - (i + size)))
      else firstDifference (memory.load (lhs + i) size) (memory.load (rhs + i) size) := by
  have left : len - i = size + (len - (i + size)) := by omega
  have same : (memory.load (lhs + i) size).length = (memory.load (rhs + i) size).length := by
    rw [memory.load_length, memory.load_length]
  rw [left, memory.load_add, memory.load_add, firstDifference_append same, Nat.add_assoc,
    Nat.add_assoc]

theorem lastDifference_succ :
    lastDifference memory lhs rhs (i + 1) =
      if signOf (memory (lhs + i)) (memory (rhs + i)) = 0 then lastDifference memory lhs rhs i
      else signOf (memory (lhs + i)) (memory (rhs + i)) := by
  rw [lastDifference, signOf]
  split
  · rfl
  · split
    · rfl
    · rfl

theorem firstDifference_cons (left right : BitVec 8) (lefts rights : List (BitVec 8)) :
    firstDifference (left :: lefts) (right :: rights) =
      if signOf left right = 0 then firstDifference lefts rights else signOf left right :=
  @firstDifference_append [left] [right] rfl lefts rights

/-- What is looked for behind a first difference is looked for behind each of its parts. -/
theorem difference_chain (first behind next : Int) :
    (if (if first = 0 then behind else first) = 0 then next
      else if first = 0 then behind else first) =
      if first = 0 then if behind = 0 then next else behind else first := by
  by_cases none : first = 0
  · simp only [if_pos none]
  · simp only [if_neg none]

/-- The last difference is among the last four bytes, or in front of them. -/
theorem lastDifference_word :
    lastDifference memory lhs rhs (i + 4) =
      if firstDifference
          [memory (lhs + i + 3), memory (lhs + i + 2), memory (lhs + i + 1), memory (lhs + i)]
          [memory (rhs + i + 3), memory (rhs + i + 2), memory (rhs + i + 1), memory (rhs + i)] = 0
      then lastDifference memory lhs rhs i
      else firstDifference
        [memory (lhs + i + 3), memory (lhs + i + 2), memory (lhs + i + 1), memory (lhs + i)]
        [memory (rhs + i + 3), memory (rhs + i + 2), memory (rhs + i + 1), memory (rhs + i)] := by
  rw [firstDifference_cons, firstDifference_cons, firstDifference_cons, firstDifference_single,
    difference_chain, difference_chain, difference_chain]
  rw [lastDifference_succ, lastDifference_succ, lastDifference_succ, lastDifference_succ]
  rfl

/-- A comparison that returns the sign of the difference that is looked for, or goes on
to look for it elsewhere. -/
theorem triple_compare {width : Nat} {left right : BitVec width} {sought next : Int}
    (splits : sought = if signOf left right = 0 then next else signOf left right) :
    Triple (Holds lhs 0 memory) (compareOr left right)
      (Ends (fun _ s => sought = next ∧ Holds lhs 0 memory s)
        (fun result s => result.sign = sought ∧ Holds lhs 0 memory s)) := by
  intro s holds
  have outcome := triple_compareOr left right (Holds lhs 0 memory) s holds
  generalize compareOr left right s = ended at outcome ⊢
  rcases ended with ⟨result | value, s'⟩
  · rw [if_neg outcome.2.1] at splits
    exact ⟨outcome.1.trans splits.symm, outcome.2.2⟩
  · rw [if_pos outcome.1] at splits
    exact ⟨splits, outcome.2⟩

end

section

variable (memory : Memory) {lhs rhs len i : Nat}

/-- What is sought is found behind an offset. -/
def SoughtBehind (memory : Memory) (lhs rhs len i : Nat) (s : MainMemory) : Prop :=
  firstDifference (memory.load lhs len) (memory.load rhs len) =
    firstDifference (memory.load (lhs + i) (len - i)) (memory.load (rhs + i) (len - i)) ∧
  Holds lhs 0 memory s

/-- What is sought is found in front of an offset. -/
def SoughtBefore (memory : Memory) (lhs rhs len i : Nat) (s : MainMemory) : Prop :=
  lastDifference memory lhs rhs len = lastDifference memory lhs rhs i ∧ Holds lhs 0 memory s

/-- What is sought has been found. -/
def Sought (memory : Memory) (lhs : Nat) (sought result : Int) (s : MainMemory) : Prop :=
  result.sign = sought ∧ Holds lhs 0 memory s

theorem triple_firstByte (inside : i < len) :
    Triple (SoughtBehind memory lhs rhs len i)
      (do compareOr (<- byteAt (lhs + i)) (<- byteAt (rhs + i)))
      (Ends (fun _ => SoughtBehind memory lhs rhs len (i + 1))
        (Sought memory lhs (firstDifference (memory.load lhs len) (memory.load rhs len)))) := by
  rintro s ⟨far, holds⟩
  refine (triple_byteAt (lhs + i)).next _ ?_ s holds
  rintro left s ⟨rfl, holds⟩
  refine (triple_byteAt (rhs + i)).next _ ?_ s holds
  rintro right s ⟨rfl, holds⟩
  have splits := @firstDifference_load memory lhs rhs len i 1 inside
  rw [<- far, Memory.load_one, Memory.load_one, firstDifference_single] at splits
  exact triple_compare memory splits s holds

theorem triple_firstWord (inside : i + 4 <= len) (aligned : (lhs + i) % 4 = 0)
    (aligned' : (rhs + i) % 4 = 0) :
    Triple (SoughtBehind memory lhs rhs len i)
      (do compareOr (bswap32 (<- read32 (lhs + i))) (bswap32 (<- read32 (rhs + i))))
      (Ends (fun _ => SoughtBehind memory lhs rhs len (i + 4))
        (Sought memory lhs (firstDifference (memory.load lhs len) (memory.load rhs len)))) := by
  rintro s ⟨far, holds⟩
  refine (triple_read32 aligned).next _ ?_ s holds
  rintro left s ⟨rfl, holds⟩
  refine (triple_read32 aligned').next _ ?_ s holds
  rintro right s ⟨rfl, holds⟩
  have splits := @firstDifference_load memory lhs rhs len i 4 inside
  have words := signOf_words (memory (lhs + i + 3)) (memory (lhs + i + 2)) (memory (lhs + i + 1))
    (memory (lhs + i)) (memory (rhs + i + 3)) (memory (rhs + i + 2)) (memory (rhs + i + 1))
    (memory (rhs + i))
  rw [bswap32_setWordBytes, bswap32_setWordBytes]
  rw [<- far, Memory.load_four, Memory.load_four, <- words] at splits
  exact triple_compare memory splits s holds

theorem triple_lastByte :
    Triple (SoughtBefore memory lhs rhs len (i + 1))
      (do compareOr (<- byteAt (lhs + i)) (<- byteAt (rhs + i)))
      (Ends (fun _ => SoughtBefore memory lhs rhs len i)
        (Sought memory lhs (lastDifference memory lhs rhs len))) := by
  rintro s ⟨far, holds⟩
  refine (triple_byteAt (lhs + i)).next _ ?_ s holds
  rintro left s ⟨rfl, holds⟩
  refine (triple_byteAt (rhs + i)).next _ ?_ s holds
  rintro right s ⟨rfl, holds⟩
  rw [lastDifference_succ] at far
  exact triple_compare memory far s holds

theorem triple_lastWord (aligned : (lhs + i) % 4 = 0) (aligned' : (rhs + i) % 4 = 0) :
    Triple (SoughtBefore memory lhs rhs len (i + 4))
      (do compareOr (<- read32 (lhs + i)) (<- read32 (rhs + i)))
      (Ends (fun _ => SoughtBefore memory lhs rhs len i)
        (Sought memory lhs (lastDifference memory lhs rhs len))) := by
  rintro s ⟨far, holds⟩
  refine (triple_read32 aligned).next _ ?_ s holds
  rintro left s ⟨rfl, holds⟩
  refine (triple_read32 aligned').next _ ?_ s holds
  rintro right s ⟨rfl, holds⟩
  rw [lastDifference_word, <- signOf_words] at far
  exact triple_compare memory far s holds

end

/-- `memcmp` finds the sign of the first difference. -/
theorem memcmp_does (memory : Memory) (lhs : Nat) {rhs len : Nat} (there : Region rhs len) :
    Does (memcmp lhs rhs len) memory lhs 0 (fun result after =>
      after = memory ∧
      result.sign = firstDifference (memory.load lhs len) (memory.load rhs len)) := by
  have source : forall i, i + 4 <= len -> rhs ≠ 0 := by
    intro i inside
    unfold Region at there
    omega
  have loops := triple_upwards (SoughtBehind memory lhs rhs len)
    (fun i inside => triple_firstByte memory inside)
    (fun i inside aligned aligned' =>
      triple_firstWord memory inside aligned (aligned'.resolve_left (source i inside)))
  apply does_of_triple
  intro s holds
  have start : SoughtBehind memory lhs rhs len 0 s := ⟨rfl, holds⟩
  have outcome := loops s start
  unfold memcmp
  rw [bind_apply]
  generalize upwards lhs rhs len _ _ s = ended at outcome ⊢
  rcases ended with ⟨result | value, s'⟩
  · exact ⟨memory, outcome.2, rfl, outcome.1⟩
  · rcases outcome with ⟨far, holds⟩
    rw [Nat.sub_self] at far
    exact ⟨memory, holds, rfl, far.symm⟩

/-- `memrcmp` finds that of the last one. -/
theorem memrcmp_does (memory : Memory) (lhs : Nat) {rhs len : Nat} (there : Region rhs len) :
    Does (memrcmp lhs rhs len) memory lhs 0 (fun result after =>
      after = memory ∧ result.sign = lastDifference memory lhs rhs len) := by
  have source : forall i, i + 4 <= len -> rhs ≠ 0 := by
    intro i inside
    unfold Region at there
    omega
  have loops := triple_downwards (SoughtBefore memory lhs rhs len)
    (fun i _ => triple_lastByte memory)
    (fun i inside aligned aligned' =>
      triple_lastWord memory aligned (aligned'.resolve_left (source i inside)))
  apply does_of_triple
  intro s holds
  have start : SoughtBefore memory lhs rhs len len s := ⟨rfl, holds⟩
  have outcome := loops s start
  unfold memrcmp
  rw [bind_apply]
  generalize downwards lhs rhs len _ _ s = ended at outcome ⊢
  rcases ended with ⟨result | value, s'⟩
  · exact ⟨memory, outcome.2, rfl, outcome.1⟩
  · rcases outcome with ⟨far, holds⟩
    exact ⟨memory, holds, rfl, far.symm⟩

/-! ## Searching -/

section

variable (memory : Memory) {ptr len i : Nat} {byte : BitVec 8}

/-- What is sought is found in front of an offset. -/
def OccursBefore (memory : Memory) (ptr : Nat) (byte : BitVec 8) (len i : Nat)
    (s : MainMemory) : Prop :=
  lastOccurrence memory ptr byte len = lastOccurrence memory ptr byte i ∧
  Holds ptr 0 memory s

/-- What is sought has been found. -/
def Occurs (memory : Memory) (ptr : Nat) (byte : BitVec 8) (len : Nat) (result : Option Nat)
    (s : MainMemory) : Prop :=
  result = lastOccurrence memory ptr byte len ∧ Holds ptr 0 memory s

/-- A test that makes the function return a position, or goes on to look for another
one. -/
theorem triple_occursIf {condition : Prop} [Decidable condition] {position : Nat}
    {next : Option Nat} {m : Code (Option Nat) Unit}
    (further : lastOccurrence memory ptr byte len = next ->
      Triple (Holds ptr 0 memory) m
        (Ends (fun _ => OccursBefore memory ptr byte len i) (Occurs memory ptr byte len)))
    (far : lastOccurrence memory ptr byte len = if condition then some position else next) :
    Triple (Holds ptr 0 memory) (if condition then raise (some position) else m)
      (Ends (fun _ => OccursBefore memory ptr byte len i) (Occurs memory ptr byte len)) := by
  apply Triple.ite
  · intro here s holds
    rw [if_pos here] at far
    exact ⟨far.symm, holds⟩
  · intro other
    rw [if_neg other] at far
    exact further far

theorem triple_occursNext
    (far : lastOccurrence memory ptr byte len = lastOccurrence memory ptr byte i) :
    Triple (Holds ptr 0 memory) (pure () : Code (Option Nat) Unit)
      (Ends (fun _ => OccursBefore memory ptr byte len i) (Occurs memory ptr byte len)) :=
  fun _ holds => ⟨far, holds⟩

theorem triple_occursByte :
    Triple (OccursBefore memory ptr byte len (i + 1))
      (do if (<- byteAt (ptr + i)) = byte then raise (some (ptr + i)) else pure ())
      (Ends (fun _ => OccursBefore memory ptr byte len i) (Occurs memory ptr byte len)) := by
  rintro s ⟨far, holds⟩
  refine (triple_byteAt (ptr + i)).next _ ?_ s holds
  rintro value s ⟨rfl, holds⟩
  exact triple_occursIf memory (triple_occursNext memory) far s holds

theorem lastOccurrence_word :
    lastOccurrence memory ptr byte (i + 4) =
      if memory (ptr + i + 3) = byte then some (ptr + i + 3)
      else if memory (ptr + i + 2) = byte then some (ptr + i + 2)
      else if memory (ptr + i + 1) = byte then some (ptr + i + 1)
      else if memory (ptr + i) = byte then some (ptr + i)
      else lastOccurrence memory ptr byte i := rfl

theorem triple_occursWord (aligned : (ptr + i) % 4 = 0) :
    Triple (OccursBefore memory ptr byte len (i + 4))
      (do
        let word <- read32 (ptr + i)
        let bitsEq := ~~~(word ^^^ repeatByteToU32 byte)
        if byteSet bitsEq 3 then raise (some (ptr + i + 3))
        else if byteSet bitsEq 2 then raise (some (ptr + i + 2))
        else if byteSet bitsEq 1 then raise (some (ptr + i + 1))
        else if byteSet bitsEq 0 then raise (some (ptr + i))
        else pure ())
      (Ends (fun _ => OccursBefore memory ptr byte len i) (Occurs memory ptr byte len)) := by
  rintro s ⟨far, holds⟩
  refine (triple_read32 aligned).next _ ?_ s holds
  rintro word s ⟨read, holds⟩
  have bytes : (List.range 4).map (wordByte word) = [memory (ptr + i), memory (ptr + i + 1),
      memory (ptr + i + 2), memory (ptr + i + 3)] := by
    rw [read]
    exact map_wordByte _ _ _ _
  change [wordByte word 0, wordByte word 1, wordByte word 2, wordByte word 3] = _ at bytes
  simp only [List.cons.injEq, and_true] at bytes
  simp only [byteSet_eq word byte (show 3 < 4 by decide),
    byteSet_eq word byte (show 2 < 4 by decide), byteSet_eq word byte (show 1 < 4 by decide),
    byteSet_eq word byte (show 0 < 4 by decide), bytes, decide_eq_true_eq]
  rw [lastOccurrence_word] at far
  apply triple_occursIf memory _ far s holds
  intro far
  apply triple_occursIf memory _ far
  intro far
  apply triple_occursIf memory _ far
  intro far
  apply triple_occursIf memory _ far
  exact triple_occursNext memory

end

/-- `memrchr` finds the last occurrence of a byte. -/
theorem memrchr_does (memory : Memory) (ptr : Nat) (value : BitVec 32) (len : Nat) :
    Does (memrchr ptr value len) memory ptr 0 (fun result after =>
      after = memory ∧ result = lastOccurrence memory ptr (value.setWidth 8) len) := by
  have loops := @triple_downwards _ ptr 0 len _ _
    (OccursBefore memory ptr (value.setWidth 8) len) _
    (fun i _ => triple_occursByte memory)
    (fun i _ aligned _ => triple_occursWord memory aligned)
  apply does_of_triple
  intro s holds
  have start : OccursBefore memory ptr (value.setWidth 8) len len s := ⟨rfl, holds⟩
  have outcome := loops s start
  unfold memrchr
  dsimp only
  rw [bind_apply]
  generalize downwards ptr 0 len _ _ s = ended at outcome ⊢
  rcases ended with ⟨result | value, s'⟩
  · exact ⟨memory, outcome.2, rfl, outcome.1⟩
  · rcases outcome with ⟨far, holds⟩
    exact ⟨memory, holds, rfl, far.symm⟩

/-- The memory functions give the same memory and the same results as if they worked
byte by byte, write only to where they should and access words only where these can
be accessed. -/
theorem memory_bytewise (memory : Memory) (value : BitVec 32) {left right len : Nat}
    (here : Region left len) (there : Region right len) :
    (Memory.Apart left right len ->
      Does (memcpy left right len) memory left len (fun result after =>
        result = left ∧ after = copyBytes left right len memory)) ∧
    Does (memset left value len) memory left len (fun result after =>
      result = left ∧ after = setBytes left (value.setWidth 8) len memory) ∧
    Does (memcmp left right len) memory left 0 (fun result after =>
      after = memory ∧
      result.sign = firstDifference (memory.load left len) (memory.load right len)) ∧
    Does (memrcmp left right len) memory left 0 (fun result after =>
      after = memory ∧ result.sign = lastDifference memory left right len) ∧
    Does (memrchr left value len) memory left 0 (fun result after =>
      after = memory ∧ result = lastOccurrence memory left (value.setWidth 8) len) :=
  ⟨fun apart => memcpy_does memory here there apart, memset_does memory left value len,
    memcmp_does memory left there, memrcmp_does memory left there,
    memrchr_does memory left value len⟩

theorem memory_bytewise_misaligned :
    (Memory.Apart 5 18 7 ->
      Does (memcpy 5 18 7) (BitVec.ofNat 8) 5 7 (fun result after =>
        result = 5 ∧ after = copyBytes 5 18 7 (BitVec.ofNat 8))) ∧
    Does (memset 5 0x1ff 7) (BitVec.ofNat 8) 5 7 (fun result after =>
      result = 5 ∧ after = setBytes 5 ((0x1ff : BitVec 32).setWidth 8) 7 (BitVec.ofNat 8)) ∧
    Does (memcmp 5 18 7) (BitVec.ofNat 8) 5 0 (fun result after =>
      after = BitVec.ofNat 8 ∧
      result.sign = firstDifference (Memory.load (BitVec.ofNat 8) 5 7)
        (Memory.load (BitVec.ofNat 8) 18 7)) ∧
    Does (memrcmp 5 18 7) (BitVec.ofNat 8) 5 0 (fun result after =>
      after = BitVec.ofNat 8 ∧ result.sign = lastDifference (BitVec.ofNat 8) 5 18 7) ∧
    Does (memrchr 5 0x1ff 7) (BitVec.ofNat 8) 5 0 (fun result after =>
      after = BitVec.ofNat 8 ∧
      result = lastOccurrence (BitVec.ofNat 8) 5 ((0x1ff : BitVec 32).setWidth 8) 7) :=
  memory_bytewise (BitVec.ofNat 8) 0x1ff (Or.inr (by decide)) (Or.inr (by decide))

end Base
end SunburstChip
