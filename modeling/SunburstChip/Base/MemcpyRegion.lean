import SunburstChip.Base.Memcpy
import SunburstChip.Lib.Memory

namespace SunburstChip

open Mmio

/-!
# Copies are bytewise

A region of registers that behave as memory is a byte at every offset, of which
four are read or written at a time.  The copying functions of `mmio.c` move
exactly the bytes that they are asked for, although they access whole words.
-/

/-- A region of registers that hold what has been written to them. -/
def byteRegion : Device Memory where
  read32 offset memory := (setWordBytes 0 0 (memory.load offset 4), memory)
  write32 offset value memory := memory.store offset ((List.range 4).map (wordByte value))
  write8 offset value memory := memory.store offset [value]

/-- A 32-bit access to an aligned word that contains one of a number of bytes. -/
def Overlaps (offset len : Nat) : Access -> Prop
  | .read32 word | .write32 word _ => word % 4 = 0 ∧ word < offset + len ∧ offset < word + 4
  | .write8 _ _ => False

theorem Overlaps.mono {offset len offset' len' : Nat} {access : Access}
    (overlaps : Overlaps offset len access) (before : offset' <= offset)
    (behind : offset + len <= offset' + len') : Overlaps offset' len' access := by
  cases access with
  | read32 word | write32 word value =>
      rcases overlaps with ⟨aligned, low, high⟩
      exact ⟨aligned, by omega, by omega⟩
  | write8 => exact overlaps

/-! ## Words of the region -/

section

variable (memory : Memory)

theorem wordByte_load (offset : Nat) {i : Nat} (small : i < 4) :
    wordByte (setWordBytes 0 0 (memory.load offset 4)) i = memory (offset + i) := by
  rw [wordByte_setWordBytes _ _ (by simp) small, if_pos (Nat.zero_le i), Nat.sub_zero]
  simp [Memory.load, small]

/-- Some of the bytes of a word that has been read. -/
theorem map_wordByte_load (offset : Nat) {start len : Nat} (inside : start + len <= 4) :
    (List.range len).map (fun i => wordByte (setWordBytes 0 0 (memory.load offset 4)) (start + i)) =
      memory.load (offset + start) len := by
  apply List.map_congr_left
  intro i before
  have small := List.mem_range.mp before
  rw [wordByte_load memory offset (by omega), Nat.add_assoc]

/-- Replacing some of the bytes of a word replaces them in the region. -/
theorem store_setWordBytes (offset : Nat) {start : Nat} {bytes : List (BitVec 8)}
    (inside : start + bytes.length <= 4) :
    memory.store offset ((List.range 4).map
        (wordByte (setWordBytes (setWordBytes 0 0 (memory.load offset 4)) start bytes))) =
      memory.store (offset + start) bytes := by
  funext other
  by_cases above : offset <= other
  · rcases Nat.exists_eq_add_of_le above with ⟨i, rfl⟩
    by_cases small : i < 4
    · have index : offset + i - (offset + start) = i - start := by omega
      have word := wordByte_load memory offset small
      generalize setWordBytes 0 0 (memory.load offset 4) = currentWord at word
      simp [Memory.store, small, wordByte_setWordBytes _ _ inside small, word, index]
    · rw [Memory.store_outside, Memory.store_outside]
      · exact Or.inr (by omega)
      · exact Or.inr (by simp; omega)
  · rw [Memory.store_outside, Memory.store_outside]
    · exact Or.inl (by omega)
    · exact Or.inl (by omega)

/-- Replacing all of them makes no use of the word that was there. -/
theorem store_setWordBytes_four (offset : Nat) (a b c d : BitVec 8) :
    memory.store offset ((List.range 4).map (wordByte (setWordBytes 0 0 [a, b, c, d]))) =
      memory.store offset [a, b, c, d] := by
  simp [List.range_succ, wordByte_setWordBytes]

end

/-! ## Reading -/

section

variable (memory : Memory)

theorem memcpyWordsFromMmio32_few (offset : Nat) {len : Nat} (some : 0 < len) (few : len < 4) :
    memcpyWordsFromMmio32 offset len = .read32 offset (fun currentWord =>
      .ret ((List.range len).map (wordByte currentWord))) := by
  unfold memcpyWordsFromMmio32
  split
  · omega
  · omega
  · rfl

theorem run_memcpyWordsFromMmio32 (offset len : Nat) :
    (memcpyWordsFromMmio32 offset len).run byteRegion memory =
      some (memory.load offset len, memory) := by
  induction offset, len using memcpyWordsFromMmio32.induct with
  | case1 offset len ih =>
      have word := map_wordByte_load memory offset (show 0 + 4 <= 4 by decide)
      have more := memory.load_add offset 4 len
      rw [Nat.add_comm 4 len] at more
      change (memcpyWordsFromMmio32 (offset + 4) len >>= fun rest => Mmio.ret
        ((List.range 4).map (wordByte (setWordBytes 0 0 (memory.load offset 4))) ++ rest)).run
          byteRegion memory = some (memory.load offset (len + 4), memory)
      simp only [Nat.zero_add, Nat.add_zero] at word
      rw [run_bind_of ih, run_ret, word, more]
  | case2 offset => rfl
  | case3 offset len short nonzero =>
      have few : len < 4 := by
        by_contra long
        exact short (len - 4) (by omega)
      have word := map_wordByte_load memory offset (show 0 + len <= 4 by omega)
      rw [memcpyWordsFromMmio32_few offset (Nat.pos_of_ne_zero nonzero) few]
      simpa [run, byteRegion] using word

theorem run_memcpyFromMmio32 (offset len : Nat) :
    (mmioRegionMemcpyFromMmio32 offset len).run byteRegion memory =
      some (memory.load offset len, memory) := by
  unfold mmioRegionMemcpyFromMmio32
  by_cases none : len = 0
  · rw [if_pos none, none]
    rfl
  · rw [if_neg none]
    dsimp only
    split
    · next misaligned =>
        have start : offset - offset % 4 + offset % 4 = offset := by omega
        have head := map_wordByte_load memory (offset - offset % 4)
          (show offset % 4 + min (4 - offset % 4) len <= 4 by omega)
        have split : min (4 - offset % 4) len + (len - min (4 - offset % 4) len) = len := by omega
        rw [start] at head
        change (memcpyWordsFromMmio32 _ _ >>= fun rest => Mmio.ret (_ ++ rest)).run
          byteRegion memory = _
        rw [run_bind_of (run_memcpyWordsFromMmio32 memory _ _)]
        have whole := memory.load_add offset (min (4 - offset % 4) len)
          (len - min (4 - offset % 4) len)
        rw [split, <- head] at whole
        rw [whole]
        rfl
    · exact run_memcpyWordsFromMmio32 memory offset len

theorem overlaps_memcpyWordsFromMmio32 {offset : Nat} (len : Nat) (aligned : offset % 4 = 0) :
    (memcpyWordsFromMmio32 offset len).Within (Overlaps offset len) := by
  induction offset, len using memcpyWordsFromMmio32.induct with
  | case1 offset len ih =>
      refine within_bind ⟨⟨aligned, by omega, by omega⟩, fun _ => trivial⟩ (fun currentWord => ?_)
      refine within_bind ((ih (by omega)).imp (fun access overlaps => ?_)) (fun rest => trivial)
      exact overlaps.mono (by omega) (by omega)
  | case2 offset => trivial
  | case3 offset len short nonzero =>
      have few : len < 4 := by
        by_contra long
        exact short (len - 4) (by omega)
      have some := Nat.pos_of_ne_zero nonzero
      rw [memcpyWordsFromMmio32_few offset some few]
      exact ⟨⟨aligned, by omega, by omega⟩, fun currentWord => trivial⟩

theorem overlaps_memcpyFromMmio32 (offset len : Nat) :
    (mmioRegionMemcpyFromMmio32 offset len).Within (Overlaps offset len) := by
  unfold mmioRegionMemcpyFromMmio32
  split
  · trivial
  · next some =>
      dsimp only
      split
      · next misaligned =>
          have word : Overlaps offset len (.read32 (offset - offset % 4)) :=
            ⟨by omega, by omega, by omega⟩
          refine within_bind ⟨word, fun _ => trivial⟩ (fun currentWord => ?_)
          refine within_bind ?_ (fun rest => trivial)
          by_cases more : 4 - offset % 4 <= len
          · refine (overlaps_memcpyWordsFromMmio32 _ (by omega)).imp (fun access overlaps => ?_)
            exact overlaps.mono (by omega) (by omega)
          · have none : len - min (4 - offset % 4) len = 0 := by omega
            rw [none]
            unfold memcpyWordsFromMmio32
            trivial
      · next aligned => exact overlaps_memcpyWordsFromMmio32 len (by omega)

end

/-! ## Writing -/

section

/-- A list that does not begin with four bytes. -/
theorem few_of_short {bytes : List (BitVec 8)}
    (short : forall a b c d rest, bytes = a :: b :: c :: d :: rest -> False) :
    bytes.length < 4 := by
  rcases bytes with _ | ⟨a, _ | ⟨b, _ | ⟨c, _ | ⟨d, bytes⟩⟩⟩⟩
  · simp
  · simp
  · simp
  · simp
  · exact absurd rfl (short a b c d bytes)

theorem run_memcpyWordsToMmio32 (memory : Memory) (offset : Nat) (bytes : List (BitVec 8)) :
    (memcpyWordsToMmio32 offset bytes).run byteRegion memory =
      some ((), memory.store offset bytes) := by
  induction offset, bytes using memcpyWordsToMmio32.induct generalizing memory with
  | case1 offset a b c d bytes ih =>
      have word := store_setWordBytes_four memory offset a b c d
      have rest := ih (memory.store offset [a, b, c, d])
      rw [<- word] at rest
      change (memcpyWordsToMmio32 (offset + 4) bytes).run byteRegion
        (memory.store offset ((List.range 4).map (wordByte (setWordBytes 0 0 [a, b, c, d])))) = _
      rw [rest, word]
      exact congrArg (fun memory => some ((), memory))
        (memory.store_append offset [a, b, c, d] bytes)
  | case2 offset => simp [memcpyWordsToMmio32]
  | case3 offset bytes short nonempty =>
      have few := few_of_short short
      rw [memcpyWordsToMmio32_few offset (List.length_pos_iff.mpr nonempty) few]
      exact congrArg (fun memory => some ((), memory))
        (store_setWordBytes memory offset (show 0 + bytes.length <= 4 by omega))

theorem run_memcpyToMmio32 (memory : Memory) (offset : Nat) (src : List (BitVec 8)) :
    (mmioRegionMemcpyToMmio32 offset src).run byteRegion memory =
      some ((), memory.store offset src) := by
  unfold mmioRegionMemcpyToMmio32
  by_cases none : src = []
  · rw [if_pos none, none, memory.store_nil]
    rfl
  · rw [if_neg none]
    dsimp only
    split
    · next misaligned =>
        have start : offset - offset % 4 + offset % 4 = offset := by omega
        have head := store_setWordBytes memory (offset - offset % 4)
          (show offset % 4 + (src.take (4 - offset % 4)).length <= 4 by
            rw [List.length_take]
            omega)
        rw [start] at head
        change (memcpyWordsToMmio32 _ _).run byteRegion (memory.store _ ((List.range 4).map
          (wordByte (setWordBytes (setWordBytes 0 0 (memory.load _ 4)) _ _)))) = _
        rw [head, run_memcpyWordsToMmio32]
        by_cases more : 4 - offset % 4 <= src.length
        · have split : offset + (4 - offset % 4) =
              offset + (src.take (4 - offset % 4)).length := by
            rw [List.length_take, Nat.min_eq_left more]
          rw [split, memory.store_append, List.take_append_drop]
        · have all : src.drop (4 - offset % 4) = [] := List.drop_eq_nil_of_le (by omega)
          rw [all, Memory.store_nil, List.take_of_length_le (by omega)]
    · exact run_memcpyWordsToMmio32 memory offset src

theorem overlaps_memcpyWordsToMmio32 {offset : Nat} (bytes : List (BitVec 8))
    (aligned : offset % 4 = 0) :
    (memcpyWordsToMmio32 offset bytes).Within (Overlaps offset bytes.length) := by
  induction offset, bytes using memcpyWordsToMmio32.induct with
  | case1 offset a b c d bytes ih =>
      have word : Overlaps offset (a :: b :: c :: d :: bytes).length
          (.write32 offset (setWordBytes 0 0 [a, b, c, d])) := by
        refine ⟨aligned, ?_, by omega⟩
        simp
      refine ⟨word, (ih (by omega)).imp (fun access overlaps => ?_)⟩
      refine overlaps.mono (by omega) ?_
      simp only [List.length_cons]
      omega
  | case2 offset => trivial
  | case3 offset bytes short nonempty =>
      have some := List.length_pos_iff.mpr nonempty
      rw [memcpyWordsToMmio32_few offset some (few_of_short short)]
      have word : offset < offset + bytes.length := by omega
      exact ⟨⟨aligned, word, by omega⟩, fun currentWord => ⟨⟨aligned, word, by omega⟩, trivial⟩⟩

theorem overlaps_memcpyToMmio32 (offset : Nat) (src : List (BitVec 8)) :
    (mmioRegionMemcpyToMmio32 offset src).Within (Overlaps offset src.length) := by
  unfold mmioRegionMemcpyToMmio32
  split
  · trivial
  · next nonempty =>
      have some := List.length_pos_iff.mpr nonempty
      dsimp only
      split
      · next misaligned =>
          have word : offset - offset % 4 < offset + src.length := by omega
          refine ⟨⟨by omega, word, by omega⟩, fun currentWord => ⟨⟨by omega, word, by omega⟩, ?_⟩⟩
          by_cases more : 4 - offset % 4 <= src.length
          · refine (overlaps_memcpyWordsToMmio32 _ (by omega)).imp (fun access overlaps => ?_)
            refine overlaps.mono (by omega) ?_
            rw [List.length_drop]
            omega
          · rw [List.drop_eq_nil_of_le (by omega)]
            unfold memcpyWordsToMmio32
            trivial
      · next aligned => exact overlaps_memcpyWordsToMmio32 src (by omega)

end

/-- Copies between memory and a region of registers move exactly the bytes they are asked
for, and access nothing but the aligned words that these are in. -/
theorem memcpy32_bytewise (memory : Memory) (offset len : Nat) (src : List (BitVec 8)) :
    (mmioRegionMemcpyFromMmio32 offset len).run byteRegion memory =
        some (memory.load offset len, memory) ∧
      (mmioRegionMemcpyFromMmio32 offset len).Within (Overlaps offset len) ∧
      (mmioRegionMemcpyToMmio32 offset src).run byteRegion memory =
        some ((), memory.store offset src) ∧
      (mmioRegionMemcpyToMmio32 offset src).Within (Overlaps offset src.length) :=
  ⟨run_memcpyFromMmio32 memory offset len, overlaps_memcpyFromMmio32 offset len,
    run_memcpyToMmio32 memory offset src, overlaps_memcpyToMmio32 offset src⟩

end SunburstChip
