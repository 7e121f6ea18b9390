import SunburstChip.Lib.Mmio

namespace SunburstChip

open Mmio

/-!
# Copying between main memory and registers

The two copying functions of `mmio.c`, which access the registers by whole
aligned words.  Bytes of main memory are given and returned as lists.  Both
come from one function of the source with a direction argument; the byte
counts of its loop are the lengths of the lists.
-/

/-- Byte `i` of a little-endian word. -/
def wordByte (word : BitVec 32) (i : Nat) : BitVec 8 := word.extractLsb' (8 * i) 8

/-- The word with byte `i` replaced. -/
def setWordByte (word : BitVec 32) (i : Nat) (byte : BitVec 8) : BitVec 32 :=
  (word &&& ~~~(0xff#32 <<< (8 * i))) ||| (byte.setWidth 32 <<< (8 * i))

/-- The word with the bytes from `i` on replaced by those of the list. -/
def setWordBytes (word : BitVec 32) (i : Nat) : List (BitVec 8) -> BitVec 32
  | [] => word
  | byte :: bytes => setWordBytes (setWordByte word i byte) (i + 1) bytes

/-- The word-by-word loop of `mmio_region_memcpy32`, writing. -/
def memcpyWordsToMmio32 : Nat -> List (BitVec 8) -> Mmio Unit
  | offset, a :: b :: c :: d :: bytes => do
      mmioRegionWrite32 offset (setWordBytes 0 0 [a, b, c, d])
      memcpyWordsToMmio32 (offset + 4) bytes
  | _, [] => return ()
  | offset, bytes => do
      let currentWord <- mmioRegionRead32 offset
      mmioRegionWrite32 offset (setWordBytes currentWord 0 bytes)

/-- `mmio_region_memcpy_to_mmio32` -/
def mmioRegionMemcpyToMmio32 (offset : Nat) (src : List (BitVec 8)) : Mmio Unit := do
  if src = [] then
    return ()
  let misalignment := offset % 4
  if misalignment ≠ 0 then
    let realignment := 4 - misalignment
    let currentWord <- mmioRegionRead32 (offset - misalignment)
    mmioRegionWrite32 (offset - misalignment)
      (setWordBytes currentWord misalignment (src.take realignment))
    memcpyWordsToMmio32 (offset + realignment) (src.drop realignment)
  else
    memcpyWordsToMmio32 offset src

/-- The word-by-word loop of `mmio_region_memcpy32`, reading. -/
def memcpyWordsFromMmio32 : Nat -> Nat -> Mmio (List (BitVec 8))
  | offset, len + 4 => do
      let currentWord <- mmioRegionRead32 offset
      let rest <- memcpyWordsFromMmio32 (offset + 4) len
      return (List.range 4).map (wordByte currentWord) ++ rest
  | _, 0 => return []
  | offset, len => do
      let currentWord <- mmioRegionRead32 offset
      return (List.range len).map (wordByte currentWord)

/-- `mmio_region_memcpy_from_mmio32` -/
def mmioRegionMemcpyFromMmio32 (offset : Nat) (len : Nat) : Mmio (List (BitVec 8)) := do
  if len = 0 then
    return []
  let misalignment := offset % 4
  if misalignment ≠ 0 then
    let realignment := min (4 - misalignment) len
    let currentWord <- mmioRegionRead32 (offset - misalignment)
    let rest <- memcpyWordsFromMmio32 (offset + realignment) (len - realignment)
    return (List.range realignment).map (fun i => wordByte currentWord (misalignment + i)) ++ rest
  else
    memcpyWordsFromMmio32 offset len

/-- The last word is only partly replaced. -/
theorem memcpyWordsToMmio32_few (offset : Nat) {bytes : List (BitVec 8)} (some : 0 < bytes.length)
    (few : bytes.length < 4) :
    memcpyWordsToMmio32 offset bytes = .read32 offset (fun currentWord =>
      .write32 offset (setWordBytes currentWord 0 bytes) (.ret ())) := by
  rcases bytes with _ | ⟨a, _ | ⟨b, _ | ⟨c, _ | ⟨d, bytes⟩⟩⟩⟩
  · cases some
  · rfl
  · rfl
  · rfl
  · simp only [List.length_cons] at few
    omega

/-! ## What a copy accesses -/

/-- An access to a word from `low` on, below `high`. -/
def Between (low high : Nat) : Access -> Prop
  | .read32 offset | .write32 offset _ => low <= offset ∧ offset < high
  | .write8 _ _ => False

/-- An access to a word at or above `low`. -/
def AtOrAbove (low : Nat) : Access -> Prop
  | .read32 offset | .write32 offset _ => low <= offset
  | .write8 _ _ => False

/-- A reading of a word at or above `low`. -/
def ReadsAbove (low : Nat) : Access -> Prop
  | .read32 offset => low <= offset
  | .write32 _ _ | .write8 _ _ => False

theorem Between.mono {low high low' high' : Nat} {access : Access}
    (between : Between low high access) (lower : low' <= low) (upper : high <= high') :
    Between low' high' access := by
  cases access with
  | read32 | write32 =>
      exact ⟨Nat.le_trans lower between.1, Nat.lt_of_lt_of_le between.2 upper⟩
  | write8 => exact between

theorem Between.atOrAbove {low high low' : Nat} {access : Access}
    (between : Between low high access) (lower : low' <= low) : AtOrAbove low' access := by
  cases access with
  | read32 | write32 => exact Nat.le_trans lower between.1
  | write8 => exact between

theorem between_memcpyWordsToMmio32 (offset : Nat) (bytes : List (BitVec 8)) :
    (memcpyWordsToMmio32 offset bytes).Within (Between offset (offset + bytes.length)) := by
  induction offset, bytes using memcpyWordsToMmio32.induct with
  | case1 offset a b c d bytes ih =>
      refine ⟨⟨Nat.le_refl _, by simp⟩, ih.imp (fun access between => ?_)⟩
      exact between.mono (Nat.le_add_right _ _) (by simp only [List.length_cons]; omega)
  | case2 offset => trivial
  | case3 offset bytes short nonempty =>
      have some : 0 < bytes.length := List.length_pos_iff.mpr nonempty
      unfold memcpyWordsToMmio32
      split
      · exact absurd rfl (short _ _ _ _ _)
      · trivial
      · have inside : offset <= offset ∧ offset < offset + _ :=
          ⟨Nat.le_refl _, Nat.lt_add_of_pos_right some⟩
        exact ⟨inside, fun _ => ⟨inside, trivial⟩⟩

theorem between_memcpyToMmio32 (offset : Nat) (src : List (BitVec 8)) :
    (mmioRegionMemcpyToMmio32 offset src).Within
      (Between (offset - offset % 4) (offset + src.length)) := by
  unfold mmioRegionMemcpyToMmio32
  split
  · trivial
  · next nonempty =>
      have some : 0 < src.length := List.length_pos_iff.mpr nonempty
      dsimp only
      split
      · have inside : offset - offset % 4 <= offset - offset % 4 ∧
            offset - offset % 4 < offset + src.length := by omega
        refine ⟨inside, fun _ => ⟨inside, ?_⟩⟩
        by_cases more : (src.drop (4 - offset % 4)).length = 0
        · rw [List.length_eq_zero_iff.mp more]
          unfold memcpyWordsToMmio32
          trivial
        · refine (between_memcpyWordsToMmio32 _ _).imp (fun access between => ?_)
          rw [List.length_drop] at more between
          exact between.mono (by omega) (by omega)
      · refine (between_memcpyWordsToMmio32 _ _).imp (fun access between => ?_)
        exact between.mono (Nat.sub_le _ _) (Nat.le_refl _)

theorem within_memcpyToMmio32 {low offset : Nat} (aligned : low % 4 = 0) (above : low <= offset)
    (src : List (BitVec 8)) : (mmioRegionMemcpyToMmio32 offset src).Within (AtOrAbove low) :=
  (between_memcpyToMmio32 offset src).imp (fun _ between => between.atOrAbove (by omega))

theorem reads_memcpyWordsFromMmio32 {low offset : Nat} (above : low <= offset) (len : Nat) :
    (memcpyWordsFromMmio32 offset len).Within (ReadsAbove low) := by
  induction offset, len using memcpyWordsFromMmio32.induct with
  | case1 offset len ih =>
      refine within_bind ⟨above, fun _ => trivial⟩ (fun _ => ?_)
      exact within_bind (ih (Nat.le_add_right_of_le above)) (fun _ => trivial)
  | case2 offset => trivial
  | case3 offset len short nonzero =>
      unfold memcpyWordsFromMmio32
      split
      · exact absurd rfl (short _)
      · trivial
      · exact ⟨above, fun _ => trivial⟩

theorem reads_memcpyFromMmio32 {low offset : Nat} (aligned : low % 4 = 0) (above : low <= offset)
    (len : Nat) : (mmioRegionMemcpyFromMmio32 offset len).Within (ReadsAbove low) := by
  have word : low <= offset - offset % 4 := by omega
  unfold mmioRegionMemcpyFromMmio32
  split
  · trivial
  · dsimp only
    split
    · refine within_bind ⟨word, fun _ => trivial⟩ (fun _ => ?_)
      exact within_bind (reads_memcpyWordsFromMmio32 (by omega) _) (fun _ => trivial)
    · exact reads_memcpyWordsFromMmio32 above len

theorem within_memcpyFromMmio32 {low offset : Nat} (aligned : low % 4 = 0) (above : low <= offset)
    (len : Nat) : (mmioRegionMemcpyFromMmio32 offset len).Within (AtOrAbove low) :=
  (reads_memcpyFromMmio32 aligned above len).imp (fun access reads => by
    cases access with
    | read32 => exact reads
    | write32 | write8 => exact reads.elim)

/-! ## Bytes of words -/

theorem wordByte_setWordByte (word : BitVec 32) {i j : Nat} (inside : i < 4) (inside' : j < 4)
    (byte : BitVec 8) : wordByte (setWordByte word i byte) j =
      if j = i then byte else wordByte word j := by
  apply BitVec.eq_of_getLsbD_eq
  intro k small
  have limit : 8 * j + k < 32 := by omega
  simp only [wordByte, setWordByte, BitVec.getLsbD_extractLsb', BitVec.getLsbD_or,
    BitVec.getLsbD_and, BitVec.getLsbD_not, BitVec.getLsbD_shiftLeft, BitVec.getLsbD_setWidth,
    decide_eq_true small, Bool.true_and]
  split
  · next same =>
      subst same
      have mask : (0xff#32).getLsbD k = true := by
        have cases8 : k = 0 ∨ k = 1 ∨ k = 2 ∨ k = 3 ∨ k = 4 ∨ k = 5 ∨ k = 6 ∨ k = 7 := by omega
        rcases cases8 with rfl | rfl | rfl | rfl | rfl | rfl | rfl | rfl <;> rfl
      have low : ¬ 8 * j + k < 8 * j := by omega
      have index : 8 * j + k - 8 * j = k := by omega
      simp only [limit, low, index, mask, decide_true, decide_false, Bool.not_false, Bool.true_and,
        Bool.not_true, Bool.and_false, Bool.false_or, decide_eq_true (show k < 32 by omega)]
  · next other =>
      by_cases low : 8 * j + k < 8 * i
      · simp [limit, low, show k < 8 by omega]
      · have high : 8 <= 8 * j + k - 8 * i := by omega
        have mask : (0xff#32).getLsbD (8 * j + k - 8 * i) = false := by
          rw [show (0xff#32) = (0xff#8).setWidth 32 from rfl, BitVec.getLsbD_setWidth]
          simp [BitVec.getLsbD_of_ge _ _ high]
        have beyond : byte.getLsbD (8 * j + k - 8 * i) = false := BitVec.getLsbD_of_ge _ _ high
        simp [limit, low, mask, beyond, show k < 8 by omega]

/-- The bytes of a word after some of them have been replaced. -/
theorem wordByte_setWordBytes (bytes : List (BitVec 8)) (word : BitVec 32) {i j : Nat}
    (fits : i + bytes.length <= 4) (inside : j < 4) :
    wordByte (setWordBytes word i bytes) j =
      if i <= j then bytes.getD (j - i) (wordByte word j) else wordByte word j := by
  induction bytes generalizing word i with
  | nil => simp [setWordBytes]
  | cons byte bytes ih =>
      rw [List.length_cons] at fits
      unfold setWordBytes
      rw [ih _ (by omega), wordByte_setWordByte word (by omega) inside]
      by_cases here : j = i
      · subst here
        have after : ¬ j + 1 <= j := by omega
        simp [after]
      · by_cases before : i <= j
        · have after : i + 1 <= j := by omega
          rw [if_pos after, if_neg here, if_pos before, show j - i = (j - (i + 1)) + 1 by omega]
          rfl
        · rw [if_neg (by omega), if_neg here, if_neg before]

end SunburstChip
