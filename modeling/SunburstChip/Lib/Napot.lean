import Mathlib.Data.Nat.Bitwise

namespace SunburstChip

/-!
# Naturally aligned powers of two

A range of addresses whose size is a power of two and whose start is a multiple
of its size leaves the lowest bits of the start unused.  All of them but the
highest are set to say how many there are: the lowest clear bit of the word tells
the size, and the bits above it are the start.  A single address has no unused
bit, so its size cannot be told in this way.
-/

namespace Napot

variable {w : Nat}

/-- The word with the lowest `i` bits set. -/
def ones (w i : Nat) : BitVec w := (1#w <<< i) - 1#w

/-- The lowest clear bit of a word. -/
def LowestClear (code : BitVec w) (i : Nat) : Prop :=
  (forall j, j < i -> code.getLsbD j = true) ∧ code.getLsbD i = false

/-- A range of size `2 ^ (i + 1)` in one word. -/
def encode (start : BitVec w) (i : Nat) : BitVec w := start ||| (ones w (i + 1) >>> 1)

theorem toNat_shift {i : Nat} (inside : i < w) : (1#w <<< i).toNat = 2 ^ i := by
  rw [<- BitVec.twoPow_eq, BitVec.toNat_twoPow_of_lt inside]

theorem toNat_ones {i : Nat} (inside : i < w) : (ones w i).toNat = 2 ^ i - 1 := by
  have power := toNat_shift inside
  have one : (1#w).toNat = 1 := by
    rw [BitVec.toNat_ofNat, Nat.mod_eq_of_lt (Nat.one_lt_two_pow (by omega))]
  have least : 1#w <= 1#w <<< i := by
    rw [BitVec.le_def, one, power]
    exact Nat.one_le_two_pow
  unfold ones
  rw [BitVec.toNat_sub_of_le least, power, one]

theorem getLsbD_ones {i : Nat} (inside : i < w) (j : Nat) :
    (ones w i).getLsbD j = decide (j < i) := by
  rw [BitVec.getLsbD, toNat_ones inside, Nat.testBit_two_pow_sub_one]

/-- All but the highest of them. -/
theorem getLsbD_ones_shift {i : Nat} (inside : i + 1 < w) (j : Nat) :
    (ones w (i + 1) >>> 1).getLsbD j = decide (j < i) := by
  rw [BitVec.getLsbD_ushiftRight, getLsbD_ones inside, Nat.add_comm]
  exact decide_eq_decide.mpr Nat.succ_lt_succ_iff

/-- A multiple of a power of two has its lowest bits clear. -/
theorem mod_eq_zero_iff {start : BitVec w} {i : Nat} :
    start.toNat % 2 ^ i = 0 ↔ forall j, j < i -> start.getLsbD j = false := by
  constructor
  · intro multiple j below
    have bit := Nat.testBit_mod_two_pow start.toNat i j
    rw [multiple, Nat.zero_testBit, decide_eq_true below, Bool.true_and] at bit
    exact bit.symm
  · intro clear
    apply Nat.eq_of_testBit_eq
    intro j
    rw [Nat.testBit_mod_two_pow, Nat.zero_testBit]
    by_cases below : j < i
    · rw [decide_eq_true below, Bool.true_and]
      exact clear j below
    · rw [decide_eq_false below, Bool.false_and]

namespace LowestClear

variable {code : BitVec w} {i j : Nat}

theorem unique (clear : LowestClear code i) (clear' : LowestClear code j) : i = j := by
  rcases Nat.lt_trichotomy i j with below | same | above
  · exact absurd (clear'.1 i below) (by rw [clear.2]; decide)
  · exact same
  · exact absurd (clear.1 j above) (by rw [clear'.2]; decide)

/-- Either a bit is the lowest clear one, or the bits are all set. -/
theorem exists_or (code : BitVec w) (n : Nat) :
    (Exists fun i => i < n ∧ LowestClear code i) ∨ forall j, j < n -> code.getLsbD j = true := by
  induction n with
  | zero => exact .inr nofun
  | succ n ih =>
      rcases ih with ⟨i, below, clear⟩ | set
      · exact .inl ⟨i, Nat.lt_succ_of_lt below, clear⟩
      · cases last : code.getLsbD n with
        | false => exact .inl ⟨n, Nat.lt_succ_self n, set, last⟩
        | true =>
            refine .inr fun j below => ?_
            rcases Nat.lt_succ_iff_lt_or_eq.mp below with below | rfl
            · exact set j below
            · exact last

/-- How a word is compared with the ones that mark a size. -/
theorem and_ones_iff (inside : i + 1 < w) :
    code &&& ones w (i + 1) = ones w (i + 1) >>> 1 ↔ LowestClear code i := by
  constructor
  · intro same
    have bit (j : Nat) : (code.getLsbD j && decide (j < i + 1)) = decide (j < i) := by
      rw [<- getLsbD_ones_shift inside, <- same, BitVec.getLsbD_and, getLsbD_ones inside]
    constructor
    · intro j below
      have := bit j
      simpa [below, Nat.lt_succ_of_lt below] using this
    · have := bit i
      simpa using this
  · rintro ⟨set, clear⟩
    apply BitVec.eq_of_getLsbD_eq
    intro j _
    rw [BitVec.getLsbD_and, getLsbD_ones inside, getLsbD_ones_shift inside]
    rcases Nat.lt_trichotomy j i with below | rfl | above
    · simp [set j below, below, Nat.lt_succ_of_lt below]
    · simp [clear]
    · have beyond : ¬ j < i + 1 := by omega
      simp [beyond, Nat.not_lt_of_lt above]

/-- The lowest clear bit of an encoded range tells its size. -/
theorem encode {start : BitVec w} (inside : i + 1 < w)
    (aligned : start.toNat % 2 ^ (i + 1) = 0) : LowestClear (Napot.encode start i) i := by
  have clear := mod_eq_zero_iff.mp aligned
  unfold Napot.encode
  constructor
  · intro j below
    rw [BitVec.getLsbD_or, getLsbD_ones_shift inside, decide_eq_true below, Bool.or_true]
  · rw [BitVec.getLsbD_or, getLsbD_ones_shift inside, clear i (Nat.lt_succ_self i)]
    simp

end LowestClear

/-- The bits above are its start. -/
theorem encode_start {start : BitVec w} {i : Nat} (inside : i + 1 < w)
    (aligned : start.toNat % 2 ^ (i + 1) = 0) :
    encode start i &&& ~~~(ones w (i + 1) >>> 1) = start := by
  have clear := mod_eq_zero_iff.mp aligned
  apply BitVec.eq_of_getLsbD_eq
  intro j small
  unfold encode
  rw [BitVec.getLsbD_and, BitVec.getLsbD_or, BitVec.getLsbD_not, getLsbD_ones_shift inside]
  by_cases below : j < i
  · simp [below, clear j (Nat.lt_succ_of_lt below)]
  · simp [below, small]

/-- An address without its lowest bits is the start of a range exactly if the range has it. -/
theorem and_not_ones_iff {start address : BitVec w} {i : Nat} (inside : i < w)
    (aligned : start.toNat % 2 ^ i = 0) :
    address &&& ~~~ones w i = start ↔
      start.toNat <= address.toNat ∧ address.toNat < start.toNat + 2 ^ i := by
  have shifted : address &&& ~~~ones w i = (address >>> i) <<< i := by
    refine BitVec.eq_of_getLsbD_eq fun j small => ?_
    rw [BitVec.getLsbD_and, BitVec.getLsbD_not, getLsbD_ones inside, BitVec.getLsbD_shiftLeft,
      BitVec.getLsbD_ushiftRight]
    by_cases below : j < i
    · simp [below]
    · rw [Nat.add_sub_cancel' (Nat.le_of_not_lt below)]
      simp [below, small]
  have value : (address &&& ~~~ones w i).toNat = address.toNat / 2 ^ i * 2 ^ i := by
    rw [shifted, BitVec.toNat_shiftLeft, BitVec.toNat_ushiftRight, Nat.shiftLeft_eq,
      Nat.shiftRight_eq_div_pow,
      Nat.mod_eq_of_lt (Nat.lt_of_le_of_lt (Nat.div_mul_le_self _ _) address.isLt)]
  have whole := Nat.div_add_mod' address.toNat (2 ^ i)
  have part := Nat.mod_lt address.toNat (Nat.two_pow_pos i)
  have multiple := Nat.div_mul_cancel (Nat.dvd_of_mod_eq_zero aligned)
  constructor
  · intro same
    rw [<- same, value]
    omega
  · rintro ⟨least, most⟩
    have quotient : address.toNat / 2 ^ i = start.toNat / 2 ^ i := by
      refine Nat.div_eq_of_lt_le ?_ ?_
      · rw [multiple]
        exact least
      · rw [Nat.succ_mul, multiple]
        exact most
    exact BitVec.eq_of_toNat_eq (by rw [value, quotient, multiple])

end Napot

end SunburstChip
