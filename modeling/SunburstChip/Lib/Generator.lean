import Mathlib.Data.Fintype.EquivFin
import Mathlib.Data.BitVec

namespace SunburstChip
namespace Generator

/-!
# Steps of random number generators

The linear steps on words from which generators are built: a shift register
that adds its polynomial to what falls out of it, and a word to which its own
shift is added.  Each of them can be undone, bit by bit from the end at which
nothing has been added, so that none of them loses a state, and zero is reached
from zero only.
-/

variable {w : Nat}

/-- A shift register to the right: the polynomial is added whenever a bit falls out. -/
def galois (poly state : BitVec w) : BitVec w :=
  if state.getLsbD 0 then (state >>> 1) ^^^ poly else state >>> 1

/-- A word to which its own shift to the left is added. -/
def addShl (n : Nat) (state : BitVec w) : BitVec w := state ^^^ (state <<< n)

/-- A word to which its own shift to the right is added. -/
def addShr (n : Nat) (state : BitVec w) : BitVec w := state ^^^ (state >>> n)

@[simp] theorem galois_zero (poly : BitVec w) : galois poly 0 = 0 := by
  simp [galois]

@[simp] theorem addShl_zero (n : Nat) : addShl n (0 : BitVec w) = 0 := by
  simp [addShl]

@[simp] theorem addShr_zero (n : Nat) : addShr n (0 : BitVec w) = 0 := by
  simp [addShr]

/-- The highest bit of the polynomial tells whether it has been added. -/
theorem galois_injective {poly : BitVec w} (top : poly.msb = true) :
    Function.Injective (galois poly) := by
  have highest (state : BitVec w) : (galois poly state).msb = state.getLsbD 0 := by
    unfold galois
    split
    · next low => simp [low, top, BitVec.msb_ushiftRight]
    · next low => simp [low, BitVec.msb_ushiftRight]
  intro state state' same
  have low : state.getLsbD 0 = state'.getLsbD 0 := by
    rw [<- highest state, <- highest state', same]
  have shifted : state >>> 1 = state' >>> 1 := by
    unfold galois at same
    rw [<- low] at same
    split at same
    · exact (BitVec.xor_left_inj _).mp same
    · exact same
  apply BitVec.eq_of_getLsbD_eq
  intro i _
  cases i with
  | zero => exact low
  | succ i =>
      have bit := congrArg (fun word => word.getLsbD i) shifted
      simpa [Nat.add_comm] using bit

/-- The lowest bits are as before, and give away those above them. -/
theorem addShl_injective {n : Nat} (positive : 0 < n) :
    Function.Injective (addShl n : BitVec w -> BitVec w) := by
  intro state state' same
  apply BitVec.eq_of_getLsbD_eq
  intro i
  induction i using Nat.strongRecOn with
  | ind i ih =>
      intro inside
      have bit := congrArg (fun word => word.getLsbD i) same
      simp only [addShl, BitVec.getLsbD_xor, BitVec.getLsbD_shiftLeft] at bit
      by_cases low : i < n
      · simpa [low] using bit
      · rw [ih (i - n) (by omega) (by omega)] at bit
        exact Bool.xor_left_inj.mp bit

/-- The highest bits are as before, and give away those below them. -/
theorem addShr_injective {n : Nat} (positive : 0 < n) :
    Function.Injective (addShr n : BitVec w -> BitVec w) := by
  intro state state' same
  apply BitVec.eq_of_getMsbD_eq
  intro i
  induction i using Nat.strongRecOn with
  | ind i ih =>
      intro inside
      have bit := congrArg (fun word => word.getMsbD i) same
      simp only [addShr, BitVec.getMsbD_xor, BitVec.getMsbD_ushiftRight] at bit
      by_cases high : i < n
      · simpa [high] using bit
      · rw [ih (i - n) (by omega) (by omega)] at bit
        exact Bool.xor_left_inj.mp bit

/-- A step that loses no state reaches each of them. -/
theorem bijective_of_injective {step : BitVec w -> BitVec w} (injective : Function.Injective step) :
    Function.Bijective step := by
  have finite : Finite (BitVec w) :=
    Finite.of_injective BitVec.toFin BitVec.toFin_injective
  exact Finite.injective_iff_bijective.mp injective

/-- Zero is reached from zero only. -/
theorem eq_zero_iff {step : BitVec w -> BitVec w} (injective : Function.Injective step)
    (zero : step 0 = 0) {state : BitVec w} : step state = 0 ↔ state = 0 := by
  constructor
  · intro reached
    exact injective (reached.trans zero.symm)
  · intro start
    rw [start, zero]

end Generator
end SunburstChip
