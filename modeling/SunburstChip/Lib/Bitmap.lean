import Mathlib.Data.Finset.Filter
import Mathlib.Data.Finset.Range
import Mathlib.Data.Multiset.Range

namespace SunburstChip

/-!
# Numbers as the bits of a word

A word stands for the set of the numbers whose bits are set in it, up to a
bound.  Two words that differ in one bit stand for sets that differ in one
number.
-/

variable {width : Nat}

/-- The numbers below the bound whose bits are set. -/
def bitNumbers (bound : Nat) (bitmap : BitVec width) : Multiset Nat :=
  ((Finset.range bound).filter (fun number => bitmap.getLsbD number = true)).val

/-- A bit of a word is tested by masking it. -/
theorem and_bit_eq_zero_iff (bitmap : BitVec width) {number : Nat} (inside : number < width) :
    bitmap &&& (BitVec.ofNat width 1 <<< number) = 0 ↔ bitmap.getLsbD number = false := by
  rw [<- BitVec.twoPow_eq, BitVec.and_twoPow]
  cases bitmap.getLsbD number with
  | false => simp
  | true =>
      simp only [if_true, Bool.true_eq_false, iff_false]
      intro zero
      have bit := congrArg (BitVec.getLsbD · number) zero
      simp [inside] at bit

/-- Clearing a bit takes its number out, and setting it puts the number in. -/
theorem bitNumbers_eq_add {bound number : Nat} {more fewer : BitVec width}
    (inside : number < bound) (isSet : more.getLsbD number = true)
    (isClear : fewer.getLsbD number = false)
    (elsewhere : forall other, other < bound -> other ≠ number ->
      fewer.getLsbD other = more.getLsbD other) :
    bitNumbers bound more = bitNumbers bound fewer + {number} := by
  have absent : number ∉
      (Finset.range bound).filter (fun other => fewer.getLsbD other = true) := by
    simp [isClear]
  have inserted : (Finset.range bound).filter (fun other => more.getLsbD other = true) =
      insert number ((Finset.range bound).filter (fun other => fewer.getLsbD other = true)) := by
    ext other
    simp only [Finset.mem_filter, Finset.mem_range, Finset.mem_insert]
    by_cases same : other = number
    · simp [same, inside, isSet]
    · constructor
      · rintro ⟨below, set⟩
        exact .inr ⟨below, (elsewhere other below same).trans set⟩
      · rintro (same' | ⟨below, set⟩)
        · exact absurd same' same
        · exact ⟨below, (elsewhere other below same).symm.trans set⟩
  unfold bitNumbers
  rw [inserted, Finset.insert_val_of_notMem absent, <- Multiset.singleton_add, Multiset.add_comm]

theorem mem_bitNumbers {bound number : Nat} {bitmap : BitVec width} :
    number ∈ bitNumbers bound bitmap ↔ number < bound ∧ bitmap.getLsbD number = true := by
  unfold bitNumbers
  rw [Finset.mem_val, Finset.mem_filter, Finset.mem_range]

end SunburstChip
