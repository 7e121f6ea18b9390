import Mathlib.Algebra.CharP.Two
import Mathlib.Algebra.Field.ZMod
import Mathlib.Algebra.Polynomial.Div
import Mathlib.Data.ZMod.Basic
import Mathlib.Tactic.LinearCombination
import Mathlib.Tactic.Ring

namespace SunburstChip
namespace Crc

open Polynomial

/-!
# Cyclic redundancy checks

A shift register that takes in the bits of a message from above, and adds its
polynomial whenever a bit falls out that the message does not cancel.  The bits
of the register are the coefficients of a polynomial with binary coefficients,
and after a message it holds the remainder of the message, moved up by the width
of the register.
-/

section

variable {w : Nat} (poly : BitVec w)

/-- One bit is shifted into the register. -/
def step (register : BitVec w) (bit : Bool) : BitVec w :=
  if register.msb ^^ bit then (register <<< 1) ^^^ poly else register <<< 1

/-- The register after some bits. -/
def feed (register : BitVec w) (bits : List Bool) : BitVec w := bits.foldl (step poly) register

/-- The bits of a word in the order in which they are sent, the highest one first. -/
def bitsOf (word : BitVec w) : List Bool := (List.range w).map word.getMsbD

theorem feed_append (register : BitVec w) (front back : List Bool) :
    feed poly register (front ++ back) = feed poly (feed poly register front) back :=
  List.foldl_append

/-! ## The residue -/

/-- The register's own bits cancel everything that falls out of it. -/
theorem feed_range (register : BitVec w) (n : Nat) :
    feed poly register ((List.range n).map register.getMsbD) = register <<< n := by
  induction n with
  | zero => simp [feed]
  | succ n ih =>
      have falls : (register <<< n).msb = register.getMsbD n := by
        simp [BitVec.msb_shiftLeft]
      rw [List.range_succ, List.map_append, feed_append, ih]
      change step poly (register <<< n) (register.getMsbD n) = _
      unfold step
      rw [falls, Bool.xor_self, if_neg Bool.false_ne_true, BitVec.shiftLeft_add]

/-- A message with its own remainder behind it leaves nothing. -/
theorem feed_residue (register : BitVec w) : feed poly register (bitsOf register) = 0 := by
  rw [bitsOf, feed_range]
  exact BitVec.shiftLeft_eq_zero (Nat.le_refl w)

end

/-! ## Polynomials -/

/-- A bit as a coefficient. -/
def coefficient (bit : Bool) : ZMod 2 := if bit then 1 else 0

theorem coefficient_xor (a b : Bool) :
    coefficient (a ^^ b) = coefficient a + coefficient b := by
  cases a <;> cases b <;> decide

section

variable {w : Nat}

/-- The polynomial whose coefficients are the bits of a word. -/
noncomputable def ofWord (word : BitVec w) : (ZMod 2)[X] :=
  ∑ i ∈ Finset.range w, C (coefficient (word.getLsbD i)) * X ^ i

/-- The polynomial of a message, the last bit of which is the constant coefficient. -/
noncomputable def ofBits (bits : List Bool) : (ZMod 2)[X] :=
  bits.foldl (fun message bit => message * X + C (coefficient bit)) 0

/-- The polynomial by which the register divides, whose highest coefficient it leaves out. -/
noncomputable def modulus (poly : BitVec w) : (ZMod 2)[X] := X ^ w + ofWord poly

theorem coeff_ofWord (word : BitVec w) (n : Nat) :
    (ofWord word).coeff n = coefficient (word.getLsbD n) := by
  unfold ofWord
  rw [finsetSum_coeff]
  simp only [coeff_C_mul, coeff_X_pow, mul_ite, mul_one, mul_zero]
  rw [Finset.sum_ite_eq]
  split
  · rfl
  · next outside =>
      have high : w <= n := by
        rw [Finset.mem_range] at outside
        exact Nat.le_of_not_lt outside
      rw [BitVec.getLsbD_of_ge word n high]
      rfl

theorem ofWord_zero : ofWord (0 : BitVec w) = 0 := by
  ext n
  rw [coeff_ofWord, coeff_zero]
  exact congrArg coefficient BitVec.getLsbD_zero

theorem ofWord_xor (a b : BitVec w) : ofWord (a ^^^ b) = ofWord a + ofWord b := by
  ext n
  rw [coeff_add, coeff_ofWord, coeff_ofWord, coeff_ofWord, BitVec.getLsbD_xor, coefficient_xor]

theorem degree_ofWord_lt (word : BitVec w) : (ofWord word).degree < w := by
  rw [degree_lt_iff_coeff_zero]
  intro n high
  rw [coeff_ofWord, BitVec.getLsbD_of_ge word n high]
  rfl

theorem modulus_monic (poly : BitVec w) : (modulus poly).Monic :=
  monic_X_pow_add (degree_ofWord_lt poly)

theorem degree_modulus (poly : BitVec w) : (modulus poly).degree = w := by
  unfold modulus
  rw [degree_add_eq_left_of_degree_lt]
  · exact degree_X_pow w
  · rw [degree_X_pow]
    exact degree_ofWord_lt poly

/-! ## The remainder -/

/-- What a shift moves out of the register is its highest coefficient. -/
theorem ofWord_shift (word : BitVec w) :
    ofWord (word <<< 1) + C (coefficient word.msb) * X ^ w = ofWord word * X := by
  ext n
  rw [coeff_add, coeff_ofWord, coeff_C_mul, coeff_X_pow, BitVec.getLsbD_shiftLeft]
  cases n with
  | zero =>
      rw [mul_coeff_zero, coeff_X_zero, mul_zero]
      cases w with
      | zero =>
          have empty : word.msb = false := BitVec.msb_of_zero_length rfl word
          rw [empty]
          rfl
      | succ w => simp [coefficient]
  | succ n =>
      rw [coeff_mul_X, coeff_ofWord]
      rcases Nat.lt_trichotomy (n + 1) w with inside | last | outside
      · simp [inside, Nat.ne_of_lt inside, coefficient]
      · have highest : word.msb = word.getLsbD n := by
          rw [BitVec.msb_eq_getLsbD_last, Nat.sub_eq_of_eq_add last.symm]
        simp [last, highest, coefficient]
      · have none : word.getLsbD n = false := BitVec.getLsbD_of_ge word n (by omega)
        simp [none, Nat.ne_of_gt outside, coefficient]

/-- A step multiplies by `X` and takes in a bit, but for a multiple of the modulus. -/
theorem ofWord_step (poly register : BitVec w) (bit : Bool) :
    ofWord (step poly register bit) + C (coefficient (register.msb ^^ bit)) * modulus poly =
      ofWord register * X + C (coefficient bit) * X ^ w := by
  have shift := ofWord_shift register
  unfold step modulus
  rw [<- shift, coefficient_xor, C_add]
  split
  · next falls =>
      have one : C (coefficient register.msb) + C (coefficient bit) = (1 : (ZMod 2)[X]) := by
        rw [<- C_add, <- coefficient_xor, falls]
        exact C_1
      rw [ofWord_xor, one]
      have twice : ofWord poly + ofWord poly = 0 := CharTwo.add_self_eq_zero _
      linear_combination twice - X ^ w * one
  · next stays =>
      have none : C (coefficient register.msb) + C (coefficient bit) = (0 : (ZMod 2)[X]) := by
        rw [<- C_add, <- coefficient_xor, Bool.eq_false_iff.mpr stays]
        exact C_0
      linear_combination ofWord poly * none

theorem ofBits_append (bits : List Bool) (bit : Bool) :
    ofBits (bits ++ [bit]) = ofBits bits * X + C (coefficient bit) := by
  unfold ofBits
  rw [List.foldl_append]
  rfl

/-- The register differs from the message, moved up by its width, by a multiple of the modulus. -/
theorem feed_quotient (poly : BitVec w) (bits : List Bool) :
    Exists fun quotient : (ZMod 2)[X] =>
      ofWord (feed poly 0 bits) + modulus poly * quotient = ofBits bits * X ^ w := by
  induction bits using List.reverseRecOn with
  | nil =>
      refine ⟨0, ?_⟩
      change ofWord (0 : BitVec w) + modulus poly * 0 = 0 * X ^ w
      rw [ofWord_zero, mul_zero, zero_mul, add_zero]
  | append_singleton bits bit ih =>
      rcases ih with ⟨quotient, equal⟩
      refine ⟨quotient * X + C (coefficient ((feed poly 0 bits).msb ^^ bit)), ?_⟩
      have next := ofWord_step poly (feed poly 0 bits) bit
      rw [ofBits_append, feed_append]
      change ofWord (step poly (feed poly 0 bits) bit) + _ = _
      linear_combination next + X * equal

/-- After a message the register holds the remainder of its division by the modulus. -/
theorem ofWord_feed (poly : BitVec w) (bits : List Bool) :
    ofWord (feed poly 0 bits) = (ofBits bits * X ^ w) %ₘ modulus poly := by
  rcases feed_quotient poly bits with ⟨quotient, equal⟩
  have small : (ofWord (feed poly 0 bits)).degree < (modulus poly).degree := by
    rw [degree_modulus]
    exact degree_ofWord_lt _
  exact ((div_modByMonic_unique quotient _ (modulus_monic poly) ⟨equal, small⟩).2).symm

end

end Crc
end SunburstChip
