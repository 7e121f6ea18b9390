import Mathlib.Tactic.Ring

namespace SunburstChip

/-!
# Division without a divider

`udiv64_slow` of `math.c`, long division in base two.  It brings down one bit
of the dividend at a time, and what it has brought down so far is the quotient
times the divisor plus the remainder.
-/

/-- The body of the loop of `udiv64_slow`: the quotient and the remainder. -/
def udiv64Step (a b : BitVec 64) (state : BitVec 64 × BitVec 64) (i : Nat) :
    BitVec 64 × BitVec 64 :=
  let rem := (state.2 <<< 1) ||| ((a >>> (64 - i - 1)) &&& 1)
  let quot := state.1 <<< 1
  if rem >= b then (quot ||| 1, rem - b) else (quot, rem)

/-- `udiv64_slow`: the quotient and the remainder. -/
def udiv64Slow (a b : BitVec 64) : BitVec 64 × BitVec 64 :=
  (List.range 64).foldl (udiv64Step a b) (0, 0)

section

variable {a b quot rem : BitVec 64}

/-- What has been brought down after `i` rounds. -/
structure BroughtDown (a b : BitVec 64) (i : Nat) (state : BitVec 64 × BitVec 64) : Prop where
  value : state.1.toNat * b.toNat + state.2.toNat = a.toNat / 2 ^ (64 - i)
  rem : state.2.toNat < b.toNat

/-- Another bit behind a number. -/
theorem shift_or_toNat (word bit : BitVec 64) (room : 2 * word.toNat + 1 < 2 ^ 64)
    (low : bit.toNat < 2) : ((word <<< 1) ||| bit).toNat = 2 * word.toNat + bit.toNat := by
  have shifted : (word <<< 1).toNat = word.toNat <<< 1 := by
    rw [BitVec.toNat_shiftLeft, Nat.shiftLeft_eq, Nat.mod_eq_of_lt (by omega)]
  rw [BitVec.toNat_or, shifted, <- Nat.shiftLeft_add_eq_or_of_lt (i := 1) low, Nat.shiftLeft_eq]
  omega

/-- After fewer than all rounds neither the quotient nor the remainder has its highest bit
set: together they are no more than the bits of the dividend that were brought down. -/
theorem BroughtDown.room {i : Nat} (inside : i < 64) (positive : 0 < b.toNat)
    {state : BitVec 64 × BitVec 64} (before : BroughtDown a b i state) :
    state.1.toNat < 2 ^ 63 ∧ state.2.toNat < 2 ^ 63 := by
  have value := before.value
  have bits : a.toNat / 2 ^ (64 - i) < 2 ^ 63 := by
    have most : 2 ^ 1 <= 2 ^ (64 - i) := Nat.pow_le_pow_right Nat.two_pos (by omega)
    have dividend := a.isLt
    rw [Nat.div_lt_iff_lt_mul (Nat.two_pow_pos _)]
    omega
  have times : state.1.toNat <= state.1.toNat * b.toNat := Nat.le_mul_of_pos_right _ positive
  constructor
  · omega
  · omega

theorem udiv64Step_broughtDown {i : Nat} (inside : i < 64) (positive : 0 < b.toNat)
    {state : BitVec 64 × BitVec 64} (before : BroughtDown a b i state) :
    BroughtDown a b (i + 1) (udiv64Step a b state i) := by
  have room := before.room inside positive
  rcases state with ⟨quot, rem⟩
  rcases before with ⟨value, bound⟩
  dsimp only at value bound room
  have next : a.toNat / 2 ^ (64 - i - 1) =
      2 * (a.toNat / 2 ^ (64 - i)) + a.toNat / 2 ^ (64 - i - 1) % 2 := by
    have exponent : 64 - i = (64 - i - 1) + 1 := by omega
    have halved : a.toNat / 2 ^ (64 - i) = a.toNat / 2 ^ (64 - i - 1) / 2 := by
      rw [exponent, Nat.pow_succ, <- Nat.div_div_eq_div_mul, Nat.add_sub_cancel]
    rw [halved]
    omega
  have bit : ((a >>> (64 - i - 1)) &&& 1).toNat = a.toNat / 2 ^ (64 - i - 1) % 2 := by
    rw [BitVec.toNat_and, BitVec.toNat_ushiftRight, Nat.shiftRight_eq_div_pow]
    exact Nat.and_one_is_mod _
  have brought : ((rem <<< 1) ||| ((a >>> (64 - i - 1)) &&& 1)).toNat =
      2 * rem.toNat + a.toNat / 2 ^ (64 - i - 1) % 2 := by
    rw [shift_or_toNat _ _ (by omega) (by omega), bit]
  have doubled : (quot <<< 1).toNat = 2 * quot.toNat := by
    rw [BitVec.toNat_shiftLeft, Nat.shiftLeft_eq, Nat.mod_eq_of_lt (by omega)]
    omega
  have exponent : 64 - (i + 1) = 64 - i - 1 := by omega
  unfold udiv64Step
  dsimp only
  split
  · next large =>
      have enough : b.toNat <= 2 * rem.toNat + a.toNat / 2 ^ (64 - i - 1) % 2 := by
        rw [<- brought]
        exact large
      have added : ((quot <<< 1) ||| 1).toNat = 2 * quot.toNat + 1 :=
        shift_or_toNat quot 1 (by omega) (by decide)
      constructor
      · rw [added, BitVec.toNat_sub_of_le large, brought, exponent, next, <- value]
        have product : (2 * quot.toNat + 1) * b.toNat = 2 * (quot.toNat * b.toNat) + b.toNat := by
          ring
        omega
      · rw [BitVec.toNat_sub_of_le large, brought]
        omega
  · next few' =>
      have less : 2 * rem.toNat + a.toNat / 2 ^ (64 - i - 1) % 2 < b.toNat := by
        rw [<- brought]
        exact Nat.lt_of_not_le few'
      constructor
      · rw [doubled, brought, exponent, next, <- value]
        have product : 2 * quot.toNat * b.toNat = 2 * (quot.toNat * b.toNat) := by ring
        omega
      · rw [brought]
        exact less

/-- All rounds of the loop. -/
theorem udiv64Rounds_broughtDown (positive : 0 < b.toNat) {n : Nat} (few : n <= 64) :
    BroughtDown a b n ((List.range n).foldl (udiv64Step a b) (0, 0)) := by
  induction n with
  | zero =>
      constructor
      · change 0 * b.toNat + 0 = a.toNat / 2 ^ 64
        rw [Nat.div_eq_of_lt a.isLt, Nat.zero_mul]
      · exact positive
  | succ n ih =>
      rw [List.range_succ, List.foldl_append]
      exact udiv64Step_broughtDown few positive (ih (Nat.le_of_succ_le few))

/-- Whatever the divisor is, the dividend is the divisor times the quotient and a remainder
smaller than the divisor. -/
theorem udiv64Slow_exact (a : BitVec 64) {b : BitVec 64} (nonzero : b ≠ 0) :
    a.toNat = b.toNat * (udiv64Slow a b).1.toNat + (udiv64Slow a b).2.toNat ∧
      (udiv64Slow a b).2.toNat < b.toNat := by
  have positive : 0 < b.toNat := Nat.pos_of_ne_zero (BitVec.toNat_ne_iff_ne.mpr nonzero)
  have ended := @udiv64Rounds_broughtDown a b positive 64 (Nat.le_refl 64)
  have value := ended.value
  rw [Nat.sub_self, Nat.pow_zero, Nat.div_one, Nat.mul_comm] at value
  exact ⟨value.symm, ended.rem⟩

/-- A divisor above `2 ^ 63`. -/
theorem udiv64Slow_exact_large :
    (0xffffffffffffffff#64).toNat = (0xfffffffffffffffe#64).toNat *
        (udiv64Slow 0xffffffffffffffff#64 0xfffffffffffffffe#64).1.toNat +
          (udiv64Slow 0xffffffffffffffff#64 0xfffffffffffffffe#64).2.toNat ∧
      (udiv64Slow 0xffffffffffffffff#64 0xfffffffffffffffe#64).2.toNat <
        (0xfffffffffffffffe#64).toNat :=
  udiv64Slow_exact 0xffffffffffffffff#64 (by decide)

/-- The functions of the language. -/
theorem udiv64Slow_eq (positive : 0 < b.toNat) : udiv64Slow a b = (a / b, a % b) := by
  rcases @udiv64Rounds_broughtDown a b positive 64 (Nat.le_refl 64) with ⟨value, bound⟩
  rw [Nat.sub_self, Nat.pow_zero, Nat.div_one, Nat.mul_comm] at value
  have quotient := (Nat.div_mod_unique positive).mpr ⟨(Nat.add_comm _ _).trans value, bound⟩
  apply Prod.ext
  · apply BitVec.eq_of_toNat_eq
    rw [BitVec.toNat_udiv, quotient.1]
    rfl
  · apply BitVec.eq_of_toNat_eq
    rw [BitVec.toNat_umod, quotient.2]
    rfl

end

end SunburstChip
