import Mathlib.Data.Nat.Bitwise

namespace SunburstChip

/-!
# Bit fields of a 32-bit register

The operations of `bitfield.h`.  A field is the pair of a mask and a position
that the generated register headers give.  Reading back a written field needs
the position to push no bit of the mask out of the word, and reading one field
after writing another needs their bits to be apart.  Both are decided by
computation for the fields of a register header.
-/

/-- `bitfield_field32_t` -/
structure BitfieldField32 where
  mask : BitVec 32
  index : Nat
  deriving DecidableEq

/-- `bitfield_field32_read` -/
def bitfieldField32Read (bitfield : BitVec 32) (field : BitfieldField32) : BitVec 32 :=
  (bitfield >>> field.index) &&& field.mask

/-- `bitfield_field32_write` -/
def bitfieldField32Write (bitfield : BitVec 32) (field : BitfieldField32)
    (value : BitVec 32) : BitVec 32 :=
  (bitfield &&& ~~~(field.mask <<< field.index)) ||| ((value &&& field.mask) <<< field.index)

/-- `bitfield_bit32_to_field32` -/
def bitfieldBit32ToField32 (bitIndex : Nat) : BitfieldField32 := ⟨0x1, bitIndex⟩

/-- `bitfield_bit32_read` -/
def bitfieldBit32Read (bitfield : BitVec 32) (bitIndex : Nat) : Bool :=
  bitfieldField32Read bitfield (bitfieldBit32ToField32 bitIndex) == 0x1

/-- `bitfield_bit32_write` -/
def bitfieldBit32Write (bitfield : BitVec 32) (bitIndex : Nat) (value : Bool) : BitVec 32 :=
  bitfieldField32Write bitfield (bitfieldBit32ToField32 bitIndex) (if value then 0x1 else 0x0)

namespace BitfieldField32

/-- The position pushes no bit of the mask out of the word. -/
def Fits (field : BitfieldField32) : Prop := (field.mask <<< field.index) >>> field.index = field.mask

instance (field : BitfieldField32) : Decidable field.Fits :=
  inferInstanceAs (Decidable (_ = _))

/-- The two fields have no bit of the word in common. -/
def Apart (field field' : BitfieldField32) : Prop :=
  (field.mask <<< field.index) &&& (field'.mask <<< field'.index) = 0

instance (field field' : BitfieldField32) : Decidable (field.Apart field') :=
  inferInstanceAs (Decidable (_ = _))

theorem Fits.mask_bit {field : BitfieldField32} (fits : field.Fits) {i : Nat}
    (inside : field.mask.getLsbD i = true) : field.index + i < 32 := by
  have shifted := congrArg (BitVec.getLsbD · i) fits
  simp only [BitVec.getLsbD_ushiftRight, BitVec.getLsbD_shiftLeft, inside] at shifted
  by_contra outside
  simp [outside] at shifted

theorem Apart.mask_bit {field field' : BitfieldField32} (apart : field.Apart field') {k : Nat}
    (small : k < 32) (above : field'.index <= k)
    (inside : field'.mask.getLsbD (k - field'.index) = true) :
    (field.mask <<< field.index).getLsbD k = false := by
  have both := congrArg (BitVec.getLsbD · k) apart
  have set : (field'.mask <<< field'.index).getLsbD k = true := by
    rw [BitVec.getLsbD_shiftLeft, inside]
    simp [small, above]
  simp only [BitVec.getLsbD_and, set, Bool.and_true] at both
  rw [both]
  exact BitVec.getLsbD_zero

end BitfieldField32

open BitfieldField32

/-! ## Reading after writing -/

/-- A written field reads back as the written value cut to the field. -/
theorem bitfieldField32Read_write_same {field : BitfieldField32} (fits : field.Fits)
    (bitfield value : BitVec 32) :
    bitfieldField32Read (bitfieldField32Write bitfield field value) field = value &&& field.mask := by
  apply BitVec.eq_of_getLsbD_eq
  intro i _
  simp only [bitfieldField32Read, bitfieldField32Write, BitVec.getLsbD_and, BitVec.getLsbD_or,
    BitVec.getLsbD_not, BitVec.getLsbD_shiftLeft, BitVec.getLsbD_ushiftRight]
  cases inside : field.mask.getLsbD i with
  | false => simp
  | true =>
      have above : ¬ field.index + i < field.index := by omega
      simp [fits.mask_bit inside, inside, above]

/-- Writing one field does not change another that shares no bit with it. -/
theorem bitfieldField32Read_write_other {written read : BitfieldField32}
    (apart : written.Apart read) (bitfield value : BitVec 32) :
    bitfieldField32Read (bitfieldField32Write bitfield written value) read =
      bitfieldField32Read bitfield read := by
  apply BitVec.eq_of_getLsbD_eq
  intro i _
  simp only [bitfieldField32Read, bitfieldField32Write, BitVec.getLsbD_and, BitVec.getLsbD_or,
    BitVec.getLsbD_ushiftRight]
  cases inside : read.mask.getLsbD i with
  | false => simp
  | true =>
      by_cases small : read.index + i < 32
      · have outside := apart.mask_bit small (Nat.le_add_right _ _)
          (by rw [Nat.add_sub_cancel_left]; exact inside)
        have cut : ((value &&& written.mask) <<< written.index).getLsbD (read.index + i) = false := by
          simp only [BitVec.getLsbD_shiftLeft, BitVec.getLsbD_and, small] at outside ⊢
          cases below : decide (read.index + i < written.index) <;> simp_all
        simp only [BitVec.getLsbD_not, outside, cut]
        simp [small]
      · have word := BitVec.getLsbD_of_ge bitfield _ (Nat.le_of_not_lt small)
        have shifted := BitVec.getLsbD_of_ge ((value &&& written.mask) <<< written.index) _
          (Nat.le_of_not_lt small)
        simp [word, shifted]

theorem bitfieldField32Read_or (bitfield bitfield' : BitVec 32) (field : BitfieldField32) :
    bitfieldField32Read (bitfield ||| bitfield') field =
      bitfieldField32Read bitfield field ||| bitfieldField32Read bitfield' field := by
  apply BitVec.eq_of_getLsbD_eq
  intro i _
  simp only [bitfieldField32Read, BitVec.getLsbD_and, BitVec.getLsbD_or,
    BitVec.getLsbD_ushiftRight, Bool.and_or_distrib_right]

@[simp] theorem bitfieldField32Read_zero (field : BitfieldField32) :
    bitfieldField32Read 0#32 field = 0#32 := by
  simp [bitfieldField32Read]

theorem bitfieldBit32Read_write_same {bitIndex : Nat} (inside : bitIndex < 32)
    (bitfield : BitVec 32) (value : Bool) :
    bitfieldBit32Read (bitfieldBit32Write bitfield bitIndex value) bitIndex = value := by
  have fits : (bitfieldBit32ToField32 bitIndex).Fits := by
    apply BitVec.eq_of_getLsbD_eq
    intro i _
    simp only [bitfieldBit32ToField32, BitVec.getLsbD_ushiftRight, BitVec.getLsbD_shiftLeft]
    cases i with
    | zero => simp [inside]
    | succ i => simp
  unfold bitfieldBit32Read bitfieldBit32Write
  rw [bitfieldField32Read_write_same fits]
  change ((if value then (0x1 : BitVec 32) else 0x0) &&& 0x1 == 0x1) = value
  cases value <;> decide

/-- Writing one bit does not change another. -/
theorem bitfieldBit32Read_write_other {bitIndex other : Nat} (apart : bitIndex ≠ other)
    (bitfield : BitVec 32) (value : Bool) :
    bitfieldBit32Read (bitfieldBit32Write bitfield bitIndex value) other =
      bitfieldBit32Read bitfield other := by
  have fields : (bitfieldBit32ToField32 bitIndex).Apart (bitfieldBit32ToField32 other) := by
    apply BitVec.eq_of_getLsbD_eq
    intro i _
    simp only [bitfieldBit32ToField32, BitVec.getLsbD_and, BitVec.getLsbD_shiftLeft]
    by_cases here : i = bitIndex
    · subst here
      have none : i < other ∨ (i - other ≠ 0) := by omega
      rcases none with below | above
      · simp [below]
      · simp [BitVec.getLsbD_one, above]
    · have none : i < bitIndex ∨ (i - bitIndex ≠ 0) := by omega
      rcases none with below | above
      · simp [below]
      · simp [BitVec.getLsbD_one, above]
  unfold bitfieldBit32Read bitfieldBit32Write
  rw [bitfieldField32Read_write_other fields]

@[simp] theorem bitfieldBit32Read_zero (bitIndex : Nat) : bitfieldBit32Read 0#32 bitIndex = false := by
  simp [bitfieldBit32Read]

/-- Reading a bit is testing it. -/
theorem bitfieldBit32Read_eq_getLsbD (bitfield : BitVec 32) (bitIndex : Nat) :
    bitfieldBit32Read bitfield bitIndex = bitfield.getLsbD bitIndex := by
  change ((bitfield >>> bitIndex) &&& 1#32 == 1#32) = _
  rw [BitVec.and_one_eq_setWidth_ofBool_getLsbD, BitVec.getLsbD_ushiftRight, Nat.add_zero]
  cases bitfield.getLsbD bitIndex <;> decide

/-- Only one bit of a shifted one is set. -/
theorem bitfieldBit32Read_one_shiftLeft {bit : Nat} (inside : bit < 32) (bitIndex : Nat) :
    bitfieldBit32Read (1#32 <<< bit) bitIndex = decide (bitIndex = bit) := by
  rw [bitfieldBit32Read_eq_getLsbD, BitVec.getLsbD_shiftLeft]
  by_cases same : bitIndex = bit
  · simp [same, inside]
  · by_cases below : bitIndex < bit
    · simp [below, same]
    · have positive : bitIndex - bit ≠ 0 := by omega
      simp [below, same, positive, BitVec.getLsbD_one]

/-! ## Values that fit a field -/

/-- Cutting a value to a field is reduction modulo the field's size. -/
theorem toNat_and_mask {field : BitfieldField32} {width : Nat}
    (run : field.mask.toNat = 2 ^ width - 1) (value : BitVec 32) :
    (value &&& field.mask).toNat = value.toNat % 2 ^ width := by
  rw [BitVec.toNat_and, run, Nat.and_two_pow_sub_one_eq_mod]

section

variable {w width : Nat} {mask : BitVec w}

/-- Cutting a value to a mask of its lowest bits leaves exactly those values alone that
need no other bits. -/
theorem and_mask_eq_self_iff (run : mask.toNat = 2 ^ width - 1) (value : BitVec w) :
    value &&& mask = value ↔ value.toNat < 2 ^ width := by
  rw [<- BitVec.toNat_inj, BitVec.toNat_and, run, Nat.and_two_pow_sub_one_eq_mod]
  exact Nat.mod_eq_iff_lt (Nat.ne_of_gt (Nat.two_pow_pos width))

/-- A value has no bits outside a mask exactly if it needs no other bits. -/
theorem and_not_mask_eq_zero_iff (run : mask.toNat = 2 ^ width - 1) (value : BitVec w) :
    value &&& ~~~mask = 0#w ↔ value.toNat < 2 ^ width := by
  have parts : value = (value &&& mask) ||| (value &&& ~~~mask) := by
    apply BitVec.eq_of_getLsbD_eq
    intro i inside
    simp only [BitVec.getLsbD_or, BitVec.getLsbD_and, BitVec.getLsbD_not, inside, decide_true,
      Bool.true_and]
    cases value.getLsbD i <;> cases mask.getLsbD i <;> rfl
  rw [<- and_mask_eq_self_iff run]
  constructor
  · intro none
    rw [none, BitVec.or_zero] at parts
    exact parts.symm
  · intro whole
    rw [<- whole, BitVec.and_assoc, BitVec.and_not_self]
    exact BitVec.and_zero

end

end SunburstChip
