import SunburstChip.Dif.Base
import SunburstChip.Lib.Owned

namespace SunburstChip
namespace Gpio

open Mmio

/-!
# General-purpose pins

The 32 pins are bits of words: what is driven, which pins are driven, and on
which conditions a pin interrupts.  Outputs can be written half a word at a time,
with a mask in the same write, so that nothing has to be read back first.  The
functions below are those of `dif_gpio.c`.
-/

/-! ## The register file -/

/-- The registers that hold what software has written. -/
structure Registers where
  intrEnable : BitVec 32
  directOut : BitVec 32
  directOe : BitVec 32
  intrCtrlEnRising : BitVec 32
  intrCtrlEnFalling : BitVec 32
  intrCtrlEnLvlhigh : BitVec 32
  intrCtrlEnLvllow : BitVec 32
  ctrlEnInputFilter : BitVec 32
  deriving DecidableEq

abbrev intrStateRegOffset : Nat := 0x0
abbrev intrEnableRegOffset : Nat := 0x4
abbrev dataInRegOffset : Nat := 0x10
abbrev directOutRegOffset : Nat := 0x14
abbrev maskedOutLowerRegOffset : Nat := 0x18
abbrev maskedOutUpperRegOffset : Nat := 0x1c
abbrev directOeRegOffset : Nat := 0x20
abbrev maskedOeLowerRegOffset : Nat := 0x24
abbrev maskedOeUpperRegOffset : Nat := 0x28
abbrev intrCtrlEnRisingRegOffset : Nat := 0x2c
abbrev intrCtrlEnFallingRegOffset : Nat := 0x30
abbrev intrCtrlEnLvlhighRegOffset : Nat := 0x34
abbrev intrCtrlEnLvllowRegOffset : Nat := 0x38
abbrev ctrlEnInputFilterRegOffset : Nat := 0x3c

/-- Half a word after a masked write: the upper half of what is written selects
the bits that take their value from the lower half. -/
def maskedHalf (half : BitVec 16) (value : BitVec 32) : BitVec 16 :=
  (value.extractLsb' 16 16 &&& value.extractLsb' 0 16) ||| (~~~value.extractLsb' 16 16 &&& half)

/-- A write to the masked register of the lower half of a word. -/
def maskedLower (word value : BitVec 32) : BitVec 32 :=
  word.extractLsb' 16 16 ++ maskedHalf (word.extractLsb' 0 16) value

/-- A write to the masked register of the upper half of a word. -/
def maskedUpper (word value : BitVec 32) : BitVec 32 :=
  maskedHalf (word.extractLsb' 16 16) value ++ word.extractLsb' 0 16

/-- The registers as a device.  The masked registers read as the half of the word
that they write, with no bit selected. -/
def device : Device Registers where
  read32 offset regs :=
    match offset with
    | 0x4 => (regs.intrEnable, regs)
    | 0x14 => (regs.directOut, regs)
    | 0x18 => ((regs.directOut.extractLsb' 0 16).setWidth 32, regs)
    | 0x1c => ((regs.directOut.extractLsb' 16 16).setWidth 32, regs)
    | 0x20 => (regs.directOe, regs)
    | 0x24 => ((regs.directOe.extractLsb' 0 16).setWidth 32, regs)
    | 0x28 => ((regs.directOe.extractLsb' 16 16).setWidth 32, regs)
    | 0x2c => (regs.intrCtrlEnRising, regs)
    | 0x30 => (regs.intrCtrlEnFalling, regs)
    | 0x34 => (regs.intrCtrlEnLvlhigh, regs)
    | 0x38 => (regs.intrCtrlEnLvllow, regs)
    | 0x3c => (regs.ctrlEnInputFilter, regs)
    | _ => (0, regs)
  write32 offset value regs :=
    match offset with
    | 0x4 => { regs with intrEnable := value }
    | 0x14 => { regs with directOut := value }
    | 0x18 => { regs with directOut := maskedLower regs.directOut value }
    | 0x1c => { regs with directOut := maskedUpper regs.directOut value }
    | 0x20 => { regs with directOe := value }
    | 0x24 => { regs with directOe := maskedLower regs.directOe value }
    | 0x28 => { regs with directOe := maskedUpper regs.directOe value }
    | 0x2c => { regs with intrCtrlEnRising := value }
    | 0x30 => { regs with intrCtrlEnFalling := value }
    | 0x34 => { regs with intrCtrlEnLvlhigh := value }
    | 0x38 => { regs with intrCtrlEnLvllow := value }
    | 0x3c => { regs with ctrlEnInputFilter := value }
    | _ => regs
  write8 _ _ regs := regs

/-- `INTR_STATE` and `DATA_IN` are the hardware's. -/
def seesInputs (offset : Nat) (inputs : BitVec 32 × BitVec 32) : Option (BitVec 32) :=
  match offset with
  | 0x0 => some inputs.1
  | 0x10 => some inputs.2
  | _ => none

/-! ## The driver -/

abbrev kDifGpioNumPins : BitVec 32 := 32

/-- `index_to_mask` -/
def indexToMask (index : BitVec 32) : BitVec 32 := 1#32 <<< index

/-- `gpio_masked_write` -/
def gpioMaskedWrite (gpio : Pointer) (regLowerOffset regUpperOffset : Nat)
    (mask val : BitVec 32) : Mmio DifResult := do
  if gpio = .null then
    return .kDifBadArg
  let maskLowerHalf := mask &&& 0x0000ffff
  let maskUpperHalf := mask &&& 0xffff0000
  if maskLowerHalf ≠ 0 then
    mmioRegionWrite32 regLowerOffset ((maskLowerHalf <<< 16) ||| (val &&& 0x0000ffff))
  if maskUpperHalf ≠ 0 then
    mmioRegionWrite32 regUpperOffset (maskUpperHalf ||| ((val &&& 0xffff0000) >>> 16))
  return .kDifOk

/-- `gpio_masked_bit_write` -/
def gpioMaskedBitWrite (gpio : Pointer) (regLowerOffset regUpperOffset : Nat)
    (index : BitVec 32) (val : Bool) : Mmio DifResult := do
  if gpio = .null ∨ kDifGpioNumPins <= index then
    return .kDifBadArg
  let offset := if index < 16 then regLowerOffset else regUpperOffset
  let mask := indexToMask (index % 16)
  mmioRegionWrite32 offset ((mask <<< 16) ||| (if val then mask else 0))
  return .kDifOk

/-- `dif_gpio_write` -/
def difGpioWrite (gpio : Pointer) (pin : BitVec 32) (state : Bool) : Mmio DifResult :=
  gpioMaskedBitWrite gpio maskedOutLowerRegOffset maskedOutUpperRegOffset pin state

/-- `dif_gpio_write_masked` -/
def difGpioWriteMasked (gpio : Pointer) (mask state : BitVec 32) : Mmio DifResult :=
  gpioMaskedWrite gpio maskedOutLowerRegOffset maskedOutUpperRegOffset mask state

/-- `dif_gpio_output_set_enabled`, which passes on any toggle that is not zero
as true. -/
def difGpioOutputSetEnabled (gpio : Pointer) (pin : BitVec 32) (state : DifToggle) :
    Mmio DifResult :=
  gpioMaskedBitWrite gpio maskedOeLowerRegOffset maskedOeUpperRegOffset pin (state != 0)

/-- `dif_gpio_output_set_enabled_masked` -/
def difGpioOutputSetEnabledMasked (gpio : Pointer) (mask state : BitVec 32) : Mmio DifResult :=
  gpioMaskedWrite gpio maskedOeLowerRegOffset maskedOeUpperRegOffset mask state

/-! ## Bits -/

/-- The word with the bits of the mask taken from the value. -/
def masked (word mask val : BitVec 32) : BitVec 32 := (word &&& ~~~mask) ||| (val &&& mask)

section

variable {word mask val : BitVec 32} {i : Nat}

theorem getLsbD_masked (inside : i < 32) : (masked word mask val).getLsbD i =
    if mask.getLsbD i then val.getLsbD i else word.getLsbD i := by
  simp only [masked, BitVec.getLsbD_or, BitVec.getLsbD_and, BitVec.getLsbD_not, inside]
  cases mask.getLsbD i <;> simp

@[simp] theorem masked_zero : masked word 0 val = word := by
  apply BitVec.eq_of_getLsbD_eq
  intro i inside
  rw [getLsbD_masked inside]
  exact if_neg (by simp)

/-- Two masks one after the other are one mask. -/
theorem masked_masked (mask' : BitVec 32) :
    masked (masked word mask val) mask' val = masked word (mask ||| mask') val := by
  apply BitVec.eq_of_getLsbD_eq
  intro i inside
  simp only [getLsbD_masked inside, BitVec.getLsbD_or]
  cases mask.getLsbD i <;> cases mask'.getLsbD i <;> rfl

/-- The value last masked in counts. -/
@[simp] theorem masked_again (val' : BitVec 32) :
    masked (masked word mask val) mask val' = masked word mask val' := by
  apply BitVec.eq_of_getLsbD_eq
  intro i inside
  simp only [getLsbD_masked inside]
  cases mask.getLsbD i <;> rfl

theorem getLsbD_lower (inside : i < 32) :
    (word &&& 0x0000ffff).getLsbD i = (decide (i < 16) && word.getLsbD i) := by
  have bit : forall i : Fin 32, (0x0000ffff : BitVec 32).getLsbD i = decide (i.val < 16) := by
    decide
  rw [BitVec.getLsbD_and, bit ⟨i, inside⟩, Bool.and_comm]

theorem getLsbD_upper (inside : i < 32) :
    (word &&& 0xffff0000).getLsbD i = (decide (16 <= i) && word.getLsbD i) := by
  have bit : forall i : Fin 32, (0xffff0000 : BitVec 32).getLsbD i = decide (16 <= i.val) := by
    decide
  rw [BitVec.getLsbD_and, bit ⟨i, inside⟩, Bool.and_comm]

theorem getLsbD_maskedHalf {half : BitVec 16} (inside : i < 16) : (maskedHalf half val).getLsbD i =
    if val.getLsbD (16 + i) then val.getLsbD i else half.getLsbD i := by
  simp only [maskedHalf, BitVec.getLsbD_or, BitVec.getLsbD_and, BitVec.getLsbD_not,
    BitVec.getLsbD_extractLsb', inside, Nat.zero_add, decide_true, Bool.true_and]
  cases val.getLsbD (16 + i) <;> simp

theorem getLsbD_maskedLower (inside : i < 32) : (maskedLower word val).getLsbD i =
    if i < 16 ∧ val.getLsbD (16 + i) = true then val.getLsbD i else word.getLsbD i := by
  unfold maskedLower
  rw [BitVec.getLsbD_append]
  by_cases low : i < 16
  · rw [if_pos low, getLsbD_maskedHalf low, BitVec.getLsbD_extractLsb']
    simp [low]
  · rw [if_neg low, BitVec.getLsbD_extractLsb']
    have upper : i - 16 < 16 := by omega
    simp [low, upper, Nat.add_sub_cancel' (Nat.le_of_not_lt low)]

theorem getLsbD_maskedUpper (inside : i < 32) : (maskedUpper word val).getLsbD i =
    if 16 <= i ∧ val.getLsbD i = true then val.getLsbD (i - 16) else word.getLsbD i := by
  unfold maskedUpper
  rw [BitVec.getLsbD_append]
  by_cases low : i < 16
  · rw [if_pos low, BitVec.getLsbD_extractLsb']
    simp [low]
  · have high := Nat.le_of_not_lt low
    rw [if_neg low, getLsbD_maskedHalf (by omega), BitVec.getLsbD_extractLsb',
      Nat.add_sub_cancel' high]
    have upper : i - 16 < 16 := by omega
    simp [high, upper]

/-- What is written to the lower register masks the lower half of the word. -/
theorem maskedLower_eq :
    maskedLower word (((mask &&& 0x0000ffff) <<< 16) ||| (val &&& 0x0000ffff)) =
      masked word (mask &&& 0x0000ffff) val := by
  apply BitVec.eq_of_getLsbD_eq
  intro i inside
  rw [getLsbD_maskedLower inside, getLsbD_masked inside, getLsbD_lower inside]
  by_cases low : i < 16
  · have outer : 16 + i < 32 := by omega
    have beyond : ¬ 16 + i < 16 := by omega
    rw [BitVec.getLsbD_or, BitVec.getLsbD_or, BitVec.getLsbD_shiftLeft, BitVec.getLsbD_shiftLeft,
      Nat.add_sub_cancel_left, getLsbD_lower outer, getLsbD_lower inside, getLsbD_lower inside]
    simp [low, outer, beyond]
  · simp [low]

theorem maskedUpper_eq :
    maskedUpper word ((mask &&& 0xffff0000 : BitVec 32) ||| ((val &&& 0xffff0000) >>> 16)) =
      masked word (mask &&& 0xffff0000) val := by
  apply BitVec.eq_of_getLsbD_eq
  intro i inside
  rw [getLsbD_maskedUpper inside, getLsbD_masked inside, getLsbD_upper inside]
  by_cases high : 16 <= i
  · have lower : i - 16 < 32 := by omega
    have below : ¬ 16 <= i - 16 := by omega
    rw [BitVec.getLsbD_or, BitVec.getLsbD_or, BitVec.getLsbD_ushiftRight,
      BitVec.getLsbD_ushiftRight, Nat.add_sub_cancel' high, getLsbD_upper inside,
      getLsbD_upper inside, getLsbD_upper lower,
      BitVec.getLsbD_of_ge (val &&& 0xffff0000) (16 + i) (by omega)]
    simp [high, below]
  · simp [high]

variable {index : BitVec 32} {state : Bool}

/-- A mask of one bit. -/
theorem getLsbD_indexToMask (inside : i < 32) :
    (indexToMask index).getLsbD i = decide (i = index.toNat) := by
  unfold indexToMask
  rw [BitVec.shiftLeft_eq', BitVec.getLsbD_shiftLeft, BitVec.getLsbD_one]
  by_cases below : i < index.toNat
  · simp [below, Nat.ne_of_lt below]
  · have same : i - index.toNat = 0 ↔ i = index.toNat := by omega
    simp [below, inside, same]

/-- What is written for one bit: where it selects, and the value that it gives. -/
def bitWord (index : BitVec 32) (state : Bool) : BitVec 32 :=
  (indexToMask (index % 16) <<< 16) ||| (if state then indexToMask (index % 16) else 0)

theorem getLsbD_bitWord_selects (inside : i < 16) :
    (bitWord index state).getLsbD (16 + i) = decide (i = index.toNat % 16) := by
  have outer : 16 + i < 32 := by omega
  have apart : ¬ 16 + i = index.toNat % 16 := by omega
  have none : (if state then indexToMask (index % 16) else 0).getLsbD (16 + i) = false := by
    cases state
    · exact BitVec.getLsbD_zero
    · rw [if_pos rfl, getLsbD_indexToMask outer, BitVec.toNat_umod]
      exact decide_eq_false apart
  unfold bitWord
  rw [BitVec.getLsbD_or, none, BitVec.getLsbD_shiftLeft, Nat.add_sub_cancel_left,
    getLsbD_indexToMask (by omega), BitVec.toNat_umod]
  simp [outer]

theorem getLsbD_bitWord_gives (inside : i < 16) :
    (bitWord index state).getLsbD i = (state && decide (i = index.toNat % 16)) := by
  unfold bitWord
  rw [BitVec.getLsbD_or, BitVec.getLsbD_shiftLeft]
  cases state
  · simp [inside]
  · have bit : (indexToMask (index % 16)).getLsbD i = decide (i = index.toNat % 16) := by
      rw [getLsbD_indexToMask (by omega), BitVec.toNat_umod]
      rfl
    rw [if_pos rfl, bit]
    simp [inside]

theorem maskedLower_bit (low : index.toNat < 16) (given : val.getLsbD index.toNat = state) :
    maskedLower word (bitWord index state) = masked word (indexToMask index) val := by
  apply BitVec.eq_of_getLsbD_eq
  intro i inside
  rw [getLsbD_maskedLower inside, getLsbD_masked inside, getLsbD_indexToMask inside]
  by_cases half : i < 16
  · rw [getLsbD_bitWord_selects half, getLsbD_bitWord_gives half, Nat.mod_eq_of_lt low]
    by_cases here : i = index.toNat
    · simp [here, low, given]
    · simp [here]
  · have apart : i ≠ index.toNat := by omega
    simp [half, apart]

theorem maskedUpper_bit (high : 16 <= index.toNat) (small : index.toNat < 32)
    (given : val.getLsbD index.toNat = state) :
    maskedUpper word (bitWord index state) = masked word (indexToMask index) val := by
  apply BitVec.eq_of_getLsbD_eq
  intro i inside
  rw [getLsbD_maskedUpper inside, getLsbD_masked inside, getLsbD_indexToMask inside]
  by_cases half : 16 <= i
  · have lower : i - 16 < 16 := by omega
    have selects := @getLsbD_bitWord_selects (i - 16) index state lower
    have same : i - 16 = index.toNat % 16 ↔ i = index.toNat := by omega
    rw [Nat.add_sub_cancel' half] at selects
    rw [selects, getLsbD_bitWord_gives lower]
    simp only [same]
    by_cases here : i = index.toNat
    · simp [here, high, given]
    · simp [here]
  · have apart : i ≠ index.toNat := by omega
    simp [half, apart]

end

/-! ## The two words that can be written so -/

/-- A word of the register file with a masked register for each half. -/
structure MaskedWord where
  regLowerOffset : Nat
  regUpperOffset : Nat
  get : Registers -> BitVec 32
  put : Registers -> BitVec 32 -> Registers
  put_get : forall regs, put regs (get regs) = regs
  get_put : forall regs word, get (put regs word) = word
  put_put : forall regs word word', put (put regs word) word' = put regs word'
  writesLower : forall regs value,
    device.write32 regLowerOffset value regs = put regs (maskedLower (get regs) value)
  writesUpper : forall regs value,
    device.write32 regUpperOffset value regs = put regs (maskedUpper (get regs) value)

/-- What is driven. -/
def MaskedWord.out : MaskedWord where
  regLowerOffset := maskedOutLowerRegOffset
  regUpperOffset := maskedOutUpperRegOffset
  get := Registers.directOut
  put regs word := { regs with directOut := word }
  put_get _ := rfl
  get_put _ _ := rfl
  put_put _ _ _ := rfl
  writesLower _ _ := rfl
  writesUpper _ _ := rfl

/-- Which pins are driven. -/
def MaskedWord.oe : MaskedWord where
  regLowerOffset := maskedOeLowerRegOffset
  regUpperOffset := maskedOeUpperRegOffset
  get := Registers.directOe
  put regs word := { regs with directOe := word }
  put_get _ := rfl
  get_put _ _ := rfl
  put_put _ _ _ := rfl
  writesLower _ _ := rfl
  writesUpper _ _ := rfl

/-- `gpio_masked_write`, but the write of a half that is not in the mask is only
left out where it may be. -/
def gpioMaskedWriteSkipping (skipLower skipUpper : Bool) (gpio : Pointer)
    (regLowerOffset regUpperOffset : Nat) (mask val : BitVec 32) : Mmio DifResult := do
  if gpio = .null then
    return .kDifBadArg
  let maskLowerHalf := mask &&& 0x0000ffff
  let maskUpperHalf := mask &&& 0xffff0000
  if skipLower = false ∨ maskLowerHalf ≠ 0 then
    mmioRegionWrite32 regLowerOffset ((maskLowerHalf <<< 16) ||| (val &&& 0x0000ffff))
  if skipUpper = false ∨ maskUpperHalf ≠ 0 then
    mmioRegionWrite32 regUpperOffset (maskUpperHalf ||| ((val &&& 0xffff0000) >>> 16))
  return .kDifOk

section

variable (w : MaskedWord) (regs : Registers) (mask val : BitVec 32)

section

variable {rest : Mmio DifResult} {out : DifResult} {after : Registers}

/-- A half that is left out has nothing to change. -/
theorem lower_does (skip : Bool)
    (does : Does device seesInputs (w.put regs (masked (w.get regs) (mask &&& 0x0000ffff) val)) rest
      out after) :
    Does device seesInputs regs
      (if skip = false ∨ mask &&& 0x0000ffff ≠ 0 then
        mmioRegionWrite32 w.regLowerOffset
          (((mask &&& 0x0000ffff) <<< 16) ||| (val &&& 0x0000ffff)) >>= fun _ => rest
      else rest) out after := by
  split
  · refine .write32 ?_
    rw [w.writesLower, maskedLower_eq]
    exact does
  · next left =>
      rw [not_not.mp (not_or.mp left).2, masked_zero, w.put_get] at does
      exact does

theorem upper_does (skip : Bool)
    (does : Does device seesInputs (w.put regs (masked (w.get regs) (mask &&& 0xffff0000) val)) rest
      out after) :
    Does device seesInputs regs
      (if skip = false ∨ mask &&& 0xffff0000 ≠ 0 then
        mmioRegionWrite32 w.regUpperOffset
          ((mask &&& 0xffff0000 : BitVec 32) ||| ((val &&& 0xffff0000) >>> 16)) >>= fun _ => rest
      else rest) out after := by
  split
  · refine .write32 ?_
    rw [w.writesUpper, maskedUpper_eq]
    exact does
  · next left =>
      rw [not_not.mp (not_or.mp left).2, masked_zero, w.put_get] at does
      exact does

end

/-- Whichever halves are left out, the bits of the mask take the value. -/
theorem gpioMaskedWriteSkipping_does (skipLower skipUpper : Bool) :
    Does device seesInputs regs
      (gpioMaskedWriteSkipping skipLower skipUpper .object w.regLowerOffset w.regUpperOffset mask
        val) .kDifOk (w.put regs (masked (w.get regs) mask val)) := by
  have whole : (mask &&& 0x0000ffff) ||| (mask &&& 0xffff0000) = mask := by
    rw [<- BitVec.and_or_distrib_left]
    exact BitVec.and_allOnes
  unfold gpioMaskedWriteSkipping
  rw [if_neg (by decide)]
  refine lower_does w regs mask val skipLower (upper_does w _ mask val skipUpper ?_)
  rw [w.get_put, w.put_put, masked_masked, whole]
  exact .ret _ _

/-- The driver leaves both halves out. -/
theorem gpioMaskedWrite_eq (gpio : Pointer) (regLowerOffset regUpperOffset : Nat) :
    gpioMaskedWrite gpio regLowerOffset regUpperOffset mask val =
      gpioMaskedWriteSkipping true true gpio regLowerOffset regUpperOffset mask val := by
  unfold gpioMaskedWrite gpioMaskedWriteSkipping
  simp only [Bool.true_eq_false, false_or]

theorem gpioMaskedWrite_does :
    Does device seesInputs regs
      (gpioMaskedWrite .object w.regLowerOffset w.regUpperOffset mask val)
      .kDifOk (w.put regs (masked (w.get regs) mask val)) := by
  rw [gpioMaskedWrite_eq]
  exact gpioMaskedWriteSkipping_does w regs mask val true true

/-- A bit is written like a mask with this bit only. -/
theorem gpioMaskedBitWrite_does {index : BitVec 32} {state : Bool} (pin : index < kDifGpioNumPins)
    (given : val.getLsbD index.toNat = state) :
    Does device seesInputs regs
      (gpioMaskedBitWrite .object w.regLowerOffset w.regUpperOffset index state)
      .kDifOk (w.put regs (masked (w.get regs) (indexToMask index) val)) := by
  have small : index.toNat < 32 := BitVec.lt_def.mp pin
  have offered : ¬ (Pointer.object = .null ∨ kDifGpioNumPins <= index) :=
    not_or.mpr ⟨by decide, BitVec.not_le.mpr pin⟩
  unfold gpioMaskedBitWrite
  rw [if_neg offered]
  by_cases low : index < 16
  · have below : index.toNat < 16 := BitVec.lt_def.mp low
    simp only [if_pos low]
    refine .write32 ?_
    rw [w.writesLower, <- maskedLower_bit below given]
    exact .ret _ _
  · have above : 16 <= index.toNat := BitVec.le_def.mp (BitVec.not_lt.mp low)
    simp only [if_neg low]
    refine .write32 ?_
    rw [w.writesUpper, <- maskedUpper_bit above small given]
    exact .ret _ _

/-- A masked write does the same whichever halves it leaves out, and a write of one pin
does the same as the masked write of its bit; for all handles. -/
theorem maskedWrite_congr (gpio : Pointer) (out : DifResult) (after : Registers) :
    (forall skipLower skipUpper,
      Does device seesInputs regs (gpioMaskedWriteSkipping skipLower skipUpper gpio
        w.regLowerOffset w.regUpperOffset mask val) out after ↔
      Does device seesInputs regs (gpioMaskedWrite gpio
        w.regLowerOffset w.regUpperOffset mask val) out after) ∧
    forall index state, index < kDifGpioNumPins -> val.getLsbD index.toNat = state ->
      (Does device seesInputs regs (gpioMaskedBitWrite gpio
        w.regLowerOffset w.regUpperOffset index state) out after ↔
      Does device seesInputs regs (gpioMaskedWrite gpio
        w.regLowerOffset w.regUpperOffset (indexToMask index) val) out after) := by
  cases gpio
  · exact ⟨fun _ _ => .rfl, fun _ _ _ _ => .rfl⟩
  · constructor
    · intro skipLower skipUpper
      exact (gpioMaskedWriteSkipping_does w regs mask val skipLower skipUpper).congr
        (gpioMaskedWrite_does w regs mask val) out after
    · intro index state pin given
      exact (gpioMaskedBitWrite_does w regs val pin given).congr
        (gpioMaskedWrite_does w regs (indexToMask index) val) out after

end

/-- After a masked write of the outputs, or of which pins are driven, the bits in the mask
are those of the value and the others are what they were, and nothing else has changed.
A half that is not in the mask need not be written, and one pin is a mask of one bit. -/
theorem maskedWrites (regs : Registers) (mask val : BitVec 32) :
    (Does device seesInputs regs (difGpioWriteMasked .object mask val) .kDifOk
        { regs with directOut := (regs.directOut &&& ~~~mask) ||| (val &&& mask) } ∧
      Does device seesInputs regs (difGpioOutputSetEnabledMasked .object mask val) .kDifOk
        { regs with directOe := (regs.directOe &&& ~~~mask) ||| (val &&& mask) }) ∧
    forall gpio out after,
      (forall skipLower skipUpper,
        (Does device seesInputs regs (gpioMaskedWriteSkipping skipLower skipUpper gpio
            maskedOutLowerRegOffset maskedOutUpperRegOffset mask val) out after ↔
          Does device seesInputs regs (difGpioWriteMasked gpio mask val) out after) ∧
        (Does device seesInputs regs (gpioMaskedWriteSkipping skipLower skipUpper gpio
            maskedOeLowerRegOffset maskedOeUpperRegOffset mask val) out after ↔
          Does device seesInputs regs (difGpioOutputSetEnabledMasked gpio mask val) out after)) ∧
      forall pin : BitVec 32, pin < kDifGpioNumPins ->
        (forall state : Bool, val.getLsbD pin.toNat = state ->
          (Does device seesInputs regs (difGpioWrite gpio pin state) out after ↔
            Does device seesInputs regs (difGpioWriteMasked gpio (1#32 <<< pin) val) out after)) ∧
        forall state : DifToggle, val.getLsbD pin.toNat = (state != 0) ->
          (Does device seesInputs regs (difGpioOutputSetEnabled gpio pin state) out after ↔
            Does device seesInputs regs (difGpioOutputSetEnabledMasked gpio (1#32 <<< pin) val)
              out after) := by
  refine ⟨⟨gpioMaskedWrite_does .out regs mask val, gpioMaskedWrite_does .oe regs mask val⟩, ?_⟩
  intro gpio out after
  have outputs := maskedWrite_congr .out regs mask val gpio out after
  have enables := maskedWrite_congr .oe regs mask val gpio out after
  constructor
  · exact fun skipLower skipUpper =>
      ⟨outputs.1 skipLower skipUpper, enables.1 skipLower skipUpper⟩
  · exact fun pin inside =>
      ⟨fun state => outputs.2 pin state inside, fun state => enables.2 pin (state != 0) inside⟩

end Gpio
end SunburstChip
