import SunburstChip.Dif.Gpio

namespace SunburstChip
namespace Gpio

open Mmio

/-!
# On which conditions pins interrupt

Each of four registers enables one condition for some of the pins.  A trigger is
a choice of conditions.  To configure it, the driver first takes the pins out of
all four registers and then puts them into those of the trigger; only then does
it find out whether there is such a trigger.
-/

/-! ## The driver -/

/-- `dif_gpio_irq_trigger_t`, and the words that are none of its values. -/
inductive DifGpioIrqTrigger where
  | edgeRising
  | edgeFalling
  | levelLow
  | levelHigh
  | edgeRisingFalling
  | edgeRisingLevelLow
  | edgeFallingLevelHigh
  | other
  deriving DecidableEq

/-- `dif_gpio_irq_set_trigger` -/
def difGpioIrqSetTrigger (gpio : Pointer) (mask : BitVec 32) (trigger : DifGpioIrqTrigger) :
    Mmio DifResult := do
  if gpio = .null then
    return .kDifBadArg
  mmioRegionNonatomicClearMask32 intrCtrlEnRisingRegOffset mask 0
  mmioRegionNonatomicClearMask32 intrCtrlEnFallingRegOffset mask 0
  mmioRegionNonatomicClearMask32 intrCtrlEnLvlhighRegOffset mask 0
  mmioRegionNonatomicClearMask32 intrCtrlEnLvllowRegOffset mask 0
  match trigger with
  | .edgeRising =>
      mmioRegionNonatomicSetMask32 intrCtrlEnRisingRegOffset mask 0
      return .kDifOk
  | .edgeFalling =>
      mmioRegionNonatomicSetMask32 intrCtrlEnFallingRegOffset mask 0
      return .kDifOk
  | .levelLow =>
      mmioRegionNonatomicSetMask32 intrCtrlEnLvllowRegOffset mask 0
      return .kDifOk
  | .levelHigh =>
      mmioRegionNonatomicSetMask32 intrCtrlEnLvlhighRegOffset mask 0
      return .kDifOk
  | .edgeRisingFalling =>
      mmioRegionNonatomicSetMask32 intrCtrlEnRisingRegOffset mask 0
      mmioRegionNonatomicSetMask32 intrCtrlEnFallingRegOffset mask 0
      return .kDifOk
  | .edgeRisingLevelLow =>
      mmioRegionNonatomicSetMask32 intrCtrlEnRisingRegOffset mask 0
      mmioRegionNonatomicSetMask32 intrCtrlEnLvllowRegOffset mask 0
      return .kDifOk
  | .edgeFallingLevelHigh =>
      mmioRegionNonatomicSetMask32 intrCtrlEnFallingRegOffset mask 0
      mmioRegionNonatomicSetMask32 intrCtrlEnLvlhighRegOffset mask 0
      return .kDifOk
  | .other => return .kDifError

/-- `dif_gpio_input_noise_filter_set_enabled`, which looks at its argument before
it writes anything. -/
def difGpioInputNoiseFilterSetEnabled (gpio : Pointer) (mask : BitVec 32) (state : DifToggle) :
    Mmio DifResult := do
  if gpio = .null then
    return .kDifBadArg
  if state = kDifToggleEnabled then
    mmioRegionNonatomicSetMask32 ctrlEnInputFilterRegOffset mask 0
    return .kDifOk
  else if state = kDifToggleDisabled then
    mmioRegionNonatomicClearMask32 ctrlEnInputFilterRegOffset mask 0
    return .kDifOk
  else
    return .kDifBadArg

/-! ## Conditions -/

/-- What a pin can interrupt on. -/
inductive Condition where
  | rising
  | falling
  | high
  | low
  deriving DecidableEq

/-- The pins that interrupt on a condition. -/
def Registers.enabled (regs : Registers) : Condition -> BitVec 32
  | .rising => regs.intrCtrlEnRising
  | .falling => regs.intrCtrlEnFalling
  | .high => regs.intrCtrlEnLvlhigh
  | .low => regs.intrCtrlEnLvllow

/-- The registers with other pins enabled, and nothing else changed. -/
def Registers.withEnabled (regs : Registers) (enabled : Condition -> BitVec 32) : Registers :=
  { regs with
    intrCtrlEnRising := enabled .rising
    intrCtrlEnFalling := enabled .falling
    intrCtrlEnLvlhigh := enabled .high
    intrCtrlEnLvllow := enabled .low }

/-- The conditions that a trigger asks for, as its description has them. -/
def DifGpioIrqTrigger.asksFor : DifGpioIrqTrigger -> Condition -> Bool
  | .edgeRising, .rising => true
  | .edgeFalling, .falling => true
  | .levelLow, .low => true
  | .levelHigh, .high => true
  | .edgeRisingFalling, .rising => true
  | .edgeRisingFalling, .falling => true
  | .edgeRisingLevelLow, .rising => true
  | .edgeRisingLevelLow, .low => true
  | .edgeFallingLevelHigh, .falling => true
  | .edgeFallingLevelHigh, .high => true
  | _, _ => false

/-! ## What the driver does to a condition -/

/-- The register of a condition. -/
def Condition.regOffset : Condition -> Nat
  | .rising => intrCtrlEnRisingRegOffset
  | .falling => intrCtrlEnFallingRegOffset
  | .high => intrCtrlEnLvlhighRegOffset
  | .low => intrCtrlEnLvllowRegOffset

/-- The registers with the pins of one condition replaced. -/
def Registers.enable (regs : Registers) (condition : Condition) (pins : BitVec 32) : Registers :=
  regs.withEnabled (fun other => if other = condition then pins else regs.enabled other)

section

variable {regs : Registers} {mask : BitVec 32}

@[simp] theorem enabled_withEnabled (regs : Registers) (enabled : Condition -> BitVec 32)
    (condition : Condition) : (regs.withEnabled enabled).enabled condition = enabled condition := by
  cases condition <;> rfl

@[simp] theorem enabled_enable (regs : Registers) (condition other : Condition) (pins : BitVec 32) :
    (regs.enable condition pins).enabled other =
      if other = condition then pins else regs.enabled other :=
  enabled_withEnabled regs _ other

@[simp] theorem enable_withEnabled (regs : Registers) (condition : Condition) (pins : BitVec 32)
    (enabled : Condition -> BitVec 32) :
    (regs.enable condition pins).withEnabled enabled = regs.withEnabled enabled := rfl

@[simp] theorem withEnabled_enabled (regs : Registers) : regs.withEnabled regs.enabled = regs := rfl

theorem device_read32 (condition : Condition) :
    device.read32 condition.regOffset regs = (regs.enabled condition, regs) := by
  cases condition <;> rfl

theorem device_write32 (condition : Condition) (value : BitVec 32) :
    device.write32 condition.regOffset value regs = regs.enable condition value := by
  cases condition <;> rfl

/-- A field at the lowest bit is a masked word. -/
theorem bitfieldField32Write_masked (word mask val : BitVec 32) :
    bitfieldField32Write word ⟨mask, 0⟩ val = masked word mask val := by
  simp only [bitfieldField32Write, BitVec.shiftLeft_zero]
  rfl

theorem clear_does (condition : Condition) :
    Does device seesInputs regs (mmioRegionNonatomicClearMask32 condition.regOffset mask 0) ()
      (regs.enable condition (masked (regs.enabled condition) mask 0)) := by
  refine .read32 (fun _ => by cases condition <;> rfl) ?_
  rw [device_read32]
  refine .write32 ?_
  rw [device_write32, bitfieldField32Write_masked]
  exact .ret _ _

theorem set_does (condition : Condition) :
    Does device seesInputs regs (mmioRegionNonatomicSetMask32 condition.regOffset mask 0) ()
      (regs.enable condition (masked (regs.enabled condition) mask (~~~0))) := by
  refine .read32 (fun _ => by cases condition <;> rfl) ?_
  rw [device_read32]
  refine .write32 ?_
  rw [device_write32, bitfieldField32Write_masked]
  exact .ret _ _

/-- The word that is masked in for a condition. -/
def DifGpioIrqTrigger.word (trigger : DifGpioIrqTrigger) (condition : Condition) : BitVec 32 :=
  if trigger.asksFor condition then ~~~0 else 0

/-- Registers that differ in the conditions only. -/
theorem eq_withEnabled {after : Registers} {enabled : Condition -> BitVec 32}
    (others : after.withEnabled regs.enabled = regs)
    (same : forall condition, after.enabled condition = enabled condition) :
    after = regs.withEnabled enabled := by
  calc after = after.withEnabled after.enabled := rfl
    _ = (after.withEnabled regs.enabled).withEnabled enabled := by rw [funext same]; rfl
    _ = regs.withEnabled enabled := by rw [others]

/-- All conditions are cleared for the pins of the mask, and those of the trigger are set. -/
theorem difGpioIrqSetTrigger_does (trigger : DifGpioIrqTrigger) :
    Does device seesInputs regs (difGpioIrqSetTrigger .object mask trigger)
      (if trigger = .other then .kDifError else .kDifOk)
      (regs.withEnabled fun condition =>
        masked (regs.enabled condition) mask (trigger.word condition)) := by
  unfold difGpioIrqSetTrigger
  rw [if_neg (by decide)]
  refine .bind (clear_does .rising) (.bind (clear_does .falling) ?_)
  refine .bind (clear_does .high) (.bind (clear_does .low) ?_)
  cases trigger with
  | edgeRising =>
      refine .bind (set_does .rising) (.ret_of (eq_withEnabled (by simp) ?_))
      rintro ⟨⟩ <;> simp [DifGpioIrqTrigger.word, DifGpioIrqTrigger.asksFor]
  | edgeFalling =>
      refine .bind (set_does .falling) (.ret_of (eq_withEnabled (by simp) ?_))
      rintro ⟨⟩ <;> simp [DifGpioIrqTrigger.word, DifGpioIrqTrigger.asksFor]
  | levelLow =>
      refine .bind (set_does .low) (.ret_of (eq_withEnabled (by simp) ?_))
      rintro ⟨⟩ <;> simp [DifGpioIrqTrigger.word, DifGpioIrqTrigger.asksFor]
  | levelHigh =>
      refine .bind (set_does .high) (.ret_of (eq_withEnabled (by simp) ?_))
      rintro ⟨⟩ <;> simp [DifGpioIrqTrigger.word, DifGpioIrqTrigger.asksFor]
  | edgeRisingFalling =>
      refine .bind (set_does .rising) (.bind (set_does .falling) ?_)
      refine .ret_of (eq_withEnabled (by simp) ?_)
      rintro ⟨⟩ <;> simp [DifGpioIrqTrigger.word, DifGpioIrqTrigger.asksFor]
  | edgeRisingLevelLow =>
      refine .bind (set_does .rising) (.bind (set_does .low) ?_)
      refine .ret_of (eq_withEnabled (by simp) ?_)
      rintro ⟨⟩ <;> simp [DifGpioIrqTrigger.word, DifGpioIrqTrigger.asksFor]
  | edgeFallingLevelHigh =>
      refine .bind (set_does .falling) (.bind (set_does .high) ?_)
      refine .ret_of (eq_withEnabled (by simp) ?_)
      rintro ⟨⟩ <;> simp [DifGpioIrqTrigger.word, DifGpioIrqTrigger.asksFor]
  | other =>
      refine .ret_of (eq_withEnabled (by simp) ?_)
      rintro ⟨⟩ <;> simp [DifGpioIrqTrigger.word, DifGpioIrqTrigger.asksFor]

end

/-! ## Exact, or nothing -/

/-- If the call is successful, the pins of the mask interrupt on exactly the conditions
of the trigger, the others on what they did before, and nothing else has changed; and
if it is not, nothing has changed at all. -/
def ConfiguresTrigger (gpio : Pointer) (mask : BitVec 32) (trigger : DifGpioIrqTrigger)
    (regs : Registers) : Prop :=
  forall out after,
    Does device seesInputs regs (difGpioIrqSetTrigger gpio mask trigger) out after ->
    (out = .kDifOk -> Exists fun enabled => after = regs.withEnabled enabled ∧
      forall condition pin, pin < 32 -> (enabled condition).getLsbD pin =
        if mask.getLsbD pin then trigger.asksFor condition
        else (regs.enabled condition).getLsbD pin) ∧
    (out ≠ .kDifOk -> after = regs)

section

variable {regs : Registers} {mask : BitVec 32}

/-- Clearing pins changes nothing exactly if they are clear. -/
theorem masked_clear_iff {word : BitVec 32} : masked word mask 0 = word ↔ word &&& mask = 0 := by
  constructor
  · intro same
    rw [<- same]
    apply BitVec.eq_of_getLsbD_eq
    intro i inside
    rw [BitVec.getLsbD_and, getLsbD_masked inside]
    cases mask.getLsbD i <;> simp
  · intro apart
    apply BitVec.eq_of_getLsbD_eq
    intro i inside
    have clear : (word &&& mask).getLsbD i = false := by
      rw [apart]
      exact BitVec.getLsbD_zero
    rw [getLsbD_masked inside]
    rw [BitVec.getLsbD_and] at clear
    cases selected : mask.getLsbD i
    · rfl
    · rw [selected, Bool.and_true] at clear
      rw [clear]
      exact BitVec.getLsbD_zero

theorem getLsbD_word {trigger : DifGpioIrqTrigger} {condition : Condition} {i : Nat}
    (inside : i < 32) : (trigger.word condition).getLsbD i = trigger.asksFor condition := by
  unfold DifGpioIrqTrigger.word
  cases trigger.asksFor condition
  · exact BitVec.getLsbD_zero
  · rw [if_pos rfl, BitVec.getLsbD_not, show (0 : BitVec 32) = 0#32 from rfl, BitVec.getLsbD_zero]
    simp [inside]

/-- A trigger is configured exactly, or not at all, unless the word for it is none and
one of the pins is enabled for some condition. -/
theorem configuresTrigger_iff (gpio : Pointer) (mask : BitVec 32) (trigger : DifGpioIrqTrigger)
    (regs : Registers) :
    ConfiguresTrigger gpio mask trigger regs ↔
      gpio = .null ∨ trigger ≠ .other ∨ forall condition, regs.enabled condition &&& mask = 0 := by
  cases gpio with
  | null =>
      refine iff_of_true (fun out after does => ?_) (.inl rfl)
      rcases does.unique (.ret regs DifResult.kDifBadArg) with ⟨rfl, rfl⟩
      exact ⟨nofun, fun _ => rfl⟩
  | object =>
      have spec := @difGpioIrqSetTrigger_does regs mask trigger
      rw [or_iff_right (by decide)]
      by_cases known : trigger = .other
      · subst known
        rw [or_iff_right (by simp)]
        constructor
        · intro configures condition
          have same := (configures _ _ spec).2 (by decide)
          have clear := congrArg (fun regs => regs.enabled condition) same
          rw [enabled_withEnabled] at clear
          exact masked_clear_iff.mp clear
        · intro clear out after does
          rcases does.unique spec with ⟨rfl, rfl⟩
          rw [if_pos rfl]
          refine ⟨nofun, fun _ => ?_⟩
          have same : forall condition, masked (regs.enabled condition) mask 0 =
              regs.enabled condition := fun condition => masked_clear_iff.mpr (clear condition)
          exact congrArg regs.withEnabled (funext same)
      · refine iff_of_true (fun out after does => ?_) (.inl known)
        rcases does.unique spec with ⟨rfl, rfl⟩
        rw [if_neg known]
        refine ⟨fun _ => ⟨_, rfl, fun condition pin inside => ?_⟩, fun failed => absurd rfl failed⟩
        rw [getLsbD_masked inside, getLsbD_word inside]

end

/-- A word that is no trigger takes pin 0 from the conditions it is enabled for, and the call
fails. -/
theorem configuresTrigger_apart :
    Does device seesInputs ⟨0, 0, 0, 1, 0, 0, 0, 0⟩ (difGpioIrqSetTrigger .object 1 .other)
      .kDifError ⟨0, 0, 0, 0, 0, 0, 0, 0⟩ ∧
    ¬ ConfiguresTrigger .object 1 .other ⟨0, 0, 0, 1, 0, 0, 0, 0⟩ := by
  have does : Does device seesInputs ⟨0, 0, 0, 1, 0, 0, 0, 0⟩
      (difGpioIrqSetTrigger .object 1 .other) .kDifError ⟨0, 0, 0, 0, 0, 0, 0, 0⟩ :=
    difGpioIrqSetTrigger_does .other
  exact ⟨does, fun configures => absurd ((configures _ _ does).2 (by decide)) (by decide)⟩

/-! ## The filter -/

/-- A filter setting is made for exactly the pins of the mask, or it is refused and nothing
has changed. -/
theorem difGpioInputNoiseFilterSetEnabled_does (regs : Registers) (mask : BitVec 32)
    (state : DifToggle) :
    Does device seesInputs regs (difGpioInputNoiseFilterSetEnabled .object mask state)
      (if difIsValidToggle state then .kDifOk else .kDifBadArg)
      (if difIsValidToggle state then
        { regs with
          ctrlEnInputFilter := masked regs.ctrlEnInputFilter mask
            (if difToggleToBool state then ~~~0 else 0) }
      else regs) := by
  unfold difGpioInputNoiseFilterSetEnabled
  rw [if_neg (by decide)]
  by_cases on : state = kDifToggleEnabled
  · subst on
    refine .read32 (fun _ => rfl) (.write32 ?_)
    rw [bitfieldField32Write_masked]
    exact .ret _ _
  by_cases off : state = kDifToggleDisabled
  · subst off
    refine .read32 (fun _ => rfl) (.write32 ?_)
    rw [bitfieldField32Write_masked]
    exact .ret _ _
  · have unknown : ¬ difIsValidToggle state = true := by
      simp [difIsValidToggle, on, off]
    rw [if_neg on, if_neg off, if_neg unknown, if_neg unknown]
    exact .ret _ _

end Gpio
end SunburstChip
