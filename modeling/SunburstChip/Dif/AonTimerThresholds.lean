import SunburstChip.Dif.AonTimer

namespace SunburstChip
namespace AonTimer

open Mmio

/-!
# When the always-on timer fires

A threshold is programmed as one less than the number of ticks, since the event
needs another cycle.  A counter from zero reaches it one tick early, which is on
time, unless the number was zero: then one less is the largest number there is.
-/

/-! ## What the hardware leaves alone -/

/-- The registers without those that the hardware changes. -/
def Registers.software (regs : Registers) : Registers := { regs with
  wkupCountHi := 0
  wkupCountLo := 0
  wdogCount := 0
  intrState := 0
  wkupCause := 0 }

theorem stable_software (software : Registers) :
    Stable Hardware (fun regs => regs.software = software) := by
  rintro regs regs' ⟨_, _, _, _, _, rfl⟩ same
  exact same

/-- What a write does to them does not depend on the others. -/
theorem software_write32 (offset : Nat) (value : BitVec 32) (regs : Registers) :
    (regs.write32 offset value).software = (regs.software.write32 offset value).software := by
  unfold Registers.write32
  split <;> try rfl
  all_goals
    change (if regs.wdogRegwen = true then _ else _ : Registers).software =
      (if regs.wdogRegwen = true then _ else _ : Registers).software
    split <;> rfl

section

variable {α : Type} {post : α -> Registers -> Prop} {software : Registers}

theorem triple_write32 {offset : Nat} {value : BitVec 32} {next : Mmio α}
    (rest : Triple device Hardware
      (fun regs => regs.software = (software.write32 offset value).software) next post) :
    Triple device Hardware (fun regs => regs.software = software) (.write32 offset value next)
      post := by
  refine Triple.write32 _ (stable_software software) ?_ rest
  rintro regs rfl
  exact software_write32 offset value regs

/-- A read of a register that the hardware leaves alone. -/
theorem triple_read32 {offset : Nat} {next : BitVec 32 -> Mmio α}
    (own : forall regs : Registers, regs.read32 offset = regs.software.read32 offset)
    (rest : Triple device Hardware (fun regs => regs.software = software)
      (next (software.read32 offset)) post) :
    Triple device Hardware (fun regs => regs.software = software) (.read32 offset next) post := by
  refine Triple.read32 (fun value regs => value = software.read32 offset ∧ regs.software = software)
    (stable_software software) ?_ ?_
  · rintro regs rfl
    exact ⟨own regs, rfl⟩
  · rintro value s t a ⟨rfl, same⟩ execution
    exact rest s t a same execution

end

/-! ## Ticks -/

/-- A counter that is zero first and counts by one with each tick is at or beyond the register for
the first time after `ticks` of them. -/
def FiresAt {w : Nat} (register : BitVec w) (ticks : Nat) : Prop :=
  register <= BitVec.ofNat w ticks ∧
    forall earlier, earlier < ticks -> ¬ register <= BitVec.ofNat w earlier

/-- The event fires within the number of ticks, and not more than one tick before. -/
def OnTime {w : Nat} (threshold register : BitVec w) : Prop :=
  Exists fun ticks => FiresAt register ticks ∧ ticks <= threshold.toNat ∧
    threshold.toNat <= ticks + 1

section

variable {w : Nat} {register threshold : BitVec w}

theorem firesAt_iff {ticks : Nat} : FiresAt register ticks ↔ ticks = register.toNat := by
  have early {earlier : Nat} (before : earlier < register.toNat) :
      ¬ register <= BitVec.ofNat w earlier := by
    rw [BitVec.le_def, BitVec.toNat_ofNat, Nat.mod_eq_of_lt (Nat.lt_trans before register.isLt)]
    exact Nat.not_le.mpr before
  have then_ : register <= BitVec.ofNat w register.toNat := by
    rw [BitVec.ofNat_toNat, BitVec.setWidth_eq]
    exact BitVec.le_refl _
  constructor
  · rintro ⟨fired, first⟩
    rcases Nat.lt_trichotomy ticks register.toNat with before | same | after
    · exact absurd fired (early before)
    · exact same
    · exact absurd then_ (first _ after)
  · rintro rfl
    exact ⟨then_, fun _ before => early before⟩

/-- One less than the threshold is on time, except for a threshold of zero. -/
theorem onTime_iff (wide : 0 < w) : OnTime threshold (threshold - 1) ↔ threshold ≠ 0 := by
  have large : 2 ^ 1 <= 2 ^ w := Nat.pow_le_pow_right Nat.two_pos wide
  have inside := threshold.isLt
  have one : (1 : BitVec w).toNat = 1 := by
    change (1#w).toNat = 1
    rw [BitVec.toNat_ofNat, Nat.mod_eq_of_lt (by omega)]
  have less : (threshold - 1).toNat = (2 ^ w - 1 + threshold.toNat) % 2 ^ w := by
    rw [BitVec.toNat_sub, one]
  constructor
  · rintro ⟨ticks, fires, within, -⟩ zero
    have none : threshold.toNat = 0 := by
      rw [zero]
      exact BitVec.toNat_zero
    rw [firesAt_iff, less, none, Nat.add_zero, Nat.mod_eq_of_lt (by omega)] at fires
    omega
  · intro nonzero
    have some : 0 < threshold.toNat := Nat.pos_of_ne_zero (BitVec.toNat_ne_iff_ne.mpr nonzero)
    have value : (threshold - 1).toNat = threshold.toNat - 1 := by
      rw [less, show 2 ^ w - 1 + threshold.toNat = threshold.toNat - 1 + 2 ^ w by omega,
        Nat.add_mod_right, Nat.mod_eq_of_lt (by omega)]
    exact ⟨_, firesAt_iff.mpr value.symm, by omega, by omega⟩

end

/-! ## Starting the timers -/

/-- The threshold of the wakeup timer, as the hardware puts it together. -/
def Registers.wkupThold (regs : Registers) : BitVec 64 := regs.wkupTholdHi ++ regs.wkupTholdLo

/-- Whenever the wakeup timer is started, it fires on time. -/
def WakesOnTime (aon : Pointer) (threshold : BitVec 64) (prescaler : BitVec 32)
    (regs : Registers) : Prop :=
  forall regs', Exec device Hardware regs (difAonTimerWakeupStart aon threshold prescaler)
    regs' .kDifOk -> OnTime threshold regs'.wkupThold

/-- Whenever the watchdog is started, it barks and bites on time. -/
def WatchesOnTime (aon : Pointer) (barkThreshold biteThreshold : BitVec 32)
    (pauseInSleep lock : Bool) (regs : Registers) : Prop :=
  forall regs', Exec device Hardware regs
    (difAonTimerWatchdogStart aon barkThreshold biteThreshold pauseInSleep lock) regs' .kDifOk ->
    OnTime barkThreshold regs'.wdogBarkThold ∧ OnTime biteThreshold regs'.wdogBiteThold

/-- The two halves that are written make up the whole. -/
theorem halves (value : BitVec 64) :
    (value >>> 32).setWidth 32 ++ (value &&& 0xffffffff).setWidth 32 = value := by
  have high : ((value >>> 32).setWidth 32 : BitVec 32).toNat = value.toNat / 2 ^ 32 := by
    have inside := value.isLt
    rw [BitVec.toNat_setWidth, BitVec.toNat_ushiftRight, Nat.shiftRight_eq_div_pow]
    omega
  have low : ((value &&& 0xffffffff).setWidth 32 : BitVec 32).toNat = value.toNat % 2 ^ 32 := by
    rw [BitVec.toNat_setWidth, BitVec.toNat_and,
      show (0xffffffff : BitVec 64).toNat = 2 ^ 32 - 1 from rfl, Nat.and_two_pow_sub_one_eq_mod]
    omega
  apply BitVec.eq_of_toNat_eq
  rw [BitVec.toNat_append, <- Nat.shiftLeft_add_eq_or_of_lt (BitVec.isLt _), high, low,
    Nat.shiftLeft_eq]
  omega

theorem triple_wakeupStart {threshold : BitVec 64} {prescaler : BitVec 32}
    (fits : ¬ wkupCtrlPrescalerMask < prescaler) (software : Registers) :
    Triple device Hardware (fun regs => regs.software = software)
      (difAonTimerWakeupStart .object threshold prescaler)
      (fun out regs => out = .kDifOk ∧ regs.wkupThold = threshold - 1) := by
  unfold difAonTimerWakeupStart
  rw [if_neg (not_or.mpr ⟨by decide, fits⟩)]
  refine triple_read32 (fun _ => rfl) (triple_write32 (triple_write32 (triple_write32 ?_)))
  refine triple_write32 (triple_write32 (triple_write32 ?_))
  refine Triple.ret (stable_software _) (fun regs same => ⟨rfl, ?_⟩)
  unfold Registers.wkupThold
  rw [show regs.wkupTholdHi = regs.software.wkupTholdHi from rfl,
    show regs.wkupTholdLo = regs.software.wkupTholdLo from rfl, same]
  exact halves (threshold - 1)

/-- Whether the watchdog is locked is in the registers. -/
theorem triple_isLocked {α : Type} {next : Bool -> Mmio α} {post : α -> Registers -> Prop}
    {software : Registers}
    (rest : Triple device Hardware (fun regs => regs.software = software)
      (next (!software.wdogRegwen)) post) :
    Triple device Hardware (fun regs => regs.software = software)
      (aonTimerWatchdogIsLocked >>= next) post := by
  have value : bitfieldBit32Read (software.read32 wdogRegwenRegOffset) wdogRegwenRegwenBit =
      software.wdogRegwen := by
    change bitfieldBit32Read (if software.wdogRegwen then 1 else 0) _ = _
    cases software.wdogRegwen <;> decide
  refine triple_read32 (fun _ => rfl) ?_
  change Triple _ _ _ (next (!bitfieldBit32Read (software.read32 wdogRegwenRegOffset) _)) _
  rw [value]
  exact rest

/-- An open watchdog is started with one less than the thresholds. -/
theorem triple_watchdogStart {barkThreshold biteThreshold : BitVec 32} {pauseInSleep lock : Bool}
    {software : Registers} (writable : software.wdogRegwen = true) :
    Triple device Hardware (fun regs => regs.software = software)
      (difAonTimerWatchdogStart .object barkThreshold biteThreshold pauseInSleep lock)
      (fun out regs => out = .kDifOk ∧ regs.wdogBarkThold = barkThreshold - 1 ∧
        regs.wdogBiteThold = biteThreshold - 1) := by
  rcases software with ⟨_, _, _, _, _, _, _, _, _, _, _, _⟩
  cases writable
  unfold difAonTimerWatchdogStart
  rw [if_neg (by decide)]
  refine triple_isLocked ?_
  dsimp only
  rw [if_neg (by decide)]
  refine triple_read32 (fun _ => rfl) (triple_write32 (triple_write32 ?_))
  refine triple_write32 (triple_write32 (triple_write32 ?_))
  cases lock
  · refine Triple.ret (stable_software _) (fun regs same => ⟨rfl, ?_, ?_⟩)
    · exact congrArg Registers.wdogBarkThold same
    · exact congrArg Registers.wdogBiteThold same
  · refine triple_write32 (Triple.ret (stable_software _) (fun regs same => ⟨rfl, ?_, ?_⟩))
    · exact congrArg Registers.wdogBarkThold same
    · exact congrArg Registers.wdogBiteThold same

/-- A locked watchdog is not started. -/
theorem triple_watchdogStart_locked {barkThreshold biteThreshold : BitVec 32}
    {pauseInSleep lock : Bool} {software : Registers} (locked : software.wdogRegwen = false) :
    Triple device Hardware (fun regs => regs.software = software)
      (difAonTimerWatchdogStart .object barkThreshold biteThreshold pauseInSleep lock)
      (fun out _ => out = .kDifLocked) := by
  unfold difAonTimerWatchdogStart
  rw [if_neg (by decide)]
  refine triple_isLocked ?_
  rw [locked, if_pos (by decide)]
  exact Triple.ret (stable_software _) (fun _ _ => rfl)

/-! ## On time, or never -/

/-- Both timers can be started whenever they may be. -/
theorem polls_wakeupStart (aon : Pointer) (threshold : BitVec 64) (prescaler : BitVec 32) :
    (difAonTimerWakeupStart aon threshold prescaler).Polls (fun _ _ => False) := by
  unfold difAonTimerWakeupStart
  split
  · trivial
  · exact fun _ => trivial

theorem polls_watchdogStart (aon : Pointer) (barkThreshold biteThreshold : BitVec 32)
    (pauseInSleep lock : Bool) :
    (difAonTimerWatchdogStart aon barkThreshold biteThreshold pauseInSleep lock).Polls
      (fun _ _ => False) := by
  unfold difAonTimerWatchdogStart
  split
  · trivial
  · refine Polls.bind (fun _ => trivial) (fun isLocked => ?_)
    cases isLocked
    · refine fun _ => ?_
      cases lock <;> trivial
    · trivial

theorem wakesOnTime_iff (aon : Pointer) (threshold : BitVec 64) (prescaler : BitVec 32)
    (regs : Registers) :
    WakesOnTime aon threshold prescaler regs ↔
      aon = .null ∨ wkupCtrlPrescalerMask < prescaler ∨ threshold ≠ 0 := by
  by_cases refused : aon = .null ∨ wkupCtrlPrescalerMask < prescaler
  · refine ⟨fun _ => refused.elim .inl (.inr ∘ .inl), ?_⟩
    rintro - regs' execution
    unfold difAonTimerWakeupStart at execution
    rw [if_pos refused] at execution
    cases (exec_ret execution).1
  · rcases not_or.mp refused with ⟨object, fits⟩
    cases aon
    · exact absurd rfl object
    · have spec := @triple_wakeupStart threshold prescaler fits regs.software
      rw [or_iff_right object, or_iff_right fits, <- onTime_iff (by decide)]
      constructor
      · intro wakes
        rcases (polls_wakeupStart .object threshold prescaler).runs regs with ⟨⟨out, regs'⟩, ran⟩
        have execution : Exec device Hardware regs _ regs' out := exec_of_run ran
        rcases spec regs regs' out rfl execution with ⟨rfl, programmed⟩
        rw [<- programmed]
        exact wakes regs' execution
      · intro onTime regs' execution
        rw [(spec regs regs' .kDifOk rfl execution).2]
        exact onTime

theorem watchesOnTime_iff (aon : Pointer) (barkThreshold biteThreshold : BitVec 32)
    (pauseInSleep lock : Bool) (regs : Registers) :
    WatchesOnTime aon barkThreshold biteThreshold pauseInSleep lock regs ↔
      aon = .null ∨ regs.wdogRegwen = false ∨ (barkThreshold ≠ 0 ∧ biteThreshold ≠ 0) := by
  cases aon
  · refine ⟨fun _ => .inl rfl, ?_⟩
    rintro - regs' execution
    cases (exec_ret execution).1
  rw [or_iff_right (by decide)]
  by_cases locked : regs.wdogRegwen = false
  · refine ⟨fun _ => .inl locked, ?_⟩
    rintro - regs' execution
    have spec := @triple_watchdogStart_locked barkThreshold biteThreshold pauseInSleep lock
      regs.software locked
    cases spec regs regs' .kDifOk rfl execution
  · have spec := @triple_watchdogStart barkThreshold biteThreshold pauseInSleep lock
      regs.software (Bool.of_not_eq_false locked)
    rw [or_iff_right locked, <- onTime_iff (by decide), <- onTime_iff (by decide)]
    constructor
    · intro watches
      rcases (polls_watchdogStart .object barkThreshold biteThreshold pauseInSleep lock).runs regs
        with ⟨⟨out, regs'⟩, ran⟩
      have execution : Exec device Hardware regs _ regs' out := exec_of_run ran
      rcases spec regs regs' out rfl execution with ⟨rfl, bark, bite⟩
      rw [<- bark, <- bite]
      exact watches regs' execution
    · intro onTime regs' execution
      rcases spec regs regs' .kDifOk rfl execution with ⟨-, bark, bite⟩
      rw [bark, bite]
      exact onTime

/-- The wakeup timer and the watchdog fire on time exactly for thresholds that
are not zero, or when they are not started at all. -/
theorem thresholds_iff (aon : Pointer) (threshold : BitVec 64)
    (prescaler barkThreshold biteThreshold : BitVec 32) (pauseInSleep lock : Bool)
    (regs : Registers) :
    (WakesOnTime aon threshold prescaler regs ↔
      aon = .null ∨ wkupCtrlPrescalerMask < prescaler ∨ threshold ≠ 0) ∧
    (WatchesOnTime aon barkThreshold biteThreshold pauseInSleep lock regs ↔
      aon = .null ∨ regs.wdogRegwen = false ∨ (barkThreshold ≠ 0 ∧ biteThreshold ≠ 0)) :=
  ⟨wakesOnTime_iff aon threshold prescaler regs,
    watchesOnTime_iff aon barkThreshold biteThreshold pauseInSleep lock regs⟩

/-- A wakeup asked for at once comes after `2 ^ 64 - 1` ticks, and a bark or a
bite asked for at once after `2 ^ 32 - 1`. -/
theorem thresholds_never :
    (Exists fun regs =>
      Exec device Hardware .reset (difAonTimerWakeupStart .object 0 0) regs .kDifOk ∧
      ¬ OnTime 0 regs.wkupThold ∧ FiresAt regs.wkupThold (2 ^ 64 - 1)) ∧
    (Exists fun regs =>
      Exec device Hardware .reset (difAonTimerWatchdogStart .object 0 0 false false) regs .kDifOk ∧
      ¬ OnTime 0 regs.wdogBarkThold ∧ FiresAt regs.wdogBarkThold (2 ^ 32 - 1) ∧
      ¬ OnTime 0 regs.wdogBiteThold ∧ FiresAt regs.wdogBiteThold (2 ^ 32 - 1)) := by
  have late {w : Nat} (wide : 0 < w) : ¬ OnTime (0 : BitVec w) (0 - 1) :=
    fun onTime => (onTime_iff wide).mp onTime rfl
  refine ⟨⟨_, exec_of_run rfl, ?_, ?_⟩, ⟨_, exec_of_run rfl, ?_, ?_, ?_, ?_⟩⟩
  · exact late (by decide)
  · exact firesAt_iff.mpr rfl
  · exact late (by decide)
  · exact firesAt_iff.mpr rfl
  · exact late (by decide)
  · exact firesAt_iff.mpr rfl

end AonTimer
end SunburstChip
