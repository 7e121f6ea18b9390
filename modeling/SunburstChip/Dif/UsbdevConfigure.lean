import SunburstChip.Dif.UsbdevBuffers

namespace SunburstChip
namespace Usbdev

open Mmio

/-!
# Configurations that are refused

The pool of free buffers is filled before the configuration is looked at.  A
configuration that is refused for one of its toggles leaves a full pool behind,
with buffers in it that are somewhere else as well.
-/

/-- The pool after `buffer_pool_init`. -/
def freshPool : BufferPool where
  buffers := .ofFn (fun i => .ofNat 8 i)
  top := 31

/-- Every toggle is one of the two values. -/
def Config.Valid (config : Config) : Prop :=
  difIsValidToggle config.haveDifferentialReceiver = true ∧
  difIsValidToggle config.useTxDSe0 = true ∧ difIsValidToggle config.singleBitEop = true ∧
  difIsValidToggle config.pinFlip = true ∧ difIsValidToggle config.clockSyncSignals = true

instance (config : Config) : Decidable config.Valid := inferInstanceAs (Decidable (_ ∧ _))

/-- What was in the pool makes no difference. -/
theorem bufferPoolInit_eq (pool : BufferPool) : bufferPoolInit pool = (freshPool, true) := by
  rcases bufferPoolInit_stack pool with ⟨initialised, bounds, stack⟩
  have length := BufferPool.length_stack bounds
  rw [stack, List.length_map, List.length_range] at length
  have top : (bufferPoolInit pool).1.top = 31 := by omega
  have whole : (bufferPoolInit pool).1.buffers.toList = freshPool.buffers.toList := by
    have all : (bufferPoolInit pool).1.stack = (bufferPoolInit pool).1.buffers.toList := by
      unfold BufferPool.stack
      rw [top]
      exact List.take_of_length_le (Nat.le_of_eq (BufferPool.length_buffers _))
    rw [<- all, stack]
    decide
  have buffers := Vector.toList_inj.mp whole
  generalize bufferPoolInit pool = filled at initialised top buffers
  rcases filled with ⟨⟨buffers', top'⟩, done⟩
  dsimp only at initialised top buffers
  rw [initialised, top, buffers]
  rfl

/-- What is written for a configuration. -/
def Config.phyConfigVal (config : Config) : BitVec 32 :=
  let phyConfigVal := bitfieldBit32Write 0 phyConfigUseDiffRcvrBit
    (difToggleToBool config.haveDifferentialReceiver)
  let phyConfigVal := bitfieldBit32Write phyConfigVal phyConfigTxUseDSe0Bit
    (difToggleToBool config.useTxDSe0)
  let phyConfigVal := bitfieldBit32Write phyConfigVal phyConfigEopSingleBitBit
    (difToggleToBool config.singleBitEop)
  let phyConfigVal := bitfieldBit32Write phyConfigVal phyConfigPinflipBit
    (difToggleToBool config.pinFlip)
  bitfieldBit32Write phyConfigVal phyConfigUsbRefDisableBit
    (!difToggleToBool config.clockSyncSignals)

/-- With both pointers, the pool is filled, and then the configuration is looked at. -/
theorem configure_eq (pool : BufferPool) (config : Config) :
    difUsbdevConfigure .object .object pool config =
      if config.Valid then
        .write32 phyConfigRegOffset config.phyConfigVal (.ret (.kDifOk, freshPool))
      else .ret (.kDifBadArg, freshPool) := by
  have both : ¬ (Pointer.object = .null ∨ Pointer.object = .null) := by simp
  have invalid : (!difIsValidToggle config.haveDifferentialReceiver ||
      !difIsValidToggle config.useTxDSe0 || !difIsValidToggle config.singleBitEop ||
      !difIsValidToggle config.pinFlip || !difIsValidToggle config.clockSyncSignals) = true ↔
      ¬ config.Valid := by
    unfold Config.Valid
    simp only [Bool.or_eq_true, Bool.not_eq_true', <- Bool.not_eq_true]
    tauto
  unfold difUsbdevConfigure
  rw [if_neg both, bufferPoolInit_eq]
  by_cases valid : config.Valid
  · rw [if_pos valid]
    change (if _ then _ else _) = _
    rw [if_neg (fun refused => invalid.mp refused valid)]
    rfl
  · rw [if_neg valid]
    change (if _ then _ else _) = _
    rw [if_pos (invalid.mpr valid)]
    rfl

section

variable {usbdev bufferPool : Pointer} {pool : BufferPool} {config : Config}
variable {s t : Controller} {out : DifResult × BufferPool}

theorem hardware_regs (moves : Relation.ReflTransGen Hardware s t) : t.regs = s.regs := by
  induction moves with
  | refl => rfl
  | tail _ step ih =>
      rw [<- ih]
      cases step <;> rfl

/-- It holds that a refused configuration changes nothing, exactly if it is refused
for a pointer, or is not refused, or the pool is as it is filled. -/
theorem badArg_unchanged_iff
    (ran : Exec device Hardware s (difUsbdevConfigure usbdev bufferPool pool config) t out) :
    (out.1 = .kDifBadArg ->
      out.2 = pool ∧ t.regs phyConfigRegOffset = s.regs phyConfigRegOffset) ↔
    usbdev = .null ∨ bufferPool = .null ∨ config.Valid ∨ pool = freshPool := by
  by_cases null : usbdev = .null ∨ bufferPool = .null
  · have refused : difUsbdevConfigure usbdev bufferPool pool config = .ret (.kDifBadArg, pool) := by
      unfold difUsbdevConfigure
      rw [if_pos null]
      rfl
    rw [refused] at ran
    rcases exec_ret ran with ⟨same, moves⟩
    apply iff_of_true
    · intro _
      rw [same, hardware_regs moves]
      exact ⟨rfl, rfl⟩
    · rcases null with null | null
      · exact Or.inl null
      · exact Or.inr (Or.inl null)
  · rcases not_or.mp null with ⟨some, some'⟩
    have object : usbdev = .object := by
      cases usbdev with
      | null => exact absurd rfl some
      | object => rfl
    have object' : bufferPool = .object := by
      cases bufferPool with
      | null => exact absurd rfl some'
      | object => rfl
    subst object object'
    rw [configure_eq] at ran
    by_cases valid : config.Valid
    · rw [if_pos valid] at ran
      have returned : (Mmio.write32 phyConfigRegOffset config.phyConfigVal
          (.ret (DifResult.kDifOk, freshPool))).Returns (fun out => out.1 = DifResult.kDifOk) := rfl
      have ok := returned.of_exec ran
      apply iff_of_true
      · intro bad
        rw [bad] at ok
        cases ok
      · exact Or.inr (Or.inr (Or.inl valid))
    · rw [if_neg valid] at ran
      rcases exec_ret ran with ⟨same, moves⟩
      rw [same, hardware_regs moves]
      constructor
      · intro unchanged
        exact Or.inr (Or.inr (Or.inr (unchanged rfl).1.symm))
      · rintro (null | null | fine | fresh)
        · exact absurd null some
        · exact absurd null some'
        · exact absurd fine valid
        · exact fun _ => ⟨fresh.symm, rfl⟩

end

/-- What requesting a buffer gives after the driver has been configured. -/
def requested : DifResult × BufferPool × Option Buffer :=
  difUsbdevBufferRequest .object .object .object configuredSystem.pool

/-- The system after that. -/
def requestedSystem : System where
  controller := configuredSystem.controller
  pool := requested.2.1
  objects := storeObject configuredSystem.objects 0 requested.2.2

/-- A configuration with a toggle that is neither value. -/
def invalidConfig : Config := ⟨kDifToggleEnabled, kDifToggleDisabled, kDifToggleDisabled,
  kDifToggleDisabled, 2⟩

set_option maxRecDepth 8000 in
/-- A buffer that is with the caller is in the pool as well after a refused configuration. -/
theorem invalidConfig_changes :
    Reachable 1 requestedSystem ∧ 31 ∈ requestedSystem.held (.object 0) ∧
    31 ∉ requestedSystem.held .pool ∧
    Exists fun t => Exists fun out =>
      Exec device Hardware requestedSystem.controller
        (difUsbdevConfigure .object .object requestedSystem.pool invalidConfig) t out ∧
      out.1 = .kDifBadArg ∧ out.2 ≠ requestedSystem.pool ∧
      31 ∈ System.held ⟨t, out.2, requestedSystem.objects⟩ .pool := by
  have request : Exec device Hardware configuredSystem.controller
      ((Call.bufferRequest .object .object .object 0).perform configuredSystem.pool
        configuredSystem.objects) configuredSystem.controller
      (requested.1, requested.2.1, storeObject configuredSystem.objects 0 requested.2.2) := .ret _ _
  have allowed : (Call.bufferRequest .object .object .object 0).Allowed 1 configuredSystem :=
    ⟨Nat.one_pos, rfl⟩
  have reachable : Reachable 1 requestedSystem :=
    .call reachable_configuredSystem (.bufferRequest .object .object .object 0)
      allowed request
  have ran : Exec device Hardware requestedSystem.controller
      (difUsbdevConfigure .object .object requestedSystem.pool invalidConfig)
      requestedSystem.controller (.kDifBadArg, freshPool) := by
    rw [configure_eq, if_neg (by decide)]
    exact .ret _ _
  exact ⟨reachable, by decide +kernel, by decide +kernel, _, _, ran, rfl, by decide +kernel,
    by decide +kernel⟩

theorem badArg_unchanged_iff_requested :
    (DifResult.kDifBadArg = .kDifBadArg ->
      freshPool = requestedSystem.pool ∧ requestedSystem.controller.regs phyConfigRegOffset =
        requestedSystem.controller.regs phyConfigRegOffset) ↔
    Pointer.object = .null ∨ Pointer.object = .null ∨ invalidConfig.Valid ∨
      requestedSystem.pool = freshPool := by
  have ran : Exec device Hardware requestedSystem.controller
      (difUsbdevConfigure .object .object requestedSystem.pool invalidConfig)
      requestedSystem.controller (.kDifBadArg, freshPool) := by
    rw [configure_eq, if_neg (by decide)]
    exact .ret _ _
  exact badArg_unchanged_iff ran

end Usbdev
end SunburstChip
