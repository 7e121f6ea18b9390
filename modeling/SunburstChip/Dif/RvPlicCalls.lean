import SunburstChip.Dif.RvPlic

namespace SunburstChip
namespace RvPlic

open Mmio TlulAdapterHost

/-!
# What the calls of the driver amount to

Software configures the interrupt controller by calls of its driver.  However the
lines behave and whatever time passes between the accesses, what the registers then
hold is what the accepted calls amount to, one after the other, and the interrupt
line to the core says whether a pending interrupt that has been enabled is above
the threshold.
-/

/-! ## What software sets -/

/-- What the controller is configured to. -/
@[ext] structure Config where
  enabled : Fin 32 -> Bool
  priority : Fin 32 -> Nat
  threshold : Nat
  software : Bool

/-- Nothing is enabled, and everything is zero. -/
def Config.cleared : Config := ⟨fun _ => false, fun _ => 0, 0, false⟩

/-- What the registers configure. -/
def Regs.config (regs : Regs) : Config where
  enabled source := regs.ie.getLsbD source.val
  priority source := (regs.prio source).toNat
  threshold := regs.threshold.toNat
  software := regs.msip

/-- A call of the driver, but for the pointers. -/
inductive Kind where
  | reset
  | getEnabled (irq : IrqId) (target : TargetId)
  | setEnabled (irq : IrqId) (target : TargetId) (state : DifToggle)
  | setPriority (irq : IrqId) (priority : BitVec 32)
  | setThreshold (target : TargetId) (threshold : BitVec 32)
  | isPending (irq : IrqId)
  | claim (target : TargetId)
  | complete (target : TargetId) (completeData : IrqId)
  | softwareForce (target : TargetId)
  | softwareAcknowledge (target : TargetId)
  | softwareIsPending (target : TargetId)
deriving DecidableEq

/-- A call of the driver, with its pointers. -/
structure Call where
  plic : Pointer
  out : Pointer
  kind : Kind
deriving DecidableEq

/-- The result of a call, and what it stores for its caller. -/
abbrev Outcome := DifResult × BitVec 32

/-- A truth value, as a word. -/
def wordOf (value : Bool) : BitVec 32 := if value then 1 else 0

/-- The function that is called. -/
def Call.program (call : Call) : Mmio Outcome :=
  match call.kind with
  | .reset => difRvPlicReset call.plic >>= fun result => .ret (result, 0)
  | .getEnabled irq target => difRvPlicIrqGetEnabled call.plic irq target
  | .setEnabled irq target state =>
      difRvPlicIrqSetEnabled call.plic irq target state >>= fun result => .ret (result, 0)
  | .setPriority irq priority =>
      difRvPlicIrqSetPriority call.plic irq priority >>= fun result => .ret (result, 0)
  | .setThreshold target threshold =>
      difRvPlicTargetSetThreshold call.plic target threshold >>= fun result => .ret (result, 0)
  | .isPending irq =>
      difRvPlicIrqIsPending call.plic irq call.out >>= fun out => .ret (out.1, wordOf out.2)
  | .claim target => difRvPlicIrqClaim call.plic target call.out
  | .complete target completeData =>
      difRvPlicIrqComplete call.plic target completeData >>= fun result => .ret (result, 0)
  | .softwareForce target =>
      difRvPlicSoftwareIrqForce call.plic target >>= fun result => .ret (result, 0)
  | .softwareAcknowledge target =>
      difRvPlicSoftwareIrqAcknowledge call.plic target >>= fun result => .ret (result, 0)
  | .softwareIsPending target =>
      difRvPlicSoftwareIrqIsPending call.plic target call.out >>= fun out =>
        .ret (out.1, wordOf out.2)

/-- Calls, one after the other. -/
def performAll : List Call -> Mmio (List Outcome)
  | [] => .ret []
  | call :: calls => do
      let out <- call.program
      let outs <- performAll calls
      return out :: outs

/-! ## What a call amounts to -/

/-- The arguments are such that the call is accepted. -/
def Call.Accepted (call : Call) : Prop :=
  call.plic = .object ∧
    match call.kind with
    | .reset => True
    | .getEnabled irq target => irq.toNat < 32 ∧ target = 0
    | .setEnabled irq target state => irq.toNat < 32 ∧ target = 0 ∧ difIsValidToggle state = true
    | .setPriority irq priority => irq.toNat < 32 ∧ priority.toNat <= 3
    | .setThreshold target threshold => target = 0 ∧ threshold.toNat <= 3
    | .isPending irq => irq.toNat < 32 ∧ call.out = .object
    | .claim target | .softwareIsPending target => target = 0 ∧ call.out = .object
    | .complete target _ | .softwareForce target | .softwareAcknowledge target => target = 0

instance (call : Call) : Decidable call.Accepted := by
  unfold Call.Accepted
  cases call.kind <;> infer_instance

/-- The source that a call is about. -/
def sourceOf (irq : IrqId) : Fin 32 := ⟨irq.toNat % 32, Nat.mod_lt _ (by decide)⟩

/-- What a call that is accepted sets. -/
def Kind.set : Kind -> Config -> Config
  | .reset, _ => .cleared
  | .setEnabled irq _ state, config =>
      { config with enabled := Function.update config.enabled (sourceOf irq) (difToggleToBool state) }
  | .setPriority irq priority, config =>
      { config with priority := Function.update config.priority (sourceOf irq) priority.toNat }
  | .setThreshold _ threshold, config => { config with threshold := threshold.toNat }
  | .softwareForce _, config => { config with software := true }
  | .softwareAcknowledge _, config => { config with software := false }
  | .getEnabled _ _, config | .isPending _, config | .claim _, config | .complete _ _, config
  | .softwareIsPending _, config => config

/-- What a call makes of the configuration. -/
def Call.apply (config : Config) (call : Call) : Config :=
  if call.Accepted then call.kind.set config else config

/-- What a call reports of the configuration. -/
def Kind.Reports : Kind -> Config -> BitVec 32 -> Prop
  | .getEnabled irq _, config, out =>
      out = if config.enabled (sourceOf irq) then kDifToggleEnabled else kDifToggleDisabled
  | .softwareIsPending _, config, out => out = wordOf config.software
  | _, _, _ => True

/-- The outcome of a call. -/
def Call.Answers (call : Call) (config : Config) (out : Outcome) : Prop :=
  if call.Accepted then out.1 = .kDifOk ∧ call.kind.Reports config out.2 else out.1 = .kDifBadArg

/-- The outcomes of calls, each from what the ones before it amount to. -/
def Agree : Config -> List Call -> List Outcome -> Prop
  | _, [], [] => True
  | config, call :: calls, out :: outs =>
      call.Answers config out ∧ Agree (call.apply config) calls outs
  | _, _, _ => False

/-! ## What an access makes of the configuration -/

variable {levelEdgeTrig : BitVec 32} {α : Type}

/-- What is stored to a register, as what is set. -/
def Config.store (config : Config) (register : Register) (value : BitVec 32) : Config :=
  match register with
  | .prio n =>
      { config with
        priority := Function.update config.priority n (value.setWidth 2 : BitVec 2).toNat }
  | .ie0 => { config with enabled := fun source => value.getLsbD source.val }
  | .threshold0 => { config with threshold := (value.setWidth 2 : BitVec 2).toNat }
  | .msip0 => { config with software := value.getLsbD 0 }
  | .ip | .cc0 => config

/-- Only what is written changes. -/
theorem next_config_quiet {regs : Regs} {ip : BitVec 32} {acc : TlulAdapterReg.RegAccess}
    (quiet : forall register, writes register acc = false) :
    (regs.next ip acc).config = regs.config := by
  simp only [Regs.next, Regs.config, quiet]
  rfl

theorem next_config_stores (regs : Regs) (ip : BitVec 32) (register : Register)
    (value : BitVec 32) :
    (regs.next ip (stores register value)).config = regs.config.store register value := by
  cases register with
  | prio n =>
      simp only [Regs.next, Regs.config, writes_stores, Config.store]
      refine Config.ext rfl (funext fun source => ?_) rfl rfl
      dsimp only
      by_cases same : source = n
      · subst same
        rw [Function.update_self]
        simp [stores]
      · rw [Function.update_of_ne same]
        have other : Register.prio n ≠ .prio source :=
          fun equal => same (Register.prio.inj equal).symm
        rw [if_neg (by simpa using other)]
  | ip | ie0 | threshold0 | cc0 | msip0 =>
      simp only [Regs.next, Regs.config, writes_stores, Config.store]
      rfl

theorem writes_noAccess (register : Register) :
    writes register TlulAdapterReg.noAccess = false := writes_of_read rfl

/-- What software has configured in a view. -/
abbrev configOf (v : RegTop.View Core (BitVec 32)) : Config := v.core.regs.config

theorem stable_config (config : Config) :
    Stable (Idle levelEdgeTrig) (fun v => configOf v = config) := by
  rintro v v' rfl holds
  exact (next_config_quiet writes_noAccess).trans holds

theorem configOf_read32 (register : Register) (v : RegTop.View Core (BitVec 32)) :
    configOf ((device levelEdgeTrig).read32 register.offset v).2 = configOf v := by
  rw [read32_view]
  exact (next_config_quiet writes_noAccess).trans (next_config_quiet (writes_loads register))

theorem configOf_write32 (register : Register) (value : BitVec 32)
    (v : RegTop.View Core (BitVec 32)) :
    configOf ((device levelEdgeTrig).write32 register.offset value v) =
      (configOf v).store register value := by
  rw [write32_view]
  exact (next_config_quiet writes_noAccess).trans (next_config_stores _ _ register value)

/-! ## Rules for the driver -/

section

variable {config : Config} {post : α -> RegTop.View Core (BitVec 32) -> Prop}

/-- A configuration is kept while a register is read. -/
theorem triple_read (register : Register) {next : BitVec 32 -> Mmio α}
    (rest : forall value,
      (Exists fun core : Core => core.regs.config = config ∧
        value = regRdataNext core.regs core.target.irqIdQ (loads register)) ->
      Triple (device levelEdgeTrig) (Idle levelEdgeTrig) (fun v => configOf v = config)
        (next value) post) :
    Triple (device levelEdgeTrig) (Idle levelEdgeTrig) (fun v => configOf v = config)
      (mmioRegionRead32 register.offset >>= next) post := by
  refine Triple.read32 (fun value v => (Exists fun core : Core => core.regs.config = config ∧
    value = regRdataNext core.regs core.target.irqIdQ (loads register)) ∧ configOf v = config)
    (stable_config config) ?_ ?_
  · rintro v holds
    exact ⟨⟨v.core, holds, read32_value register v⟩, (configOf_read32 register v).trans holds⟩
  · intro value s t a holds execution
    exact rest value holds.1 s t a holds.2 execution

/-- A configuration after a register is written. -/
theorem triple_write (register : Register) (value : BitVec 32) {next : Unit -> Mmio α}
    (rest : Triple (device levelEdgeTrig) (Idle levelEdgeTrig)
      (fun v => configOf v = config.store register value) (next ()) post) :
    Triple (device levelEdgeTrig) (Idle levelEdgeTrig) (fun v => configOf v = config)
      (mmioRegionWrite32 register.offset value >>= next) post := by
  refine Triple.write32 _ (stable_config config) ?_ rest
  rintro v holds
  rw [<- holds]
  exact configOf_write32 register value v

theorem triple_ret (value : α) (holds : forall v, configOf v = config -> post value v) :
    Triple (device levelEdgeTrig) (Idle levelEdgeTrig) (fun v => configOf v = config)
      (.ret value) post :=
  Triple.ret (stable_config config) holds

end

/-! ## What a call does, register by register -/

/-- The registers that are cleared, in the order in which they are. -/
def resetRegisters : List Register :=
  (List.finRange 32).map .prio ++ [.ie0, .threshold0, .msip0]

/-- What a call that is accepted does. -/
def Kind.performed : Kind -> Mmio Outcome
  | .reset => clearEach (resetRegisters.map Register.offset) >>= fun _ => .ret (.kDifOk, 0)
  | .getEnabled irq _ => mmioRegionRead32 Register.ie0.offset >>= fun reg =>
      .ret (.kDifOk,
        if bitfieldBit32Read reg (sourceOf irq).val then kDifToggleEnabled else kDifToggleDisabled)
  | .setEnabled irq _ state => mmioRegionRead32 Register.ie0.offset >>= fun reg =>
      mmioRegionWrite32 Register.ie0.offset
        (bitfieldBit32Write reg (sourceOf irq).val (difToggleToBool state)) >>= fun _ =>
          .ret (.kDifOk, 0)
  | .setPriority irq priority =>
      mmioRegionWrite32 (Register.prio (sourceOf irq)).offset priority >>= fun _ => .ret (.kDifOk, 0)
  | .setThreshold _ threshold =>
      mmioRegionWrite32 Register.threshold0.offset threshold >>= fun _ => .ret (.kDifOk, 0)
  | .isPending irq => mmioRegionRead32 Register.ip.offset >>= fun reg =>
      .ret (.kDifOk, wordOf (bitfieldBit32Read reg (sourceOf irq).val))
  | .claim _ => mmioRegionRead32 Register.cc0.offset >>= fun claimed => .ret (.kDifOk, claimed)
  | .complete _ completeData =>
      mmioRegionWrite32 Register.cc0.offset completeData >>= fun _ => .ret (.kDifOk, 0)
  | .softwareForce _ =>
      mmioRegionWrite32 Register.msip0.offset 1 >>= fun _ => .ret (.kDifOk, 0)
  | .softwareAcknowledge _ =>
      mmioRegionWrite32 Register.msip0.offset 0 >>= fun _ => .ret (.kDifOk, 0)
  | .softwareIsPending _ => mmioRegionRead32 Register.msip0.offset >>= fun reg =>
      .ret (.kDifOk, wordOf (reg == 1))

theorem clearEach_append (first rest : List Nat) :
    clearEach (first ++ rest) = clearEach first >>= fun _ => clearEach rest := by
  induction first with
  | nil => rfl
  | cons offset first ih =>
      exact congrArg (Mmio.write32 offset 0) ih

theorem irq_outside (irq : IrqId) : irq >= .ofNat 32 numSrc ↔ ¬ irq.toNat < 32 := by
  rw [Nat.not_lt]
  exact Iff.rfl

theorem target_outside (target : TargetId) : target >= .ofNat 32 numTarget ↔ ¬ target = 0 := by
  have one : target >= .ofNat 32 numTarget ↔ 1 <= target.toNat := Iff.rfl
  rw [one, Nat.one_le_iff_ne_zero, <- BitVec.toNat_inj]
  exact Iff.rfl

theorem priority_outside (priority : BitVec 32) :
    priority > kDifRvPlicMaxPriority ↔ ¬ priority.toNat <= 3 := by
  rw [Nat.not_le]
  exact Iff.rfl

theorem pointer_null (pointer : Pointer) : pointer = .null ↔ ¬ pointer = .object := by
  cases pointer <;> simp

theorem plicPriorityRegOffset_eq {irq : IrqId} (inside : irq.toNat < 32) :
    plicPriorityRegOffset irq = (Register.prio (sourceOf irq)).offset := by
  have small : irq.toNat * 4 < 2 ^ 32 := by omega
  have index : (sourceOf irq).val = irq.toNat := Nat.mod_eq_of_lt inside
  change 0 + (irq * 4).toNat = 4 * (sourceOf irq).val
  rw [index, BitVec.toNat_mul]
  change 0 + irq.toNat * 4 % 2 ^ 32 = _
  rw [Nat.mod_eq_of_lt small, Nat.zero_add, Nat.mul_comm]

theorem plicIrqEnableRegInfo_eq {irq : IrqId} (inside : irq.toNat < 32) :
    plicIrqEnableRegInfo irq 0 = ⟨Register.ie0.offset, (sourceOf irq).val⟩ := by
  have register : irq.toNat / regWidth = 0 := Nat.div_eq_of_lt inside
  rw [plicIrqEnableRegInfo, plicOffsetFromReg0, register]
  rfl

theorem plicIrqPendingRegInfo_eq {irq : IrqId} (inside : irq.toNat < 32) :
    plicIrqPendingRegInfo irq = ⟨Register.ip.offset, (sourceOf irq).val⟩ := by
  have register : irq.toNat / regWidth = 0 := Nat.div_eq_of_lt inside
  rw [plicIrqPendingRegInfo, plicOffsetFromReg0, register]
  rfl

/-- A call is a check of its arguments, and what it does when they pass. -/
theorem program_of_guard {call : Call} {guard : Prop} [Decidable guard] {rest : Mmio Outcome}
    (program : call.program = if guard then .ret (.kDifBadArg, 0) else rest)
    (guards : guard ↔ ¬ call.Accepted) (performs : call.Accepted -> rest = call.kind.performed) :
    call.program = if call.Accepted then call.kind.performed else .ret (.kDifBadArg, 0) := by
  rw [program]
  by_cases accepted : call.Accepted
  · rw [if_pos accepted, if_neg (fun refuses => guards.mp refuses accepted), performs accepted]
  · rw [if_neg accepted, if_pos (guards.mpr accepted)]

theorem ite_bind {β : Type} {guard : Prop} [Decidable guard] (first rest : Mmio α)
    (next : α -> Mmio β) :
    (if guard then first else rest) >>= next =
      if guard then first >>= next else rest >>= next := by
  split <;> rfl

/-- Two checks that are answered alike are one. -/
theorem ite_again {guard guard' : Prop} [Decidable guard] [Decidable guard'] {refuse m rest : Mmio α}
    (again : m = if guard' then refuse else rest) :
    (if guard then refuse else m) = if guard ∨ guard' then refuse else rest := by
  rw [again]
  by_cases first : guard <;> by_cases second : guard' <;> simp [first, second]

/-- A call that is accepted accesses the registers of its source, and one that is not accesses
none. -/
theorem program_eq (call : Call) :
    call.program = if call.Accepted then call.kind.performed else .ret (.kDifBadArg, 0) := by
  rcases call with ⟨plic, out, kind⟩
  cases kind with
  | reset =>
      refine program_of_guard (ite_bind _ _ _) ?_ ?_
      · rw [pointer_null]
        simp [Call.Accepted]
      · intro _
        have offsets : (List.range numSrc).map (fun i => plicPriorityRegOffset (.ofNat 32 i)) ++
            (List.range numTarget).flatMap targetRegisters =
              resetRegisters.map Register.offset := by decide
        rw [Kind.performed, <- offsets, clearEach_append]
        exact ((Mmio.bind_assoc _ _ _).trans
          (congrArg _ (funext fun _ => Mmio.bind_assoc _ _ _))).trans
            (Mmio.bind_assoc _ _ _).symm
  | getEnabled irq target =>
      refine program_of_guard rfl ?_ ?_
      · rw [pointer_null, irq_outside, target_outside]
        simp only [Call.Accepted, not_and_or]
      · rintro ⟨_, inside, target⟩
        subst target
        rw [plicIrqEnableRegInfo_eq inside]
        rfl
  | setEnabled irq target state =>
      refine program_of_guard ((ite_bind _ _ _).trans (ite_again (ite_bind _ _ _))) ?_ ?_
      · rw [pointer_null, irq_outside, target_outside]
        simp only [Call.Accepted, difIsValidToggle, Bool.or_eq_true, beq_iff_eq]
        tauto
      · rintro ⟨_, inside, target, _⟩
        subst target
        rw [plicIrqEnableRegInfo_eq inside]
        rfl
  | setPriority irq priority =>
      refine program_of_guard (ite_bind _ _ _) ?_ ?_
      · rw [pointer_null, irq_outside, priority_outside]
        simp only [Call.Accepted, not_and_or]
      · rintro ⟨_, inside, _⟩
        rw [plicPriorityRegOffset_eq inside]
        rfl
  | setThreshold target threshold =>
      refine program_of_guard (ite_bind _ _ _) ?_ ?_
      · rw [pointer_null, target_outside, priority_outside]
        simp only [Call.Accepted, not_and_or]
      · rintro ⟨_, target, _⟩
        subst target
        rfl
  | isPending irq =>
      refine program_of_guard (ite_bind _ _ _) ?_ ?_
      · rw [pointer_null, irq_outside, pointer_null]
        simp only [Call.Accepted, not_and_or]
      · rintro ⟨_, inside, _⟩
        rw [plicIrqPendingRegInfo_eq inside]
        rfl
  | claim target =>
      refine program_of_guard rfl ?_ ?_
      · rw [pointer_null, target_outside, pointer_null]
        simp only [Call.Accepted, not_and_or]
      · rintro ⟨_, target, _⟩
        subst target
        rfl
  | complete target completeData =>
      refine program_of_guard (ite_bind _ _ _) ?_ ?_
      · rw [pointer_null, target_outside]
        simp only [Call.Accepted, not_and_or]
      · rintro ⟨_, target⟩
        subst target
        rfl
  | softwareForce target =>
      refine program_of_guard (ite_bind _ _ _) ?_ ?_
      · rw [pointer_null, target_outside]
        simp only [Call.Accepted, not_and_or]
      · rintro ⟨_, target⟩
        subst target
        rfl
  | softwareAcknowledge target =>
      refine program_of_guard (ite_bind _ _ _) ?_ ?_
      · rw [pointer_null, target_outside]
        simp only [Call.Accepted, not_and_or]
      · rintro ⟨_, target⟩
        subst target
        rfl
  | softwareIsPending target =>
      refine program_of_guard (ite_bind _ _ _) ?_ ?_
      · rw [pointer_null, target_outside, pointer_null]
        simp only [Call.Accepted, not_and_or]
      · rintro ⟨_, target, _⟩
        subst target
        rfl

/-! ## What a call amounts to, as executed -/

section

variable {config : Config} {post : α -> RegTop.View Core (BitVec 32) -> Prop}

/-- Registers are cleared one after the other. -/
theorem triple_clearEach (registers : List Register) {next : Unit -> Mmio α}
    (rest : Triple (device levelEdgeTrig) (Idle levelEdgeTrig)
      (fun v => configOf v =
        registers.foldl (fun config register => config.store register 0) config) (next ()) post) :
    Triple (device levelEdgeTrig) (Idle levelEdgeTrig) (fun v => configOf v = config)
      (clearEach (registers.map Register.offset) >>= next) post := by
  induction registers generalizing config with
  | nil => exact rest
  | cons register registers ih =>
      have later := ih (show Triple _ _ (fun v => configOf v = registers.foldl
        (fun config register => config.store register 0) (config.store register 0)) _ _ from rest)
      exact @triple_write _ _ _ _ register 0 (fun _ => clearEach _ >>= next) later

theorem foldl_store_prio (sources : List (Fin 32)) (config : Config) :
    (sources.map Register.prio).foldl (fun config register => config.store register 0) config =
      { config with
        priority := fun source => if sources.contains source then 0 else config.priority source } := by
  induction sources generalizing config with
  | nil => simp
  | cons first sources ih =>
      rw [List.map_cons, List.foldl_cons, ih]
      refine Config.ext rfl (funext fun source => ?_) rfl rfl
      change (if sources.contains source then 0 else Function.update config.priority first 0 source) =
        if (first :: sources).contains source then 0 else config.priority source
      by_cases same : source = first
      · simp [same]
      · simp [same]

theorem foldl_store_reset (config : Config) :
    resetRegisters.foldl (fun config register => config.store register 0) config = .cleared := by
  rw [resetRegisters, List.foldl_append, foldl_store_prio]
  refine Config.ext (funext fun source => BitVec.getLsbD_zero)
    (funext fun source => if_pos (by simp)) rfl rfl

theorem setWidth_small {value : BitVec 32} (small : value.toNat <= 3) :
    (value.setWidth 2 : BitVec 2).toNat = value.toNat := by
  rw [BitVec.toNat_setWidth]
  exact Nat.mod_eq_of_lt (Nat.lt_succ_of_le small)

/-- One bit of the enable bits is written. -/
theorem store_enabled {reg : BitVec 32}
    (bits : forall source : Fin 32, reg.getLsbD source.val = config.enabled source)
    (source : Fin 32) (flag : Bool) :
    config.store .ie0 (bitfieldBit32Write reg source.val flag) =
      { config with enabled := Function.update config.enabled source flag } := by
  refine Config.ext (funext fun other => ?_) rfl rfl rfl
  change (bitfieldBit32Write reg source.val flag).getLsbD other.val = _
  rw [<- bitfieldBit32Read_eq_getLsbD]
  by_cases same : other = source
  · rw [same, bitfieldBit32Read_write_same source.isLt]
    exact (Function.update_self source flag config.enabled).symm
  · have apart : source.val ≠ other.val := fun equal => same (Fin.ext equal.symm)
    rw [bitfieldBit32Read_write_other apart, bitfieldBit32Read_eq_getLsbD, bits]
    exact (Function.update_of_ne same flag config.enabled).symm

end

/-- What a call that is accepted amounts to. -/
theorem performed_spec (call : Call) (accepted : call.Accepted) (config : Config) :
    Triple (device levelEdgeTrig) (Idle levelEdgeTrig) (fun v => configOf v = config)
      call.kind.performed
      (fun out v => (out.1 = .kDifOk ∧ call.kind.Reports config out.2) ∧
        configOf v = call.kind.set config) := by
  rcases call with ⟨plic, out, kind⟩
  cases kind with
  | reset =>
      refine triple_clearEach resetRegisters (triple_ret _ ?_)
      intro v holds
      exact ⟨⟨rfl, trivial⟩, holds.trans (foldl_store_reset config)⟩
  | getEnabled irq target =>
      refine triple_read .ie0 (fun value read => triple_ret _ ?_)
      rcases read with ⟨core, rfl, rfl⟩
      intro v holds
      refine ⟨⟨rfl, ?_⟩, holds⟩
      rw [bitfieldBit32Read_eq_getLsbD]
      rfl
  | setEnabled irq target state =>
      refine triple_read .ie0 (fun value read => triple_write .ie0 _ (triple_ret _ ?_))
      rcases read with ⟨core, rfl, rfl⟩
      intro v holds
      exact ⟨⟨rfl, trivial⟩, holds.trans (store_enabled (fun _ => rfl) _ _)⟩
  | setPriority irq priority =>
      refine triple_write (.prio (sourceOf irq)) _ (triple_ret _ ?_)
      intro v holds
      refine ⟨⟨rfl, trivial⟩, holds.trans ?_⟩
      rw [Config.store, setWidth_small accepted.2.2]
      rfl
  | setThreshold target threshold =>
      refine triple_write .threshold0 _ (triple_ret _ ?_)
      intro v holds
      refine ⟨⟨rfl, trivial⟩, holds.trans ?_⟩
      rw [Config.store, setWidth_small accepted.2.2]
      rfl
  | isPending irq =>
      exact triple_read .ip (fun _ _ => triple_ret _ (fun v holds => ⟨⟨rfl, trivial⟩, holds⟩))
  | claim target =>
      exact triple_read .cc0 (fun _ _ => triple_ret _ (fun v holds => ⟨⟨rfl, trivial⟩, holds⟩))
  | complete target completeData =>
      exact triple_write .cc0 _ (triple_ret _ (fun v holds => ⟨⟨rfl, trivial⟩, holds⟩))
  | softwareForce target =>
      exact triple_write .msip0 _ (triple_ret _ (fun v holds => ⟨⟨rfl, trivial⟩, holds⟩))
  | softwareAcknowledge target =>
      exact triple_write .msip0 _ (triple_ret _ (fun v holds => ⟨⟨rfl, trivial⟩, holds⟩))
  | softwareIsPending target =>
      refine triple_read .msip0 (fun value read => triple_ret _ ?_)
      rcases read with ⟨core, rfl, rfl⟩
      intro v holds
      refine ⟨⟨rfl, ?_⟩, holds⟩
      change wordOf ((BitVec.ofBool core.regs.msip).setWidth 32 == 1) = wordOf core.regs.msip
      cases core.regs.msip <;> rfl

/-- What a call amounts to. -/
theorem call_spec (call : Call) (config : Config) :
    Triple (device levelEdgeTrig) (Idle levelEdgeTrig) (fun v => configOf v = config) call.program
      (fun out v => call.Answers config out ∧ configOf v = call.apply config) := by
  rw [program_eq]
  by_cases accepted : call.Accepted
  · simp only [Call.Answers, Call.apply, if_pos accepted]
    exact performed_spec call accepted config
  · simp only [Call.Answers, Call.apply, if_neg accepted]
    exact triple_ret _ (fun v holds => ⟨rfl, holds⟩)

/-- What calls amount to, one after the other. -/
theorem performAll_spec (calls : List Call) (config : Config) :
    Triple (device levelEdgeTrig) (Idle levelEdgeTrig) (fun v => configOf v = config)
      (performAll calls)
      (fun outs v => Agree config calls outs ∧ configOf v = calls.foldl Call.apply config) := by
  induction calls generalizing config with
  | nil => exact triple_ret _ (fun v holds => ⟨trivial, holds⟩)
  | cons call calls ih =>
      refine Triple.bind (call_spec call config) (fun out => ?_)
      rintro s t a ⟨answers, holds⟩ execution
      have rest : Triple (device levelEdgeTrig) (Idle levelEdgeTrig)
          (fun v => configOf v = call.apply config)
          (performAll calls >>= fun outs => .ret (out :: outs))
          (fun outs v => Agree config (call :: calls) outs ∧
            configOf v = (call :: calls).foldl Call.apply config) := by
        refine Triple.bind (ih (call.apply config)) (fun outs => ?_)
        rintro s t a ⟨agree, settled⟩ execution
        rcases Triple.returned (stable_config _) settled execution with ⟨rfl, settled'⟩
        exact ⟨⟨answers, agree⟩, settled'⟩
      exact rest s t a holds execution

/-! ## What the core is told -/

/-- The interrupts that are pending in a cycle. -/
def Pending (s : State) (source : Fin 32) : Prop := s.gateway.ip.getLsbD source.val = true

/-- An interrupt that is enabled has a priority above the threshold. -/
def Config.Raises (config : Config) (source : Fin 32) : Prop :=
  config.enabled source = true ∧ config.threshold < config.priority source

theorem priority_of_regs (s : State) (source : Fin 32) :
    (priority s source.val).toNat = s.regs.config.priority source := by
  rw [priority, PrimMaxTree.Inputs.value, dif_pos source.isLt]
  rfl

/-- The line to the core says whether there is a pending interrupt that is enabled and above the
threshold. -/
theorem irqO_iff (levelEdgeTrig : BitVec 32) (s : State) (input : Input) :
    irqO (step levelEdgeTrig s input) = true ↔
      Exists fun source => Pending s source ∧ s.regs.config.Raises source := by
  constructor
  · intro raised
    rcases target_next levelEdgeTrig s input with ⟨best, irq⟩ | ⟨_, none⟩
    · have above := of_decide_eq_true (irq.symm.trans raised)
      have isCandidate := best.isValid
      simp only [candidates, BitVec.getLsbD_and, Bool.and_eq_true] at isCandidate
      refine ⟨⟨_, best.below⟩, isCandidate.1, isCandidate.2, ?_⟩
      rw [<- priority_of_regs]
      exact above
    · have silent : irqO (step levelEdgeTrig s input) = false := congrArg Target.State.irqQ none
      rw [silent] at raised
      exact Bool.noConfusion raised
  · rintro ⟨source, isPending, enabled, above⟩
    refine @irqO_of_candidate levelEdgeTrig s input source.val ?_ ?_
    · rw [candidates, BitVec.getLsbD_and, isPending, Bool.true_and]
      exact enabled
    · rw [<- priority_of_regs] at above
      exact above

/-- Since reset, software has made calls of the driver, with any number of cycles between their
accesses and after the last one, while the lines did as they liked.  Each call that was accepted
has returned success and each other one an error, the registers hold what the accepted calls
amount to, and in the next cycle the line to the core says whether an interrupt is pending that
is enabled and above the threshold by that. -/
theorem calls_configure (levelEdgeTrig : BitVec 32) (inputs : Nat -> Input) {calls : List Call}
    {outs : List Outcome} {t : Nat}
    (performs : Performs (link levelEdgeTrig inputs) addrSpaceRvPlic 0 (performAll calls) t outs) :
    Agree .cleared calls outs ∧
      ((rvPlic levelEdgeTrig).state inputs t).regs.config = calls.foldl Call.apply .cleared ∧
      (irqO ((rvPlic levelEdgeTrig).state inputs (t + 1)) = true ↔
        Exists fun source => Pending ((rvPlic levelEdgeTrig).state inputs t) source ∧
          (calls.foldl Call.apply .cleared).Raises source) ∧
      msipO ((rvPlic levelEdgeTrig).state inputs t) =
        (calls.foldl Call.apply .cleared).software := by
  have start : configOf (viewed levelEdgeTrig inputs 0) = .cleared :=
    Config.ext (funext fun source => BitVec.getLsbD_zero) rfl rfl rfl
  rcases performAll_spec calls .cleared _ _ _ start (exec_of_performs performs) with
    ⟨agree, settled⟩
  have config : ((rvPlic levelEdgeTrig).state inputs t).regs.config =
      calls.foldl Call.apply .cleared := settled
  refine ⟨agree, config, ?_, congrArg Config.software config⟩
  rw [<- config]
  exact irqO_iff levelEdgeTrig _ _

/-- The first response after a request that is answered in the next cycle. -/
theorem answers_next {link : Tlul.Link} {t : Nat} {r : Tlul.Response}
    (response : Tlul.delivered (link.h2d (t + 1)) (link.d2h (t + 1)) = some r) :
    Answers link t (t + 1) r where
  later := Nat.lt_succ_self t
  response := response
  first k after before := absurd before (by omega)
  alone k after before := absurd before (by omega)

/-- The line of source 1 is up, and software gives it a priority and enables it. -/
def lineAndSetup (t : Nat) : Input where
  tl :=
    { a :=
        match t with
        | 0 => some (store (addrSpaceRvPlic + 0x4) 2 0)
        | 2 => some (load (addrSpaceRvPlic + 0x2000) 0 0 1)
        | 4 => some (store (addrSpaceRvPlic + 0x2000) 2 0)
        | _ => none
      dReady := true }
  intrSrc := 2

theorem calls_configure_setup : irqO ((rvPlic 0).state lineAndSetup 7) = true := by
  have performs : Performs (link 0 lineAndSetup) addrSpaceRvPlic 0
      (performAll [⟨.object, .null, .setPriority 1 2⟩,
        ⟨.object, .null, .setEnabled 1 0 kDifToggleEnabled⟩]) 6
      [(.kDifOk, 0), (.kDifOk, 0)] := by
    refine .write32 0x4 2 _ 0 (by decide +kernel)
      (answers_next (r := ⟨.accessAck, 0, 2, 0, 0, .allOnes 32, ⟨0, 0, false⟩, false⟩)
        (by decide +kernel)) ?_
    refine .read32 0x2000 _ (0, 0, 1) (by decide +kernel)
      (answers_next (r := ⟨.accessAckData, 0, 2, 1, 0, 0, ⟨0, 0, false⟩, false⟩)
        (by decide +kernel)) ?_
    refine .write32 0x2000 2 _ 0 (by decide +kernel)
      (answers_next (r := ⟨.accessAck, 0, 2, 0, 0, .allOnes 32, ⟨0, 0, false⟩, false⟩)
        (by decide +kernel)) ?_
    exact .ret _ _
  refine (calls_configure 0 lineAndSetup performs).2.2.1.mpr ⟨1, ?_, ?_⟩
  · unfold Pending
    decide +kernel
  · exact ⟨rfl, by decide⟩

end RvPlic
end SunburstChip
