import SunburstChip.Dif.RvPlicCalls

namespace SunburstChip
namespace RvPlic

open Mmio TlulAdapterHost

/-!
# Interrupts that are being served

An interrupt that a claim of the driver has returned is being served until software
completes it.  Whatever else software does meanwhile, and whatever the line of the
interrupt does, no claim returns it again, and the driver does not report it as
pending.
-/

/-! ## The flops between two accesses -/

/-- A pending interrupt is active, and the interrupt that a claim would return is pending and
enabled. -/
structure Settled (v : RegTop.View Core (BitVec 32)) : Prop where
  active : RvPlicGateway.PendingActive v.core.gateway
  inside : v.core.target.irqIdQ < 32
  pending : v.core.target.irqIdQ ≠ 0 -> v.core.gateway.ip.getLsbD v.core.target.irqIdQ = true
  enabled : v.core.target.irqIdQ ≠ 0 -> v.core.regs.ie.getLsbD v.core.target.irqIdQ = true

variable {levelEdgeTrig : BitVec 32} {v v' : RegTop.View Core (BitVec 32)}
  {acc : TlulAdapterReg.RegAccess} {source : Nat}

/-- The flops of the controller, whatever those of the adapter are. -/
def Core.state (core : Core) : State where
  regIf := TlulAdapterReg.adapter.reset
  regs := core.regs
  intq := core.intq
  intrSrcSynced := core.intrSrcSynced
  gateway := core.gateway
  target := core.target

theorem active_cycle (active : RvPlicGateway.PendingActive v.core.gateway) :
    RvPlicGateway.PendingActive ((top levelEdgeTrig).cycle acc v).core.gateway :=
  RvPlicGateway.pendingActive_next _ _ active

/-- A cycle without an access settles the flops. -/
theorem settled_quiet (active : RvPlicGateway.PendingActive v.core.gateway) :
    Settled ((top levelEdgeTrig).cycle TlulAdapterReg.noAccess v) := by
  have ie : ((top levelEdgeTrig).cycle TlulAdapterReg.noAccess v).core.regs.ie = v.core.regs.ie := by
    have unwritten := writes_noAccess .ie0
    change (if writes .ie0 TlulAdapterReg.noAccess then (0 : BitVec 32) else v.core.regs.ie) = _
    rw [unwritten]
    rfl
  have target : ((top levelEdgeTrig).cycle TlulAdapterReg.noAccess v).core.target =
      (step levelEdgeTrig v.core.state ⟨⟨none, false⟩, 0⟩).target := rfl
  rcases target_next levelEdgeTrig v.core.state ⟨⟨none, false⟩, 0⟩ with ⟨best, _⟩ | ⟨_, none⟩
  · rw [<- target] at best
    have isCandidate := best.isValid
    simp only [candidates, BitVec.getLsbD_and, Bool.and_eq_true] at isCandidate
    refine ⟨active_cycle active, best.below, fun _ => ?_, fun _ => ?_⟩
    · change ((RvPlicGateway.gateway levelEdgeTrig).next v.core.gateway
        (v.core.gatewayInput TlulAdapterReg.noAccess)).ip.getLsbD _ = true
      have unclaimed : (v.core.gatewayInput TlulAdapterReg.noAccess).claim = 0#32 := rfl
      rw [RvPlicGateway.ip_next best.below, unclaimed, BitVec.getLsbD_zero]
      change v.core.gateway.ip.getLsbD _ = true ∧ _ at isCandidate
      rw [isCandidate.1]
      rfl
    · rw [ie]
      exact isCandidate.2
  · rw [none] at target
    have zero : ((top levelEdgeTrig).cycle TlulAdapterReg.noAccess v).core.target.irqIdQ = 0 :=
      congrArg Target.State.irqIdQ target
    refine ⟨active_cycle active, zero ▸ Nat.zero_lt_succ _, ?_, ?_⟩
    · exact fun found => absurd zero found
    · exact fun found => absurd zero found

/-! ## An interrupt that is being served -/

/-- The interrupt of a source has been claimed, and not completed. -/
structure Served (source : Nat) (v : RegTop.View Core (BitVec 32)) : Prop where
  settled : Settled v
  active : v.core.gateway.ia.getLsbD source = true
  taken : v.core.gateway.ip.getLsbD source = false
  read : v.core.regs.ip.getLsbD source = false

/-- A cycle that does not complete the interrupt leaves it active and not pending. -/
theorem served_cycle (inside : source < 32) (active : v.core.gateway.ia.getLsbD source = true)
    (taken : v.core.gateway.ip.getLsbD source = false) (other : completed acc ≠ some source) :
    ((top levelEdgeTrig).cycle acc v).core.gateway.ia.getLsbD source = true ∧
      ((top levelEdgeTrig).cycle acc v).core.gateway.ip.getLsbD source = false ∧
      ((top levelEdgeTrig).cycle acc v).core.regs.ip.getLsbD source = false := by
  have uncompleted : (v.core.gatewayInput acc).complete.getLsbD source = false := by
    change (oneHot0 (completed acc)).getLsbD source = false
    rw [oneHot0_getLsbD inside]
    exact decide_eq_false other
  refine ⟨?_, ?_, taken⟩
  · change ((RvPlicGateway.gateway levelEdgeTrig).next v.core.gateway
      (v.core.gatewayInput acc)).ia.getLsbD _ = true
    rw [RvPlicGateway.ia_next inside, active, taken, uncompleted]
    rfl
  · change ((RvPlicGateway.gateway levelEdgeTrig).next v.core.gateway
      (v.core.gatewayInput acc)).ip.getLsbD _ = false
    rw [RvPlicGateway.ip_next inside, active, taken]
    simp

theorem completed_noAccess (source : Nat) : completed TlulAdapterReg.noAccess ≠ some source := by
  rw [completed, writes_noAccess]
  simp

theorem completed_loads (register : Register) : completed (loads register) = none := by
  rw [completed, writes_loads]
  rfl

theorem completed_stores (register : Register) (value : BitVec 32) :
    completed (stores register value) =
      if register = .cc0 then some (value.setWidth 5 : BitVec 5).toNat else none := by
  rw [completed, writes_stores]
  by_cases same : register = .cc0
  · rw [if_pos same, if_pos (decide_eq_true same)]
    rfl
  · rw [if_neg same, if_neg (by simpa using same)]

/-- An access and the cycle after it keep an interrupt that they do not complete. -/
theorem served_access (inside : source < 32) (served : Served source v)
    (other : completed acc ≠ some source) :
    Served source ((top levelEdgeTrig).cycle TlulAdapterReg.noAccess
      ((top levelEdgeTrig).cycle acc v)) := by
  rcases @served_cycle levelEdgeTrig v acc source inside served.active served.taken other with
    ⟨active, taken, _⟩
  rcases @served_cycle levelEdgeTrig _ TlulAdapterReg.noAccess source inside active taken
    (completed_noAccess _) with ⟨active', taken', read'⟩
  exact ⟨settled_quiet (active_cycle served.settled.active), active', taken', read'⟩

theorem stable_served (inside : source < 32) :
    Stable (Idle levelEdgeTrig) (Served source) := by
  rintro v v' rfl served
  rcases @served_cycle levelEdgeTrig v TlulAdapterReg.noAccess source inside served.active
    served.taken (completed_noAccess _) with ⟨active, taken, read⟩
  exact ⟨settled_quiet served.settled.active, active, taken, read⟩

theorem stable_settled : Stable (Idle levelEdgeTrig) Settled := by
  rintro v v' rfl settled
  exact settled_quiet settled.active

/-- A claim is answered with no interrupt, or with one that is enabled and that is then being
served. -/
theorem claim_serves (settled : Settled v) :
    ((device levelEdgeTrig).read32 Register.cc0.offset v).1 =
        .ofNat 32 v.core.target.irqIdQ ∧
      Settled ((device levelEdgeTrig).read32 Register.cc0.offset v).2 ∧
      (v.core.target.irqIdQ ≠ 0 -> Served v.core.target.irqIdQ
        ((device levelEdgeTrig).read32 Register.cc0.offset v).2) := by
  rw [read32_view]
  have later := @settled_quiet levelEdgeTrig _
    (@active_cycle levelEdgeTrig v (loads .cc0) settled.active)
  refine ⟨?_, later, fun real => ?_⟩
  · rw [read32_value]
    have below := settled.inside
    change (BitVec.ofNat 5 v.core.target.irqIdQ).setWidth 32 = _
    exact BitVec.eq_of_toNat_eq (by simp; omega)
  · have isPending := settled.pending real
    have isActive := settled.active _ isPending
    have claimed : (v.core.gatewayInput (loads .cc0)).claim.getLsbD v.core.target.irqIdQ = true := by
      change (oneHot0 (v.core.claimed (loads .cc0))).getLsbD _ = true
      rw [oneHot0_getLsbD settled.inside, Core.claimed, reads_loads]
      exact decide_eq_true rfl
    have uncompleted : (v.core.gatewayInput (loads .cc0)).complete = 0 := by
      change oneHot0 (completed (loads .cc0)) = 0
      rw [completed_loads]
      rfl
    have active : ((top levelEdgeTrig).cycle (loads .cc0) v).core.gateway.ia.getLsbD
        v.core.target.irqIdQ = true := by
      change ((RvPlicGateway.gateway levelEdgeTrig).next v.core.gateway
        (v.core.gatewayInput (loads .cc0))).ia.getLsbD _ = true
      rw [RvPlicGateway.ia_next settled.inside, uncompleted, isActive]
      simp
    have taken : ((top levelEdgeTrig).cycle (loads .cc0) v).core.gateway.ip.getLsbD
        v.core.target.irqIdQ = false := by
      change ((RvPlicGateway.gateway levelEdgeTrig).next v.core.gateway
        (v.core.gatewayInput (loads .cc0))).ip.getLsbD _ = false
      rw [RvPlicGateway.ip_next settled.inside, claimed, isPending]
      simp
    rcases @served_cycle levelEdgeTrig _ TlulAdapterReg.noAccess _ settled.inside active taken
      (completed_noAccess _) with ⟨active', taken', read'⟩
    exact ⟨later, active', taken', read'⟩

/-- An interrupt that a claim is answered with is the one that the flops hold. -/
theorem claimed_id (settled : Settled v) {id : BitVec 32} (real : id ≠ 0)
    (same : ((device levelEdgeTrig).read32 Register.cc0.offset v).1 = id) :
    id.toNat = v.core.target.irqIdQ ∧ v.core.target.irqIdQ ≠ 0 := by
  rcases @claim_serves levelEdgeTrig v settled with ⟨value, _, _⟩
  have number : id.toNat = v.core.target.irqIdQ := by
    rw [<- same, value, BitVec.toNat_ofNat]
    exact Nat.mod_eq_of_lt (Nat.lt_trans settled.inside (by decide))
  refine ⟨number, fun none => real (BitVec.eq_of_toNat_eq ?_)⟩
  rw [number, none]
  rfl

/-! ## Calls while an interrupt is being served -/

/-- The accesses that do not complete the interrupt of a source. -/
def Spares (source : Nat) (access : Access) : Prop :=
  (Exists fun register : Register => access = .read32 register.offset) ∨
    Exists fun register : Register => Exists fun value : BitVec 32 =>
      access = .write32 register.offset value ∧
        (register = .cc0 -> (value.setWidth 5 : BitVec 5).toNat ≠ source)

/-- The call names an interrupt as completed: the controller looks at five bits of what it names. -/
def Call.Completes (call : Call) (id : IrqId) : Prop :=
  call.Accepted ∧ Exists fun target => Exists fun completeData : BitVec 32 =>
    call.kind = .complete target completeData ∧
      (completeData.setWidth 5 : BitVec 5).toNat = id.toNat

/-- The call has returned an interrupt. -/
def Claims (event : Call × Outcome) (id : IrqId) : Prop :=
  (Exists fun target => event.1.kind = .claim target) ∧ event.2 = (.kDifOk, id)

/-- The call has returned an interrupt, or reported it as pending. -/
def Shows (event : Call × Outcome) (id : IrqId) : Prop :=
  Claims event id ∨ (event.1.kind = .isPending id ∧ event.2 = (.kDifOk, 1))

theorem served_after (inside : source < 32) (access : Access)
    (v : RegTop.View Core (BitVec 32)) (spares : Spares source access) (served : Served source v) :
    Served source ((device levelEdgeTrig).after access v) := by
  rcases spares with ⟨register, rfl⟩ | ⟨register, value, rfl, other⟩
  · change Served source ((device levelEdgeTrig).read32 register.offset v).2
    rw [read32_view]
    exact served_access inside served (by rw [completed_loads]; simp)
  · change Served source ((device levelEdgeTrig).write32 register.offset value v)
    rw [write32_view]
    refine served_access inside served ?_
    rw [completed_stores]
    by_cases same : register = .cc0
    · rw [if_pos same]
      exact fun equal => other same (Option.some.inj equal)
    · rw [if_neg same]
      simp

theorem settled_after (access : Access) (v : RegTop.View Core (BitVec 32))
    (allowed : (Exists fun register : Register => access = .read32 register.offset) ∨
      Exists fun register : Register => Exists fun value : BitVec 32 =>
        access = .write32 register.offset value) (settled : Settled v) :
    Settled ((device levelEdgeTrig).after access v) := by
  rcases allowed with ⟨register, rfl⟩ | ⟨register, value, rfl⟩
  · change Settled ((device levelEdgeTrig).read32 register.offset v).2
    rw [read32_view]
    exact settled_quiet (active_cycle settled.active)
  · change Settled ((device levelEdgeTrig).write32 register.offset value v)
    rw [write32_view]
    exact settled_quiet (active_cycle settled.active)

theorem clearEach_within {allowed : Access -> Prop} (registers : List Register)
    (each : forall register, register ∈ registers -> allowed (.write32 register.offset 0)) :
    (clearEach (registers.map Register.offset)).Within allowed := by
  induction registers with
  | nil => trivial
  | cons register registers ih =>
      refine ⟨each register List.mem_cons_self, ih ?_⟩
      exact fun register among => each register (List.mem_cons_of_mem _ among)

/-- A call only completes the interrupt that it names. -/
theorem performed_within (call : Call) (accepted : call.Accepted) (id : IrqId)
    (other : ¬ call.Completes id) : call.kind.performed.Within (Spares id.toNat) := by
  have reads (register : Register) : Spares id.toNat (.read32 register.offset) :=
    .inl ⟨register, rfl⟩
  have stores {register : Register} (value : BitVec 32) (apart : register ≠ .cc0) :
      Spares id.toNat (.write32 register.offset value) :=
    .inr ⟨register, value, rfl, fun same => absurd same apart⟩
  rcases call with ⟨plic, out, kind⟩
  cases kind with
  | reset =>
      refine within_bind (clearEach_within resetRegisters ?_) (fun _ => trivial)
      intro register among
      refine stores 0 ?_
      rintro rfl
      exact absurd among (by decide)
  | getEnabled irq target => exact ⟨reads .ie0, fun _ => trivial⟩
  | setEnabled irq target state => exact ⟨reads .ie0, fun _ => ⟨stores _ (by decide), trivial⟩⟩
  | setPriority irq priority => exact ⟨stores _ (by simp), trivial⟩
  | setThreshold target threshold => exact ⟨stores _ (by decide), trivial⟩
  | isPending irq => exact ⟨reads .ip, fun _ => trivial⟩
  | claim target => exact ⟨reads .cc0, fun _ => trivial⟩
  | complete target completeData =>
      refine ⟨.inr ⟨.cc0, completeData, rfl, fun _ same => other ?_⟩, trivial⟩
      exact ⟨accepted, target, completeData, rfl, same⟩
  | softwareForce target | softwareAcknowledge target => exact ⟨stores _ (by decide), trivial⟩
  | softwareIsPending target => exact ⟨reads .msip0, fun _ => trivial⟩

/-- A call that does not complete an interrupt that is being served leaves it so. -/
theorem served_call {id : IrqId} (inside : id.toNat < 32) (call : Call)
    (other : ¬ call.Completes id) :
    Triple (device levelEdgeTrig) (Idle levelEdgeTrig) (Served id.toNat) call.program
      (fun _ => Served id.toNat) := by
  rw [program_eq]
  by_cases accepted : call.Accepted
  · rw [if_pos accepted]
    exact Triple.invariant (stable_served inside) (served_after inside)
      (performed_within call accepted id other)
  · rw [if_neg accepted]
    exact Triple.ret (stable_served inside) (fun _ served => served)

/-- Every call leaves the flops settled. -/
theorem settled_call (call : Call) :
    Triple (device levelEdgeTrig) (Idle levelEdgeTrig) Settled call.program (fun _ => Settled) := by
  rw [program_eq]
  by_cases accepted : call.Accepted
  · rw [if_pos accepted]
    by_cases completes : call.Completes 0
    · rcases completes with ⟨_, target, completeData, kind, _⟩
      rw [kind]
      refine Triple.invariant stable_settled settled_after ⟨?_, trivial⟩
      exact .inr ⟨.cc0, completeData, rfl⟩
    · refine Triple.invariant stable_settled settled_after ?_
      refine (performed_within call accepted 0 completes).imp ?_
      rintro access (⟨register, rfl⟩ | ⟨register, value, rfl, _⟩)
      · exact .inl ⟨register, rfl⟩
      · exact .inr ⟨register, value, rfl⟩
  · rw [if_neg accepted]
    exact Triple.ret stable_settled (fun _ settled => settled)

/-- A claim that has returned an interrupt: it was enabled, and is then being served. -/
theorem claimed_call (call : Call) (config : Config) :
    Triple (device levelEdgeTrig) (Idle levelEdgeTrig)
      (fun v => Settled v ∧ configOf v = config) call.program
      (fun out v => forall id, Claims (call, out) id -> id ≠ 0 ->
        id.toNat < 32 ∧ config.enabled (sourceOf id) = true ∧ Served id.toNat v) := by
  have stable : Stable (Idle levelEdgeTrig) (fun v => Settled v ∧ configOf v = config) :=
    fun v v' idle holds => ⟨stable_settled v v' idle holds.1, stable_config config v v' idle holds.2⟩
  rw [program_eq]
  by_cases accepted : call.Accepted
  · rw [if_pos accepted]
    by_cases claims : Exists fun target => call.kind = .claim target
    · rcases claims with ⟨target, kind⟩
      rw [kind]
      refine Triple.read32 (fun value v => forall id, value = id -> id ≠ 0 ->
        id.toNat < 32 ∧ config.enabled (sourceOf id) = true ∧ Served id.toNat v) stable ?_ ?_
      · rintro v ⟨settled, rfl⟩ id same real
        rcases claimed_id settled real same with ⟨number, found⟩
        have below := settled.inside
        refine ⟨number ▸ below, ?_, number ▸ (claim_serves settled).2.2 found⟩
        have index : (sourceOf id).val = v.core.target.irqIdQ := by
          rw [<- number] at below ⊢
          exact Nat.mod_eq_of_lt below
        change v.core.regs.ie.getLsbD (sourceOf id).val = true
        rw [index]
        exact settled.enabled found
      · intro value
        refine Triple.ret ?_ ?_
        · rintro v v' rfl holds id same real
          rcases holds id same real with ⟨inside, enabled, served⟩
          exact ⟨inside, enabled, stable_served inside v _ rfl served⟩
        · rintro v holds id ⟨_, out⟩ real
          exact holds id (congrArg Prod.snd out) real
    · intro s t out _ _ id isClaim
      exact absurd isClaim.1 claims
  · rw [if_neg accepted]
    refine Triple.ret stable ?_
    rintro v _ id ⟨_, out⟩
    exact DifResult.noConfusion (congrArg Prod.fst out)

/-- No call shows an interrupt that is being served. -/
theorem unshown_call {id : IrqId} (inside : id.toNat < 32) (real : id ≠ 0) (call : Call) :
    Triple (device levelEdgeTrig) (Idle levelEdgeTrig) (Served id.toNat) call.program
      (fun out _ => ¬ Shows (call, out) id) := by
  rw [program_eq]
  by_cases accepted : call.Accepted
  · rw [if_pos accepted]
    by_cases claims : Exists fun target => call.kind = .claim target
    · rcases claims with ⟨target, kind⟩
      rw [kind]
      refine Triple.read32 (fun value _ => value ≠ id) (stable_served inside) ?_ ?_
      · rintro v served same
        rcases claimed_id served.settled real same with ⟨number, found⟩
        have isPending := served.settled.pending found
        rw [<- number, served.taken] at isPending
        exact Bool.noConfusion isPending
      · intro value
        refine Triple.ret (fun _ _ _ holds => holds) ?_
        rintro v other (⟨_, out⟩ | ⟨asks, _⟩)
        · exact other (congrArg Prod.snd out)
        · rw [kind] at asks
          exact Kind.noConfusion asks
    · by_cases asks : call.kind = .isPending id
      · rw [asks]
        refine Triple.read32 (fun value _ => bitfieldBit32Read value (sourceOf id).val = false)
          (stable_served inside) ?_ ?_
        · rintro v served
          have index : (sourceOf id).val = id.toNat := Nat.mod_eq_of_lt inside
          have value : ((device levelEdgeTrig).read32 Register.ip.offset v).1 = v.core.regs.ip :=
            read32_value .ip v
          rw [value, bitfieldBit32Read_eq_getLsbD, index]
          exact served.read
        · intro value
          refine Triple.ret (fun _ _ _ holds => holds) ?_
          rintro v unset (⟨isClaim, _⟩ | ⟨_, out⟩)
          · exact claims isClaim
          · have word := congrArg Prod.snd out
            change wordOf (bitfieldBit32Read value (sourceOf id).val) = 1 at word
            rw [unset] at word
            exact absurd word (by decide)
      · intro s t out _ _ shows
        rcases shows with ⟨isClaim, _⟩ | ⟨isAsked, _⟩
        · exact claims isClaim
        · exact asks isAsked
  · rw [if_neg accepted]
    refine Triple.ret (stable_served inside) ?_
    rintro v _ (⟨_, out⟩ | ⟨_, out⟩)
    · exact DifResult.noConfusion (congrArg Prod.fst out)
    · exact DifResult.noConfusion (congrArg Prod.fst out)

/-! ## Histories of calls -/

/-- Calls that have been executed, each with its outcome, from one state to another. -/
inductive History (levelEdgeTrig : BitVec 32) :
    RegTop.View Core (BitVec 32) -> List (Call × Outcome) -> RegTop.View Core (BitVec 32) -> Prop where
  | none (v : RegTop.View Core (BitVec 32)) : History levelEdgeTrig v [] v
  | call {v v' v'' : RegTop.View Core (BitVec 32)} {call : Call} {out : Outcome}
      {events : List (Call × Outcome)}
      (execution : Exec (device levelEdgeTrig) (Idle levelEdgeTrig) v call.program v' out)
      (rest : History levelEdgeTrig v' events v'') :
      History levelEdgeTrig v ((call, out) :: events) v''

variable {events : List (Call × Outcome)}

/-- Calls one after the other are a history. -/
theorem history_of_exec {calls : List Call} {outs : List Outcome}
    (execution : Exec (device levelEdgeTrig) (Idle levelEdgeTrig) v (performAll calls) v' outs) :
    Exists fun v'' => History levelEdgeTrig v (calls.zip outs) v'' := by
  induction calls generalizing v v' outs with
  | nil => exact ⟨v, .none v⟩
  | cons call calls ih =>
      rcases exec_bind execution with ⟨s, out, first, rest⟩
      rcases exec_bind rest with ⟨s', outs', others, finish⟩
      rcases exec_ret finish with ⟨rfl, _⟩
      rcases ih others with ⟨v'', history⟩
      exact ⟨v'', .call first history⟩

theorem history_append {first rest : List (Call × Outcome)}
    (history : History levelEdgeTrig v (first ++ rest) v') :
    Exists fun s => History levelEdgeTrig v first s ∧ History levelEdgeTrig s rest v' := by
  induction first generalizing v with
  | nil => exact ⟨v, .none v, history⟩
  | cons event first ih =>
      cases history with
      | call execution others =>
          rcases ih others with ⟨s, before, after⟩
          exact ⟨s, .call execution before, after⟩

/-- A history leaves the flops settled, with what its calls amount to. -/
theorem history_settled (history : History levelEdgeTrig v events v') (settled : Settled v) :
    Settled v' ∧ configOf v' = (events.map Prod.fst).foldl Call.apply (configOf v) := by
  induction history with
  | none v => exact ⟨settled, rfl⟩
  | call execution rest ih =>
      have config := (call_spec _ _ _ _ _ rfl execution).2
      rcases ih (settled_call _ _ _ _ settled execution) with ⟨settled', later⟩
      exact ⟨settled', later.trans (by rw [config]; rfl)⟩

/-- An interrupt that is being served stays so until it is completed, and no call shows it. -/
theorem history_served {id : IrqId} (inside : id.toNat < 32)
    (history : History levelEdgeTrig v events v') (served : Served id.toNat v)
    (spared : forall event, event ∈ events -> ¬ event.1.Completes id) : Served id.toNat v' := by
  induction history with
  | none v => exact served
  | call execution rest ih =>
      refine ih (served_call inside _ (spared _ List.mem_cons_self) _ _ _ served execution) ?_
      exact fun event among => spared event (List.mem_cons_of_mem _ among)

theorem settled_reset (inputs : Nat -> Input) : Settled (viewed levelEdgeTrig inputs 0) where
  active source isPending := by
    exact absurd isPending (by simp [viewed, State.view, rvPlic, RvPlicGateway.gateway])
  inside := Nat.zero_lt_succ _
  pending found := absurd rfl found
  enabled found := absurd rfl found

/-- Since reset, software has made calls of the driver, with any number of cycles in between, while
the lines did as they liked.  An interrupt that a claim has returned is one that the calls before
it have enabled.  Where a later call returns it again or reports it as pending, a call in between
has completed it. -/
theorem served_until_completed (levelEdgeTrig : BitVec 32) (inputs : Nat -> Input)
    {calls : List Call} {outs : List Outcome} {t : Nat}
    (performs : Performs (link levelEdgeTrig inputs) addrSpaceRvPlic 0 (performAll calls) t outs)
    {past rest : List (Call × Outcome)} {claiming : Call × Outcome} {id : IrqId}
    (history : calls.zip outs = past ++ claiming :: rest) (claims : Claims claiming id)
    (real : id ≠ 0) :
    (id.toNat < 32 ∧
      ((past.map Prod.fst).foldl Call.apply .cleared).enabled (sourceOf id) = true) ∧
      forall middle again later, rest = middle ++ again :: later -> Shows again id ->
        Exists fun event => event ∈ middle ∧ event.1.Completes id := by
  have start : configOf (viewed levelEdgeTrig inputs 0) = .cleared :=
    Config.ext (funext fun source => BitVec.getLsbD_zero) rfl rfl rfl
  rcases history_of_exec (exec_of_performs performs) with ⟨v'', happened⟩
  rw [history] at happened
  rcases history_append happened with ⟨v, before, after⟩
  rcases history_settled before (settled_reset inputs) with ⟨settled, config⟩
  rw [start] at config
  cases after with
  | call execution others =>
      rcases claimed_call _ _ _ _ _ ⟨settled, config⟩ execution id claims real with
        ⟨inside, enabled, served⟩
      refine ⟨⟨inside, enabled⟩, ?_⟩
      rintro middle again later rfl shows
      rcases history_append others with ⟨v', between, last⟩
      by_contra spared
      have still := history_served inside between served
        (fun event among completes => spared ⟨event, among, completes⟩)
      cases last with
      | call execution' _ =>
          exact unshown_call inside real _ _ _ _ still execution' shows

/-- The line of source 1 is up, and software enables it, claims, completes and claims again. -/
def lineAndHandler (t : Nat) : Input where
  tl :=
    { a :=
        match t with
        | 0 => some (load (addrSpaceRvPlic + 0x2000) 0 0 0)
        | 2 => some (store (addrSpaceRvPlic + 0x2000) 2 1)
        | 6 | 12 => some (load (addrSpaceRvPlic + 0x200004) 0 0 0)
        | 8 => some (store (addrSpaceRvPlic + 0x200004) 1 1)
        | _ => none
      dReady := true }
  intrSrc := 2

theorem served_until_completed_handler :
    (Config.enabled (Call.apply .cleared ⟨.object, .null, .setEnabled 1 0 kDifToggleEnabled⟩)
      (sourceOf 1) = true) ∧
      Exists fun event : Call × Outcome =>
        event ∈ [(⟨.object, .null, .complete 0 1⟩, (.kDifOk, 0))] ∧ event.1.Completes 1 := by
  have performs : Performs (link 0 lineAndHandler) addrSpaceRvPlic 0
      (performAll [⟨.object, .null, .setEnabled 1 0 kDifToggleEnabled⟩,
        ⟨.object, .object, .claim 0⟩, ⟨.object, .null, .complete 0 1⟩,
        ⟨.object, .object, .claim 0⟩]) 14
      [(.kDifOk, 0), (.kDifOk, 1), (.kDifOk, 0), (.kDifOk, 1)] := by
    refine .read32 0x2000 _ (0, 0, 0) (by decide +kernel)
      (answers_next (r := ⟨.accessAckData, 0, 2, 0, 0, 0, ⟨0, 0, false⟩, false⟩)
        (by decide +kernel)) ?_
    refine .write32 0x2000 2 _ 1 (by decide +kernel)
      (answers_next (r := ⟨.accessAck, 0, 2, 1, 0, .allOnes 32, ⟨0, 0, false⟩, false⟩)
        (by decide +kernel)) ?_
    refine .wait (by decide +kernel) (.wait (by decide +kernel) ?_)
    refine .read32 0x200004 _ (0, 0, 0) (by decide +kernel)
      (answers_next (r := ⟨.accessAckData, 0, 2, 0, 0, 1, ⟨0, 0, false⟩, false⟩)
        (by decide +kernel)) ?_
    refine .write32 0x200004 1 _ 1 (by decide +kernel)
      (answers_next (r := ⟨.accessAck, 0, 2, 1, 0, .allOnes 32, ⟨0, 0, false⟩, false⟩)
        (by decide +kernel)) ?_
    refine .wait (by decide +kernel) (.wait (by decide +kernel) ?_)
    refine .read32 0x200004 _ (0, 0, 0) (by decide +kernel)
      (answers_next (r := ⟨.accessAckData, 0, 2, 0, 0, 1, ⟨0, 0, false⟩, false⟩)
        (by decide +kernel)) ?_
    exact .ret _ _
  rcases @served_until_completed 0 lineAndHandler _ _ _ performs
    [(⟨.object, .null, .setEnabled 1 0 kDifToggleEnabled⟩, (.kDifOk, 0))]
    [(⟨.object, .null, .complete 0 1⟩, (.kDifOk, 0)), (⟨.object, .object, .claim 0⟩, (.kDifOk, 1))]
    (⟨.object, .object, .claim 0⟩, (.kDifOk, 1)) 1 rfl ⟨⟨0, rfl⟩, rfl⟩ (by decide) with
    ⟨enabled, completed⟩
  exact ⟨enabled.2, completed _ (⟨.object, .object, .claim 0⟩, (.kDifOk, 1)) [] rfl
    (Or.inl ⟨⟨0, rfl⟩, rfl⟩)⟩

end RvPlic
end SunburstChip
