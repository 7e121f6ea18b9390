import SunburstChip.Hw.RvPlic

namespace SunburstChip
namespace RvPlic

open Tlul

/-!
# Claiming interrupts

An interrupt that is claimed is one that is pending, although the flops that the
claim reads hold what was pending a cycle earlier: the bus leaves a cycle between
two accesses.  So the claims and completions of a source, as software makes them,
are those of its life, and no interrupt is claimed twice or lost.
-/

variable {levelEdgeTrig : BitVec 32} {s : State} {input : Input}

/-! ## What the target finds -/

/-- The interrupts that are pending and enabled. -/
def candidates (s : State) : BitVec 32 := s.gateway.ip &&& s.regs.ie

/-- The interrupt of the greatest priority, and the least of these, among those that are pending
and enabled. -/
abbrev Best (s : State) (source : Nat) : Prop :=
  FirstMaximum (fun k => (candidates s).getLsbD k = true)
    (fun k => ((PrimMaxTree.Inputs.mk s.regs.prio (candidates s)).value k).toNat) 0 32 source

/-- The priority of a source. -/
def priority (s : State) (source : Nat) : BitVec 2 :=
  (PrimMaxTree.Inputs.mk s.regs.prio (candidates s)).value source

/-- The flops of the target take the best interrupt, or none where none is pending and enabled. -/
theorem target_next (levelEdgeTrig : BitVec 32) (s : State) (input : Input) :
    (Best s (step levelEdgeTrig s input).target.irqIdQ ∧
        (step levelEdgeTrig s input).target.irqQ =
          decide (priority s (step levelEdgeTrig s input).target.irqIdQ > s.regs.threshold)) ∨
      (candidates s = 0 ∧ (step levelEdgeTrig s input).target = ⟨false, 0⟩) := by
  have target : (step levelEdgeTrig s input).target =
      Target.next s.gateway.ip s.regs.ie s.regs.prio s.regs.threshold := rfl
  rw [target]
  cases @PrimMaxTree.Inputs.covers_root _ _ ⟨s.regs.prio, candidates s⟩ with
  | found vld first max =>
      refine .inl ?_
      have found : Target.next s.gateway.ip s.regs.ie s.regs.prio s.regs.threshold =
          ⟨decide ((PrimMaxTree.Inputs.mk s.regs.prio (candidates s)).root.max > s.regs.threshold),
            (PrimMaxTree.Inputs.mk s.regs.prio (candidates s)).root.idx⟩ := by
        unfold Target.next
        change (PrimMaxTree.Inputs.mk s.regs.prio (s.gateway.ip &&& s.regs.ie)).root.vld = true
          at vld
        simp only [vld, candidates, if_true, Target.State.mk.injEq, and_true]
        by_cases above : (PrimMaxTree.Inputs.mk s.regs.prio (s.gateway.ip &&& s.regs.ie)).root.max >
            s.regs.threshold <;> simp [above]
      rw [found]
      refine ⟨first, ?_⟩
      rw [max]
      rfl
  | none vld leaf invalid =>
      refine .inr ⟨?_, ?_⟩
      · refine BitVec.eq_of_getLsbD_eq fun k below => ?_
        exact (invalid k (Nat.zero_le _) below).trans BitVec.getLsbD_zero.symm
      · unfold Target.next
        change (PrimMaxTree.Inputs.mk s.regs.prio (s.gateway.ip &&& s.regs.ie)).root.vld = false
          at vld
        simp [vld]

/-! ## What a claim finds -/

/-- What every edge preserves: pending interrupts are active, and the interrupt that the flops of
the target hold is still pending unless the last cycle had an access of the bus. -/
structure Invariant (s : State) : Prop where
  active : RvPlicGateway.PendingActive s.gateway
  inside : s.target.irqIdQ < 32
  pending : s.target.irqIdQ ≠ 0 -> s.gateway.ip.getLsbD s.target.irqIdQ = true ∨
    s.regIf.outstanding = true

/-- A register is only accessed with a request that is taken. -/
theorem accepted_of_access (touched : (access s input).re = true ∨ (access s input).we = true) :
    Exists fun a => accepted input.tl (tlO s input) = some a ∧
      access s input = TlulAdapterReg.accessOf 27 muBi4False a := by
  rcases request : accepted input.tl (tlO s input) with _ | a
  · rw [access, TlulAdapterReg.regAccess_quiet request] at touched
    exact absurd touched (by decide)
  · exact ⟨a, rfl, TlulAdapterReg.regAccess_accepted request⟩

theorem accessed_of_claims {source : Nat} (claimed : claims s input = some source) :
    s.target.irqIdQ = source ∧ (access s input).re = true := by
  unfold claims at claimed
  by_cases read : reads .cc0 (access s input) = true
  · rw [if_pos read] at claimed
    refine ⟨Option.some.inj claimed, ?_⟩
    simp only [reads, Bool.and_eq_true] at read
    exact read.1.2
  · rw [if_neg read] at claimed
    exact absurd claimed (by simp)

/-- A claim finds the adapter idle and leaves it with a response to give. -/
theorem outstanding_of_claims {source : Nat} (claimed : claims s input = some source) :
    s.regIf.outstanding = false ∧ (step levelEdgeTrig s input).regIf.outstanding = true := by
  rcases accepted_of_access (.inl (accessed_of_claims claimed).2) with ⟨a, request, _⟩
  refine ⟨TlulAdapterReg.accepted_idle request, ?_⟩
  have taken : (step levelEdgeTrig s input).regIf = TlulAdapterReg.taken (regIfInput s input) a :=
    TlulAdapterReg.step_accepted request
  rw [taken]
  rfl

theorem oneHot0_getLsbD {id : Option Nat} {source : Nat} (inside : source < 32) :
    (oneHot0 id).getLsbD source = decide (id = some source) := by
  cases id with
  | none => simp [oneHot0]
  | some id =>
      simp only [oneHot0, BitVec.getLsbD_twoPow, Option.some.injEq]
      by_cases same : id = source
      · simp [same, inside]
      · simp [same]

theorem invariant_step (holds : Invariant s) : Invariant (step levelEdgeTrig s input) where
  active := RvPlicGateway.pendingActive_next _ _ holds.active
  inside := by
    rcases target_next levelEdgeTrig s input with ⟨best, _⟩ | ⟨_, none⟩
    · exact best.below
    · rw [none]
      decide
  pending found := by
    rcases target_next levelEdgeTrig s input with ⟨best, _⟩ | ⟨_, none⟩
    · -- What is found was pending, and can only have been claimed since.
      rcases claimed : claims s input with _ | source
      · refine .inl ?_
        have isPending := best.isValid
        simp only [candidates, BitVec.getLsbD_and, Bool.and_eq_true] at isPending
        have unclaimed : (gatewayInput s input).claim.getLsbD
            (step levelEdgeTrig s input).target.irqIdQ = false := by
          change (oneHot0 (claims s input)).getLsbD _ = false
          rw [claimed]
          exact BitVec.getLsbD_zero
        change ((RvPlicGateway.gateway levelEdgeTrig).next s.gateway
          (gatewayInput s input)).ip.getLsbD _ = true
        rw [RvPlicGateway.ip_next best.below, isPending.1, unclaimed]
        simp
      · exact .inr (outstanding_of_claims claimed).2
    · rw [none] at found
      exact absurd rfl found

theorem invariant_state (inputs : Nat -> Input) (t : Nat) :
    Invariant ((rvPlic levelEdgeTrig).state inputs t) := by
  refine @Circuit.invariant _ _ (rvPlic levelEdgeTrig) inputs Invariant ?_
    (fun s input holds => invariant_step holds) t
  refine ⟨fun source isPending => ?_, Nat.zero_lt_succ _, fun found => absurd rfl found⟩
  exact absurd isPending (by simp [rvPlic, RvPlicGateway.gateway])

/-! ## The life of an interrupt -/

/-- What is done to the interrupt of a source in a cycle: its line is up, or has gone up where it is
edge triggered, software claims it, or software completes it. -/
def signals (levelEdgeTrig : BitVec 32) (source : Nat) (s : State) (input : Input) : Signals where
  raise := (RvPlicGateway.set levelEdgeTrig s.gateway (gatewayInput s input)).getLsbD source
  take := decide (claims s input = some source)
  finish := decide (completes s input = some source)

/-- What is done to the interrupt of a source in every cycle of a run. -/
abbrev signalsOf (levelEdgeTrig : BitVec 32) (source : Nat) (inputs : Nat -> Input) (t : Nat) :
    Signals :=
  signals levelEdgeTrig source ((rvPlic levelEdgeTrig).state inputs t) (inputs t)

variable {inputs : Nat -> Input} {source : Nat}

/-- The bits of a source run through the life of a request. -/
theorem phase_state (inside : source < 32) (t : Nat) :
    RvPlicGateway.phase source ((rvPlic levelEdgeTrig).state inputs t).gateway =
      Lifecycle.phase (signalsOf levelEdgeTrig source inputs) t := by
  refine @Circuit.state_map_of _ _ _ _ (rvPlic levelEdgeTrig) inputs lifecycle
    (fun s => RvPlicGateway.phase source s.gateway) (signals levelEdgeTrig source)
    (fun s => Invariant s) (invariant_state inputs) ?_ ?_ t
  · simp [rvPlic, RvPlicGateway.gateway, RvPlicGateway.phase, lifecycle]
  · intro s input holds
    refine (RvPlicGateway.phase_next s.gateway (gatewayInput s input) inside holds.active).trans ?_
    have same : RvPlicGateway.signals levelEdgeTrig source s.gateway (gatewayInput s input) =
        signals levelEdgeTrig source s input := by
      simp only [RvPlicGateway.signals, signals, gatewayInput, oneHot0_getLsbD inside]
    rw [same]
    rfl

/-- An interrupt that is claimed is pending. -/
theorem taken_of_claims {t : Nat} (real : source ≠ 0)
    (claimed : claims ((rvPlic levelEdgeTrig).state inputs t) (inputs t) = some source) :
    Lifecycle.Taken (signalsOf levelEdgeTrig source inputs) t := by
  have holds := @invariant_state levelEdgeTrig inputs t
  have same := (accessed_of_claims claimed).1
  have inside : source < 32 := same ▸ holds.inside
  refine ⟨?_, decide_eq_true claimed⟩
  rw [<- phase_state inside]
  refine if_pos ?_
  have idle := (@outstanding_of_claims levelEdgeTrig _ _ _ claimed).1
  rcases holds.pending (same ▸ real) with isPending | outstanding
  · rw [same] at isPending
    exact isPending
  · rw [idle] at outstanding
    exact Bool.noConfusion outstanding

/-- However the lines and the bus behave, what is claimed has gone up since it was last claimed, and
after that claim was completed.  So no two claims return an interrupt that is not completed in
between, and none returns one that has not been raised anew. -/
theorem claims_justified (levelEdgeTrig : BitVec 32) (inputs : Nat -> Input) {source t : Nat}
    (real : source ≠ 0)
    (claimed : claims ((rvPlic levelEdgeTrig).state inputs t) (inputs t) = some source) :
    Exists fun r => r < t ∧ (signalsOf levelEdgeTrig source inputs r).raise = true ∧
      (forall k, r <= k -> k < t ->
        claims ((rvPlic levelEdgeTrig).state inputs k) (inputs k) ≠ some source) ∧
      forall k, k < t ->
        claims ((rvPlic levelEdgeTrig).state inputs k) (inputs k) = some source ->
        Exists fun f => k < f ∧ f < r ∧
          completes ((rvPlic levelEdgeTrig).state inputs f) (inputs f) = some source := by
  rcases Lifecycle.raised_for (taken_of_claims real claimed) with ⟨r, early, raised, alone, past⟩
  refine ⟨r, early, raised.2, ?_, ?_⟩
  · intro k first last earlier
    exact alone k first last (taken_of_claims real earlier)
  · intro k before earlier
    rcases past k before (taken_of_claims real earlier) with ⟨f, afterClaim, beforeRaise, finished⟩
    exact ⟨f, afterClaim, beforeRaise, of_decide_eq_true finished.2⟩

/-- Source 1 is enabled and its line is up from the start, and software claims four cycles later. -/
def lineAndClaim (t : Nat) : Input where
  tl :=
    { a :=
        if t = 0 then some ⟨putFullData, 0, 2, 0, 0x2000, 0xf, 2, ⟨0, muBi4False, 0, 0, false⟩⟩
        else if t = 4 then some ⟨get, 0, 2, 0, 0x200004, 0xf, 0, ⟨0, muBi4False, 0, 0, false⟩⟩
        else none
      dReady := true }
  intrSrc := 2

theorem claims_justified_line :
    Exists fun r => r < 4 ∧ (signalsOf 0 1 lineAndClaim r).raise = true := by
  rcases claims_justified 0 lineAndClaim (by decide)
    (show claims ((rvPlic 0).state lineAndClaim 4) (lineAndClaim 4) = some 1 by decide +kernel)
    with ⟨r, early, raised, _⟩
  exact ⟨r, early, raised⟩

/-! ## No interrupt is lost -/

/-- The interrupt line to the core is up after a cycle in which an interrupt above the threshold is
pending and enabled. -/
theorem irqO_of_candidate (levelEdgeTrig : BitVec 32) (s : State) (input : Input) {source : Nat}
    (isCandidate : (candidates s).getLsbD source = true)
    (above : priority s source > s.regs.threshold) : irqO (step levelEdgeTrig s input) = true := by
  have inside : source < 32 := BitVec.lt_of_getLsbD isCandidate
  rcases target_next levelEdgeTrig s input with ⟨best, irq⟩ | ⟨none, _⟩
  · refine irq.trans (decide_eq_true ?_)
    have most := best.greatest source (Nat.zero_le _) inside isCandidate
    exact Nat.lt_of_lt_of_le above most
  · rw [none] at isCandidate
    exact absurd isCandidate (by simp)

/-- An interrupt whose line goes up while it is not active is pending until it is claimed.  In all
that time the line to the core is up in the cycle after any in which the interrupt is enabled and
its priority above the threshold. -/
theorem raised_until_claimed (levelEdgeTrig : BitVec 32) (inputs : Nat -> Input) {source r t : Nat}
    (inside : source < 32)
    (idle : ((rvPlic levelEdgeTrig).state inputs r).gateway.ia.getLsbD source = false)
    (raised : (signalsOf levelEdgeTrig source inputs r).raise = true) (later : r < t)
    (unclaimed : forall k, r < k -> k < t ->
      claims ((rvPlic levelEdgeTrig).state inputs k) (inputs k) ≠ some source) :
    ((rvPlic levelEdgeTrig).state inputs t).gateway.ip.getLsbD source = true ∧
      (((rvPlic levelEdgeTrig).state inputs t).regs.ie.getLsbD source = true ->
        priority ((rvPlic levelEdgeTrig).state inputs t) source >
          ((rvPlic levelEdgeTrig).state inputs t).regs.threshold ->
        irqO ((rvPlic levelEdgeTrig).state inputs (t + 1)) = true) := by
  have start : Lifecycle.phase (signalsOf levelEdgeTrig source inputs) r = .idle := by
    rw [<- phase_state inside]
    have active := (@invariant_state levelEdgeTrig inputs r).active source
    rw [idle] at active
    have notPending := Bool.eq_false_iff.mpr (fun isPending => Bool.noConfusion (active isPending))
    simp [RvPlicGateway.phase, notPending, idle]
  have waits : Lifecycle.phase (signalsOf levelEdgeTrig source inputs) t = .waiting := by
    refine Lifecycle.phase_until later (Lifecycle.phase_raised ⟨start, raised⟩) ?_
    intro k first last
    exact decide_eq_false (unclaimed k first last)
  have isPending : ((rvPlic levelEdgeTrig).state inputs t).gateway.ip.getLsbD source = true := by
    rw [<- phase_state inside] at waits
    by_contra notPending
    rw [RvPlicGateway.phase, if_neg notPending] at waits
    split at waits <;> exact absurd waits (by decide)
  refine ⟨isPending, fun enabled above => ?_⟩
  refine irqO_of_candidate levelEdgeTrig _ _ ?_ above
  rw [candidates, BitVec.getLsbD_and, isPending, enabled]
  rfl

theorem raised_until_claimed_line :
    ((rvPlic 0).state lineAndClaim 4).gateway.ip.getLsbD 1 = true := by
  refine (raised_until_claimed 0 lineAndClaim (r := 2) (by decide) (by decide +kernel)
    (by decide +kernel) (by decide) ?_).1
  intro k first last
  have here : k = 3 := by omega
  rw [here]
  decide +kernel

/-! ## What software is told -/

/-- What the adapter answers a claim with. -/
theorem response_of_claims {source : Nat} (inside : source < 32)
    (claimed : claims s input = some source) :
    Exists fun response : Response =>
      TlulAdapterReg.response (step levelEdgeTrig s input).regIf = some response ∧
        response.data = BitVec.ofNat 32 source ∧ response.error = false := by
  rcases accessed_of_claims claimed with ⟨same, re⟩
  rcases accepted_of_access (.inl re) with ⟨a, request, made⟩
  have taken : (step levelEdgeTrig s input).regIf = TlulAdapterReg.taken (regIfInput s input) a :=
    TlulAdapterReg.step_accepted request
  rw [taken]
  refine ⟨_, TlulAdapterReg.response_taken _ _, ?_⟩
  have read : reads .cc0 (access s input) = true := by
    by_contra other
    rw [claims, if_neg other] at claimed
    exact absurd claimed (by simp)
  simp only [reads, Bool.and_eq_true, beq_iff_eq, Bool.not_eq_true'] at read
  rcases read with ⟨⟨hit, _⟩, good⟩
  rw [made, TlulAdapterReg.accessOf, Bool.and_eq_true, Bool.not_eq_true'] at re
  have noWrite : TlulAdapterReg.wrReq a = false := by
    have opcode : a.opcode = get := by simpa [TlulAdapterReg.rdReq] using re.1
    rw [TlulAdapterReg.wrReq, opcode]
    decide
  have noError : (regIfInput s input).error = false := good
  have noInternal : TlulAdapterReg.errInternal (regIfInput s input).enIfetch a = false := re.2
  have rdata : (regIfInput s input).rdata = BitVec.ofNat 32 source := by
    change regRdataNext s.regs s.target.irqIdQ (access s input) = _
    rw [regRdataNext, hit, same]
    exact BitVec.eq_of_toNat_eq (by simp; omega)
  simp [TlulAdapterReg.owed, noError, noInternal, noWrite, rdata]

/-- A claim is answered with the interrupt of the greatest priority, and the least of these, among
those that were pending and enabled in the cycle before, or with zero where there was none. -/
theorem claim_returns_best (levelEdgeTrig : BitVec 32) (inputs : Nat -> Input) {source t : Nat}
    (claimed : claims ((rvPlic levelEdgeTrig).state inputs (t + 1)) (inputs (t + 1)) = some source) :
    (Exists fun response : Response =>
      TlulAdapterReg.response ((rvPlic levelEdgeTrig).state inputs (t + 2)).regIf = some response ∧
        response.data = BitVec.ofNat 32 source ∧ response.error = false) ∧
      (Best ((rvPlic levelEdgeTrig).state inputs t) source ∨
        (candidates ((rvPlic levelEdgeTrig).state inputs t) = 0 ∧ source = 0)) := by
  rcases accessed_of_claims claimed with ⟨same, _⟩
  refine ⟨?_, ?_⟩
  · exact response_of_claims (same ▸ (invariant_state inputs (t + 1)).inside) claimed
  · rcases target_next levelEdgeTrig ((rvPlic levelEdgeTrig).state inputs t) (inputs t) with
      ⟨best, _⟩ | ⟨nothing, target⟩
    · refine .inl ?_
      rw [<- same]
      exact best
    · refine .inr ⟨nothing, ?_⟩
      rw [<- same]
      exact congrArg Target.State.irqIdQ target

theorem claim_returns_best_line : Best ((rvPlic 0).state lineAndClaim 3) 1 := by
  rcases (claim_returns_best 0 lineAndClaim
    (show claims ((rvPlic 0).state lineAndClaim 4) (lineAndClaim 4) = some 1 by decide +kernel)).2
    with best | ⟨_, none⟩
  · exact best
  · exact absurd none (by decide)

end RvPlic
end SunburstChip
