import SunburstChip.Lib.Lifecycle

namespace SunburstChip
namespace RvPlicGateway

/-!
# Interrupt gateways

`rv_plic_gateway.sv`.  Each source has a bit that says whether it is pending and
one that says whether it is active, which is longer: until it is completed.  The
bits of a source go through the life of a request, whatever the other sources do.
-/

/-- The flops of the gateways. -/
structure State (nSource : Nat) where
  srcQ : BitVec nSource
  ip : BitVec nSource
  ia : BitVec nSource
deriving DecidableEq

/-- `src_i`, `claim_i` and `complete_i` -/
structure Input (nSource : Nat) where
  src : BitVec nSource
  claim : BitVec nSource
  complete : BitVec nSource
deriving DecidableEq

variable {nSource : Nat}

/-- `set`: the rising edge of an edge triggered source, the level of another one. -/
def set (le : BitVec nSource) (s : State nSource) (input : Input nSource) : BitVec nSource :=
  (le &&& (input.src &&& ~~~s.srcQ)) ||| (~~~le &&& input.src)

/-- `rv_plic_gateway`, with `le_i` -/
def gateway (le : BitVec nSource) : Circuit (State nSource) (Input nSource) where
  reset := ⟨0, 0, 0⟩
  next s input :=
    { srcQ := input.src
      ip := (s.ip ||| (set le s input &&& ~~~s.ia &&& ~~~s.ip)) &&& ~~~(s.ip &&& input.claim)
      ia := (s.ia ||| (set le s input &&& ~~~s.ia)) &&&
        ~~~(s.ia &&& input.complete &&& ~~~s.ip) }

/-! ## A source by itself -/

/-- How far the interrupt of a source has come. -/
def phase (source : Nat) (s : State nSource) : Phase :=
  if s.ip.getLsbD source then .waiting else if s.ia.getLsbD source then .served else .idle

/-- What is done to the interrupt of a source. -/
def signals (le : BitVec nSource) (source : Nat) (s : State nSource) (input : Input nSource) :
    Signals where
  raise := (set le s input).getLsbD source
  take := input.claim.getLsbD source
  finish := input.complete.getLsbD source

/-- A pending interrupt is active. -/
def PendingActive (s : State nSource) : Prop :=
  forall source, s.ip.getLsbD source = true -> s.ia.getLsbD source = true

variable {le : BitVec nSource} {source : Nat}

theorem ip_next (inside : source < nSource) (s : State nSource) (input : Input nSource) :
    ((gateway le).next s input).ip.getLsbD source =
      ((s.ip.getLsbD source || ((set le s input).getLsbD source && !s.ia.getLsbD source &&
        !s.ip.getLsbD source)) && !(s.ip.getLsbD source && input.claim.getLsbD source)) := by
  simp [gateway, inside]

theorem ia_next (inside : source < nSource) (s : State nSource) (input : Input nSource) :
    ((gateway le).next s input).ia.getLsbD source =
      ((s.ia.getLsbD source || ((set le s input).getLsbD source && !s.ia.getLsbD source)) &&
        !(s.ia.getLsbD source && input.complete.getLsbD source && !s.ip.getLsbD source)) := by
  simp [gateway, inside]

theorem pendingActive_next (s : State nSource) (input : Input nSource) (pending : PendingActive s) :
    PendingActive ((gateway le).next s input) := by
  intro source isPending
  have inside : source < nSource := BitVec.lt_of_getLsbD isPending
  rw [ip_next inside] at isPending
  rw [ia_next inside]
  have active := pending source
  revert isPending active
  cases s.ip.getLsbD source <;> cases s.ia.getLsbD source <;> simp

/-- A cycle takes the interrupt of a source one step through its life. -/
theorem phase_next (s : State nSource) (input : Input nSource) (inside : source < nSource)
    (pending : PendingActive s) :
    phase source ((gateway le).next s input) =
      (phase source s).next (signals le source s input) := by
  have active := pending source
  simp only [phase, ip_next inside, ia_next inside, signals]
  generalize (set le s input).getLsbD source = raise
  revert active
  cases s.ip.getLsbD source <;> cases s.ia.getLsbD source <;> cases raise <;>
    cases input.claim.getLsbD source <;> cases input.complete.getLsbD source <;> simp [Phase.next]

end RvPlicGateway
end SunburstChip
