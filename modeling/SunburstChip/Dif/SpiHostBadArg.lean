import SunburstChip.Dif.SpiHost

namespace SunburstChip
namespace SpiHost

open Mmio

/-!
# Transactions that are refused

A transaction returns `kDifBadArg` exactly if one of its segments is of no known
type.  Nothing else is checked, and that is found out when it is the segment's
turn.  The chip select has been written before.
-/

/-- The access changes a register, or pushes or pops a word. -/
def Effect : Access -> Prop
  | .read32 offset => offset = rxdataRegOffset
  | .write32 _ _ | .write8 _ _ => True

/-- No register has been written and no word pushed or popped since. -/
def Untouched (s t : Controller × List Access) : Prop :=
  Exists fun accesses => t.2 = s.2 ++ accesses ∧ forall access, access ∈ accesses -> ¬ Effect access

/-! ## What is returned -/

theorem returns_issueSegment (memory : Memory) (segment : Segment) (lastSegment : Bool) :
    (issueSegment memory segment lastSegment).Returns
      (fun error => error = if segment = .other then .kDifBadArg else .kDifOk) := by
  have returned {α : Type} {m : Mmio α} {known : Segment} (different : known ≠ .other) :
      (m >>= fun _ => .ret DifResult.kDifOk).Returns
        (fun error => error = if known = .other then .kDifBadArg else .kDifOk) := by
    apply (returns_true m).bind
    intro _ _
    exact (if_neg different).symm
  apply (returns_true waitReady).bind
  intro _ _
  cases segment with
  | opcode width opcode => exact returned Segment.noConfusion
  | address width mode address => exact returned Segment.noConfusion
  | dummy width length => exact returned Segment.noConfusion
  | tx width buf length => exact returned Segment.noConfusion
  | rx width buf length => exact (if_neg Segment.noConfusion).symm
  | bidir width txbuf rxbuf length => exact returned Segment.noConfusion
  | other => exact (if_pos rfl).symm

theorem returns_issueSegments (memory : Memory) (length i : Nat) (segments : List Segment) :
    (issueSegments memory length i segments).Returns
      (fun error => error = if .other ∈ segments then .kDifBadArg else .kDifOk) := by
  induction segments generalizing i with
  | nil => rfl
  | cons segment rest ih =>
      apply (returns_issueSegment memory segment (i == length - 1)).bind
      intro error returned
      by_cases unknown : segment = .other
      · rw [if_pos unknown] at returned
        rw [returned, unknown, if_pos List.mem_cons_self]
        rfl
      · rw [if_neg unknown] at returned
        have same : Segment.other ∈ segment :: rest ↔ Segment.other ∈ rest :=
          List.mem_cons.trans (or_iff_right (fun same => unknown same.symm))
        rw [returned]
        simp only [same]
        exact ih (i + 1)

/-- A transaction is refused exactly for a segment of no known type. -/
theorem returns_transaction (memory : Memory) (csid : BitVec 32) (segments : List Segment) :
    (difSpiHostTransaction memory csid segments).Returns
      (fun out => out.1 = if .other ∈ segments then .kDifBadArg else .kDifOk) := by
  apply (returns_true (mmioRegionWrite32 csidRegOffset csid)).bind
  intro _ _
  apply (returns_issueSegments memory segments.length 0 segments).bind
  intro error returned
  by_cases unknown : Segment.other ∈ segments
  · rw [if_pos unknown] at returned ⊢
    rw [returned]
    rfl
  · rw [if_neg unknown] at returned ⊢
    rw [returned]
    apply (returns_true (receiveSegments segments)).bind
    intro _ _
    rfl

/-! ## What has happened by then -/

section

variable {memory : Memory} {csid : BitVec 32} {segments : List Segment}
variable {s t : Controller × List Access} {out : DifResult × Stores}

/-- The chip select is written in every transaction. -/
theorem csid_written (ran : Exec device.logged (Aside Hardware) s
    (difSpiHostTransaction memory csid segments) t out) :
    s.2 ++ [.write32 csidRegOffset csid] <+: t.2 := by
  have written : Triple device.logged (Aside Hardware) (fun s' => s'.2 = s.2)
      (difSpiHostTransaction memory csid segments)
      (fun _ t => s.2 ++ [.write32 csidRegOffset csid] <+: t.2) := by
    refine Triple.write32 (fun s' => s.2 ++ [.write32 csidRegOffset csid] <+: s'.2) ?_ ?_
      (Triple.logged _ _)
    · rintro s' s'' ⟨-, same⟩ before
      exact same.trans before
    · intro s' before
      rw [<- before]
      exact List.prefix_refl _
  exact written s t out rfl ran

/-- It holds that a transaction that is refused leaves the controller alone, exactly
if the transaction is not refused. -/
theorem badArg_untouched_iff (ran : Exec device.logged (Aside Hardware) s
    (difSpiHostTransaction memory csid segments) t out) :
    (out.1 = .kDifBadArg -> Untouched s t) ↔ Segment.other ∉ segments := by
  have result := (returns_transaction memory csid segments).of_exec ran
  constructor
  · intro untouched unknown
    rw [if_pos unknown] at result
    rcases untouched result with ⟨accesses, log, harmless⟩
    rcases csid_written ran with ⟨rest, whole⟩
    rw [log, List.append_assoc] at whole
    have same := List.append_cancel_left whole
    apply harmless (.write32 csidRegOffset csid) ?_ trivial
    rw [<- same]
    exact List.mem_cons_self
  · intro known bad
    rw [if_neg known, bad] at result
    cases result

end

/-- A segment of no known type behind an opcode. -/
def unknownSegment : List Segment := [.opcode .kDifSpiHostWidthStandard 0x9f, .other]

/-- A controller that is always ready. -/
def idleController : Controller := ⟨0x80000000, 0, 0, [], []⟩

theorem unknownSegment_selected :
    Exists fun t => Exists fun out =>
      Exec device.logged (Aside Hardware) (idleController, [])
        (difSpiHostTransaction (fun _ => 0) 1 unknownSegment) t out ∧
      out.1 = .kDifBadArg ∧ ¬ Untouched (idleController, []) t := by
  refine ⟨_, _, exec_of_run rfl, rfl, ?_⟩
  rintro ⟨accesses, log, harmless⟩
  apply harmless (.write32 csidRegOffset 1) ?_ trivial
  rw [List.nil_append] at log
  rw [<- log]
  exact List.mem_cons_self

theorem badArg_untouched_iff_opcode :
    (DifResult.kDifOk = .kDifBadArg -> Untouched (idleController, [])
      ({ idleController with csid := 1, commands := [0x10], txData := [.byte 0x9f] },
        [.write32 csidRegOffset 1, .read32 statusRegOffset, .read32 statusRegOffset,
          .write8 txdataRegOffset 0x9f, .write32 commandRegOffset 0x10])) ↔
    Segment.other ∉ [Segment.opcode .kDifSpiHostWidthStandard 0x9f] := by
  have ran : Exec device.logged (Aside Hardware) (idleController, [])
      (difSpiHostTransaction (fun _ => 0) 1 [.opcode .kDifSpiHostWidthStandard 0x9f])
      ({ idleController with csid := 1, commands := [0x10], txData := [.byte 0x9f] },
        [.write32 csidRegOffset 1, .read32 statusRegOffset, .read32 statusRegOffset,
          .write8 txdataRegOffset 0x9f, .write32 commandRegOffset 0x10])
      (.kDifOk, []) := exec_of_run rfl
  exact badArg_untouched_iff ran

end SpiHost
end SunburstChip
