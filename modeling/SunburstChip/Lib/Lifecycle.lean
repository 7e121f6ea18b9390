import SunburstChip.Lib.Circuit

namespace SunburstChip

/-!
# The life of a request

A request that is raised waits until it is taken, is then being served until it
is finished, and can only then be raised again.  What is raised while it waits
or is served, taken while it does not wait and finished while it is not served
has no effect.  So what is taken has been raised, and what is taken again has
been finished and raised in between.
-/

/-- How far a request has come. -/
inductive Phase where
  | idle
  | waiting
  | served
deriving DecidableEq

/-- What is done to a request in a cycle. -/
structure Signals where
  raise : Bool
  take : Bool
  finish : Bool
deriving DecidableEq

/-- The phase after a cycle. -/
def Phase.next : Phase -> Signals -> Phase
  | .idle, signals => if signals.raise then .waiting else .idle
  | .waiting, signals => if signals.take then .served else .waiting
  | .served, signals => if signals.finish then .idle else .served

/-- A request that is served one raise at a time. -/
def lifecycle : Circuit Phase Signals where
  reset := .idle
  next := Phase.next

/-- The signal that ends a phase. -/
def Phase.ends : Phase -> Signals -> Bool
  | .idle, signals => signals.raise
  | .waiting, signals => signals.take
  | .served, signals => signals.finish

theorem Phase.next_of_not_ends {phase : Phase} {signals : Signals}
    (lasts : phase.ends signals = false) : phase.next signals = phase := by
  cases phase with
  | idle | waiting | served =>
      simp only [Phase.ends] at lasts
      simp only [Phase.next, lasts]
      rfl

/-- A request waits after a cycle in which it was raised. -/
theorem Phase.raised_of_next {phase : Phase} {signals : Signals}
    (waits : phase.next signals = .waiting) (before : phase ≠ .waiting) :
    phase = .idle ∧ Phase.ends .idle signals = true := by
  rcases signals with ⟨raise, take, finish⟩
  cases phase <;> cases raise <;> cases finish <;> simp_all [Phase.next, Phase.ends]

namespace Lifecycle

variable {signals : Nat -> Signals} {t t' : Nat}

/-- What a request is in a cycle. -/
abbrev phase (signals : Nat -> Signals) (t : Nat) : Phase := lifecycle.state signals t

/-- The request is in the phase and its signal ends it. -/
def Ends (signals : Nat -> Signals) (p : Phase) (t : Nat) : Prop :=
  phase signals t = p ∧ p.ends (signals t) = true

/-- The request is raised, and was idle. -/
abbrev Raised (signals : Nat -> Signals) : Nat -> Prop := Ends signals .idle

/-- The request is taken, and was waiting. -/
abbrev Taken (signals : Nat -> Signals) : Nat -> Prop := Ends signals .waiting

/-- The request is finished, and was being served. -/
abbrev Finished (signals : Nat -> Signals) : Nat -> Prop := Ends signals .served

theorem phase_succ (t : Nat) : phase signals (t + 1) = (phase signals t).next (signals t) := rfl

theorem phase_raised (raised : Raised signals t) : phase signals (t + 1) = .waiting := by
  rw [phase_succ, raised.1]
  exact if_pos raised.2

theorem phase_taken (taken : Taken signals t) : phase signals (t + 1) = .served := by
  rw [phase_succ, taken.1]
  exact if_pos taken.2

/-- A phase that has been left has been ended. -/
theorem ends_between {p : Phase} (later : t <= t') (start : phase signals t = p)
    (left : phase signals t' ≠ p) : Exists fun k => t <= k ∧ k < t' ∧ Ends signals p k := by
  refine @Circuit.ended _ _ lifecycle signals (fun s => s = p)
    (fun s input => s = p ∧ p.ends input = true) ?_ _ _ later start left
  rintro s input rfl quiet
  exact Phase.next_of_not_ends (Bool.eq_false_iff.mpr (fun ends => quiet ⟨rfl, ends⟩))

/-- A phase lasts until it is ended. -/
theorem phase_until {p : Phase} (later : t <= t') (start : phase signals t = p)
    (lasts : forall k, t <= k -> k < t' -> p.ends (signals k) = false) :
    phase signals t' = p := by
  by_contra left
  rcases ends_between later start left with ⟨k, first, last, ends⟩
  exact Bool.noConfusion ((lasts k first last).symm.trans ends.2)

/-- A request that waits has waited since it was raised. -/
theorem waiting_since (waits : phase signals t = .waiting) :
    Exists fun r => r < t ∧ Raised signals r ∧
      forall k, r < k -> k <= t -> phase signals k = .waiting := by
  induction t with
  | zero => exact Phase.noConfusion waits
  | succ t ih =>
      by_cases before : phase signals t = .waiting
      · rcases ih before with ⟨r, early, raised, since⟩
        refine ⟨r, Nat.lt_succ_of_lt early, raised, fun k first last => ?_⟩
        rcases Nat.le_succ_iff.mp last with inside | now
        · exact since k first inside
        · rw [now]
          exact waits
      · refine ⟨t, Nat.lt_succ_self t, Phase.raised_of_next waits before, fun k first last => ?_⟩
        have now : k = t + 1 := Nat.le_antisymm last first
        rw [now]
        exact waits

/-- What is taken has been raised since it was taken before, and after it was finished. -/
theorem raised_for (taken : Taken signals t) :
    Exists fun r => r < t ∧ Raised signals r ∧
      (forall k, r <= k -> k < t -> ¬ Taken signals k) ∧
      forall k, k < t -> Taken signals k -> Exists fun f => k < f ∧ f < r ∧ Finished signals f := by
  rcases waiting_since taken.1 with ⟨r, early, raised, since⟩
  have alone : forall k, r <= k -> k < t -> ¬ Taken signals k := by
    intro k first last earlier
    have served := phase_taken earlier
    rw [since (k + 1) (Nat.lt_succ_of_le first) last] at served
    exact absurd served (by decide)
  refine ⟨r, early, raised, alone, fun k before earlier => ?_⟩
  have order : k < r := Nat.lt_of_not_le (fun late => alone k late before earlier)
  have idle : phase signals r ≠ .served := by
    rw [raised.1]
    decide
  rcases ends_between order (phase_taken earlier) idle with ⟨f, afterTake, beforeRaise, finished⟩
  exact ⟨f, afterTake, beforeRaise, finished⟩

end Lifecycle
end SunburstChip
