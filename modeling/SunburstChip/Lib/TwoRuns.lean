import SunburstChip.Lib.Routine

namespace SunburstChip
namespace Routine

/-!
# Two runs

`Together` is about two routines, which may be the same one, run on states that
are related: either both end early for the same reason, or neither does, and
what they return and leave is related again.  The states need not be of the same
type, so that one of the routines can be an account of what the other one is
for.

There is a rule for each way of building a routine.  A loop asks for a relation
that every round carries on, and for as many rounds on either side.
-/

variable {σ σ' ε α α' β β' : Type}

/-- How two routines have ended. -/
def Paired (goes : α -> σ -> α' -> σ' -> Prop) (early : ε -> σ -> σ' -> Prop) :
    Except ε α × σ -> Except ε α' × σ' -> Prop
  | (.ok value, s), (.ok value', s') => goes value s value' s'
  | (.error reason, s), (.error reason', s') => reason = reason' ∧ early reason s s'
  | _, _ => False

theorem Paired.bind {m : Routine σ ε α} {m' : Routine σ' ε α'} {next : α -> Routine σ ε β}
    {next' : α' -> Routine σ' ε β'} {middle : α -> σ -> α' -> σ' -> Prop}
    {goes : β -> σ -> β' -> σ' -> Prop} {early : ε -> σ -> σ' -> Prop} {s : σ} {s' : σ'}
    (first : Paired middle early (m s) (m' s'))
    (second : forall value t value' t', middle value t value' t' ->
      Paired goes early (next value t) (next' value' t')) :
    Paired goes early ((m >>= next) s) ((m' >>= next') s') := by
  rw [bind_apply, bind_apply]
  generalize m s = ended at first ⊢
  generalize m' s' = ended' at first ⊢
  rcases ended with ⟨reason | value, t⟩
  · rcases ended' with ⟨reason' | value', t'⟩
    · exact first
    · exact first.elim
  · rcases ended' with ⟨reason' | value', t'⟩
    · exact first.elim
    · exact second value t value' t' first

/-- Only the first of them goes on. -/
theorem Paired.bindLeft {m : Routine σ ε α} {next : α -> Routine σ ε β}
    {ended' : Except ε α' × σ'} {middle : α -> σ -> α' -> σ' -> Prop}
    {goes : β -> σ -> α' -> σ' -> Prop} {early : ε -> σ -> σ' -> Prop} {s : σ}
    (first : Paired middle early (m s) ended')
    (second : forall value t value' t', middle value t value' t' ->
      Paired goes early (next value t) (.ok value', t')) :
    Paired goes early ((m >>= next) s) ended' := by
  rw [bind_apply]
  generalize m s = ended at first ⊢
  rcases ended with ⟨reason | value, t⟩
  · rcases ended' with ⟨reason' | value', t'⟩
    · exact first
    · exact first.elim
  · rcases ended' with ⟨reason' | value', t'⟩
    · exact first.elim
    · exact second value t value' t' first

/-- The same outcomes, of which something else is left. -/
theorem Paired.map {τ τ' : Type} (leave : σ -> τ) (leave' : σ' -> τ')
    {ended : Except ε α × σ} {ended' : Except ε α' × σ'} {goes : α -> σ -> α' -> σ' -> Prop}
    {early : ε -> σ -> σ' -> Prop} {goes' : α -> τ -> α' -> τ' -> Prop}
    {early' : ε -> τ -> τ' -> Prop} (outcome : Paired goes early ended ended')
    (going : forall value s value' s', goes value s value' s' ->
      goes' value (leave s) value' (leave' s'))
    (ending : forall reason s s', early reason s s' -> early' reason (leave s) (leave' s')) :
    Paired goes' early' (ended.1, leave ended.2) (ended'.1, leave' ended'.2) := by
  rcases ended with ⟨reason | value, s⟩
  · rcases ended' with ⟨reason' | value', s'⟩
    · exact ⟨outcome.1, ending _ _ _ outcome.2⟩
    · exact outcome
  · rcases ended' with ⟨reason' | value', s'⟩
    · exact outcome
    · exact going _ _ _ _ outcome

/-- Two routines on related states. -/
def Together (pre : σ -> σ' -> Prop) (m : Routine σ ε α) (m' : Routine σ' ε α')
    (goes : α -> σ -> α' -> σ' -> Prop) (early : ε -> σ -> σ' -> Prop) : Prop :=
  forall s s', pre s s' -> Paired goes early (m s) (m' s')

namespace Together

variable {pre : σ -> σ' -> Prop} {early : ε -> σ -> σ' -> Prop}

theorem raise {goes : α -> σ -> α' -> σ' -> Prop} {reason : ε}
    (related : forall s s', pre s s' -> early reason s s') :
    Together pre (Routine.raise reason : Routine σ ε α) (Routine.raise reason) goes early :=
  fun s s' holds => ⟨rfl, related s s' holds⟩

theorem bind {m : Routine σ ε α} {m' : Routine σ' ε α'} {next : α -> Routine σ ε β}
    {next' : α' -> Routine σ' ε β'} {goes : β -> σ -> β' -> σ' -> Prop}
    (middle : α -> σ -> α' -> σ' -> Prop) (first : Together pre m m' middle early)
    (second : forall value value',
      Together (fun s s' => middle value s value' s') (next value) (next' value') goes early) :
    Together pre (m >>= next) (m' >>= next') goes early :=
  fun s s' holds => (first s s' holds).bind (fun value t value' t' => second value value' t t')

theorem imp {m : Routine σ ε α} {m' : Routine σ' ε α'} {goes goes' : α -> σ -> α' -> σ' -> Prop}
    {early' : ε -> σ -> σ' -> Prop} (together : Together pre m m' goes early)
    (going : forall value s value' s', goes value s value' s' -> goes' value s value' s')
    (ending : forall reason s s', early reason s s' -> early' reason s s') :
    Together pre m m' goes' early' := by
  intro s s' holds
  exact (together s s' holds).map id id going ending

/-- What the rounds of two loops end with. -/
def Rounds (inv : β -> σ -> β' -> σ' -> Prop) (goes : α -> σ -> α' -> σ' -> Prop) :
    β ⊕ α -> σ -> β' ⊕ α' -> σ' -> Prop
  | .inl next, s, .inl next', s' => inv next s next' s'
  | .inr result, s, .inr result', s' => goes result s result' s'
  | _, _, _, _ => False

variable {stuck : ε} {body : β -> Routine σ ε (β ⊕ α)} {body' : β' -> Routine σ' ε (β' ⊕ α')}
variable {inv : β -> σ -> β' -> σ' -> Prop} {goes : α -> σ -> α' -> σ' -> Prop}

theorem rounds
    (round : forall start start', Together (fun s s' => inv start s start' s') (body start)
      (body' start') (Rounds inv goes) early)
    (endless : forall start s start' s', inv start s start' s' -> early stuck s s')
    (fuel : Nat) (start : β) (start' : β') :
    Together (fun s s' => inv start s start' s') (Routine.rounds stuck body fuel start)
      (Routine.rounds stuck body' fuel start') goes early := by
  induction fuel generalizing start start' with
  | zero => exact raise (fun s s' holds => endless start s start' s' holds)
  | succ fuel ih =>
      intro s s' holds
      have outcome := round start start' s s' holds
      rw [rounds_succ, rounds_succ]
      generalize body start s = ended at outcome ⊢
      generalize body' start' s' = ended' at outcome ⊢
      rcases ended with ⟨reason | next | result, t⟩
      · rcases ended' with ⟨reason' | next' | result', t'⟩
        · exact outcome
        · exact outcome.elim
        · exact outcome.elim
      · rcases ended' with ⟨reason' | next' | result', t'⟩
        · exact outcome.elim
        · exact ih next next' t t' outcome
        · exact outcome.elim
      · rcases ended' with ⟨reason' | next' | result', t'⟩
        · exact outcome.elim
        · exact outcome.elim
        · exact outcome

/-- Loops whose states are of the same size. -/
theorem repeatedly {size : σ -> Nat} {size' : σ' -> Nat}
    (round : forall start start', Together (fun s s' => inv start s start' s') (body start)
      (body' start') (Rounds inv goes) early)
    (endless : forall start s start' s', inv start s start' s' -> early stuck s s')
    (sizes : forall start s start' s', inv start s start' s' -> size s = size' s')
    (start : β) (start' : β') :
    Together (fun s s' => inv start s start' s') (Routine.repeatedly size stuck body start)
      (Routine.repeatedly size' stuck body' start') goes early := by
  intro s s' holds
  unfold Routine.repeatedly
  rw [<- sizes start s start' s' holds]
  exact rounds round endless (size s + 1) start start' s s' holds

end Together

end Routine
end SunburstChip
