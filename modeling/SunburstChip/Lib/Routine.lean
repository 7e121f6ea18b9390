import Mathlib.Logic.Function.Basic

namespace SunburstChip

/-!
# Routines on a state that can end early

A routine turns a state into another one and ends with a value, or early with
a reason.  A loop of the source is a routine repeated as often as its state
allows.  What bounds it is a size of the state that every further round makes
smaller.

A routine need not be run to reason about it.  `Triple` has a postcondition on
how the routine ends and on the state it leaves, and rules for sequences and for
loops, where an invariant is all that is asked for.
-/

/-- A routine on a state `σ`, which ends with an `α`, or early with an `ε`. -/
def Routine (σ ε α : Type) : Type := σ -> Except ε α × σ

namespace Routine

variable {σ τ ε α β : Type}

/-- End with a value. -/
def ret (value : α) : Routine σ ε α := fun s => (.ok value, s)

/-- What follows a routine: the next one, unless it has ended early. -/
def andThen (next : α -> Routine σ ε β) : Except ε α × σ -> Except ε β × σ
  | (.ok value, s) => next value s
  | (.error reason, s) => (.error reason, s)

/-- Run a routine and then another one with its value. -/
def bind (first : Routine σ ε α) (next : α -> Routine σ ε β) : Routine σ ε β :=
  fun s => andThen next (first s)

instance : Monad (Routine σ ε) where
  pure := ret
  bind := bind

/-- The state. -/
def get : Routine σ ε σ := fun s => (.ok s, s)

/-- Replace the state. -/
def set (s : σ) : Routine σ ε Unit := fun _ => (.ok (), s)

/-- End early. -/
def raise (reason : ε) : Routine σ ε α := fun s => (.error reason, s)

/-- Run a routine and go on however it ends. -/
def attempt (m : Routine σ ε α) : Routine σ ε (Except ε α) := fun s => (.ok (m s).1, (m s).2)

/-- A routine on the first component of a pair. -/
def onFirst (m : Routine σ ε α) : Routine (σ × τ) ε α :=
  fun s => ((m s.1).1, (m s.1).2, s.2)

/-- A number of rounds at most: each says with what the next one starts, or how
the loop ends. -/
def rounds (stuck : ε) (body : β -> Routine σ ε (β ⊕ α)) : Nat -> β -> Routine σ ε α
  | 0, _ => raise stuck
  | fuel + 1, start => body start >>= fun out =>
      match out with
      | .inl next => rounds stuck body fuel next
      | .inr result => ret result

/-- A loop whose rounds make the state smaller. -/
def repeatedly (size : σ -> Nat) (stuck : ε) (body : β -> Routine σ ε (β ⊕ α)) (start : β) :
    Routine σ ε α := fun s => rounds stuck body (size s + 1) start s

/-! ## Routines applied to a state -/

@[simp] theorem pure_apply (value : α) (s : σ) :
    (pure value : Routine σ ε α) s = (.ok value, s) := rfl

@[simp] theorem ret_apply (value : α) (s : σ) :
    (ret value : Routine σ ε α) s = (.ok value, s) := rfl

@[simp] theorem raise_apply (reason : ε) (s : σ) :
    (raise reason : Routine σ ε α) s = (.error reason, s) := rfl

@[simp] theorem set_apply (s s' : σ) : (set s' : Routine σ ε Unit) s = (.ok (), s') := rfl

@[simp] theorem attempt_apply (m : Routine σ ε α) (s : σ) :
    attempt m s = (.ok (m s).1, (m s).2) := rfl

@[simp] theorem onFirst_apply (m : Routine σ ε α) (s : σ) (t : τ) :
    onFirst m (s, t) = ((m s).1, (m s).2, t) := rfl

theorem bind_apply (first : Routine σ ε α) (next : α -> Routine σ ε β) (s : σ) :
    (first >>= next) s = andThen next (first s) := rfl

@[simp] theorem pure_bind_apply (value : α) (next : α -> Routine σ ε β) (s : σ) :
    (pure value >>= next) s = next value s := rfl

@[simp] theorem get_bind_apply (next : σ -> Routine σ ε β) (s : σ) :
    (get >>= next) s = next s s := rfl

@[simp] theorem raise_bind_apply (reason : ε) (next : α -> Routine σ ε β) (s : σ) :
    (raise reason >>= next) s = (.error reason, s) := rfl

@[simp] theorem attempt_bind_apply (m : Routine σ ε α) (next : Except ε α -> Routine σ ε β) (s : σ) :
    (attempt m >>= next) s = next (m s).1 (m s).2 := rfl

theorem bind_ok {first : Routine σ ε α} {s s' : σ} {value : α}
    (done : first s = (.ok value, s')) (next : α -> Routine σ ε β) :
    (first >>= next) s = next value s' := by
  rw [bind_apply, done]
  rfl

theorem bind_error {first : Routine σ ε α} {s s' : σ} {reason : ε}
    (failed : first s = (.error reason, s')) (next : α -> Routine σ ε β) :
    (first >>= next) s = (.error reason, s') := by
  rw [bind_apply, failed]
  rfl

theorem pure_bind (value : α) (next : α -> Routine σ ε β) : (pure value >>= next) = next value := rfl

theorem bind_assoc {γ : Type} (first : Routine σ ε α) (next : α -> Routine σ ε β)
    (last : β -> Routine σ ε γ) :
    (first >>= next >>= last) = (first >>= fun value => next value >>= last) := by
  funext s
  rw [bind_apply, bind_apply, bind_apply]
  rcases first s with ⟨reason | value, s'⟩
  · rfl
  · rfl

@[simp] theorem ite_apply {condition : Prop} [Decidable condition] (m m' : Routine σ ε α) (s : σ) :
    (if condition then m else m') s = if condition then m s else m' s := by
  split <;> rfl

/-! ## Loops -/

section Loop

variable {size : σ -> Nat} {stuck : ε} {body : β -> Routine σ ε (β ⊕ α)}

theorem rounds_succ (fuel : Nat) (start : β) (s : σ) :
    rounds stuck body (fuel + 1) start s = andThen (fun out =>
      match out with
      | .inl next => rounds stuck body fuel next
      | .inr result => ret result) (body start s) := rfl

/-- Once the loop has ended, more rounds make no difference. -/
theorem rounds_mono {fuel fuel' : Nat} {start : β} {s s' : σ} {out : Except ε α}
    (ended : rounds stuck body fuel start s = (out, s')) (comes : out ≠ .error stuck)
    (more : fuel <= fuel') : rounds stuck body fuel' start s = (out, s') := by
  induction fuel generalizing fuel' start s with
  | zero =>
      cases ended
      exact absurd rfl comes
  | succ fuel ih =>
      cases fuel' with
      | zero => exact absurd more (Nat.not_succ_le_zero fuel)
      | succ fuel' =>
          rw [rounds_succ] at ended ⊢
          generalize body start s = round at ended ⊢
          rcases round with ⟨reason | next | result, s₁⟩
          · exact ended
          · exact ih ended (Nat.le_of_succ_le_succ more)
          · exact ended

/-- A loop that ends with this round. -/
theorem repeatedly_last {start : β} {s s' : σ} {result : α}
    (round : body start s = (.ok (.inr result), s')) :
    repeatedly size stuck body start s = (.ok result, s') := by
  rw [repeatedly, rounds_succ, round]
  rfl

/-- A loop that ends early in this round. -/
theorem repeatedly_early {start : β} {s s' : σ} {reason : ε}
    (round : body start s = (.error reason, s')) :
    repeatedly size stuck body start s = (.error reason, s') := by
  rw [repeatedly, rounds_succ, round]
  rfl

/-- A loop that goes on after this round, which has made the state smaller. -/
theorem repeatedly_more {start next : β} {s s₁ s' : σ} {out : Except ε α}
    (round : body start s = (.ok (.inl next), s₁)) (smaller : size s₁ < size s)
    (rest : repeatedly size stuck body next s₁ = (out, s')) (comes : out ≠ .error stuck) :
    repeatedly size stuck body start s = (out, s') := by
  rw [repeatedly, rounds_succ, round]
  exact rounds_mono rest comes smaller

end Loop

/-! ## One run -/

/-- In each state that satisfies `pre`, the routine ends with what satisfies `post`. -/
def Triple (pre : σ -> Prop) (m : Routine σ ε α) (post : Except ε α -> σ -> Prop) : Prop :=
  forall s, pre s -> post (m s).1 (m s).2

/-- The routine keeps `inv`, however it ends. -/
abbrev Keeps (inv : σ -> Prop) (m : Routine σ ε α) : Prop := Triple inv m (fun _ => inv)

namespace Triple

variable {pre : σ -> Prop} {inv : σ -> Prop}

/-- After a routine that keeps what holds. -/
theorem keeping {first : Routine σ ε α} {next : α -> Routine σ ε β} {post : Except ε β -> σ -> Prop}
    (keeps : Keeps pre first) (early : forall reason s, pre s -> post (.error reason) s)
    (after : forall value, Triple pre (next value) post) : Triple pre (first >>= next) post := by
  intro s holds
  have kept := keeps s holds
  rw [bind_apply]
  generalize first s = ended at kept ⊢
  rcases ended with ⟨reason | value, s'⟩
  · exact early reason s' kept
  · exact after value s' kept

/-- After a routine of which only the value it returns matters. -/
theorem returning {first : Routine σ ε α} {next : α -> Routine σ ε β} {post : Except ε β -> σ -> Prop}
    {returned : α -> Prop}
    (here : Triple pre first (fun out _ => forall value, out = .ok value -> returned value))
    (early : forall reason s, post (.error reason) s)
    (after : forall value, returned value -> Triple (fun _ => True) (next value) post) :
    Triple pre (first >>= next) post := by
  intro s holds
  have outcome := here s holds
  rw [bind_apply]
  generalize first s = ended at outcome ⊢
  rcases ended with ⟨reason | value, s'⟩
  · exact early reason s'
  · exact after value (outcome value rfl) s' trivial

/-- What a round of a loop ends with, for an invariant that says with what each
round starts. -/
def Round (inv : β -> σ -> Prop) (post : Except ε α -> σ -> Prop) : Except ε (β ⊕ α) -> σ -> Prop
  | .ok (.inl next), s => inv next s
  | .ok (.inr result), s => post (.ok result) s
  | .error reason, s => post (.error reason) s

theorem rounds (inv : β -> σ -> Prop) {post : Except ε α -> σ -> Prop} {stuck : ε}
    {body : β -> Routine σ ε (β ⊕ α)}
    (round : forall start, Triple (inv start) (body start) (Round inv post))
    (endless : forall start s, inv start s -> post (.error stuck) s) (fuel : Nat) (start : β) :
    Triple (inv start) (Routine.rounds stuck body fuel start) post := by
  induction fuel generalizing start with
  | zero => exact endless start
  | succ fuel ih =>
      intro s holds
      have outcome := round start s holds
      rw [rounds_succ]
      generalize body start s = ended at outcome ⊢
      rcases ended with ⟨reason | next | result, s'⟩
      · exact outcome
      · exact ih next s' outcome
      · exact outcome

end Triple

section Keeps

variable {inv : σ -> Prop}

theorem keeps_pure (value : α) : Keeps inv (pure value : Routine σ ε α) := fun _ holds => holds

theorem keeps_raise (reason : ε) : Keeps inv (raise reason : Routine σ ε α) := fun _ holds => holds

theorem keeps_attempt {m : Routine σ ε α} (keeps : Keeps inv m) : Keeps inv (attempt m) :=
  fun s holds => keeps s holds

theorem keeps_bind {first : Routine σ ε α} {next : α -> Routine σ ε β} (keeps : Keeps inv first)
    (after : forall value, Keeps inv (next value)) : Keeps inv (first >>= next) := by
  intro s holds
  have kept := keeps s holds
  rw [bind_apply]
  generalize first s = ended at kept ⊢
  rcases ended with ⟨reason | value, s'⟩
  · exact kept
  · exact after value s' kept

theorem keeps_ite {condition : Prop} [Decidable condition] {m m' : Routine σ ε α}
    (pos : condition -> Keeps inv m) (neg : ¬ condition -> Keeps inv m') :
    Keeps inv (if condition then m else m') := by
  split
  · next holds => exact pos holds
  · next fails => exact neg fails

theorem keeps_rounds {stuck : ε} {body : β -> Routine σ ε (β ⊕ α)}
    (round : forall start, Keeps inv (body start)) (fuel : Nat) (start : β) :
    Keeps inv (rounds stuck body fuel start) := by
  induction fuel generalizing start with
  | zero => exact keeps_raise stuck
  | succ fuel ih =>
      apply keeps_bind (round start)
      intro out
      cases out with
      | inl next => exact ih next
      | inr result => exact keeps_pure result

/-- A loop keeps what its rounds keep. -/
theorem keeps_repeatedly {size : σ -> Nat} {stuck : ε} {body : β -> Routine σ ε (β ⊕ α)}
    (round : forall start, Keeps inv (body start)) (start : β) :
    Keeps inv (repeatedly size stuck body start) :=
  fun s holds => keeps_rounds round _ start s holds

theorem keeps_onFirst {m : Routine σ ε α} (keeps : Keeps inv m) :
    Keeps (fun s : σ × τ => inv s.1) (onFirst m) :=
  fun s holds => keeps s.1 holds

end Keeps

/-! ## Reasons that do not occur -/

/-- What is left unless it has ended early, and then not for this reason. -/
def Spared (avoided : ε) (inv : σ -> Prop) : Except ε α -> σ -> Prop
  | .ok _, s => inv s
  | .error reason, _ => reason ≠ avoided

/-- The routine keeps `inv` until it ends, and does not end early for this reason. -/
abbrev Avoids (avoided : ε) (inv : σ -> Prop) (m : Routine σ ε α) : Prop :=
  Triple inv m (Spared avoided inv)

section Avoids

variable {avoided : ε} {inv : σ -> Prop}

theorem Avoids.ne {m : Routine σ ε α} (avoids : Avoids avoided inv m) {s : σ} (holds : inv s) :
    (m s).1 ≠ .error avoided := by
  have outcome := avoids s holds
  generalize m s = ended at outcome ⊢
  rcases ended with ⟨reason | value, s'⟩
  · exact fun same => outcome (Except.error.inj same)
  · exact nofun

theorem avoids_pure (value : α) : Avoids avoided inv (pure value : Routine σ ε α) :=
  fun _ holds => holds

theorem avoids_raise {reason : ε} (other : reason ≠ avoided) :
    Avoids avoided inv (raise reason : Routine σ ε α) := fun _ _ => other

/-- After a routine that avoids a reason, whatever holds at the end. -/
theorem Triple.avoiding {first : Routine σ ε α} {next : α -> Routine σ ε β}
    {post : Except ε β -> σ -> Prop} (avoids : Avoids avoided inv first)
    (early : forall reason s, reason ≠ avoided -> post (.error reason) s)
    (after : forall value, Triple inv (next value) post) : Triple inv (first >>= next) post := by
  intro s holds
  have outcome := avoids s holds
  rw [bind_apply]
  generalize first s = ended at outcome ⊢
  rcases ended with ⟨reason | value, s'⟩
  · exact early reason s' outcome
  · exact after value s' outcome

/-- What comes next may depend on what can be returned. -/
theorem avoids_bind_of {first : Routine σ ε α} {next : α -> Routine σ ε β}
    (avoids : Avoids avoided inv first)
    (after : forall value, (Exists fun s => Exists fun s' => first s = (.ok value, s')) ->
      Avoids avoided inv (next value)) : Avoids avoided inv (first >>= next) := by
  intro s holds
  have outcome := avoids s holds
  rw [bind_apply]
  cases ended : first s with
  | mk out s' =>
      rw [ended] at outcome
      cases out with
      | error reason => exact outcome
      | ok value => exact after value ⟨s, s', ended⟩ s' outcome

theorem avoids_bind {first : Routine σ ε α} {next : α -> Routine σ ε β}
    (avoids : Avoids avoided inv first) (after : forall value, Avoids avoided inv (next value)) :
    Avoids avoided inv (first >>= next) :=
  avoids_bind_of avoids (fun value _ => after value)

theorem avoids_ite {condition : Prop} [Decidable condition] {m m' : Routine σ ε α}
    (pos : condition -> Avoids avoided inv m) (neg : ¬ condition -> Avoids avoided inv m') :
    Avoids avoided inv (if condition then m else m') := by
  split
  · next holds => exact pos holds
  · next fails => exact neg fails

/-- A loop avoids what its rounds avoid, where this is not to get stuck. -/
theorem avoids_repeatedly {size : σ -> Nat} {stuck : ε} {body : β -> Routine σ ε (β ⊕ α)}
    (other : stuck ≠ avoided) (round : forall start, Avoids avoided inv (body start)) (start : β) :
    Avoids avoided inv (repeatedly size stuck body start) := by
  intro s holds
  have loop := @Triple.rounds _ _ _ _ (fun _ => inv) (Spared avoided inv) stuck body ?_
    (fun _ _ _ => other) (size s + 1) start
  · exact loop s holds
  · intro start s holds
    have outcome := round start s holds
    generalize body start s = ended at outcome ⊢
    rcases ended with ⟨reason | next | result, s'⟩
    · exact outcome
    · exact outcome
    · exact outcome

end Avoids

theorem onFirst_ok {m : Routine σ ε α} {s s' : σ × τ} {value : α}
    (done : onFirst m s = (.ok value, s')) : m s.1 = (.ok value, s'.1) := by
  have out : (m s.1).1 = .ok value := congrArg Prod.fst done
  have state : (m s.1).2 = s'.1 := congrArg (fun ended => ended.2.1) done
  exact Prod.ext out state

end Routine
end SunburstChip
