import SunburstChip.Lib.Interleaving

namespace SunburstChip

/-!
# Routines with a state that can end early

Above the device interface functions, a routine accesses registers through
them, keeps a state of its own in main memory, and may stop before its end.
`Code` is that: a program over registers for each state the routine can be
called in, whose result is a value or the reason for stopping, with the state
left behind.

Nothing new is needed to reason about it.  Applied to a state, each way of
building a routine reduces to one of building a program, and the rule of
sequences only adds that a routine that has stopped stays so.
-/

/-- A routine over registers with a state `τ`, which ends with an `α`, or early
with an `ε`. -/
def Code (τ ε α : Type) : Type := τ -> Mmio (Except ε α × τ)

namespace Code

open Mmio

variable {τ ε α β σ : Type}

/-- End with a value. -/
def ret (value : α) : Code τ ε α := fun state => .ret (.ok value, state)

/-- What follows a routine: the next one, unless it has ended early. -/
def andThen (next : α -> Code τ ε β) : Except ε α × τ -> Mmio (Except ε β × τ)
  | (.ok value, state) => next value state
  | (.error reason, state) => .ret (.error reason, state)

/-- Run a routine and then another one with its value. -/
def bind (first : Code τ ε α) (next : α -> Code τ ε β) : Code τ ε β :=
  fun state => first state >>= andThen next

instance : Monad (Code τ ε) where
  pure := ret
  bind := bind

/-- The state. -/
def get : Code τ ε τ := fun state => .ret (.ok state, state)

/-- Replace the state. -/
def set (state : τ) : Code τ ε Unit := fun _ => .ret (.ok (), state)

/-- End early. -/
def raise (reason : ε) : Code τ ε α := fun state => .ret (.error reason, state)

/-- Run a program that does not concern the state. -/
def lift (program : Mmio α) : Code τ ε α := fun state =>
  program >>= fun value => .ret (.ok value, state)

/-! ## Routines applied to a state -/

@[simp] theorem pure_apply (value : α) (state : τ) :
    (pure value : Code τ ε α) state = .ret (.ok value, state) := rfl

@[simp] theorem raise_apply (reason : ε) (state : τ) :
    (raise reason : Code τ ε α) state = .ret (.error reason, state) := rfl

@[simp] theorem set_apply (state state' : τ) :
    (set state' : Code τ ε Unit) state = .ret (.ok (), state') := rfl

theorem bind_apply (first : Code τ ε α) (next : α -> Code τ ε β) (state : τ) :
    (first >>= next) state = first state >>= andThen next := rfl

@[simp] theorem pure_bind_apply (value : α) (next : α -> Code τ ε β) (state : τ) :
    (pure value >>= next) state = next value state := rfl

@[simp] theorem get_bind_apply (next : τ -> Code τ ε β) (state : τ) :
    (get >>= next) state = next state state := rfl

@[simp] theorem set_bind_apply (state state' : τ) (next : Unit -> Code τ ε β) :
    (set state' >>= next) state = next () state' := rfl

@[simp] theorem raise_bind_apply (reason : ε) (next : α -> Code τ ε β) (state : τ) :
    (raise reason >>= next) state = .ret (.error reason, state) := rfl

@[simp] theorem ite_apply {condition : Prop} [Decidable condition] (code code' : Code τ ε α)
    (state : τ) : (if condition then code else code') state =
      if condition then code state else code' state := by
  split <;> rfl

/-! ## Sequences -/

theorem bind_assoc {γ : Type} (first : Code τ ε α) (next : α -> Code τ ε β)
    (last : β -> Code τ ε γ) : first >>= next >>= last = first >>= fun value => next value >>= last := by
  funext state
  refine (Mmio.bind_assoc _ _ _).trans (congrArg (first state).bind (funext fun out => ?_))
  rcases out with ⟨reason | value, state'⟩ <;> rfl

variable {device : Device σ} {next : α -> Code τ ε β} {pre : σ -> Prop} {env : σ -> σ -> Prop}
  {state : τ} {post : Except ε β × τ -> σ -> Prop} {first : Code τ ε α} {value : α}

/-- A sequence meets a postcondition when its first routine leaves what the
next one needs, or ends early with what the postcondition asks for then. -/
theorem triple_bind (middle : α -> τ -> σ -> Prop) (early : ε -> τ -> σ -> Prop)
    (here : Triple device env pre (first state) (fun out s =>
      match out with
      | (.ok value, state') => middle value state' s
      | (.error reason, state') => early reason state' s))
    (stable : forall reason state', Stable env (early reason state'))
    (stopped : forall reason state' s, early reason state' s -> post (.error reason, state') s)
    (after : forall value state', Triple device env (middle value state') (next value state')
      post) :
    Triple device env pre ((first >>= next) state) post := by
  rw [bind_apply]
  refine Triple.bind here (fun out => ?_)
  rcases out with ⟨reason | value, state'⟩
  · exact Triple.ret (stable reason state') (stopped reason state')
  · exact after value state'

/-- A first routine whose value and state are known. -/
theorem triple_bind_ok {state' : τ} (middle : σ -> Prop)
    (here : Triple device env pre (first state) (fun out s => out = (.ok value, state') ∧ middle s))
    (after : Triple device env middle (next value state') post) :
    Triple device env pre ((first >>= next) state) post := by
  rw [bind_apply]
  refine Triple.bind here (fun out s t final known execution => ?_)
  rw [known.1] at execution
  exact after s t final known.2 execution

theorem lift_bind_apply (program : Mmio α) (next : α -> Code τ ε β) (state : τ) :
    (lift program >>= next) state = program >>= fun value => next value state := by
  change (program.bind fun value => Mmio.ret (Except.ok value, state)).bind (andThen next) = _
  rw [Mmio.bind_assoc]
  rfl

/-- A program in front of a routine. -/
theorem triple_lift_bind {program : Mmio α} (middle : α -> σ -> Prop)
    (here : Triple device env pre program middle)
    (after : forall value, Triple device env (middle value) (next value state) post) :
    Triple device env pre ((lift program >>= next) state) post := by
  rw [lift_bind_apply]
  exact Triple.bind here after

/-- A program whose result is known in front of a routine. -/
theorem triple_lift_ok {program : Mmio α} (middle : σ -> Prop)
    (here : Triple device env pre program (fun out s => out = value ∧ middle s))
    (after : Triple device env middle (next value state) post) :
    Triple device env pre ((lift program >>= next) state) post := by
  refine triple_lift_bind _ here (fun out s t final known execution => ?_)
  rw [known.1] at execution
  exact after s t final known.2 execution

/-! ## What routines keep to -/

section Confined

variable {allowed : Access -> Prop} {inv : τ -> Prop}

/-- The routine makes only allowed accesses, and keeps what holds of the state. -/
def Confined (allowed : Access -> Prop) (inv : τ -> Prop) (code : Code τ ε α) : Prop :=
  forall state, inv state ->
    (code state).Within allowed ∧ (code state).Returns (fun out => inv out.2)

theorem confined_pure (value : α) : Confined allowed inv (pure value : Code τ ε α) :=
  fun _ holds => ⟨trivial, holds⟩

theorem confined_raise (reason : ε) : Confined allowed inv (raise reason : Code τ ε α) :=
  fun _ holds => ⟨trivial, holds⟩

theorem confined_set {state' : τ} (holds : inv state') :
    Confined allowed inv (set state' : Code τ ε Unit) :=
  fun _ _ => ⟨trivial, holds⟩

theorem confined_lift {program : Mmio α} (within : program.Within allowed) :
    Confined allowed inv (lift program : Code τ ε α) :=
  fun _ holds => ⟨within_bind within (fun _ => trivial),
    Returns.bind (returns_true program) (fun _ _ => holds)⟩

theorem confined_bind {first : Code τ ε α} {next : α -> Code τ ε β}
    (here : Confined allowed inv first) (after : forall value, Confined allowed inv (next value)) :
    Confined allowed inv (first >>= next) := by
  intro state holds
  rw [bind_apply]
  constructor
  · apply (here state holds).2.within_bind (here state holds).1
    rintro ⟨reason | value, state'⟩ kept
    · trivial
    · exact (after value state' kept).1
  · apply (here state holds).2.bind
    rintro ⟨reason | value, state'⟩ kept
    · exact kept
    · exact (after value state' kept).2

theorem confined_get_bind {next : τ -> Code τ ε β}
    (after : forall state, inv state -> Confined allowed inv (next state)) :
    Confined allowed inv (get >>= next) :=
  fun state holds => after state holds state holds

theorem confined_ite {condition : Prop} [Decidable condition] {code code' : Code τ ε α}
    (pos : condition -> Confined allowed inv code) (neg : ¬ condition -> Confined allowed inv code') :
    Confined allowed inv (if condition then code else code') := by
  split
  · next holds => exact pos holds
  · next fails => exact neg fails

end Confined

/-- If the routine does not end early, its value satisfies `post`. -/
def Yields (post : α -> Prop) (code : Code τ ε α) : Prop :=
  forall state, (code state).Returns (fun out => forall value, out.1 = .ok value -> post value)

theorem yields_pure {post : α -> Prop} (holds : post value) :
    Yields post (pure value : Code τ ε α) := by
  rintro state value' same
  cases same
  exact holds

theorem yields_bind {post : β -> Prop} (after : forall value, Yields post (next value)) :
    Yields post (first >>= next) := by
  intro state
  rw [bind_apply]
  apply Returns.bind (returns_true _)
  rintro ⟨reason | value, state'⟩ -
  · exact fun _ => nofun
  · exact after value state'

theorem yields_ite {post : α -> Prop} {condition : Prop} [Decidable condition]
    {code code' : Code τ ε α} (pos : Yields post code) (neg : Yields post code') :
    Yields post (if condition then code else code') := by
  split
  · exact pos
  · exact neg

/-! ## Sequences among moving surroundings -/

section Interleaved

variable {world : World σ} {inv : Position -> σ -> Prop} {given : Prop} {pre : σ -> Prop}

/-- A program in front of a routine. -/
theorem live_lift_bind {program : Mmio α} {next : α -> Code τ ε β} {state : τ}
    {post : Except ε β × τ -> σ -> Prop} (middle : α -> σ -> Prop)
    (here : Live world inv given pre program middle)
    (after : forall value, Live world inv given (middle value) (next value state) post) :
    Live world inv given pre ((lift program >>= next) state) post := by
  rw [lift_bind_apply]
  exact Live.bind here after

/-- The routine has returned a value that goes with the state it left. -/
def Returned (middle : α -> τ -> σ -> Prop) (out : Except ε α × τ) (s : σ) : Prop :=
  Exists fun value => out.1 = .ok value ∧ middle value out.2 s

/-- A first routine that never ends early. -/
theorem live_bind {first : Code τ ε α} {next : α -> Code τ ε β} {state : τ}
    {post : Except ε β × τ -> σ -> Prop} (middle : α -> τ -> σ -> Prop)
    (here : Live world inv given pre (first state) (Returned middle))
    (after : forall value state', Live world inv given (middle value state') (next value state')
      post) :
    Live world inv given pre ((first >>= next) state) post := by
  rw [bind_apply]
  refine Live.bind here ?_
  rintro ⟨out, state'⟩ s ⟨value, rfl, holds⟩
  exact after value state' s holds

/-- A branch of a routine. -/
theorem live_ite {condition : Prop} [Decidable condition] {code code' : Code τ ε α} {state : τ}
    {post : Except ε α × τ -> σ -> Prop}
    (pos : condition -> Live world inv given pre (code state) post)
    (neg : ¬ condition -> Live world inv given pre (code' state) post) :
    Live world inv given pre ((if condition then code else code') state) post := by
  by_cases holds : condition
  · rw [if_pos holds]
    exact pos holds
  · rw [if_neg holds]
    exact neg holds

end Interleaved

end Code
end SunburstChip
