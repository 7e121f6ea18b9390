import SunburstChip.Lib.Code
import Mathlib.Data.Nat.Find

namespace SunburstChip

/-!
# Programs and surroundings that go on

Here the accesses of a program are instants, and a schedule says what its
surroundings do before each of them.  They may take as long as they like, but if
they can move they will.  So a program that waits sees one of two things: the
state it waits for, or a state in which nothing moves any more.

Busy waits and loops that nothing in the program bounds are cut off after a
number of rounds.  What is shown of a program is that some number is enough,
whatever the schedule: it comes to an end, in a state that meets its
postcondition.
-/

namespace Mmio

variable {α β σ : Type} {moves : σ -> σ -> Prop}

/-- What the surroundings do before the access at each instant. -/
structure Schedule (moves : σ -> σ -> Prop) where
  tick : Nat -> σ -> σ
  moved : forall t s, Relation.ReflTransGen moves s (tick t s)
  /-- Whatever can move does so at some later instant. -/
  fair : forall t s, (Exists fun s' => moves s s') -> Exists fun t' => t <= t' ∧ tick t' s ≠ s

/-- Nothing moves any more. -/
def Settled (moves : σ -> σ -> Prop) (s : σ) : Prop := forall s', ¬ moves s s'

/-! ## Execution -/

/-- Read a register until the value passes the test, a number of times at most. -/
def firstPass (device : Device σ) (tick : Nat -> σ -> σ) (offset : Nat) (done : BitVec 32 -> Bool) :
    Nat -> Nat -> σ -> Option (BitVec 32 × Nat × σ)
  | 0, _, _ => none
  | patience + 1, t, s =>
      let out := device.read32 offset (tick t s)
      if done out.1 then some (out.1, t + 1, out.2)
      else firstPass device tick offset done patience (t + 1) out.2

/-- Execute a program from an instant on. -/
def runScheduled (device : Device σ) (tick : Nat -> σ -> σ) (patience : Nat) :
    Mmio α -> Nat -> σ -> Option (α × Nat × σ)
  | .ret value, t, s => some (value, t, s)
  | .read32 offset next, t, s =>
      let out := device.read32 offset (tick t s)
      (next out.1).runScheduled device tick patience (t + 1) out.2
  | .write32 offset value next, t, s =>
      next.runScheduled device tick patience (t + 1) (device.write32 offset value (tick t s))
  | .write8 offset value next, t, s =>
      next.runScheduled device tick patience (t + 1) (device.write8 offset value (tick t s))
  | .poll32 offset done next, t, s =>
      (firstPass device tick offset done patience t s).bind fun out =>
        (next out.1).runScheduled device tick patience out.2.1 out.2.2

theorem runScheduled_bind (device : Device σ) (tick : Nat -> σ -> σ) (patience : Nat) (m : Mmio α)
    (f : α -> Mmio β) (t : Nat) (s : σ) :
    (m >>= f).runScheduled device tick patience t s =
      (m.runScheduled device tick patience t s).bind fun out =>
        (f out.1).runScheduled device tick patience out.2.1 out.2.2 := by
  induction m generalizing t s with
  | ret value => rfl
  | read32 offset next ih => exact ih _ _ _
  | write32 offset value next ih => exact ih _ _
  | write8 offset value next ih => exact ih _ _
  | poll32 offset done next ih =>
      rw [poll32_bind, runScheduled, runScheduled]
      cases firstPass device tick offset done patience t s with
      | none => rfl
      | some out => exact ih _ _ _

/-! ## The surroundings left to themselves -/

/-- What the state is after some instants without an access that changes it. -/
def drift (tick : Nat -> σ -> σ) (t : Nat) (s : σ) : Nat -> σ
  | 0 => s
  | k + 1 => tick (t + k) (drift tick t s k)

theorem drift_add (tick : Nat -> σ -> σ) (t : Nat) (s : σ) (k j : Nat) :
    drift tick t s (k + j) = drift tick (t + k) (drift tick t s k) j := by
  induction j with
  | zero => rfl
  | succ j ih =>
      change tick (t + (k + j)) (drift tick t s (k + j)) = _
      rw [ih, <- Nat.add_assoc]
      rfl

section Schedules

variable (schedule : Schedule moves)

theorem Stable.tick {assertion : σ -> Prop} (stable : Stable moves assertion) (t : Nat) {s : σ}
    (holds : assertion s) : assertion (schedule.tick t s) := by
  have path := schedule.moved t s
  generalize schedule.tick t s = s' at path
  induction path with
  | refl => exact holds
  | tail _ move ih => exact stable _ _ move ih

theorem Stable.drift {assertion : σ -> Prop} (stable : Stable moves assertion) (t : Nat) {s : σ}
    (holds : assertion s) (k : Nat) : assertion (drift schedule.tick t s k) := by
  induction k with
  | zero => exact holds
  | succ k ih => exact stable.tick schedule _ ih

theorem Settled.tick {s : σ} (settled : Settled moves s) (t : Nat) : schedule.tick t s = s := by
  rcases Relation.ReflTransGen.cases_head (schedule.moved t s) with same | ⟨s', move, -⟩
  · exact same.symm
  · exact absurd move (settled s')

/-- A state in which nothing moves stays as it is. -/
theorem Settled.stable {s : σ} (settled : Settled moves s) : Stable moves (fun s' => s' = s) := by
  rintro s' s'' move rfl
  exact absurd move (settled s'')

theorem Settled.drift {s : σ} (settled : Settled moves s) (t k : Nat) :
    Mmio.drift schedule.tick t s k = s := by
  induction k with
  | zero => rfl
  | succ k ih =>
      change schedule.tick _ (Mmio.drift schedule.tick t s k) = s
      rw [ih]
      exact settled.tick schedule _

/-- Surroundings that cannot move for ever come to rest. -/
theorem settles (terminates : WellFounded (fun s' s => moves s s')) (t : Nat) (s : σ) :
    Exists fun k => Settled moves (drift schedule.tick t s k) := by
  classical
  induction s using terminates.transGen.induction generalizing t with
  | h s ih =>
    by_cases settled : Settled moves s
    · exact ⟨0, settled⟩
    · have able : Exists fun s' => moves s s' := by
        by_contra none
        exact settled (fun s' move => none ⟨s', move⟩)
      -- The first instant at which something happens.
      have happens : Exists fun k => schedule.tick (t + k) s ≠ s := by
        rcases schedule.fair t s able with ⟨t', later, changed⟩
        refine ⟨t' - t, ?_⟩
        rw [Nat.add_sub_cancel' later]
        exact changed
      have before : forall k, k <= Nat.find happens -> drift schedule.tick t s k = s := by
        intro k
        induction k with
        | zero => exact fun _ => rfl
        | succ k same =>
            intro inside
            have still := Nat.find_min happens (Nat.lt_of_succ_le inside)
            change schedule.tick (t + k) (drift schedule.tick t s k) = s
            rw [same (Nat.le_of_succ_le inside)]
            exact Classical.not_not.mp still
      have changed := Nat.find_spec happens
      have path : Relation.TransGen moves s (schedule.tick (t + Nat.find happens) s) := by
        rcases Relation.reflTransGen_iff_eq_or_transGen.mp
          (schedule.moved (t + Nat.find happens) s) with same | path
        · exact absurd same changed
        · exact path
      rcases ih _ (Relation.transGen_swap.mp path) (t + (Nat.find happens + 1)) with ⟨k, rest⟩
      refine ⟨Nat.find happens + 1 + k, ?_⟩
      rw [drift_add]
      change Settled moves (drift _ _ (schedule.tick _ (drift _ _ _ (Nat.find happens))) k)
      rw [before _ (Nat.le_refl _)]
      exact rest

end Schedules

/-! ## Programs that come to an end -/

/-- From an instant and a state, the program comes to return a value in a later
state, with any number of rounds that is large enough. -/
def EndsIn (device : Device σ) (tick : Nat -> σ -> σ) (program : Nat -> Mmio α) (t : Nat) (s : σ)
    (a : α) (t' : Nat) (s' : σ) : Prop :=
  Exists fun enough => forall fuel, enough <= fuel ->
    (program fuel).runScheduled device tick fuel t s = some (a, t', s')

/-- From a state satisfying `pre` and at any instant, the program comes to return
in a state that meets `post`. -/
def Comes (device : Device σ) (schedule : Schedule moves) (pre : σ -> Prop)
    (program : Nat -> Mmio α) (post : α -> σ -> Prop) : Prop :=
  forall t s, pre s -> Exists fun a => Exists fun t' => Exists fun s' =>
    EndsIn device schedule.tick program t s a t' s' ∧ post a s'

theorem EndsIn.bind {device : Device σ} {tick : Nat -> σ -> σ} {first : Nat -> Mmio α}
    {next : Nat -> α -> Mmio β} {t t' t'' : Nat} {s s' s'' : σ} {a : α} {b : β}
    (here : EndsIn device tick first t s a t' s')
    (after : EndsIn device tick (fun fuel => next fuel a) t' s' b t'' s'') :
    EndsIn device tick (fun fuel => first fuel >>= next fuel) t s b t'' s'' := by
  rcases here with ⟨enough, ends⟩
  rcases after with ⟨enough', ends'⟩
  refine ⟨max enough enough', fun fuel more => ?_⟩
  rw [runScheduled_bind, ends fuel (Nat.le_trans (Nat.le_max_left _ _) more)]
  exact ends' fuel (Nat.le_trans (Nat.le_max_right _ _) more)

namespace Comes

variable {device : Device σ} {schedule : Schedule moves} {pre : σ -> Prop}
variable {program : Nat -> Mmio α} {post : α -> σ -> Prop} {offset : Nat}
  {next : Nat -> BitVec 32 -> Mmio α}

theorem consequence {pre' : σ -> Prop} {post' : α -> σ -> Prop}
    (comes : Comes device schedule pre' program post') (weaken : forall s, pre s -> pre' s)
    (strengthen : forall a s, post' a s -> post a s) :
    Comes device schedule pre program post := by
  intro t s holds
  rcases comes t s (weaken s holds) with ⟨a, t', s', ends, met⟩
  exact ⟨a, t', s', ends, strengthen a s' met⟩

/-- What the precondition says of no state can be assumed. -/
theorem assume {fact : Prop} (comes : fact -> Comes device schedule pre program post) :
    Comes device schedule (fun s => fact ∧ pre s) program post :=
  fun t s holds => comes holds.1 t s holds.2

/-- It is enough to look at one state at a time. -/
theorem pointwise
    (each : forall s, pre s -> Comes device schedule (fun s' => s' = s) program post) :
    Comes device schedule pre program post :=
  fun t s holds => each s holds t s rfl

theorem of_exists {ι : Type} {family : ι -> σ -> Prop}
    (each : forall i, Comes device schedule (family i) program post) :
    Comes device schedule (fun s => Exists fun i => family i s) program post :=
  fun t s ⟨i, holds⟩ => each i t s holds

theorem ret {value : α} (holds : forall s, pre s -> post value s) :
    Comes device schedule pre (fun _ => .ret value) post :=
  fun t s start => ⟨value, t, s, ⟨0, fun _ _ => rfl⟩, holds s start⟩

theorem read32 (middle : BitVec 32 -> σ -> Prop) (stable : Stable moves pre)
    (access : forall s, pre s -> middle (device.read32 offset s).1 (device.read32 offset s).2)
    (after : forall value,
      Comes device schedule (middle value) (fun fuel => next fuel value) post) :
    Comes device schedule pre (fun fuel => .read32 offset (next fuel)) post :=
  fun t _ holds => after _ (t + 1) _ (access _ (stable.tick schedule t holds))

theorem write32 {value : BitVec 32} {next : Nat -> Mmio α} (middle : σ -> Prop)
    (stable : Stable moves pre)
    (access : forall s, pre s -> middle (device.write32 offset value s))
    (after : Comes device schedule middle next post) :
    Comes device schedule pre (fun fuel => .write32 offset value (next fuel)) post :=
  fun t _ holds => after (t + 1) _ (access _ (stable.tick schedule t holds))

/-- A reading where nothing moves. -/
theorem read32_settled {s : σ} (settled : Settled moves s)
    (after : Comes device schedule (fun s' => s' = (device.read32 offset s).2)
      (fun fuel => next fuel (device.read32 offset s).1) post) :
    Comes device schedule (fun s' => s' = s) (fun fuel => .read32 offset (next fuel)) post := by
  rintro t s' rfl
  refine after (t + 1) (device.read32 offset s').2 rfl |>.imp (fun a rest => ?_)
  rcases rest with ⟨t', s'', ⟨enough, ran⟩, met⟩
  refine ⟨t', s'', ⟨enough, fun fuel more => ?_⟩, met⟩
  rw [runScheduled, settled.tick schedule]
  exact ran fuel more

/-- A write where nothing moves. -/
theorem write32_settled {value : BitVec 32} {next : Nat -> Mmio α} {s : σ}
    (settled : Settled moves s)
    (after : Comes device schedule (fun s' => s' = device.write32 offset value s) next post) :
    Comes device schedule (fun s' => s' = s) (fun fuel => .write32 offset value (next fuel))
      post := by
  rintro t s' rfl
  refine after (t + 1) (device.write32 offset value s') rfl |>.imp (fun a rest => ?_)
  rcases rest with ⟨t', s'', ⟨enough, ran⟩, met⟩
  refine ⟨t', s'', ⟨enough, fun fuel more => ?_⟩, met⟩
  rw [runScheduled, settled.tick schedule]
  exact ran fuel more

theorem bind {first : Nat -> Mmio α} {next : Nat -> α -> Mmio β} {post : β -> σ -> Prop}
    (middle : α -> σ -> Prop) (here : Comes device schedule pre first middle)
    (after : forall a, Comes device schedule (middle a) (fun fuel => next fuel a) post) :
    Comes device schedule pre (fun fuel => first fuel >>= next fuel) post := by
  intro t s holds
  rcases here t s holds with ⟨a, t', s', ends, met⟩
  rcases after a t' s' met with ⟨b, t'', s'', ends', met'⟩
  exact ⟨b, t'', s'', ends.bind ends', met'⟩

/-- A busy wait on a register whose reading changes nothing comes to an end if
its test passes wherever nothing moves any more. -/
theorem poll32 {done : BitVec 32 -> Bool} (terminates : WellFounded (fun s' s => moves s s'))
    (middle : BitVec 32 -> σ -> Prop) (stable : Stable moves pre)
    (same : forall s, pre s -> (device.read32 offset s).2 = s)
    (settled : forall s, pre s -> Settled moves s -> done (device.read32 offset s).1 = true)
    (access : forall s, pre s -> done (device.read32 offset s).1 = true ->
      middle (device.read32 offset s).1 s)
    (after : forall value,
      Comes device schedule (middle value) (fun fuel => next fuel value) post) :
    Comes device schedule pre (fun fuel => .poll32 offset done (next fuel)) post := by
  intro t s holds
  rcases settles schedule terminates t s with ⟨rest, still⟩
  -- The wait ends by the time the surroundings have come to rest.
  have passes : forall k t s, pre s -> Settled moves (drift schedule.tick t s k) ->
      Exists fun value => Exists fun t' => Exists fun s' => middle value s' ∧
        forall fuel, k + 1 <= fuel ->
          firstPass device schedule.tick offset done fuel t s = some (value, t', s') := by
    intro k
    induction k with
    | zero =>
        intro t s holds still
        have here : schedule.tick t s = s := Settled.tick schedule still t
        have passed := settled s holds still
        refine ⟨_, t + 1, s, access s holds passed, fun fuel more => ?_⟩
        rcases Nat.exists_eq_add_of_le more with ⟨extra, rfl⟩
        rw [Nat.zero_add, Nat.add_comm, firstPass, here, same s holds]
        exact if_pos passed
    | succ k ih =>
        intro t s holds still
        have now := stable.tick schedule t holds
        by_cases passed : done (device.read32 offset (schedule.tick t s)).1 = true
        · refine ⟨_, t + 1, _, access _ now passed, fun fuel more => ?_⟩
          rcases Nat.exists_eq_add_of_le more with ⟨extra, rfl⟩
          rw [Nat.add_comm (k + 1 + 1), <- Nat.add_assoc, <- Nat.add_assoc, firstPass, same _ now]
          exact if_pos passed
        · rw [Nat.add_comm k, drift_add] at still
          rcases ih (t + 1) _ now still with ⟨value, t', s', met, ends⟩
          refine ⟨value, t', s', met, fun fuel more => ?_⟩
          rcases Nat.exists_eq_add_of_le more with ⟨extra, rfl⟩
          have fewer : k + 1 + 1 + extra = k + 1 + extra + 1 := by omega
          rw [fewer, firstPass, same _ now]
          exact (if_neg passed).trans (ends _ (Nat.le_add_right _ _))
  rcases passes rest t s holds still with ⟨value, t', s', met, ends⟩
  rcases after value t' s' met with ⟨a, t'', s'', ⟨enough, ran⟩, met'⟩
  refine ⟨a, t'', s'', ⟨max (rest + 1) enough, fun fuel more => ?_⟩, met'⟩
  rw [runScheduled, ends fuel (Nat.le_trans (Nat.le_max_left _ _) more)]
  exact ran fuel (Nat.le_trans (Nat.le_max_right _ _) more)

end Comes

end Mmio

/-! ## Routines with loops -/

namespace Code

open Mmio

variable {τ ε ε' α β σ : Type} {moves : σ -> σ -> Prop}

/-- A routine that gives its reasons in other terms. -/
def explain (terms : ε -> ε') (code : Code τ ε α) : Code τ ε' α := fun state =>
  code state >>= fun out =>
    match out with
    | (.ok value, state') => .ret (.ok value, state')
    | (.error reason, state') => .ret (.error (terms reason), state')

/-- A loop that is cut off after a number of rounds.  Each round says with what the
next one starts, or how the loop ends. -/
def rounds (unfinished : ε) (body : β -> Code τ ε (β ⊕ α)) : Nat -> β -> Code τ ε α
  | 0, _ => raise unfinished
  | count + 1, start => body start >>= fun out =>
      match out with
      | .inl next => rounds unfinished body count next
      | .inr result => pure result

/-- A round has led to another one, or to the end of the loop. -/
def RoundEnds (again : β -> τ -> σ -> Prop) (post : Except ε α × τ -> σ -> Prop) :
    Except ε (β ⊕ α) × τ -> σ -> Prop
  | (.ok (.inl next), state), s => again next state s
  | (.ok (.inr result), state), s => post (.ok result, state) s
  | (.error reason, state), s => post (.error reason, state) s

section

variable {device : Device σ} {schedule : Schedule moves} {pre : σ -> Prop} {state : τ}
variable {next : Nat -> α -> Code τ ε β} {post : Except ε β × τ -> σ -> Prop}

/-- A program in front of a routine. -/
theorem comes_lift_bind {program : Mmio α} (middle : α -> σ -> Prop)
    (here : Comes device schedule pre (fun _ => program) middle)
    (after : forall value, Comes device schedule (middle value)
      (fun fuel => next fuel value state) post) :
    Comes device schedule pre (fun fuel => (lift program >>= next fuel) state) post := by
  simp only [lift_bind_apply]
  exact Comes.bind middle here after

/-- A sequence of routines. -/
theorem comes_bind {first : Nat -> Code τ ε α} (middle : α -> τ -> σ -> Prop)
    (here : Comes device schedule pre (fun fuel => first fuel state) (fun out s =>
      match out with
      | (.ok value, state') => middle value state' s
      | (.error reason, state') => post (.error reason, state') s))
    (after : forall value state', Comes device schedule (middle value state')
      (fun fuel => next fuel value state') post) :
    Comes device schedule pre (fun fuel => (first fuel >>= next fuel) state) post := by
  simp only [bind_apply]
  refine Comes.bind _ here ?_
  rintro ⟨reason | value, state'⟩
  · exact Comes.ret (fun _ met => met)
  · exact after value state'

/-- A program whose result is known in front of a routine. -/
theorem comes_lift_ok {program : Mmio α} {value : α} (middle : σ -> Prop)
    (here : Comes device schedule pre (fun _ => program) (fun out s => out = value ∧ middle s))
    (after : Comes device schedule middle (fun fuel => next fuel value state) post) :
    Comes device schedule pre (fun fuel => (lift program >>= next fuel) state) post := by
  refine comes_lift_bind _ here (fun out => Comes.assume ?_)
  rintro rfl
  exact after

/-- A first routine that always returns and leaves the state as it is. -/
theorem comes_bind_same {first : Nat -> Code τ ε α} (middle : α -> σ -> Prop)
    (here : Comes device schedule pre (fun fuel => first fuel state) (fun out s =>
      Exists fun value => out = (.ok value, state) ∧ middle value s))
    (after : forall value, Comes device schedule (middle value)
      (fun fuel => next fuel value state) post) :
    Comes device schedule pre (fun fuel => (first fuel >>= next fuel) state) post := by
  simp only [bind_apply]
  refine Comes.bind _ here (fun out => Comes.of_exists (fun value => Comes.assume ?_))
  rintro rfl
  exact after value

/-- A loop whose rounds make something smaller. -/
theorem comes_rounds {unfinished : ε} {body : Nat -> β -> Code τ ε (β ⊕ α)}
    {post : Except ε α × τ -> σ -> Prop} (size : β -> τ -> Nat) (inv : β -> τ -> σ -> Prop)
    (round : forall start state, Comes device schedule (inv start state)
      (fun fuel => body fuel start state)
      (RoundEnds (fun next state' s => inv next state' s ∧ size next state' < size start state)
        post)) (start : β) (state : τ) :
    Comes device schedule (inv start state)
      (fun fuel => rounds unfinished (body fuel) fuel start state) post := by
  have all : forall most start state, size start state <= most -> forall t s, inv start state s ->
      Exists fun a => Exists fun t' => Exists fun s' => post a s' ∧
        Exists fun enough => forall fuel count, enough <= fuel -> enough <= count ->
          (rounds unfinished (body fuel) count start state).runScheduled device schedule.tick fuel
            t s = some (a, t', s') := by
    intro most
    induction most with
    | zero | succ most ih =>
        intro start state bound t s holds
        rcases round start state t s holds with
          ⟨⟨reason | next | result, state'⟩, t', s', ⟨enough, ran⟩, met⟩
        · refine ⟨_, t', s', met, enough + 1, fun fuel count more more' => ?_⟩
          rcases Nat.exists_eq_add_of_lt more' with ⟨extra, rfl⟩
          rw [rounds, bind_apply, runScheduled_bind, ran fuel (Nat.le_of_succ_le more)]
          rfl
        · first
          | exact absurd (Nat.lt_of_lt_of_le met.2 bound) (Nat.not_lt_zero _)
          | rcases ih next state' (Nat.le_of_lt_succ (Nat.lt_of_lt_of_le met.2 bound)) t' s' met.1
              with ⟨a, t'', s'', met', enough', rest⟩
            refine ⟨a, t'', s'', met', max enough enough' + 1, fun fuel count more more' => ?_⟩
            rcases Nat.exists_eq_add_of_lt more' with ⟨extra, rfl⟩
            rw [rounds, bind_apply, runScheduled_bind, ran fuel (by omega)]
            exact rest fuel _ (by omega) (by omega)
        · refine ⟨_, t', s', met, enough + 1, fun fuel count more more' => ?_⟩
          rcases Nat.exists_eq_add_of_lt more' with ⟨extra, rfl⟩
          rw [rounds, bind_apply, runScheduled_bind, ran fuel (Nat.le_of_succ_le more)]
          rfl
  intro t s holds
  rcases all _ start state (Nat.le_refl _) t s holds with ⟨a, t', s', met, enough, ran⟩
  exact ⟨a, t', s', ⟨enough, fun fuel more => ran fuel fuel more more⟩, met⟩

/-- A round that only reads, from an instant on: it ends the loop, or it starts over
and something could still move when it began. -/
def Watches (device : Device σ) (schedule : Schedule moves) (round : Code τ ε (β ⊕ α)) (start : β)
    (state : τ) (post : α -> σ -> Prop) (t : Nat) (s : σ) : Prop :=
  Exists fun k =>
    (Exists fun result => post result (drift schedule.tick t s k) ∧ forall fuel,
      (round state).runScheduled device schedule.tick fuel t s =
        some ((.ok (.inr result), state), t + k, drift schedule.tick t s k)) ∨
    (0 < k ∧ ¬ Settled moves s ∧ forall fuel,
      (round state).runScheduled device schedule.tick fuel t s =
        some ((.ok (.inl start), state), t + k, drift schedule.tick t s k))

/-- A loop whose rounds watch something until it has come to rest. -/
theorem comes_rounds_settled {unfinished : ε} {body : β -> Code τ ε (β ⊕ α)} {start : β}
    {post : α -> σ -> Prop} (terminates : WellFounded (fun s' s => moves s s'))
    (stable : Stable moves pre)
    (round : forall t s, pre s -> Watches device schedule (body start) start state post t s) :
    Comes device schedule pre (fun fuel => rounds unfinished body fuel start state)
      (fun out s => Exists fun result => out = (.ok result, state) ∧ post result s) := by
  have all : forall rest t s, pre s -> Settled moves (drift schedule.tick t s rest) ->
      Exists fun result => Exists fun t' => Exists fun s' => post result s' ∧
        Exists fun enough => forall fuel count, enough <= count ->
          (rounds unfinished body count start state).runScheduled device schedule.tick fuel t s =
            some ((.ok result, state), t', s') := by
    intro rest
    induction rest using Nat.strong_induction_on with
    | h rest ih =>
      intro t s holds still
      rcases round t s holds with ⟨k, ⟨result, met, ran⟩ | ⟨some, moving, ran⟩⟩
      · refine ⟨result, t + k, _, met, 1, fun fuel count more => ?_⟩
        rcases Nat.exists_eq_add_of_lt more with ⟨extra, rfl⟩
        rw [rounds, bind_apply, runScheduled_bind, ran]
        rfl
      · -- What could move has come to rest only later.
        have later : 0 < rest := by
          by_contra reached
          rw [Nat.eq_zero_of_not_pos reached] at still
          exact moving still
        have onwards : Settled moves
            (drift schedule.tick (t + k) (drift schedule.tick t s k) (rest - k)) := by
          rw [<- drift_add]
          rcases Nat.le_total k rest with before | after
          · rw [Nat.add_sub_cancel' before]
            exact still
          · rcases Nat.exists_eq_add_of_le after with ⟨more, rfl⟩
            rw [Nat.sub_eq_zero_of_le after, Nat.add_zero, drift_add, still.drift schedule]
            exact still
        rcases ih (rest - k) (by omega) _ _ (stable.drift schedule t holds k) onwards with
          ⟨result, t', s', met, enough, ends⟩
        refine ⟨result, t', s', met, enough + 1, fun fuel count more => ?_⟩
        rcases Nat.exists_eq_add_of_lt more with ⟨extra, rfl⟩
        rw [rounds, bind_apply, runScheduled_bind, ran]
        exact ends fuel _ (Nat.le_add_right _ _)
  intro t s holds
  rcases settles schedule terminates t s with ⟨rest, still⟩
  rcases all rest t s holds still with ⟨result, t', s', met, enough, ran⟩
  exact ⟨_, t', s', ⟨enough, fun fuel more => ran fuel fuel more⟩, result, rfl, met⟩

end

end Code
end SunburstChip
