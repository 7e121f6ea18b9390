import Mathlib.Logic.Relation

namespace SunburstChip

/-!
# Drivers as programs over memory-mapped registers

A driver routine is represented by the register accesses it makes, each one
continuing with what the access returned.  A bounded loop of the source is an
ordinary recursion building such a program.  The one loop that no recursion
can bound is the busy wait, which reads a register until the value read
satisfies a test; it is a constructor of its own.

Two readings are given.  `run` executes a program against a device that
changes only when it is accessed.  `Exec` lets an arbitrary environment move
the device before every access, which is how concurrent hardware is read.
The rules of `Triple` reduce a property of all executions to one obligation
an access, with assertions that the environment cannot invalidate.
-/

/-- A program over 32-bit registers at byte offsets, returning an `α`. -/
inductive Mmio (α : Type) where
  | ret (value : α)
  | read32 (offset : Nat) (next : BitVec 32 -> Mmio α)
  | write32 (offset : Nat) (value : BitVec 32) (next : Mmio α)
  | write8 (offset : Nat) (value : BitVec 8) (next : Mmio α)
  /-- `do value = read32(offset); while (!done(value));` -/
  | poll32 (offset : Nat) (done : BitVec 32 -> Bool) (next : BitVec 32 -> Mmio α)

/-- What reading and writing the registers does to the device behind them. -/
structure Device (σ : Type) where
  read32 : Nat -> σ -> BitVec 32 × σ
  write32 : Nat -> BitVec 32 -> σ -> σ
  write8 : Nat -> BitVec 8 -> σ -> σ

/-- One access to the device. -/
inductive Access where
  | read32 (offset : Nat)
  | write32 (offset : Nat) (value : BitVec 32)
  | write8 (offset : Nat) (value : BitVec 8)

/-- The state of the device after an access. -/
def Device.after {σ : Type} (device : Device σ) : Access -> σ -> σ
  | .read32 offset, s => (device.read32 offset s).2
  | .write32 offset value, s => device.write32 offset value s
  | .write8 offset value, s => device.write8 offset value s

/-- A device together with the accesses that have been made to it. -/
def Device.logged {σ : Type} (device : Device σ) : Device (σ × List Access) where
  read32 offset s := ((device.read32 offset s.1).1,
    ((device.read32 offset s.1).2, s.2 ++ [.read32 offset]))
  write32 offset value s := (device.write32 offset value s.1, s.2 ++ [.write32 offset value])
  write8 offset value s := (device.write8 offset value s.1, s.2 ++ [.write8 offset value])

/-- The environment makes no accesses. -/
def Aside {σ : Type} (env : σ -> σ -> Prop) (s s' : σ × List Access) : Prop :=
  env s.1 s'.1 ∧ s'.2 = s.2

namespace Mmio

variable {α β σ : Type}

/-- Continue the program `m` with `f` applied to its result. -/
def bind : Mmio α -> (α -> Mmio β) -> Mmio β
  | .ret value, f => f value
  | .read32 offset next, f => .read32 offset (fun value => (next value).bind f)
  | .write32 offset value next, f => .write32 offset value (next.bind f)
  | .write8 offset value next, f => .write8 offset value (next.bind f)
  | .poll32 offset done next, f => .poll32 offset done (fun value => (next value).bind f)

instance : Monad Mmio where
  pure := Mmio.ret
  bind := Mmio.bind

@[simp] theorem pure_eq (value : α) : (pure value : Mmio α) = .ret value := rfl

@[simp] theorem ret_bind (value : α) (f : α -> Mmio β) : (Mmio.ret value >>= f) = f value := rfl

/-- The same, once the instance is unfolded. -/
@[simp] theorem bind_ret (value : α) (f : α -> Mmio β) : (Mmio.ret value).bind f = f value := rfl

@[simp] theorem read32_bind (offset : Nat) (next : BitVec 32 -> Mmio α) (f : α -> Mmio β) :
    (Mmio.read32 offset next >>= f) = .read32 offset (fun value => next value >>= f) := rfl

@[simp] theorem write32_bind (offset : Nat) (value : BitVec 32) (next : Mmio α) (f : α -> Mmio β) :
    (Mmio.write32 offset value next >>= f) = .write32 offset value (next >>= f) := rfl

@[simp] theorem write8_bind (offset : Nat) (value : BitVec 8) (next : Mmio α) (f : α -> Mmio β) :
    (Mmio.write8 offset value next >>= f) = .write8 offset value (next >>= f) := rfl

@[simp] theorem poll32_bind (offset : Nat) (done : BitVec 32 -> Bool)
    (next : BitVec 32 -> Mmio α) (f : α -> Mmio β) :
    (Mmio.poll32 offset done next >>= f) = .poll32 offset done (fun value => next value >>= f) :=
  rfl

theorem bind_assoc {γ : Type} (m : Mmio α) (f : α -> Mmio β) (g : β -> Mmio γ) :
    (m.bind f).bind g = m.bind (fun value => (f value).bind g) := by
  induction m with
  | ret value => rfl
  | read32 offset next ih => exact congrArg (Mmio.read32 offset) (funext ih)
  | write32 offset value next ih => exact congrArg (Mmio.write32 offset value) ih
  | write8 offset value next ih => exact congrArg (Mmio.write8 offset value) ih
  | poll32 offset done next ih => exact congrArg (Mmio.poll32 offset done) (funext ih)

/-- `mmio_region_read32` -/
def mmioRegionRead32 (offset : Nat) : Mmio (BitVec 32) := .read32 offset .ret

/-- `mmio_region_write32` -/
def mmioRegionWrite32 (offset : Nat) (value : BitVec 32) : Mmio Unit :=
  .write32 offset value (.ret ())

/-- `mmio_region_write8` -/
def mmioRegionWrite8 (offset : Nat) (value : BitVec 8) : Mmio Unit :=
  .write8 offset value (.ret ())

/-- Read a register until the value read passes the test, and return it. -/
def pollUntil (offset : Nat) (done : BitVec 32 -> Bool) : Mmio (BitVec 32) :=
  .poll32 offset done .ret

/-! ## Execution against a device that only moves when accessed -/

/-- Execute a program.  A busy wait on a register that does not pass its test
at the first reading has no result here, since nothing else moves. -/
def run (device : Device σ) : Mmio α -> σ -> Option (α × σ)
  | .ret value, s => some (value, s)
  | .read32 offset next, s =>
      (next (device.read32 offset s).1).run device (device.read32 offset s).2
  | .write32 offset value next, s => next.run device (device.write32 offset value s)
  | .write8 offset value next, s => next.run device (device.write8 offset value s)
  | .poll32 offset done next, s =>
      if done (device.read32 offset s).1 then
        (next (device.read32 offset s).1).run device (device.read32 offset s).2
      else none

@[simp] theorem run_ret (device : Device σ) (value : α) (s : σ) :
    (Mmio.ret value).run device s = some (value, s) := rfl

/-- A sequence is executed one program after the other. -/
theorem run_bind (device : Device σ) (m : Mmio α) (f : α -> Mmio β) (s : σ) :
    (m >>= f).run device s =
      (m.run device s).bind (fun out => (f out.1).run device out.2) := by
  induction m generalizing s with
  | ret value => rfl
  | read32 offset next ih => exact ih _ _
  | write32 offset value next ih => exact ih _
  | write8 offset value next ih => exact ih _
  | poll32 offset done next ih =>
      rw [poll32_bind, run, run]
      split
      · exact ih _ _
      · rfl

variable {f : α -> Mmio β} {s t : σ} {m : Mmio α} {device : Device σ} {a : α} {env : σ -> σ -> Prop}
  {allowed : Access -> Prop}

/-- A first program whose result is known. -/
theorem run_bind_of {s' : σ} {value : α} (ran : m.run device s = some (value, s')) :
    (m >>= f).run device s = (f value).run device s' := by
  rw [run_bind, ran]
  rfl

/-! ## Execution while an environment moves the device -/

/-- `Exec device env s m t a`: from the device state `s` the program `m` can
return `a` and leave the state `t`, where any number of environment steps may
happen before each access and before the return. -/
inductive Exec (device : Device σ) (env : σ -> σ -> Prop) : σ -> Mmio α -> σ -> α -> Prop where
  | ret (s : σ) (value : α) : Exec device env s (.ret value) s value
  | env {s s' t : σ} {m : Mmio α} {a : α} (move : env s s')
      (rest : Exec device env s' m t a) : Exec device env s m t a
  | read32 {s t : σ} {a : α} (offset : Nat) (next : BitVec 32 -> Mmio α)
      (rest : Exec device env (device.read32 offset s).2 (next (device.read32 offset s).1) t a) :
      Exec device env s (.read32 offset next) t a
  | write32 {s t : σ} {a : α} (offset : Nat) (value : BitVec 32) (next : Mmio α)
      (rest : Exec device env (device.write32 offset value s) next t a) :
      Exec device env s (.write32 offset value next) t a
  | write8 {s t : σ} {a : α} (offset : Nat) (value : BitVec 8) (next : Mmio α)
      (rest : Exec device env (device.write8 offset value s) next t a) :
      Exec device env s (.write8 offset value next) t a
  | pollDone {s t : σ} {a : α} (offset : Nat) (done : BitVec 32 -> Bool)
      (next : BitVec 32 -> Mmio α) (passed : done (device.read32 offset s).1 = true)
      (rest : Exec device env (device.read32 offset s).2 (next (device.read32 offset s).1) t a) :
      Exec device env s (.poll32 offset done next) t a
  | pollAgain {s t : σ} {a : α} (offset : Nat) (done : BitVec 32 -> Bool)
      (next : BitVec 32 -> Mmio α) (failed : done (device.read32 offset s).1 = false)
      (rest : Exec device env (device.read32 offset s).2 (.poll32 offset done next) t a) :
      Exec device env s (.poll32 offset done next) t a

/-- An undisturbed execution is one of the executions an environment allows. -/
theorem exec_of_run (ran : m.run device s = some (a, t)) : Exec device env s m t a := by
  induction m generalizing s with
  | ret value =>
      cases ran
      exact .ret _ _
  | read32 offset next ih => exact .read32 _ _ (ih _ ran)
  | write32 offset value next ih => exact .write32 _ _ _ (ih ran)
  | write8 offset value next ih => exact .write8 _ _ _ (ih ran)
  | poll32 offset done next ih =>
      simp only [run] at ran
      by_cases passed : done (device.read32 offset s).1 = true
      · rw [if_pos passed] at ran
        exact .pollDone _ _ _ passed (ih _ ran)
      · rw [if_neg passed] at ran
        cases ran

/-- An execution of a sequence is an execution of its first part followed by
one of the rest. -/
theorem exec_bind {b : β} (execution : Exec device env s (m >>= f) t b) :
    Exists fun s' => Exists fun a =>
      Exec device env s m s' a ∧ Exec device env s' (f a) t b := by
  generalize program : m >>= f = whole at execution
  -- The induction is on the execution; a first part that has already returned
  -- leaves the whole of it to the rest.
  induction execution generalizing m with
  | env move rest ih =>
      rcases ih program with ⟨s', a, left, right⟩
      exact ⟨s', a, .env move left, right⟩
  | ret s value =>
      cases m <;> try cases program
      next first => exact ⟨s, first, .ret _ _, (show f first = _ from program) ▸ .ret _ _⟩
  | read32 offset next rest ih =>
      cases m <;> try cases program
      · next first =>
          exact ⟨_, first, .ret _ _, (show f first = _ from program) ▸ .read32 _ _ rest⟩
      · rcases ih rfl with ⟨s', a, left, right⟩
        exact ⟨s', a, .read32 _ _ left, right⟩
  | write32 offset value next rest ih =>
      cases m <;> try cases program
      · next first =>
          exact ⟨_, first, .ret _ _, (show f first = _ from program) ▸ .write32 _ _ _ rest⟩
      · rcases ih rfl with ⟨s', a, left, right⟩
        exact ⟨s', a, .write32 _ _ _ left, right⟩
  | write8 offset value next rest ih =>
      cases m <;> try cases program
      · next first =>
          exact ⟨_, first, .ret _ _, (show f first = _ from program) ▸ .write8 _ _ _ rest⟩
      · rcases ih rfl with ⟨s', a, left, right⟩
        exact ⟨s', a, .write8 _ _ _ left, right⟩
  | pollDone offset done next passed rest ih =>
      cases m <;> try cases program
      · next first =>
          exact ⟨_, first, .ret _ _, (show f first = _ from program) ▸ .pollDone _ _ _ passed rest⟩
      · rcases ih rfl with ⟨s', a, left, right⟩
        exact ⟨s', a, .pollDone _ _ _ passed left, right⟩
  | pollAgain offset done next failed rest ih =>
      cases m <;> try cases program
      · next first =>
          exact ⟨_, first, .ret _ _, (show f first = _ from program) ▸ .pollAgain _ _ _ failed rest⟩
      · next next' =>
          rcases ih (m := .poll32 offset done next') rfl with ⟨s', a, left, right⟩
          exact ⟨s', a, .pollAgain _ _ _ failed left, right⟩

/-- A program that has returned waits for the environment at most. -/
theorem exec_ret {value : α} (execution : Exec device env s (.ret value) t a) :
    a = value ∧ Relation.ReflTransGen env s t := by
  generalize program : Mmio.ret value = m at execution
  induction execution with
  | ret s value' =>
      cases program
      exact ⟨rfl, .refl⟩
  | env move rest ih =>
      rcases ih program with ⟨same, moves⟩
      exact ⟨same, .head move moves⟩
  | read32 | write32 | write8 | pollDone | pollAgain => cases program

/-! ## Pre- and postconditions over all executions -/

/-- An assertion that no environment step invalidates. -/
def Stable (env : σ -> σ -> Prop) (assertion : σ -> Prop) : Prop :=
  forall s s', env s s' -> assertion s -> assertion s'

/-- Every execution of `m` from a state satisfying `pre` ends in `post`. -/
def Triple (device : Device σ) (env : σ -> σ -> Prop) (pre : σ -> Prop) (m : Mmio α)
    (post : α -> σ -> Prop) : Prop :=
  forall s t a, pre s -> Exec device env s m t a -> post a t

namespace Triple

variable {device : Device σ} {env : σ -> σ -> Prop} {pre : σ -> Prop}
variable {post : α -> σ -> Prop} {offset : Nat}

theorem consequence {m : Mmio α} {pre' : σ -> Prop} {post' : α -> σ -> Prop}
    (triple : Triple device env pre' m post') (weaken : forall s, pre s -> pre' s)
    (strengthen : forall a t, post' a t -> post a t) : Triple device env pre m post :=
  fun s t a holds execution => strengthen a t (triple s t a (weaken s holds) execution)

theorem ret {value : α} (stable : Stable env pre) (holds : forall s, pre s -> post value s) :
    Triple device env pre (.ret value) post := by
  intro s t a start execution
  generalize program : Mmio.ret value = m at execution
  induction execution with
  | ret s value' =>
      cases program
      exact holds s start
  | env move rest ih => exact ih (stable _ _ move start) program
  | read32 | write32 | write8 | pollDone | pollAgain => cases program

/-- A program that only returns. -/
theorem returned {value : α} {s t : σ} {out : α} (stable : Stable env pre) (holds : pre s)
    (execution : Exec device env s (.ret value) t out) : out = value ∧ pre t := by
  have triple : Triple device env pre (.ret value) (fun out s => out = value ∧ pre s) :=
    ret stable (fun _ holds => ⟨rfl, holds⟩)
  exact triple s t out holds execution

theorem read32 {next : BitVec 32 -> Mmio α} (middle : BitVec 32 -> σ -> Prop)
    (stable : Stable env pre)
    (access : forall s, pre s -> middle (device.read32 offset s).1 (device.read32 offset s).2)
    (after : forall value, Triple device env (middle value) (next value) post) :
    Triple device env pre (.read32 offset next) post := by
  intro s t a start execution
  generalize program : Mmio.read32 offset next = m at execution
  induction execution with
  | read32 offset' next' rest ih =>
      cases program
      exact after _ _ _ _ (access _ start) rest
  | env move rest ih => exact ih (stable _ _ move start) program
  | ret | write32 | write8 | pollDone | pollAgain => cases program

theorem write32 {value : BitVec 32} {next : Mmio α} (middle : σ -> Prop) (stable : Stable env pre)
    (access : forall s, pre s -> middle (device.write32 offset value s))
    (after : Triple device env middle next post) :
    Triple device env pre (.write32 offset value next) post := by
  intro s t a start execution
  generalize program : Mmio.write32 offset value next = m at execution
  induction execution with
  | write32 offset' value' next' rest ih =>
      cases program
      exact after _ _ _ (access _ start) rest
  | env move rest ih => exact ih (stable _ _ move start) program
  | ret | read32 | write8 | pollDone | pollAgain => cases program

/-- A busy wait keeps what its failing readings keep, and goes on with a value
that passed the test. -/
theorem poll32 {done : BitVec 32 -> Bool} {next : BitVec 32 -> Mmio α}
    (middle : BitVec 32 -> σ -> Prop) (stable : Stable env pre)
    (again : forall s, pre s -> pre (device.read32 offset s).2)
    (access : forall s, pre s -> middle (device.read32 offset s).1 (device.read32 offset s).2)
    (after : forall value, done value = true ->
      Triple device env (middle value) (next value) post) :
    Triple device env pre (.poll32 offset done next) post := by
  intro s t a start execution
  generalize program : Mmio.poll32 offset done next = m at execution
  induction execution with
  | pollDone offset' done' next' passed rest ih =>
      cases program
      exact after _ passed _ _ _ (access _ start) rest
  | pollAgain offset' done' next' failed rest ih =>
      cases program
      exact ih (again _ start) rfl
  | env move rest ih => exact ih (stable _ _ move start) program
  | ret | read32 | write32 | write8 => cases program

theorem bind {middle : α -> σ -> Prop} {post : β -> σ -> Prop} {m : Mmio α} {f : α -> Mmio β}
    (first : Triple device env pre m middle)
    (second : forall a, Triple device env (middle a) (f a) post) :
    Triple device env pre (m >>= f) post := by
  intro s t b start execution
  rcases exec_bind execution with ⟨s', a, left, right⟩
  exact second a s' t b (first s s' a start left) right

end Triple

/-! ## Invariants that the accesses of a program respect -/

/-- Every access the program can make is one of the allowed ones. -/
def Within (allowed : Access -> Prop) : Mmio α -> Prop
  | .ret _ => True
  | .read32 offset next => allowed (.read32 offset) ∧ forall value, (next value).Within allowed
  | .write32 offset value next => allowed (.write32 offset value) ∧ next.Within allowed
  | .write8 offset value next => allowed (.write8 offset value) ∧ next.Within allowed
  | .poll32 offset _ next => allowed (.read32 offset) ∧ forall value, (next value).Within allowed

@[simp] theorem within_ite {condition : Prop} [Decidable condition] (m m' : Mmio α) :
    (if condition then m else m').Within allowed ↔
      (condition -> m.Within allowed) ∧ (¬ condition -> m'.Within allowed) := by
  split <;> simp_all

theorem within_bind (first : m.Within allowed) (rest : forall value, (f value).Within allowed) :
    (m >>= f).Within allowed := by
  induction m with
  | ret value => exact rest value
  | read32 offset next ih => exact ⟨first.1, fun value => ih value (first.2 value)⟩
  | write32 offset value next ih => exact ⟨first.1, ih first.2⟩
  | write8 offset value next ih => exact ⟨first.1, ih first.2⟩
  | poll32 offset done next ih => exact ⟨first.1, fun value => ih value (first.2 value)⟩

/-- What follows a program keeps to what both keep to. -/
theorem Within.rest (within : (m >>= f).Within allowed) :
    Exists fun value => (f value).Within allowed := by
  induction m with
  | ret value => exact ⟨value, within⟩
  | read32 offset next ih | poll32 offset done next ih => exact ih 0 (within.2 0)
  | write32 offset value next ih | write8 offset value next ih => exact ih within.2

theorem Within.imp {allowed' : Access -> Prop} (within : m.Within allowed)
    (weaker : forall access, allowed access -> allowed' access) : m.Within allowed' := by
  induction m with
  | ret value => trivial
  | read32 offset next ih => exact ⟨weaker _ within.1, fun value => ih value (within.2 value)⟩
  | write32 offset value next ih => exact ⟨weaker _ within.1, ih within.2⟩
  | write8 offset value next ih => exact ⟨weaker _ within.1, ih within.2⟩
  | poll32 offset done next ih => exact ⟨weaker _ within.1, fun value => ih value (within.2 value)⟩

/-- An assertion kept by the environment and by the allowed accesses is kept
by every program that makes no others. -/
theorem Triple.invariant {inv : σ -> Prop} (stable : Stable env inv)
    (kept : forall access s, allowed access -> inv s -> inv (device.after access s))
    (within : m.Within allowed) :
    Triple device env inv m (fun _ => inv) := by
  intro s t a start execution
  induction execution with
  | ret s value => exact start
  | env move rest ih => exact ih within (stable _ _ move start)
  | read32 offset next rest ih => exact ih (within.2 _) (kept _ _ within.1 start)
  | write32 offset value next rest ih => exact ih within.2 (kept _ _ within.1 start)
  | write8 offset value next rest ih => exact ih within.2 (kept _ _ within.1 start)
  | pollDone offset done next passed rest ih => exact ih (within.2 _) (kept _ _ within.1 start)
  | pollAgain offset done next failed rest ih => exact ih within (kept _ _ within.1 start)

theorem within_true (m : Mmio α) : m.Within (fun _ => True) := by
  induction m with
  | ret value => trivial
  | read32 offset next ih | poll32 offset done next ih => exact ⟨trivial, ih⟩
  | write32 offset value next ih | write8 offset value next ih => exact ⟨trivial, ih⟩

/-- The log of a device only grows. -/
theorem Triple.logged (log : List Access) (m : Mmio α) :
    Triple device.logged (Aside env) (fun s => log <+: s.2) m (fun _ s => log <+: s.2) := by
  have stable : Stable (Aside env) (fun s : σ × List Access => log <+: s.2) := by
    rintro s s' ⟨-, same⟩ before
    rw [same]
    exact before
  have kept (access : Access) (s : σ × List Access) (_ : True) (before : log <+: s.2) :
      log <+: (device.logged.after access s).2 := by
    cases access with
    | read32 offset => exact before.trans (List.prefix_append _ _)
    | write32 offset value => exact before.trans (List.prefix_append _ _)
    | write8 offset value => exact before.trans (List.prefix_append _ _)
  exact Triple.invariant stable kept (within_true m)

/-! ## Results that do not depend on the device -/

/-- Whatever the reads return, the program can only return values in `post`. -/
def Returns (post : α -> Prop) : Mmio α -> Prop
  | .ret value => post value
  | .read32 _ next => forall value, (next value).Returns post
  | .write32 _ _ next => next.Returns post
  | .write8 _ _ next => next.Returns post
  | .poll32 _ _ next => forall value, (next value).Returns post

theorem Returns.bind {middle : α -> Prop} {post : β -> Prop} (first : m.Returns middle)
    (rest : forall value, middle value -> (f value).Returns post) :
    (m >>= f).Returns post := by
  induction m with
  | ret value => exact rest value first
  | read32 offset next ih | poll32 offset done next ih => exact fun value => ih value (first value)
  | write32 offset value next ih | write8 offset value next ih => exact ih first

/-- The rest only has to be considered for the values that can be returned. -/
theorem Returns.within_bind {middle : α -> Prop} (returns : m.Returns middle)
    (first : m.Within allowed) (rest : forall value, middle value -> (f value).Within allowed) :
    (m >>= f).Within allowed := by
  induction m with
  | ret value => exact rest value returns
  | read32 offset next ih | poll32 offset done next ih =>
      exact ⟨first.1, fun value => ih value (returns value) (first.2 value)⟩
  | write32 offset value next ih | write8 offset value next ih =>
      exact ⟨first.1, ih returns first.2⟩

/-- A program that can return one value only. -/
theorem Returns.bind_known {known : α} (f : α -> Mmio β)
    (returns : m.Returns (fun value => value = known)) : m >>= f = m >>= fun _ => f known := by
  induction m with
  | ret value => exact congrArg f returns
  | read32 offset next ih =>
      exact congrArg (Mmio.read32 offset) (funext fun value => ih value (returns value))
  | write32 offset value next ih => exact congrArg (Mmio.write32 offset value) (ih returns)
  | write8 offset value next ih => exact congrArg (Mmio.write8 offset value) (ih returns)
  | poll32 offset done next ih =>
      exact congrArg (Mmio.poll32 offset done) (funext fun value => ih value (returns value))

theorem returns_true (m : Mmio α) : m.Returns (fun _ => True) := by
  induction m with
  | ret value => trivial
  | read32 offset next ih | poll32 offset done next ih => exact fun value => ih value
  | write32 offset value next ih | write8 offset value next ih => exact ih

theorem Returns.imp {post post' : α -> Prop} (returns : m.Returns post)
    (weaker : forall value, post value -> post' value) : m.Returns post' := by
  induction m with
  | ret value => exact weaker value returns
  | read32 offset next ih | poll32 offset done next ih => exact fun value => ih value (returns value)
  | write32 offset value next ih | write8 offset value next ih => exact ih returns

theorem Returns.of_exec {post : α -> Prop} (returns : m.Returns post)
    (execution : Exec device env s m t a) : post a := by
  induction execution with
  | ret s value => exact returns
  | env move rest ih => exact ih returns
  | read32 offset next rest ih => exact ih (returns _)
  | write32 offset value next rest ih => exact ih returns
  | write8 offset value next rest ih => exact ih returns
  | pollDone offset done next passed rest ih => exact ih (returns _)
  | pollAgain offset done next failed rest ih => exact ih returns

/-! ## What a program waits for -/

/-- Every busy wait of the program is of the given kind. -/
def Polls (kind : Nat -> (BitVec 32 -> Bool) -> Prop) : Mmio α -> Prop
  | .ret _ => True
  | .read32 _ next => forall value, (next value).Polls kind
  | .write32 _ _ next => next.Polls kind
  | .write8 _ _ next => next.Polls kind
  | .poll32 offset done next => kind offset done ∧ forall value, (next value).Polls kind

theorem Polls.bind {kind : Nat -> (BitVec 32 -> Bool) -> Prop} (first : m.Polls kind)
    (rest : forall value, (f value).Polls kind) : (m >>= f).Polls kind := by
  induction m with
  | ret value => exact rest value
  | read32 offset next ih => exact fun value => ih value (first value)
  | write32 offset value next ih | write8 offset value next ih => exact ih first
  | poll32 offset done next ih => exact ⟨first.1, fun value => ih value (first.2 value)⟩

/-- A program without busy waits returns when nothing else moves. -/
theorem Polls.runs (waits : m.Polls (fun _ _ => False)) (s : σ) :
    Exists fun out => m.run device s = some out := by
  induction m generalizing s with
  | ret value => exact ⟨_, rfl⟩
  | read32 offset next ih => exact ih _ (waits _) _
  | write32 offset value next ih | write8 offset value next ih => exact ih waits _
  | poll32 offset done next ih => exact waits.1.elim

/-! ## Programs that say more than their result -/

/-- A program without what it says beside its result. -/
def forget {ν : Type} (program : Mmio (α × ν)) : Mmio α := program >>= fun out => .ret out.1

theorem forget_bind {ν : Type} (first : Mmio α) (next : α -> Mmio (β × ν))
    (plain : α -> Mmio β) (same : forall value, forget (next value) = plain value) :
    forget (first >>= next) = first >>= plain :=
  (bind_assoc first next _).trans (congrArg (first.bind ·) (funext same))

/-- What is said beside a result makes no difference to what follows. -/
theorem forget_bind_forget {ν ν' : Type} (first : Mmio (α × ν))
    (next : α × ν -> Mmio (β × ν')) (plain : α -> Mmio β)
    (same : forall out, forget (next out) = plain out.1) :
    forget (first >>= next) = forget first >>= plain :=
  (forget_bind first next (fun out => plain out.1) same).trans
    (bind_assoc first (fun out => .ret out.1) plain).symm

end Mmio
end SunburstChip
