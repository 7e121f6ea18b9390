import SunburstChip.Lib.Mmio
import Mathlib.Order.WellFounded

namespace SunburstChip
namespace Mmio

variable {α β σ : Type}

/-!
# Programs interleaved with what surrounds them

A configuration is a program and the state it shares with its surroundings:
the hardware, and whatever interrupts it.  Either can move.  What the
surroundings may do can depend on the access the program makes next, so that
runs can be singled out by what happens at a point of the program, and so can
the states in which an access is considered at all.  A busy wait whose test
fails makes no move: reading the register again changes nothing.

`Live` is the partial correctness of `Triple` for single moves.  In every
configuration reached an invariant holds, which can depend on the position,
and, on a proviso, something can move.  So a configuration in which program and hardware wait for each other is
never reached, and a program that cannot return without the proviso is free of
deadlock exactly when the proviso holds.
-/

/-! ## Positions -/

/-- The access that a program makes next. -/
inductive Position where
  | returned
  | read32 (offset : Nat)
  | write32 (offset : Nat) (value : BitVec 32)
  | write8 (offset : Nat) (value : BitVec 8)
  | poll32 (offset : Nat)
  deriving DecidableEq

def position : Mmio α -> Position
  | .ret _ => .returned
  | .read32 offset _ => .read32 offset
  | .write32 offset value _ => .write32 offset value
  | .write8 offset value _ => .write8 offset value
  | .poll32 offset _ _ => .poll32 offset

theorem position_bind {m : Mmio α} (f : α -> Mmio β) (unfinished : forall value, m ≠ .ret value) :
    (m >>= f).position = m.position := by
  cases m with
  | ret value => exact absurd rfl (unfinished value)
  | read32 | write32 | write8 | poll32 => rfl

/-- A device, the moves of its surroundings at each position, and the states
in which the access made there is considered. -/
structure World (σ : Type) where
  device : Device σ
  env : Position -> σ -> σ -> Prop
  meets : Position -> σ -> Prop

/-- Every access is considered, and the surroundings move as they like. -/
def World.of (device : Device σ) (env : σ -> σ -> Prop) : World σ where
  device := device
  env _ := env
  meets _ _ := True

/-! ## Single moves -/

/-- One move of the program, or of its surroundings. -/
inductive Step (world : World σ) : Mmio α × σ -> Mmio α × σ -> Prop where
  | env {s s' : σ} (m : Mmio α) (move : world.env m.position s s') : Step world (m, s) (m, s')
  | read32 (offset : Nat) (next : BitVec 32 -> Mmio α) (s : σ)
      (met : world.meets (.read32 offset) s) :
      Step world (.read32 offset next, s)
        (next (world.device.read32 offset s).1, (world.device.read32 offset s).2)
  | write32 (offset : Nat) (value : BitVec 32) (next : Mmio α) (s : σ)
      (met : world.meets (.write32 offset value) s) :
      Step world (.write32 offset value next, s) (next, world.device.write32 offset value s)
  | write8 (offset : Nat) (value : BitVec 8) (next : Mmio α) (s : σ)
      (met : world.meets (.write8 offset value) s) :
      Step world (.write8 offset value next, s) (next, world.device.write8 offset value s)
  | poll32 (offset : Nat) (done : BitVec 32 -> Bool) (next : BitVec 32 -> Mmio α) (s : σ)
      (met : world.meets (.poll32 offset) s)
      (passed : done (world.device.read32 offset s).1 = true) :
      Step world (.poll32 offset done next, s)
        (next (world.device.read32 offset s).1, (world.device.read32 offset s).2)

/-- What moves can lead to. -/
abbrev Reaches (world : World σ) : Mmio α × σ -> Mmio α × σ -> Prop :=
  Relation.ReflTransGen (Step world)

/-- The program has returned. -/
def Finished (config : Mmio α × σ) : Prop := Exists fun value => config.1 = .ret value

/-- Every reachable configuration that is not finished has a move. -/
def DeadlockFree (world : World σ) (config : Mmio α × σ) : Prop :=
  forall config', Reaches world config config' ->
    Finished config' ∨ Exists fun config'' => Step world config' config''

variable {m : Mmio α} {world : World σ} {s : σ}

/-- The program can wait while the surroundings move. -/
theorem reaches_env {t : σ} (moves : Relation.ReflTransGen (world.env m.position) s t) :
    Reaches world (m, s) (m, t) :=
  moves.lift (fun s => (m, s)) (fun _ _ move => .env m move)

/-- An undisturbed execution is one way to move. -/
theorem reaches_of_run {t : σ} {a : α} (met : forall place s, world.meets place s)
    (ran : m.run world.device s = some (a, t)) :
    Reaches world (m, s) (.ret a, t) := by
  induction m generalizing s with
  | ret value =>
      cases ran
      exact .refl
  | read32 offset next ih => exact .head (.read32 _ _ _ (met _ _)) (ih _ ran)
  | write32 offset value next ih => exact .head (.write32 _ _ _ _ (met _ _)) (ih ran)
  | write8 offset value next ih => exact .head (.write8 _ _ _ _ (met _ _)) (ih ran)
  | poll32 offset done next ih =>
      simp only [run] at ran
      by_cases passed : done (world.device.read32 offset s).1 = true
      · rw [if_pos passed] at ran
        exact .head (.poll32 _ _ _ _ (met _ _) passed) (ih _ ran)
      · rw [if_neg passed] at ran
        cases ran

/-! ## Programs that come to a halt -/

section Halting

variable {world : World σ}

/-- A configuration leads to one in which nothing moves. -/
def Halts (world : World σ) (config : Mmio α × σ) : Prop :=
  Exists fun config' => Reaches world config config' ∧ forall config'', ¬ Step world config' config''

/-- The surroundings can only move finitely often before the program does. -/
theorem halts_of_moves (terminates : forall place, WellFounded (fun s' s => world.env place s s'))
    {m : Mmio α}
    (moves : forall s config, Step world (m, s) config ->
      world.env m.position s config.2 ∧ config.1 = m ∨ Halts world config) (s : σ) :
    Halts world (m, s) := by
  classical
  induction s using (terminates m.position).induction with
  | h s ih =>
    by_cases stuck : forall config, ¬ Step world (m, s) config
    · exact ⟨_, .refl, stuck⟩
    · rcases not_forall.mp stuck with ⟨⟨m', s'⟩, step⟩
      have step := Classical.not_not.mp step
      rcases moves s _ step with ⟨move, same⟩ | ⟨config, reaches, halted⟩
      · cases same
        rcases ih s' move with ⟨config, reaches, halted⟩
        exact ⟨config, .head step reaches, halted⟩
      · exact ⟨config, .head step reaches, halted⟩

/-- Surroundings that cannot move for ever let every configuration reach one
in which nothing moves: a move of the program leaves a smaller program. -/
theorem halts (terminates : forall place, WellFounded (fun s' s => world.env place s s'))
    (m : Mmio α) (s : σ) : Halts world (m, s) := by
  induction m generalizing s with
  | ret value =>
      refine halts_of_moves terminates (fun s config step => ?_) s
      cases step with
      | env _ move => exact .inl ⟨move, rfl⟩
  | read32 offset next ih =>
      refine halts_of_moves terminates (fun s config step => ?_) s
      cases step with
      | env _ move => exact .inl ⟨move, rfl⟩
      | read32 => exact .inr (ih _ _)
  | write32 offset value next ih =>
      refine halts_of_moves terminates (fun s config step => ?_) s
      cases step with
      | env _ move => exact .inl ⟨move, rfl⟩
      | write32 => exact .inr (ih _)
  | write8 offset value next ih =>
      refine halts_of_moves terminates (fun s config step => ?_) s
      cases step with
      | env _ move => exact .inl ⟨move, rfl⟩
      | write8 => exact .inr (ih _)
  | poll32 offset done next ih =>
      refine halts_of_moves terminates (fun s config step => ?_) s
      cases step with
      | env _ move => exact .inl ⟨move, rfl⟩
      | poll32 => exact .inr (ih _ _)

end Halting

/-! ## Programs that can return -/

/-- A wait that the surroundings can end from every state. -/
def CanEnd (world : World σ) (offset : Nat) (done : BitVec 32 -> Bool) : Prop :=
  forall s, Exists fun s' => Relation.ReflTransGen (world.env (.poll32 offset)) s s' ∧
    done (world.device.read32 offset s').1 = true

theorem Polls.step {kind : Nat -> (BitVec 32 -> Bool) -> Prop} {m' : Mmio α} {s' : σ}
    (polls : m.Polls kind) (step : Step world (m, s) (m', s')) : m'.Polls kind := by
  cases step with
  | env => exact polls
  | read32 offset next => exact polls _
  | write32 | write8 => exact polls
  | poll32 offset done next => exact polls.2 _

/-- Where every wait can be ended, a program can return from wherever it is. -/
theorem Polls.returns (met : forall place s, world.meets place s) (polls : m.Polls (CanEnd world))
    (s : σ) :
    Exists fun value => Exists fun t => Reaches world (m, s) (.ret value, t) := by
  induction m generalizing s with
  | ret value => exact ⟨value, s, .refl⟩
  | read32 offset next ih =>
      rcases ih _ (polls _) _ with ⟨value, t, rest⟩
      exact ⟨value, t, .head (.read32 _ _ _ (met _ _)) rest⟩
  | write32 offset written next ih =>
      rcases ih polls _ with ⟨value, t, rest⟩
      exact ⟨value, t, .head (.write32 _ _ _ _ (met _ _)) rest⟩
  | write8 offset written next ih =>
      rcases ih polls _ with ⟨value, t, rest⟩
      exact ⟨value, t, .head (.write8 _ _ _ _ (met _ _)) rest⟩
  | poll32 offset done next ih =>
      rcases polls.1 s with ⟨s', moves, passed⟩
      rcases ih _ (polls.2 _) _ with ⟨value, t, rest⟩
      exact ⟨value, t, (reaches_env moves).trans
        (.head (.poll32 _ _ _ _ (met _ _) passed) rest)⟩

/-- The same from every configuration it has come to. -/
theorem Polls.returns_reached (met : forall place s, world.meets place s)
    (polls : m.Polls (CanEnd world)) {config : Mmio α × σ} (reached : Reaches world (m, s) config) :
    Exists fun value => Exists fun t => Reaches world config (.ret value, t) := by
  have kept : config.1.Polls (CanEnd world) := by
    induction reached with
    | refl => exact polls
    | tail _ step ih => exact ih.step step
  exact kept.returns met config.2

/-! ## The rules -/

/-- The surroundings keep the assertion at this position, and it implies what
is invariant there. -/
def Keeps (world : World σ) (inv : Position -> σ -> Prop) (place : Position) (assertion : σ -> Prop) : Prop :=
  (forall s, assertion s -> inv place s) ∧
    forall s s', world.env place s s' -> assertion s -> assertion s'

/-- From a state satisfying `pre`, what is invariant at a position holds in
every configuration reached there, `post` holds whenever the program `m` has returned, and on the proviso
`given` it never comes to wait for surroundings that cannot move. -/
def Live (world : World σ) (inv : Position -> σ -> Prop) (given : Prop) (pre : σ -> Prop)
    (m : Mmio α) (post : α -> σ -> Prop) : Prop :=
  forall s, pre s -> forall config, Reaches world (m, s) config ->
    inv config.1.position config.2 ∧ (forall value, config.1 = .ret value -> post value config.2) ∧
      (given -> Finished config ∨ Exists fun config' => Step world config config')

/-- A program that returns only if the proviso of its progress holds is
deadlock free in exactly that case: otherwise, among surroundings that cannot
move for ever, it comes to a halt without having returned. -/
theorem Live.deadlockFree_iff {inv : Position -> σ -> Prop} {given : Prop} {pre : σ -> Prop}
    (live : Live world inv given pre m (fun _ _ => given))
    (terminates : forall place, WellFounded (fun s' s => world.env place s s')) (start : pre s) :
    DeadlockFree world (m, s) ↔ given := by
  constructor
  · intro free
    rcases halts terminates m s with ⟨config, reaches, halted⟩
    rcases free config reaches with ⟨value, returned⟩ | ⟨config', step⟩
    · exact (live s start config reaches).2.1 value returned
    · exact absurd step (halted config')
  · intro proviso config reaches
    exact (live s start config reaches).2.2 proviso

namespace Live

variable {world : World σ} {inv : Position -> σ -> Prop} {given : Prop} {pre : σ -> Prop}
variable {post : α -> σ -> Prop} {m : Mmio α} {offset : Nat}

theorem consequence {pre' : σ -> Prop} {post' : α -> σ -> Prop}
    (live : Live world inv given pre' m post') (weaken : forall s, pre s -> pre' s)
    (strengthen : forall a t, post' a t -> post a t) : Live world inv given pre m post := by
  intro s start config reaches
  have all := live s (weaken s start) config reaches
  exact ⟨all.1, fun value returned => strengthen _ _ (all.2.1 value returned), all.2.2⟩

/-- What the precondition says of no state can be assumed. -/
theorem assume {fact : Prop} (live : fact -> Live world inv given pre m post) :
    Live world inv given (fun s => fact ∧ pre s) m post :=
  fun s start => live start.1 s start.2

theorem of_exists {ι : Type} {pre : ι -> σ -> Prop}
    (live : forall i, Live world inv given (pre i) m post) :
    Live world inv given (fun s => Exists fun i => pre i s) m post :=
  fun s ⟨i, start⟩ => live i s start

/-- The rule behind the rules: a program that is not finished, moves wherever
its precondition holds, and is live after each of its own moves, is live. -/
theorem of_moves (kept : Keeps world inv m.position pre)
    (unfinished : forall value, m ≠ .ret value)
    (moves : forall s, pre s -> given -> Exists fun config => Step world (m, s) config)
    (after : forall s m' s', pre s -> Step world (m, s) (m', s') ->
      (m' = m ∧ world.env m.position s s') ∨
        Exists fun middle => middle s' ∧ Live world inv given middle m' post) :
    Live world inv given pre m post := by
  intro s start config reaches
  generalize source : (m, s) = first at reaches
  induction reaches using Relation.ReflTransGen.head_induction_on generalizing s with
  | refl =>
      cases source
      exact ⟨kept.1 s start, fun value returned => absurd returned (unfinished value),
        fun proviso => .inr (moves s start proviso)⟩
  | head step rest ih =>
      cases source
      rename_i next
      rcases next with ⟨m', s'⟩
      rcases after s m' s' start step with ⟨same, move⟩ | ⟨middle, holds, live⟩
      · cases same
        exact ih s' (kept.2 s s' move start) rfl
      · exact live s' holds _ rest

theorem ret {value : α} (kept : Keeps world inv .returned pre)
    (holds : forall s, pre s -> post value s) : Live world inv given pre (.ret value) post := by
  intro s start config reaches
  generalize source : (Mmio.ret value, s) = first at reaches
  induction reaches using Relation.ReflTransGen.head_induction_on generalizing s with
  | refl =>
      cases source
      refine ⟨kept.1 s start, ?_, fun _ => .inl ⟨value, rfl⟩⟩
      intro value' returned
      cases returned
      exact holds s start
  | head step rest ih =>
      cases source
      cases step with
      | env _ move => exact ih _ (kept.2 _ _ move start) rfl

theorem read32 {next : BitVec 32 -> Mmio α} (middle : BitVec 32 -> σ -> Prop)
    (kept : Keeps world inv (.read32 offset) pre)
    (considered : given -> forall s, pre s -> world.meets (.read32 offset) s)
    (access : forall s, pre s -> world.meets (.read32 offset) s ->
      middle (world.device.read32 offset s).1 (world.device.read32 offset s).2)
    (after : forall value, Live world inv given (middle value) (next value) post) :
    Live world inv given pre (.read32 offset next) post := by
  refine of_moves kept (fun value same => by cases same)
    (fun s start proviso => ⟨_, .read32 _ _ _ (considered proviso s start)⟩) ?_
  intro s m' s' start step
  cases step with
  | env _ move => exact .inl ⟨rfl, move⟩
  | read32 _ _ _ met => exact .inr ⟨middle _, access s start met, after _⟩

theorem write32 {value : BitVec 32} {next : Mmio α} (middle : σ -> Prop)
    (kept : Keeps world inv (.write32 offset value) pre)
    (considered : given -> forall s, pre s -> world.meets (.write32 offset value) s)
    (access : forall s, pre s -> world.meets (.write32 offset value) s ->
      middle (world.device.write32 offset value s))
    (after : Live world inv given middle next post) :
    Live world inv given pre (.write32 offset value next) post := by
  refine of_moves kept (fun value same => by cases same)
    (fun s start proviso => ⟨_, .write32 _ _ _ _ (considered proviso s start)⟩) ?_
  intro s m' s' start step
  cases step with
  | env _ move => exact .inl ⟨rfl, move⟩
  | write32 _ _ _ _ met => exact .inr ⟨middle, access s start met, after⟩

theorem write8 {value : BitVec 8} {next : Mmio α} (middle : σ -> Prop)
    (kept : Keeps world inv (.write8 offset value) pre)
    (considered : given -> forall s, pre s -> world.meets (.write8 offset value) s)
    (access : forall s, pre s -> world.meets (.write8 offset value) s ->
      middle (world.device.write8 offset value s)) (after : Live world inv given middle next post) :
    Live world inv given pre (.write8 offset value next) post := by
  refine of_moves kept (fun value same => by cases same)
    (fun s start proviso => ⟨_, .write8 _ _ _ _ (considered proviso s start)⟩) ?_
  intro s m' s' start step
  cases step with
  | env _ move => exact .inl ⟨rfl, move⟩
  | write8 _ _ _ _ met => exact .inr ⟨middle, access s start met, after⟩

/-- Where the test of a busy wait fails, the surroundings must be able to move. -/
theorem poll32 {done : BitVec 32 -> Bool} {next : BitVec 32 -> Mmio α}
    (middle : BitVec 32 -> σ -> Prop) (kept : Keeps world inv (.poll32 offset) pre)
    (considered : given -> forall s, pre s -> world.meets (.poll32 offset) s)
    (waiting : given -> forall s, pre s -> done (world.device.read32 offset s).1 = false ->
      Exists fun s' => world.env (.poll32 offset) s s')
    (access : forall s, pre s -> world.meets (.poll32 offset) s ->
      done (world.device.read32 offset s).1 = true ->
      middle (world.device.read32 offset s).1 (world.device.read32 offset s).2)
    (after : forall value, Live world inv given (middle value) (next value) post) :
    Live world inv given pre (.poll32 offset done next) post := by
  refine of_moves kept (fun value same => by cases same) ?_ ?_
  · intro s start proviso
    cases passed : done (world.device.read32 offset s).1 with
    | true => exact ⟨_, .poll32 _ _ _ _ (considered proviso s start) passed⟩
    | false =>
        rcases waiting proviso s start passed with ⟨s', move⟩
        exact ⟨_, .env _ move⟩
  · intro s m' s' start step
    cases step with
    | env _ move => exact .inl ⟨rfl, move⟩
    | poll32 _ _ _ _ met passed => exact .inr ⟨middle _, access s start met passed, after _⟩

/-- A move of the first part of a sequence is a move of the sequence. -/
theorem step_bind {m' : Mmio α} {s s' : σ} (f : α -> Mmio β)
    (unfinished : forall value, m ≠ .ret value) (step : Step world (m, s) (m', s')) :
    Step world (m >>= f, s) (m' >>= f, s') := by
  cases step with
  | env _ move => exact .env _ ((position_bind f unfinished).symm ▸ move)
  | read32 offset next _ met => exact .read32 offset (fun value => next value >>= f) s met
  | write32 offset value _ _ met => exact .write32 offset value (m' >>= f) s met
  | write8 offset value _ _ met => exact .write8 offset value (m' >>= f) s met
  | poll32 offset done next _ met passed =>
      exact .poll32 offset done (fun value => next value >>= f) s met passed

/-- A move of a sequence whose first part has not returned is one of the
first part. -/
theorem step_of_bind {f : α -> Mmio β} {s s' : σ} {p : Mmio β}
    (unfinished : forall value, m ≠ .ret value) (step : Step world (m >>= f, s) (p, s')) :
    Exists fun m' => p = (m' >>= f) ∧ Step world (m, s) (m', s') := by
  generalize source : m >>= f = whole at step
  cases m with
  | ret value => exact absurd rfl (unfinished value)
  | read32 offset next =>
      cases step with
      | env _ move =>
          cases source
          exact ⟨_, rfl, .env _ move⟩
      | read32 _ _ _ met =>
          cases source
          exact ⟨_, rfl, .read32 _ _ _ met⟩
      | write32 | write8 | poll32 => cases source
  | write32 offset value next =>
      cases step with
      | env _ move =>
          cases source
          exact ⟨_, rfl, .env _ move⟩
      | write32 _ _ _ _ met =>
          cases source
          exact ⟨_, rfl, .write32 _ _ _ _ met⟩
      | read32 | write8 | poll32 => cases source
  | write8 offset value next =>
      cases step with
      | env _ move =>
          cases source
          exact ⟨_, rfl, .env _ move⟩
      | write8 _ _ _ _ met =>
          cases source
          exact ⟨_, rfl, .write8 _ _ _ _ met⟩
      | read32 | write32 | poll32 => cases source
  | poll32 offset done next =>
      cases step with
      | env _ move =>
          cases source
          exact ⟨_, rfl, .env _ move⟩
      | poll32 _ _ _ _ met passed =>
          cases source
          exact ⟨_, rfl, .poll32 _ _ _ _ met passed⟩
      | read32 | write32 | write8 => cases source

theorem bind {middle : α -> σ -> Prop} {post : β -> σ -> Prop} {f : α -> Mmio β}
    (first : Live world inv given pre m middle)
    (second : forall a, Live world inv given (middle a) (f a) post) :
    Live world inv given pre (m >>= f) post := by
  intro s start config reaches
  have live := first s start
  clear start first
  generalize source : (m >>= f, s) = whole at reaches
  -- The induction is on the moves; once the first part has returned the rest
  -- of them is the second's.
  induction reaches using Relation.ReflTransGen.head_induction_on generalizing m s with
  | refl =>
      cases source
      by_cases returned : Exists fun value => m = .ret value
      · rcases returned with ⟨value, rfl⟩
        exact second value s ((live _ .refl).2.1 value rfl) _ .refl
      · have unfinished : forall value, m ≠ .ret value := fun value same => returned ⟨value, same⟩
        refine ⟨(position_bind f unfinished).symm ▸ (live _ .refl).1, ?_, ?_⟩
        · intro value same
          cases m with
          | ret initial => exact absurd ⟨initial, rfl⟩ returned
          | read32 | write32 | write8 | poll32 => cases same
        · intro proviso
          rcases (live _ .refl).2.2 proviso with finished | ⟨⟨m', s'⟩, step⟩
          · exact absurd finished returned
          · exact .inr ⟨_, step_bind f unfinished step⟩
  | head step rest ih =>
      cases source
      rename_i next
      by_cases returned : Exists fun value => m = .ret value
      · rcases returned with ⟨value, rfl⟩
        exact second value s ((live _ .refl).2.1 value rfl) _ (.head step rest)
      · rcases next with ⟨p, s'⟩
        rcases step_of_bind (fun value same => returned ⟨value, same⟩) step with ⟨m', rfl, move⟩
        exact ih s' (fun config reached => live config (.head move reached)) rfl

/-- An assertion that the surroundings and every access keep is kept by every
program. -/
theorem invariant (assertion : σ -> Prop)
    (kept : forall place s s', world.env place s s' -> assertion s -> assertion s')
    (read : forall offset s, assertion s -> assertion (world.device.read32 offset s).2)
    (write : forall offset value s, assertion s ->
      assertion (world.device.write32 offset value s))
    (writeByte : forall offset value s, assertion s ->
      assertion (world.device.write8 offset value s))
    (m : Mmio α) :
    Live world (fun _ => assertion) False assertion m (fun _ => assertion) := by
  have keeps : forall place, Keeps world (fun _ => assertion) place assertion :=
    fun place => ⟨fun _ holds => holds, kept place⟩
  induction m with
  | ret value => exact ret (keeps _) (fun _ holds => holds)
  | read32 offset next ih =>
      exact read32 (fun _ => assertion) (keeps _) (fun never => never.elim)
        (fun s holds _ => read offset s holds) ih
  | write32 offset value next ih =>
      exact write32 assertion (keeps _) (fun never => never.elim)
        (fun s holds _ => write offset value s holds) ih
  | write8 offset value next ih =>
      exact write8 assertion (keeps _) (fun never => never.elim)
        (fun s holds _ => writeByte offset value s holds) ih
  | poll32 offset done next ih =>
      exact poll32 (fun _ => assertion) (keeps _) (fun never => never.elim)
        (fun never => never.elim) (fun s holds _ _ => read offset s holds) ih

end Live

/-! ## A device that remembers -/

/-- A device together with the accesses that have been made to it, and the
states they have been made in. -/
def traced (device : Device σ) : Device (σ × List (Access × σ)) where
  read32 offset s := ((device.read32 offset s.1).1,
    ((device.read32 offset s.1).2, s.2 ++ [(.read32 offset, s.1)]))
  write32 offset value s :=
    (device.write32 offset value s.1, s.2 ++ [(.write32 offset value, s.1)])
  write8 offset value s := (device.write8 offset value s.1, s.2 ++ [(.write8 offset value, s.1)])

/-- The surroundings change nothing about the past. -/
def Onwards (env : σ -> σ -> Prop) (s s' : σ × List (Access × σ)) : Prop :=
  env s.1 s'.1 ∧ s'.2 = s.2

/-- A device that remembers, among surroundings that move as they like. -/
abbrev Remembering (device : Device σ) (env : σ -> σ -> Prop) : World (σ × List (Access × σ)) :=
  World.of (traced device) (Onwards env)

/-- Where a program does not wait, it can make its next access. -/
theorem access_of_running {device : Device σ} {env : σ -> σ -> Prop}
    {config : Mmio α × (σ × List (Access × σ))} (running : ¬ Finished config)
    (busy : forall offset, config.1.position ≠ .poll32 offset) :
    Exists fun config' => Step (Remembering device env) config config' ∧
      config'.2.2.length = config.2.2.length + 1 := by
  rcases config with ⟨m, s⟩
  cases m with
  | ret value => exact absurd ⟨value, rfl⟩ running
  | read32 offset next => exact ⟨_, .read32 _ _ _ trivial, List.length_append⟩
  | write32 offset value next => exact ⟨_, .write32 _ _ _ _ trivial, List.length_append⟩
  | write8 offset value next => exact ⟨_, .write8 _ _ _ _ trivial, List.length_append⟩
  | poll32 offset done next => exact absurd rfl (busy offset)

end Mmio
end SunburstChip
