import Mathlib.Data.Nat.Basic
import Mathlib.Data.Set.Basic

namespace SunburstChip

/-!
# Synchronous circuits

A circuit of one clock is what its flops hold after reset and what they take at
a rising edge, from what they hold and what is on the inputs.  A run of it is
given by the inputs of every cycle, so that what happens at one cycle and what
happens at another are said of one run.

What all cycles have in common is shown by what one edge preserves.  Two circuits
are compared by a map between what their flops hold.
-/

/-- The flops of a circuit: what they hold after reset, and what they take at an edge. -/
structure Circuit (σ ι : Type) where
  reset : σ
  next : σ -> ι -> σ

namespace Circuit

variable {σ τ ι κ : Type}

/-- What the flops hold in a cycle of a run. -/
def state (circuit : Circuit σ ι) (inputs : Nat -> ι) : Nat -> σ
  | 0 => circuit.reset
  | t + 1 => circuit.next (circuit.state inputs t) (inputs t)

variable {circuit : Circuit σ ι} {inputs : Nat -> ι}

@[simp] theorem state_zero : circuit.state inputs 0 = circuit.reset := rfl

theorem state_succ (t : Nat) :
    circuit.state inputs (t + 1) = circuit.next (circuit.state inputs t) (inputs t) := rfl

/-- What every edge preserves holds in every cycle. -/
theorem invariant {holds : σ -> Prop} (start : holds circuit.reset)
    (step : forall s input, holds s -> holds (circuit.next s input)) (t : Nat) :
    holds (circuit.state inputs t) := by
  induction t with
  | zero => exact start
  | succ t ih => exact step _ _ ih

/-- What an edge preserves unless something happens still holds while it does not happen. -/
theorem holds_until {holds : σ -> Prop} {happens : σ -> ι -> Prop}
    (step : forall s input, holds s -> ¬ happens s input -> holds (circuit.next s input))
    {t t' : Nat} (later : t <= t') (start : holds (circuit.state inputs t))
    (quiet : forall k, t <= k -> k < t' -> ¬ happens (circuit.state inputs k) (inputs k)) :
    holds (circuit.state inputs t') := by
  induction t', later using Nat.le_induction with
  | base => exact start
  | succ t' later ih =>
      have before := ih (fun k first last => quiet k first (Nat.lt_succ_of_lt last))
      exact step _ _ before (quiet t' later (Nat.lt_succ_self t'))

/-- What held and holds no more: the thing that ends it has happened in between. -/
theorem ended {holds : σ -> Prop} {happens : σ -> ι -> Prop}
    (step : forall s input, holds s -> ¬ happens s input -> holds (circuit.next s input))
    {t t' : Nat} (later : t <= t') (start : holds (circuit.state inputs t))
    (gone : ¬ holds (circuit.state inputs t')) :
    Exists fun k => t <= k ∧ k < t' ∧ happens (circuit.state inputs k) (inputs k) := by
  by_contra never
  refine gone (holds_until step later start ?_)
  intro k first last happened
  exact never ⟨k, first, last, happened⟩

/-- A circuit whose flops hold what the flops of another one say runs as that one does. -/
theorem state_map {other : Circuit τ κ} {view : σ -> τ} {see : σ -> ι -> κ}
    (start : view circuit.reset = other.reset)
    (step : forall s input, view (circuit.next s input) = other.next (view s) (see s input))
    (t : Nat) : view (circuit.state inputs t) =
      other.state (fun k => see (circuit.state inputs k) (inputs k)) t := by
  induction t with
  | zero => exact start
  | succ t ih => rw [state_succ, step, ih, state_succ]

/-- The same where the two agree only as long as an invariant holds. -/
theorem state_map_of {other : Circuit τ κ} {view : σ -> τ} {see : σ -> ι -> κ}
    {holds : σ -> Prop} (kept : forall t, holds (circuit.state inputs t))
    (start : view circuit.reset = other.reset)
    (step : forall s input, holds s ->
      view (circuit.next s input) = other.next (view s) (see s input))
    (t : Nat) : view (circuit.state inputs t) =
      other.state (fun k => see (circuit.state inputs k) (inputs k)) t := by
  induction t with
  | zero => exact start
  | succ t ih => rw [state_succ, step _ _ (kept t), ih, state_succ]

end Circuit

/-! ## Vectors of wires -/

/-- The vector whose wires are given one by one. -/
def wires : (n : Nat) -> (Nat -> Bool) -> BitVec n
  | 0, _ => 0
  | n + 1, wire => (wires n wire).cons (wire n)

theorem getLsbD_wires {n i : Nat} (wire : Nat -> Bool) (inside : i < n) :
    (wires n wire).getLsbD i = wire i := by
  induction n with
  | zero => exact absurd inside (Nat.not_lt_zero i)
  | succ n ih =>
      rw [wires, BitVec.getLsbD_cons]
      by_cases last : i = n
      · rw [if_pos last, last]
      · rw [if_neg last]
        exact ih (by omega)

/-- The parity of a vector. -/
def xorReduce : {w : Nat} -> BitVec w -> Bool
  | 0, _ => false
  | w + 1, x => x.getLsbD w ^^ xorReduce (x.setWidth w)

theorem xorReduce_cons {w : Nat} (flag : Bool) (x : BitVec w) :
    xorReduce (BitVec.cons flag x) = (flag ^^ xorReduce x) := by
  rw [xorReduce, BitVec.getLsbD_cons, if_pos rfl, BitVec.setWidth_cons]

theorem xorReduce_append {w : Nat} (x : BitVec w) (flag : Bool) :
    xorReduce (x ++ BitVec.ofBool flag) = (xorReduce x ^^ flag) := by
  induction w with
  | zero =>
      rw [BitVec.of_length_zero (x := x)]
      cases flag <;> rfl
  | succ w ih =>
      have top : (x ++ BitVec.ofBool flag).getLsbD (w + 1) = x.getLsbD w := by
        rw [BitVec.getLsbD_append, if_neg (by omega), Nat.add_sub_cancel]
      have rest : (x ++ BitVec.ofBool flag).setWidth (w + 1) =
          x.setWidth w ++ BitVec.ofBool flag := by
        refine BitVec.eq_of_getLsbD_eq fun i inside => ?_
        rw [BitVec.getLsbD_setWidth, decide_eq_true inside, Bool.true_and, BitVec.getLsbD_append,
          BitVec.getLsbD_append]
        by_cases first : i < 1
        · rw [if_pos first, if_pos first]
        · rw [if_neg first, if_neg first, BitVec.getLsbD_setWidth,
            decide_eq_true (show i - 1 < w by omega), Bool.true_and]
      have whole : xorReduce (x ++ BitVec.ofBool flag) =
          (x.getLsbD w ^^ xorReduce (x.setWidth w ++ BitVec.ofBool flag)) := by
        rw [xorReduce, top, rest]
      rw [whole, ih, xorReduce, Bool.xor_assoc]

/-! ## What has happened before a cycle -/

/-- What has happened before a cycle, oldest first, where some things happen in every cycle. -/
def before {β : Type} (events : Nat -> List β) : Nat -> List β
  | 0 => []
  | t + 1 => before events t ++ events t

section

variable {β : Type} {events : Nat -> List β}

@[simp] theorem before_zero : before events 0 = [] := rfl

theorem before_succ (t : Nat) : before events (t + 1) = before events t ++ events t := rfl

/-- What has happened before is not taken back. -/
theorem before_mono {t t' : Nat} (later : t <= t') : before events t <+: before events t' := by
  induction t', later using Nat.le_induction with
  | base => exact List.prefix_rfl
  | succ t' later ih => exact ih.trans (List.prefix_append _ _)

end

end SunburstChip
