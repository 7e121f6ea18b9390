import SunburstChip.Lib.Routine
import Mathlib.Data.List.GetD

namespace SunburstChip

/-!
# Main memory

A byte at every address, and routines that access it.  Every access is noted
with its address and its size, so that one can say not only what a routine makes
of memory but also what it touched on the way.

The loops here count an offset up or down.  Either way a property of the offset
that each round carries on to the next one is all that is needed, as long as the
distance is a multiple of the step.
-/

/-- A byte at every address. -/
abbrev Memory := Nat -> BitVec 8

namespace Memory

/-- The bytes from an address on. -/
def load (memory : Memory) (address len : Nat) : List (BitVec 8) :=
  (List.range len).map (fun i => memory (address + i))

/-- Bytes put where an address is and behind it. -/
def store (memory : Memory) (address : Nat) (bytes : List (BitVec 8)) : Memory :=
  fun other =>
    if address <= other then bytes.getD (other - address) (memory other) else memory other

/-- An address outside of a number of bytes from an address on. -/
def Outside (address len other : Nat) : Prop := other < address ∨ address + len <= other

/-- Two places of the same size have no byte in common. -/
def Apart (left right len : Nat) : Prop := left + len <= right ∨ right + len <= left

variable (memory : Memory)

@[simp] theorem load_length (address len : Nat) : (memory.load address len).length = len := by
  simp [load]

@[simp] theorem load_zero (address : Nat) : memory.load address 0 = [] := rfl

@[simp] theorem load_one (address : Nat) : memory.load address 1 = [memory address] := rfl

theorem load_four (address : Nat) : memory.load address 4 =
    [memory address, memory (address + 1), memory (address + 2), memory (address + 3)] := rfl

theorem load_add (address len more : Nat) :
    memory.load address (len + more) = memory.load address len ++
      memory.load (address + len) more := by
  unfold load
  rw [List.range_add, List.map_append, List.map_map]
  apply congrArg
  apply List.map_congr_left
  intro i _
  change memory (address + (len + i)) = memory (address + len + i)
  rw [Nat.add_assoc]

@[simp] theorem store_nil (address : Nat) : memory.store address [] = memory := by
  funext other
  simp [store]

theorem store_outside {address other : Nat} {bytes : List (BitVec 8)}
    (outside : Outside address bytes.length other) :
    memory.store address bytes other = memory other := by
  unfold store
  split
  · next above =>
      rw [List.getD_eq_default]
      rcases outside with below | behind
      · omega
      · omega
  · rfl

theorem store_append (address : Nat) (bytes more : List (BitVec 8)) :
    (memory.store address bytes).store (address + bytes.length) more =
      memory.store address (bytes ++ more) := by
  funext other
  by_cases behind : address + bytes.length <= other
  · have above : address <= other := by omega
    have index : other - address - bytes.length = other - (address + bytes.length) := by omega
    have kept : memory.store address bytes other = memory other :=
      memory.store_outside (Or.inr behind)
    rw [store, if_pos behind, kept, store, if_pos above, List.getD_append_right, index]
    omega
  · rw [store, if_neg behind, store, store]
    split
    · rw [List.getD_append]
      omega
    · rfl

/-- Bytes that have been stored are loaded again. -/
theorem load_store_self (address : Nat) (bytes more : List (BitVec 8)) :
    (memory.store address (bytes ++ more)).load address bytes.length = bytes := by
  apply List.ext_getElem (load_length _ _ _)
  intro i _ inside
  simp [load, store, List.getElem?_append_left inside, inside]

/-- A copy of what is in another memory, one part after the other. -/
theorem store_load_add (other : Memory) (address source len more : Nat) :
    (memory.store address (other.load source len)).store (address + len)
        (other.load (source + len) more) =
      memory.store address (other.load source (len + more)) := by
  have position : address + len = address + (other.load source len).length := by
    rw [load_length]
  rw [position, store_append, load_add]

/-- What is loaded from elsewhere is not affected by a store. -/
theorem load_store {address other len : Nat} {bytes : List (BitVec 8)}
    (apart : other + len <= address ∨ address + bytes.length <= other) :
    (memory.store address bytes).load other len = memory.load other len := by
  unfold load
  apply List.map_congr_left
  intro i inside
  have small := List.mem_range.mp inside
  apply store_outside
  rcases apart with below | behind
  · exact Or.inl (by omega)
  · exact Or.inr (by omega)

end Memory

/-! ## Accesses -/

/-- An access to a number of bytes from an address on. -/
inductive MemoryAccess where
  | load (address size : Nat)
  | store (address size : Nat)
deriving DecidableEq

/-- Memory, and the accesses that have been made to it. -/
structure MainMemory where
  memory : Memory
  accesses : List MemoryAccess

namespace Routine

variable {σ ρ α β : Type}

/-- Load bytes. -/
def fetch (address size : Nat) : Routine MainMemory ρ (List (BitVec 8)) := fun s =>
  (.ok (s.memory.load address size), ⟨s.memory, s.accesses ++ [.load address size]⟩)

/-- Store bytes. -/
def deposit (address : Nat) (bytes : List (BitVec 8)) : Routine MainMemory ρ Unit := fun s =>
  (.ok (), ⟨s.memory.store address bytes, s.accesses ++ [.store address bytes.length]⟩)

/-- What a routine ends with, where ending early is returning from the function it
belongs to. -/
def returned : Except ρ ρ -> ρ
  | .ok value => value
  | .error value => value

/-! ## Counting loops -/

/-- `for (; i < stop; i += step)`, with the offset at its end.  There are `fuel`
rounds at most. -/
def countUp (step stop : Nat) (body : Nat -> Routine σ ρ Unit) :
    Nat -> Nat -> Routine σ ρ Nat
  | 0, i => pure i
  | fuel + 1, i =>
      if i < stop then body i >>= fun _ => countUp step stop body fuel (i + step) else pure i

/-- `for (; end > stop; end -= step)`, with the offset at its end. -/
def countDown (step stop : Nat) (body : Nat -> Routine σ ρ Unit) :
    Nat -> Nat -> Routine σ ρ Nat
  | 0, i => pure i
  | fuel + 1, i =>
      if stop < i then body i >>= fun _ => countDown step stop body fuel (i - step) else pure i

/-- A routine goes on in one way, or ends early in another one. -/
def Ends (goes : α -> σ -> Prop) (early : ρ -> σ -> Prop) : Except ρ α -> σ -> Prop
  | .ok value, s => goes value s
  | .error reason, s => early reason s

theorem Triple.next {first : Routine σ ρ α} {then' : α -> Routine σ ρ β} {pre : σ -> Prop}
    {goes : β -> σ -> Prop} {early : ρ -> σ -> Prop} (middle : α -> σ -> Prop)
    (here : Triple pre first (Ends middle early))
    (after : forall value, Triple (middle value) (then' value) (Ends goes early)) :
    Triple pre (first >>= then') (Ends goes early) := by
  intro s holds
  have outcome := here s holds
  rw [bind_apply]
  generalize first s = ended at outcome ⊢
  rcases ended with ⟨reason | value, s'⟩
  · exact outcome
  · exact after value s' outcome

theorem Triple.ite {condition : Prop} [Decidable condition] {m m' : Routine σ ρ α}
    {pre : σ -> Prop} {post : Except ρ α -> σ -> Prop} (pos : condition -> Triple pre m post)
    (neg : ¬ condition -> Triple pre m' post) :
    Triple pre (if condition then m else m') post := by
  split
  · next holds => exact pos holds
  · next fails => exact neg fails

section

variable {inv : Nat -> σ -> Prop} {early : ρ -> σ -> Prop} {body : Nat -> Routine σ ρ Unit}
variable {step start stop : Nat}

/-- An offset that is counted up arrives where the loop stops. -/
theorem Triple.countUp (positive : 0 < step) (whole : (stop - start) % step = 0)
    (round : forall i, start <= i -> i + step <= stop -> (i - start) % step = 0 ->
      Triple (inv i) (body i) (Ends (fun _ => inv (i + step)) early))
    {fuel : Nat} (before : start <= stop) (enough : stop - start <= fuel) :
    Triple (inv start) (Routine.countUp step stop body fuel start)
      (Ends (fun i s => i = stop ∧ inv stop s) early) := by
  induction fuel generalizing start with
  | zero =>
      have arrived : start = stop := by omega
      subst arrived
      exact fun s holds => ⟨rfl, holds⟩
  | succ fuel ih =>
      unfold Routine.countUp
      split
      · next begun =>
          have fits : step <= stop - start :=
            Nat.le_of_dvd (by omega) (Nat.dvd_of_mod_eq_zero whole)
          have rest : (stop - (start + step)) % step = 0 := by
            rw [Nat.sub_add_eq, <- Nat.mod_eq_sub_mod fits]
            exact whole
          have further := @ih (start + step) rest (fun i behind inside steps => by
            apply round i (by omega) inside
            rw [Nat.sub_add_eq] at steps
            rw [Nat.mod_eq_sub_mod (by omega)]
            exact steps) (by omega) (by omega)
          exact (round start (Nat.le_refl _) (by omega) (by simp)).next _ (fun _ => further)
      · have arrived : start = stop := by omega
        subst arrived
        exact fun s holds => ⟨rfl, holds⟩

/-- So does one that is counted down. -/
theorem Triple.countDown (positive : 0 < step) (whole : (start - stop) % step = 0)
    (round : forall i, stop + step <= i -> i <= start -> (i - stop) % step = 0 ->
      Triple (inv i) (body i) (Ends (fun _ => inv (i - step)) early))
    {fuel : Nat} (before : stop <= start) (enough : start - stop <= fuel) :
    Triple (inv start) (Routine.countDown step stop body fuel start)
      (Ends (fun i s => i = stop ∧ inv stop s) early) := by
  induction fuel generalizing start with
  | zero =>
      have arrived : start = stop := by omega
      subst arrived
      exact fun s holds => ⟨rfl, holds⟩
  | succ fuel ih =>
      unfold Routine.countDown
      split
      · next begun =>
          have fits : step <= start - stop :=
            Nat.le_of_dvd (by omega) (Nat.dvd_of_mod_eq_zero whole)
          have rest : (start - step - stop) % step = 0 := by
            rw [Nat.sub_right_comm, <- Nat.mod_eq_sub_mod fits]
            exact whole
          have further := @ih (start - step) rest
            (fun i inside behind steps => round i inside (by omega) steps) (by omega) (by omega)
          exact (round start (by omega) (Nat.le_refl _) whole).next _ (fun _ => further)
      · have arrived : start = stop := by omega
        subst arrived
        exact fun s holds => ⟨rfl, holds⟩

end

end Routine
end SunburstChip
