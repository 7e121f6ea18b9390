import SunburstChip.Lib.Mmio

namespace SunburstChip

/-!
# Registers that only software changes

Most registers of a device keep what software has written to them.  The others
are the hardware's, which changes them at any moment and in any way.  A device
is put together from the two kinds.  A program that reads none of the second
kind does to the first what it does to them when they are alone; a busy wait on
one of the second kind ends once the hardware lets it.
-/

open Mmio

section

variable {σ ν α β : Type}

/-- The registers of software beside those of the hardware.  A read sees the
register of the hardware where there is one. -/
def Device.beside (own : Device σ) (sees : Nat -> ν -> Option (BitVec 32)) : Device (σ × ν) where
  read32 offset s :=
    match sees offset s.2 with
    | some value => (value, s)
    | none => ((own.read32 offset s.1).1, ((own.read32 offset s.1).2, s.2))
  write32 offset value s := (own.write32 offset value s.1, s.2)
  write8 offset value s := (own.write8 offset value s.1, s.2)

/-- The hardware changes nothing but its own registers. -/
def Beside (s s' : σ × ν) : Prop := s'.1 = s.1

/-- An execution of a program followed by one of the rest. -/
theorem Mmio.Exec.append {device : Device σ} {env : σ -> σ -> Prop} {m : Mmio α} {f : α -> Mmio β}
    {s s' t : σ} {a : α} {b : β} (first : Exec device env s m s' a)
    (rest : Exec device env s' (f a) t b) : Exec device env s (m >>= f) t b := by
  induction first with
  | ret s value => exact rest
  | env move first ih => exact .env move (ih rest)
  | read32 offset next first ih => exact .read32 _ _ (ih rest)
  | write32 offset value next first ih => exact .write32 _ _ _ (ih rest)
  | write8 offset value next first ih => exact .write8 _ _ _ (ih rest)
  | pollDone offset done next passed first ih => exact .pollDone _ _ _ passed (ih rest)
  | pollAgain offset done next failed first ih => exact .pollAgain _ _ _ failed (ih rest)

/-- Whatever the hardware does meanwhile, the program returns `out` and leaves
the registers of software as `after`; and it does return. -/
structure Does (own : Device σ) (sees : Nat -> ν -> Option (BitVec 32)) (before : σ) (m : Mmio α)
    (out : α) (after : σ) : Prop where
  always : Triple (own.beside sees) Beside (fun s => s.1 = before) m
    (fun a s => a = out ∧ s.1 = after)
  returns : forall hardware, Exists fun hardware' =>
    Exec (own.beside sees) Beside (before, hardware) m (after, hardware') out

theorem stable_beside (before : σ) :
    Stable (Beside (ν := ν)) (fun s : σ × ν => s.1 = before) :=
  fun _ _ aside same => aside.trans same

namespace Does

variable {own : Device σ} {sees : Nat -> ν -> Option (BitVec 32)} {before after : σ} {out : α}

theorem ret (before : σ) (value : α) : Does own sees before (.ret value) value before where
  always := Triple.ret (stable_beside before) (fun _ same => ⟨rfl, same⟩)
  returns hardware := ⟨hardware, .ret _ _⟩

theorem ret_of {value : α} (same : before = after) :
    Does own sees before (.ret value) value after :=
  same ▸ ret before value

theorem read32 {offset : Nat} {next : BitVec 32 -> Mmio α}
    (unseen : forall hardware, sees offset hardware = none)
    (rest : Does own sees (own.read32 offset before).2 (next (own.read32 offset before).1)
      out after) :
    Does own sees before (.read32 offset next) out after := by
  have reads (s : σ × ν) : (own.beside sees).read32 offset s =
      ((own.read32 offset s.1).1, ((own.read32 offset s.1).2, s.2)) := by
    simp only [Device.beside, unseen]
  constructor
  · refine Triple.read32 (fun value s => value = (own.read32 offset before).1 ∧
      s.1 = (own.read32 offset before).2) (stable_beside before) ?_ ?_
    · rintro s same
      rw [reads, same]
      exact ⟨rfl, rfl⟩
    · rintro value s t a ⟨rfl, same⟩ execution
      exact rest.always s t a same execution
  · intro hardware
    rcases rest.returns hardware with ⟨hardware', execution⟩
    refine ⟨hardware', .read32 _ _ ?_⟩
    rw [reads]
    exact execution

theorem write32 {offset : Nat} {value : BitVec 32} {next : Mmio α}
    (rest : Does own sees (own.write32 offset value before) next out after) :
    Does own sees before (.write32 offset value next) out after := by
  constructor
  · refine Triple.write32 (fun s => s.1 = own.write32 offset value before) (stable_beside before)
      ?_ rest.always
    rintro s same
    exact congrArg (own.write32 offset value) same
  · intro hardware
    rcases rest.returns hardware with ⟨hardware', execution⟩
    exact ⟨hardware', .write32 _ _ _ execution⟩

/-- A busy wait on a register of the hardware, with the value that ends it. -/
theorem poll32 {offset : Nat} {done : BitVec 32 -> Bool} {next : BitVec 32 -> Mmio α}
    (seen : forall hardware, (sees offset hardware).isSome)
    (ends : Exists fun hardware => Exists fun value =>
      sees offset hardware = some value ∧ done value = true)
    (rest : forall value, done value = true -> Does own sees before (next value) out after) :
    Does own sees before (.poll32 offset done next) out after := by
  have aside (s : σ × ν) : ((own.beside sees).read32 offset s).2 = s := by
    rcases Option.isSome_iff_exists.mp (seen s.2) with ⟨value, sight⟩
    simp only [Device.beside, sight]
  constructor
  · refine Triple.poll32 (fun _ s => s.1 = before) (stable_beside before) ?_ ?_
      (fun value passed => (rest value passed).always)
    · intro s same
      rw [aside]
      exact same
    · intro s same
      rw [aside]
      exact same
  · intro hardware
    rcases ends with ⟨ended, value, sight, passed⟩
    rcases (rest value passed).returns ended with ⟨hardware', execution⟩
    refine ⟨hardware', .env (show Beside (before, hardware) (before, ended) from rfl)
      (.pollDone _ _ _ ?_ ?_)⟩
    · simp only [Device.beside, sight]
      exact passed
    · rw [aside]
      simp only [Device.beside, sight]
      exact execution

theorem bind {m : Mmio α} {f : α -> Mmio β} {middle : σ} {out' : β}
    (first : Does own sees before m out middle) (rest : Does own sees middle (f out) out' after) :
    Does own sees before (m >>= f) out' after := by
  constructor
  · refine Triple.bind first.always ?_
    rintro value s t a ⟨rfl, same⟩ execution
    exact rest.always s t a same execution
  · intro hardware
    rcases first.returns hardware with ⟨hardware', execution⟩
    rcases rest.returns hardware' with ⟨hardware'', execution'⟩
    exact ⟨hardware'', execution.append execution'⟩

/-- There is no other result, and no other state it leaves. -/
theorem unique {m : Mmio α} {out' : α} {after' : σ} [Nonempty ν]
    (does : Does own sees before m out after) (does' : Does own sees before m out' after') :
    out = out' ∧ after = after' := by
  rcases ‹Nonempty ν› with ⟨hardware⟩
  rcases does.returns hardware with ⟨hardware', execution⟩
  exact does'.always _ _ _ rfl execution

/-- Programs that do the same are the same to anyone who looks at what they do. -/
theorem congr {m m' : Mmio α} [Nonempty ν] (does : Does own sees before m out after)
    (does' : Does own sees before m' out after) (out' : α) (after' : σ) :
    Does own sees before m out' after' ↔ Does own sees before m' out' after' := by
  constructor
  · intro other
    rcases does.unique other with ⟨rfl, rfl⟩
    exact does'
  · intro other
    rcases does'.unique other with ⟨rfl, rfl⟩
    exact does

end Does

end

end SunburstChip
