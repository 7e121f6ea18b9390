import SunburstChip.Lib.Mmio

namespace SunburstChip

/-!
# Devices that note what is done to them

Something that must not happen is often an access that the device is not in a
state for.  A device can note such accesses without behaving differently.  What
a program does on the noting device it also does on the plain one, and notes
are never taken back.  So a program that meets its postcondition on the plain
device meets it on the noting device, as long as nothing has been noted, and
only where an access must not be noted does the noting device matter.
-/

variable {σ ν : Type}

/-- The device, with what is noted of each access in the state it is made in. -/
def Device.noted (device : Device σ) (note : Access -> σ -> List ν) : Device (σ × List ν) where
  read32 offset s := ((device.read32 offset s.1).1,
    ((device.read32 offset s.1).2, s.2 ++ note (.read32 offset) s.1))
  write32 offset value s :=
    (device.write32 offset value s.1, s.2 ++ note (.write32 offset value) s.1)
  write8 offset value s := (device.write8 offset value s.1, s.2 ++ note (.write8 offset value) s.1)

/-- The environment notes nothing. -/
def Unnoticed (env : σ -> σ -> Prop) (s s' : σ × List ν) : Prop := env s.1 s'.1 ∧ s'.2 = s.2

/-- The assertion holds unless something has been noted. -/
def Unless (assertion : σ -> Prop) (s : σ × List ν) : Prop := s.2 = [] -> assertion s.1

namespace Mmio

variable {α : Type} {device : Device σ} {env : σ -> σ -> Prop} {note : Access -> σ -> List ν}

/-- An execution on the noting device is one on the plain device. -/
theorem Exec.plain {m : Mmio α} {s t : σ × List ν} {a : α}
    (execution : Exec (device.noted note) (Unnoticed env) s m t a) :
    Exec device env s.1 m t.1 a ∧ s.2 <+: t.2 := by
  induction execution with
  | ret s value => exact ⟨.ret _ _, List.prefix_rfl⟩
  | env move rest ih => exact ⟨.env move.1 ih.1, move.2 ▸ ih.2⟩
  | read32 offset next rest ih =>
      exact ⟨.read32 _ _ ih.1, (List.prefix_append _ _).trans ih.2⟩
  | write32 offset value next rest ih =>
      exact ⟨.write32 _ _ _ ih.1, (List.prefix_append _ _).trans ih.2⟩
  | write8 offset value next rest ih =>
      exact ⟨.write8 _ _ _ ih.1, (List.prefix_append _ _).trans ih.2⟩
  | pollDone offset done next passed rest ih =>
      exact ⟨.pollDone _ _ _ passed ih.1, (List.prefix_append _ _).trans ih.2⟩
  | pollAgain offset done next failed rest ih =>
      exact ⟨.pollAgain _ _ _ failed ih.1, (List.prefix_append _ _).trans ih.2⟩

theorem stable_unless {assertion : σ -> Prop} (stable : Stable env assertion) :
    Stable (Unnoticed env) (Unless (ν := ν) assertion) :=
  fun _ _ move holds clear => stable _ _ move.1 (holds (move.2.symm.trans clear))

/-- What a program achieves on the plain device, it achieves on the noting one. -/
theorem Triple.unless {pre : σ -> Prop} {m : Mmio α} {post : α -> σ -> Prop}
    (triple : Triple device env pre m post) :
    Triple (device.noted note) (Unnoticed env) (Unless pre) m (fun a => Unless (post a)) := by
  intro s t a holds execution clear
  rcases execution.plain with ⟨plain, grows⟩
  rw [clear] at grows
  exact triple s.1 t.1 a (holds (List.prefix_nil.mp grows)) plain

/-- A write that is noted where it must not be made. -/
theorem Triple.write32_unless {pre : σ -> Prop} {offset : Nat} {value : BitVec 32} {next : Mmio α}
    {post : α -> σ × List ν -> Prop} (middle : σ -> Prop) (stable : Stable env pre)
    (access : forall s, pre s -> note (.write32 offset value) s = [] ->
      middle (device.write32 offset value s))
    (after : Triple (device.noted note) (Unnoticed env) (Unless middle) next post) :
    Triple (device.noted note) (Unnoticed env) (Unless pre) (.write32 offset value next) post := by
  refine Triple.write32 (Unless middle) (stable_unless stable) ?_ after
  intro s holds clear
  rcases List.append_eq_nil_iff.mp clear with ⟨before, here⟩
  exact access s.1 (holds before) here

end Mmio
end SunburstChip
