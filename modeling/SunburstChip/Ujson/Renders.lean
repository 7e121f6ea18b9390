import SunburstChip.Ujson.RunningCrc

namespace SunburstChip
namespace Ujson

open Routine

/-!
# Writers that put a text

What a writer puts where the sink takes everything.  It does not depend on the
context, so that running a writer once, on an empty one, says what it will put
on any other.  A writer may also be unable to write a value: a string that has
no end cannot be written.
-/

/-- The sink takes everything. -/
def Accepting (uj : Ujson) : Prop := uj.ioContext.refusals = []

/-- The context after pieces of text have been put. -/
def wrote (uj : Ujson) (pieces : List (List (BitVec 8))) : Ujson where
  ioContext := { uj.ioContext with traffic := uj.ioContext.traffic ++ pieces.map .put }
  buffer := uj.buffer
  crc32 := pieces.flatten.foldl crc32Add8 uj.crc32

theorem Accepting.wrote {uj : Ujson} (accepting : Accepting uj) (pieces : List (List (BitVec 8))) :
    Accepting (wrote uj pieces) := accepting

@[simp] theorem wrote_nil (uj : Ujson) : wrote uj [] = uj := by
  unfold wrote
  rw [List.map_nil, List.append_nil]
  rfl

@[simp] theorem wrote_wrote (uj : Ujson) (pieces pieces' : List (List (BitVec 8))) :
    wrote (wrote uj pieces) pieces' = wrote uj (pieces ++ pieces') := by
  unfold wrote
  rw [List.map_append, List.flatten_append, List.foldl_append, List.append_assoc]

theorem putbuf_accepting {uj : Ujson} (accepting : Accepting uj) (buf : List (BitVec 8)) :
    ujsonPutbuf buf uj = (.ok (), wrote uj [buf]) := by
  rcases uj with ⟨⟨incoming, ended, refusals, traffic⟩, buffer, crc⟩
  have takes : refusals = [] := accepting
  subst takes
  rw [wrote, List.flatten_singleton]
  dsimp only
  rw [<- crc32Add_eq_foldl crc 0]
  rfl

/-- What a writer puts, if it can write. -/
def written (m : Uj Unit) : Option (List (BitVec 8)) :=
  match m ⟨⟨[], createError .kOutOfRange 0#32 ujsonC 0 AbslStatus.kOutOfRange_ne positioned_zero, [],
    []⟩, none, crc32Init⟩ with
  | (.ok _, uj) => some (puts uj.ioContext.traffic).flatten
  | (.error _, _) => none

section

variable {α β : Type}

/-- The writer puts a text and returns a value, if what it has to write is
`writable`; otherwise it fails. -/
def Renders (m : Uj α) (writable : Prop) (text : List (BitVec 8)) (value : α) : Prop :=
  forall uj, Accepting uj ->
    (writable ∧ Exists fun pieces => pieces.flatten = text ∧ m uj = (.ok value, wrote uj pieces)) ∨
    (¬ writable ∧ Exists fun stop => Exists fun uj' => m uj = (.error stop, uj'))

section

variable {writable writable' : Prop} {text text' : List (BitVec 8)} {value : α} {result : β}

variable {m : Uj α} {next : α -> Uj β}

theorem Renders.congr (renders : Renders m writable text value) (same : writable ↔ writable')
    (sameText : writable -> text = text') :
    Renders m writable' text' value := by
  intro uj accepting
  rcases renders uj accepting with ⟨holds, pieces, flat, done⟩ | ⟨fails, ended⟩
  · exact Or.inl ⟨same.mp holds, pieces, flat.trans (sameText holds), done⟩
  · exact Or.inr ⟨fun holds => fails (same.mpr holds), ended⟩

theorem renders_pure (value : α) : Renders (pure value) True [] value :=
  fun uj _ => Or.inl ⟨trivial, [], rfl, by rw [pure_apply, wrote_nil]⟩

theorem renders_raise (stop : Stop) : Renders (raise stop) False text value :=
  fun uj _ => Or.inr ⟨id, stop, uj, rfl⟩

theorem renders_putbuf (buf : List (BitVec 8)) : Renders (ujsonPutbuf buf) True buf () :=
  fun _ accepting =>
    Or.inl ⟨trivial, [buf], List.flatten_singleton, putbuf_accepting accepting buf⟩

theorem Renders.bind (first : Renders m writable text value)
    (second : Renders (next value) writable' text' result) :
    Renders (m >>= next) (writable ∧ writable') (text ++ text') result := by
  intro uj accepting
  rcases first uj accepting with ⟨holds, pieces, flat, done⟩ | ⟨fails, stop, uj', failed⟩
  · rcases second (wrote uj pieces) (accepting.wrote pieces)
      with ⟨holds', pieces', flat', done'⟩ | ⟨fails', stop, uj', failed'⟩
    · refine Or.inl ⟨⟨holds, holds'⟩, pieces ++ pieces', ?_, ?_⟩
      · rw [List.flatten_append, flat, flat']
      · rw [bind_ok done, done', wrote_wrote]
    · refine Or.inr ⟨fun both => fails' both.2, stop, uj', ?_⟩
      rw [bind_ok done, failed']
  · exact Or.inr ⟨fun both => fails both.1, stop, uj', bind_error failed next⟩

/-- A sequence whose first writer can always write. -/
theorem Renders.before (first : Renders m True text value)
    (second : Renders (next value) writable text' result) :
    Renders (m >>= next) writable (text ++ text') result :=
  (first.bind second).congr ⟨And.right, And.intro trivial⟩ (fun _ => rfl)

/-- A sequence whose second writer can always write. -/
theorem Renders.behind (first : Renders m writable text value)
    (second : Renders (next value) True text' result) :
    Renders (m >>= next) writable (text ++ text') result :=
  (first.bind second).congr ⟨And.left, fun holds => ⟨holds, trivial⟩⟩ (fun _ => rfl)

theorem Renders.map (renders : Renders m writable text value) (returns : next value = pure result) :
    Renders (m >>= next) writable text result := by
  intro uj accepting
  rcases renders uj accepting with ⟨holds, pieces, flat, done⟩ | ⟨fails, stop, uj', failed⟩
  · refine Or.inl ⟨holds, pieces, flat, ?_⟩
    rw [bind_ok done, returns]
    rfl
  · exact Or.inr ⟨fails, stop, uj', bind_error failed next⟩

theorem puts_map_put (pieces : List (List (BitVec 8))) : puts (pieces.map .put) = pieces := by
  unfold puts
  rw [List.flatMap_map]
  exact List.flatMap_singleton' pieces

theorem Renders.written {m : Uj Unit} (renders : Renders m writable text ()) :
    written m = some text' ↔ writable ∧ text = text' := by
  unfold Ujson.written
  rcases renders ⟨⟨[], createError .kOutOfRange 0#32 ujsonC 0 (by decide) positioned_zero, [], []⟩,
    none, crc32Init⟩ rfl with ⟨holds, pieces, flat, done⟩ | ⟨fails, stop, uj', failed⟩
  · rw [done]
    dsimp only
    rw [Option.some.injEq, wrote]
    dsimp only
    rw [List.nil_append, puts_map_put, flat]
    exact (and_iff_right holds).symm
  · rw [failed]
    exact ⟨fun none => (nomatch none), fun both => absurd both.1 fails⟩

end

end

end Ujson
end SunburstChip
