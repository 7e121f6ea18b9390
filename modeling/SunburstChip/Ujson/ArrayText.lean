import SunburstChip.Ujson.Json
import SunburstChip.Ujson.Keeps
import SunburstChip.Ujson.SameInput
import Mathlib.Logic.Relation

namespace SunburstChip
namespace Ujson

open Routine

/-!
# The language of arrays

The code reads an array item by item: what has been stored of it, and what is
left of the input, make a stage, and each element leads to the next one.  What it
takes for an element is left to the deserialiser of elements, and all that is said
about it is said of the input, wherever it is read.

The loop over the elements leaves some more room than JSON does.  Where all
elements have been stored, it skips any further commas, and what it takes for
white space is not quite what JSON has.  So do the deserialisers of elements.
-/

/-- What there is to be read. -/
abbrev Input : Type := List (Except Error (BitVec 8))

/-- There is what the code takes for white space in front of the rest. -/
def Past (input rest : Input) : Prop :=
  Exists fun gap => Blank gap ∧ input = chars gap ++ rest

/-- There is a character behind white space. -/
def Token (ch : BitVec 8) (input rest : Input) : Prop := Past input (.ok ch :: rest)

/-- Something begins that is no closing bracket. -/
def Opening (input : Input) : Prop :=
  Exists fun ch => input.head? = some (.ok ch) ∧ isSpace ch = false ∧ ch ≠ closeBracket

section

variable {τ : Type}

/-- The deserialiser takes an element from the front of the input. -/
def Element (expr : UjOn τ Unit) (ended : Error) (input : Input) (before after : τ)
    (rest : Input) : Prop :=
  Exists fun uj => Exists fun uj' =>
    pending uj = input ∧ uj.ioContext.ended = ended ∧
      expr (uj, some before) = (.ok (), uj', some after) ∧ pending uj' = rest

/-- The deserialiser leaves the object it is for, or never returns. -/
def Overruns (expr : UjOn τ Unit) (ended : Error) (input : Input) (before : τ) : Prop :=
  Exists fun uj => Exists fun stop =>
    pending uj = input ∧ uj.ioContext.ended = ended ∧
      (expr (uj, some before)).1 = .error stop ∧ forall error, stop ≠ .status error

/-- How far an array has been read. -/
structure Stage (τ : Type) (size : Nat) where
  stored : Nat
  input : Input
  array : Fin size -> τ

variable {size : Nat}

/-- An element is read and stored, or a comma that is of no use is skipped. -/
inductive Item (expr : UjOn τ Unit) (ended : Error) : Stage τ size -> Stage τ size -> Prop where
  | first {input front rest : Input} {array : Fin size -> τ} {value : τ} (room : 0 < size)
      (past : Past input front) (opening : Opening front)
      (element : Element expr ended front (array ⟨0, room⟩) value rest) :
      Item expr ended ⟨0, input, array⟩
        ⟨1, rest, Function.update array ⟨0, room⟩ value⟩
  | next {i : Nat} {input front rest : Input} {array : Fin size -> τ} {value : τ}
      (later : 0 < i) (room : i < size) (separated : Token comma input front)
      (element : Element expr ended front (array ⟨i, room⟩) value rest) :
      Item expr ended ⟨i, input, array⟩
        ⟨i + 1, rest, Function.update array ⟨i, room⟩ value⟩
  | comma {i : Nat} {input rest : Input} {array : Fin size -> τ} (later : 0 < i) (full : i = size)
      (separated : Token comma input rest) :
      Item expr ended ⟨i, input, array⟩ ⟨i, rest, array⟩

/-- The code takes an array from the front of the input. -/
def ArrayText (expr : UjOn τ Unit) (ended : Error) (input : Input) (array array' : Fin size -> τ)
    (rest : Input) : Prop :=
  Exists fun front => Exists fun i => Exists fun last =>
    Token openBracket input front ∧
      Relation.ReflTransGen (Item expr ended) ⟨0, front, array⟩ ⟨i, last, array'⟩ ∧
      Token closeBracket last rest

/-- There is an array of JSON in front of the rest, behind white space. -/
def JsonText (json : τ -> τ -> List (BitVec 8) -> Prop) (input : Input) (array array' : Fin size -> τ)
    (rest : Input) : Prop :=
  Exists fun space => Exists fun text => JsonSpace space ∧
    JsonArray (JsonElement json) [size] 0 array array' text ∧ input = chars (space ++ text) ++ rest

/-- What JSON has behind an element of an array. -/
def Follows (input : Input) : Prop :=
  Exists fun gap => Exists fun ch => Exists fun rest =>
    JsonSpace gap ∧ (ch = comma ∨ ch = closeBracket) ∧ input = chars gap ++ .ok ch :: rest

/-- An element of JSON is in front, behind white space. -/
def JsonNext (json : τ -> τ -> List (BitVec 8) -> Prop) (input : Input) (before after : τ)
    (rest : Input) : Prop :=
  Exists fun gap => Exists fun text =>
    JsonSpace gap ∧ json before after text ∧ input = chars (gap ++ text) ++ rest ∧ Follows rest

/-- The step from one element of an array of JSON to the next. -/
inductive JsonItem (json : τ -> τ -> List (BitVec 8) -> Prop) : Stage τ size -> Stage τ size -> Prop where
  | first {input rest : Input} {array : Fin size -> τ} {value : τ} (room : 0 < size)
      (element : JsonNext json input (array ⟨0, room⟩) value rest) :
      JsonItem json ⟨0, input, array⟩ ⟨1, rest, Function.update array ⟨0, room⟩ value⟩
  | next {i : Nat} {gap : List (BitVec 8)} {front rest : Input} {array : Fin size -> τ} {value : τ}
      (later : 0 < i) (room : i < size) (spaced : JsonSpace gap)
      (element : JsonNext json front (array ⟨i, room⟩) value rest) :
      JsonItem json ⟨i, chars gap ++ .ok comma :: front, array⟩
        ⟨i + 1, rest, Function.update array ⟨i, room⟩ value⟩

/-- A character is behind white space that JSON does not have. -/
def Odd (ch : BitVec 8) (input : Input) : Prop :=
  Exists fun gap => Exists fun rest =>
    Blank gap ∧ ¬JsonSpace gap ∧ input = chars gap ++ .ok ch :: rest

/-- Reading comes by white space that JSON does not have, or by a step that JSON does not
have: a surplus comma, or an element whose text is none of JSON. -/
def Slips (expr : UjOn τ Unit) (json : τ -> τ -> List (BitVec 8) -> Prop) (ended : Error)
    (input : Input) (array : Fin size -> τ) : Prop :=
  Odd openBracket input ∨ Exists fun front => Token openBracket input front ∧
    (Odd closeBracket front ∨ Exists fun stage => Exists fun stage' =>
      Relation.ReflTransGen (Item expr ended) ⟨0, front, array⟩ stage ∧
        Item expr ended stage stage' ∧ ¬JsonItem json stage stage')

/-- Reading comes to an element of JSON that its deserialiser does not take for that. -/
def Skips (expr : UjOn τ Unit) (json : τ -> τ -> List (BitVec 8) -> Prop) (ended : Error)
    (input : Input) (array : Fin size -> τ) : Prop :=
  Exists fun front => Exists fun stage => Exists fun stage' => Token openBracket input front ∧
    Relation.ReflTransGen (Item expr ended) ⟨0, front, array⟩ stage ∧
      JsonItem json stage stage' ∧ ¬Item expr ended stage stage'

/-- The next element leads out of its object, or nowhere, or there is no room for any. -/
inductive Stuck (expr : UjOn τ Unit) (ended : Error) : Stage τ size -> Prop where
  | none {input front : Input} {array : Fin size -> τ} (empty : size = 0)
      (past : Past input front) (opening : Opening front) :
      Stuck expr ended ⟨0, input, array⟩
  | first {input front : Input} {array : Fin size -> τ} (room : 0 < size)
      (past : Past input front) (opening : Opening front)
      (overruns : Overruns expr ended front (array ⟨0, room⟩)) : Stuck expr ended ⟨0, input, array⟩
  | next {i : Nat} {input front : Input} {array : Fin size -> τ} (later : 0 < i) (room : i < size)
      (separated : Token comma input front)
      (overruns : Overruns expr ended front (array ⟨i, room⟩)) : Stuck expr ended ⟨i, input, array⟩

end

/-! ## White space -/

/-- What a result of the source is for `consume_whitespace`. -/
def isLight : Except Error (BitVec 8) -> Bool
  | .ok ch => isSpace ch
  | .error _ => false

/-- The input without the white space in front. -/
def skipSpace (input : Input) : Input := input.dropWhile isLight

theorem skipSpace_dark {input rest : Input} {ch : BitVec 8}
    (skipped : skipSpace input = .ok ch :: rest) : isSpace ch = false := by
  have stops := List.head?_dropWhile_not isLight input
  unfold skipSpace at skipped
  rw [skipped] at stops
  exact stops

theorem Past.skipSpace_eq {input behind : Input} {ch : BitVec 8}
    (past : Past input (.ok ch :: behind)) (dark : isSpace ch = false) :
    skipSpace input = .ok ch :: behind := by
  rcases past with ⟨gap, blank, rfl⟩
  have light : forall result, result ∈ chars gap -> isLight result = true := by
    intro result inside
    rcases List.mem_map.mp inside with ⟨first, among, rfl⟩
    exact blank first among
  unfold skipSpace
  rw [List.dropWhile_append_of_pos light, List.dropWhile_cons_of_neg]
  exact fun light => Bool.noConfusion (dark.symm.trans light)

theorem Past.skipSpace_opening {input rest : Input} (past : Past input rest)
    (opening : Opening rest) : skipSpace input = rest := by
  rcases opening with ⟨ch, begins, dark, -⟩
  cases rest with
  | nil => cases begins
  | cons result rest =>
      cases begins
      exact past.skipSpace_eq dark

theorem Opening.skipSpace_eq {input : Input} (opening : Opening input) :
    skipSpace input = input :=
  Past.skipSpace_opening ⟨[], blank_nil, rfl⟩ opening

/-- What skipping white space comes to, by what is behind it. -/
theorem rounds_consumeWhitespace_spec {fuel : Nat} {uj : Ujson} (enough : uj.remaining < fuel) :
    match skipSpace (pending uj) with
    | .ok ch :: rest => Exists fun uj' =>
        rounds .endless consumeWhitespaceRound fuel () uj = (.ok ch, uj') ∧ pending uj' = rest ∧
          uj'.ioContext.ended = uj.ioContext.ended ∧ uj'.buffer = none
    | _ => Exists fun error =>
        (rounds .endless consumeWhitespaceRound fuel () uj).1 = .error (.status error) := by
  induction fuel generalizing uj with
  | zero => cases enough
  | succ fuel ih =>
      have spec := getc_pending uj
      rw [rounds_succ]
      unfold consumeWhitespaceRound
      rw [remaining_eq] at enough
      cases left : pending uj with
      | nil =>
          rw [left] at spec
          rw [bind_error spec]
          exact ⟨_, rfl⟩
      | cons result rest =>
          rw [left] at spec enough
          cases result with
          | error error =>
              rcases spec with ⟨t, done, -⟩
              rw [bind_error done]
              exact ⟨_, rfl⟩
          | ok ch =>
              rcases spec with ⟨t, done, after, ended, empty⟩
              rw [bind_ok done]
              cases light : isSpace ch with
              | false =>
                  have skipped : skipSpace (.ok ch :: rest) = .ok ch :: rest :=
                    List.dropWhile_cons_of_neg (by
                      exact fun lit => Bool.noConfusion (light.symm.trans lit))
                  rw [skipped]
                  exact ⟨t, rfl, after, ended, empty⟩
              | true =>
                  have skipped : skipSpace (.ok ch :: rest) = skipSpace rest :=
                    List.dropWhile_cons_of_pos light
                  have smaller : t.remaining < fuel := by
                    rw [remaining_eq, after]
                    exact Nat.lt_of_succ_lt_succ enough
                  rw [skipped]
                  have others := ih smaller
                  rw [after, ended] at others
                  exact others

theorem consumeWhitespace_spec (uj : Ujson) :
    (Exists fun got => Exists fun uj' => consumeWhitespace uj = (.ok got, uj') ∧
      skipSpace (pending uj) = .ok got :: pending uj' ∧
      uj'.ioContext.ended = uj.ioContext.ended ∧ uj'.buffer = none) ∨
    ((Exists fun error => (consumeWhitespace uj).1 = .error (.status error)) ∧
      forall got rest, skipSpace (pending uj) ≠ .ok got :: rest) := by
  have spec := @rounds_consumeWhitespace_spec _ uj (Nat.lt_succ_self _)
  cases skipped : skipSpace (pending uj) with
  | nil =>
      rw [skipped] at spec
      exact Or.inr ⟨spec, nofun⟩
  | cons result rest =>
      rw [skipped] at spec
      cases result with
      | error reason => exact Or.inr ⟨spec, nofun⟩
      | ok got =>
          rcases spec with ⟨t, done, rfl, ended, empty⟩
          exact Or.inl ⟨got, t, done, rfl, ended, empty⟩

/-- A character that is consumed, and what is left then. -/
theorem consume_spec (ch : BitVec 8) (uj : Ujson) :
    (Exists fun uj' => ujsonConsume ch uj = (.ok (), uj') ∧
      skipSpace (pending uj) = .ok ch :: pending uj' ∧
      uj'.ioContext.ended = uj.ioContext.ended) ∨
    ((Exists fun error => (ujsonConsume ch uj).1 = .error (.status error)) ∧
      forall rest, skipSpace (pending uj) ≠ .ok ch :: rest) := by
  unfold ujsonConsume
  rcases consumeWhitespace_spec uj with
    ⟨got, t, done, skipped, ended, -⟩ | ⟨⟨error, failed⟩, nothing⟩
  · rw [bind_ok done, skipped]
    by_cases other : ch ≠ got
    · rw [if_pos other]
      refine Or.inr ⟨⟨_, rfl⟩, fun rest same => other ?_⟩
      exact (Except.ok.inj (List.cons.inj same).1).symm
    · rw [if_neg other, not_not.mp other]
      exact Or.inl ⟨t, rfl, rfl, ended⟩
  · rw [bind_error (Prod.ext failed rfl)]
    exact Or.inr ⟨⟨error, rfl⟩, nothing ch⟩

/-- The same for a character that need not be there. -/
theorem consumeMaybe_spec (ch : BitVec 8) (uj : Ujson) :
    (Exists fun uj' => ujsonConsumeMaybe ch uj = (.ok true, uj') ∧
      skipSpace (pending uj) = .ok ch :: pending uj' ∧
      uj'.ioContext.ended = uj.ioContext.ended) ∨
    (Exists fun uj' => ujsonConsumeMaybe ch uj = (.ok false, uj') ∧
      skipSpace (pending uj) = pending uj' ∧ uj'.ioContext.ended = uj.ioContext.ended ∧
      Exists fun got => (pending uj').head? = some (.ok got) ∧ isSpace got = false ∧ got ≠ ch) ∨
    ((Exists fun error => (ujsonConsumeMaybe ch uj).1 = .error (.status error)) ∧
      forall got rest, skipSpace (pending uj) ≠ .ok got :: rest) := by
  unfold ujsonConsumeMaybe
  rcases consumeWhitespace_spec uj with
    ⟨got, t, done, skipped, ended, empty⟩ | ⟨⟨error, failed⟩, nothing⟩
  · rw [bind_ok done, skipped]
    by_cases other : ch ≠ got
    · have back := ungetc_eq empty got
      rw [if_pos other, attempt_bind_apply, back.1]
      refine Or.inr (Or.inl ⟨_, rfl, back.2.symm, ended, got, ?_, skipSpace_dark skipped, ?_⟩)
      · rw [back.2]
        rfl
      · exact fun same => other same.symm
    · rw [if_neg other, not_not.mp other]
      exact Or.inl ⟨t, rfl, rfl, ended⟩
  · rw [bind_error (Prod.ext failed rfl)]
    exact Or.inr (Or.inr ⟨⟨error, rfl⟩, nothing⟩)

/-! ## Elements -/

/-- A deserialiser sees nothing but its input, of which it takes something. -/
structure Deserialises {τ : Type} (expr : UjOn τ Unit) : Prop where
  parses : ParsesOn 1 expr
  keeps : forall ended, Keeps (OnUjson (fun uj => uj.ioContext.ended = ended)) expr

section

variable {τ : Type} {size : Nat} {expr : UjOn τ Unit}
variable {uj : Ujson} {rest front input : Input} {i fuel : Nat} {array array' : Fin size -> τ}
  {stage stage' : Stage τ size} {ended : Error}

theorem ParsesOn.held {α : Type} {k : Nat} {m : UjOn τ α} (parses : ParsesOn k m) {before : τ}
    {value : α} {s : Ujson × Option τ} (done : m (uj, some before) = (.ok value, s)) :
    s.2.isSome = true := by
  have outcome := parses uj.remaining true 0 (uj, some before) (uj, some before)
    ⟨⟨⟨rfl, rfl⟩, Nat.le_refl _⟩, rfl, rfl⟩
  rw [done] at outcome
  exact outcome.2.held

/-- On the same input it ends in the same way. -/
theorem Deserialises.together (deserialises : Deserialises expr) {uj' : Ujson}
    (same : pending uj = pending uj') (ended : uj.ioContext.ended = uj'.ioContext.ended)
    (before : τ) :
    Paired (fun _ s _ s' => LevelOn uj.remaining true 1 s s') (fun _ s s' => Alike s.1 s'.1)
      (expr (uj, some before)) (expr (uj', some before)) := by
  apply (deserialises.parses uj.remaining true 0).imp _ _ (uj, some before) (uj', some before)
    ⟨⟨⟨same, ended⟩, Nat.le_refl _⟩, rfl, rfl⟩
  · exact fun _ _ _ _ level => level.2
  · exact fun _ _ _ alike => alike

theorem Deserialises.ok (deserialises : Deserialises expr) {before : τ} {s : Ujson × Option τ}
    (done : expr (uj, some before) = (.ok (), s)) :
    Exists fun after => s = (s.1, some after) ∧ s.1.remaining < uj.remaining ∧
      s.1.ioContext.ended = uj.ioContext.ended ∧
      Element expr uj.ioContext.ended (pending uj) before after (pending s.1) := by
  have outcome := deserialises.together (Eq.refl (pending uj)) rfl before
  have kept : (expr (uj, some before)).2.1.ioContext.ended = uj.ioContext.ended :=
    deserialises.keeps _ (uj, some before) rfl
  rw [done] at outcome kept
  rcases s with ⟨uj', object⟩
  cases object with
  | none => cases outcome.held
  | some after => exact ⟨after, rfl, outcome.bound, kept, uj, uj', rfl, rfl, done, rfl⟩

theorem Element.here (deserialises : Deserialises expr) {before after : τ}
    (element : Element expr uj.ioContext.ended (pending uj) before after rest) :
    Exists fun uj' => expr (uj, some before) = (.ok (), uj', some after) ∧ pending uj' = rest := by
  rcases element with ⟨there, there', same, ended, done, left⟩
  have outcome := deserialises.together same ended before
  rw [done] at outcome
  generalize expr (uj, some before) = here at outcome ⊢
  rcases here with ⟨reason | value, uj', object⟩
  · exact outcome.elim
  · have pendings : pending there' = pending uj' := outcome.pending
    have objects : some after = object := outcome.object
    exact ⟨uj', Prod.ext rfl (Prod.ext rfl objects.symm), pendings.symm.trans left⟩

theorem Overruns.here (deserialises : Deserialises expr) {before : τ}
    (overruns : Overruns expr uj.ioContext.ended (pending uj) before) :
    Exists fun stop => (expr (uj, some before)).1 = .error stop ∧
      forall error, stop ≠ .status error := by
  rcases overruns with ⟨there, stop, same, ended, failed, unheard⟩
  have outcome := deserialises.together same ended before
  generalize expr (there, some before) = ends at outcome failed
  generalize expr (uj, some before) = here at outcome ⊢
  rcases ends with ⟨reason | value, s⟩
  · rcases here with ⟨reason' | value', s'⟩
    · cases failed
      exact ⟨stop, congrArg Except.error outcome.1.symm, unheard⟩
    · exact outcome.elim
  · cases failed

theorem onElement_apply {α : Type} (room : i < size) (m : UjOn τ α) (uj : Ujson)
    (array : Fin size -> τ) :
    onElement i m (uj, some array) =
      ((m (uj, some (array ⟨i, room⟩))).1, (m (uj, some (array ⟨i, room⟩))).2.1,
        some (Function.update array ⟨i, room⟩
          ((m (uj, some (array ⟨i, room⟩))).2.2.getD (array ⟨i, room⟩)))) := by
  unfold onElement
  rw [dif_pos room]
  rfl

/-! ## Rounds -/

/-- Nothing is closed here, so there has to be an item. -/
theorem round_opening {σ : Type} (past : Past (pending uj) front) (opening : Opening front)
    (item : σ -> UjOn τ σ) (start : σ) :
    Exists fun uj' => pending uj' = front ∧ uj'.ioContext.ended = uj.ioContext.ended ∧
      forall object, itemsRound closeBracket item start (uj, object) =
        (item start >>= fun state => pure (.inl state)) (uj', object) := by
  rcases opening with ⟨ch, begins, dark, other⟩
  cases front with
  | nil => cases begins
  | cons result behind =>
      cases begins
      have skipped := past.skipSpace_eq dark
      rcases consumeMaybe_spec closeBracket uj with ⟨uj', -, found, -⟩ |
        ⟨uj', done, left, ended, -⟩ | ⟨-, nothing⟩
      · rw [skipped] at found
        exact absurd (Except.ok.inj (List.cons.inj found).1) other
      · refine ⟨uj', left.symm.trans skipped, ended, fun object => ?_⟩
        unfold itemsRound
        rw [bind_apply, onFirst_apply, done]
        rfl
      · exact absurd skipped (nothing ch behind)

theorem opening_comma (rest : Input) : Opening (.ok comma :: rest) :=
  ⟨comma, rfl, by decide, by decide⟩

/-- A comma leads to the next item. -/
theorem round_separated (separated : Token comma (pending uj) rest) (expr : Nat -> UjOn τ Unit)
    (count : Nat) (later : 0 < i) (p : Nat) :
    Exists fun uj' => pending uj' = rest ∧ uj'.ioContext.ended = uj.ioContext.ended ∧
      forall object, itemsRound closeBracket (deItem expr count) (i, p) (uj, object) =
        ((if i < count then expr p >>= fun _ => pure (i + 1, p + 1) else pure (i, p)) >>=
          fun state => pure (.inl state)) (uj', object) := by
  rcases round_opening separated (opening_comma rest) (deItem expr count) (i, p) with
    ⟨uj₁, left, ended, opened⟩
  have skipped : skipSpace (pending uj₁) = .ok comma :: rest := by
    rw [left, (opening_comma rest).skipSpace_eq]
  rcases consume_spec comma uj₁ with ⟨uj', done, found, ended'⟩ | ⟨-, nothing⟩
  · rw [skipped] at found
    refine ⟨uj', (List.cons.inj found).2.symm, ended'.trans ended, fun object => ?_⟩
    have consumed : Routine.onFirst (separator i) (uj₁, object) = (.ok (), uj', object) := by
      rw [separator, if_pos later, onFirst_apply, done]
    rw [opened, deItem, Routine.bind_assoc, bind_ok consumed]
  · exact absurd skipped (nothing rest)

/-- The loop over the elements of an array. -/
abbrev arrayRound (expr : UjOn τ Unit) (size : Nat) :
    Nat × Nat -> UjOn (Fin size -> τ) (Nat × Nat ⊕ Nat × Nat) :=
  itemsRound closeBracket (deItem (fun p => onElement p expr) size)

/-- An element is parsed and stored. -/
abbrev storeElement (expr : UjOn τ Unit) (size i : Nat) :
    UjOn (Fin size -> τ) (Nat × Nat ⊕ Nat × Nat) :=
  (onElement i expr >>= fun _ => pure (i + 1, i + 1)) >>= fun state => pure (.inl state)

theorem storeElement_ok (room : i < size) {uj' : Ujson} {value : τ}
    (done : expr (uj, some (array ⟨i, room⟩)) = (.ok (), uj', some value)) :
    storeElement expr size i (uj, some array) =
      (.ok (.inl (i + 1, i + 1)), uj', some (Function.update array ⟨i, room⟩ value)) := by
  have stored := onElement_apply room expr uj array
  rw [done] at stored
  rw [storeElement, Routine.bind_assoc, bind_ok stored]
  rfl

theorem storeElement_error (room : i < size) {stop : Stop}
    (failed : (expr (uj, some (array ⟨i, room⟩))).1 = .error stop) :
    (storeElement expr size i (uj, some array)).1 = .error stop := by
  have stored := onElement_apply room expr uj array
  rw [failed] at stored
  rw [storeElement, Routine.bind_assoc, bind_error stored]

theorem arrayRound_first (past : Past (pending uj) front) (opening : Opening front) :
    Exists fun uj' => pending uj' = front ∧ uj'.ioContext.ended = uj.ioContext.ended ∧
      forall object, arrayRound expr size (0, 0) (uj, object) =
        if 0 < size then storeElement expr size 0 (uj', object)
        else (.ok (.inl (0, 0)), uj', object) := by
  rcases round_opening past opening
    (deItem (fun p => (onElement p expr : UjOn (Fin size -> τ) Unit)) size) (0, 0) with
    ⟨uj', left, ended, opened⟩
  refine ⟨uj', left, ended, fun object => (opened object).trans ?_⟩
  by_cases room : 0 < size
  · rw [if_pos room, deItem, if_pos room]
    rfl
  · rw [if_neg room, deItem, if_neg room]
    rfl

theorem arrayRound_later (later : 0 < i) (separated : Token comma (pending uj) rest) :
    Exists fun uj' => pending uj' = rest ∧ uj'.ioContext.ended = uj.ioContext.ended ∧
      forall object, arrayRound expr size (i, i) (uj, object) =
        if i < size then storeElement expr size i (uj', object)
        else (.ok (.inl (i, i)), uj', object) := by
  rcases round_separated separated
    (fun p => (onElement p expr : UjOn (Fin size -> τ) Unit)) size later i with
    ⟨uj', left, ended, opened⟩
  refine ⟨uj', left, ended, fun object => (opened object).trans ?_⟩
  by_cases room : i < size
  · rw [if_pos room, if_pos room]
  · rw [if_neg room, if_neg room]
    rfl

theorem Token.round (closed : Token closeBracket (pending uj) rest) (start : Nat × Nat)
    (object : Option (Fin size -> τ)) :
    Exists fun uj' => arrayRound expr size start (uj, object) = (.ok (.inr start), uj', object) ∧
      pending uj' = rest := by
  have skipped := closed.skipSpace_eq (by decide)
  rcases consumeMaybe_spec closeBracket uj with ⟨uj', done, found, -⟩ |
    ⟨uj', -, left, -, got, begins, -, other⟩ | ⟨-, nothing⟩
  · rw [skipped] at found
    refine ⟨uj', ?_, (List.cons.inj found).2.symm⟩
    unfold arrayRound itemsRound
    rw [bind_apply, onFirst_apply, done]
    rfl
  · rw [<- left, skipped] at begins
    cases begins
    exact absurd rfl other
  · exact absurd skipped (nothing closeBracket rest)

theorem Item.round (deserialises : Deserialises expr)
    (item : Item expr uj.ioContext.ended ⟨i, pending uj, array⟩ stage) :
    Exists fun uj' => arrayRound expr size (i, i) (uj, some array) =
        (.ok (.inl (stage.stored, stage.stored)), uj', some stage.array) ∧
      pending uj' = stage.input ∧ uj'.ioContext.ended = uj.ioContext.ended := by
  cases item with
  | first room past opening element =>
      rcases arrayRound_first past opening with ⟨uj₁, left, ended, round⟩
      rw [<- left, <- ended] at element
      rcases element.here deserialises with ⟨uj', done, behind⟩
      refine ⟨uj', ?_, behind, ?_⟩
      · rw [round, if_pos room, storeElement_ok room done]
      · exact ((deserialises.ok done).choose_spec.2.2.1).trans ended
  | next later room separated element =>
      rcases arrayRound_later later separated with ⟨uj₁, left, ended, round⟩
      rw [<- left, <- ended] at element
      rcases element.here deserialises with ⟨uj', done, behind⟩
      refine ⟨uj', ?_, behind, ?_⟩
      · rw [round, if_pos room, storeElement_ok room done]
      · exact ((deserialises.ok done).choose_spec.2.2.1).trans ended
  | comma later full separated =>
      rcases arrayRound_later later separated with ⟨uj', left, ended, round⟩
      refine ⟨uj', ?_, left, ended⟩
      rw [round, if_neg (Nat.not_lt.mpr (Nat.le_of_eq full.symm))]

theorem Stuck.round (deserialises : Deserialises expr) (room : 0 < size)
    (stuck : Stuck expr uj.ioContext.ended ⟨i, pending uj, array⟩) :
    Exists fun stop => (arrayRound expr size (i, i) (uj, some array)).1 = .error stop ∧
      forall error, stop ≠ .status error := by
  cases stuck with
  | none empty past opening => exact absurd empty (Nat.ne_of_gt room)
  | first room past opening overruns =>
      rcases arrayRound_first past opening with ⟨uj₁, left, ended, round⟩
      rw [<- left, <- ended] at overruns
      rcases overruns.here deserialises with ⟨stop, failed, unheard⟩
      refine ⟨stop, ?_, unheard⟩
      rw [round, if_pos room, storeElement_error room failed]
  | next later room separated overruns =>
      rcases arrayRound_later later separated with ⟨uj₁, left, ended, round⟩
      rw [<- left, <- ended] at overruns
      rcases overruns.here deserialises with ⟨stop, failed, unheard⟩
      refine ⟨stop, ?_, unheard⟩
      rw [round, if_pos room, storeElement_error room failed]

theorem Past.length_le (past : Past input rest) : rest.length <= input.length := by
  rcases past with ⟨gap, -, rfl⟩
  rw [List.length_append]
  exact Nat.le_add_left _ _

theorem Odd.spaced {ch : BitVec 8} (even : ¬Odd ch input) (token : Token ch input rest) :
    Exists fun gap => JsonSpace gap ∧ input = chars gap ++ .ok ch :: rest := by
  rcases token with ⟨gap, blank, rfl⟩
  exact ⟨gap, by_contra fun other => even ⟨gap, rest, blank, other, rfl⟩, rfl⟩

theorem JsonRest.follows {σ : Type} {item : Nat -> σ -> σ -> List (BitVec 8) -> Prop}
    {before after : σ} {text : List (BitVec 8)}
    (others : JsonRest closeBracket item i before after text) (rest : Input) :
    Follows (chars text ++ rest) := by
  cases others with
  | close spaced => exact ⟨_, closeBracket, rest, spaced, Or.inr rfl, by simp⟩
  | @next _ _ _ _ space space' text others spaced =>
      exact ⟨space, comma, chars (space' ++ text ++ others) ++ rest, spaced, Or.inl rfl, by simp⟩

/-- What has been read of an array of JSON after its first elements, up to its end. -/
theorem json_rest {json : τ -> τ -> List (BitVec 8) -> Prop} {start : Stage τ size} {last : Input}
    (closed : Token closeBracket last rest)
    (proper : forall stage stage', Relation.ReflTransGen (Item expr ended) start stage ->
      Item expr ended stage stage' -> JsonItem json stage stage')
    (run : Relation.ReflTransGen (Item expr ended) stage ⟨i, last, array'⟩) :
    Relation.ReflTransGen (Item expr ended) start stage -> 0 < stage.stored ->
      Follows stage.input -> Exists fun text =>
        JsonRest closeBracket (fun i before after text =>
          i < size ∧ JsonArray (JsonElement json) [] (0 + i * extent []) before after text)
          stage.stored stage.array array' text ∧ stage.input = chars text ++ rest := by
  induction run using Relation.ReflTransGen.head_induction_on with
  | refl =>
      rintro - - ⟨gap, ch, back, spaced, separates, same⟩
      have dark : isSpace ch = false := by rcases separates with rfl | rfl <;> rfl
      have here := Past.skipSpace_eq ⟨gap, spaced.blank, same⟩ dark
      rw [closed.skipSpace_eq rfl] at here
      cases here
      exact ⟨_, .close spaced, by simpa using same⟩
  | @head stage stage' step run ih =>
      intro reached later _
      cases proper _ _ reached step with
      | first => cases later
      | @next i gap front back array value _ room spaced element =>
          rcases element with ⟨gap', text, spaced', element, rfl, follows⟩
          rcases ih (reached.tail step) (Nat.succ_pos i) follows with ⟨text', others, rfl⟩
          refine ⟨gap ++ comma :: (gap' ++ text ++ text'), .next spaced spaced' ⟨room, ?_⟩ others,
            by simp⟩
          rw [show 0 + i * extent [] = i by simp [extent]]
          exact ⟨room, value, element, rfl⟩

/-- What the code takes without a slip is an array of JSON. -/
theorem ArrayText.json {json : τ -> τ -> List (BitVec 8) -> Prop}
    (taken : ArrayText expr ended input array array' rest)
    (straight : ¬Slips expr json ended input array) : JsonText json input array array' rest := by
  rcases taken with ⟨front, i, last, token, run, closed⟩
  rcases Odd.spaced (fun odd => straight (Or.inl odd)) token with ⟨gap, spaced, rfl⟩
  have proper : forall stage stage', Relation.ReflTransGen (Item expr ended) ⟨0, front, array⟩ stage ->
      Item expr ended stage stage' -> JsonItem json stage stage' := by
    intro stage stage' reached step
    by_contra other
    exact straight (Or.inr ⟨front, token, Or.inr ⟨stage, stage', reached, step, other⟩⟩)
  rcases run.cases_head with same | ⟨stage, step, onward⟩
  · cases same
    have even : ¬Odd closeBracket front := fun odd =>
      straight (Or.inr ⟨front, token, Or.inl odd⟩)
    rcases Odd.spaced even closed with ⟨gap', spaced', rfl⟩
    exact ⟨gap, _, spaced, .empty spaced', by simp⟩
  · have reached := Relation.ReflTransGen.single step
    cases proper _ _ .refl step with
    | next later => cases later
    | @first _ back _ value room element =>
        rcases element with ⟨gap', text, spaced', element, rfl, follows⟩
        rcases json_rest closed proper onward reached Nat.one_pos follows with ⟨text', others, rfl⟩
        refine ⟨gap, openBracket :: (gap' ++ text ++ text'), spaced,
          .items spaced' ⟨room, ?_⟩ others, by simp⟩
        rw [show 0 + 0 * extent [] = 0 by simp]
        exact ⟨room, value, element, rfl⟩

/-- The elements of an array of JSON behind the first ones are taken if each one is. -/
theorem JsonRest.taken {json : τ -> τ -> List (BitVec 8) -> Prop} {start : Stage τ size}
    (takes : forall stage stage', Relation.ReflTransGen (Item expr ended) start stage ->
      JsonItem json stage stage' -> Item expr ended stage stage') {text : List (BitVec 8)}
    (others : JsonRest closeBracket (fun i before after text =>
      i < size ∧ JsonArray (JsonElement json) [] (0 + i * extent []) before after text)
      i array array' text) :
    0 < i -> Relation.ReflTransGen (Item expr ended) start ⟨i, chars text ++ rest, array⟩ ->
      Exists fun j => Exists fun last =>
        Relation.ReflTransGen (Item expr ended) start ⟨j, last, array'⟩ ∧
          Token closeBracket last rest := by
  induction others with
  | @close i array space spaced =>
      intro _ reached
      exact ⟨i, _, reached, space, spaced.blank, by simp⟩
  | @next i array _ _ space space' text others spaced spaced' here behind ih =>
      intro later reached
      rcases here with ⟨room, here⟩
      rw [show 0 + i * extent [] = i by simp [extent]] at here
      rcases here with ⟨inside, value, element, rfl⟩
      have step : JsonItem json ⟨i, chars (space ++ comma :: (space' ++ text ++ others)) ++ rest, array⟩
          ⟨i + 1, chars others ++ rest, Function.update array ⟨i, room⟩ value⟩ := by
        have next : JsonNext json (chars (space' ++ text ++ others) ++ rest) (array ⟨i, room⟩) value
            (chars others ++ rest) :=
          ⟨space', text, spaced', element, by simp, behind.follows rest⟩
        simpa using JsonItem.next later room spaced next
      exact ih (Nat.succ_pos i) (reached.tail (takes _ _ reached step))

/-- An array of JSON is taken unless one of its elements is not. -/
theorem JsonText.taken {json : τ -> τ -> List (BitVec 8) -> Prop}
    (text : JsonText json input array array' rest) (whole : ¬Skips expr json ended input array) :
    ArrayText expr ended input array array' rest := by
  rcases text with ⟨gap, text, spaced, list, rfl⟩
  have begins (inner : List (BitVec 8)) : Token openBracket
      (chars (gap ++ openBracket :: inner) ++ rest) (chars inner ++ rest) :=
    ⟨gap, spaced.blank, by simp⟩
  cases list with
  | @empty space spaced' =>
      exact ⟨_, 0, _, begins _, .refl, space, spaced'.blank, by simp⟩
  | @items _ _ space text others spaced' first behind =>
      have takes : forall stage stage', Relation.ReflTransGen (Item expr ended)
          ⟨0, chars (space ++ text ++ others) ++ rest, array⟩ stage ->
          JsonItem json stage stage' -> Item expr ended stage stage' := by
        intro stage stage' reached step
        by_contra other
        exact whole ⟨_, stage, stage', begins _, reached, step, other⟩
      rcases first with ⟨room, here⟩
      rw [show 0 + 0 * extent [] = 0 by simp] at here
      rcases here with ⟨inside, value, element, rfl⟩
      have step : JsonItem json ⟨0, chars (space ++ text ++ others) ++ rest, array⟩
          ⟨1, chars others ++ rest, Function.update array ⟨0, room⟩ value⟩ :=
        .first room ⟨space, text, spaced', element, by simp, behind.follows rest⟩
      rcases behind.taken takes Nat.one_pos (.single (takes _ _ .refl step)) with
        ⟨j, last, run, closed⟩
      exact ⟨_, j, last, begins _, run, closed⟩

end

theorem getc_keeps_ended (ended : Error) :
    Keeps (fun uj => uj.ioContext.ended = ended) ujsonGetc := by
  rintro ⟨⟨incoming, ended, refusals, traffic⟩, buffer, crc⟩ rfl
  cases buffer with
  | some kept => rfl
  | none => rcases incoming with _ | ⟨error | next, incoming⟩ <;> rfl

theorem ungetc_keeps_ended (ended : Error) (ch : BitVec 8) :
    Keeps (fun uj => uj.ioContext.ended = ended) (ujsonUngetc ch) := by
  intro uj same
  unfold ujsonUngetc
  split
  · exact same
  · exact same

theorem Ty.deserialises (stack : Stack) (type : Ty) : Deserialises (type.deserialize stack) where
  parses := type.parsesOn stack
  keeps ended := keeps_deserialize (getc_keeps_ended ended) (ungetc_keeps_ended ended) stack type

/-- White space ends before a character that is none. -/
theorem JsonSpace.ends {space front back : List (BitVec 8)} {ch : BitVec 8}
    (spaced : JsonSpace space) (same : space ++ front = ch :: back) (solid : ¬JsonSpace [ch]) :
    space = [] := by
  cases space with
  | nil => rfl
  | cons first others =>
      refine absurd (fun c inside => ?_) solid
      rw [List.mem_singleton.mp inside, <- (List.cons.inj same).1]
      exact spaced first List.mem_cons_self

end Ujson
end SunburstChip
