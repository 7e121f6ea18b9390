import SunburstChip.Lib.TwoRuns
import SunburstChip.Ujson.PrimitiveRoundTrip

namespace SunburstChip
namespace Ujson

open Routine

/-!
# Statuses and the stack

The local arrays of the functions that parse a status hold what was on the stack
before.  A string that is parsed into one of them is always ended by a null
character, and what lies behind it does not matter, as long as the array is only
read as a string.  The name of a module is not: its first three characters are
taken, however many have been parsed.

The characters of a string are first described without the array they go to.
-/

/-! ## Strings without their arrays -/

/-- The loop of `ujson_parse_qs` without its array. -/
def textRound (state : List (BitVec 8) × BitVec 32) :
    Uj (List (BitVec 8) × BitVec 32 ⊕ List (BitVec 8)) := do
  let ch <- ujsonGetc
  if ch = quote then pure (.inr state.1)
  else do
    let ch <- unescape ch
    pure (.inl (if state.2 > 0 then (state.1 ++ [ch], state.2 - 1) else state))

/-- The characters of a string for which there is room in `len` elements. -/
def parseText (len : BitVec 32) : Uj (List (BitVec 8)) := do
  ujsonConsume quote
  repeatedly remaining .endless textRound ([], len - 1)

section

variable {τ α : Type} {size : Nat}

/-- A routine on a context does the same with an object beside it. -/
theorem paired_onFirst (m : Uj α) (uj : Ujson) (object : Option τ) :
    Paired (fun value s value' uj' => value = value' ∧ s = (uj', object))
      (fun _ s uj' => s.1 = uj') (Routine.onFirst m (uj, object)) (m uj) := by
  rw [onFirst_apply]
  generalize m uj = ended
  rcases ended with ⟨reason | value, uj'⟩
  · exact ⟨rfl, rfl⟩
  · exact ⟨rfl, rfl⟩

theorem putString_append (index : Nat) (text : List (BitVec 8)) (ch : BitVec 8)
    (array : Fin size -> BitVec 8) :
    putString index (text ++ [ch]) array =
      alter (index + text.length) (fun _ => ch) (putString index text array) := by
  induction text generalizing index array with
  | nil => rfl
  | cons first text ih =>
      have position : index + (first :: text).length = index + 1 + text.length := by
        rw [List.length_cons]
        omega
      rw [position]
      exact ih (index + 1) (alter index (fun _ => first) array)

/-- What the loop has stored, and the room that is left. -/
def Storing (array : Fin size -> BitVec 8) (start : Nat × BitVec 32)
    (s : Ujson × Option (Fin size -> BitVec 8)) (start' : List (BitVec 8) × BitVec 32)
    (uj : Ujson) : Prop :=
  start.1 = start'.1.length ∧ start.2 = start'.2 ∧ start.1 + start.2.toNat < size ∧
  s = (uj, some (putString 0 start'.1 array))

/-- What it has stored at the end. -/
def HasStored (array : Fin size -> BitVec 8) (n : Nat)
    (s : Ujson × Option (Fin size -> BitVec 8)) (text : List (BitVec 8)) (uj : Ujson) : Prop :=
  n = text.length ∧ text.length < size ∧ s = (uj, some (putString 0 text array))

theorem together_round (array : Fin size -> BitVec 8) (start : Nat × BitVec 32)
    (start' : List (BitVec 8) × BitVec 32) :
    Together (fun s uj => Storing array start s start' uj) (parseQsRound start)
      (textRound start') (Together.Rounds (Storing array) (HasStored array))
      (fun _ s uj => s.1 = uj) := by
  rintro s uj ⟨index, room, inside, rfl⟩
  apply (paired_onFirst ujsonGetc uj _).bind
  rintro ch t ch' uj ⟨rfl, rfl⟩
  by_cases ended : ch = quote
  · rw [if_pos ended, if_pos ended]
    exact ⟨index, by omega, rfl⟩
  · rw [if_neg ended, if_neg ended]
    apply (paired_onFirst (unescape ch) uj _).bind
    rintro ch t ch' uj ⟨rfl, rfl⟩
    rw [<- room]
    by_cases more : start.2 > 0
    · have positive : 0 < start.2.toNat := more
      have fits : start.1 < size := by omega
      have stored : onElement start.1 (assign ch)
          (uj, some (putString 0 start'.1 array)) = _ :=
        onElement_inside fits (rfl : assign ch
          (uj, some (putString 0 start'.1 array ⟨start.1, fits⟩)) = _)
      have left : (start.2 - 1).toNat = start.2.toNat - 1 :=
        BitVec.toNat_sub_of_le (by exact positive)
      rw [if_pos more, if_pos more, bind_ok stored]
      refine ⟨?_, rfl, ?_, ?_⟩
      · rw [List.length_append, <- index]
        rfl
      · rw [left]
        omega
      · rw [putString_append, <- index, Nat.zero_add]
    · rw [if_neg more, if_neg more]
      exact ⟨index, room, inside, rfl⟩

/-- Parsing a string into an array is reading its characters and storing those for which
there is room. -/
theorem parseQs_together (array : Fin size -> BitVec 8) {len : BitVec 32}
    (inside : (len - 1).toNat < size) (uj : Ujson) :
    Paired (fun n s text uj' => n = text.length ∧ text.length < size ∧
        s = (uj', some (fillString text array)))
      (fun _ s uj' => s.1 = uj') (ujsonParseQs len (uj, some array)) (parseText len uj) := by
  apply (paired_onFirst (ujsonConsume quote) uj _).bind
  rintro _ t _ uj ⟨_, rfl⟩
  have start : Storing array (0, len - 1) (uj, some array) ([], len - 1) uj := by
    refine ⟨rfl, rfl, ?_, rfl⟩
    rw [Nat.zero_add]
    exact inside
  have loop := @Together.repeatedly _ _ _ _ _ _ _ _ .endless _ _ _ _ _ _
    (together_round array)
    (fun start s start' uj stored => congrArg Prod.fst stored.2.2.2)
    (fun start s start' uj stored => congrArg (fun s => s.1.remaining) stored.2.2.2)
    (0, len - 1) ([], len - 1) (uj, some array) uj start
  apply loop.bindLeft
  rintro n s text uj ⟨rfl, fits, rfl⟩
  have ended : onElement text.length (assign 0) (uj, some (putString 0 text array)) = _ :=
    onElement_inside fits (rfl : assign 0
      (uj, some (putString 0 text array ⟨text.length, fits⟩)) = _)
  rw [bind_ok ended]
  exact ⟨rfl, fits, rfl⟩

/-- The string in an array is what has been parsed into it, up to a null character. -/
theorem cString_fillString_any {text : List (BitVec 8)} (fits : text.length < size)
    (array : Fin size -> BitVec 8) :
    cString (fillString text array) = some (text.takeWhile (· ≠ 0)) := by
  have stored := stored_fillString text array
  have begins : text.takeWhile (· ≠ 0) <+: text := List.takeWhile_prefix _
  have shorter := begins.length_le
  apply cString_eq (Nat.lt_of_le_of_lt shorter fits)
  · intro i inside
    rw [stored.chars ⟨i, _⟩ (Nat.lt_of_lt_of_le inside shorter), List.getD_eq_getElem _ _ (by
      exact Nat.lt_of_lt_of_le inside shorter)]
    exact (begins.getElem inside).symm
  · have whole : text.takeWhile (· ≠ 0) ++ text.dropWhile (· ≠ 0) = text :=
      List.takeWhile_append_dropWhile
    have lengths := congrArg List.length whole
    rw [List.length_append] at lengths
    cases behind : text.dropWhile (· ≠ 0) with
    | nil =>
        apply stored.ended
        rw [behind, List.length_nil] at lengths
        exact lengths
    | cons ch rest =>
        have stops := List.head?_dropWhile_not (· ≠ (0 : BitVec 8)) text
        rw [behind] at stops
        have zero : ch = 0 := by simpa using stops
        have next : (text.takeWhile (· ≠ 0) ++ ch :: rest).getD
            (text.takeWhile (· ≠ 0)).length 0 = ch := by
          rw [List.getD_append_right _ _ _ _ (Nat.le_refl _), Nat.sub_self]
          rfl
        rw [behind, List.length_cons] at lengths
        rw [behind] at whole
        rw [whole, zero] at next
        rw [stored.chars _ (by change (text.takeWhile (· ≠ 0)).length < text.length; omega)]
        exact next
  · intro inside
    have kept := List.all_eq_true.mp List.all_takeWhile 0 inside
    exact absurd kept (by decide)

/-- Of an array that is not empty, one element is for the null character. -/
theorem room_lt {len : BitVec 32} (room : 1 <= len.toNat) (inside : len.toNat <= size) :
    (len - 1).toNat < size := by
  have left : (len - 1).toNat = len.toNat - 1 := BitVec.toNat_sub_of_le (by exact room)
  rw [left]
  omega

theorem parseText_length {len : BitVec 32} (room : 1 <= len.toNat) {uj uj' : Ujson}
    {text : List (BitVec 8)} (done : parseText len uj = (.ok text, uj')) :
    text.length < len.toNat := by
  have together := parseQs_together (fun _ : Fin len.toNat => 0)
    (room_lt room (Nat.le_refl _)) uj
  rw [done] at together
  generalize ujsonParseQs len (uj, some fun _ : Fin len.toNat => 0) = ended at together
  rcases ended with ⟨reason | n, s⟩
  · exact together.elim
  · exact together.2.1

/-- A local array that a string is parsed into. -/
theorem onLocal_parseQs (array : Fin size -> BitVec 8) {len : BitVec 32} (room : 1 <= len.toNat)
    (inside : len.toNat <= size) :
    onLocal array (ujsonParseQs len) =
      (parseText len >>= fun text => pure (fillString text array)) := by
  funext uj
  have together := parseQs_together array (room_lt room inside) uj
  unfold onLocal
  rw [bind_apply]
  generalize ujsonParseQs len (uj, some array) = ended at together ⊢
  generalize parseText len uj = ended' at together ⊢
  rcases ended with ⟨reason | n, s⟩
  · rcases ended' with ⟨reason' | text, uj'⟩
    · rcases together with ⟨rfl, rfl⟩
      rfl
    · exact together.elim
  · rcases ended' with ⟨reason' | text, uj'⟩
    · exact together.elim
    · rcases together with ⟨_, _, rfl⟩
      rfl

/-- A string that is parsed into a local array does not depend on the stack. -/
theorem parseLocal_eq (bytes : Leftover) (some : 0 < size) (bound : size < 2 ^ 32) :
    parseLocal bytes size =
      (parseText (.ofNat 32 size) >>= fun text => pure (text.takeWhile (· ≠ 0))) := by
  have len : (BitVec.ofNat 32 size).toNat = size := Nat.mod_eq_of_lt bound
  have room : 1 <= (BitVec.ofNat 32 size).toNat := by
    rw [len]
    exact some
  unfold parseLocal
  rw [onLocal_parseQs (bytes.array size) room (Nat.le_of_eq len)]
  funext uj
  rw [bind_apply, bind_apply, bind_apply]
  cases parsed : parseText (.ofNat 32 size) uj with
  | mk out uj' =>
      cases out with
      | error reason => rfl
      | ok text =>
          have fits := parseText_length room parsed
          rw [len] at fits
          change stringIn (fillString text (bytes.array size)) uj' = _
          unfold stringIn
          rw [cString_fillString_any fits]
          rfl

end

/-! ## The parts of a status -/

theorem parseLocal_stack (bytes bytes' : Leftover) : parseLocal bytes 128 = parseLocal bytes' 128 := by
  rw [parseLocal_eq bytes (by decide) (by decide), parseLocal_eq bytes' (by decide) (by decide)]

/-- Enums do not depend on the stack. -/
theorem EnumDecl.deserialize_stack (decl : EnumDecl) (stack stack' : Stack) :
    decl.deserialize stack = decl.deserialize stack' := by
  unfold EnumDecl.deserialize EnumDecl.deserializeName EnumDecl.deserializeIntValue
  rw [parseLocal_stack (stack .value) (stack' .value)]

/-- What an object has been before makes no difference, and does not show when the
routine has not ended early. -/
def Replaces {τ α : Type} (m : UjOn τ α) : Prop :=
  forall uj object object',
    Paired (fun value s value' s' => value = value' ∧ s = s' ∧ s.2.isSome = true)
      (fun _ s s' => s.1 = s'.1) (m (uj, some object)) (m (uj, some object'))

variable {τ : Type} {text : List (BitVec 8)} {arg code : BitVec 32}

theorem Replaces.after {α β : Type} {m : Uj α} {next : α -> UjOn τ β}
    (replaces : forall value, Replaces (next value)) :
    Replaces (Routine.onFirst m >>= next) := by
  intro uj object object'
  rw [bind_apply, bind_apply, onFirst_apply, onFirst_apply]
  generalize m uj = ended
  rcases ended with ⟨reason | value, uj'⟩
  · exact ⟨rfl, rfl⟩
  · exact replaces value uj' object object'

theorem Replaces.before {α β : Type} {m : UjOn τ α} (replaces : Replaces m) (next : α -> Uj β) :
    Replaces (m >>= fun value => Routine.onFirst (next value)) := by
  intro uj object object'
  apply (replaces uj object object').bind
  rintro value s _ _ ⟨rfl, rfl, held⟩
  rw [onFirst_apply]
  generalize next value s.1 = ended
  rcases ended with ⟨reason | result, uj'⟩
  · exact ⟨rfl, rfl⟩
  · exact ⟨rfl, rfl, held⟩

theorem replaces_raise (reason : Stop) : Replaces (raise reason : UjOn τ Unit) :=
  fun _ _ _ => ⟨rfl, rfl⟩

theorem replaces_assign (value : τ) : Replaces (assign value) :=
  fun _ _ _ => ⟨rfl, rfl, rfl⟩

theorem Replaces.ite {condition : Prop} [Decidable condition] {m m' : UjOn τ Unit}
    (pos : Replaces m) (neg : Replaces m') : Replaces (if condition then m else m') := by
  split
  · exact pos
  · exact neg

theorem replaces_deserializeNumber : Replaces deserializeNumber :=
  Replaces.after (fun value => replaces_assign value)

theorem EnumDecl.replaces_named (decl : EnumDecl) (value : List (BitVec 8)) :
    Replaces (decl.named value) := by
  unfold EnumDecl.named
  split
  · exact replaces_assign _
  · exact replaces_raise _

theorem EnumDecl.replaces_deserialize (decl : EnumDecl) (stack : Stack) :
    Replaces (decl.deserialize stack) := by
  apply Replaces.after
  intro named
  apply Replaces.ite
  · apply Replaces.after
    intro _
    apply Replaces.after
    exact decl.replaces_named
  · apply Replaces.after
    intro braced
    apply Replaces.ite
    · apply Replaces.after
      intro value
      apply Replaces.after
      intro _
      apply Replaces.ite
      · exact replaces_deserializeNumber.before _
      · exact replaces_raise _
    · exact replaces_deserializeNumber

/-- What a local object has been before makes no difference. -/
theorem Replaces.onLocal_eq {m : UjOn τ Unit} (replaces : Replaces m) (contents contents' : τ) :
    onLocal contents m = onLocal contents' m := by
  funext uj
  have outcome := replaces uj contents contents'
  unfold onLocal
  generalize m (uj, some contents) = ended at outcome ⊢
  generalize m (uj, some contents') = ended' at outcome ⊢
  rcases ended with ⟨reason | value, uj₁, object⟩
  · rcases ended' with ⟨reason' | value', uj₂, object'⟩
    · rcases outcome with ⟨rfl, same⟩
      exact Prod.ext rfl same
    · exact outcome.elim
  · rcases ended' with ⟨reason' | value', uj₂, object'⟩
    · exact outcome.elim
    · rcases outcome with ⟨_, same, held⟩
      cases same
      rcases Option.isSome_iff_exists.mp held with ⟨kept, is⟩
      have is : object = some kept := is
      subst is
      rfl

theorem deserializeCode_stack (stack stack' : Stack) :
    onLocal (stack .code).word (privateStatus.deserialize stack) =
      onLocal (stack' .code).word (privateStatus.deserialize stack') := by
  rw [privateStatus.deserialize_stack stack stack']
  exact (privateStatus.replaces_deserialize stack').onLocal_eq _ _

/-- The name of a module, as far as there is room for it, and an argument. -/
def moduleParts : Uj (Option (List (BitVec 8)) × BitVec 32) := do
  let text <- parseText 4
  ujsonConsume comma
  let arg <- ujsonDeserializeUint32T
  ujsonConsume closeBracket
  pure (some text, arg)

/-- An argument alone. -/
def argParts : Uj (Option (List (BitVec 8)) × BitVec 32) := do
  let arg <- ujsonDeserializeUint32T
  pure (none, arg)

/-- What a status consists of: its code, the name of a module if there is one, and its
argument. -/
def statusParts (stack : Stack) : Uj (BitVec 32 × Option (List (BitVec 8)) × BitVec 32) := do
  ujsonConsume openBrace
  let code <- onLocal (stack .code).word (privateStatus.deserialize stack)
  ujsonConsume colon
  let bracketed <- ujsonConsumeMaybe openBracket
  let detail <- if bracketed then moduleParts else argParts
  ujsonConsume closeBrace
  pure (code, detail)

/-- The identifier of a module, whose name has been parsed into a local array. -/
def moduleIdOn (stack : Stack) : Option (List (BitVec 8)) -> BitVec 32
  | some text => moduleIdOf (fillString text ((stack .module').array 4))
  | none => 0

theorem statusParts_stack (stack stack' : Stack) : statusParts stack = statusParts stack' := by
  unfold statusParts
  rw [deserializeCode_stack stack stack']

theorem deserializeModule_eq (stack : Stack) :
    deserializeModule stack =
      (moduleParts >>= fun detail => pure (moduleIdOn stack detail.1, detail.2)) := by
  unfold deserializeModule moduleParts
  rw [onLocal_parseQs ((stack .module').array 4) (by decide) (by decide)]
  simp only [Routine.bind_assoc, Routine.pure_bind]
  rfl

theorem deserializeArg_eq (stack : Stack) :
    deserializeArg = (argParts >>= fun detail => pure (moduleIdOn stack detail.1, detail.2)) := by
  unfold deserializeArg argParts
  simp only [Routine.bind_assoc, Routine.pure_bind]
  rfl

theorem deserializeStatusT_eq (stack : Stack) :
    ujsonDeserializeStatusT stack = (statusParts stack >>= fun parts =>
      pure (statusCreate parts.1 (moduleIdOn stack parts.2.1) ujsonC parts.2.2)) := by
  unfold ujsonDeserializeStatusT statusParts deserializeDetail
  rw [deserializeModule_eq, deserializeArg_eq stack]
  simp only [Routine.bind_assoc]
  apply congrArg
  funext _
  apply congrArg
  funext code
  apply congrArg
  funext _
  apply congrArg
  funext bracketed
  cases bracketed with
  | true =>
      rw [if_pos rfl, if_pos rfl]
      simp only [Routine.bind_assoc]
      rfl
  | false =>
      rw [if_neg Bool.false_ne_true, if_neg Bool.false_ne_true]
      simp only [Routine.bind_assoc]
      rfl

/-! ## When the stack shows -/

/-- A status that is parsed does not depend on the stack. -/
def StackFree (uj : Ujson) : Prop :=
  forall stack stack',
    (ujsonDeserializeStatusT stack uj).1 = (ujsonDeserializeStatusT stack' uj).1

/-- There is a status with the name of a module that has fewer than two characters, and
not one that is without errors, whatever its module. -/
def ShortModule (uj : Ujson) : Prop :=
  Exists fun code => Exists fun text => Exists fun arg =>
    (statusParts (fun _ _ => 0) uj).1 = .ok (code, some text, arg) ∧ text.length < 2 ∧
    (code ≠ AbslStatus.kOk.value ∨ arg.msb = true)

theorem fillString_behind {size : Nat} {array : Fin size -> BitVec 8} {i : Fin size}
    (behind : text.length < i) : fillString text array i = array i :=
  (stored_fillString text array).others i behind

/-- Two characters and the null character behind them are all that is read. -/
theorem moduleIdOn_long (long : 2 <= text.length) (stack stack' : Stack) :
    moduleIdOn stack (some text) = moduleIdOn stack' (some text) := by
  have same : forall i : Fin 4, (i : Nat) <= 2 ->
      fillString text ((stack .module').array 4) i = fillString text ((stack' .module').array 4) i := by
    intro i few
    have stored := stored_fillString text ((stack .module').array 4)
    have stored' := stored_fillString text ((stack' .module').array 4)
    by_cases inside : (i : Nat) < text.length
    · rw [stored.chars i inside, stored'.chars i inside]
    · rw [stored.ended i (by omega), stored'.ended i (by omega)]
  dsimp only [moduleIdOn, moduleIdOf]
  rw [same 0 (by decide), same 1 (by decide), same 2 (by decide)]

theorem statusCreate_module {moduleId moduleId' : BitVec 32} {file : SourceFile}
    (ignored : code = AbslStatus.kOk.value ∧ arg.msb = false) :
    statusCreate code moduleId file arg = statusCreate code moduleId' file arg := by
  unfold statusCreate
  rw [ignored.2]
  rw [if_pos ⟨ignored.1, rfl⟩, if_pos ⟨ignored.1, rfl⟩]

/-- Statuses of modules with different third characters are different. -/
theorem statusCreate_third {file : SourceFile}
    (shown : code ≠ AbslStatus.kOk.value ∨ arg.msb = true) {a b c a' b' c' : BitVec 8}
    (differ : glyph c ≠ glyph c') (some : glyph c ≠ 0x40) (some' : glyph c' ≠ 0x40) :
    statusCreate code (makeModuleId a b c) file arg ≠
      statusCreate code (makeModuleId a' b' c') file arg := by
  have named : forall a b c, glyph c ≠ 0x40 -> makeModuleId a b c ≠ 0 := by
    intro a b c some none
    have name := moduleName_makeModuleId a b c
    rw [none] at name
    have third := congrArg (fun name => name.getD 2 0) name
    exact some third.symm
  have packs : forall moduleId, moduleId ≠ 0 -> statusCreate code moduleId file arg =
      packStatus code moduleId (if code = AbslStatus.kOk.value then 33 else arg) := by
    intro moduleId some
    unfold statusCreate
    rw [if_neg, if_neg some]
    rintro ⟨ok, positive⟩
    rcases shown with error | negative
    · exact error ok
    · rw [negative] at positive
      cases positive
  intro same
  rw [packs _ (named a b c some), packs _ (named a' b' c' some')] at same
  have read := (packStatus_packed code (if code = AbslStatus.kOk.value then 33 else arg)
    (positioned_makeModuleId a b c)).moduleId
  have read' := (packStatus_packed code (if code = AbslStatus.kOk.value then 33 else arg)
    (positioned_makeModuleId a' b' c')).moduleId
  have names := moduleName_makeModuleId a b c
  rw [<- read, same, read', moduleName_makeModuleId] at names
  exact differ (List.cons.inj (List.cons.inj (List.cons.inj names).2).2).1.symm

/-- A third character that is left over shows in the status. -/
theorem statusCreate_shows (short : text.length < 2)
    (shown : code ≠ AbslStatus.kOk.value ∨ arg.msb = true) :
    statusCreate code (moduleIdOn (fun _ _ => 0x41) (some text)) ujsonC arg ≠
      statusCreate code (moduleIdOn (fun _ _ => 0x42) (some text)) ujsonC arg := by
  have third : forall bytes : Leftover, fillString text (bytes.array 4) 2 = bytes 2 :=
    fun bytes => fillString_behind (by exact short)
  dsimp only [moduleIdOn, moduleIdOf]
  rw [third, third]
  exact statusCreate_third shown (by decide) (by decide) (by decide)

/-- A status depends on the stack exactly if the name of its module is too short. -/
theorem stackFree_iff (uj : Ujson) : StackFree uj ↔ ¬ ShortModule uj := by
  have parts : forall stack, (ujsonDeserializeStatusT stack uj).1 =
      (statusParts (fun _ _ => 0) uj).1.map (fun parts =>
        statusCreate parts.1 (moduleIdOn stack parts.2.1) ujsonC parts.2.2) := by
    intro stack
    rw [deserializeStatusT_eq stack, statusParts_stack stack (fun _ _ => 0), bind_apply]
    generalize statusParts (fun _ _ => 0) uj = ended
    rcases ended with ⟨reason | parts, uj'⟩
    · rfl
    · rfl
  constructor
  · rintro free ⟨code, text, arg, done, short, shown⟩
    have same := free (fun _ _ => 0x41) (fun _ _ => 0x42)
    rw [parts, parts, done] at same
    simp only [Except.map, Except.ok.injEq] at same
    exact statusCreate_shows short shown same
  · intro long stack stack'
    rw [parts, parts]
    cases done : (statusParts (fun _ _ => 0) uj).1 with
    | error reason => simp only [Except.map]
    | ok result =>
        rcases result with ⟨code, none | text, arg⟩
        · simp only [Except.map, moduleIdOn]
        · simp only [Except.map, Except.ok.injEq]
          by_cases ignored : code = AbslStatus.kOk.value ∧ arg.msb = false
          · exact statusCreate_module ignored
          · have enough : 2 <= text.length := by
              by_contra short
              apply long
              refine ⟨code, text, arg, done, by omega, ?_⟩
              rw [not_and_or, Bool.not_eq_false] at ignored
              exact ignored
            rw [moduleIdOn_long enough stack stack']

/-- The module of `{"Internal":["A",1]}` depends on the stack. -/
theorem stackFree_apart :
    ¬ StackFree (delivering (ascii "\x7b\"Internal\":[\"A\",1]\x7d")) := by
  intro free
  have same := free (fun _ _ => 0x41) (fun _ _ => 0x42)
  exact absurd same (by decide +kernel)

end Ujson
end SunburstChip
