import SunburstChip.Ujson.Derive

namespace SunburstChip
namespace Ujson

open Routine

/-!
# Parsers that read a text

`Reads` says of a parser which text it takes from the input, what it returns,
and what it makes of the object it fills, whatever comes after the text.  A
parser of numbers has to look at the next character, which it pushes back.  It
reads its text only where something follows that is not a digit.  All others
stop right behind their last character.

Texts are put together as the parsers are: there is a rule for each way of
building a parser, and the text of a sequence is the one text behind the other.
-/

/-- The source delivers these characters. -/
def chars (text : List (BitVec 8)) : List (Except Error (BitVec 8)) := text.map .ok

@[simp] theorem chars_nil : chars [] = [] := rfl

@[simp] theorem chars_cons (ch : BitVec 8) (text : List (BitVec 8)) :
    chars (ch :: text) = .ok ch :: chars text := rfl

@[simp] theorem chars_append (text text' : List (BitVec 8)) :
    chars (text ++ text') = chars text ++ chars text' := List.map_append

theorem chars_length (text : List (BitVec 8)) : (chars text).length = text.length :=
  List.length_map _

/-- An empty context that delivers a text. -/
def delivering (text : List (BitVec 8)) : Ujson :=
  ⟨⟨chars text, createError .kOutOfRange 0#32 ujsonC 0 AbslStatus.kOutOfRange_ne positioned_zero, [],
    []⟩, none, crc32Init⟩

/-- What is going to be read, a character that has been pushed back first. -/
def pending (uj : Ujson) : List (Except Error (BitVec 8)) :=
  chars uj.buffer.toList ++ uj.ioContext.incoming

theorem remaining_eq (uj : Ujson) : uj.remaining = (pending uj).length := by
  unfold remaining pending
  cases uj.buffer with
  | none => simp
  | some ch =>
      simp only [Option.isSome_some, if_true, Option.toList_some, chars_cons, chars_nil,
        List.cons_append, List.nil_append, List.length_cons]
      exact Nat.add_comm _ _

/-- A number ends in front of what is left. -/
def Delimits : List (Except Error (BitVec 8)) -> Prop
  | [] => True
  | .ok ch :: _ => isDigit ch = false
  | .error _ :: _ => False

/-- A number ends in front of a text. -/
abbrev Opens (text : List (BitVec 8)) : Prop := forall rest, Delimits (chars text ++ rest)

section

variable {τ α β : Type}

/-- The parser reads a text, and looks at the character behind it where `ahead`
says so.  It returns `value` and makes `fill object` of an object. -/
def Reads (ahead : Bool) (m : UjOn τ α) (text : List (BitVec 8)) (value : α) (fill : τ -> τ) :
    Prop :=
  forall uj object rest, pending uj = chars text ++ rest -> (ahead = true -> Delimits rest) ->
    Exists fun uj' => m (uj, some object) = (.ok value, uj', some (fill object)) ∧
      pending uj' = rest ∧ (ahead = false -> uj'.buffer = none)

/-- The same for a parser that fills no object. -/
def Scans (ahead : Bool) (m : Uj α) (text : List (BitVec 8)) (value : α) : Prop :=
  forall uj rest, pending uj = chars text ++ rest -> (ahead = true -> Delimits rest) ->
    Exists fun uj' => m uj = (.ok value, uj') ∧
      pending uj' = rest ∧ (ahead = false -> uj'.buffer = none)

variable {text : List (BitVec 8)} {value : α} {uj : Ujson} {ch got : BitVec 8}

theorem Scans.onFirst {ahead : Bool} {m : Uj α} (scans : Scans ahead m text value) :
    Reads ahead (Routine.onFirst m : UjOn τ α) text value id := by
  intro uj object rest left delimited
  rcases scans uj rest left delimited with ⟨uj', done, after, empty⟩
  refine ⟨uj', ?_, after, empty⟩
  rw [onFirst_apply, done]
  rfl

/-! ## Sequences -/

section Sequences

variable {looks looks' : Bool} {text text' : List (BitVec 8)} {value : α} {result : β}

theorem Scans.bind {m : Uj α} {next : α -> Uj β} (first : Scans looks m text value)
    (second : Scans looks' (next value) text' result) (opens : looks = true -> Opens text') :
    Scans looks' (m >>= next) (text ++ text') result := by
  intro uj rest left delimited
  rw [chars_append, List.append_assoc] at left
  rcases first uj _ left (fun asked => opens asked rest) with ⟨uj₁, done, middle, -⟩
  rw [bind_ok done]
  exact second uj₁ rest middle delimited

variable {m : UjOn τ α} {fill : τ -> τ} {next : α -> UjOn τ β}

theorem Reads.bind {fill' : τ -> τ} (first : Reads looks m text value fill)
    (second : Reads looks' (next value) text' result fill') (opens : looks = true -> Opens text') :
    Reads looks' (m >>= next) (text ++ text') result (fill' ∘ fill) := by
  intro uj object rest left delimited
  rw [chars_append, List.append_assoc] at left
  rcases first uj object _ left (fun asked => opens asked rest) with ⟨uj₁, done, middle, -⟩
  rw [bind_ok done]
  exact second uj₁ (fill object) rest middle delimited

theorem Reads.after {m : Uj α} (first : Scans looks m text value)
    (second : Reads looks' (next value) text' result fill) (opens : looks = true -> Opens text') :
    Reads looks' (Routine.onFirst m >>= next) (text ++ text') result fill :=
  Reads.bind first.onFirst second opens

theorem Reads.before {next : α -> Uj β} (first : Reads looks m text value fill)
    (second : Scans looks' (next value) text' result) (opens : looks = true -> Opens text') :
    Reads looks' (m >>= fun value => Routine.onFirst (next value)) (text ++ text') result fill := by
  change Reads looks' _ (text ++ text') result (id ∘ fill)
  exact Reads.bind first second.onFirst opens

theorem Scans.map {m : Uj α} {next : α -> Uj β} (scans : Scans looks m text value)
    (returns : next value = pure result) : Scans looks (m >>= next) text result := by
  intro uj rest left delimited
  rcases scans uj rest left delimited with ⟨uj', done, after⟩
  refine ⟨uj', ?_, after⟩
  rw [bind_ok done, returns]
  rfl

theorem Reads.map {fill' : τ -> τ} (reads : Reads looks m text value fill)
    (returns : forall s object,
      next value (s, some (fill object)) = (.ok result, s, some (fill' object))) :
    Reads looks (m >>= next) text result fill' := by
  intro uj object rest left delimited
  rcases reads uj object rest left delimited with ⟨uj', done, after⟩
  refine ⟨uj', ?_, after⟩
  rw [bind_ok done, returns]

theorem Reads.ahead (reads : Reads false m text value fill) :
    Reads true m text value fill := by
  intro uj object rest left _
  rcases reads uj object rest left nofun
    with ⟨uj', done, after, -⟩
  exact ⟨uj', done, after, fun stops => Bool.noConfusion stops⟩

theorem Reads.looking (reads : Reads looks m text value fill) :
    Reads true m text value fill := by
  cases looks with
  | true => exact reads
  | false => exact reads.ahead

end Sequences

/-! ## Loops -/

section Loops

variable {looks looks' : Bool} {text text' : List (BitVec 8)} {start next : β} {result : α}

/-- The loops of the parsers. -/
abbrev parseLoop (body : β -> UjOn τ (β ⊕ α)) (start : β) : UjOn τ α :=
  repeatedly (fun s => s.1.remaining) .endless body start

theorem Reads.last {body : β -> UjOn τ (β ⊕ α)} {fill : τ -> τ}
    (round : Reads looks (body start) text (.inr result) fill) :
    Reads looks (parseLoop body start) text result fill := by
  intro uj object rest left delimited
  rcases round uj object rest left delimited with ⟨uj', done, after⟩
  exact ⟨uj', repeatedly_last done, after⟩

/-- A round that reads something can be followed by others. -/
theorem Reads.more {body : β -> UjOn τ (β ⊕ α)} {fill fill' : τ -> τ}
    (round : Reads looks (body start) text (.inl next) fill)
    (others : Reads looks' (parseLoop body next) text' result fill')
    (opens : looks = true -> Opens text') (something : text ≠ []) :
    Reads looks' (parseLoop body start) (text ++ text') result (fill' ∘ fill) := by
  intro uj object rest left delimited
  rw [chars_append, List.append_assoc] at left
  rcases round uj object _ left (fun asked => opens asked rest) with ⟨uj₁, done, middle, -⟩
  rcases others uj₁ (fill object) rest middle delimited with ⟨uj', ended, after⟩
  refine ⟨uj', repeatedly_more done ?_ ended nofun, after⟩
  dsimp only
  rw [remaining_eq, remaining_eq, left, middle, List.length_append, List.length_append,
    chars_length, chars_length, List.length_append, chars_length]
  exact Nat.lt_add_of_pos_left (List.length_pos_iff.mpr something)

end Loops

/-! ## Single characters -/

theorem scans_getc (ch : BitVec 8) : Scans false ujsonGetc [ch] ch := by
  intro uj rest left _
  unfold pending at left
  unfold ujsonGetc
  cases buffer : uj.buffer with
  | some ch' =>
      rw [buffer] at left
      injection left with same incoming
      injection same with same
      refine ⟨{ uj with buffer := none }, ?_, incoming, fun _ => rfl⟩
      rw [same]
  | none =>
      rw [buffer] at left
      have incoming : uj.ioContext.incoming = .ok ch :: rest := left
      unfold Channel.getc
      rw [incoming]
      exact ⟨_, rfl, rfl, fun _ => rfl⟩

/-- Nothing is read at the end of the input. -/
theorem getc_ended (left : pending uj = []) :
    ujsonGetc uj = (.error (.status uj.ioContext.ended), uj) := by
  rcases uj with ⟨⟨incoming, ended, refusals, traffic⟩, buffer, crc⟩
  rcases List.append_eq_nil_iff.mp left with ⟨none, nothing⟩
  cases buffer with
  | some ch => cases none
  | none =>
      cases incoming with
      | nil => rfl
      | cons result rest => cases nothing

theorem scans_consumeWhitespace (dark : isSpace ch = false) :
    Scans false consumeWhitespace [ch] ch := by
  intro uj rest left delimited
  have round : Scans false (consumeWhitespaceRound ()) [ch] (.inr ch) := by
    apply (scans_getc ch).map
    rw [dark]
    rfl
  rcases round uj rest left delimited with ⟨uj', done, after⟩
  exact ⟨uj', repeatedly_last done, after⟩

theorem scans_consume (dark : isSpace ch = false) :
    Scans false (ujsonConsume ch) [ch] () :=
  (scans_consumeWhitespace dark).map (if_neg (fun different => different rfl))

theorem scans_consumeMaybe (dark : isSpace ch = false) :
    Scans false (ujsonConsumeMaybe ch) [ch] true :=
  (scans_consumeWhitespace dark).map (if_neg (fun different => different rfl))

/-- A character can be pushed back where none has been. -/
theorem ungetc_empty (empty : uj.buffer = none) (ch : BitVec 8) :
    Exists fun uj' => ujsonUngetc ch uj = (.ok (), uj') ∧ pending uj' = .ok ch :: pending uj := by
  refine ⟨{ uj with buffer := some ch }, ?_, ?_⟩
  · unfold ujsonUngetc
    rw [empty]
    rfl
  · rw [pending, pending, empty]
    rfl

/-- Another character is pushed back. -/
theorem consumeMaybe_other {rest : List (Except Error (BitVec 8))}
    (left : pending uj = .ok got :: rest) (dark : isSpace got = false) (other : ch ≠ got) :
    Exists fun uj' => ujsonConsumeMaybe ch uj = (.ok false, uj') ∧ pending uj' = .ok got :: rest := by
  rcases scans_consumeWhitespace dark uj rest left nofun
    with ⟨uj', done, after, empty⟩
  rcases ungetc_empty (empty rfl) got with ⟨uj'', pushed, back⟩
  refine ⟨uj'', ?_, back.trans (congrArg _ after)⟩
  unfold ujsonConsumeMaybe
  rw [bind_ok done, if_pos other, attempt_bind_apply, pushed]
  rfl

/-- A parser that looks for a character and finds another one. -/
theorem Reads.other {looks : Bool} {next : Bool -> UjOn τ α} {fill : τ -> τ}
    (reads : Reads looks (next false) (got :: text) value fill) (dark : isSpace got = false)
    (other : ch ≠ got) :
    Reads looks (Routine.onFirst (ujsonConsumeMaybe ch) >>= next) (got :: text) value fill := by
  intro uj object rest left delimited
  rcases consumeMaybe_other left dark other with ⟨uj', done, after⟩
  rcases reads uj' object rest after delimited with ⟨uj'', ended⟩
  refine ⟨uj'', ?_, ended.2⟩
  rw [bind_apply, onFirst_apply, done]
  exact ended.1

/-- The same for a parser that fills no object. -/
theorem Scans.other {looks : Bool} {next : Bool -> Uj α}
    (scans : Scans looks (next false) (got :: text) value) (dark : isSpace got = false)
    (other : ch ≠ got) :
    Scans looks (ujsonConsumeMaybe ch >>= next) (got :: text) value := by
  intro uj rest left delimited
  rcases consumeMaybe_other left dark other with ⟨uj', done, after⟩
  rcases scans uj' rest after delimited with ⟨uj'', ended⟩
  refine ⟨uj'', ?_, ended.2⟩
  rw [bind_ok done]
  exact ended.1

end

end Ujson
end SunburstChip
