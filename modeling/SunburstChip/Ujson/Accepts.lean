import SunburstChip.Ujson.NumberText

namespace SunburstChip
namespace Ujson

open Routine

/-!
# The language of a parser

Where `Scans` follows a parser along one text, `Accepts` says which texts there
are for a parser to take: it returns a value, and leaves a rest of the input,
exactly where one of the texts for that value stands in front of that rest.  The
languages of a sequence are joined text by text.

The literals of booleans are read character by character through a function that
skips white space, so the language of a boolean is larger than it should be.
-/

variable {α β : Type}

/-- The parser returns a value exactly behind a text of its language. -/
def Accepts (m : Uj α) (language : α -> List (BitVec 8) -> Prop) : Prop :=
  forall uj value rest,
    (Exists fun uj' => m uj = (.ok value, uj') ∧ pending uj' = rest) ↔
      Exists fun text => language value text ∧ pending uj = chars text ++ rest

/-! ## Sequences -/

theorem accepts_pure (value : α) :
    Accepts (pure value) (fun result text => result = value ∧ text = []) := by
  intro uj result rest
  constructor
  · rintro ⟨uj', done, left⟩
    cases done
    exact ⟨[], ⟨rfl, rfl⟩, left⟩
  · rintro ⟨text, ⟨rfl, rfl⟩, left⟩
    exact ⟨uj, rfl, left⟩

theorem accepts_raise (reason : Stop) : Accepts (raise reason : Uj α) (fun _ _ => False) := by
  intro uj result rest
  constructor
  · rintro ⟨uj', done, left⟩
    cases done
  · rintro ⟨text, none, left⟩
    exact none.elim

variable {language : α -> List (BitVec 8) -> Prop} {m : Uj α} {uj uj' : Ujson} {ch : BitVec 8}

theorem Accepts.bind {next : α -> Uj β} {further : α -> β -> List (BitVec 8) -> Prop}
    (first : Accepts m language) (second : forall value, Accepts (next value) (further value)) :
    Accepts (m >>= next) (fun result text =>
      Exists fun value => Exists fun front => Exists fun back =>
        text = front ++ back ∧ language value front ∧ further value result back) := by
  intro uj result rest
  constructor
  · rintro ⟨uj', done, left⟩
    cases ended : m uj with
    | mk out middle =>
        cases out with
        | error reason =>
            rw [bind_error ended] at done
            cases done
        | ok value =>
            rw [bind_ok ended] at done
            rcases (first uj value (pending middle)).mp ⟨middle, ended, rfl⟩ with
              ⟨front, taken, before⟩
            rcases (second value middle result rest).mp ⟨uj', done, left⟩ with
              ⟨back, taken', between⟩
            refine ⟨front ++ back, ⟨value, front, back, rfl, taken, taken'⟩, ?_⟩
            rw [before, between, chars_append, List.append_assoc]
  · rintro ⟨text, ⟨value, front, back, rfl, taken, taken'⟩, before⟩
    rw [chars_append, List.append_assoc] at before
    rcases (first uj value _).mpr ⟨front, taken, before⟩ with ⟨middle, ended, between⟩
    rcases (second value middle result rest).mpr ⟨back, taken', between⟩ with ⟨uj', done, left⟩
    exact ⟨uj', (bind_ok ended next).trans done, left⟩

theorem Accepts.ite {condition : Prop} [Decidable condition] {m' : Uj α}
    {language' : α -> List (BitVec 8) -> Prop} (pos : Accepts m language)
    (neg : Accepts m' language') :
    Accepts (if condition then m else m')
      (fun value text => if condition then language value text else language' value text) := by
  split
  · exact pos
  · exact neg

theorem Accepts.congr {language' : α -> List (BitVec 8) -> Prop} (accepts : Accepts m language)
    (same : forall value text, language value text ↔ language' value text) :
    Accepts m language' := by
  have equal : language = language' := by
    funext value text
    exact propext (same value text)
  rw [<- equal]
  exact accepts

/-! ## Characters and white space -/

/-- A character that has been read was the next one, and none is left over. -/
theorem getc_ok (done : ujsonGetc uj = (.ok ch, uj')) :
    pending uj = .ok ch :: pending uj' ∧ uj'.buffer = none := by
  rcases uj with ⟨⟨incoming, ended, refusals, traffic⟩, buffer, crc⟩
  cases buffer with
  | some kept =>
      cases done
      exact ⟨rfl, rfl⟩
  | none =>
      rcases incoming with _ | ⟨error | next, incoming⟩
      · cases done
      · cases done
      · cases done
        exact ⟨rfl, rfl⟩

/-- What the code takes for white space. -/
def Blank (text : List (BitVec 8)) : Prop := forall ch, ch ∈ text -> isSpace ch = true

theorem blank_nil : Blank [] := fun _ inside => absurd inside List.not_mem_nil

/-- White space, as JSON has it. -/
def JsonSpace (text : List (BitVec 8)) : Prop :=
  forall ch, ch ∈ text -> ch = 0x20 ∨ ch = 0x09 ∨ ch = 0x0a ∨ ch = 0x0d

theorem JsonSpace.blank {text : List (BitVec 8)} (space : JsonSpace text) : Blank text := by
  intro ch inside
  rcases space ch inside with rfl | rfl | rfl | rfl <;> rfl

/-- White space is skipped up to the first character that is none. -/
theorem scans_blank {space : List (BitVec 8)} (blank : Blank space) (dark : isSpace ch = false) :
    Scans false consumeWhitespace (space ++ [ch]) ch := by
  induction space with
  | nil => exact scans_consumeWhitespace dark
  | cons first space ih =>
      have others := ih (fun ch inside => blank ch (List.mem_cons_of_mem first inside))
      have light := blank first List.mem_cons_self
      intro uj rest before stops
      have round : Scans false (consumeWhitespaceRound ()) [first] (.inl ()) := by
        apply (scans_getc first).map
        rw [light]
        rfl
      rcases round uj _ before nofun with ⟨middle, done, between, _⟩
      rcases others middle rest between nofun with ⟨uj', ended, left⟩
      refine ⟨uj', repeatedly_more done ?_ ended nofun, left⟩
      rw [remaining_eq, remaining_eq, before, between]
      exact Nat.lt_succ_self _

theorem rounds_consumeWhitespace {fuel : Nat}
    (done : rounds .endless consumeWhitespaceRound fuel () uj = (.ok ch, uj')) :
    Exists fun space => Blank space ∧ isSpace ch = false ∧
      pending uj = chars (space ++ [ch]) ++ pending uj' ∧ uj'.buffer = none := by
  induction fuel generalizing uj with
  | zero => cases done
  | succ fuel ih =>
      rw [rounds_succ] at done
      cases read : ujsonGetc uj with
      | mk out middle =>
          unfold consumeWhitespaceRound at done
          cases out with
          | error reason =>
              rw [bind_error read] at done
              cases done
          | ok first =>
              have next := getc_ok read
              rw [bind_ok read] at done
              cases light : isSpace first with
              | false =>
                  rw [light] at done
                  cases done
                  exact ⟨[], blank_nil, light, next⟩
              | true =>
                  rw [light] at done
                  rcases ih done with ⟨space, blank, dark, behind, empty⟩
                  refine ⟨first :: space, ?_, dark, ?_, empty⟩
                  · intro ch inside
                    rcases List.mem_cons.mp inside with rfl | inside
                    · exact light
                    · exact blank ch inside
                  · rw [next.1, behind]
                    rfl

theorem consumeWhitespace_ok (done : consumeWhitespace uj = (.ok ch, uj')) :
    Exists fun space => Blank space ∧ isSpace ch = false ∧
      pending uj = chars (space ++ [ch]) ++ pending uj' ∧ uj'.buffer = none :=
  rounds_consumeWhitespace done

theorem accepts_consumeWhitespace : Accepts consumeWhitespace (fun ch text =>
    isSpace ch = false ∧ Exists fun space => Blank space ∧ text = space ++ [ch]) := by
  intro uj ch rest
  constructor
  · rintro ⟨uj', done, left⟩
    rcases consumeWhitespace_ok done with ⟨space, blank, dark, before, _⟩
    exact ⟨_, ⟨dark, space, blank, rfl⟩, left ▸ before⟩
  · rintro ⟨text, ⟨dark, space, blank, rfl⟩, before⟩
    rcases scans_blank blank dark uj rest before nofun with ⟨uj', done, left, _⟩
    exact ⟨uj', done, left⟩

theorem accepts_consume (dark : isSpace ch = false) :
    Accepts (ujsonConsume ch) (fun _ text =>
      Exists fun space => Blank space ∧ text = space ++ [ch]) := by
  have found : forall got, Accepts (if ch ≠ got then raise (ujsonError .kNotFound 95 (by decide))
      else pure ()) _ := fun _ => (accepts_raise _).ite (accepts_pure ())
  apply (accepts_consumeWhitespace.bind found).congr
  intro value text
  constructor
  · rintro ⟨got, front, back, rfl, ⟨_, space, blank, rfl⟩, found⟩
    split at found
    · exact found.elim
    · next same =>
        rw [found.2, List.append_nil, not_not.mp same]
        exact ⟨space, blank, rfl⟩
  · rintro ⟨space, blank, rfl⟩
    refine ⟨ch, _, [], (List.append_nil _).symm, ⟨dark, space, blank, rfl⟩, ?_⟩
    rw [if_neg (fun different => different rfl)]
    exact ⟨rfl, rfl⟩

/-! ## Booleans -/

/-- The literal of a boolean: its first character, and the others. -/
def boolLiteral : Bool -> BitVec 8 × List (BitVec 8)
  | true => (0x74, [0x72, 0x75, 0x65])
  | false => (0x66, [0x61, 0x6c, 0x73, 0x65])

theorem boolText_eq (value : Bool) :
    boolText value = (boolLiteral value).1 :: (boolLiteral value).2 := by
  cases value <;> decide

/-- A text of these characters, with white space in front of some of them. -/
def Spread : List (BitVec 8) -> List (BitVec 8) -> Prop
  | [], text => text = []
  | ch :: characters, text => Exists fun space => Exists fun behind =>
      Blank space ∧ text = space ++ ch :: behind ∧ Spread characters behind

/-- A boolean is read exactly where JSON has one, and nothing else is consumed. -/
def BoolGrammar (uj : Ujson) : Prop :=
  forall value rest,
    (Exists fun uj' => ujsonDeserializeBool uj = (.ok value, uj') ∧ pending uj' = rest) ↔
      Exists fun space => JsonSpace space ∧ pending uj = chars (space ++ boolText value) ++ rest

/-- The input begins with the characters of a literal, and there is white space between
them, or white space in front of them that JSON does not have. -/
def SpreadLiteral (input : List (Except Error (BitVec 8))) : Prop :=
  Exists fun value => Exists fun space => Exists fun behind => Exists fun rest =>
    Blank space ∧ Spread (boolLiteral value).2 behind ∧
    input = chars (space ++ (boolLiteral value).1 :: behind) ++ rest ∧
    (behind ≠ (boolLiteral value).2 ∨ ¬ JsonSpace space)

theorem spread_self (characters : List (BitVec 8)) : Spread characters characters := by
  induction characters with
  | nil => rfl
  | cons ch characters ih =>
      exact ⟨[], characters, blank_nil, rfl, ih⟩

/-- One more character of a literal. -/
theorem Accepts.letter {characters : List (BitVec 8)} {m : Uj Bool} {value : Bool}
    (dark : isSpace ch = false)
    (others : Accepts m (fun result text => result = value ∧ Spread characters text)) :
    Accepts (ujsonConsume ch >>= fun _ => m)
      (fun result text => result = value ∧ Spread (ch :: characters) text) := by
  apply ((accepts_consume dark).bind (fun _ => others)).congr
  intro result text
  constructor
  · rintro ⟨_, front, back, rfl, ⟨space, blank, rfl⟩, same, spread⟩
    exact ⟨same, space, back, blank, List.append_assoc .., spread⟩
  · rintro ⟨same, space, back, blank, rfl, spread⟩
    have joined : space ++ ch :: back = space ++ [ch] ++ back := List.append_cons space ch back
    exact ⟨(), space ++ [ch], back, joined, ⟨space, blank, rfl⟩, same, spread⟩

theorem accepts_literal (value : Bool) :
    Accepts (pure value) (fun result text => result = value ∧ Spread [] text) := accepts_pure value

/-- What the code takes for a boolean. -/
theorem accepts_deserializeBool : Accepts ujsonDeserializeBool (fun value text =>
    Exists fun space => Exists fun behind => Blank space ∧
      Spread (boolLiteral value).2 behind ∧ text = space ++ (boolLiteral value).1 :: behind) := by
  have isTrue := (accepts_literal true).letter (show isSpace 0x65 = false by decide)
    |>.letter (show isSpace 0x75 = false by decide)
    |>.letter (show isSpace 0x72 = false by decide)
  have isFalse := (accepts_literal false).letter (show isSpace 0x65 = false by decide)
    |>.letter (show isSpace 0x73 = false by decide)
    |>.letter (show isSpace 0x6c = false by decide)
    |>.letter (show isSpace 0x61 = false by decide)
  have neither : forall got, Accepts (do
      let _ <- attempt (ujsonUngetc got)
      raise (ujsonError .kNotFound 202 (by decide))) (fun (_ : Bool) _ => False) := by
    intro got uj value rest
    constructor
    · rintro ⟨uj', done, left⟩
      cases done
    · rintro ⟨text, none, left⟩
      exact none.elim
  have letters : forall got : BitVec 8, Accepts (if got = 0x74 then _ else if got = 0x66 then _
      else _) _ := fun got => isTrue.ite (isFalse.ite (neither got))
  apply (accepts_consumeWhitespace.bind letters).congr
  intro value text
  constructor
  · rintro ⟨got, front, behind, rfl, ⟨_, space, blank, rfl⟩, found⟩
    split at found
    · next first =>
        rcases found with ⟨rfl, spread⟩
        refine ⟨space, behind, blank, spread, ?_⟩
        rw [first, List.append_assoc]
        rfl
    · split at found
      · next first =>
          rcases found with ⟨rfl, spread⟩
          refine ⟨space, behind, blank, spread, ?_⟩
          rw [first, List.append_assoc]
          rfl
      · exact found.elim
  · rintro ⟨space, behind, blank, spread, rfl⟩
    have joined := List.append_cons space (boolLiteral value).1 behind
    cases value with
    | true =>
        refine ⟨0x74, space ++ [0x74], behind, joined, ⟨rfl, space, blank, rfl⟩, ?_⟩
        exact ⟨rfl, spread⟩
    | false =>
        refine ⟨0x66, space ++ [0x66], behind, joined, ⟨rfl, space, blank, rfl⟩, ?_⟩
        exact ⟨rfl, spread⟩

theorem chars_append_cancel {text text' : List (BitVec 8)} {rest : List (Except Error (BitVec 8))}
    (same : chars text ++ rest = chars text' ++ rest) : text = text' := by
  have characters := List.append_cancel_right same
  exact (List.map_inj_right (fun a b => Except.ok.inj)).mp characters

/-- White space ends at a character that is none. -/
theorem blank_unique {space space' behind behind' : List (BitVec 8)} {ch' : BitVec 8}
    (blank : Blank space) (blank' : Blank space') (dark : isSpace ch = false)
    (dark' : isSpace ch' = false) (same : space ++ ch :: behind = space' ++ ch' :: behind') :
    space = space' ∧ ch = ch' ∧ behind = behind' := by
  induction space generalizing space' with
  | nil =>
      cases space' with
      | nil => exact ⟨rfl, List.cons.inj same⟩
      | cons first space' =>
          have light := blank' first List.mem_cons_self
          rw [<- (List.cons.inj same).1, dark] at light
          cases light
  | cons first space ih =>
      cases space' with
      | nil =>
          have light := blank first List.mem_cons_self
          rw [(List.cons.inj same).1, dark'] at light
          cases light
      | cons first' space' =>
          rcases List.cons.inj same with ⟨rfl, others⟩
          rcases ih (fun ch inside => blank ch (List.mem_cons_of_mem first inside))
            (fun ch inside => blank' ch (List.mem_cons_of_mem first inside)) others with
            ⟨rfl, rest⟩
          exact ⟨rfl, rest⟩

theorem boolLiteral_dark (value : Bool) : isSpace (boolLiteral value).1 = false := by
  cases value <;> decide

/-- The code follows the grammar exactly where no literal is spread. -/
theorem boolGrammar_iff (uj : Ujson) : BoolGrammar uj ↔ ¬ SpreadLiteral (pending uj) := by
  constructor
  · rintro grammar ⟨value, space, behind, rest, blank, spread, input, wrong⟩
    have read := (accepts_deserializeBool uj value rest).mpr
      ⟨_, ⟨space, behind, blank, spread, rfl⟩, input⟩
    rcases (grammar value rest).mp read with ⟨space', json, input'⟩
    have same := chars_append_cancel (input.symm.trans input')
    rw [boolText_eq] at same
    rcases blank_unique blank json.blank (boolLiteral_dark value) (boolLiteral_dark value) same with
      ⟨rfl, _, rfl⟩
    exact wrong.elim (fun different => different rfl) (fun other => other json)
  · intro kept value rest
    constructor
    · intro read
      rcases (accepts_deserializeBool uj value rest).mp read with
        ⟨text, ⟨space, behind, blank, spread, rfl⟩, input⟩
      have right : behind = (boolLiteral value).2 ∧ JsonSpace space := by
        by_contra wrong
        rw [not_and_or] at wrong
        exact kept ⟨value, space, behind, rest, blank, spread, input, wrong⟩
      rcases right with ⟨rfl, json⟩
      rw [<- boolText_eq] at input
      exact ⟨space, json, input⟩
    · rintro ⟨space, json, input⟩
      rw [boolText_eq] at input
      exact (accepts_deserializeBool uj value rest).mpr
        ⟨_, ⟨space, _, json.blank, spread_self _, rfl⟩, input⟩

/-- `t rue` is taken for `true`. -/
theorem boolGrammar_apart : ¬ BoolGrammar (delivering (ascii "t rue")) := by
  intro grammar
  have gap : Blank [0x20] := by
    intro ch inside
    rw [List.mem_singleton.mp inside]
    rfl
  have spread : Spread (boolLiteral true).2 (ascii " rue") :=
    ⟨[0x20], [0x75, 0x65], gap, rfl, spread_self _⟩
  have read := (accepts_deserializeBool (delivering (ascii "t rue")) true []).mpr
    ⟨_, ⟨[], _, blank_nil, spread, rfl⟩, rfl⟩
  rcases (grammar true []).mp read with ⟨space, json, input⟩
  have same : [] ++ (boolLiteral true).1 :: ascii " rue" = space ++ boolText true :=
    chars_append_cancel input
  rw [boolText_eq] at same
  have behind := (blank_unique blank_nil json.blank (boolLiteral_dark true) (boolLiteral_dark true)
    same).2.2
  exact absurd behind (by decide)

end Ujson
end SunburstChip
