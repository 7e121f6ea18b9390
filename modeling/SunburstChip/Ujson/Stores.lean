import SunburstChip.Ujson.RoundTrip
import SunburstChip.Ujson.StatusStack

namespace SunburstChip
namespace Ujson

open Routine

/-!
# Where the fields of a struct are stored

The generated functions go through an array with a pointer.  The loop over the
innermost dimension counts the elements it has parsed, the loops around it do
not, and every string of an array is parsed with the size of the whole array.
So it depends on the description whether there is a text that makes a function
store something outside the element it is for.

An object that is not there stands for all places a pointer should not have gone
to.  Nothing can be stored in it, and trying to ends the run.
-/

variable {τ τ' α β : Type} {size : Nat}

/-- A routine that accesses its local arrays inside their bounds. -/
abbrev InRange (m : Uj α) : Prop := Avoids Stop.outOfRange (fun _ => True) m

/-- A routine that stores everything inside an object that is there, and nothing
if it is not there. -/
abbrev Confined (there : Bool) (m : UjOn τ α) : Prop :=
  Avoids Stop.outOfRange (fun s => s.2.isSome = there) m

/-! ## Reading characters -/

theorem ujsonError_ne (code : AbslStatus) (line : Nat) (isError : code ≠ .kOk) :
    ujsonError code line isError ≠ .outOfRange := nofun

theorem endless_ne : Stop.endless ≠ .outOfRange := nofun

theorem inRange_getc : InRange ujsonGetc := by
  intro uj _
  unfold ujsonGetc
  split
  · trivial
  · split
    · trivial
    · exact nofun

/-- However a routine has ended, the next one can go on. -/
theorem inRange_attempt (m : Uj α) : InRange (attempt m) := fun _ _ => trivial

theorem inRange_ungetc (ch : BitVec 8) : InRange (ujsonUngetc ch) := by
  intro uj _
  unfold ujsonUngetc
  split
  · exact ujsonError_ne _ _ _
  · trivial

theorem inRange_consumeWhitespace : InRange consumeWhitespace := by
  apply avoids_repeatedly endless_ne
  intro _
  exact avoids_bind inRange_getc (fun ch => avoids_pure _)

theorem inRange_consume (ch : BitVec 8) : InRange (ujsonConsume ch) := by
  apply avoids_bind inRange_consumeWhitespace
  intro got
  exact avoids_ite (fun _ => avoids_raise (ujsonError_ne _ _ _)) (fun _ => avoids_pure _)

theorem inRange_consumeMaybe (ch : BitVec 8) : InRange (ujsonConsumeMaybe ch) := by
  apply avoids_bind inRange_consumeWhitespace
  intro got
  apply avoids_ite
  · intro _
    exact avoids_bind (inRange_attempt _) (fun _ => avoids_pure _)
  · exact fun _ => avoids_pure _

theorem inRange_consumeHex : InRange consumeHex := by
  have digit : InRange consumeHexdigit := by
    apply avoids_bind inRange_getc
    intro ch
    apply avoids_ite (fun _ => avoids_pure _)
    intro _
    apply avoids_ite (fun _ => avoids_pure _)
    intro _
    exact avoids_ite (fun _ => avoids_pure _) (fun _ => avoids_raise (ujsonError_ne _ _ _))
  apply avoids_bind digit
  intro a
  apply avoids_bind digit
  intro b
  apply avoids_bind digit
  intro c
  exact avoids_bind digit (fun d => avoids_pure _)

theorem inRange_unescape (ch : BitVec 8) : InRange (unescape ch) := by
  apply avoids_ite
  · intro _
    apply avoids_bind inRange_getc
    intro ch
    apply avoids_ite (fun _ => avoids_pure _)
    intro _
    apply avoids_ite (fun _ => avoids_pure _)
    intro _
    apply avoids_ite (fun _ => avoids_pure _)
    intro _
    apply avoids_ite (fun _ => avoids_pure _)
    intro _
    apply avoids_ite (fun _ => avoids_pure _)
    intro _
    apply avoids_ite (fun _ => avoids_pure _)
    intro _
    apply avoids_ite
    · intro _
      exact avoids_bind inRange_consumeHex (fun hex => avoids_pure _)
    · exact fun _ => avoids_raise (ujsonError_ne _ _ _)
  · exact fun _ => avoids_pure _

theorem inRange_parseText (len : BitVec 32) : InRange (parseText len) := by
  apply avoids_bind (inRange_consume quote)
  intro _
  apply avoids_repeatedly endless_ne
  intro state
  apply avoids_bind inRange_getc
  intro ch
  apply avoids_ite (fun _ => avoids_pure _)
  intro _
  exact avoids_bind (inRange_unescape ch) (fun ch => avoids_pure _)

theorem inRange_parseLocal (bytes : Leftover) (some : 0 < size) (bound : size < 2 ^ 32) :
    InRange (parseLocal bytes size) := by
  rw [parseLocal_eq bytes some bound]
  exact avoids_bind (inRange_parseText _) (fun text => avoids_pure _)

/-- What a string that is parsed into a local array can be. -/
theorem parseLocal_fits {bytes : Leftover} {uj uj' : Ujson} {string : List (BitVec 8)}
    (parsed : parseLocal bytes size uj = (.ok string, uj')) : string.length < size ∧ 0 ∉ string := by
  unfold parseLocal at parsed
  rw [bind_apply] at parsed
  generalize onLocal (bytes.array size) (ujsonParseQs (.ofNat 32 size)) uj = ended at parsed
  rcases ended with ⟨reason | array, uj₁⟩
  · cases parsed
  · change stringIn array uj₁ = _ at parsed
    unfold stringIn at parsed
    cases is : cString array with
    | none =>
        rw [is] at parsed
        cases parsed
    | some string' =>
        rw [is] at parsed
        cases parsed
        exact cString_bounds is

/-! ## Values -/

theorem inRange_parseInteger : InRange ujsonParseInteger := by
  apply avoids_bind inRange_consumeWhitespace
  intro ch
  apply avoids_bind (avoids_ite (fun _ => inRange_getc) (fun _ => avoids_pure _))
  intro digit
  apply avoids_ite (fun _ => avoids_raise (ujsonError_ne _ _ _))
  intro _
  apply avoids_bind
  · apply avoids_repeatedly endless_ne
    intro state
    apply avoids_bind (inRange_attempt _)
    intro s
    cases s with
    | error stop => exact avoids_pure _
    | ok ch => exact avoids_pure _
  · rintro ⟨value, _ | after⟩
    · exact avoids_bind (avoids_pure ()) (fun _ => avoids_pure _)
    · exact avoids_bind (inRange_ungetc after) (fun _ => avoids_pure _)

theorem inRange_deserializeInteger (width : Nat) : InRange (deserializeInteger width) :=
  avoids_bind inRange_parseInteger (fun _ => avoids_pure _)

theorem inRange_deserializeBool : InRange ujsonDeserializeBool := by
  apply avoids_bind inRange_consumeWhitespace
  intro got
  apply avoids_ite
  · intro _
    apply avoids_bind (inRange_consume _)
    intro _
    apply avoids_bind (inRange_consume _)
    intro _
    exact avoids_bind (inRange_consume _) (fun _ => avoids_pure _)
  · intro _
    apply avoids_ite
    · intro _
      apply avoids_bind (inRange_consume _)
      intro _
      apply avoids_bind (inRange_consume _)
      intro _
      apply avoids_bind (inRange_consume _)
      intro _
      exact avoids_bind (inRange_consume _) (fun _ => avoids_pure _)
    · intro _
      exact avoids_bind (inRange_attempt _)
        (fun _ => avoids_raise (ujsonError_ne _ _ _))

/-! ## Objects -/

variable {there : Bool}

theorem Confined.onFirst {m : Uj α} (inRange : InRange m) :
    Confined there (Routine.onFirst m : UjOn τ α) := by
  rintro ⟨uj, object⟩ holds
  have outcome := inRange uj trivial
  rw [onFirst_apply]
  generalize m uj = ended at outcome ⊢
  rcases ended with ⟨reason | value, uj'⟩
  · exact outcome
  · exact holds

theorem confined_assign (value : τ) : Confined true (assign value) := by
  rintro ⟨uj, object⟩ held
  rcases Option.isSome_iff_exists.mp held with ⟨before, is⟩
  have is : object = some before := is
  rw [is]
  exact Eq.refl true

variable {m : UjOn τ α} {expr : Nat -> UjOn τ Unit} {dims : List Nat} {key : List (BitVec 8)}

theorem Confined.onLocal (confined : Confined true m) (contents : τ) :
    InRange (Ujson.onLocal contents m) := by
  intro uj _
  have outcome := confined (uj, some contents) rfl
  unfold Ujson.onLocal
  generalize m (uj, some contents) = ended at outcome ⊢
  rcases ended with ⟨reason | value, uj', object⟩
  · exact outcome
  · trivial

/-- A routine on another object, of which something is left where there was something. -/
theorem Confined.elsewhere {m : UjOn τ' α} {there' : Bool} (confined : Confined there' m)
    {uj : Ujson} {object : Option τ} {other : Option τ'} (holds : object.isSome = there)
    (held : other.isSome = there') (replace : Option τ' -> τ -> τ) :
    Spared Stop.outOfRange (fun s : Ujson × Option τ => s.2.isSome = there) (m (uj, other)).1
      ((m (uj, other)).2.1, object.map (replace (m (uj, other)).2.2)) := by
  have outcome := confined (uj, other) held
  generalize m (uj, other) = ended at outcome ⊢
  rcases ended with ⟨reason | value, uj', object'⟩
  · exact outcome
  · exact Option.isSome_map.trans holds

theorem Confined.onElement {index : Nat} (confined : Confined there m) (inside : index < size) :
    Confined there (Ujson.onElement index m : UjOn (Fin size -> τ) α) := by
  rintro ⟨uj, object⟩ holds
  unfold Ujson.onElement
  rw [dif_pos inside]
  exact confined.elsewhere holds (Option.isSome_map.trans holds) (fun element array =>
    Function.update array ⟨index, inside⟩ (element.getD (array ⟨index, inside⟩)))

/-- Where a pointer has left an array. -/
theorem Confined.offElement {index : Nat} (confined : Confined false m) (outside : ¬ index < size) :
    Confined there (Ujson.onElement index m : UjOn (Fin size -> τ) α) := by
  rintro ⟨uj, object⟩ holds
  have outcome := confined (uj, none) rfl
  unfold Ujson.onElement
  rw [dif_neg outside]
  dsimp only
  generalize m (uj, none) = ended at outcome ⊢
  rcases ended with ⟨reason | value, uj', nothing⟩
  · exact outcome
  · exact holds

theorem Confined.onPart {part : τ -> τ'} {replace : τ' -> τ -> τ} {m : UjOn τ' α}
    (confined : Confined there m) : Confined there (Ujson.onPart part replace m) := by
  rintro ⟨uj, object⟩ holds
  exact confined.elsewhere holds (Option.isSome_map.trans holds)
    (fun filled object => replace (filled.getD (part object)) object)

theorem confined_deserializeNumber : Confined true deserializeNumber :=
  avoids_bind (Confined.onFirst (inRange_deserializeInteger 32)) confined_assign

theorem EnumDecl.confined (decl : EnumDecl) (stack : Stack) :
    Confined true (decl.deserialize stack) := by
  have string : InRange (parseLocal (stack .value) 128) := inRange_parseLocal _ (by decide) (by decide)
  apply avoids_bind (Confined.onFirst (inRange_consumeMaybe quote))
  intro named
  apply avoids_ite
  · intro _
    apply avoids_bind (Confined.onFirst (inRange_ungetc quote))
    intro _
    apply avoids_bind (Confined.onFirst string)
    intro value
    unfold EnumDecl.named
    split
    · exact confined_assign _
    · exact avoids_raise nofun
  · intro _
    apply avoids_bind (Confined.onFirst (inRange_consumeMaybe openBrace))
    intro braced
    apply avoids_ite
    · intro _
      apply avoids_bind (Confined.onFirst string)
      intro value
      apply avoids_bind (Confined.onFirst (inRange_consume colon))
      intro _
      apply avoids_ite
      · intro _
        exact avoids_bind confined_deserializeNumber
          (fun _ => Confined.onFirst (inRange_consume closeBrace))
      · exact fun _ => avoids_raise nofun
    · exact fun _ => confined_deserializeNumber

theorem inRange_statusParts (stack : Stack) : InRange (statusParts stack) := by
  have number := inRange_deserializeInteger 32
  apply avoids_bind (inRange_consume openBrace)
  intro _
  apply avoids_bind ((privateStatus.confined stack).onLocal _)
  intro code
  apply avoids_bind (inRange_consume colon)
  intro _
  apply avoids_bind (inRange_consumeMaybe openBracket)
  intro bracketed
  have closed (code : BitVec 32) (detail : Option (List (BitVec 8)) × BitVec 32) :
      InRange (ujsonConsume closeBrace >>= fun _ => pure (code, detail)) :=
    avoids_bind (inRange_consume closeBrace) (fun _ => avoids_pure _)
  apply avoids_ite
  · intro _
    refine avoids_bind ?_ (closed code)
    apply avoids_bind (inRange_parseText 4)
    intro text
    apply avoids_bind (inRange_consume comma)
    intro _
    apply avoids_bind number
    intro arg
    exact avoids_bind (inRange_consume closeBracket) (fun _ => avoids_pure _)
  · intro _
    refine avoids_bind ?_ (closed code)
    exact avoids_bind number (fun _ => avoids_pure _)

theorem Scalar.confined (stack : Stack) (type : Scalar) : Confined true (type.deserialize stack) := by
  refine avoids_bind (Confined.onFirst ?_) confined_assign
  cases type with
  | bool => exact inRange_deserializeBool
  | statusT =>
      change InRange (ujsonDeserializeStatusT stack)
      rw [deserializeStatusT_eq]
      exact avoids_bind (inRange_statusParts stack) (fun parts => avoids_pure _)
  | _ => exact inRange_deserializeInteger _

/-! ## Arrays -/

/-- The innermost dimension has no elements, and none is ever parsed. -/
def Idle (dims : List Nat) : Prop := dims.getLast? = some 0

/-- There are no dimensions, or all elements are counted. -/
def counted (dims : List Nat) : Bool := decide (dims.length <= 1)

theorem idle_cons (count count' : Nat) (dims : List Nat) :
    Idle (count :: count' :: dims) ↔ Idle (count' :: dims) := by
  unfold Idle
  rw [List.getLast?_cons_cons]

theorem Confined.items {σ : Type} (close : BitVec 8) {item : σ -> UjOn τ σ}
    (confined : forall state, Confined there (item state)) (state : σ) :
    Confined there (Ujson.items close item state) := by
  apply avoids_repeatedly endless_ne
  intro state
  apply avoids_bind (Confined.onFirst (inRange_consumeMaybe close))
  intro closed
  apply avoids_ite (fun _ => avoids_pure _)
  intro _
  exact avoids_bind (confined state) (fun _ => avoids_pure _)

theorem confined_separator (i : Nat) : Confined there (onFirst (separator i) : UjOn τ Unit) :=
  Confined.onFirst (avoids_ite (fun _ => inRange_consume comma) (fun _ => avoids_pure _))

/-- The loops over all dimensions, wherever the pointer goes to. -/
theorem confined_deLoop (dims : List Nat) (each : ¬ Idle dims -> forall p, Confined there (expr p))
    (p : Nat) :
    Confined there (deLoop expr dims p) := by
  induction dims generalizing p with
  | nil => exact avoids_bind (each nofun p) (fun _ => avoids_pure _)
  | cons count dims ih =>
      cases dims with
      | nil =>
          apply avoids_bind (Confined.onFirst (inRange_consume openBracket))
          intro _
          refine avoids_bind (Confined.items closeBracket ?_ (0, p)) (fun _ => avoids_pure _)
          intro state
          apply avoids_bind (confined_separator state.1)
          intro _
          apply avoids_ite
          · intro few
            have positive : ¬ Idle [count] :=
              fun idle => absurd (Option.some.inj idle) (Nat.ne_zero_of_lt few)
            exact avoids_bind (each positive state.2) (fun _ => avoids_pure _)
          · exact fun _ => avoids_pure _
      | cons count' dims =>
          apply avoids_bind (Confined.onFirst (inRange_consume openBracket))
          intro _
          refine avoids_bind (Confined.items closeBracket ?_ (0, p)) (fun _ => avoids_pure _)
          intro state
          apply avoids_bind (confined_separator state.1)
          intro _
          have row := ih (fun busy => each (fun idle => busy ((idle_cons _ _ _).mp idle))) state.2
          exact avoids_bind row (fun _ => avoids_pure _)

/-- The innermost loop keeps its pointer in step with its counter. -/
theorem confined_deItems {count : Nat} (each : forall p, p < count -> Confined there (expr p)) :
    Confined there (items closeBracket (deItem expr count) (0, 0)) := by
  intro s holds
  have loop := @Triple.rounds _ _ _ _
    (fun (state : Nat × Nat) (s : Ujson × Option τ) => state.1 = state.2 ∧ s.2.isSome = there)
    (Spared Stop.outOfRange (fun s => s.2.isSome = there)) Stop.endless
    (itemsRound closeBracket (deItem expr count)) ?_ (fun _ _ _ => endless_ne)
    (s.1.remaining + 1) (0, 0)
  · exact loop s ⟨rfl, holds⟩
  · rintro ⟨i, p⟩ s ⟨same, holds⟩
    have same : i = p := same
    subst same
    refine Triple.avoiding (Confined.onFirst (inRange_consumeMaybe closeBracket))
      (fun _ _ other => other) ?_ s holds
    intro closed
    cases closed with
    | true => exact fun _ holds => holds
    | false =>
        rw [if_neg Bool.false_ne_true, deItem, Routine.bind_assoc]
        refine Triple.avoiding (confined_separator i) (fun _ _ other => other) ?_
        intro _
        by_cases few : i < count
        · rw [if_pos few, Routine.bind_assoc]
          refine Triple.avoiding (each i few) (fun _ _ other => other) ?_
          exact fun _ _ holds => ⟨rfl, holds⟩
        · rw [if_neg few]
          exact fun _ holds => ⟨rfl, holds⟩

/-- With elements that are counted, the pointer stays in the array. -/
theorem confined_counted (few : counted dims = true)
    (each : forall p, p < extent dims -> Confined there (expr p)) :
    Confined there (deLoop expr dims 0) := by
  have few : dims.length <= 1 := of_decide_eq_true few
  match dims, few, each with
  | [], _, each => exact avoids_bind (each 0 Nat.zero_lt_one) (fun _ => avoids_pure _)
  | [count], _, each =>
      apply avoids_bind (Confined.onFirst (inRange_consume openBracket))
      intro _
      refine avoids_bind (confined_deItems ?_) (fun _ => avoids_pure _)
      intro p inside
      exact each p (by rw [extent, extent, Nat.mul_one]; exact inside)

theorem confined_deArray {expr : UjOn τ Unit} (inside : ¬ Idle dims -> Confined there expr)
    (outside : ¬ Idle dims -> counted dims = false -> Confined false expr) :
    Confined there (deArray dims expr : UjOn (Fin (extent dims) -> τ) Unit) := by
  refine avoids_bind ?_ (fun _ => avoids_pure _)
  cases few : counted dims with
  | true =>
      by_cases idle : Idle dims
      · exact confined_deLoop dims (fun busy => absurd idle busy) 0
      · exact confined_counted few (fun p within => (inside idle).onElement within)
  | false =>
      apply confined_deLoop
      intro busy p
      by_cases within : p < extent dims
      · exact (inside busy).onElement within
      · exact (outside busy few).offElement within

/-- A string leaves its array only if there is room for more characters than there
are in front of the null character. -/
theorem confined_deString {len : BitVec 32} (room : (len - 1).toNat < size) :
    Confined true (deString len : UjOn (Fin size -> BitVec 8) Unit) := by
  refine avoids_bind ?_ (fun _ => avoids_pure _)
  rintro ⟨uj, object⟩ held
  rcases Option.isSome_iff_exists.mp held with ⟨array, is⟩
  have is : object = some array := is
  subst is
  have together := parseQs_together array room uj
  have avoided := inRange_parseText len uj trivial
  generalize ujsonParseQs len (uj, some array) = ended at together ⊢
  generalize parseText len uj = ended' at together avoided
  rcases ended with ⟨reason | n, s⟩
  · rcases ended' with ⟨reason' | text, uj'⟩
    · rcases together with ⟨rfl, _⟩
      exact avoided
    · exact together.elim
  · rcases ended' with ⟨reason' | text, uj'⟩
    · exact together.elim
    · rcases together with ⟨_, _, rfl⟩
      exact Eq.refl true

/-! ## Structs -/

theorem confined_deStruct (stack : Stack) {deField : List (BitVec 8) -> UjOn τ Unit}
    (each : forall key, FitsKey key -> 0 ∉ key -> Confined there (deField key)) :
    Confined there (deStruct stack deField) := by
  apply avoids_bind (Confined.onFirst (inRange_consume openBrace))
  intro _
  refine avoids_bind (Confined.items closeBrace ?_ 0) (fun _ => avoids_pure _)
  intro nfield
  apply avoids_bind (confined_separator nfield)
  intro _
  apply avoids_bind_of (Confined.onFirst (inRange_parseLocal _ (by decide) (by decide)))
  rintro key ⟨s, s', parsed⟩
  rcases parseLocal_fits (onFirst_ok parsed) with ⟨short, noNull⟩
  apply avoids_bind (Confined.onFirst (inRange_consume colon))
  intro _
  exact avoids_bind (each key short noNull) (fun _ => avoids_pure _)

/-! ## Descriptions -/

mutual

/-- Whatever is parsed into an object of this type is stored inside the element
it is for; where the object is not there, nothing is stored. -/
def Ty.Stays : (there : Bool) -> (type : Ty) -> Prop
  | there, .scalar _ => there = true
  | there, .enum _ => there = true
  | there, .struct _ fields => forall key, FitsKey key -> 0 ∉ key -> fields.Stays there key

/-- The same for the field with a name. -/
def Fields.Stays : (there : Bool) -> (fields : Fields) -> (key : List (BitVec 8)) -> Prop
  | _, .nil, _ => True
  | there, .field name type dims rest, key =>
      if key = name then Idle dims ∨ type.Stays (there && counted dims)
      else rest.Stays there key
  | there, .string name size dims rest, key =>
      if key = name then
        Idle dims ∨ ((there && counted dims) = true ∧
          (BitVec.ofNat 32 (size * extent dims) - 1).toNat < size)
      else rest.Stays there key

end

mutual

theorem Ty.stays_there : (type : Ty) -> type.Stays false -> type.Stays true
  | .scalar _, _ | .enum _, _ => rfl
  | .struct _ fields, stays => fun key short noNull => fields.stays_there key (stays key short noNull)

theorem Fields.stays_there : (fields : Fields) -> (key : List (BitVec 8)) ->
    fields.Stays false key -> fields.Stays true key
  | .nil, _, _ => trivial
  | .field name type dims rest, key, stays => by
      unfold Fields.Stays at stays ⊢
      split
      · next here =>
          rw [if_pos here, Bool.false_and] at stays
          rw [Bool.true_and]
          apply stays.imp_right
          intro kept
          cases counted dims with
          | true => exact type.stays_there kept
          | false => exact kept
      · next other =>
          rw [if_neg other] at stays
          exact rest.stays_there key stays
  | .string name size dims rest, key, stays => by
      unfold Fields.Stays at stays ⊢
      split
      · next here =>
          rw [if_pos here, Bool.false_and] at stays
          exact stays.imp_right (fun both => absurd both.1 Bool.false_ne_true)
      · next other =>
          rw [if_neg other] at stays
          exact rest.stays_there key stays

end

theorem Fields.stays_field {name : List (BitVec 8)} {type : Ty} {rest : Fields}
    (stays : (Fields.field name type dims rest).Stays there key) :
    (key = name -> Idle dims ∨ type.Stays (there && counted dims)) ∧
      (key ≠ name -> rest.Stays there key) := by
  unfold Fields.Stays at stays
  constructor
  · intro here
    rw [if_pos here] at stays
    exact stays
  · intro other
    rw [if_neg other] at stays
    exact stays

theorem Fields.stays_string {name : List (BitVec 8)} {rest : Fields}
    (stays : (Fields.string name size dims rest).Stays there key) :
    (key = name -> Idle dims ∨ ((there && counted dims) = true ∧
        (BitVec.ofNat 32 (size * extent dims) - 1).toNat < size)) ∧
      (key ≠ name -> rest.Stays there key) := by
  unfold Fields.Stays at stays
  constructor
  · intro here
    rw [if_pos here] at stays
    exact stays
  · intro other
    rw [if_neg other] at stays
    exact stays

mutual

/-- Descriptions of this kind keep what is stored inside. -/
theorem Ty.confined (stack : Stack) : (there : Bool) -> (type : Ty) -> type.Stays there ->
    Confined there (type.deserialize stack)
  | _, .scalar type, rfl => type.confined stack
  | _, .enum decl, rfl => decl.confined stack
  | there, .struct invalidArgument fields, stays =>
      confined_deStruct stack
        (fun key short noNull =>
          fields.confined stack invalidArgument there key (stays key short noNull))

theorem Fields.confined (stack : Stack) (invalidArgument : Error) : (there : Bool) ->
    (fields : Fields) -> (key : List (BitVec 8)) -> fields.Stays there key ->
      Confined there (fields.deserialize stack invalidArgument key)
  | _, .nil, _, _ => avoids_raise nofun
  | there, .field name type dims rest, key, stays => by
      rcases Fields.stays_field stays with ⟨here, behind⟩
      refine avoids_ite (fun same => Confined.onPart (confined_deArray ?_ ?_)) (fun other => ?_)
      · intro busy
        have kept := (here ((ujsonStreq_iff key name).mp same)).resolve_left busy
        apply type.confined stack there
        cases there with
        | true =>
            cases few : counted dims with
            | true =>
                rw [few] at kept
                exact kept
            | false =>
                rw [few] at kept
                exact type.stays_there kept
        | false => exact kept
      · intro busy many
        have kept := (here ((ujsonStreq_iff key name).mp same)).resolve_left busy
        rw [many, Bool.and_false] at kept
        exact type.confined stack false kept
      · have other := fun same => other ((ujsonStreq_iff key name).mpr same)
        exact (rest.confined stack invalidArgument there key (behind other)).onPart
  | there, .string name size dims rest, key, stays => by
      rcases Fields.stays_string stays with ⟨here, behind⟩
      refine avoids_ite (fun same => Confined.onPart (confined_deArray ?_ ?_)) (fun other => ?_)
      · intro busy
        have kept := (here ((ujsonStreq_iff key name).mp same)).resolve_left busy
        rcases Bool.and_eq_true_iff.mp kept.1 with ⟨rfl, _⟩
        exact confined_deString kept.2
      · intro busy many
        have kept := (here ((ujsonStreq_iff key name).mp same)).resolve_left busy
        rw [many, Bool.and_false] at kept
        exact absurd kept.1 Bool.false_ne_true
      · have other := fun same => other ((ujsonStreq_iff key name).mpr same)
        exact (rest.confined stack invalidArgument there key (behind other)).onPart

end

/-! ## Texts that make a pointer leave -/

/-- The routine leaves an object as it is, there or not, and reads this text. -/
def Skims (m : UjOn τ α) (text : List (BitVec 8)) (value : α) : Prop :=
  forall uj object rest, pending uj = chars text ++ rest ->
    Exists fun uj' => m (uj, object) = (.ok value, uj', object) ∧ pending uj' = rest

/-- On this text, the routine stores something outside of all objects. -/
def Leaves (there : Bool) (m : UjOn τ α) (text : List (BitVec 8)) : Prop :=
  forall uj object, object.isSome = there -> pending uj = chars text ->
    (m (uj, object)).1 = .error .outOfRange

/-- There is a text for that. -/
def CanLeave (there : Bool) (m : UjOn τ α) : Prop :=
  Exists fun text => Begins text ∧ Leaves there m text

section Leaving

variable {text text' : List (BitVec 8)} {value : α}

theorem Scans.skims {m : Uj α} (scans : Scans false m text value) :
    Skims (Routine.onFirst m : UjOn τ α) text value := by
  intro uj object rest left
  rcases scans uj rest left nofun with ⟨uj', done, after, -⟩
  refine ⟨uj', ?_, after⟩
  rw [onFirst_apply, done]

variable {m : UjOn τ α} {close : BitVec 8} {σ : Type} {expr : Nat -> UjOn τ Unit}

theorem Skims.bind {next : α -> UjOn τ β} {result : β} (skims : Skims m text value)
    (others : Skims (next value) text' result) : Skims (m >>= next) (text ++ text') result := by
  intro uj object rest left
  rw [chars_append, List.append_assoc] at left
  rcases skims uj object _ left with ⟨uj₁, done, middle⟩
  rw [bind_ok done]
  exact others uj₁ object rest middle

theorem skims_pure (value : α) : Skims (pure value : UjOn τ α) [] value :=
  fun uj _ _ left => ⟨uj, rfl, left⟩

theorem Skims.leaves {next : α -> UjOn τ β} (skims : Skims m text value)
    (leaves : Leaves there (next value) text') : Leaves there (m >>= next) (text ++ text') := by
  intro uj object holds left
  rw [chars_append] at left
  rcases skims uj object _ left with ⟨uj₁, done, middle⟩
  rw [bind_ok done]
  exact leaves uj₁ object holds middle

theorem Leaves.first (leaves : Leaves there m text) (next : α -> UjOn τ β) :
    Leaves there (m >>= next) text := by
  intro uj object holds left
  have early := leaves uj object holds left
  rw [bind_apply]
  generalize m (uj, object) = ended at early ⊢
  rcases ended with ⟨reason | result, s⟩
  · exact congrArg Except.error (Except.error.inj early)
  · cases early

theorem skims_separator (x : Nat) :
    Skims (onFirst (separator x) : UjOn τ Unit) (separate x) () := by
  have dark : isSpace comma = false := by decide
  unfold separator separate
  split
  · exact (scans_consume dark).skims
  · exact fun uj _ _ left => ⟨uj, rfl, left⟩

/-- An item begins with another character than the closing one. -/
theorem itemsRound_item (brackets : close = closeBracket ∨ close = closeBrace)
    (item : σ -> UjOn τ σ) (state : σ) {uj : Ujson} (object : Option τ)
    {rest : List (Except Error (BitVec 8))} (begins : Begins text)
    (left : pending uj = chars text ++ rest) :
    Exists fun uj' => pending uj' = chars text ++ rest ∧
      itemsRound close item state (uj, object) =
        (item state >>= fun state => pure (.inl state)) (uj', object) := by
  rcases begins with ⟨ch, text, rfl, dark, notBracket, notBrace⟩
  have other : close ≠ ch := by
    rcases brackets with rfl | rfl
    · exact Ne.symm notBracket
    · exact Ne.symm notBrace
  rcases consumeMaybe_other left dark other with ⟨uj', done, after⟩
  refine ⟨uj', after, ?_⟩
  unfold itemsRound
  rw [bind_apply, onFirst_apply, done]
  rfl

theorem Leaves.item (brackets : close = closeBracket ∨ close = closeBrace) {item : σ -> UjOn τ σ}
    {state : σ} (begins : Begins text) (leaves : Leaves there (item state) text) :
    Leaves there (items close item state) text := by
  intro uj object holds left
  rw [<- List.append_nil (chars text)] at left
  rcases itemsRound_item brackets item state object begins left with ⟨uj', left', round⟩
  rw [List.append_nil] at left'
  have early := leaves.first (fun state => (pure (.inl state) : UjOn τ (σ ⊕ σ))) uj' object holds left'
  rw [<- round] at early
  have ended : itemsRound close item state (uj, object) = (.error .outOfRange, _) :=
    Prod.ext early rfl
  exact congrArg Prod.fst (repeatedly_early ended)

theorem Skims.item (brackets : close = closeBracket ∨ close = closeBrace) {item : σ -> UjOn τ σ}
    {state next : σ} (begins : Begins text) (skims : Skims (item state) text next)
    (leaves : Leaves there (items close item next) text') :
    Leaves there (items close item state) (text ++ text') := by
  intro uj object holds left
  rw [chars_append] at left
  rcases itemsRound_item brackets item state object begins left with ⟨uj₁, left₁, round⟩
  rcases skims uj₁ object _ left₁ with ⟨uj₂, done, left₂⟩
  rw [bind_ok done] at round
  have smaller : uj₂.remaining < uj.remaining := by
    rw [remaining_eq, remaining_eq, left, left₂, List.length_append, chars_length text]
    exact Nat.lt_add_of_pos_left (List.length_pos_iff.mpr begins.ne_nil)
  have early := leaves uj₂ object holds left₂
  exact congrArg Prod.fst (repeatedly_more round smaller (Prod.ext early rfl) nofun)

/-! ### Arrays -/

theorem leaves_onElement {index : Nat} (inside : index < size) (leaves : Leaves there m text) :
    Leaves there (onElement index m : UjOn (Fin size -> τ) α) text := by
  intro uj object holds left
  unfold onElement
  rw [dif_pos inside]
  exact leaves uj _ (Option.isSome_map.trans holds) left

/-- Through a pointer that has left an array, nothing may be stored. -/
theorem leaves_offElement {index : Nat} (outside : ¬ index < size) (leaves : Leaves false m text) :
    Leaves there (onElement index m : UjOn (Fin size -> τ) α) text := by
  intro uj object _ left
  unfold onElement
  rw [dif_neg outside]
  exact leaves uj none rfl left

theorem leaves_onPart {part : τ -> τ'} {replace : τ' -> τ -> τ} {m : UjOn τ' α}
    (leaves : Leaves there m text) : Leaves there (onPart part replace m) text :=
  fun uj object holds left => leaves uj (object.map part) (Option.isSome_map.trans holds) left

theorem CanLeave.bracketed {next : Unit -> UjOn τ α} (canLeave : CanLeave there (next ()))
    (is : m = (onFirst (ujsonConsume openBracket) >>= next)) : CanLeave there m := by
  have dark : isSpace openBracket = false := by decide
  rcases canLeave with ⟨text, begins, leaves⟩
  refine ⟨[openBracket] ++ text, ⟨openBracket, text, rfl, by decide, by decide, by decide⟩, ?_⟩
  rw [is]
  exact (scans_consume dark).skims.leaves leaves

theorem CanLeave.items (brackets : close = closeBracket ∨ close = closeBrace)
    {item : σ -> UjOn τ σ} {state : σ} (canLeave : CanLeave there (item state))
    (next : σ -> UjOn τ α) :
    CanLeave there (Ujson.items close item state >>= next) := by
  rcases canLeave with ⟨text, begins, leaves⟩
  exact ⟨text, begins, (leaves.item brackets begins).first next⟩

/-- A row that begins with an element. -/
theorem leaves_first {count p : Nat} (positive : 0 < count) (begins : Begins text)
    (leaves : Leaves there (expr p) text) :
    Leaves there (deLoop expr [count] p) ([openBracket] ++ text) := by
  have dark : isSpace openBracket = false := by decide
  have item : Leaves there (deItem expr count (0, p)) ([] ++ text) := by
    apply (skims_separator 0).leaves
    rw [if_pos positive]
    exact leaves.first _
  exact (scans_consume dark).skims.leaves ((item.item (Or.inl rfl) begins).first _)

/-- The first element of an array. -/
theorem canLeave_near (dims : List Nat) (busy : ¬ Idle dims) (p : Nat)
    (canLeave : CanLeave there (expr p)) : CanLeave there (deLoop expr dims p) := by
  induction dims with
  | nil =>
      rcases canLeave with ⟨text, begins, leaves⟩
      exact ⟨text, begins, leaves.first _⟩
  | cons count dims ih =>
      cases dims with
      | nil =>
          rcases canLeave with ⟨text, begins, leaves⟩
          have positive : 0 < count := Nat.pos_of_ne_zero (fun none => busy (congrArg some none))
          exact ⟨[openBracket] ++ text, ⟨openBracket, text, rfl, by decide, by decide, by decide⟩,
            leaves_first positive begins leaves⟩
      | cons count' dims =>
          refine CanLeave.bracketed ?_ rfl
          apply CanLeave.items (Or.inl rfl)
          rcases ih (fun idle => busy ((idle_cons _ _ _).mpr idle)) with ⟨text, begins, leaves⟩
          exact ⟨text, begins, (skims_separator 0).leaves (leaves.first _)⟩

theorem skims_closed (dark : isSpace close = false) (item : σ -> UjOn τ σ) (state : σ) :
    Skims (items close item state) [close] state := by
  intro uj object rest left
  rcases scans_consumeMaybe dark uj rest left nofun with ⟨uj', done, after, -⟩
  refine ⟨uj', repeatedly_last ?_, after⟩
  unfold itemsRound
  rw [bind_apply, onFirst_apply, done]
  rfl

/-- A row without elements moves the pointer as a full one does. -/
theorem skims_row (expr : Nat -> UjOn τ Unit) (count p : Nat) :
    Skims (deLoop expr [count] p) [openBracket, closeBracket] (p + count) := by
  have dark : isSpace openBracket = false := by decide
  have dark' : isSpace closeBracket = false := by decide
  have value : (if 0 < count then p + (count - 0) else p) = p + count := by
    split
    · rfl
    · next none => rw [Nat.eq_zero_of_not_pos none, Nat.add_zero]
  have text : [openBracket, closeBracket] = [openBracket] ++ ([closeBracket] ++ []) := rfl
  rw [text, <- value]
  apply (scans_consume dark).skims.bind
  apply (skims_closed dark' (deItem expr count) (0, p)).bind
  exact skims_pure _

/-- Rows without elements, and a row that begins with a text. -/
def rowsBefore (text : List (BitVec 8)) : (n x : Nat) -> List (BitVec 8)
  | 0, x => separate x ++ ([openBracket] ++ text)
  | n + 1, x => separate x ++ [openBracket, closeBracket] ++ rowsBefore text n (x + 1)

theorem begins_row (x : Nat) (text : List (BitVec 8)) :
    Begins (separate x ++ (openBracket :: text)) :=
  Begins.separated ⟨openBracket, text, rfl, by decide, by decide, by decide⟩ x

/-- The loops around the innermost one do not count the rows. -/
theorem leaves_rows {count : Nat} (positive : 0 < count) (begins : Begins text) (n x p : Nat)
    (leaves : Leaves there (expr (p + n * count)) text) :
    Leaves there (items closeBracket (deRow (deLoop expr [count])) (x, p)) (rowsBefore text n x) := by
  induction n generalizing x p with
  | zero =>
      rw [Nat.zero_mul] at leaves
      exact Leaves.item (Or.inl rfl) (begins_row x text)
        ((skims_separator x).leaves ((leaves_first positive begins leaves).first _))
  | succ n ih =>
      have further : p + (n + 1) * count = p + count + n * count := by
        rw [Nat.succ_mul]
        omega
      rw [further] at leaves
      have row : Skims (deRow (deLoop expr [count]) (x, p)) (separate x ++ [openBracket, closeBracket])
          (x + 1, p + count) := by
        apply (skims_separator x).bind
        exact (skims_row expr count p).bind (skims_pure (x + 1, p + count))
      exact row.item (Or.inl rfl) (begins_row x [closeBracket]) (ih (x + 1) (p + count) leaves)

/-- With more rows than the array has, the pointer leaves it. -/
theorem canLeave_far {bound : Nat} (begins : Begins text)
    (far : forall q, bound <= q -> Leaves there (expr q) text) (dims : List Nat)
    (busy : ¬ Idle dims) (many : counted dims = false) (p : Nat) :
    CanLeave there (deLoop expr dims p) := by
  induction dims with
  | nil => cases many
  | cons count dims ih =>
      match dims, busy, many, ih with
      | [], _, many, _ => cases many
      | [count'], busy, _, _ =>
          have positive : 0 < count' := Nat.pos_of_ne_zero (fun none => busy (congrArg some none))
          have behind : bound <= p + bound * count' := by
            have most := Nat.mul_le_mul_left bound positive
            omega
          refine CanLeave.bracketed ?_ rfl
          refine ⟨rowsBefore text bound 0, ?_,
            (leaves_rows positive begins bound 0 p (far _ behind)).first _⟩
          cases bound with
          | zero => exact begins_row 0 text
          | succ bound => exact (begins_row 0 [closeBracket]).append _
      | count' :: count'' :: dims, busy, _, ih =>
          have many : counted (count' :: count'' :: dims) = false := by
            apply decide_eq_false
            rw [List.length_cons, List.length_cons]
            omega
          refine CanLeave.bracketed ?_ rfl
          apply CanLeave.items (Or.inl rfl)
          rcases ih (fun idle => busy ((idle_cons _ _ _).mpr idle)) many with ⟨text, begins, leaves⟩
          exact ⟨text, begins, (skims_separator 0).leaves (leaves.first _)⟩

/-- An array can be left where an element can, and where the elements are not counted. -/
theorem canLeave_deArray {expr : UjOn τ Unit} {dims : List Nat} (busy : ¬ Idle dims)
    (canLeave : CanLeave (there && counted dims) expr) :
    CanLeave there (deArray dims expr : UjOn (Fin (extent dims) -> τ) Unit) := by
  have loop : CanLeave there
      (deLoop (fun p => onElement p expr : Nat -> UjOn (Fin (extent dims) -> τ) Unit) dims 0) := by
    rcases canLeave with ⟨text, begins, leaves⟩
    cases few : counted dims with
    | true =>
        rw [few, Bool.and_true] at leaves
        have inside : 0 < extent dims := by
          match dims, busy, few with
          | [], _, _ => exact Nat.zero_lt_one
          | [count], busy, _ =>
              have positive := Nat.pos_of_ne_zero (fun none => busy (congrArg some none))
              rw [extent, extent, Nat.mul_one]
              exact positive
        exact canLeave_near dims busy 0 ⟨text, begins, leaves_onElement inside leaves⟩
    | false =>
        rw [few, Bool.and_false] at leaves
        exact canLeave_far begins
          (fun q behind => leaves_offElement (Nat.not_lt.mpr behind) leaves) dims busy few 0
  rcases loop with ⟨text, begins, leaves⟩
  exact ⟨text, begins, leaves.first _⟩

end Leaving

/-! ### Values -/

/-- A value whose text can be read. -/
def Scalar.zero : (type : Scalar) -> type.Val
  | uint64T | int64T => (0 : BitVec 64)
  | uint32T | sizeT | int32T => (0 : BitVec 32)
  | uint16T | int16T => (0 : BitVec 16)
  | uint8T | int8T => (0 : BitVec 8)
  | bool => false
  | statusT => ⟨0⟩

theorem Scalar.survives_zero (type : Scalar) : (Ty.scalar type).Survives type.zero := by
  cases type with
  | statusT => exact Or.inl rfl
  | _ => trivial

mutual

/-- An object whose values are all zero. -/
def Ty.zero : (type : Ty) -> type.Val
  | .scalar type => type.zero
  | .enum _ => (0 : BitVec 32)
  | .struct _ fields => fields.zero

/-- The fields of such an object. -/
def Fields.zero : (fields : Fields) -> fields.Val
  | .nil => ()
  | .field _ type _ rest => (fun _ => type.zero, rest.zero)
  | .string _ _ _ rest => (fun _ _ => 0, rest.zero)

end

/-- After a text has been read, a value is stored. -/
theorem leaves_assign {m : Uj α} {looks : Bool} {text : List (BitVec 8)} {value : α}
    (scans : Scans looks m text value) (change : α -> τ) :
    Leaves false (onFirst m >>= fun value => assign (change value)) text := by
  intro uj object holds left
  rw [<- List.append_nil (chars text)] at left
  rcases scans uj [] left (fun _ => trivial) with ⟨uj', done, -⟩
  cases object with
  | some object => cases holds
  | none =>
      rw [bind_apply, onFirst_apply, done]
      rfl

theorem Scalar.canLeave (stack : Stack) (type : Scalar) :
    CanLeave false (type.deserialize stack) :=
  ⟨type.text type.zero, begins_scalar type type.zero,
    leaves_assign (scans_scalar stack type type.zero type.survives_zero) id⟩

theorem Leaves.other {text : List (BitVec 8)} {ch got : BitVec 8} {next : Bool -> UjOn τ α}
    (dark : isSpace got = false) (other : ch ≠ got) (leaves : Leaves there (next false) (got :: text)) :
    Leaves there (onFirst (ujsonConsumeMaybe ch) >>= next) (got :: text) := by
  intro uj object holds left
  rcases consumeMaybe_other left dark other with ⟨uj', done, after⟩
  rw [bind_apply, onFirst_apply, done]
  exact leaves uj' object holds after

/-- Instead of a name, there can be a number for every enum. -/
theorem EnumDecl.canLeave (decl : EnumDecl) (stack : Stack) :
    CanLeave false (decl.deserialize stack) := by
  have dark : isSpace 0x30 = false := by decide
  have number : Leaves false deserializeNumber [0x30] :=
    leaves_assign (scans_unsigned (by decide) (0 : BitVec 32)) id
  refine ⟨[0x30], ⟨0x30, [], rfl, by decide, by decide, by decide⟩, ?_⟩
  exact Leaves.other dark (by decide) (Leaves.other dark (by decide) number)

theorem leaves_deString_none (len : BitVec 32) :
    Leaves false (deString len : UjOn (Fin size -> BitVec 8) Unit) (quoted []) := by
  have dark : isSpace quote = false := by decide
  have loop : Skims (parseLoop parseQsRound (0, len - 1) : UjOn (Fin size -> BitVec 8) Nat) [quote] 0 := by
    intro uj object rest left
    rcases scans_getc quote uj rest left nofun with ⟨uj', done, after, -⟩
    refine ⟨uj', repeatedly_last ?_, after⟩
    unfold parseQsRound
    rw [bind_apply, onFirst_apply, done]
    rfl
  have null : Leaves false (onElement 0 (assign 0) : UjOn (Fin size -> BitVec 8) Unit) [] := by
    have nothing : Leaves false (assign (0 : BitVec 8)) [] := by
      rintro uj (_ | object) holds left
      · rfl
      · cases holds
    by_cases inside : 0 < size
    · exact leaves_onElement inside nothing
    · exact leaves_offElement inside nothing
  exact ((scans_consume dark).skims.leaves (loop.leaves (null.first _))).first _

/-- Where there is room for more characters than there should be, they are stored. -/
theorem leaves_deString_long {len : BitVec 32} (room : ¬ (len - 1).toNat < size) :
    Leaves true (deString len : UjOn (Fin size -> BitVec 8) Unit)
      (quoted (List.replicate size 0x61)) := by
  have dark : isSpace quote = false := by decide
  have enough : size <= (len - 1).toNat := Nat.le_of_not_lt room
  have all : 0 + min (List.replicate size (0x61 : BitVec 8)).length (len - 1).toNat = size := by
    rw [List.length_replicate, Nat.zero_add, Nat.min_eq_left enough]
  have loop := @reads_parseQsLoop size 0 (len - 1) (List.replicate size 0x61) (Nat.le_of_eq all)
  rw [all] at loop
  have characters : Reads false
      (onFirst (ujsonConsume quote) >>= fun _ => parseLoop parseQsRound (0, len - 1))
      (quoted (List.replicate size 0x61)) size
      (putString 0 ((List.replicate size 0x61).take (len - 1).toNat) :
        (Fin size -> BitVec 8) -> Fin size -> BitVec 8) :=
    Reads.after (scans_consume dark) loop (fun looks => Bool.noConfusion looks)
  have split : (ujsonParseQs len : UjOn (Fin size -> BitVec 8) Nat) =
      (onFirst (ujsonConsume quote) >>= fun _ => parseLoop parseQsRound (0, len - 1)) >>=
        fun n => onElement n (assign 0) >>= fun _ => pure n := by
    rw [Routine.bind_assoc]
    rfl
  intro uj object holds left
  rcases Option.isSome_iff_exists.mp holds with ⟨array, rfl⟩
  rw [<- List.append_nil (chars _)] at left
  rcases characters uj array [] left (fun looks => Bool.noConfusion looks) with ⟨uj', done, -⟩
  have off (stored : Fin size -> BitVec 8) :
      onElement size (assign (0 : BitVec 8)) (uj', some stored) = (.error .outOfRange, uj', some stored) := by
    unfold onElement
    rw [dif_neg (Nat.lt_irrefl size)]
    rfl
  unfold deString
  rw [split, Routine.bind_assoc, bind_ok done, Routine.bind_assoc, bind_error (off _)]

theorem canLeave_deStruct (stack : Stack) {deField : List (BitVec 8) -> UjOn τ Unit}
    (short : FitsKey key) (noNull : 0 ∉ key) (canLeave : CanLeave there (deField key)) :
    CanLeave there (deStruct stack deField) := by
  have braceDark : isSpace openBrace = false := by decide
  have colonDark : isSpace colon = false := by decide
  rcases canLeave with ⟨text, begins, leaves⟩
  have member : Leaves there (deMember stack deField 0) (quoted key ++ ([colon] ++ text)) := by
    apply (skims_separator 0).leaves
    apply (scans_parseLocal _ short (by decide) noNull).skims.leaves
    exact (scans_consume colonDark).skims.leaves (leaves.first _)
  have first := member.item (Or.inr rfl) ((begins_quoted key).append ([colon] ++ text))
  exact ⟨[openBrace] ++ (quoted key ++ ([colon] ++ text)),
    ⟨openBrace, _, rfl, by decide, by decide, by decide⟩,
    (scans_consume braceDark).skims.leaves (first.first _)⟩

/-! ## Exactly these descriptions -/

theorem CanLeave.chosen {condition : Prop} [Decidable condition] {m' : UjOn τ α}
    (holds : condition) (canLeave : CanLeave there m) :
    CanLeave there (if condition then m else m') := by
  rw [if_pos holds]
  exact canLeave

theorem CanLeave.passed {condition : Prop} [Decidable condition] {m' : UjOn τ α}
    (fails : ¬ condition) (canLeave : CanLeave there m') :
    CanLeave there (if condition then m else m') := by
  rw [if_neg fails]
  exact canLeave

theorem CanLeave.onPart {part : τ -> τ'} {replace : τ' -> τ -> τ} {m : UjOn τ' α}
    (canLeave : CanLeave there m) : CanLeave there (Ujson.onPart part replace m) := by
  rcases canLeave with ⟨text, begins, leaves⟩
  exact ⟨text, begins, leaves_onPart leaves⟩

mutual

/-- For all other descriptions, there is a text that leaves an object. -/
theorem Ty.canLeave (stack : Stack) : (there : Bool) -> (type : Ty) -> ¬ type.Stays there ->
    CanLeave there (type.deserialize stack)
  | true, .scalar _, strays | true, .enum _, strays => absurd rfl strays
  | false, .scalar type, _ => type.canLeave stack
  | false, .enum decl, _ => decl.canLeave stack
  | there, .struct invalidArgument fields, strays => by
      have found : Exists fun key => FitsKey key ∧ 0 ∉ key ∧ ¬ fields.Stays there key := by
        by_contra none
        apply strays
        intro key short noNull
        by_contra stray
        exact none ⟨key, short, noNull, stray⟩
      rcases found with ⟨key, short, noNull, stray⟩
      exact canLeave_deStruct stack short noNull
        (fields.canLeave stack invalidArgument there key stray)

theorem Fields.canLeave (stack : Stack) (invalidArgument : Error) : (there : Bool) ->
    (fields : Fields) -> (key : List (BitVec 8)) -> ¬ fields.Stays there key ->
      CanLeave there (fields.deserialize stack invalidArgument key)
  | _, .nil, _, strays => absurd trivial strays
  | there, .field name type dims rest, key, strays => by
      unfold Fields.Stays at strays
      by_cases here : key = name
      · rw [if_pos here, not_or] at strays
        exact CanLeave.chosen ((ujsonStreq_iff key name).mpr here)
          (CanLeave.onPart (canLeave_deArray strays.1
            (type.canLeave stack (there && counted dims) strays.2)))
      · rw [if_neg here] at strays
        exact CanLeave.passed (fun same => here ((ujsonStreq_iff key name).mp same))
          (CanLeave.onPart (rest.canLeave stack invalidArgument there key strays))
  | there, .string name size dims rest, key, strays => by
      unfold Fields.Stays at strays
      by_cases here : key = name
      · rw [if_pos here, not_or] at strays
        refine CanLeave.chosen ((ujsonStreq_iff key name).mpr here)
          (CanLeave.onPart (canLeave_deArray strays.1 ?_))
        cases inside : there && counted dims with
        | false => exact ⟨quoted [], begins_quoted [], leaves_deString_none _⟩
        | true =>
            have room := fun few => strays.2 ⟨inside, few⟩
            exact ⟨quoted (List.replicate size 0x61), begins_quoted _, leaves_deString_long room⟩
      · rw [if_neg here] at strays
        exact CanLeave.passed (fun same => here ((ujsonStreq_iff key name).mp same))
          (CanLeave.onPart (rest.canLeave stack invalidArgument there key strays))

end

/-- Whatever the input is, everything is stored inside the element it is for. -/
def StaysInside (type : Ty) : Prop :=
  forall stack uj object, (type.deserialize stack (uj, some object)).1 ≠ .error .outOfRange

/-- A function that fills an object stays inside for exactly these descriptions. -/
theorem staysInside_iff (type : Ty) : StaysInside type ↔ type.Stays true := by
  constructor
  · intro inside
    by_contra strays
    rcases type.canLeave (fun _ _ => 0) true strays with ⟨text, _, leaves⟩
    have left : pending (delivering text) = chars text := rfl
    exact inside _ _ type.zero (leaves (delivering text) (some type.zero) rfl left)
  · intro stays stack uj object
    exact (type.confined stack true stays).ne rfl

/-- An array of two rows of two elements. -/
def grid : Ty :=
  .struct (createError .kInvalidArgument 0#32 ujsonC 1 AbslStatus.kInvalidArgument_ne positioned_zero)
    (.field (ascii "m") (.scalar .uint32T) [2, 2] .nil)

/-- A third row is stored behind the array. -/
theorem staysInside_apart : ¬ StaysInside grid := by
  intro inside
  have run : (grid.deserialize (fun _ _ => 0)
      (delivering (ascii "\x7b\"m\":[[1,2],[3,4],[5,6]]\x7d"), some grid.zero)).1 =
      .error .outOfRange := by
    decide +kernel
  exact inside _ _ _ run

end Ujson
end SunburstChip
