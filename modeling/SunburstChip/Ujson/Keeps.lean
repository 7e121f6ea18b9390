import SunburstChip.Ujson.Derive

namespace SunburstChip
namespace Ujson

open Routine

/-!
# What every parser keeps

Every parser is made of readings, of pushing a character back, and of what it
does with the object it fills.  What the first two keep of a context is
therefore kept by every parser, however it ends.
-/

section Keeps

variable {inv : Ujson -> Prop} (getc : Keeps inv ujsonGetc)
  (ungetc : forall ch, Keeps inv (ujsonUngetc ch))

/-- The context that goes with an object satisfies it. -/
abbrev OnUjson (inv : Ujson -> Prop) {τ : Type} (s : Ujson × τ) : Prop := inv s.1

section Primitive

include getc

theorem keeps_consumeWhitespace : Keeps inv consumeWhitespace := by
  apply keeps_repeatedly
  intro _
  apply keeps_bind getc
  intro ch
  exact keeps_pure _

theorem keeps_consumeHex : Keeps inv consumeHex := by
  have digit : Keeps inv consumeHexdigit := by
    apply keeps_bind getc
    intro ch
    apply keeps_ite (fun _ => keeps_pure _)
    intro _
    apply keeps_ite (fun _ => keeps_pure _)
    intro _
    exact keeps_ite (fun _ => keeps_pure _) (fun _ => keeps_raise _)
  apply keeps_bind digit
  intro a
  apply keeps_bind digit
  intro b
  apply keeps_bind digit
  intro c
  apply keeps_bind digit
  intro d
  exact keeps_pure _

theorem keeps_consume (ch : BitVec 8) : Keeps inv (ujsonConsume ch) := by
  apply keeps_bind (keeps_consumeWhitespace getc)
  intro got
  exact keeps_ite (fun _ => keeps_raise _) (fun _ => keeps_pure _)

theorem keeps_unescape (ch : BitVec 8) : Keeps inv (unescape ch) := by
  apply keeps_ite
  · intro _
    apply keeps_bind getc
    intro ch
    apply keeps_ite (fun _ => keeps_pure _)
    intro _
    apply keeps_ite (fun _ => keeps_pure _)
    intro _
    apply keeps_ite (fun _ => keeps_pure _)
    intro _
    apply keeps_ite (fun _ => keeps_pure _)
    intro _
    apply keeps_ite (fun _ => keeps_pure _)
    intro _
    apply keeps_ite (fun _ => keeps_pure _)
    intro _
    apply keeps_ite
    · intro _
      apply keeps_bind (keeps_consumeHex getc)
      intro hex
      exact keeps_pure _
    · exact fun _ => keeps_raise _
  · exact fun _ => keeps_pure _

end Primitive

/-! ## Objects -/

section Objects

variable {τ τ' : Type}

theorem keeps_assign (value : τ) : Keeps (OnUjson inv) (assign value) := by
  rintro ⟨uj, _ | object⟩ holds
  · exact holds
  · exact holds

theorem keeps_onElement {size : Nat} {α : Type} (index : Nat) {m : UjOn τ α}
    (keeps : Keeps (OnUjson inv) m) :
    Keeps (OnUjson inv) (onElement index m : UjOn (Fin size -> τ) α) := by
  intro s holds
  unfold onElement
  split
  · exact keeps (s.1, _) holds
  · exact keeps (s.1, none) holds

theorem keeps_onPart {α : Type} (part : τ -> τ') (replace : τ' -> τ -> τ) {m : UjOn τ' α}
    (keeps : Keeps (OnUjson inv) m) : Keeps (OnUjson inv) (onPart part replace m) :=
  fun s holds => keeps (s.1, _) holds

theorem keeps_onLocal {α : Type} (contents : τ) {m : UjOn τ α} (keeps : Keeps (OnUjson inv) m) :
    Keeps inv (onLocal contents m) := by
  intro uj holds
  have kept : inv (m (uj, some contents)).2.1 := keeps (uj, some contents) holds
  unfold onLocal
  generalize m (uj, some contents) = ended at kept ⊢
  rcases ended with ⟨stop | value, uj', object⟩
  · exact kept
  · exact kept

theorem keeps_stringIn {size : Nat} (array : Fin size -> BitVec 8) : Keeps inv (stringIn array) := by
  unfold stringIn
  split
  · exact keeps_pure _
  · exact keeps_raise _

end Objects

section Parsers

include getc

theorem keeps_parseQs {size : Nat} (len : BitVec 32) :
    Keeps (OnUjson inv) (ujsonParseQs len : UjOn (Fin size -> BitVec 8) Nat) := by
  apply keeps_bind (keeps_onFirst (keeps_consume getc quote))
  intro _
  apply keeps_bind
  · apply keeps_repeatedly
    intro state
    apply keeps_bind (keeps_onFirst getc)
    intro ch
    apply keeps_ite (fun _ => keeps_pure _)
    intro _
    apply keeps_bind (keeps_onFirst (keeps_unescape getc ch))
    intro ch
    apply keeps_ite
    · intro _
      apply keeps_bind (keeps_onElement _ (keeps_assign ch))
      intro _
      exact keeps_pure _
    · exact fun _ => keeps_pure _
  · intro n
    apply keeps_bind (keeps_onElement _ (keeps_assign 0))
    intro _
    exact keeps_pure _

theorem keeps_parseLocal (bytes : Leftover) (size : Nat) : Keeps inv (parseLocal bytes size) := by
  apply keeps_bind (keeps_onLocal _ (keeps_parseQs getc _))
  intro array
  exact keeps_stringIn array

include ungetc

theorem keeps_consumeMaybe (ch : BitVec 8) : Keeps inv (ujsonConsumeMaybe ch) := by
  apply keeps_bind (keeps_consumeWhitespace getc)
  intro got
  apply keeps_ite
  · intro _
    apply keeps_bind (keeps_attempt (ungetc got))
    intro _
    exact keeps_pure _
  · exact fun _ => keeps_pure _

theorem keeps_parseInteger : Keeps inv ujsonParseInteger := by
  apply keeps_bind (keeps_consumeWhitespace getc)
  intro ch
  apply keeps_bind (keeps_ite (fun _ => getc) (fun _ => keeps_pure _))
  intro digit
  apply keeps_ite (fun _ => keeps_raise _)
  intro _
  apply keeps_bind
  · apply keeps_repeatedly
    intro state
    apply keeps_bind (keeps_attempt getc)
    intro s
    cases s with
    | error stop => exact keeps_pure _
    | ok ch => exact keeps_pure _
  · rintro ⟨value, _ | after⟩
    · exact keeps_bind (keeps_pure ()) (fun _ => keeps_pure _)
    · exact keeps_bind (ungetc after) (fun _ => keeps_pure _)

theorem keeps_deserializeInteger (width : Nat) : Keeps inv (deserializeInteger width) :=
  keeps_bind (keeps_parseInteger getc ungetc) (fun _ => keeps_pure _)

theorem keeps_deserializeBool : Keeps inv ujsonDeserializeBool := by
  apply keeps_bind (keeps_consumeWhitespace getc)
  intro got
  apply keeps_ite
  · intro _
    apply keeps_bind (keeps_consume getc _)
    intro _
    apply keeps_bind (keeps_consume getc _)
    intro _
    apply keeps_bind (keeps_consume getc _)
    intro _
    exact keeps_pure _
  · intro _
    apply keeps_ite
    · intro _
      apply keeps_bind (keeps_consume getc _)
      intro _
      apply keeps_bind (keeps_consume getc _)
      intro _
      apply keeps_bind (keeps_consume getc _)
      intro _
      apply keeps_bind (keeps_consume getc _)
      intro _
      exact keeps_pure _
    · intro _
      apply keeps_bind (keeps_attempt (ungetc got))
      intro _
      exact keeps_raise _

/-! ## Generated parsers -/

theorem keeps_deserializeNumber : Keeps (OnUjson inv) deserializeNumber :=
  keeps_bind (keeps_onFirst (keeps_deserializeInteger getc ungetc 32)) (fun _ => keeps_assign _)

theorem keeps_enum (decl : EnumDecl) (stack : Stack) :
    Keeps (OnUjson inv) (decl.deserialize stack) := by
  apply keeps_bind (keeps_onFirst (keeps_consumeMaybe getc ungetc quote))
  intro named
  apply keeps_ite
  · intro _
    apply keeps_bind (keeps_onFirst (ungetc quote))
    intro _
    apply keeps_bind (keeps_onFirst (keeps_parseLocal getc _ 128))
    intro value
    unfold EnumDecl.named
    split
    · exact keeps_assign _
    · exact keeps_raise _
  · intro _
    apply keeps_bind (keeps_onFirst (keeps_consumeMaybe getc ungetc openBrace))
    intro braced
    apply keeps_ite
    · intro _
      apply keeps_bind (keeps_onFirst (keeps_parseLocal getc _ 128))
      intro value
      apply keeps_bind (keeps_onFirst (keeps_consume getc colon))
      intro _
      apply keeps_ite
      · intro _
        apply keeps_bind (keeps_deserializeNumber getc ungetc)
        intro _
        exact keeps_onFirst (keeps_consume getc closeBrace)
      · exact fun _ => keeps_raise _
    · exact fun _ => keeps_deserializeNumber getc ungetc

theorem keeps_deserializeStatusT (stack : Stack) : Keeps inv (ujsonDeserializeStatusT stack) := by
  apply keeps_bind (keeps_consume getc openBrace)
  intro _
  apply keeps_bind (keeps_onLocal _ (keeps_enum getc ungetc privateStatus stack))
  intro code
  apply keeps_bind (keeps_consume getc colon)
  intro _
  apply keeps_bind
  · apply keeps_bind (keeps_consumeMaybe getc ungetc openBracket)
    intro bracketed
    apply keeps_ite
    · intro _
      apply keeps_bind (keeps_onLocal _ (keeps_parseQs getc _))
      intro module'
      apply keeps_bind (keeps_consume getc comma)
      intro _
      apply keeps_bind (keeps_deserializeInteger getc ungetc 32)
      intro arg
      apply keeps_bind (keeps_consume getc closeBracket)
      intro _
      exact keeps_pure _
    · intro _
      exact keeps_bind (keeps_deserializeInteger getc ungetc 32) (fun _ => keeps_pure _)
  · intro detail
    apply keeps_bind (keeps_consume getc closeBrace)
    intro _
    exact keeps_pure _

theorem keeps_scalar (stack : Stack) (type : Scalar) :
    Keeps (OnUjson inv) (type.deserialize stack) := by
  apply keeps_bind
  · apply keeps_onFirst
    cases type with
    | bool => exact keeps_deserializeBool getc ungetc
    | statusT => exact keeps_deserializeStatusT getc ungetc stack
    | _ => exact keeps_deserializeInteger getc ungetc _
  · exact fun _ => keeps_assign _

omit ungetc in
theorem keeps_separator (i : Nat) : Keeps inv (separator i) :=
  keeps_ite (fun _ => keeps_consume getc comma) (fun _ => keeps_pure _)

theorem keeps_items {σ τ : Type} (close : BitVec 8) {item : σ -> UjOn τ σ}
    (keeps : forall state, Keeps (OnUjson inv) (item state)) (state : σ) :
    Keeps (OnUjson inv) (items close item state) := by
  apply keeps_repeatedly
  intro state
  apply keeps_bind (keeps_onFirst (keeps_consumeMaybe getc ungetc close))
  intro closed
  apply keeps_ite (fun _ => keeps_pure _)
  intro _
  exact keeps_bind (keeps state) (fun _ => keeps_pure _)

theorem keeps_deLoop {τ : Type} {expr : Nat -> UjOn τ Unit}
    (element : forall p, Keeps (OnUjson inv) (expr p)) (dims : List Nat) (p : Nat) :
    Keeps (OnUjson inv) (deLoop expr dims p) := by
  induction dims generalizing p with
  | nil => exact keeps_bind (element p) (fun _ => keeps_pure _)
  | cons count dims ih =>
      cases dims with
      | nil =>
          apply keeps_bind (keeps_onFirst (keeps_consume getc openBracket))
          intro _
          apply keeps_bind
          · apply keeps_items getc ungetc
            intro state
            apply keeps_bind (keeps_onFirst (keeps_separator getc state.1))
            intro _
            apply keeps_ite
            · intro _
              exact keeps_bind (element state.2) (fun _ => keeps_pure _)
            · exact fun _ => keeps_pure _
          · exact fun _ => keeps_pure _
      | cons count' dims =>
          apply keeps_bind (keeps_onFirst (keeps_consume getc openBracket))
          intro _
          apply keeps_bind
          · apply keeps_items getc ungetc
            intro state
            apply keeps_bind (keeps_onFirst (keeps_separator getc state.1))
            intro _
            exact keeps_bind (ih state.2) (fun _ => keeps_pure _)
          · exact fun _ => keeps_pure _

theorem keeps_deArray {size : Nat} {τ : Type} (dims : List Nat) {expr : UjOn τ Unit}
    (element : Keeps (OnUjson inv) expr) :
    Keeps (OnUjson inv) (deArray dims expr : UjOn (Fin size -> τ) Unit) :=
  keeps_bind (keeps_deLoop getc ungetc (fun p => keeps_onElement p element) dims 0)
    (fun _ => keeps_pure _)

mutual

theorem keeps_deserialize (stack : Stack) :
    (type : Ty) -> Keeps (OnUjson inv) (type.deserialize stack)
  | .scalar type => keeps_scalar getc ungetc stack type
  | .enum decl => keeps_enum getc ungetc decl stack
  | .struct invalidArgument fields => by
      apply keeps_bind (keeps_onFirst (keeps_consume getc openBrace))
      intro _
      apply keeps_bind
      · apply keeps_items getc ungetc
        intro nfield
        apply keeps_bind (keeps_onFirst (keeps_separator getc nfield))
        intro _
        apply keeps_bind (keeps_onFirst (keeps_parseLocal getc _ 128))
        intro key
        apply keeps_bind (keeps_onFirst (keeps_consume getc colon))
        intro _
        apply keeps_bind (keeps_deField stack invalidArgument fields key)
        intro _
        exact keeps_pure _
      · exact fun _ => keeps_pure _

theorem keeps_deField (stack : Stack) (invalidArgument : Error) :
    (fields : Fields) -> (key : List (BitVec 8)) ->
      Keeps (OnUjson inv) (fields.deserialize stack invalidArgument key)
  | .nil, _ => keeps_raise _
  | .field _ type dims rest, key =>
      keeps_ite (fun _ => keeps_onPart _ _ (keeps_deArray getc ungetc dims (keeps_deserialize stack type)))
        (fun _ => keeps_onPart _ _ (keeps_deField stack invalidArgument rest key))
  | .string _ _ dims rest, key =>
      keeps_ite (fun _ => keeps_onPart _ _ (keeps_deArray getc ungetc dims
          (keeps_bind (keeps_parseQs getc _) (fun _ => keeps_pure _))))
        (fun _ => keeps_onPart _ _ (keeps_deField stack invalidArgument rest key))

end

end Parsers

end Keeps

end Ujson
end SunburstChip
