import SunburstChip.Ujson.StatusText

namespace SunburstChip
namespace Ujson

open Routine

/-!
# The texts of structs

An array is written in brackets and a struct in braces, with commas between the
elements and the members.  A struct can be written exactly if its strings have
an end.
-/

/-- The comma in front of every item but the first. -/
def separate (x : Nat) : List (BitVec 8) := if x > 0 then [comma] else []

/-- The text of some rows of `n` elements, from the element `p` on. -/
def rowsText (row : Nat -> List (BitVec 8)) (n : Nat) : (left x p : Nat) -> List (BitVec 8)
  | 0, _, _ => []
  | left + 1, x, p => separate x ++ (row p ++ rowsText row n left (x + 1) (p + n))

/-- The text of an array, from the element `p` on. -/
def loopText (element : Nat -> List (BitVec 8)) : List Nat -> Nat -> List (BitVec 8)
  | [], p => element p
  | count :: dims, p =>
      openBracket :: (rowsText (loopText element dims) (extent dims) count 0 p ++ [closeBracket])

/-- The text of an element of an array. -/
def elementText {size : Nat} {τ : Type} (text : τ -> List (BitVec 8)) (array : Fin size -> τ) (p : Nat) :
    List (BitVec 8) :=
  if inside : p < size then text (array ⟨p, inside⟩) else []

/-- A member of an object: its name, its text, and what is made of an object in
which it is parsed. -/
structure Member (τ : Type) where
  name : List (BitVec 8)
  text : List (BitVec 8)
  fill : τ -> τ

/-- A member of the second component of a pair. -/
def Member.snd {τ τ' : Type} (member : Member τ') : Member (τ × τ') where
  name := member.name
  text := member.text
  fill := fun pair => (pair.1, member.fill pair.2)

/-- The text of members, of which some have come before. -/
def membersText {τ : Type} : (x : Nat) -> List (Member τ) -> List (BitVec 8)
  | _, [] => []
  | x, member :: members =>
      separate x ++ (quoted member.name ++ (colon :: (member.text ++ membersText (x + 1) members)))

/-- The text of a value that is no struct. -/
def Scalar.text : (type : Scalar) -> type.Val -> List (BitVec 8)
  | uint64T, value => unsignedText value
  | uint32T, value => unsignedText value
  | uint16T, value => unsignedText value
  | uint8T, value => unsignedText value
  | sizeT, value => unsignedText value
  | int64T, value => signedText value
  | int32T, value => signedText value
  | int16T, value => signedText value
  | int8T, value => signedText value
  | bool, value => boolText value
  | statusT, value => statusText value

/-- The string in an array. -/
def content {size : Nat} (array : Fin size -> BitVec 8) : List (BitVec 8) := (cString array).getD []

mutual

/-- The text of an object. -/
def Ty.text : (type : Ty) -> type.Val -> List (BitVec 8)
  | .scalar type, value => type.text value
  | .enum decl, value => decl.text value
  | .struct _ fields, value => openBrace :: (membersText 0 (fields.members value) ++ [closeBrace])

/-- What is made of an object into which the text of another one is parsed. -/
def Ty.fill : (type : Ty) -> type.Val -> type.Val -> type.Val
  | .scalar _, value => fun _ => value
  | .enum _, value => fun _ => value
  | .struct _ fields, value => fun object =>
      (fields.members value).foldl (fun object member => member.fill object) object

/-- The members of a struct. -/
def Fields.members : (fields : Fields) -> fields.Val -> List (Member fields.Val)
  | .nil, _ => []
  | .field name type dims rest, value =>
      { name := name
        text := loopText (elementText type.text value.1) dims 0
        fill := fun pair => (fun i => type.fill (value.1 i) (pair.1 i), pair.2) } ::
      (rest.members value.2).map Member.snd
  | .string name _ dims rest, value =>
      { name := name
        text := loopText (elementText (fun array => quoted (content array)) value.1) dims 0
        fill := fun pair => (fun i => fillString (content (value.1 i)) (pair.1 i), pair.2) } ::
      (rest.members value.2).map Member.snd

end

mutual

/-- Every string in an object has an end. -/
def Ty.Writable : (type : Ty) -> type.Val -> Prop
  | .scalar _, _ => True
  | .enum _, _ => True
  | .struct _ fields, value => fields.Writable value

/-- The same for the fields of a struct. -/
def Fields.Writable : (fields : Fields) -> fields.Val -> Prop
  | .nil, _ => True
  | .field _ type _ rest, value => (forall i, type.Writable (value.1 i)) ∧ rest.Writable value.2
  | .string _ _ _ rest, value => (forall i, (cString (value.1 i)).isSome) ∧ rest.Writable value.2

end

/-! ## Writing -/

theorem renders_scalar (type : Scalar) (value : type.Val) :
    Renders (type.serialize value) True (type.text value) () := by
  have same {width : Nat} (value : BitVec width) : value.setWidth width = value :=
    BitVec.setWidth_eq value
  have sameSigned {width : Nat} (value : BitVec width) : value.signExtend width = value :=
    BitVec.signExtend_eq value
  cases type with
  | uint64T =>
      have renders := renders_unsigned dividesByTen_slow (Nat.le_refl 64) (by decide) value
      rw [same] at renders
      exact renders
  | uint32T =>
      have renders := renders_unsigned dividesByTen (Nat.le_refl 32) (by decide) value
      rw [same] at renders
      exact renders
  | uint16T => exact renders_unsigned dividesByTen (by decide) (by decide) value
  | uint8T => exact renders_unsigned dividesByTen (by decide) (by decide) value
  | sizeT =>
      have renders := renders_unsigned dividesByTen (Nat.le_refl 32) (by decide) value
      rw [same] at renders
      exact renders
  | int64T =>
      have renders := renders_signed dividesByTen_slow (Nat.le_refl 64) (by decide) value
      rw [sameSigned] at renders
      exact renders
  | int32T =>
      have renders := renders_signed dividesByTen (Nat.le_refl 32) (by decide) value
      rw [sameSigned] at renders
      exact renders
  | int16T => exact renders_signed dividesByTen (by decide) (by decide) value
  | int8T => exact renders_signed dividesByTen (by decide) (by decide) value
  | bool => exact renders_bool value
  | statusT => exact renders_status value

theorem renders_separate (x : Nat) :
    Renders (if x ≠ 0 then ujsonPutbuf [comma] else pure ()) True (separate x) () := by
  unfold separate
  by_cases first : x = 0
  · rw [if_neg (fun other => other first), if_neg (Nat.not_lt.mpr (Nat.le_of_eq first))]
    exact renders_pure ()
  · rw [if_pos first, if_pos (Nat.pos_of_ne_zero first)]
    exact renders_putbuf _

theorem renders_serRounds {item : Nat -> Uj Nat} {n : Nat} {writable : Nat -> Prop}
    {row : Nat -> List (BitVec 8)} (each : forall p, Renders (item p) (writable p) (row p) (p + n))
    (left x p : Nat) :
    Renders (serRounds item left x p) (forall y, y < left -> writable (p + y * n))
      (rowsText row n left x p) (p + left * n) := by
  induction left generalizing x p with
  | zero =>
      rw [Nat.zero_mul]
      exact (renders_pure p).congr (iff_of_true trivial (fun _ none => absurd none (Nat.not_lt_zero _)))
        (fun _ => rfl)
  | succ left ih =>
      have others := ih (x + 1) (p + n)
      have next : p + n + left * n = p + (left + 1) * n := by
        rw [Nat.succ_mul]
        omega
      rw [next] at others
      have all : Renders ((if x ≠ 0 then ujsonPutbuf [comma] else pure ()) >>=
          fun _ => item p >>= serRounds item left (x + 1)) _ _ _ :=
        (renders_separate x).before ((each p).bind others)
      have same : serRounds item (left + 1) x p =
          ((if x ≠ 0 then ujsonPutbuf [comma] else pure ()) >>=
            fun _ => item p >>= serRounds item left (x + 1)) := by
        rw [serRounds]
        split
        · rfl
        · rfl
      rw [same]
      apply all.congr ?_ (fun _ => rfl)
      constructor
      · rintro ⟨first, rest⟩ y inside
        cases y with
        | zero =>
            rw [Nat.zero_mul]
            exact first
        | succ y =>
            have row := rest y (Nat.lt_of_succ_lt_succ inside)
            rw [Nat.succ_mul, Nat.add_comm (y * n), <- Nat.add_assoc]
            exact row
      · intro all
        constructor
        · have first := all 0 (Nat.succ_pos left)
          rw [Nat.zero_mul] at first
          exact first
        · intro y inside
          have row := all (y + 1) (Nat.succ_lt_succ inside)
          rw [Nat.succ_mul, Nat.add_comm (y * n), <- Nat.add_assoc] at row
          exact row

theorem extent_cons (count : Nat) (dims : List Nat) : extent (count :: dims) = count * extent dims := rfl

theorem renders_serLoop {expr : Nat -> Uj Unit} {writable : Nat -> Prop}
    {element : Nat -> List (BitVec 8)}
    (each : forall p, Renders (expr p) (writable p) (element p) ()) (dims : List Nat) (p : Nat) :
    Renders (serLoop expr dims p) (forall q, p <= q -> q < p + extent dims -> writable q)
      (loopText element dims p) (p + extent dims) := by
  induction dims generalizing p with
  | nil =>
      have single : Renders (expr p >>= fun _ => pure (p + 1)) _ _ (p + 1) := (each p).map rfl
      apply single.congr ?_ (fun _ => rfl)
      constructor
      · intro holds q low high
        have same : q = p := Nat.le_antisymm (Nat.le_of_lt_succ high) low
        rw [same]
        exact holds
      · exact fun all => all p (Nat.le_refl p) (Nat.lt_succ_self p)
  | cons count dims ih =>
      have rows := renders_serRounds ih count 0 p
      rw [<- extent_cons] at rows
      have close : Renders (ujsonPutbuf [closeBracket] >>= fun _ => pure (p + extent (count :: dims)))
          True [closeBracket] (p + extent (count :: dims)) := (renders_putbuf _).map rfl
      apply ((renders_putbuf [openBracket]).before (rows.behind close)).congr ?_ (fun _ => rfl)
      constructor
      · intro all q low high
        have row : (q - p) / extent dims < count := by
          rw [Nat.div_lt_iff_lt_mul, <- extent_cons]
          · omega
          · apply Nat.pos_of_ne_zero
            intro none
            rw [extent_cons, none, Nat.mul_zero] at high
            omega
        have inside := Nat.div_add_mod (q - p) (extent dims)
        have positive : 0 < extent dims := by
          apply Nat.pos_of_ne_zero
          intro none
          rw [extent_cons, none, Nat.mul_zero] at high
          omega
        have last := Nat.mod_lt (q - p) positive
        rw [Nat.mul_comm] at inside
        exact all _ row q (by omega) (by omega)
      · intro all y few q low high
        apply all q (by omega)
        have most : (y + 1) * extent dims <= count * extent dims := Nat.mul_le_mul_right _ few
        rw [Nat.succ_mul] at most
        rw [extent_cons]
        omega

theorem renders_element {size : Nat} {τ : Type} {serialize : τ -> Uj Unit} {writable : τ -> Prop}
    {text : τ -> List (BitVec 8)} (array : Fin size -> τ)
    (each : forall i, Renders (serialize (array i)) (writable (array i)) (text (array i)) ()) (p : Nat) :
    Renders (serElement array serialize p) (Exists fun inside : p < size => writable (array ⟨p, inside⟩))
      (elementText text array p) () := by
  unfold serElement elementText
  split
  · next inside => exact (each _).congr ⟨fun holds => ⟨inside, holds⟩, fun holds => holds.2⟩ (fun _ => rfl)
  · next outside =>
      exact (renders_raise _).congr ⟨False.elim, fun holds => outside holds.1⟩ (fun _ => rfl)

/-- What is written for a field that is an array, or for a single one. -/
theorem renders_serField {τ : Type} {serialize : τ -> Uj Unit} {writable : τ -> Prop}
    {text : τ -> List (BitVec 8)} (name : List (BitVec 8)) (dims : List Nat) (nfield : Nat)
    (array : Fin (extent dims) -> τ)
    (each : forall i, Renders (serialize (array i)) (writable (array i)) (text (array i)) ()) :
    Renders (serField name dims nfield (serElement array serialize)) (forall i, writable (array i))
      (quoted name ++ (colon :: (loopText (elementText text array) dims 0 ++
        separate (nfield - 1)))) () := by
  have loop := renders_serLoop (renders_element array each) dims 0
  have comma := renders_separate (nfield - 1)
  apply ((renders_string name).before ((renders_putbuf [colon]).before (loop.behind comma))).congr ?_
    (fun _ => rfl)
  constructor
  · intro all i
    exact (all i (Nat.zero_le _) (by rw [Nat.zero_add]; exact i.isLt)).2
  · intro all q _ inside
    rw [Nat.zero_add] at inside
    exact ⟨inside, all ⟨q, inside⟩⟩

theorem membersText_map_snd {τ τ' : Type} (x : Nat) (members : List (Member τ')) :
    membersText x (members.map (Member.snd : Member τ' -> Member (τ × τ'))) = membersText x members := by
  induction members generalizing x with
  | nil => rfl
  | cons member members ih =>
      rw [List.map_cons, membersText, membersText, ih]
      rfl

theorem membersText_later {τ : Type} (x : Nat) (members : List (Member τ)) :
    membersText (x + 1) members = membersText 1 members := by
  induction members generalizing x with
  | nil => rfl
  | cons member members ih =>
      rw [membersText, membersText, ih (x + 1), ih 1]
      rfl

/-- Between two members, there is a comma. -/
theorem membersText_one {τ : Type} (members : List (Member τ)) :
    membersText 1 members = separate members.length ++ membersText 0 members := by
  cases members with
  | nil => rfl
  | cons member members =>
      rw [membersText, membersText, membersText_later]
      rfl

theorem members_length (fields : Fields) (value : fields.Val) :
    (fields.members value).length = fields.count := by
  have longer {τ : Type} {rest : Fields} {members : List (Member rest.Val)}
      (ih : members.length = rest.count) :
      (members.map (Member.snd : Member rest.Val -> Member (τ × rest.Val))).length + 1 =
        1 + rest.count := by
    rw [List.length_map, ih, Nat.add_comm]
  induction fields using Fields.count.induct with
  | case1 => rfl
  | case2 name type dims rest ih => exact longer (ih value.2)
  | case3 name size dims rest ih => exact longer (ih value.2)

/-- A string in an array is written up to its end. -/
theorem renders_serString {size : Nat} (array : Fin size -> BitVec 8) :
    Renders (serString array) (cString array).isSome (quoted (content array)) () := by
  unfold serString stringIn content
  cases cString array with
  | some string => exact (renders_string string).congr (iff_of_true trivial rfl) (fun _ => rfl)
  | none => exact (renders_raise _).congr (iff_of_false id Bool.false_ne_true) (fun _ => rfl)

/-- A field and the ones behind it. -/
theorem renders_member {τ α τ' : Type} {serialize : τ -> Uj Unit} (writable : τ -> Prop)
    (text : τ -> List (BitVec 8)) (name : List (BitVec 8)) (dims : List Nat) (others : Nat)
    (array : Fin (extent dims) -> τ) (fill : α × τ' -> α × τ')
    (each : forall i, Renders (serialize (array i)) (writable (array i)) (text (array i)) ())
    (rest : Nat -> Uj Unit) {restWritable : Prop} {members : List (Member τ')}
    (renders : Renders (rest others) restWritable (membersText 0 members) ())
    (length : members.length = others) :
    Renders (serField name dims (1 + others) (serElement array serialize) >>=
        fun _ => rest (1 + others - 1))
      ((forall i, writable (array i)) ∧ restWritable)
      (membersText 0 (⟨name, loopText (elementText text array) dims 0, fill⟩ ::
        members.map (Member.snd : Member τ' -> Member (α × τ')))) () := by
  rw [<- Nat.add_sub_cancel_left (n := 1) (m := others)] at renders
  apply ((renders_serField name dims (1 + others) array each).bind renders).congr Iff.rfl
  intro _
  rw [membersText, membersText_map_snd, membersText_one, length, Nat.add_sub_cancel_left]
  simp [separate]

mutual

/-- What the generated function writes. -/
theorem renders_type : (type : Ty) -> (value : type.Val) ->
    Renders (type.serialize value) (type.Writable value) (type.text value) ()
  | .scalar type, value => renders_scalar type value
  | .enum decl, value => renders_enum decl value
  | .struct _ fields, value =>
      (renders_putbuf [openBrace]).before
        ((renders_fields fields value).behind (renders_putbuf [closeBrace]))

theorem renders_fields : (fields : Fields) -> (value : fields.Val) ->
    Renders (fields.serialize fields.count value) (fields.Writable value)
      (membersText 0 (fields.members value)) ()
  | .nil, _ => renders_pure ()
  | .field name type dims rest, value =>
      renders_member type.Writable type.text name dims rest.count value.1 _
        (fun i => renders_type type (value.1 i)) (fun nfield => rest.serialize nfield value.2)
        (renders_fields rest value.2) (members_length rest value.2)
  | .string name _ dims rest, value =>
      renders_member (fun array => (cString array).isSome) (fun array => quoted (content array)) name
        dims rest.count value.1 _ (fun i => renders_serString (value.1 i))
        (fun nfield => rest.serialize nfield value.2) (renders_fields rest value.2) (members_length rest value.2)

end

end Ujson
end SunburstChip
