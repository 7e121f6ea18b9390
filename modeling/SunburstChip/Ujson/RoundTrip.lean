import SunburstChip.Ujson.StructText

namespace SunburstChip
namespace Ujson

open Routine

/-!
# What is parsed from the text of an object

The parser that is generated from a description reads the text of an object of
this description, stops behind it, and makes an object with the same values of
whatever was there before.  It finds the members by their names, which have to
fit into its local array.
-/

section

variable {τ τ' α β : Type}

/-! ## Items -/

/-- A text that begins an item: it begins with no space and with no closing character. -/
def Begins (text : List (BitVec 8)) : Prop :=
  Exists fun ch => Exists fun rest => text = ch :: rest ∧ isSpace ch = false ∧
    ch ≠ closeBracket ∧ ch ≠ closeBrace

variable {text : List (BitVec 8)} {value : α} {size : Nat}

theorem Begins.append (begins : Begins text) (text' : List (BitVec 8)) :
    Begins (text ++ text') := by
  rcases begins with ⟨ch, rest, same, dark, open', open''⟩
  exact ⟨ch, rest ++ text', by rw [same]; rfl, dark, open', open''⟩

theorem Begins.separated (begins : Begins text) (x : Nat) :
    Begins (separate x ++ text) := by
  unfold separate
  split
  · exact ⟨comma, text, rfl, by decide, by decide, by decide⟩
  · exact begins

theorem Begins.ne_nil (begins : Begins text) : text ≠ [] := by
  rcases begins with ⟨ch, rest, same, -⟩
  rw [same]
  exact List.cons_ne_nil ch rest

/-- The comma in front of an item is read. -/
theorem Reads.separated {looks : Bool} {next : Unit -> UjOn τ α} {fill : τ -> τ} (x : Nat)
    (reads : Reads looks (next ()) text value fill) :
    Reads looks (onFirst (separator x) >>= next) (separate x ++ text) value fill := by
  have dark : isSpace comma = false := by decide
  unfold separator separate
  split
  · exact Reads.after (scans_consume dark) reads nofun
  · exact reads

/-- After the last item comes the closing character. -/
theorem reads_items_done {σ : Type} {close : BitVec 8} (dark : isSpace close = false)
    (item : σ -> UjOn τ σ) (state : σ) : Reads false (items close item state) [close] state id :=
  Reads.last (Reads.map (scans_consumeMaybe dark).onFirst (fun _ _ => rfl))

/-- An item is read, and then the others. -/
theorem reads_items_more {σ : Type} {looks looks' : Bool} {close : BitVec 8} {item : σ -> UjOn τ σ}
    {state next result : σ} {text' : List (BitVec 8)} {fill fill' : τ -> τ}
    (brackets : close = closeBracket ∨ close = closeBrace) (begins : Begins text)
    (first : Reads looks (item state) text next fill)
    (others : Reads looks' (items close item next) text' result fill')
    (opens : looks = true -> Opens text') :
    Reads looks' (items close item state) (text ++ text') result (fill' ∘ fill) := by
  rcases begins with ⟨ch, rest, same, dark, notBracket, notBrace⟩
  subst same
  apply Reads.more ?_ others opens (List.cons_ne_nil ch rest)
  have other : close ≠ ch := by
    rcases brackets with rfl | rfl
    · exact Ne.symm notBracket
    · exact Ne.symm notBrace
  refine Reads.other ?_ dark other
  exact first.map (fun _ _ => rfl)

/-! ## Arrays -/

/-- What is made of an object by the rows of an array. -/
def fillRows (row : Nat -> τ -> τ) (n : Nat) : (left p : Nat) -> τ -> τ
  | 0, _ => id
  | left + 1, p => fillRows row n left (p + n) ∘ row p

/-- What is made of an object by an array, from the element `p` on. -/
def fillLoop (element : Nat -> τ -> τ) : List Nat -> Nat -> τ -> τ
  | [], p => element p
  | count :: dims, p => fillRows (fillLoop element dims) (extent dims) count p

theorem opens_rowsText (row : Nat -> List (BitVec 8)) (n left x p : Nat) :
    Opens (rowsText row n left (x + 1) p ++ [closeBracket]) := by
  cases left with
  | zero => exact opens_close _ _ (by decide)
  | succ left => exact opens_close comma _ (by decide)

/-- The rows of an array are read up to the closing bracket. -/
theorem reads_rows {item : Nat × Nat -> UjOn τ (Nat × Nat)} {row : Nat -> List (BitVec 8)} {n : Nat}
    {fill : Nat -> τ -> τ} (valid : Nat -> Nat -> Prop)
    (each : forall x p, valid x p -> Begins (row p) ∧
      Reads true (item (x, p)) (separate x ++ row p) (x + 1, p + n) (fill p))
    (left x p : Nat) (inside : forall y, y < left -> valid (x + y) (p + y * n)) :
    Reads false (items closeBracket item (x, p)) (rowsText row n left x p ++ [closeBracket])
      (x + left, p + left * n) (fillRows fill n left p) := by
  induction left generalizing x p with
  | zero =>
      rw [Nat.zero_mul]
      exact reads_items_done (by decide) item (x, p)
  | succ left ih =>
      have here := inside 0 (Nat.succ_pos left)
      rw [Nat.zero_mul] at here
      have others := ih (x + 1) (p + n) (by
        intro y few
        have next := inside (y + 1) (Nat.succ_lt_succ few)
        have index : x + (y + 1) = x + 1 + y := by omega
        have place : p + (y + 1) * n = p + n + y * n := by
          rw [Nat.succ_mul]
          omega
        rw [index, place] at next
        exact next)
      have total : (x + 1 + left, p + n + left * n) = (x + (left + 1), p + (left + 1) * n) := by
        rw [Nat.succ_mul, Nat.add_comm (left * n), Nat.add_assoc, Nat.add_assoc, Nat.add_comm 1]
      rw [total] at others
      rcases each x p here with ⟨begins, reads⟩
      rw [rowsText, <- List.append_assoc, List.append_assoc]
      exact reads_items_more (Or.inl rfl) (begins.separated x) reads others
        (fun _ => opens_rowsText row n left x _)

/-- The elements of an array are read, and where there are no dimensions the one element. -/
theorem reads_deLoop {expr : Nat -> UjOn τ Unit} {element : Nat -> List (BitVec 8)}
    {fill : Nat -> τ -> τ}
    (each : forall p, p < size -> Begins (element p) ∧ Reads true (expr p) (element p) () (fill p))
    (dims : List Nat) (p : Nat) (inside : p + extent dims <= size) :
    Begins (loopText element dims p) ∧
      Reads true (deLoop expr dims p) (loopText element dims p) (p + extent dims)
        (fillLoop fill dims p) := by
  induction dims generalizing p with
  | nil =>
      rcases each p inside with ⟨begins, reads⟩
      exact ⟨begins, reads.map (fun _ _ => rfl)⟩
  | cons count dims ih =>
      have dark : isSpace openBracket = false := by decide
      have rows (y : Nat) (few : y < count) : p + y * extent dims + extent dims <= size := by
        have most : (y + 1) * extent dims <= count * extent dims := Nat.mul_le_mul_right _ few
        rw [Nat.succ_mul] at most
        rw [extent_cons] at inside
        omega
      refine ⟨⟨openBracket, _, rfl, by decide, by decide, by decide⟩, Reads.ahead ?_⟩
      cases dims with
      | nil =>
          have items : Reads false (items closeBracket (deItem expr count) (0, p))
              (rowsText element 1 count 0 p ++ [closeBracket]) (0 + count, p + count * 1)
              (fillRows fill 1 count p) := by
            refine reads_rows (fun x p => x < count ∧ p < size) ?_ count 0 p ?_
            · rintro x p ⟨few, inside⟩
              rcases each p inside with ⟨begins, reads⟩
              refine ⟨begins, Reads.separated x ?_⟩
              rw [if_pos few]
              exact reads.map (fun _ _ => rfl)
            · intro y few
              rw [Nat.zero_add]
              exact ⟨few, rows y few⟩
          apply Reads.after (scans_consume dark) ?_ nofun
          apply items.map
          intro s object
          dsimp only
          rw [if_neg (by omega)]
          rfl
      | cons count' dims =>
          have items : Reads false
              (items closeBracket (deRow (deLoop expr (count' :: dims))) (0, p))
              (rowsText (loopText element (count' :: dims)) (extent (count' :: dims)) count 0 p ++
                [closeBracket]) (0 + count, p + count * extent (count' :: dims))
              (fillRows (fillLoop fill (count' :: dims)) (extent (count' :: dims)) count p) := by
            refine reads_rows (fun _ p => p + extent (count' :: dims) <= size) ?_ count 0 p ?_
            · intro x p inside
              rcases ih p inside with ⟨begins, reads⟩
              exact ⟨begins, Reads.separated x (reads.map (fun _ _ => rfl))⟩
            · exact rows
          apply Reads.after (scans_consume dark) ?_ nofun
          exact items.map (fun _ _ => rfl)

/-- What is made of an array by one of its elements. -/
def alterElement {size : Nat} (fill : Fin size -> τ -> τ) (p : Nat) (array : Fin size -> τ) :
    Fin size -> τ :=
  fun i => if (i : Nat) = p then fill i (array i) else array i

theorem fillRows_apply {fill : Fin size -> τ -> τ} {row : Nat -> (Fin size -> τ) -> Fin size -> τ}
    {n : Nat}
    (each : forall p array i, row p array i =
      if p <= i ∧ i < p + n then fill i (array i) else array i) (left p : Nat)
    (array : Fin size -> τ) (i : Fin size) :
    fillRows row n left p array i =
      if p <= i ∧ i < p + left * n then fill i (array i) else array i := by
  induction left generalizing p array with
  | zero =>
      rw [if_neg (by rw [Nat.zero_mul]; omega)]
      rfl
  | succ left ih =>
      change fillRows row n left (p + n) (row p array) i = _
      rw [ih, each, Nat.succ_mul]
      by_cases before : p <= i
      · by_cases here : i < p + n
        · rw [if_neg (by omega), if_pos ⟨before, here⟩, if_pos (by omega)]
        · have kept : (if p <= i ∧ i < p + n then fill i (array i) else array i) = array i :=
            if_neg (fun both => here both.2)
          rw [kept]
          by_cases behind : i < p + (left * n + n)
          · rw [if_pos (by omega), if_pos ⟨before, behind⟩]
          · rw [if_neg (by omega), if_neg (fun both => behind both.2)]
      · rw [if_neg (by omega), if_neg (fun both => before both.1), if_neg (fun both => before both.1)]

theorem fillLoop_apply (fill : Fin size -> τ -> τ) (dims : List Nat) (p : Nat)
    (array : Fin size -> τ) (i : Fin size) :
    fillLoop (alterElement fill) dims p array i =
      if p <= i ∧ i < p + extent dims then fill i (array i) else array i := by
  induction dims generalizing p array i with
  | nil =>
      change (if (i : Nat) = p then fill i (array i) else array i) =
        if p <= i ∧ i < p + 1 then fill i (array i) else array i
      by_cases same : (i : Nat) = p
      · rw [if_pos same, if_pos (by omega)]
      · rw [if_neg same, if_neg (by omega)]
  | cons count dims ih => exact fillRows_apply ih count p array i

/-- An element is read where it belongs. -/
theorem Reads.onElement {looks : Bool} {index : Nat} {m : UjOn τ α} {fill : Fin size -> τ -> τ}
    (inside : index < size) (reads : Reads looks m text value (fill ⟨index, inside⟩)) :
    Reads looks (Ujson.onElement index m) text value (alterElement fill index) := by
  intro uj array rest left delimited
  rcases reads uj (array ⟨index, inside⟩) rest left delimited with ⟨uj', done, after⟩
  refine ⟨uj', ?_, after⟩
  have same : alterElement fill index array =
      alter index (fun _ => fill ⟨index, inside⟩ (array ⟨index, inside⟩)) array := by
    funext i
    unfold alterElement alter
    split
    · next here =>
        have here : i = ⟨index, inside⟩ := Fin.ext here
        rw [here]
    · rfl
  rw [onElement_inside inside done, same]

/-- A whole array is read, or a single element. -/
theorem reads_deArray {expr : UjOn τ Unit} (dims : List Nat) (text : τ -> List (BitVec 8))
    (array : Fin (extent dims) -> τ) {fill : Fin (extent dims) -> τ -> τ}
    (each : forall i, Begins (text (array i)) ∧ Reads true expr (text (array i)) () (fill i)) :
    Begins (loopText (elementText text array) dims 0) ∧
      Reads true (deArray dims expr : UjOn (Fin (extent dims) -> τ) Unit)
        (loopText (elementText text array) dims 0) () (fun object i => fill i (object i)) := by
  have element (p : Nat) (inside : p < extent dims) : Begins (elementText text array p) ∧
      Reads true (onElement p expr) (elementText text array p) () (alterElement fill p) := by
    rcases each ⟨p, inside⟩ with ⟨begins, reads⟩
    unfold elementText
    rw [dif_pos inside]
    exact ⟨begins, reads.onElement inside⟩
  rcases reads_deLoop element dims 0 (by rw [Nat.zero_add]) with ⟨begins, reads⟩
  refine ⟨begins, reads.map ?_⟩
  intro s object
  have filled : fillLoop (alterElement fill) dims 0 object = fun i => fill i (object i) := by
    funext i
    rw [fillLoop_apply, Nat.zero_add, if_pos ⟨Nat.zero_le _, i.isLt⟩]
  rw [filled]
  rfl

/-! ## Parts -/

theorem Reads.onPart {looks : Bool} {part : τ -> τ'} {replace : τ' -> τ -> τ} {m : UjOn τ' α}
    {fill : τ' -> τ'} (reads : Reads looks m text value fill) :
    Reads looks (Ujson.onPart part replace m) text value
      (fun object => replace (fill (part object)) object) := by
  intro uj object rest left delimited
  rcases reads uj (part object) rest left delimited with ⟨uj', done, after⟩
  refine ⟨uj', ?_, after⟩
  unfold Ujson.onPart
  dsimp only [Option.map_some]
  rw [done]
  rfl

/-- The members of a struct are read up to the closing brace. -/
theorem reads_members (stack : Stack) (deField : List (BitVec 8) -> UjOn τ Unit)
    {members : List (Member τ)} (each : forall member, member ∈ members -> FitsKey member.name ∧ 0 ∉ member.name ∧
      Reads true (deField member.name) member.text () member.fill) (x : Nat) :
    Reads false (items closeBrace (deMember stack deField) x) (membersText x members ++ [closeBrace])
      (x + members.length)
      (fun object => members.foldl (fun object member => member.fill object) object) := by
  induction members generalizing x with
  | nil => exact reads_items_done (by decide) (deMember stack deField) x
  | cons member members ih =>
      have dark : isSpace colon = false := by decide
      rcases each member List.mem_cons_self with ⟨short, noNull, reads⟩
      have others := ih (fun other listed => each other (List.mem_cons_of_mem _ listed)) (x + 1)
      have here : Reads true (deMember stack deField x)
          (separate x ++ (quoted member.name ++ ([colon] ++ member.text))) (x + 1) member.fill := by
        apply Reads.separated x
        apply Reads.after (scans_parseLocal _ short (by decide) noNull) ?_ nofun
        apply Reads.after (scans_consume dark) ?_ nofun
        exact reads.map (fun _ _ => rfl)
      have begins : Begins (separate x ++ (quoted member.name ++ ([colon] ++ member.text))) :=
        Begins.separated ⟨quote, _, rfl, by decide, by decide, by decide⟩ x
      have opens : Opens (membersText (x + 1) members ++ [closeBrace]) := by
        cases members with
        | nil => exact opens_close _ _ (by decide)
        | cons member members => exact opens_close comma _ (by decide)
      have text : membersText x (member :: members) ++ [closeBrace] =
          (separate x ++ (quoted member.name ++ ([colon] ++ member.text))) ++
            (membersText (x + 1) members ++ [closeBrace]) := by
        rw [membersText]
        simp only [List.append_assoc, List.cons_append, List.nil_append]
      rw [text, List.length_cons, Nat.add_comm members.length, <- Nat.add_assoc]
      exact reads_items_more (Or.inr rfl) begins here others (fun _ => opens)

end

/-! ## Descriptions and objects -/

/-- The names of the fields. -/
def Fields.names : Fields -> List (List (BitVec 8))
  | .nil => []
  | .field name _ _ rest | .string name _ _ rest => name :: rest.names

mutual

/-- A description that a compiler accepts: the names of the fields of a struct
and of the constants of an enum are different strings, and sizes are numbers. -/
def Ty.Proper : Ty -> Prop
  | .scalar _ => True
  | .enum decl => decl.Proper
  | .struct _ fields => fields.names.Nodup ∧ fields.Proper

/-- The same for the fields of a struct. -/
def Fields.Proper : Fields -> Prop
  | .nil => True
  | .field name type _ rest => 0 ∉ name ∧ type.Proper ∧ rest.Proper
  | .string name size dims rest => 0 ∉ name ∧ size * extent dims < 2 ^ 32 ∧ rest.Proper

end

mutual

/-- All names fit into the local arrays of the generated functions. -/
def Ty.Short : Ty -> Prop
  | .scalar _ => True
  | .enum decl => forall constant, constant ∈ decl.constants -> FitsKey constant.1
  | .struct _ fields => fields.Short

/-- The same for the fields of a struct. -/
def Fields.Short : Fields -> Prop
  | .nil => True
  | .field name type _ rest => FitsKey name ∧ type.Short ∧ rest.Short
  | .string name _ _ rest => FitsKey name ∧ rest.Short

end

/-- The text of a value ends with a number. -/
def Scalar.looks : Scalar -> Bool
  | .bool | .statusT => false
  | _ => true

/-- The text of an object ends with a number. -/
def Ty.looks : (type : Ty) -> type.Val -> Bool
  | .scalar type, _ => type.looks
  | .enum decl, value => decl.looks value
  | .struct _ _, _ => false

mutual

/-- There is no status in the objects. -/
def Ty.Plain : Ty -> Prop
  | .scalar type => type ≠ .statusT
  | .enum _ => True
  | .struct _ fields => fields.Plain

/-- The same for the fields of a struct. -/
def Fields.Plain : Fields -> Prop
  | .nil => True
  | .field _ type _ rest => type.Plain ∧ rest.Plain
  | .string _ _ _ rest => rest.Plain

end

mutual

/-- Every status in an object comes back. -/
def Ty.Survives : (type : Ty) -> type.Val -> Prop
  | .scalar .statusT, value => Ujson.Survives value
  | .scalar _, _ => True
  | .enum _, _ => True
  | .struct _ fields, value => fields.Survives value

/-- The same for the fields of a struct. -/
def Fields.Survives : (fields : Fields) -> fields.Val -> Prop
  | .nil, _ => True
  | .field _ type _ rest, value => (forall i, type.Survives (value.1 i)) ∧ rest.Survives value.2
  | .string _ _ _ rest, value => rest.Survives value.2

end

mutual

/-- The same values in two objects, where a string goes up to its end. -/
def Ty.Same : (type : Ty) -> type.Val -> type.Val -> Prop
  | .scalar _, value, value' => value = value'
  | .enum _, value, value' => value = value'
  | .struct _ fields, value, value' => fields.Same value value'

/-- The same for the fields of a struct. -/
def Fields.Same : (fields : Fields) -> fields.Val -> fields.Val -> Prop
  | .nil, _, _ => True
  | .field _ type _ rest, value, value' =>
      (forall i, type.Same (value.1 i) (value'.1 i)) ∧ rest.Same value.2 value'.2
  | .string _ _ _ rest, value, value' =>
      (forall i, cString (value.1 i) = cString (value'.1 i)) ∧ rest.Same value.2 value'.2

end

mutual

theorem survives_plain : (type : Ty) -> type.Plain -> (value : type.Val) -> type.Survives value
  | .scalar .statusT, plain, _ => absurd rfl plain
  | .scalar .bool, _, _ => trivial
  | .scalar .uint64T, _, _ | .scalar .uint32T, _, _ | .scalar .uint16T, _, _ => trivial
  | .scalar .uint8T, _, _ | .scalar .sizeT, _, _ | .scalar .int64T, _, _ => trivial
  | .scalar .int32T, _, _ | .scalar .int16T, _, _ | .scalar .int8T, _, _ => trivial
  | .enum _, _, _ => trivial
  | .struct _ fields, plain, value => survives_fields fields plain value

theorem survives_fields : (fields : Fields) -> fields.Plain -> (value : fields.Val) ->
    fields.Survives value
  | .nil, _, _ => trivial
  | .field _ type _ rest, plain, value =>
      ⟨fun i => survives_plain type plain.1 (value.1 i), survives_fields rest plain.2 value.2⟩
  | .string _ _ _ rest, plain, value => survives_fields rest plain value.2

end

theorem foldl_snd {τ τ' : Type} (members : List (Member τ')) (pair : τ × τ') :
    (members.map Member.snd).foldl (fun object member => member.fill object) pair =
      (pair.1, members.foldl (fun object member => member.fill object) pair.2) := by
  induction members generalizing pair with
  | nil => rfl
  | cons member members ih =>
      rw [List.map_cons, List.foldl_cons, List.foldl_cons, ih]
      rfl

/-- A string whose end is in the array. -/
theorem content_bounds {size : Nat} {array : Fin size -> BitVec 8} (ends : (cString array).isSome) :
    cString array = some (content array) ∧ (content array).length < size ∧ 0 ∉ content array := by
  rcases Option.isSome_iff_exists.mp ends with ⟨string, is⟩
  have same : content array = string := by
    unfold content
    rw [is]
    rfl
  rw [same]
  exact ⟨is, cString_bounds is⟩

mutual

/-- What has been parsed is the same as what has been written. -/
theorem same_fill : (type : Ty) -> (value object : type.Val) -> type.Writable value ->
    type.Same value (type.fill value object)
  | .scalar _, _, _, _ => rfl
  | .enum _, _, _, _ => rfl
  | .struct _ fields, value, object, writable => same_members fields value object writable

theorem same_members : (fields : Fields) -> (value object : fields.Val) -> fields.Writable value ->
    fields.Same value
      ((fields.members value).foldl (fun object member => member.fill object) object)
  | .nil, _, _, _ => trivial
  | .field name type dims rest, value, object, writable => by
      have folded := foldl_snd (rest.members value.2)
        (fun i => type.fill (value.1 i) (object.1 i), object.2)
      have same : (Fields.field name type dims rest).Same value
          (fun i => type.fill (value.1 i) (object.1 i),
            (rest.members value.2).foldl (fun object member => member.fill object) object.2) :=
        ⟨fun i => same_fill type (value.1 i) (object.1 i) (writable.1 i),
          same_members rest value.2 object.2 writable.2⟩
      rw [<- folded] at same
      exact same
  | .string name size dims rest, value, object, writable => by
      have folded := foldl_snd (rest.members value.2)
        (fun i => fillString (content (value.1 i)) (object.1 i), object.2)
      have same : (Fields.string name size dims rest).Same value
          (fun i => fillString (content (value.1 i)) (object.1 i),
            (rest.members value.2).foldl (fun object member => member.fill object) object.2) := by
        refine ⟨fun i => ?_, same_members rest value.2 object.2 writable.2⟩
        rcases content_bounds (writable.1 i) with ⟨is, fits, noNull⟩
        rw [is]
        exact (cString_fillString fits noNull (object.1 i)).symm
      rw [<- folded] at same
      exact same

end

/-! ## Reading back -/

theorem begins_signed (neg : Bool) (n : Nat) : Begins (signed neg n) := by
  have dark : forall ch : BitVec 8, isDigit ch = true ->
      isSpace ch = false ∧ ch ≠ closeBracket ∧ ch ≠ closeBrace := by decide
  unfold signed
  split
  · exact ⟨minus, decimal n, rfl, by decide, by decide, by decide⟩
  · rcases decimal_cons n with ⟨ch, text, numeral, isFirst⟩
    exact ⟨ch, text, numeral, dark ch isFirst⟩

theorem begins_quoted (string : List (BitVec 8)) : Begins (quoted string) :=
  ⟨quote, _, rfl, by decide, by decide, by decide⟩

theorem begins_scalar (type : Scalar) (value : type.Val) : Begins (type.text value) := by
  cases type with
  | bool =>
      cases value with
      | true => exact ⟨0x74, _, rfl, by decide, by decide, by decide⟩
      | false => exact ⟨0x66, _, rfl, by decide, by decide, by decide⟩
  | statusT => exact ⟨openBrace, _, rfl, by decide, by decide, by decide⟩
  | int64T | int32T | int16T | int8T => exact begins_signed _ _
  | _ => exact begins_signed false _

theorem begins_enum (decl : EnumDecl) (value : BitVec 32) : Begins (decl.text value) := by
  unfold EnumDecl.text
  split
  · exact begins_quoted _
  · split
    · exact begins_signed false _
    · exact ⟨openBrace, _, rfl, by decide, by decide, by decide⟩

theorem scans_scalar (stack : Stack) (type : Scalar) (value : type.Val)
    (survives : (Ty.scalar type).Survives value) :
    Scans type.looks (type.parse stack) (type.text value) value := by
  cases type with
  | bool => exact scans_bool value
  | statusT => exact scans_status stack survives
  | int64T | int32T | int16T | int8T => exact scans_signed (by decide) value
  | _ => exact scans_unsigned (by decide) value

theorem reads_scalar (stack : Stack) (type : Scalar) (value : type.Val)
    (survives : (Ty.scalar type).Survives value) :
    Reads type.looks (type.deserialize stack) (type.text value) () (fun _ => value) :=
  Reads.map (scans_scalar stack type value survives).onFirst (fun _ _ => rfl)

theorem members_names (fields : Fields) (value : fields.Val) :
    (fields.members value).map Member.name = fields.names := by
  have longer {τ : Type} {rest : Fields} {members : List (Member rest.Val)} (name : List (BitVec 8))
      (ih : members.map Member.name = rest.names) :
      name :: (members.map (Member.snd : Member rest.Val -> Member (τ × rest.Val))).map Member.name =
        name :: rest.names := by
    rw [List.map_map, <- ih]
    rfl
  induction fields using Fields.count.induct with
  | case1 => rfl
  | case2 name type dims rest ih => exact longer name (ih value.2)
  | case3 name size dims rest ih => exact longer name (ih value.2)

/-- A field is found by its name, and so are the ones behind it. -/
theorem reads_cons {τ τ' : Type} {name : List (BitVec 8)} (text : List (BitVec 8))
    (expr : UjOn τ Unit) (fill : τ -> τ) (deRest : List (BitVec 8) -> UjOn τ' Unit)
    {members : List (Member τ')} (short : FitsKey name)
    (noNull : 0 ∉ name) (head : Reads true expr text () fill)
    (apart : name ∉ members.map Member.name)
    (tail : forall member, member ∈ members -> FitsKey member.name ∧ 0 ∉ member.name ∧
      Reads true (deRest member.name) member.text () member.fill) :
    forall member, member ∈ (⟨name, text, fun pair => (fill pair.1, pair.2)⟩ ::
        members.map Member.snd : List (Member (τ × τ'))) ->
      FitsKey member.name ∧ 0 ∉ member.name ∧
      Reads true (if ujsonStreq member.name name then onFst expr else onSnd (deRest member.name))
        member.text () member.fill := by
  intro member listed
  rcases List.mem_cons.mp listed with rfl | behind
  · refine ⟨short, noNull, ?_⟩
    rw [if_pos ((ujsonStreq_iff _ _).mpr rfl)]
    exact head.onPart
  · rcases List.mem_map.mp behind with ⟨other, listed', rfl⟩
    rcases tail other listed' with ⟨short', noNull', reads⟩
    refine ⟨short', noNull', ?_⟩
    have different : ¬ ujsonStreq other.name name = true := by
      rw [ujsonStreq_iff]
      rintro rfl
      exact apart (List.mem_map_of_mem listed')
    change Reads true (if ujsonStreq other.name name then _ else _) _ _ _
    rw [if_neg different]
    exact reads.onPart

mutual

/-- The generated parser reads the text of an object. -/
theorem reads_type (stack : Stack) : (type : Ty) -> type.Proper -> type.Short -> (value : type.Val) ->
    type.Writable value -> type.Survives value -> Begins (type.text value) ∧
      Reads (type.looks value) (type.deserialize stack) (type.text value) () (type.fill value)
  | .scalar type, _, _, value, _, survives =>
      ⟨begins_scalar type value, reads_scalar stack type value survives⟩
  | .enum decl, proper, short, value, _, _ =>
      ⟨begins_enum decl value,
        reads_enum decl stack proper value (fun constant member _ => short constant member)⟩
  | .struct invalidArgument fields, proper, short, value, writable, survives => by
      have dark : isSpace openBrace = false := by decide
      have members := reads_members stack (fields.deserialize stack invalidArgument)
        (reads_fields stack invalidArgument fields proper.1 proper.2 short value writable survives) 0
      refine ⟨⟨openBrace, _, rfl, by decide, by decide, by decide⟩, ?_⟩
      apply Reads.after (scans_consume dark) ?_ nofun
      exact members.map (fun _ _ => rfl)

theorem reads_fields (stack : Stack) (invalidArgument : Error) : (fields : Fields) ->
    fields.names.Nodup -> fields.Proper -> fields.Short -> (value : fields.Val) ->
    fields.Writable value -> fields.Survives value -> forall member, member ∈ fields.members value ->
      FitsKey member.name ∧ 0 ∉ member.name ∧
      Reads true (fields.deserialize stack invalidArgument member.name) member.text () member.fill
  | .nil, _, _, _, _, _, _ => fun _ none => (nomatch none)
  | .field name type dims rest, distinct, proper, short, value, writable, survives => by
      rcases List.nodup_cons.mp distinct with ⟨apart, distinct⟩
      rw [<- members_names rest value.2] at apart
      have element (i : Fin (extent dims)) : Begins (type.text (value.1 i)) ∧
          Reads true (type.deserialize stack) (type.text (value.1 i)) () (type.fill (value.1 i)) := by
        rcases reads_type stack type proper.2.1 short.2.1 (value.1 i) (writable.1 i) (survives.1 i)
          with ⟨begins, reads⟩
        exact ⟨begins, reads.looking⟩
      have each := reads_deArray dims type.text value.1 element
      exact reads_cons (loopText (elementText type.text value.1) dims 0)
        (deArray dims (type.deserialize stack))
        (fun object i => type.fill (value.1 i) (object i))
        (rest.deserialize stack invalidArgument) short.1 proper.1 each.2 apart
        (reads_fields stack invalidArgument rest distinct
        proper.2.2 short.2.2 value.2 writable.2 survives.2)
  | .string name size dims rest, distinct, proper, short, value, writable, survives => by
      rcases List.nodup_cons.mp distinct with ⟨apart, distinct⟩
      rw [<- members_names rest value.2] at apart
      have string (i : Fin (extent dims)) : Begins (quoted (content (value.1 i))) ∧
          Reads true (deString (.ofNat 32 (size * extent dims)) : UjOn (Fin size -> BitVec 8) Unit)
            (quoted (content (value.1 i))) () (fillString (content (value.1 i))) := by
        refine ⟨begins_quoted _, Reads.ahead ?_⟩
        rcases content_bounds (writable.1 i) with ⟨-, fits, -⟩
        have some : 1 <= extent dims := Nat.one_le_iff_ne_zero.mpr (fun none => by
          have inside := i.isLt
          omega)
        have whole : size * 1 <= size * extent dims := Nat.mul_le_mul_left size some
        have len : (BitVec.ofNat 32 (size * extent dims)).toNat = size * extent dims := by
          rw [BitVec.toNat_ofNat, Nat.mod_eq_of_lt proper.2.1]
        exact Reads.map (reads_parseQs fits (by rw [len]; omega)) (fun _ _ => rfl)
      have each := reads_deArray dims (fun array => quoted (content array)) value.1 string
      exact reads_cons (loopText (elementText (fun array => quoted (content array)) value.1) dims 0)
        (deArray dims (deString (.ofNat 32 (size * extent dims))))
        (fun object i => fillString (content (value.1 i)) (object i))
        (rest.deserialize stack invalidArgument) short.1 proper.1 each.2 apart
        (reads_fields stack invalidArgument rest distinct
        proper.2.2 short.2 value.2 writable.2 survives)

end

/-! ## Round trips -/

/-- What has been written by the generated functions for a description is parsed
back by them, into any object, if all names fit. -/
theorem type_roundTrip {type : Ty} (proper : type.Proper) (plain : type.Plain) (short : type.Short)
    (value object : type.Val) (stack : Stack) {text : List (BitVec 8)}
    (put : written (type.serialize value) = some text) {uj : Ujson}
    {rest : List (Except Error (BitVec 8))} (left : pending uj = chars text ++ rest)
    (delimited : type.looks value = true -> Delimits rest) :
    Exists fun uj' => Exists fun object' =>
      type.deserialize stack (uj, some object) = (.ok (), uj', some object') ∧
      type.Same value object' ∧ pending uj' = rest := by
  rcases ((renders_type type value).written).mp put with ⟨writable, same⟩
  rw [<- same] at left
  have reads := (reads_type stack type proper short value writable (survives_plain type plain value)).2
  rcases reads uj object rest left delimited with ⟨uj', done, after, -⟩
  exact ⟨uj', type.fill value object, done, same_fill type value object writable, after⟩

/-- A struct with one field, whose name has 128 characters. -/
def longNamed : Ty :=
  .struct (createError .kInvalidArgument 0#32 ujsonC 1 AbslStatus.kInvalidArgument_ne positioned_zero)
    (.field (List.replicate 128 0x61) (.scalar .uint8T) [] .nil)

/-- An object of this struct. -/
def longNamedValue : longNamed.Val := (fun _ => 7#8, ())

theorem longNamed_refused :
    longNamed.Proper ∧ longNamed.Plain ∧
    written (longNamed.serialize longNamedValue) = some (longNamed.text longNamedValue) ∧
    ¬ Exists fun uj' => Exists fun object' =>
      longNamed.deserialize (fun _ _ => 0) (delivering (longNamed.text longNamedValue),
        some longNamedValue) = (.ok (), uj', some object') ∧
      longNamed.Same longNamedValue object' ∧ pending uj' = [] := by
  have refused : (longNamed.deserialize (fun _ _ => 0) (delivering (longNamed.text longNamedValue),
      some longNamedValue)).1 =
      .error (.status (createError .kInvalidArgument 0#32 ujsonC 1 (by decide) positioned_zero)) := by
    decide +kernel
  refine ⟨⟨by decide, by decide, trivial, trivial⟩, ⟨Scalar.noConfusion, trivial⟩, by decide +kernel, ?_⟩
  rintro ⟨uj', object', parsed, -⟩
  rw [parsed] at refused
  cases refused

/-- A struct with an enum, a string and an array. -/
def sample : Ty :=
  .struct (createError .kInvalidArgument 0#32 ujsonC 1 AbslStatus.kInvalidArgument_ne positioned_zero)
    (.field (ascii "direction") (.enum ⟨[(ascii "North", 0), (ascii "South", 1)], true,
      createError .kInvalidArgument 0#32 ujsonC 2 AbslStatus.kInvalidArgument_ne positioned_zero⟩) []
    (.string (ascii "name") 4 []
    (.field (ascii "grid") (.scalar .int8T) [2, 1] .nil)))

/-- An object of this struct, with an unknown constant. -/
def sampleValue : sample.Val :=
  (fun _ => 7#32, fun _ i => [0x61, quote, 0, 0x62].getD i 0,
    fun i => ([0x80, 0x7f] : List (BitVec 8)).getD i 0, ())

theorem type_roundTrip_sample :
    Exists fun uj' => Exists fun object' =>
      sample.deserialize (fun _ _ => 0) (delivering
          (ascii "\x7b\"direction\":7,\"name\":\"a\\\"\",\"grid\":[[-128],[127]]\x7d"),
        some sampleValue) = (.ok (), uj', some object') ∧
      sample.Same sampleValue object' ∧ pending uj' = [] := by
  have proper : sample.Proper :=
    ⟨by decide, by decide, ⟨by decide, by decide⟩, by decide, by decide, by decide, trivial, trivial⟩
  have constants : forall constant,
      constant ∈ [(ascii "North", 0#32), (ascii "South", 1#32)] -> FitsKey constant.1 := by decide
  have short : sample.Short := ⟨by decide, constants, by decide, by decide, trivial, trivial⟩
  exact type_roundTrip proper ⟨trivial, Scalar.noConfusion, trivial⟩ short sampleValue sampleValue
    (fun _ _ => 0) (by decide +kernel) (List.append_nil _).symm nofun

end Ujson
end SunburstChip
