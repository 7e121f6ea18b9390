import SunburstChip.Ujson.Accepts
import SunburstChip.Ujson.Derive

namespace SunburstChip
namespace Ujson

/-!
# JSON

The texts that JSON has for the objects of the generated functions, whatever these
functions take.  A text is for an object as it is before and for the same object with
everything in it that the text says, since an array that is shorter than its field says
nothing of the other elements, and a struct nothing of the fields that it does not name.
Characters are bytes, as they are for the functions that write strings.
-/

/-! ## Numbers and strings -/

/-- A number is written without a plus sign or leading zeros. -/
def JsonInteger (value : Int) (text : List (BitVec 8)) : Prop :=
  (0 <= value ∧ text = decimal value.natAbs) ∨
    (value <= 0 ∧ text = minus :: decimal value.natAbs)

/-- The characters behind a backslash, with what they stand for. -/
def jsonEscapes : List (BitVec 8 × BitVec 8) :=
  [(quote, quote), (backslash, backslash), (0x2f, 0x2f), (0x62, 0x08), (0x66, 0x0c),
    (0x6e, newline), (0x72, 0x0d), (0x74, 0x09)]

/-- A hexadecimal digit of either case. -/
def JsonHex (value : Nat) (ch : BitVec 8) : Prop :=
  (ascii "0123456789abcdef")[value]? = some ch ∨ (ascii "0123456789ABCDEF")[value]? = some ch

/-- A character of a string. -/
def JsonChar (ch : BitVec 8) (text : List (BitVec 8)) : Prop :=
  (0x20 <= ch ∧ ch ≠ quote ∧ ch ≠ backslash ∧ text = [ch]) ∨
  (Exists fun letter => (letter, ch) ∈ jsonEscapes ∧ text = [backslash, letter]) ∨
  Exists fun high => Exists fun low => JsonHex (ch.toNat / 16) high ∧ JsonHex (ch.toNat % 16) low ∧
    text = [backslash, 0x75, 0x30, 0x30, high, low]

/-- A string of some characters. -/
def JsonString (characters text : List (BitVec 8)) : Prop :=
  Exists fun pieces => List.Forall₂ JsonChar characters pieces ∧
    text = quote :: (pieces.flatten ++ [quote])

/-- A string for an array that has room for it and a NUL. -/
def JsonRow {size : Nat} (before after : Fin size -> BitVec 8) (text : List (BitVec 8)) : Prop :=
  Exists fun characters => JsonString characters text ∧ characters.length < size ∧
    after = fun i => (characters ++ [0]).getD i (before i)

/-! ## Lists -/

/-- Two texts with a character between them. -/
def Joined (separator : BitVec 8) (first second : List (BitVec 8) -> Prop)
    (text : List (BitVec 8)) : Prop :=
  Exists fun front => Exists fun back => Exists fun space => Exists fun space' =>
    first front ∧ second back ∧ JsonSpace space ∧ JsonSpace space' ∧
      text = front ++ space ++ separator :: (space' ++ back)

/-- A text between two characters. -/
def Enclosed (opening closing : BitVec 8) (inner : List (BitVec 8) -> Prop)
    (text : List (BitVec 8)) : Prop :=
  Exists fun middle => Exists fun space => Exists fun space' =>
    inner middle ∧ JsonSpace space ∧ JsonSpace space' ∧
      text = opening :: (space ++ middle ++ space' ++ [closing])

section

variable {τ : Type}

/-- The items behind the first ones, up to the closing character. -/
inductive JsonRest (closing : BitVec 8) (item : Nat -> τ -> τ -> List (BitVec 8) -> Prop) :
    Nat -> τ -> τ -> List (BitVec 8) -> Prop where
  | close {i : Nat} {object : τ} {space : List (BitVec 8)} (spaced : JsonSpace space) :
      JsonRest closing item i object object (space ++ [closing])
  | next {i : Nat} {before middle after : τ} {space space' text rest : List (BitVec 8)}
      (spaced : JsonSpace space) (spaced' : JsonSpace space') (here : item i before middle text)
      (others : JsonRest closing item (i + 1) middle after rest) :
      JsonRest closing item i before after (space ++ comma :: (space' ++ text ++ rest))

/-- Items between two characters, with a comma between every two of them. -/
inductive JsonList (opening closing : BitVec 8) (item : Nat -> τ -> τ -> List (BitVec 8) -> Prop) :
    τ -> τ -> List (BitVec 8) -> Prop where
  | empty {object : τ} {space : List (BitVec 8)} (spaced : JsonSpace space) :
      JsonList opening closing item object object (opening :: (space ++ [closing]))
  | items {before middle after : τ} {space text rest : List (BitVec 8)} (spaced : JsonSpace space)
      (first : item 0 before middle text) (others : JsonRest closing item 1 middle after rest) :
      JsonList opening closing item before after (opening :: (space ++ text ++ rest))

/-- Arrays in arrays, of at most so many elements each, from the element `p` on. -/
def JsonArray (element : Nat -> τ -> τ -> List (BitVec 8) -> Prop) :
    List Nat -> Nat -> τ -> τ -> List (BitVec 8) -> Prop
  | [], p => element p
  | count :: dims, p => JsonList openBracket closeBracket (fun i before after text =>
      i < count ∧ JsonArray element dims (p + i * extent dims) before after text)

/-- One element of an array. -/
def JsonElement (json : τ -> τ -> List (BitVec 8) -> Prop) {size : Nat} (p : Nat)
    (before after : Fin size -> τ) (text : List (BitVec 8)) : Prop :=
  Exists fun inside : p < size => Exists fun value => json (before ⟨p, inside⟩) value text ∧
    after = Function.update before ⟨p, inside⟩ value

end

/-! ## Types -/

/-- The name of a constant. -/
def EnumDecl.JsonName (decl : EnumDecl) (value : BitVec 32) (text : List (BitVec 8)) : Prop :=
  Exists fun name => JsonString name text ∧
    (decl.constants.find? (fun constant => constant.1 = name)).map Prod.snd = some value

/-- A constant by its name, or any value by its number. -/
def EnumDecl.Json (decl : EnumDecl) (value : BitVec 32) (text : List (BitVec 8)) : Prop :=
  decl.JsonName value text ∨ JsonInteger value.toNat text ∨
    Enclosed openBrace closeBrace
      (Joined colon (JsonString rustEnumIntvalueStr) (JsonInteger value.toNat)) text

/-- The module and the argument of a status, or the argument alone. -/
def JsonDetail (moduleId arg : BitVec 32) (text : List (BitVec 8)) : Prop :=
  (moduleId = 0 ∧ JsonInteger arg.toNat text) ∨
    Exists fun a => Exists fun b => Exists fun c => moduleId = makeModuleId a b c ∧
      Enclosed openBracket closeBracket (Joined comma (JsonString [a, b, c]) (JsonInteger arg.toNat))
        text

/-- A status by the name of its code. -/
def JsonStatus (value : Status) (text : List (BitVec 8)) : Prop :=
  Exists fun code => Exists fun moduleId => Exists fun arg =>
    value = statusCreate code moduleId ujsonC arg ∧
      Enclosed openBrace closeBrace
        (Joined colon (privateStatus.JsonName code) (JsonDetail moduleId arg)) text

/-- A value of a type. -/
def Scalar.Json : (type : Scalar) -> type.Val -> List (BitVec 8) -> Prop
  | uint64T, value | uint32T, value | uint16T, value | uint8T, value | sizeT, value =>
      JsonInteger value.toNat
  | int64T, value | int32T, value | int16T, value | int8T, value => JsonInteger value.toInt
  | bool, value => fun text => text = boolText value
  | statusT, value => JsonStatus value

mutual

/-- An object of a type. -/
def Ty.Json : (type : Ty) -> type.Val -> type.Val -> List (BitVec 8) -> Prop
  | .scalar type, _, value, text => type.Json value text
  | .enum decl, _, value, text => decl.Json value text
  | .struct _ fields, before, after, text =>
      JsonList openBrace closeBrace (fun _ before after text => Exists fun key =>
        Joined colon (JsonString key) (fields.Json key before after) text) before after text

/-- The field with a name. -/
def Fields.Json : (fields : Fields) -> List (BitVec 8) -> fields.Val -> fields.Val ->
    List (BitVec 8) -> Prop
  | .nil, _, _, _, _ => False
  | .field name type dims rest, key, before, after, text =>
      if key = name then
        JsonArray (JsonElement type.Json) dims 0 before.1 after.1 text ∧ after.2 = before.2
      else rest.Json key before.2 after.2 text ∧ after.1 = before.1
  | .string name _ dims rest, key, before, after, text =>
      if key = name then JsonArray (JsonElement JsonRow) dims 0 before.1 after.1 text ∧
        after.2 = before.2
      else rest.Json key before.2 after.2 text ∧ after.1 = before.1

end

end Ujson
end SunburstChip
