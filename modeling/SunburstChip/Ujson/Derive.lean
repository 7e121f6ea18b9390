import SunburstChip.Runtime.Print
import SunburstChip.Ujson.Basic

namespace SunburstChip
namespace Ujson

open Routine

/-!
# Generated functions

What the macros of `ujson_derive.h` generate from the description of a struct
or an enum: a function that writes an object as JSON, and one that fills an
object from JSON.  A description lists the fields of a struct, with a type or a
string size and with dimensions, or the constants of an enum.

The local objects of these functions hold whatever has been on the stack.
-/

/-- What is on the stack where a local object comes to lie. -/
abbrev Leftover : Type := Nat -> BitVec 8

/-- A local array of some size. -/
def Leftover.array (bytes : Leftover) (size : Nat) : Fin size -> BitVec 8 := fun i => bytes i

/-- A local word. -/
def Leftover.word (bytes : Leftover) : BitVec 32 :=
  setWordBytes 0 0 [bytes 0, bytes 1, bytes 2, bytes 3]

/-- The local objects that are not initialised: `value` of an enum, `code` and `module` of a status,
and `key` of a struct. -/
inductive Local where
  | value | code | module' | key
  deriving DecidableEq

/-- What is on the stack, for each local object. -/
abbrev Stack : Type := Local -> Leftover

/-- A string that is parsed into a local array. -/
def parseLocal (bytes : Leftover) (size : Nat) : Uj (List (BitVec 8)) := do
  let array <- onLocal (bytes.array size) (ujsonParseQs (.ofNat 32 size))
  stringIn array

/-! ## Enums -/

/-- The description of an enum: its constants with their names, whether it is
declared `WITH_UNKNOWN`, and what its functions return for an invalid argument. -/
structure EnumDecl where
  constants : List (List (BitVec 8) × BitVec 32)
  withUnknown : Bool
  invalidArgument : Error
  deriving DecidableEq

/-- `RUST_ENUM_INTVALUE_STR` -/
def rustEnumIntvalueStr : List (BitVec 8) := ascii "IntValue"

/-- `UJSON_IMPL_SERIALIZE_ENUM` -/
def EnumDecl.serialize (decl : EnumDecl) (value : BitVec 32) : Uj Unit :=
  match decl.constants.find? (fun constant => constant.2 = value) with
  | some constant => ujsonSerializeString constant.1
  | none =>
      if decl.withUnknown then ujsonSerializeUint32T value
      else do
        ujsonPutbuf ([openBrace, quote] ++ rustEnumIntvalueStr ++ [quote, colon])
        ujsonSerializeUint32T value
        ujsonPutbuf [closeBrace]

/-- The constant with a name. -/
def EnumDecl.named (decl : EnumDecl) (value : List (BitVec 8)) : UjOn (BitVec 32) Unit :=
  match decl.constants.find? (fun constant => ujsonStreq value constant.1) with
  | some constant => assign constant.2
  | none => raise (.status decl.invalidArgument)

/-- A number into an enum. -/
def deserializeNumber : UjOn (BitVec 32) Unit := do
  let value <- onFirst ujsonDeserializeUint32T
  assign value

/-- The name of a constant. -/
def EnumDecl.deserializeName (decl : EnumDecl) (stack : Stack) : UjOn (BitVec 32) Unit := do
  onFirst (ujsonUngetc quote)
  let value <- onFirst (parseLocal (stack .value) 128)
  decl.named value

/-- A value that has no name. -/
def EnumDecl.deserializeIntValue (decl : EnumDecl) (stack : Stack) : UjOn (BitVec 32) Unit := do
  let value <- onFirst (parseLocal (stack .value) 128)
  onFirst (ujsonConsume colon)
  if ujsonStreq value rustEnumIntvalueStr then do
    deserializeNumber
    onFirst (ujsonConsume closeBrace)
  else raise (.status decl.invalidArgument)

/-- `UJSON_IMPL_DESERIALIZE_ENUM` -/
def EnumDecl.deserialize (decl : EnumDecl) (stack : Stack) : UjOn (BitVec 32) Unit := do
  let named <- onFirst (ujsonConsumeMaybe quote)
  if named then decl.deserializeName stack
  else do
    let braced <- onFirst (ujsonConsumeMaybe openBrace)
    if braced then decl.deserializeIntValue stack
    else deserializeNumber

/-! ## Statuses -/

/-- The source file of `private_status_t`. -/
def privateStatusH : SourceFile := ⟨ascii "private_status.h", by decide⟩

/-- `ENUM_PRIVATE_STATUS` -/
def privateStatus : EnumDecl where
  constants := (statusCodes.take 17).zipIdx.map (fun code => (code.1, .ofNat 32 code.2))
  withUnknown := false
  invalidArgument := createError .kInvalidArgument 0#32 privateStatusH 40 (by decide) positioned_zero

/-- Hand pieces of text to `ujson_putbuf`, whatever it returns. -/
def putPieces : List (List (BitVec 8)) -> Uj Unit
  | [] => pure ()
  | piece :: pieces => do
      let _ <- attempt (ujsonPutbuf piece)
      putPieces pieces

/-- `ujson_serialize_status_t`, which prints with the format `%!r` -/
def ujsonSerializeStatusT (value : Status) : Uj Unit :=
  match Print.writeStatus value true with
  | some pieces => putPieces pieces
  | none => raise .outOfRange

/-- The module of a status and its argument. -/
def deserializeModule (stack : Stack) : Uj (BitVec 32 × BitVec 32) := do
  let module' <- onLocal ((stack .module').array 4) (ujsonParseQs 4)
  ujsonConsume comma
  let arg <- ujsonDeserializeUint32T
  ujsonConsume closeBracket
  pure (makeModuleId (module' 0) (module' 1) (module' 2), arg)

/-- The module identifier of the letters in a buffer. -/
def moduleIdOf (letters : Fin 4 -> BitVec 8) : BitVec 32 :=
  makeModuleId (letters 0) (letters 1) (letters 2)

/-- The argument of a status that has no module. -/
def deserializeArg : Uj (BitVec 32 × BitVec 32) := do
  let arg <- ujsonDeserializeUint32T
  pure (0, arg)

/-- The part of a status after its code. -/
def deserializeDetail (stack : Stack) : Uj (BitVec 32 × BitVec 32) := do
  let bracketed <- ujsonConsumeMaybe openBracket
  if bracketed then deserializeModule stack else deserializeArg

/-- `ujson_deserialize_status_t` -/
def ujsonDeserializeStatusT (stack : Stack) : Uj Status := do
  ujsonConsume openBrace
  let code <- onLocal (stack .code).word (privateStatus.deserialize stack)
  ujsonConsume colon
  let detail <- deserializeDetail stack
  ujsonConsume closeBrace
  pure (statusCreate code detail.1 ujsonC detail.2)

/-! ## Structs -/

/-- The types that fields can have without being described themselves. -/
inductive Scalar where
  | uint64T | uint32T | uint16T | uint8T | sizeT
  | int64T | int32T | int16T | int8T
  | bool
  | statusT
  deriving DecidableEq

/-- The values of a type. -/
abbrev Scalar.Val : Scalar -> Type
  | uint64T | int64T => BitVec 64
  | uint32T | sizeT | int32T => BitVec 32
  | uint16T | int16T => BitVec 16
  | uint8T | int8T => BitVec 8
  | bool => Bool
  | statusT => Status

/-- The function that writes a value. -/
def Scalar.serialize : (type : Scalar) -> type.Val -> Uj Unit
  | uint64T, value => ujsonSerializeUint64T value
  | uint32T, value => ujsonSerializeUint32T value
  | uint16T, value => ujsonSerializeUint16T value
  | uint8T, value => ujsonSerializeUint8T value
  | sizeT, value => ujsonSerializeSizeT value
  | int64T, value => ujsonSerializeInt64T value
  | int32T, value => ujsonSerializeInt32T value
  | int16T, value => ujsonSerializeInt16T value
  | int8T, value => ujsonSerializeInt8T value
  | bool, value => ujsonSerializeBool value
  | statusT, value => ujsonSerializeStatusT value

/-- The function that parses a value. -/
def Scalar.parse (stack : Stack) : (type : Scalar) -> Uj type.Val
  | uint64T => ujsonDeserializeUint64T
  | uint32T => ujsonDeserializeUint32T
  | uint16T => ujsonDeserializeUint16T
  | uint8T => ujsonDeserializeUint8T
  | sizeT => ujsonDeserializeSizeT
  | int64T => ujsonDeserializeInt64T
  | int32T => ujsonDeserializeInt32T
  | int16T => ujsonDeserializeInt16T
  | int8T => ujsonDeserializeInt8T
  | bool => ujsonDeserializeBool
  | statusT => ujsonDeserializeStatusT stack

mutual

/-- The types of fields. -/
inductive Ty where
  | scalar (type : Scalar)
  | enum (decl : EnumDecl)
  /-- A struct, with what its functions return for an invalid argument. -/
  | struct (invalidArgument : Error) (fields : Fields)

/-- The description of a struct: fields of a type, or strings of a size, each
with dimensions. -/
inductive Fields where
  | nil
  | field (name : List (BitVec 8)) (type : Ty) (dims : List Nat) (rest : Fields)
  | string (name : List (BitVec 8)) (size : Nat) (dims : List Nat) (rest : Fields)

end

/-- How many elements there are. -/
def extent : List Nat -> Nat
  | [] => 1
  | count :: dims => count * extent dims

mutual

/-- The objects of a type. -/
def Ty.Val : Ty -> Type
  | .scalar type => type.Val
  | .enum _ => BitVec 32
  | .struct _ fields => fields.Val

/-- The fields of a struct. -/
def Fields.Val : Fields -> Type
  | .nil => Unit
  | .field _ type dims rest => (Fin (extent dims) -> type.Val) × rest.Val
  | .string _ size dims rest => (Fin (extent dims) -> Fin size -> BitVec 8) × rest.Val

end

/-- `ujson_count` -/
def Fields.count : Fields -> Nat
  | .nil => 0
  | .field _ _ _ rest | .string _ _ _ rest => 1 + rest.count

/-! ## Writing a struct -/

/-- The loop of `ujson_ser_loop`, with `left` rounds to go. -/
def serRounds (item : Nat -> Uj Nat) : (left x p : Nat) -> Uj Nat
  | 0, _, p => pure p
  | left + 1, x, p => do
      if x ≠ 0 then ujsonPutbuf [comma] else pure ()
      let p <- item p
      serRounds item left (x + 1) p

/-- `ujson_ser_loop`, from the element `p` on, or the element itself where there
are no dimensions; gives the element after it. -/
def serLoop (expr : Nat -> Uj Unit) : List Nat -> Nat -> Uj Nat
  | [], p => do
      expr p
      pure (p + 1)
  | count :: dims, p => do
      ujsonPutbuf [openBracket]
      let p <- serRounds (serLoop expr dims) count 0 p
      ujsonPutbuf [closeBracket]
      pure p

/-- An element of an array. -/
def serElement {size : Nat} {τ : Type} (array : Fin size -> τ) (serialize : τ -> Uj Unit) (p : Nat) :
    Uj Unit :=
  if inside : p < size then serialize (array ⟨p, inside⟩) else raise .outOfRange

/-- What `ujson_ser_field` and `ujson_ser_string` have in common, where `nfield`
fields are left. -/
def serField (name : List (BitVec 8)) (dims : List Nat) (nfield : Nat) (expr : Nat -> Uj Unit) :
    Uj Unit := do
  ujsonSerializeString name
  ujsonPutbuf [colon]
  let _ <- serLoop expr dims 0
  if nfield - 1 ≠ 0 then ujsonPutbuf [comma] else pure ()

/-- A string in an array. -/
def serString {size : Nat} (array : Fin size -> BitVec 8) : Uj Unit := do
  let string <- stringIn array
  ujsonSerializeString string

mutual

/-- The function that writes an object; for a struct, `UJSON_IMPL_SERIALIZE_STRUCT`. -/
def Ty.serialize : (type : Ty) -> type.Val -> Uj Unit
  | .scalar type, value => type.serialize value
  | .enum decl, value => decl.serialize value
  | .struct _ fields, value => do
      ujsonPutbuf [openBrace]
      fields.serialize fields.count value
      ujsonPutbuf [closeBrace]

/-- `ujson_ser_field` and `ujson_ser_string`, for each field. -/
def Fields.serialize : (fields : Fields) -> (nfield : Nat) -> fields.Val -> Uj Unit
  | .nil, _, _ => pure ()
  | .field name type dims rest, nfield, value => do
      serField name dims nfield (serElement value.1 type.serialize)
      rest.serialize (nfield - 1) value.2
  | .string name _ dims rest, nfield, value => do
      serField name dims nfield (serElement value.1 serString)
      rest.serialize (nfield - 1) value.2

end

/-! ## Filling a struct -/

/-- Fill a part of an object. -/
def onPart {τ σ α : Type} (part : τ -> σ) (replace : σ -> τ -> τ) (m : UjOn σ α) : UjOn τ α := fun s =>
  let (out, uj, filled) := m (s.1, s.2.map part)
  (out, uj, s.2.map (fun object => replace (filled.getD (part object)) object))

/-- Fill the first component of a pair. -/
def onFst {τ τ' α : Type} (m : UjOn τ α) : UjOn (τ × τ') α :=
  onPart Prod.fst (fun first pair => (first, pair.2)) m

/-- Fill the second component of a pair. -/
def onSnd {τ τ' α : Type} (m : UjOn τ' α) : UjOn (τ × τ') α :=
  onPart Prod.snd (fun second pair => (pair.1, second)) m

/-- The comma in front of every item but the first. -/
def separator (i : Nat) : Uj Unit := if i > 0 then ujsonConsume comma else pure ()

section

variable {σ τ : Type}

/-- The loops over items up to a closing character, where `state` says which
item comes next. -/
def itemsRound (close : BitVec 8) (item : σ -> UjOn τ σ) (state : σ) : UjOn τ (σ ⊕ σ) := do
  let closed <- onFirst (ujsonConsumeMaybe close)
  if closed then pure (.inr state)
  else do
    let state <- item state
    pure (.inl state)

/-- Items up to a closing character. -/
def items (close : BitVec 8) (item : σ -> UjOn τ σ) (state : σ) : UjOn τ σ :=
  repeatedly (fun s => s.1.remaining) .endless (itemsRound close item) state

/-- An item of the innermost loop of `ujson_de_loop`: `i` have been parsed, and
`p` is the next element. -/
def deItem (expr : Nat -> UjOn τ Unit) (count : Nat) (state : Nat × Nat) : UjOn τ (Nat × Nat) := do
  onFirst (separator state.1)
  if state.1 < count then do
    expr state.2
    pure (state.1 + 1, state.2 + 1)
  else pure state

/-- An item of the other loops of `ujson_de_loop`: `x` have been parsed. -/
def deRow (row : Nat -> UjOn τ Nat) (state : Nat × Nat) : UjOn τ (Nat × Nat) := do
  onFirst (separator state.1)
  let p <- row state.2
  pure (state.1 + 1, p)

/-- `ujson_de_loop`, from the element `p` on, or the element itself where there
are no dimensions; gives the element after it. -/
def deLoop (expr : Nat -> UjOn τ Unit) : List Nat -> Nat -> UjOn τ Nat
  | [], p => do
      expr p
      pure (p + 1)
  | [count], p => do
      onFirst (ujsonConsume openBracket)
      let (i, p) <- items closeBracket (deItem expr count) (0, p)
      pure (if i < count then p + (count - i) else p)
  | _ :: count :: dims, p => do
      onFirst (ujsonConsume openBracket)
      let (_, p) <- items closeBracket (deRow (deLoop expr (count :: dims))) (0, p)
      pure p

/-- The body of the loop of `UJSON_IMPL_DESERIALIZE_STRUCT`, where `nfield`
fields have been parsed and `deField` parses the one with a name. -/
def deMember (stack : Stack) (deField : List (BitVec 8) -> UjOn τ Unit) (nfield : Nat) :
    UjOn τ Nat := do
  onFirst (separator nfield)
  let key <- onFirst (parseLocal (stack .key) 128)
  onFirst (ujsonConsume colon)
  deField key
  pure (nfield + 1)

/-- `UJSON_IMPL_DESERIALIZE_STRUCT` -/
def deStruct (stack : Stack) (deField : List (BitVec 8) -> UjOn τ Unit) : UjOn τ Unit := do
  onFirst (ujsonConsume openBrace)
  let _ <- items closeBrace (deMember stack deField) 0
  pure ()

end

/-- A value into an object. -/
def Scalar.deserialize (stack : Stack) (type : Scalar) : UjOn type.Val Unit := do
  let value <- onFirst (type.parse stack)
  assign value

/-- A string into an array. -/
def deString {size : Nat} (len : BitVec 32) : UjOn (Fin size -> BitVec 8) Unit := do
  let _ <- ujsonParseQs len
  pure ()

/-- What `ujson_de_field` and `ujson_de_string` have in common. -/
def deArray {size : Nat} {τ : Type} (dims : List Nat) (expr : UjOn τ Unit) :
    UjOn (Fin size -> τ) Unit := do
  let _ <- deLoop (fun p => onElement p expr) dims 0
  pure ()

mutual

/-- The function that fills an object. -/
def Ty.deserialize (stack : Stack) : (type : Ty) -> UjOn type.Val Unit
  | .scalar type => type.deserialize stack
  | .enum decl => decl.deserialize stack
  | .struct invalidArgument fields =>
      deStruct stack (fields.deserialize stack invalidArgument)

/-- `ujson_de_field` and `ujson_de_string`: the field with a name. -/
def Fields.deserialize (stack : Stack) (invalidArgument : Error) :
    (fields : Fields) -> List (BitVec 8) -> UjOn fields.Val Unit
  | .nil, _ => raise (.status invalidArgument)
  | .field name type dims rest, key =>
      if ujsonStreq key name then onFst (deArray dims (type.deserialize stack))
      else onSnd (rest.deserialize stack invalidArgument key)
  | .string name size dims rest, key =>
      if ujsonStreq key name then
        onFst (deArray dims (deString (.ofNat 32 (size * extent dims))))
      else onSnd (rest.deserialize stack invalidArgument key)

end

end Ujson
end SunburstChip
