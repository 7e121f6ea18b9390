import SunburstChip.Base.Crc32
import SunburstChip.Base.Math
import SunburstChip.Base.Status
import SunburstChip.Lib.Routine

namespace SunburstChip

open Routine

/-!
# Reading and writing JSON

The functions of `ujson.c` that are not about statuses.  They read characters
one at a time, can push one back, and write pieces of text, through the
routines that a context has been given.  What these routines are going to
return is given in advance here; they are asked in order, and every character
and every piece of text is noted.

A `char` is unsigned, as on the processor the code is for, so that no character
is taken for an empty buffer when it has been pushed back.
-/

/-- What has gone through the routines of a context. -/
inductive Traffic where
  | fetched (ch : BitVec 8)
  | put (buf : List (BitVec 8))
  deriving DecidableEq

/-- Behind the `getc` and `putbuf` of a context: what will be returned for the
readings to come, and afterwards; which writes to come will be refused; and
what has been read and written. -/
structure Channel where
  incoming : List (Except Error (BitVec 8))
  ended : Error
  refusals : List (Option Error)
  traffic : List Traffic

/-- `ujson_t` -/
structure Ujson where
  ioContext : Channel
  buffer : Option (BitVec 8)
  crc32 : BitVec 32

/-- Why a routine does not return OK. -/
inductive Stop where
  | status (error : Error)
  /-- A local array or an object is accessed outside its bounds. -/
  | outOfRange
  /-- A loop goes on for ever. -/
  | endless
  deriving DecidableEq

/-- A routine on a context. -/
abbrev Uj (α : Type) : Type := Routine Ujson Stop α

/-- A routine on a context and an object it fills, which is nothing where a
pointer has left the object it is for. -/
abbrev UjOn (τ α : Type) : Type := Routine (Ujson × Option τ) Stop α

/-- What the `getc` of a context returns. -/
def Channel.getc (channel : Channel) : Except Error (BitVec 8) × Channel :=
  match channel.incoming with
  | [] => (.error channel.ended, channel)
  | .error error :: rest => (.error error, { channel with incoming := rest })
  | .ok ch :: rest =>
      (.ok ch, { channel with incoming := rest, traffic := channel.traffic ++ [.fetched ch] })

/-- What the `putbuf` of a context returns. -/
def Channel.putbuf (channel : Channel) (buf : List (BitVec 8)) : Except Error Unit × Channel :=
  let channel : Channel := { channel with traffic := channel.traffic ++ [.put buf] }
  match channel.refusals with
  | [] => (.ok (), channel)
  | none :: rest => (.ok (), { channel with refusals := rest })
  | some error :: rest => (.error error, { channel with refusals := rest })

/-- How many characters are left to be read. -/
def Ujson.remaining (uj : Ujson) : Nat :=
  (if uj.buffer.isSome then 1 else 0) + uj.ioContext.incoming.length

namespace Ujson

abbrev newline : BitVec 8 := 0x0a
abbrev quote : BitVec 8 := 0x22
abbrev comma : BitVec 8 := 0x2c
abbrev minus : BitVec 8 := 0x2d
abbrev colon : BitVec 8 := 0x3a
abbrev openBracket : BitVec 8 := 0x5b
abbrev backslash : BitVec 8 := 0x5c
abbrev closeBracket : BitVec 8 := 0x5d
abbrev openBrace : BitVec 8 := 0x7b
abbrev closeBrace : BitVec 8 := 0x7d

/-- The source file of this module. -/
def ujsonC : SourceFile := ⟨ascii "ujson.c", by decide⟩

/-- An error of `ujson.c`. -/
def ujsonError (code : AbslStatus) (line : Nat) (isError : code ≠ .kOk) : Stop :=
  .status (createError code 0#32 ujsonC line isError positioned_zero)

/-! ## Characters -/

/-- `ujson_crc32_reset` -/
def ujsonCrc32Reset : Uj Unit := fun uj => (.ok (), { uj with crc32 := crc32Init })

/-- `ujson_crc32_finish` -/
def ujsonCrc32Finish : Uj (BitVec 32) := fun uj => (.ok (crc32Finish uj.crc32), uj)

/-- `ujson_putbuf`; where the text lies makes no difference to the CRC. -/
def ujsonPutbuf (buf : List (BitVec 8)) : Uj Unit := fun uj =>
  let crc := crc32Add uj.crc32 0 buf
  match uj.ioContext.putbuf buf with
  | (.ok (), ioContext) => (.ok (), { uj with ioContext := ioContext, crc32 := crc })
  | (.error error, ioContext) =>
      (.error (.status error), { uj with ioContext := ioContext, crc32 := crc })

/-- `ujson_getc` -/
def ujsonGetc : Uj (BitVec 8) := fun uj =>
  match uj.buffer with
  | some ch => (.ok ch, { uj with buffer := none })
  | none =>
      match uj.ioContext.getc with
      | (.ok ch, ioContext) =>
          (.ok ch, { uj with ioContext := ioContext, crc32 := crc32Add8 uj.crc32 ch })
      | (.error error, ioContext) => (.error (.status error), { uj with ioContext := ioContext })

/-- `ujson_ungetc` -/
def ujsonUngetc (ch : BitVec 8) : Uj Unit := fun uj =>
  if uj.buffer.isSome then (.error (ujsonError .kFailedPrecondition 49 (by decide)), uj)
  else (.ok (), { uj with buffer := some ch })

/-- `ujson_streq`, for strings up to their ends. -/
def ujsonStreq : List (BitVec 8) -> List (BitVec 8) -> Bool
  | a :: as, b :: bs => if a = b then ujsonStreq as bs else false
  | [], [] => true
  | _, _ => false

/-- `is_space` -/
def isSpace (c : BitVec 8) : Bool := c == 0x20 || decide (c.setWidth 32 - 0x09 < 5#32)

/-- The loop of `consume_whitespace`. -/
def consumeWhitespaceRound (_ : Unit) : Uj (Unit ⊕ BitVec 8) := do
  let ch <- ujsonGetc
  pure (if isSpace ch then .inl () else .inr ch)

/-- `consume_whitespace` -/
def consumeWhitespace : Uj (BitVec 8) := repeatedly remaining .endless consumeWhitespaceRound ()

/-- `consume_hexdigit` -/
def consumeHexdigit : Uj (BitVec 32) := do
  let ch <- ujsonGetc
  if 0x30 <= ch ∧ ch <= 0x39 then pure ((ch - 0x30).setWidth 32)
  else if 0x41 <= ch ∧ ch <= 0x46 then pure ((ch - 0x41 + 10).setWidth 32)
  else if 0x61 <= ch ∧ ch <= 0x66 then pure ((ch - 0x61 + 10).setWidth 32)
  else raise (ujsonError .kOutOfRange 81 (by decide))

/-- `consume_hex` -/
def consumeHex : Uj (BitVec 32) := do
  let a <- consumeHexdigit
  let b <- consumeHexdigit
  let c <- consumeHexdigit
  let d <- consumeHexdigit
  pure ((a <<< 12) ||| (b <<< 8) ||| (c <<< 4) ||| d)

/-- `ujson_consume` -/
def ujsonConsume (ch : BitVec 8) : Uj Unit := do
  let got <- consumeWhitespace
  if ch ≠ got then raise (ujsonError .kNotFound 95 (by decide)) else pure ()

/-- `ujson_consume_maybe` -/
def ujsonConsumeMaybe (ch : BitVec 8) : Uj Bool := do
  let got <- consumeWhitespace
  if ch ≠ got then do
    let _ <- attempt (ujsonUngetc got)
    pure false
  else pure true

/-! ## Strings -/

/-- What an escape sequence stands for, after its backslash. -/
def escaped (ch : BitVec 8) : Uj (BitVec 8) :=
  if ch = quote ∨ ch = backslash ∨ ch = 0x2f then pure ch
  else if ch = 0x62 then pure 0x08
  else if ch = 0x66 then pure 0x0c
  else if ch = 0x6e then pure newline
  else if ch = 0x72 then pure 0x0d
  else if ch = 0x74 then pure 0x09
  else if ch = 0x75 then do
    let hex <- consumeHex
    pure (hex.setWidth 8)
  else raise (ujsonError .kOutOfRange 144 (by decide))

/-- A character of a string, which may begin an escape sequence. -/
def unescape (ch : BitVec 8) : Uj (BitVec 8) :=
  if ch = backslash then do
    let ch <- ujsonGetc
    escaped ch
  else pure ch

/-- Replace an object. -/
def assign {τ : Type} (value : τ) : UjOn τ Unit := fun s =>
  match s.2 with
  | some _ => (.ok (), s.1, some value)
  | none => (.error .outOfRange, s)

/-- Fill an element of an array. -/
def onElement {size : Nat} {τ α : Type} (index : Nat) (m : UjOn τ α) : UjOn (Fin size -> τ) α :=
  fun s =>
    if inside : index < size then
      let (out, uj, element) := m (s.1, s.2.map (fun array => array ⟨index, inside⟩))
      (out, uj, s.2.map (fun array =>
        Function.update array ⟨index, inside⟩ (element.getD (array ⟨index, inside⟩))))
    else
      let (out, uj, _) := m (s.1, none)
      (out, uj, s.2)

/-- The loop of `ujson_parse_qs`, where `n` characters have been stored and
there is room for some more. -/
def parseQsRound {size : Nat} (state : Nat × BitVec 32) :
    UjOn (Fin size -> BitVec 8) (Nat × BitVec 32 ⊕ Nat) := do
  let ch <- onFirst ujsonGetc
  if ch = quote then pure (.inr state.1)
  else do
    let ch <- onFirst (unescape ch)
    if state.2 > 0 then do
      onElement state.1 (assign ch)
      pure (.inl (state.1 + 1, state.2 - 1))
    else pure (.inl state)

/-- `ujson_parse_qs`, into an array -/
def ujsonParseQs {size : Nat} (len : BitVec 32) : UjOn (Fin size -> BitVec 8) Nat := do
  onFirst (ujsonConsume quote)
  let n <- repeatedly (fun s => s.1.remaining) .endless parseQsRound (0, len - 1)
  onElement n (assign 0)
  pure n

/-- The string in an array, if it ends there. -/
def cString {size : Nat} (array : Fin size -> BitVec 8) : Option (List (BitVec 8)) :=
  if 0 ∈ List.ofFn array then some ((List.ofFn array).takeWhile (· ≠ 0)) else none

/-- A local object that a routine fills, with what it contains before. -/
def onLocal {τ α : Type} (contents : τ) (m : UjOn τ α) : Uj τ := fun uj =>
  match m (uj, some contents) with
  | (.error stop, uj, _) => (.error stop, uj)
  | (.ok _, uj, object) => (.ok (object.getD contents), uj)

/-- The string in an array is read up to its end. -/
def stringIn {size : Nat} (array : Fin size -> BitVec 8) : Uj (List (BitVec 8)) :=
  match cString array with
  | some string => pure string
  | none => raise .outOfRange

/-! ## Numbers and booleans -/

/-- A decimal digit. -/
def isDigit (ch : BitVec 8) : Bool := decide (0x30 <= ch ∧ ch <= 0x39)

/-- The loop of `ujson_parse_integer`: the value, and the character after it
unless reading that has failed. -/
def parseIntegerRound (state : BitVec 8 × BitVec 64) :
    Uj (BitVec 8 × BitVec 64 ⊕ BitVec 64 × Option (BitVec 8)) := do
  let value := state.2 * 10 + (state.1 - 0x30).setWidth 64
  let s <- attempt ujsonGetc
  match s with
  | .error _ => pure (.inr (value, none))
  | .ok ch => pure (if isDigit ch then .inl (ch, value) else .inr (value, some ch))

/-- Push a character back if there is one. -/
def pushBack : Option (BitVec 8) -> Uj Unit
  | some ch => ujsonUngetc ch
  | none => pure ()

/-- The first character after a sign. -/
def afterSign (ch : BitVec 8) : Uj (BitVec 8) := if ch = minus then ujsonGetc else pure ch

/-- `ujson_parse_integer`, of which the caller takes as many bytes as it needs. -/
def ujsonParseInteger : Uj (BitVec 64) := do
  let ch <- consumeWhitespace
  let digit <- afterSign ch
  if !isDigit digit then raise (ujsonError .kNotFound 168 (by decide))
  else do
    let (value, after) <- repeatedly remaining .endless parseIntegerRound (digit, 0)
    pushBack after
    pure (if ch = minus then -value else value)

/-- `ujson_deserialize_bool` -/
def ujsonDeserializeBool : Uj Bool := do
  let got <- consumeWhitespace
  if got = 0x74 then do
    ujsonConsume 0x72
    ujsonConsume 0x75
    ujsonConsume 0x65
    pure true
  else if got = 0x66 then do
    ujsonConsume 0x61
    ujsonConsume 0x6c
    ujsonConsume 0x73
    ujsonConsume 0x65
    pure false
  else do
    let _ <- attempt (ujsonUngetc got)
    raise (ujsonError .kNotFound 202 (by decide))

/-- The functions that parse integers of specific sizes. -/
def deserializeInteger (width : Nat) : Uj (BitVec width) := do
  let value <- ujsonParseInteger
  pure (value.setWidth width)

/-- `ujson_deserialize_uint64_t` -/
def ujsonDeserializeUint64T : Uj (BitVec 64) := deserializeInteger 64
/-- `ujson_deserialize_uint32_t` -/
def ujsonDeserializeUint32T : Uj (BitVec 32) := deserializeInteger 32
/-- `ujson_deserialize_uint16_t` -/
def ujsonDeserializeUint16T : Uj (BitVec 16) := deserializeInteger 16
/-- `ujson_deserialize_uint8_t` -/
def ujsonDeserializeUint8T : Uj (BitVec 8) := deserializeInteger 8
/-- `ujson_deserialize_size_t` -/
def ujsonDeserializeSizeT : Uj (BitVec 32) := deserializeInteger 32
/-- `ujson_deserialize_int64_t` -/
def ujsonDeserializeInt64T : Uj (BitVec 64) := deserializeInteger 64
/-- `ujson_deserialize_int32_t` -/
def ujsonDeserializeInt32T : Uj (BitVec 32) := deserializeInteger 32
/-- `ujson_deserialize_int16_t` -/
def ujsonDeserializeInt16T : Uj (BitVec 16) := deserializeInteger 16
/-- `ujson_deserialize_int8_t` -/
def ujsonDeserializeInt8T : Uj (BitVec 8) := deserializeInteger 8

/-! ## Writing -/

/-- `hex` -/
def hex (digit : BitVec 8) : BitVec 8 := (ascii "0123456789abcdef").getD digit.toNat 0

/-- What is written for a character of a string. -/
def escape (ch : BitVec 8) : List (BitVec 8) :=
  if ch < 0x20 ∨ ch = quote ∨ ch = backslash ∨ ch >= 0x7f then
    if ch = quote then [backslash, quote]
    else if ch = backslash then [backslash, backslash]
    else if ch = 0x08 then [backslash, 0x62]
    else if ch = 0x0c then [backslash, 0x66]
    else if ch = newline then [backslash, 0x6e]
    else if ch = 0x0d then [backslash, 0x72]
    else if ch = 0x09 then [backslash, 0x74]
    else [backslash, 0x75, 0x30, 0x30, hex (ch >>> 4), hex (ch &&& 0xf)]
  else [ch]

/-- The loop of `ujson_serialize_string`. -/
def serializeChars : List (BitVec 8) -> Uj Unit
  | [] => pure ()
  | ch :: chars => do
      ujsonPutbuf (escape ch)
      serializeChars chars

/-- `ujson_serialize_string`, for a string up to its end. -/
def ujsonSerializeString (chars : List (BitVec 8)) : Uj Unit := do
  ujsonPutbuf [quote]
  serializeChars chars
  ujsonPutbuf [quote]

/-- The loops of `ujson_serialize_integer64` and `ujson_serialize_integer32`,
which write digits in front of `text` while there is room. -/
def writeDecimal {width : Nat} (divide : BitVec width -> BitVec width × BitVec width) :
    Nat -> BitVec width -> List (BitVec 8) -> Option (List (BitVec 8))
  | 0, _, _ => none
  | room + 1, value, text =>
      let (quotient, remainder) := divide value
      let text := (0x30 + remainder.setWidth 8) :: text
      if quotient = 0 then some text else writeDecimal divide room quotient text

/-- Both functions, with their ways of dividing by ten. -/
def serializeInteger {width : Nat} (divide : BitVec width -> BitVec width × BitVec width)
    (value : BitVec width) (neg : Bool) : Uj Unit :=
  match writeDecimal divide 23 (if neg then ~~~value + 1 else value) [] with
  | none => raise .outOfRange
  | some text =>
      if neg then
        if text.length < 23 then ujsonPutbuf (minus :: text) else raise .outOfRange
      else ujsonPutbuf text

/-- `ujson_serialize_integer64` -/
def ujsonSerializeInteger64 (value : BitVec 64) (neg : Bool) : Uj Unit :=
  serializeInteger (fun value => udiv64Slow value 10) value neg

/-- `ujson_serialize_integer32` -/
def ujsonSerializeInteger32 (value : BitVec 32) (neg : Bool) : Uj Unit :=
  serializeInteger (fun value => (value / 10, value % 10)) value neg

/-- `ujson_serialize_bool` -/
def ujsonSerializeBool (value : Bool) : Uj Unit :=
  if value then ujsonPutbuf (ascii "true") else ujsonPutbuf (ascii "false")

/-- `ujson_serialize_uint64_t` -/
def ujsonSerializeUint64T (value : BitVec 64) : Uj Unit := ujsonSerializeInteger64 value false
/-- `ujson_serialize_uint32_t` -/
def ujsonSerializeUint32T (value : BitVec 32) : Uj Unit := ujsonSerializeInteger32 value false
/-- `ujson_serialize_uint16_t` -/
def ujsonSerializeUint16T (value : BitVec 16) : Uj Unit :=
  ujsonSerializeInteger32 (value.setWidth 32) false
/-- `ujson_serialize_uint8_t` -/
def ujsonSerializeUint8T (value : BitVec 8) : Uj Unit :=
  ujsonSerializeInteger32 (value.setWidth 32) false
/-- `ujson_serialize_size_t` -/
def ujsonSerializeSizeT (value : BitVec 32) : Uj Unit := ujsonSerializeInteger32 value false
/-- `ujson_serialize_int64_t` -/
def ujsonSerializeInt64T (value : BitVec 64) : Uj Unit := ujsonSerializeInteger64 value value.msb
/-- `ujson_serialize_int32_t` -/
def ujsonSerializeInt32T (value : BitVec 32) : Uj Unit := ujsonSerializeInteger32 value value.msb
/-- `ujson_serialize_int16_t` -/
def ujsonSerializeInt16T (value : BitVec 16) : Uj Unit :=
  ujsonSerializeInteger32 (value.signExtend 32) value.msb
/-- `ujson_serialize_int8_t` -/
def ujsonSerializeInt8T (value : BitVec 8) : Uj Unit :=
  ujsonSerializeInteger32 (value.signExtend 32) value.msb

end Ujson
end SunburstChip
