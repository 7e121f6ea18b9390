import SunburstChip.Ujson.StructText

namespace SunburstChip
namespace Ujson

open Routine

/-!
# Strings and integers on their own

What the functions for strings and integers write is what the functions that
parse them read.  An integer comes back as it was, and the character that ends
its text is left to be read.  A string comes back as far as there is room for
it, however the cut falls among its escape sequences.
-/

/-! ## Strings -/

section Strings

variable {size : Nat}

/-- A string is in the first elements of an array, with its end behind it, and
the other elements are as before. -/
structure Stored (string : List (BitVec 8)) (array array' : Fin size -> BitVec 8) : Prop where
  chars : forall i : Fin size, i < string.length -> array' i = string.getD i 0
  ended : forall i : Fin size, (i : Nat) = string.length -> array' i = 0
  others : forall i : Fin size, string.length < i -> array' i = array i

theorem stored_fillString (string : List (BitVec 8)) (array : Fin size -> BitVec 8) :
    Stored string array (fillString string array) := by
  constructor
  · intro i inside
    unfold fillString alter
    rw [if_neg (Nat.ne_of_lt inside), putString_apply, if_pos ⟨Nat.zero_le i, by omega⟩,
      Nat.sub_zero]
  · intro i same
    unfold fillString alter
    rw [if_pos same]
  · intro i behind
    unfold fillString alter
    rw [if_neg (Nat.ne_of_gt behind), putString_apply, if_neg (by omega)]

/-- The text of the string in an array is parsed into another one, of which `len`
elements may be used.  All of the text is read, the string is stored as far as
there is room in front of a null character, and nothing else is changed. -/
theorem string_roundTrip {size' : Nat} {source : Fin size' -> BitVec 8} {string : List (BitVec 8)}
    (is : cString source = some string) {len : BitVec 32} (room : 1 <= len.toNat)
    (inside : len.toNat <= size) :
    Renders (serString source) True (quoted string) () ∧
    forall (uj : Ujson) (array : Fin size -> BitVec 8) (rest : List (Except Error (BitVec 8))),
      pending uj = chars (quoted string) ++ rest ->
      Exists fun uj' => Exists fun array' =>
        ujsonParseQs len (uj, some array) =
          (.ok (min string.length (len.toNat - 1)), uj', some array') ∧
        pending uj' = rest ∧ Stored (string.take (len.toNat - 1)) array array' ∧
        (string.length < len.toNat -> cString array' = some string) := by
  constructor
  · unfold serString stringIn
    rw [is]
    exact renders_string string
  · intro uj array rest left
    have fits : min string.length (len.toNat - 1) < size := by omega
    rcases reads_parseQs_truncated string room fits uj array rest left nofun
      with ⟨uj', done, after, -⟩
    refine ⟨uj', _, done, after, stored_fillString _ array, fun short => ?_⟩
    have whole : string.take (len.toNat - 1) = string := List.take_of_length_le (by omega)
    rw [whole]
    exact cString_fillString (by omega) (cString_bounds is).2 array

/-- A string of which the first character is kept. -/
theorem string_roundTrip_cut :
    Renders (serString (fun i : Fin 4 => [0x61, 0x07, 0xff, 0].getD i 0)) True
      (quoted [0x61, 0x07, 0xff]) () ∧
    forall (uj : Ujson) (array : Fin 2 -> BitVec 8) (rest : List (Except Error (BitVec 8))),
      pending uj = chars (quoted [0x61, 0x07, 0xff]) ++ rest ->
      Exists fun uj' => Exists fun array' =>
        ujsonParseQs 2 (uj, some array) = (.ok 1, uj', some array') ∧ pending uj' = rest ∧
        Stored [0x61] array array' ∧ (3 < 2 -> cString array' = some [0x61, 0x07, 0xff]) := by
  have room : 1 <= (2 : BitVec 32).toNat := by decide
  exact string_roundTrip (by decide) room (Nat.le_refl 2)

end Strings

/-! ## Integers -/

/-- The types of integers. -/
def Scalar.IsInteger (type : Scalar) : Prop := type ≠ .bool ∧ type ≠ .statusT

theorem scans_integer (stack : Stack) (type : Scalar) (isInteger : type.IsInteger)
    (value : type.Val) : Scans true (type.parse stack) (type.text value) value := by
  cases type with
  | uint64T | uint32T | uint16T | uint8T | sizeT => exact scans_unsigned (by decide) value
  | int64T | int32T | int16T | int8T => exact scans_signed (by decide) value
  | bool => exact absurd rfl isInteger.1
  | statusT => exact absurd rfl isInteger.2

/-- The text of an integer is parsed as the same integer, and a character behind it
that is no digit is left to be read. -/
theorem integer_roundTrip (stack : Stack) {type : Scalar} (isInteger : type.IsInteger)
    (value : type.Val) :
    Renders (type.serialize value) True (type.text value) () ∧
    forall (uj : Ujson) (ch : BitVec 8) (rest : List (Except Error (BitVec 8))),
      isDigit ch = false -> pending uj = chars (type.text value) ++ .ok ch :: rest ->
      Exists fun uj' => type.parse stack uj = (.ok value, uj') ∧ pending uj' = .ok ch :: rest := by
  refine ⟨renders_scalar type value, fun uj ch rest other left => ?_⟩
  rcases scans_integer stack type isInteger value uj (.ok ch :: rest) left (fun _ => other)
    with ⟨uj', done, after, -⟩
  exact ⟨uj', done, after⟩

/-- The least integer of 64 bits. -/
theorem integer_roundTrip_least :
    Renders (ujsonSerializeInt64T (.intMin 64)) True (signedText (BitVec.intMin 64)) () ∧
    forall (uj : Ujson) (ch : BitVec 8) (rest : List (Except Error (BitVec 8))),
      isDigit ch = false -> pending uj = chars (signedText (BitVec.intMin 64)) ++ .ok ch :: rest ->
      Exists fun uj' => ujsonDeserializeInt64T uj = (.ok (.intMin 64), uj') ∧
        pending uj' = .ok ch :: rest :=
  @integer_roundTrip (fun _ _ => 0) .int64T ⟨nofun, nofun⟩ (BitVec.intMin 64)

end Ujson
end SunburstChip
