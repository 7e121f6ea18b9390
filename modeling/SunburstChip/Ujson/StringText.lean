import SunburstChip.Ujson.NumberText

namespace SunburstChip
namespace Ujson

open Routine

/-!
# The texts of strings and enums

A string is written between quotes, with escape sequences for what cannot stand
there, and an enum as the name of its constant.  Parsing a string stores its
characters and a null character behind them, and leaves the rest of the array
as it is.
-/

/-! ## Writing strings -/

/-- A string as JSON. -/
def quoted (string : List (BitVec 8)) : List (BitVec 8) :=
  quote :: (string.flatMap escape ++ [quote])

theorem renders_string (string : List (BitVec 8)) :
    Renders (ujsonSerializeString string) True (quoted string) () := by
  have inner : Renders (serializeChars string) True (string.flatMap escape) () := by
    induction string with
    | nil => exact renders_pure ()
    | cons ch string ih => exact (renders_putbuf (escape ch)).before ih
  exact (renders_putbuf [quote]).before (inner.before (renders_putbuf [quote]))

/-! ## Parsing strings -/

/-- A hexadecimal digit is read as what it stands for. -/
theorem scans_hexdigit {d : BitVec 8} (small : d < 16) :
    Scans false consumeHexdigit [hex d] (d.setWidth 32) := by
  apply (scans_getc (hex d)).map
  have low : forall d : BitVec 8, d < 10 ->
      (0x30 <= hex d ∧ hex d <= 0x39) ∧ hex d - 0x30 = d := by decide
  have high : forall d : BitVec 8, d < 16 -> ¬ d < 10 ->
      ¬ (0x30 <= hex d ∧ hex d <= 0x39) ∧ ¬ (0x41 <= hex d ∧ hex d <= 0x46) ∧
      (0x61 <= hex d ∧ hex d <= 0x66) ∧ hex d - 0x61 + 10 = d := by decide
  by_cases few : d < 10
  · rcases low d few with ⟨inside, value⟩
    rw [if_pos inside, value]
  · rcases high d small few with ⟨notLow, notUpper, inside, value⟩
    rw [if_neg notLow, if_neg notUpper, if_pos inside, value]

/-- The code of a character is read as that character. -/
theorem scans_hex (ch : BitVec 8) :
    Scans false consumeHex [0x30, 0x30, hex (ch >>> 4), hex (ch &&& 0xf)] (ch.setWidth 32) := by
  have zero : hex 0 = 0x30 := by decide
  have small : forall ch : BitVec 8, ch >>> 4 < 16 ∧ ch &&& 0xf < 16 := by decide
  have value : forall ch : BitVec 8, (0 <<< 12) ||| (0 <<< 8) |||
      ((ch >>> 4).setWidth 32 <<< 4) ||| (ch &&& 0xf).setWidth 32 = ch.setWidth 32 := by decide
  have nought : Scans false consumeHexdigit [0x30] 0 := by
    rw [<- zero]
    exact scans_hexdigit (by decide)
  apply nought.bind ?_ nofun
  apply nought.bind ?_ nofun
  apply (scans_hexdigit (small ch).1).bind ?_ nofun
  apply (scans_hexdigit (small ch).2).map
  exact congrArg pure (value ch)

/-- A character is written as itself, or as an escape sequence for it. -/
theorem escape_cases (ch : BitVec 8) :
    (escape ch = [ch] ∧ ch ≠ quote ∧ ch ≠ backslash) ∨
    Exists fun text => escape ch = backslash :: text ∧ Scans false (ujsonGetc >>= escaped) text ch := by
  have single {code : BitVec 8} (stands : escaped code = pure ch) :
      Scans false (ujsonGetc >>= escaped) [code] ch := (scans_getc code).map stands
  unfold escape
  split
  · right
    split
    · next same => exact ⟨[quote], rfl, single (by rw [same]; rfl)⟩
    split
    · next same => exact ⟨[backslash], rfl, single (by rw [same]; rfl)⟩
    split
    · next same => exact ⟨[0x62], rfl, single (by rw [same]; rfl)⟩
    split
    · next same => exact ⟨[0x66], rfl, single (by rw [same]; rfl)⟩
    split
    · next same => exact ⟨[0x6e], rfl, single (by rw [same]; rfl)⟩
    split
    · next same => exact ⟨[0x72], rfl, single (by rw [same]; rfl)⟩
    split
    · next same => exact ⟨[0x74], rfl, single (by rw [same]; rfl)⟩
    · refine ⟨_, rfl, (scans_getc 0x75).bind ?_ nofun⟩
      apply (scans_hex ch).map
      have byte : (ch.setWidth 32).setWidth 8 = ch := by
        rw [BitVec.setWidth_setWidth_of_le _ (by decide), BitVec.setWidth_eq]
      rw [byte]
  · next plain =>
      left
      exact ⟨rfl, fun same => plain (Or.inr (Or.inl same)),
        fun same => plain (Or.inr (Or.inr (Or.inl same)))⟩

section Strings

variable {size : Nat}

/-- Change an element of an array. -/
def alter {τ : Type} (index : Nat) (change : τ -> τ) (array : Fin size -> τ) : Fin size -> τ :=
  fun i => if (i : Nat) = index then change (array i) else array i

variable {index : Nat} {room : BitVec 32} {string : List (BitVec 8)}

theorem onElement_inside {τ α : Type} (inside : index < size) {m : UjOn τ α} {uj uj' : Ujson}
    {array : Fin size -> τ} {value : α} {object : τ}
    (done : m (uj, some (array ⟨index, inside⟩)) = (.ok value, uj', some object)) :
    onElement index m (uj, some array) = (.ok value, uj', some (alter index (fun _ => object) array)) := by
  have altered : Function.update array ⟨index, inside⟩ object = alter index (fun _ => object) array := by
    funext i
    unfold alter
    split
    · next same =>
        rw [show i = ⟨index, inside⟩ from Fin.ext same, Function.update_self]
    · next other =>
        exact Function.update_of_ne (fun same => other (congrArg Fin.val same)) _ _
  unfold onElement
  rw [dif_pos inside]
  dsimp only [Option.map_some]
  rw [done]
  dsimp only [Option.getD_some]
  rw [altered]

/-- The characters of a string in an array, from an index on. -/
def putString : Nat -> List (BitVec 8) -> (Fin size -> BitVec 8) -> Fin size -> BitVec 8
  | _, [] => id
  | index, ch :: string => putString (index + 1) string ∘ alter index (fun _ => ch)

/-- What a round does with a character, when it has been read. -/
def keepChar (index : Nat) (room : BitVec 32) (ch : BitVec 8) :
    UjOn (Fin size -> BitVec 8) (Nat × BitVec 32 ⊕ Nat) :=
  if room > 0 then onElement index (assign ch) >>= fun _ => pure (.inl (index + 1, room - 1))
  else pure (.inl (index, room))

/-- A character is read, however it has been escaped. -/
theorem reads_parseQsRound_of (ch : BitVec 8) {next : Nat × BitVec 32 ⊕ Nat}
    {fill : (Fin size -> BitVec 8) -> Fin size -> BitVec 8}
    (keeps : forall (s : Ujson) (array : Fin size -> BitVec 8),
      keepChar index room ch (s, some array) = (.ok next, s, some (fill array))) :
    Reads false (parseQsRound (index, room)) (escape ch) next fill := by
  rcases escape_cases ch with ⟨text, notQuote, notBackslash⟩ | ⟨text, escapes, scans⟩
  · rw [text]
    apply Reads.map (scans_getc ch).onFirst
    intro s array
    have plain : (onFirst (pure ch) : UjOn (Fin size -> BitVec 8) (BitVec 8)) (s, some array) =
      (.ok ch, s, some array) := rfl
    rw [if_neg notQuote, unescape, if_neg notBackslash]
    dsimp only [id_eq]
    rw [bind_ok plain]
    exact keeps s array
  · rw [escapes]
    apply Reads.after (scans_getc backslash) ?_ nofun
    rw [if_neg (by decide), unescape, if_pos rfl]
    apply scans.onFirst.map
    exact keeps

theorem reads_parseQsRound (ch : BitVec 8) (inside : index < size) (positive : room > 0) :
    Reads false (parseQsRound (index, room)) (escape ch) (.inl (index + 1, room - 1))
      (alter index (fun _ => ch) : (Fin size -> BitVec 8) -> Fin size -> BitVec 8) := by
  apply reads_parseQsRound_of
  intro s array
  have stored : onElement index (assign ch) (s, some array) = _ :=
    onElement_inside inside (rfl : assign ch (s, some (array ⟨index, inside⟩)) = _)
  rw [keepChar, if_pos positive, bind_ok stored]
  rfl

/-- Without room a character is read and not stored. -/
theorem reads_parseQsRound_full (ch : BitVec 8) (none : ¬ room > 0) :
    Reads false (parseQsRound (index, room)) (escape ch) (.inl (index, room))
      (id : (Fin size -> BitVec 8) -> Fin size -> BitVec 8) := by
  apply reads_parseQsRound_of
  intro s array
  rw [keepChar, if_neg none]
  rfl

theorem escape_ne_nil (ch : BitVec 8) : escape ch ≠ [] := by
  rcases escape_cases ch with ⟨text, -⟩ | ⟨text, escapes, -⟩
  · rw [text]
    exact List.cons_ne_nil _ _
  · rw [escapes]
    exact List.cons_ne_nil _ _

/-- As many characters are stored as there is room for. -/
theorem reads_parseQsLoop (string : List (BitVec 8))
    (fits : index + min string.length room.toNat <= size) :
    Reads false (parseLoop parseQsRound (index, room)) (string.flatMap escape ++ [quote])
      (index + min string.length room.toNat)
      (putString index (string.take room.toNat) :
        (Fin size -> BitVec 8) -> Fin size -> BitVec 8) := by
  induction string generalizing index room with
  | nil =>
      rw [List.length_nil, Nat.zero_min, Nat.add_zero, List.take_nil]
      apply Reads.last
      exact (scans_getc quote).onFirst.map (fun _ _ => rfl)
  | cons ch string ih =>
      rw [List.flatMap_cons, List.append_assoc]
      by_cases positive : room > 0
      · have some : 0 < room.toNat := positive
        have less : (room - 1).toNat = room.toNat - 1 := by
          rw [BitVec.toNat_sub_of_le (by change 1 <= room.toNat; omega)]
          rfl
        have count : index + min (ch :: string).length room.toNat =
            index + 1 + min string.length (room - 1).toNat := by
          rw [List.length_cons, less]
          omega
        have kept : (ch :: string).take room.toNat = ch :: string.take (room - 1).toNat := by
          rw [less, List.take_cons some]
        rw [count] at fits ⊢
        rw [kept]
        exact (reads_parseQsRound ch (by omega) positive).more (ih fits) nofun (escape_ne_nil ch)
      · have full : room.toNat = 0 := Nat.eq_zero_of_not_pos positive
        have others := @ih index room (by rw [full] at fits ⊢; omega)
        rw [full, Nat.min_zero, List.take_zero] at others ⊢
        exact (reads_parseQsRound_full ch positive).more others nofun (escape_ne_nil ch)

/-- A string and its end in an array. -/
def fillString (string : List (BitVec 8)) (array : Fin size -> BitVec 8) : Fin size -> BitVec 8 :=
  alter string.length (fun _ => 0) (putString 0 string array)

/-- What does not fit in front of the null character is dropped. -/
theorem reads_parseQs_truncated (string : List (BitVec 8)) {len : BitVec 32} (some : 0 < len.toNat)
    (fits : min string.length (len.toNat - 1) < size) :
    Reads false (ujsonParseQs len) (quoted string) (min string.length (len.toNat - 1))
      (fillString (string.take (len.toNat - 1)) :
        (Fin size -> BitVec 8) -> Fin size -> BitVec 8) := by
  have room : (len - 1).toNat = len.toNat - 1 := by
    rw [BitVec.toNat_sub_of_le (by change 1 <= len.toNat; omega)]
    rfl
  have dark : isSpace quote = false := by decide
  have loop := @reads_parseQsLoop size 0 (len - 1) string (by rw [room]; omega)
  rw [Nat.zero_add, room] at loop
  have kept : (string.take (len.toNat - 1)).length = min string.length (len.toNat - 1) := by
    rw [List.length_take, Nat.min_comm]
  rw [<- kept] at loop fits ⊢
  apply Reads.after (scans_consume dark) ?_ nofun
  apply loop.map
  intro s array
  have ended : onElement (string.take (len.toNat - 1)).length (assign 0)
      (s, Option.some (putString 0 (string.take (len.toNat - 1)) array)) = _ :=
    onElement_inside fits (rfl : assign 0
      (s, Option.some (putString 0 (string.take (len.toNat - 1)) array ⟨_, fits⟩)) = _)
  rw [bind_ok ended]
  rfl

theorem reads_parseQs {len : BitVec 32} (fits : string.length < size)
    (enough : string.length < len.toNat) :
    Reads false (ujsonParseQs len) (quoted string) string.length
      (fillString string : (Fin size -> BitVec 8) -> Fin size -> BitVec 8) := by
  have whole : string.length <= len.toNat - 1 := by omega
  have stored : min string.length (len.toNat - 1) = string.length := Nat.min_eq_left whole
  have reads := @reads_parseQs_truncated size string len (Nat.zero_lt_of_lt enough)
    (by rw [stored]; exact fits)
  rw [stored, List.take_of_length_le whole] at reads
  exact reads

theorem putString_apply (index : Nat) (string : List (BitVec 8)) (array : Fin size -> BitVec 8)
    (i : Fin size) : putString index string array i =
      if index <= i ∧ i < index + string.length then string.getD (i - index) 0 else array i := by
  induction string generalizing index array with
  | nil =>
      rw [if_neg (by rw [List.length_nil]; omega)]
      rfl
  | cons ch string ih =>
      change putString (index + 1) string (alter index (fun _ => ch) array) i = _
      rw [ih, List.length_cons]
      rcases Nat.lt_trichotomy i index with before | here | behind
      · rw [if_neg (by omega), if_neg (by omega), alter, if_neg (by omega)]
      · rw [if_neg (by omega), if_pos (by omega), alter, if_pos here, here, Nat.sub_self]
        rfl
      · have shift : i - index = i - (index + 1) + 1 := by omega
        rw [shift, List.getD_cons_succ]
        by_cases inside : (i : Nat) < index + (string.length + 1)
        · rw [if_pos (by omega), if_pos (by omega)]
        · rw [if_neg (by omega), if_neg (by omega), alter, if_neg (by omega)]

/-- A string ends at the first null character. -/
theorem cString_eq {array : Fin size -> BitVec 8} (fits : string.length < size)
    (stored : forall (i : Nat) (inside : i < string.length),
      array ⟨i, Nat.lt_trans inside fits⟩ = string[i]) (ended : array ⟨string.length, fits⟩ = 0)
    (noNull : 0 ∉ string) : cString array = some string := by
  have split : List.ofFn array = string ++ 0 :: (List.ofFn array).drop (string.length + 1) := by
    have front : (List.ofFn array).take string.length = string := by
      apply List.ext_getElem
      · rw [List.length_take, List.length_ofFn, Nat.min_eq_left (Nat.le_of_lt fits)]
      · intro i inside inside'
        rw [List.getElem_take, List.getElem_ofFn]
        exact stored i inside'
    have inside : string.length < (List.ofFn array).length := by
      rw [List.length_ofFn]
      exact fits
    calc List.ofFn array
        = (List.ofFn array).take string.length ++ (List.ofFn array).drop string.length :=
          (List.take_append_drop _ _).symm
      _ = string ++ 0 :: (List.ofFn array).drop (string.length + 1) := by
          rw [front, List.drop_eq_getElem_cons inside, List.getElem_ofFn, ended]
  have others : forall ch, ch ∈ string -> decide (ch ≠ 0) = true := by
    intro ch member
    apply decide_eq_true
    rintro rfl
    exact noNull member
  unfold cString
  rw [split, if_pos (List.mem_append_right _ List.mem_cons_self), List.takeWhile_append_of_pos others,
    List.takeWhile_cons_of_neg (by decide), List.append_nil]

theorem cString_bounds {array : Fin size -> BitVec 8} (is : cString array = some string) :
    string.length < size ∧ 0 ∉ string := by
  unfold cString at is
  split at is
  · next ends =>
      injection is with is
      have noNull : 0 ∉ string := by
        rw [<- is]
        intro member
        have other := List.all_eq_true.mp List.all_takeWhile _ member
        exact absurd other (by decide)
      have shorter : string.length <= (List.ofFn array).length := by
        rw [<- is]
        exact (List.takeWhile_prefix _).length_le
      refine ⟨?_, noNull⟩
      rw [List.length_ofFn] at shorter
      apply Nat.lt_of_le_of_ne shorter
      intro whole
      have all : string = List.ofFn array := by
        apply List.IsPrefix.eq_of_length
        · rw [<- is]
          exact List.takeWhile_prefix _
        · rw [List.length_ofFn, whole]
      rw [all] at noNull
      exact noNull ends
  · cases is

theorem cString_fillString (fits : string.length < size) (noNull : 0 ∉ string)
    (array : Fin size -> BitVec 8) :
    cString (fillString string array) = some string := by
  apply cString_eq fits ?_ ?_ noNull
  · intro i inside
    unfold fillString alter
    rw [if_neg (Nat.ne_of_lt inside), putString_apply, if_pos ⟨Nat.zero_le i, by rw [Nat.zero_add]; exact inside⟩]
    exact List.getD_eq_getElem _ _ inside
  · unfold fillString alter
    rw [if_pos rfl]

theorem scans_parseLocal (bytes : Leftover) (fits : string.length < size) (sized : size < 2 ^ 32)
    (noNull : 0 ∉ string) :
    Scans false (parseLocal bytes size) (quoted string) string := by
  intro uj rest left delimited
  have len : (BitVec.ofNat 32 size).toNat = size := by
    rw [BitVec.toNat_ofNat, Nat.mod_eq_of_lt sized]
  rcases reads_parseQs fits (by rw [len]; exact fits) uj (bytes.array size) rest left delimited
    with ⟨uj', done, after⟩
  refine ⟨uj', ?_, after⟩
  have filled : onLocal (bytes.array size) (ujsonParseQs (.ofNat 32 size)) uj =
      (.ok (fillString string (bytes.array size)), uj') := by
    unfold onLocal
    rw [done]
    rfl
  unfold parseLocal
  rw [bind_ok filled, stringIn, cString_fillString fits noNull]
  rfl

end Strings

/-! ## Enums -/

theorem ujsonStreq_iff (a b : List (BitVec 8)) : ujsonStreq a b = true ↔ a = b := by
  induction a generalizing b with
  | nil =>
      cases b with
      | nil => exact iff_of_true rfl rfl
      | cons ch b => exact iff_of_false Bool.false_ne_true nofun
  | cons ch a ih =>
      cases b with
      | nil => exact iff_of_false Bool.false_ne_true nofun
      | cons ch' b =>
          unfold ujsonStreq
          split
          · next same =>
              rw [ih, same, List.cons.injEq]
              exact (and_iff_right rfl).symm
          · next other =>
              exact iff_of_false Bool.false_ne_true (fun same => other (List.cons.inj same).1)

/-- A name that a local array has room for. -/
abbrev FitsKey (name : List (BitVec 8)) : Prop := name.length < 128

/-- The text of an enum. -/
def EnumDecl.text (decl : EnumDecl) (value : BitVec 32) : List (BitVec 8) :=
  match decl.constants.find? (fun constant => constant.2 = value) with
  | some constant => quoted constant.1
  | none =>
      if decl.withUnknown then unsignedText value
      else openBrace :: (quoted rustEnumIntvalueStr ++ (colon :: (unsignedText value ++ [closeBrace])))

/-- The text of a value ends with a number. -/
def EnumDecl.looks (decl : EnumDecl) (value : BitVec 32) : Bool :=
  decl.withUnknown && (decl.constants.find? (fun constant => constant.2 = value)).isNone

/-- The names of the constants are different strings. -/
structure EnumDecl.Proper (decl : EnumDecl) : Prop where
  distinct : (decl.constants.map Prod.fst).Nodup
  noNull : forall constant, constant ∈ decl.constants -> 0 ∉ constant.1

theorem renders_enum (decl : EnumDecl) (value : BitVec 32) :
    Renders (decl.serialize value) True (decl.text value) () := by
  have number : Renders (ujsonSerializeUint32T value) True (unsignedText value) () := by
    have renders := renders_unsigned dividesByTen (Nat.le_refl 32) (by decide) value
    rw [BitVec.setWidth_eq] at renders
    exact renders
  unfold EnumDecl.serialize EnumDecl.text
  cases decl.constants.find? (fun constant => constant.2 = value) with
  | some constant => exact renders_string constant.1
  | none =>
      dsimp only
      split
      · exact number
      · exact (renders_putbuf _).before (number.before (renders_putbuf _))

/-- A constant is found by its name. -/
theorem EnumDecl.named_apply {decl : EnumDecl} {constant : List (BitVec 8) × BitVec 32}
    (distinct : (decl.constants.map Prod.fst).Nodup) (member : constant ∈ decl.constants) :
    decl.named constant.1 = assign constant.2 := by
  have found : decl.constants.find? (fun other => ujsonStreq constant.1 other.1) = some constant := by
    rw [List.find?_eq_some_iff_append]
    rcases List.append_of_mem member with ⟨before, behind, split⟩
    refine ⟨(ujsonStreq_iff _ _).mpr rfl, before, behind, split, ?_⟩
    intro other earlier
    rw [split, List.map_append, List.nodup_append] at distinct
    rw [Bool.not_eq_true', <- Bool.not_eq_true, ujsonStreq_iff]
    exact fun same => distinct.2.2 _ (List.mem_map_of_mem earlier) _ List.mem_cons_self same.symm
  unfold EnumDecl.named
  rw [found]

/-- In front of a quote, an enum is parsed as a name. -/
theorem EnumDecl.deserialize_quoted (decl : EnumDecl) (stack : Stack) {uj : Ujson}
    {rest : List (Except Error (BitVec 8))} (left : pending uj = .ok quote :: rest)
    (object : Option (BitVec 32)) :
    Exists fun uj' => pending uj' = .ok quote :: rest ∧ decl.deserialize stack (uj, object) =
      (onFirst (parseLocal (stack .value) 128) >>= fun value => decl.named value) (uj', object) := by
  have dark : isSpace quote = false := by decide
  rcases scans_consumeMaybe dark uj rest left nofun with ⟨uj₁, done, after, empty⟩
  rcases ungetc_empty (empty rfl) quote with ⟨uj', pushed, back⟩
  refine ⟨uj', back.trans (congrArg _ after), ?_⟩
  unfold EnumDecl.deserialize
  rw [bind_apply, onFirst_apply, done, andThen, if_pos rfl, EnumDecl.deserializeName, bind_apply,
    onFirst_apply, pushed]
  rfl

theorem reads_name (decl : EnumDecl) (stack : Stack) {constant : List (BitVec 8) × BitVec 32}
    (distinct : (decl.constants.map Prod.fst).Nodup) (member : constant ∈ decl.constants)
    (short : FitsKey constant.1) (noNull : 0 ∉ constant.1) :
    Reads false (decl.deserialize stack) (quoted constant.1) () (fun _ => constant.2) := by
  intro uj object rest left delimited
  rcases decl.deserialize_quoted stack left (some object) with ⟨uj', left', same⟩
  rw [same]
  apply Reads.map (scans_parseLocal _ short (by decide) noNull).onFirst ?_ uj' object rest left'
    delimited
  intro s object
  rw [EnumDecl.named_apply distinct member]
  rfl

/-- A number is read into an object. -/
theorem reads_deserializeNumber (value : BitVec 32) :
    Reads true deserializeNumber (unsignedText value) () (fun _ => value) :=
  Reads.map (scans_unsigned (by decide) value).onFirst (fun _ _ => rfl)

theorem reads_enum (decl : EnumDecl) (stack : Stack) (proper : decl.Proper) (value : BitVec 32)
    (short : forall constant, constant ∈ decl.constants -> constant.2 = value -> FitsKey constant.1) :
    Reads (decl.looks value) (decl.deserialize stack) (decl.text value) () (fun _ => value) := by
  unfold EnumDecl.looks EnumDecl.text
  cases found : decl.constants.find? (fun constant => constant.2 = value) with
  | some constant =>
      have member := List.mem_of_find?_eq_some found
      have same : constant.2 = value := by simpa using List.find?_some found
      rw [Option.isNone_some, Bool.and_false, <- same]
      exact reads_name decl stack proper.distinct member (short constant member same)
        (proper.noNull constant member)
  | none =>
      rw [Option.isNone_none, Bool.and_true]
      dsimp only
      split
      · next unknown =>
          rw [unknown]
          rcases decimal_cons value.toNat with ⟨ch, text, numeral, isFirst⟩
          have dark : forall ch : BitVec 8, isDigit ch = true ->
              isSpace ch = false ∧ quote ≠ ch ∧ openBrace ≠ ch := by decide
          have number := reads_deserializeNumber value
          rw [unsignedText, numeral] at number ⊢
          apply Reads.other ?_ (dark ch isFirst).1 (dark ch isFirst).2.1
          exact Reads.other number (dark ch isFirst).1 (dark ch isFirst).2.2
      · next unknown =>
          rw [Bool.eq_false_iff.mpr unknown]
          have brace : isSpace openBrace = false := by decide
          have colonDark : isSpace colon = false := by decide
          have close : isSpace closeBrace = false := by decide
          have key : Scans false (parseLocal (stack .value) 128) (quoted rustEnumIntvalueStr)
              rustEnumIntvalueStr := scans_parseLocal _ (by decide) (by decide) (by decide)
          apply Reads.other ?_ brace (by decide)
          apply Reads.after (scans_consumeMaybe brace) ?_ nofun
          rw [if_pos rfl]
          apply Reads.after key ?_ nofun
          apply Reads.after (scans_consume colonDark) ?_ nofun
          rw [if_pos ((ujsonStreq_iff _ _).mpr rfl)]
          have opens : Opens [closeBrace] := fun _ => (by decide : isDigit closeBrace = false)
          exact (reads_deserializeNumber value).before (scans_consume close) (fun _ => opens)

end Ujson
end SunburstChip
