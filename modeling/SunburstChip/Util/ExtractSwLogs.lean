import SunburstChip.Lib.Strip
import SunburstChip.Lib.Utf8

namespace SunburstChip
namespace ExtractSwLogs

open Strip

/-!
# Strings of an image by their addresses

`get_addr_strings` and `get_str_at_addr` of `extract_sw_logs.py`.  A section is
cut at its NUL bytes and each piece is kept as text, decoded and cleaned, under
the address of its first byte and with its length in bytes.  The address of a
byte inside of a piece is looked up by cutting characters off this text.

What is stored is exactly the pieces of the sections, and an address is in at
most one of them.  What remains is when as many characters may be cut off as
there are bytes before the address.
-/

/-! ## Cleaning -/

abbrev Byte := Utf8.Byte
abbrev Text := List Char

/-- `[\n\r]` -/
def isNewline (char : Char) : Bool := char == '\n' || char == '\r'

/-- `re.sub(r"[\n\r]+", "\r", string)`, within a run of newlines or outside of one. -/
def foldNewlines (inRun : Bool) : Text -> Text
  | [] => []
  | char :: string =>
      if isNewline char then
        if inRun then foldNewlines true string else '\r' :: foldNewlines true string
      else char :: foldNewlines false string

/-- What `str.strip` takes for a blank. -/
def isSpace (char : Char) : Bool :=
  let code := char.toNat
  (0x9 <= code && code <= 0xd) || (0x1c <= code && code <= 0x20) || code == 0x85 ||
    code == 0xa0 || code == 0x1680 || (0x2000 <= code && code <= 0x200a) || code == 0x2028 ||
    code == 0x2029 || code == 0x202f || code == 0x205f || code == 0x3000

/-- `cleanup_newlines` -/
def cleanupNewlines (string : Text) : Text := strip isSpace (foldNewlines false string)

/-! ## Strings and their addresses -/

/-- A read-only section: where it lies, its size, and as many bytes. -/
structure RoContent where
  baseAddr : Nat
  size : Nat
  data : List Byte
  sized : size = data.length

/-- An address in a section. -/
def RoContent.Has (content : RoContent) (addr : Nat) : Prop :=
  content.baseAddr <= addr ∧ addr < content.baseAddr + content.size

/-- The exceptions that are raised. -/
inductive Exception where
  | indexError
  | keyError
deriving DecidableEq

/-- The dictionary from an address to a string and its length, in the order of insertion. -/
abbrev AddrStrings := List (Nat × Text × Nat)

/-- `data[start:stop]` -/
def slice (data : List Byte) (start stop : Nat) : List Byte := (data.take stop).drop start

/-- `data.find(b'\0', start)` -/
def findNul (data : List Byte) (start : Nat) : Option Nat :=
  ((data.drop start).findIdx? (fun byte => byte == 0)).map (start + ·)

/-- The text that is made of some bytes. -/
def cleanText (bytes : List Byte) : Text := cleanupNewlines (Utf8.decode bytes)

/-- What is stored for the bytes of a section between two offsets. -/
def RoContent.entry (content : RoContent) (strStart strEnd : Nat) : Nat × Text × Nat :=
  (content.baseAddr + strStart, cleanText (slice content.data strStart strEnd), strEnd - strStart)

/-- `while (str_start < size)`, for `fuel` rounds at most. -/
def sectionStrings (content : RoContent) :
    Nat -> Nat -> AddrStrings -> Except Exception AddrStrings
  | 0, _, result => .ok result
  | fuel + 1, strStart, result =>
      if strStart < content.size then
        match findNul content.data strStart with
        | none => .ok result
        | some strEnd =>
            if strStart = strEnd then sectionStrings content fuel (strStart + 1) result
            else
              let entry := content.entry strStart strEnd
              if result.any (fun other => other.1 == entry.1) then .error .indexError
              else sectionStrings content fuel (strEnd + 1) (result ++ [entry])
      else .ok result

/-- `for ro_content in ro_contents` -/
def contentsStrings : List RoContent -> AddrStrings -> Except Exception AddrStrings
  | [], result => .ok result
  | content :: contents, result => do
      let result <- sectionStrings content content.size 0 result
      contentsStrings contents result

/-- `get_addr_strings` -/
def getAddrStrings (roContents : List RoContent) : Except Exception AddrStrings :=
  contentsStrings roContents []

/-- `get_str_at_addr` -/
def getStrAtAddr (strAddr : Nat) : AddrStrings -> Except Exception Text
  | [] => .error .keyError
  | (addr, string, length) :: addrStrings =>
      if addr <= strAddr ∧ strAddr < addr + length then
        .ok (strip isSpace (string.drop (strAddr - addr)))
      else getStrAtAddr strAddr addrStrings

/-- The string at an address, looked up in the strings of the sections. -/
def lookUp (roContents : List RoContent) (strAddr : Nat) : Except Exception Text :=
  getAddrStrings roContents >>= getStrAtAddr strAddr

/-! ## Newlines -/

/-- Where a text leaves a run of newlines. -/
def endsInRun : Bool -> Text -> Bool
  | inRun, [] => inRun
  | _, char :: string => endsInRun (isNewline char) string

/-- A replaced byte is no newline. -/
theorem endsInRun_replacements (count : Nat) :
    endsInRun false (List.replicate count Utf8.replacement) = false := by
  induction count with
  | zero => rfl
  | succ count ih => exact ih

theorem foldNewlines_cons (inRun : Bool) (char : Char) (string : Text) :
    foldNewlines inRun (char :: string) =
      (if isNewline char then if inRun then [] else ['\r'] else [char]) ++
        foldNewlines (isNewline char) string := by
  change (if isNewline char then _ else _) = _
  cases isNewline char with
  | true =>
      cases inRun with
      | true => rfl
      | false => rfl
  | false => rfl

theorem foldNewlines_append (inRun : Bool) (front back : Text) :
    foldNewlines inRun (front ++ back) =
      foldNewlines inRun front ++ foldNewlines (endsInRun inRun front) back := by
  induction front generalizing inRun with
  | nil => rfl
  | cons char front ih =>
      rw [List.cons_append, foldNewlines_cons, foldNewlines_cons, ih, List.append_assoc]
      rfl

theorem foldNewlines_length (inRun : Bool) (string : Text) :
    (foldNewlines inRun string).length <= string.length := by
  induction string generalizing inRun with
  | nil => exact Nat.le_refl 0
  | cons char string ih =>
      have rest := ih (isNewline char)
      have first : (if isNewline char then if inRun then [] else ['\r'] else [char]).length <= 1 := by
        split_ifs <;> simp
      rw [foldNewlines_cons, List.length_append, List.length_cons]
      omega

/-- A run that goes on has lost a newline at its front, and nothing else. -/
theorem foldNewlines_goesOn (string : Text) :
    foldNewlines false string = foldNewlines true string ∨
      foldNewlines false string = '\r' :: foldNewlines true string := by
  cases string with
  | nil => exact Or.inl rfl
  | cons char string =>
      rw [foldNewlines_cons, foldNewlines_cons]
      cases isNewline char with
      | true => exact Or.inr rfl
      | false => exact Or.inl rfl

theorem foldNewlines_suffix (inRun : Bool) (string : Text) :
    foldNewlines inRun string <:+ foldNewlines false string := by
  cases inRun with
  | false => exact List.suffix_refl _
  | true =>
      rcases foldNewlines_goesOn string with same | more
      · rw [same]
      · rw [more]
        exact List.suffix_cons _ _

/-- A cleaned text does not depend on whether a run goes on. -/
theorem strip_foldNewlines (inRun : Bool) (string : Text) :
    strip isSpace (foldNewlines inRun string) = cleanupNewlines string := by
  unfold cleanupNewlines
  cases inRun with
  | false => rfl
  | true =>
      rcases foldNewlines_goesOn string with same | more
      · rw [same]
      · have blanks : forall char, char ∈ ['\r'] -> isSpace char = true := by
          intro char inside
          rw [List.mem_singleton.mp inside]
          rfl
        rw [more]
        exact (strip_append_left blanks _).symm

/-! ## Cutting characters off a cleaned text -/

section

variable (before bytes : List Byte)

/-- The whole text with its newlines folded. -/
def foldedText : Text := foldNewlines false (Utf8.decode (before ++ bytes))

/-- The address is not inside of a sequence of bytes for one character, and all that is cut off
behind what is the text before the address is blank.  A character is cut off for each byte before
the address, and one for each blank at the front. -/
def Aligned : Prop :=
  Utf8.decode (before ++ bytes) = Utf8.decode before ++ Utf8.decode bytes ∧
    forall char, char ∈ ((foldedText before bytes).take
        (before.length + leading isSpace (foldedText before bytes))).drop
          (foldNewlines false (Utf8.decode before)).length ->
      isSpace char = true

variable {before bytes}

theorem cut_cleanText : strip isSpace ((cleanText (before ++ bytes)).drop before.length) =
    strip isSpace ((foldedText before bytes).drop
      (before.length + leading isSpace (foldedText before bytes))) :=
  strip_drop_strip _ _

/-- The text of the rest, where the bytes are not cut inside of a sequence. -/
theorem cleanText_split
    (split : Utf8.decode (before ++ bytes) = Utf8.decode before ++ Utf8.decode bytes) :
    cleanText bytes = strip isSpace ((foldedText before bytes).drop
      (foldNewlines false (Utf8.decode before)).length) := by
  unfold foldedText cleanText
  rw [split, foldNewlines_append, List.drop_left, strip_foldNewlines]

/-- The characters before the address are no more than the bytes. -/
theorem front_length :
    (foldNewlines false (Utf8.decode before)).length <= before.length :=
  Nat.le_trans (foldNewlines_length _ _) (Utf8.decode_length before)

/-- Where a sequence has been cut, the text of the rest begins with a character that the whole
does not have behind the cut. -/
theorem cut_inside {start rest : Text} {char : Char} {count cut : Nat}
    (whole : Utf8.decode (before ++ bytes) = start ++ char :: rest)
    (short : start.length + 1 <= cut)
    (alone : Utf8.decode bytes = List.replicate (count + 1) Utf8.replacement ++ rest) :
    strip isSpace ((foldedText before bytes).drop cut) ≠ cleanText bytes := by
  have dark : isSpace Utf8.replacement = false := by decide
  have newline : isNewline Utf8.replacement = false := by decide
  have outside := endsInRun_replacements count
  have folded : foldedText before bytes = foldNewlines false (start ++ [char]) ++
      foldNewlines (endsInRun false (start ++ [char])) rest := by
    unfold foldedText
    rw [whole, <- foldNewlines_append, List.append_assoc]
    rfl
  have bound : (foldNewlines false (start ++ [char])).length <= cut := by
    have all := foldNewlines_length false (start ++ [char])
    rw [List.length_append, List.length_singleton] at all
    omega
  have behind : (foldedText before bytes).drop cut <:+ foldNewlines false rest := by
    rcases Nat.exists_eq_add_of_le bound with ⟨more, rfl⟩
    rw [folded, <- List.drop_drop, List.drop_left]
    exact (List.drop_suffix _ _).trans (foldNewlines_suffix _ _)
  have text : foldNewlines false (Utf8.decode bytes) = Utf8.replacement ::
      (foldNewlines false (List.replicate count Utf8.replacement) ++
        foldNewlines false rest) := by
    rw [alone, List.replicate_succ, List.cons_append, foldNewlines_cons, newline,
      foldNewlines_append, outside]
    rfl
  have suffix := behind.trans
    (List.suffix_append (foldNewlines false (List.replicate count Utf8.replacement)) _)
  unfold cleanText cleanupNewlines
  rw [text]
  exact strip_ne_of_suffix dark suffix

/-- Exactly then the text that is left is that of the bytes. -/
theorem cut_iff : strip isSpace ((cleanText (before ++ bytes)).drop before.length) =
    cleanText bytes ↔ Aligned before bytes := by
  have front := @front_length before
  rw [cut_cleanText]
  rcases Utf8.decode_cut before bytes with split | ⟨start, char, count, rest, whole, short, first,
    alone⟩
  · have whole := @strip_drop_iff _ isSpace ((foldedText before bytes).drop
      (foldNewlines false (Utf8.decode before)).length) (before.length +
        leading isSpace (foldedText before bytes) -
          (foldNewlines false (Utf8.decode before)).length)
    rw [List.drop_drop, Nat.add_sub_cancel' (Nat.le_add_right_of_le front), <- List.drop_take]
      at whole
    rw [cleanText_split split, whole]
    exact ⟨fun blanks => ⟨split, blanks⟩, fun aligned => aligned.2⟩
  · constructor
    · intro same
      exact absurd same (cut_inside whole (Nat.le_add_right_of_le short) alone)
    · rintro ⟨split, _⟩
      have lengths := congrArg List.length (whole.symm.trans split)
      rw [first, alone] at lengths
      simp only [List.length_append, List.length_cons, List.length_nil, List.length_replicate]
        at lengths
      omega

end

end ExtractSwLogs
end SunburstChip
