import SunburstChip.Runtime.Format

namespace SunburstChip
namespace Print

/-!
# Formatted printing

`process_specifier` and `base_vfprintf`.  What is printed does not depend on what
a sink answers, so the pieces of text that are handed to it are computed first.
Nothing is given where the arguments are not those of the format, or where a
buffer is read outside its bounds.
-/

/-! ## Arguments -/

/-- An argument: a word of 32 bits, a `size_t`, or a pointer with the cells from
the one it points at. -/
inductive Arg where
  | word (value : BitVec 32)
  | size (value : BitVec 32)
  | pointer (address : BitVec 32) (cells : Text)
deriving DecidableEq

/-- What an argument is. -/
inductive Kind where
  | word
  | size
  | pointer
deriving DecidableEq

/-- The kind of an argument. -/
def Arg.kind : Arg -> Kind
  | .word _ => .word
  | .size _ => .size
  | .pointer _ _ => .pointer

/-- `va_arg` of a word. -/
def vaWord : List Arg -> Option (BitVec 32 × List Arg)
  | .word value :: args => some (value, args)
  | _ => none

/-- `va_arg` of a `size_t`. -/
def vaSize : List Arg -> Option (BitVec 32 × List Arg)
  | .size value :: args => some (value, args)
  | _ => none

/-- `va_arg` of a pointer. -/
def vaPointer : List Arg -> Option ((BitVec 32 × Text) × List Arg)
  | .pointer address cells :: args => some ((address, cells), args)
  | _ => none

/-! ## Types of specifiers -/

/-- `'c'` -/
abbrev kCharacter : BitVec 8 := 0x63

/-- `'s'` -/
abbrev kString : BitVec 8 := 0x73

/-- `'d'` -/
abbrev kSignedDec1 : BitVec 8 := 0x64

/-- `'i'` -/
abbrev kSignedDec2 : BitVec 8 := 0x69

/-- `'o'` -/
abbrev kUnsignedOct : BitVec 8 := 0x6f

/-- `'x'` -/
abbrev kUnsignedHexLow : BitVec 8 := 0x78

/-- `'X'` -/
abbrev kUnsignedHexHigh : BitVec 8 := 0x58

/-- `'u'` -/
abbrev kUnsignedDec : BitVec 8 := 0x75

/-- `'p'` -/
abbrev kPointer : BitVec 8 := 0x70

/-- `'b'` -/
abbrev kSvBinary : BitVec 8 := 0x62

/-- `'h'` -/
abbrev kSvHexLow : BitVec 8 := 0x68

/-- `'H'` -/
abbrev kSvHexHigh : BitVec 8 := 0x48

/-- `'y'` -/
abbrev kHexLeLow : BitVec 8 := 0x79

/-- `'Y'` -/
abbrev kHexLeHigh : BitVec 8 := 0x59

/-- `'r'` -/
abbrev kStatusResult : BitVec 8 := 0x72

/-- `'C'` -/
abbrev kFourCC : BitVec 8 := 0x43

/-! ## Specifiers -/

/-- `kDigitsHigh` -/
def kDigitsHigh : Text := ascii "0123456789ABCDEF"

/-- `sizeof(uintptr_t)`, a capability. -/
def sizeofUintptr : Nat := 8

/-- The characters from a pointer up to the first NUL. -/
def untilNul : Text -> Option Text
  | [] => none
  | c :: cells => if c = 0 then some [] else (untilNul cells).map (c :: ·)

/-- The first `len` characters from a pointer. -/
def firstChars (len : BitVec 32) (cells : Text) : Option Text :=
  if len.toNat <= cells.length then some (cells.take len.toNat) else none

/-- One byte of a `%C`. -/
def fourCcByte (ch : BitVec 8) : List Text :=
  if 32 <= ch ∧ ch < 127 then [[ch]]
  else [ascii "\\x", [kDigitsLow.getD (ch >>> 4).toNat 0], [kDigitsLow.getD (ch &&& 15).toNat 0]]

/-- The loop of a `%C`, over the bytes of `value` from the lowest. -/
def fourCc (value : BitVec 32) : List Text :=
  fourCcByte (value.setWidth 8) ++ fourCcByte ((value >>> 8).setWidth 8) ++
    fourCcByte ((value >>> 16).setWidth 8) ++ fourCcByte ((value >>> 24).setWidth 8)

/-- The loop of `hex_dump` that writes padding, at most 32 characters a time. -/
def padLoop (padding : BitVec 8) : Nat -> Nat -> List Text
  | 0, _ => []
  | fuel + 1, width =>
      if width = 0 then []
      else
        let toWrite := if 32 < width then 32 else width
        List.replicate toWrite padding :: padLoop padding fuel (width - toWrite)

/-- The digits of a byte. -/
def hexByte (glyphs : Text) (byte : BitVec 8) : Text :=
  [glyphs.getD ((byte >>> 4) &&& 0xf).toNat 0, glyphs.getD (byte &&& 0xf).toNat 0]

/-- The loop of `hex_dump` over bytes, with what is in `buf`. -/
def dumpLoop (glyphs : Text) : Text -> Text -> List Text
  | [], buf => if buf = [] then [] else [buf]
  | byte :: bytes, buf =>
      let buf := buf ++ hexByte glyphs byte
      if buf.length = 32 then buf :: dumpLoop glyphs bytes []
      else dumpLoop glyphs bytes buf

/-- `hex_dump` -/
def hexDump (cells : Text) (len width : BitVec 32) (padding : BitVec 8) (bigEndian : Bool)
    (glyphs : Text) : Option (List Text) :=
  (firstChars len cells).map (fun bytes =>
    (if len < width then padLoop padding (width - len).toNat (width - len).toNat else []) ++
      dumpLoop glyphs (if bigEndian then bytes.reverse else bytes) [])

/-- What a branch of `process_specifier` takes from the arguments, and the texts it
makes of them. -/
inductive Branch where
  | nothing (texts : List Text)
  | word (print : BitVec 32 -> Option (List Text))
  | pointer (print : BitVec 32 -> Text -> Option (List Text))
  | buffer (print : BitVec 32 -> Text -> Option (List Text))

/-- The kinds of the arguments that a branch takes. -/
def Branch.kinds : Branch -> List Kind
  | .nothing _ => []
  | .word _ => [.word]
  | .pointer _ => [.pointer]
  | .buffer _ => [.size, .pointer]

/-- The texts of a branch, and the arguments that are left. -/
def Branch.run : Branch -> List Arg -> Option (List Text × List Arg)
  | .nothing texts, args => some (texts, args)
  | .word print, args =>
      (vaWord args).bind (fun (value, args) => (print value).map (fun texts => (texts, args)))
  | .pointer print, args =>
      (vaPointer args).bind (fun (value, args) =>
        (print value.1 value.2).map (fun texts => (texts, args)))
  | .buffer print, args =>
      (vaSize args).bind (fun (len, args) =>
        (vaPointer args).bind (fun (value, args) =>
          (print len value.2).map (fun texts => (texts, args))))

/-- A word in a base, as a specifier says. -/
def FormatSpecifier.digits (spec : FormatSpecifier) (base : BitVec 32) (glyphs : Text) : Branch :=
  .word (fun value =>
    (writeDigits value spec.width.toNat spec.padding base glyphs).map (fun text => [text]))

/-- A buffer in hexadecimal, as a specifier says. -/
def FormatSpecifier.dump (spec : FormatSpecifier) (bigEndian : Bool) (glyphs : Text) : Branch :=
  .buffer (fun len cells => hexDump cells len spec.width spec.padding bigEndian glyphs)

/-- `bad_spec` -/
def badSpec : Branch := .nothing [kUnknownSpec]

/-- The branch of `process_specifier` that a specifier selects. -/
def FormatSpecifier.branch (spec : FormatSpecifier) : Branch :=
  if spec.type = kPercent then
    if spec.isNonstd then badSpec else .nothing [ascii "%"]
  else if spec.type = kCharacter then
    if spec.isNonstd then badSpec else .word (fun value => some [[value.setWidth 8]])
  else if spec.type = kFourCC then .word (fun value => some (fourCc value))
  else if spec.type = kString then
    if spec.isNonstd then
      .buffer (fun len cells => (firstChars len cells).map (fun text => [text]))
    else .pointer (fun _ cells => (untilNul cells).map (fun text => [text]))
  else if spec.type = kSignedDec1 ∨ spec.type = kSignedDec2 then
    if spec.isNonstd then badSpec
    else
      .word (fun value =>
        (writeDigits (if value.msb then -value else value) spec.width.toNat spec.padding 10
          kDigitsLow).map (fun text => (if value.msb then [ascii "-"] else []) ++ [text]))
  else if spec.type = kUnsignedOct then
    if spec.isNonstd then badSpec else spec.digits 8 kDigitsLow
  else if spec.type = kPointer then
    if spec.isNonstd then badSpec
    else
      .pointer (fun address _ =>
        (writeDigits address (sizeofUintptr * 2) 0x30 16 kDigitsLow).map (fun text =>
          [ascii "0x", text]))
  else if spec.type = kUnsignedHexLow then
    if spec.isNonstd then spec.dump true kDigitsLow else spec.digits 16 kDigitsLow
  else if spec.type = kSvHexLow then spec.digits 16 kDigitsLow
  else if spec.type = kUnsignedHexHigh then
    if spec.isNonstd then spec.dump true kDigitsHigh else spec.digits 16 kDigitsHigh
  else if spec.type = kSvHexHigh then spec.digits 16 kDigitsHigh
  else if spec.type = kHexLeLow then
    if spec.isNonstd then spec.dump false kDigitsLow else badSpec
  else if spec.type = kHexLeHigh then
    if spec.isNonstd then spec.dump false kDigitsHigh else badSpec
  else if spec.type = kUnsignedDec then
    if spec.isNonstd then badSpec else spec.digits 10 kDigitsLow
  else if spec.type = kSvBinary then
    if spec.isNonstd then
      .word (fun value => some [ascii (if value ≠ 0 then "true" else "false")])
    else spec.digits 2 kDigitsLow
  else if spec.type = kStatusResult then .word (fun value => writeStatus ⟨value⟩ spec.isNonstd)
  else badSpec

/-- `process_specifier`: what is handed to the sink, and the arguments that are left. -/
def processSpecifier (spec : FormatSpecifier) (args : List Arg) :
    Option (List Text × List Arg) :=
  spec.branch.run args

/-! ## Printing -/

/-- The loop of `base_vfprintf`: the pieces handed to the sink, and the arguments
that are left. -/
def vfprintfLoop : Nat -> Text -> List Arg -> Option (List Text × List Arg)
  | 0, _, _ => none
  | fuel + 1, format, args =>
      (untilPercent format).bind (fun (text, format) =>
        let literal := if text = [] then [] else [text]
        if format.head? = some 0 then some (literal, args)
        else
          (consumeFormatSpecifier format).bind (fun consumed =>
            match consumed with
            | .refused marker _ => some (literal ++ [marker], args)
            | .accepted spec format =>
                (processSpecifier spec args).bind (fun (texts, args) =>
                  (vfprintfLoop fuel format args).map (fun (behind, args) =>
                    (literal ++ texts ++ behind, args)))))

/-- The pieces of text that `base_vfprintf` hands to its sink.  Every round of the
loop takes at least one cell of the format. -/
def vfprintf (format : Text) (args : List Arg) : Option (List Text × List Arg) :=
  vfprintfLoop format.length format args

/-- `buffer_sink_t`: what a sink does with a text, and how many bytes it says it
has written. -/
abbrev Sink (σ : Type) := σ -> Text -> σ × BitVec 32

/-- Texts handed to a sink one after the other, with the sum of its answers. -/
def emit {σ : Type} (out : Sink σ) : List Text -> σ -> σ × BitVec 32
  | [], state => (state, 0)
  | text :: texts, state =>
      let (state, written) := out state text
      let (state, further) := emit out texts state
      (state, written + further)

/-- `base_vfprintf` -/
def baseVfprintf {σ : Type} (out : Sink σ) (state : σ) (format : Text) (args : List Arg) :
    Option (σ × BitVec 32) :=
  (vfprintf format args).map (fun (texts, _) => emit out texts state)

/-! ## The specifiers of a format -/

/-- A format with the specifiers in it, all of which are accepted.  Its cells may go
on behind the NUL. -/
inductive Formatted : Text -> List FormatSpecifier -> Prop where
  | finish (beyond : Text) : Formatted (0 :: beyond) []
  | literal {c : BitVec 8} {format : Text} {specs : List FormatSpecifier} (written : c ≠ 0)
      (other : c ≠ kPercent) (further : Formatted format specs) : Formatted (c :: format) specs
  | specifier {format behind : Text} {spec : FormatSpecifier} {specs : List FormatSpecifier}
      (accepted : consumeFormatSpecifier (kPercent :: format) = some (.accepted spec behind))
      (further : Formatted behind specs) : Formatted (kPercent :: format) (spec :: specs)

/-- What `process_specifier` takes from the arguments. -/
def argKinds (spec : FormatSpecifier) : List Kind := spec.branch.kinds

/-- Arguments taken one behind the other. -/
def Takes (kinds : List Kind) (args rest : List Arg) : Prop :=
  Exists fun taken => args = taken ++ rest ∧ taken.map Arg.kind = kinds

theorem Takes.none (args : List Arg) : Takes [] args args := ⟨[], rfl, rfl⟩

variable {args rest : List Arg} {format : Text}

theorem Takes.append {kinds more : List Kind} {between : List Arg}
    (first : Takes kinds args between) (second : Takes more between rest) :
    Takes (kinds ++ more) args rest := by
  rcases first with ⟨taken, rfl, rfl⟩
  rcases second with ⟨further, rfl, rfl⟩
  exact ⟨taken ++ further, (List.append_assoc ..).symm, List.map_append⟩

theorem vaWord_takes {value : BitVec 32} (taken : vaWord args = some (value, rest)) :
    Takes [.word] args rest := by
  unfold vaWord at taken
  split at taken
  · cases taken
    exact ⟨[.word value], rfl, rfl⟩
  · cases taken

theorem vaSize_takes {value : BitVec 32} (taken : vaSize args = some (value, rest)) :
    Takes [.size] args rest := by
  unfold vaSize at taken
  split at taken
  · cases taken
    exact ⟨[.size value], rfl, rfl⟩
  · cases taken

theorem vaPointer_takes {value : BitVec 32 × Text} (taken : vaPointer args = some (value, rest)) :
    Takes [.pointer] args rest := by
  unfold vaPointer at taken
  split at taken
  · next address cells behind =>
      cases taken
      exact ⟨[.pointer address cells], rfl, rfl⟩
  · cases taken

theorem Branch.run_takes {branch : Branch} {texts : List Text}
    (printed : branch.run args = some (texts, rest)) : Takes branch.kinds args rest := by
  cases branch with
  | nothing texts =>
      cases printed
      exact .none args
  | word print =>
      rcases Option.bind_eq_some_iff.mp printed with ⟨⟨value, behind⟩, taken, printed⟩
      rcases Option.map_eq_some_iff.mp printed with ⟨_, _, same⟩
      cases same
      exact vaWord_takes taken
  | pointer print =>
      rcases Option.bind_eq_some_iff.mp printed with ⟨⟨value, behind⟩, taken, printed⟩
      rcases Option.map_eq_some_iff.mp printed with ⟨_, _, same⟩
      cases same
      exact vaPointer_takes taken
  | buffer print =>
      rcases Option.bind_eq_some_iff.mp printed with ⟨⟨len, between⟩, size, printed⟩
      rcases Option.bind_eq_some_iff.mp printed with ⟨⟨value, behind⟩, pointer, printed⟩
      rcases Option.map_eq_some_iff.mp printed with ⟨_, _, same⟩
      cases same
      exact (vaSize_takes size).append (vaPointer_takes pointer)

/-- Behind the text that is printed as it is, a format goes on with the same
specifiers. -/
theorem Formatted.untilPercent {behind text : Text} {specs : List FormatSpecifier}
    (formatted : Formatted format specs) (found : untilPercent format = some (text, behind)) :
    Formatted behind specs := by
  induction formatted generalizing text behind with
  | finish beyond =>
      cases found
      exact .finish beyond
  | @literal c format specs written other further ih =>
      rw [Print.untilPercent, if_neg (not_or.mpr ⟨written, other⟩)] at found
      rcases Option.map_eq_some_iff.mp found with ⟨_, behind, same⟩
      cases same
      exact ih behind
  | specifier accepted further ih =>
      cases found
      exact .specifier accepted further

/-- The scan for a percent sign ends at one, or at the NUL. -/
theorem untilPercent_stops {text behind : Text}
    (found : untilPercent format = some (text, behind)) :
    Exists fun c => Exists fun rest => behind = c :: rest ∧ (c = 0 ∨ c = kPercent) := by
  induction format generalizing text behind with
  | nil => cases found
  | cons c format ih =>
      rw [untilPercent] at found
      split at found
      · next stops =>
          cases found
          exact ⟨c, format, rfl, stops⟩
      · rcases Option.map_eq_some_iff.mp found with ⟨_, further, same⟩
        cases same
        exact ih further

/-- The printer takes the arguments of the specifiers of its format, in their order. -/
theorem vfprintfLoop_takes {fuel : Nat} {specs : List FormatSpecifier} {texts : List Text}
    (formatted : Formatted format specs)
    (printed : vfprintfLoop fuel format args = some (texts, rest)) :
    Takes (specs.flatMap argKinds) args rest := by
  induction fuel generalizing format specs args texts with
  | zero => cases printed
  | succ fuel ih =>
      rcases Option.bind_eq_some_iff.mp printed with ⟨⟨text, position⟩, found, printed⟩
      have formatted := formatted.untilPercent found
      rcases untilPercent_stops found with ⟨c, behind, same, stops⟩
      subst same
      cases formatted with
      | finish beyond =>
          cases printed
          exact .none _
      | literal written other further =>
          rcases stops with zero | percent
          · exact absurd zero written
          · exact absurd percent other
      | specifier accepted further =>
          have going : ¬ (kPercent :: behind).head? = some 0 := by simp
          dsimp only at printed
          rw [if_neg going, accepted, Option.bind_some] at printed
          rcases Option.bind_eq_some_iff.mp printed with ⟨⟨_, between⟩, processed, printed⟩
          rcases Option.map_eq_some_iff.mp printed with ⟨⟨_, _⟩, behind, same⟩
          cases same
          exact (Branch.run_takes processed).append (ih further behind)

end Print
end SunburstChip
