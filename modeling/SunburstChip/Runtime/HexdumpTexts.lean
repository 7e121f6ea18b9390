import SunburstChip.Runtime.Hexdump

namespace SunburstChip
namespace Print

/-!
# The texts of a hex dump

What a line hands to its sink does not depend on the sink, but for the padding.
The loops over words and glyphs are therefore the texts that they make, handed to
the sink at once.
-/

section

variable {σ : Type} (out : Sink σ)

theorem emit_append (front back : List Text) (state : σ) :
    emit out (front ++ back) state =
      ((emit out back (emit out front state).1).1,
        (emit out front state).2 + (emit out back (emit out front state).1).2) := by
  induction front generalizing state with
  | nil => simp [emit]
  | cons text front ih => simp [emit, ih, BitVec.add_assoc]

theorem emit_acceptAll (texts : List Text) (output : Text) :
    emit acceptAll texts output =
      (output ++ texts.flatten, .ofNat 32 texts.flatten.length) := by
  induction texts generalizing output with
  | nil => simp [emit]
  | cons text texts ih => simp [emit, acceptAll, ih, BitVec.ofNat_add]

theorem baseFprintf_of {format : String} {args rest : List Arg} {texts : List Text} (state : σ)
    (printed : vfprintf (ascii format ++ [0]) args = some (texts, rest)) :
    baseFprintf out state format args = some (emit out texts state) := by
  unfold baseFprintf baseVfprintf
  rw [printed]
  rfl

end

/-! ## Formats -/

theorem vfprintf_space : vfprintf (ascii " " ++ [0]) [] = some ([ascii " "], []) := by decide

theorem vfprintf_gap : vfprintf (ascii "  " ++ [0]) [] = some ([ascii "  "], []) := by decide

theorem vfprintf_newline : vfprintf (ascii "\n" ++ [0]) [] = some ([ascii "\n"], []) := by decide

theorem vfprintf_text (n address : BitVec 32) (cells : Text) (within : n.toNat <= cells.length) :
    vfprintf (ascii "%!s" ++ [0]) [.size n, .pointer address cells] =
      some ([cells.take n.toNat], []) := by
  have text : firstChars n cells = some (cells.take n.toNat) := if_pos within
  have scanned : untilPercent (ascii "%!s" ++ [0]) = some ([], ascii "%!s" ++ [0]) := by decide
  have read : consumeFormatSpecifier (ascii "%!s" ++ [0]) =
      some (.accepted ⟨kString, 0, 0, true⟩ [0]) := by decide
  have going : ¬ (ascii "%!s" ++ [0] : Text).head? = some 0 := by decide
  have printed : processSpecifier ⟨kString, 0, 0, true⟩ [.size n, .pointer address cells] =
      some ([cells.take n.toNat], []) := by
    change ((firstChars n cells).map (fun text => [text])).map
      (fun texts => (texts, ([] : List Arg))) = _
    rw [text]
    rfl
  change vfprintfLoop 4 _ _ = _
  rw [vfprintfLoop, scanned, Option.bind_some]
  dsimp only
  rw [if_neg going, read, Option.bind_some]
  dsimp only
  rw [printed]
  rfl

/-- The digits of a word fit the buffer of `write_digits`. -/
theorem digitsLoop_isSome {base : BitVec 32} (glyphs : Text) (binary : 2 <= base.toNat)
    {room : Nat} {value : BitVec 32} (text : Text) (enough : value.toNat < 2 ^ room) :
    (digitsLoop base glyphs room value text).isSome = true := by
  induction room generalizing value text with
  | zero =>
      have zero : value = 0 := BitVec.eq_of_toNat_eq (Nat.lt_one_iff.mp enough)
      rw [digitsLoop, if_pos zero]
      rfl
  | succ room ih =>
      rw [digitsLoop]
      split
      · rfl
      · apply ih
        have front : (value / base).toNat = value.toNat / base.toNat := BitVec.toNat_udiv
        have smaller : value.toNat / base.toNat <= value.toNat / 2 :=
          Nat.div_le_div_left binary (by decide)
        rw [Nat.pow_succ] at enough
        omega

theorem writeDigits_isSome (value : BitVec 32) (width : Nat) (padding : BitVec 8)
    {base : BitVec 32} (glyphs : Text) (binary : 2 <= base.toNat) :
    (writeDigits value width padding base glyphs).isSome = true := by
  unfold writeDigits
  rw [Option.isSome_map]
  split
  · rfl
  · exact digitsLoop_isSome glyphs binary [] value.isLt

/-- The offset of a line in eight digits. -/
def addressDigits (line : BitVec 32) : Text := (writeDigits line 8 0x30 16 kDigitsLow).getD []

theorem digitsLoop_length {glyphs : Text} {room : Nat} {value : BitVec 32} {text written : Text}
    (digits : Nat) (bound : value.toNat < 16 ^ digits)
    (result : digitsLoop 16 glyphs room value text = some written) :
    written.length <= text.length + digits := by
  induction room generalizing value text digits with
  | zero =>
      rw [digitsLoop] at result
      split at result
      · cases result
        omega
      · cases result
  | succ room ih =>
      rw [digitsLoop] at result
      split at result
      · cases result
        omega
      · next positive =>
          rcases digits with _ | digits
          · exact absurd (BitVec.eq_of_toNat_eq (Nat.lt_one_iff.mp bound)) positive
          · have front : (value / 16).toNat = value.toNat / 16 := BitVec.toNat_udiv
            have smaller : (value / 16).toNat < 16 ^ digits := by
              rw [front, Nat.div_lt_iff_lt_mul (by decide), <- Nat.pow_succ]
              exact bound
            have length := ih digits smaller result
            rw [List.length_cons] at length
            omega

theorem addressDigits_length (line : BitVec 32) : (addressDigits line).length = 8 := by
  rcases Option.isSome_iff_exists.mp (writeDigits_isSome line 8 0x30 kDigitsLow
    (show 2 <= (16 : BitVec 32).toNat by decide)) with ⟨text, written⟩
  have digits : addressDigits line = text := by
    unfold addressDigits
    rw [written]
    rfl
  unfold writeDigits at written
  rcases Option.map_eq_some_iff.mp written with ⟨read, result, padded⟩
  have short : read.length <= 8 := by
    split at result
    · cases result
      decide
    · exact digitsLoop_length 8 (Nat.lt_of_lt_of_le line.isLt (by decide)) result
  rw [digits, <- padded, List.length_append, List.length_replicate]
  rw [if_neg (by decide)]
  omega

theorem vfprintf_address (line : BitVec 32) :
    vfprintf (ascii "%08x:" ++ [0]) [.word line] =
      some ([addressDigits line, ascii ":"], []) := by
  have digits : writeDigits line 8 0x30 16 kDigitsLow = some (addressDigits line) := by
    have exist := writeDigits_isSome line 8 0x30 kDigitsLow
      (show 2 <= (16 : BitVec 32).toNat by decide)
    rcases Option.isSome_iff_exists.mp exist with ⟨text, written⟩
    unfold addressDigits
    rw [written]
    rfl
  have scanned : untilPercent (ascii "%08x:" ++ [0]) = some ([], ascii "%08x:" ++ [0]) := by decide
  have read : consumeFormatSpecifier (ascii "%08x:" ++ [0]) =
      some (.accepted ⟨kUnsignedHexLow, 8, 0x30, false⟩ (ascii ":" ++ [0])) := by decide
  have going : ¬ (ascii "%08x:" ++ [0] : Text).head? = some 0 := by decide
  have printed : processSpecifier ⟨kUnsignedHexLow, 8, 0x30, false⟩ [.word line] =
      some ([addressDigits line], []) := by
    change ((writeDigits line 8 0x30 16 kDigitsLow).map (fun text => [text])).map
      (fun texts => (texts, ([] : List Arg))) = _
    rw [digits]
    rfl
  have behind : vfprintfLoop 5 (ascii ":" ++ [0]) [] = some ([ascii ":"], []) := by decide
  change vfprintfLoop 6 _ _ = _
  rw [vfprintfLoop, scanned, Option.bind_some]
  dsimp only
  rw [if_neg going, read, Option.bind_some]
  dsimp only
  rw [printed, Option.bind_some]
  dsimp only
  rw [behind]
  rfl

/-! ## Words and glyphs -/

section

variable (fmt : HexdumpFmt) (buf : Text) (len : BitVec 32)

/-- The texts of the words of a line, and whether the line is padded. -/
def wordTexts (line : BitVec 32) : Nat -> BitVec 32 -> Option (List Text × Bool)
  | 0, _ => none
  | fuel + 1, word =>
      if word < fmt.bytesPerLine then
        if len < line + word then some ([], true)
        else
          let left := len - line - word
          let bytesLeft := if fmt.bytesPerWord < left then fmt.bytesPerWord else left
          (hexDump (buf.drop (line + word).toNat) bytesLeft bytesLeft 0x30 false kDigitsLow).bind
            (fun texts =>
              (wordTexts line fuel (word + fmt.bytesPerWord)).map (fun (further, padded) =>
                (ascii " " :: texts ++ further, padded)))
      else some ([], false)

/-- The glyphs in `glyph_buffer` as a text, if there are any. -/
def glyphsText (glyphs : Text) : List Text := if glyphs = [] then [] else [glyphs]

/-- The texts of the glyphs of a line. -/
def glyphTexts (line : BitVec 32) : Nat -> BitVec 32 -> Text -> Option (List Text)
  | 0, _, glyphs => some (glyphsText glyphs)
  | bytes + 1, byte, glyphs =>
      let flushed := if glyphs.length = 16 then [glyphs] else []
      let glyphs := if glyphs.length = 16 then [] else glyphs
      if len <= line + byte then some (flushed ++ glyphsText glyphs)
      else
        buf[(line + byte).toNat]?.bind (fun c =>
          (glyphTexts line bytes (byte + 1) (glyphs ++ [fmt.alphabet c])).map (flushed ++ ·))

variable {σ : Type} (out : Sink σ)

/-- The words of a line are printed, and the line is padded if they end too soon. -/
theorem wordLoop_eq (rounds fuel : Nat) (line word : BitVec 32) (state : σ)
    (lineBytesWritten : BitVec 32) :
    wordLoop out fmt buf len rounds line fuel word state lineBytesWritten =
      (wordTexts fmt buf len line fuel word).bind (fun (texts, padded) =>
        if padded then
          padLine out fmt.charsPerLine rounds (emit out texts state).1
            (lineBytesWritten + (emit out texts state).2)
        else some ((emit out texts state).1, lineBytesWritten + (emit out texts state).2)) := by
  induction fuel generalizing word state lineBytesWritten with
  | zero => rfl
  | succ fuel ih =>
      rw [wordLoop, wordTexts]
      split
      · split
        · simp [emit]
        · rw [baseFprintf_of out state vfprintf_space, Option.bind_some, Option.bind_assoc]
          dsimp only
          congr 1
          funext texts
          rw [ih, Option.bind_map]
          congr 1
          funext further
          rcases further with ⟨texts', padded⟩
          have count : lineBytesWritten + (emit out [ascii " "] state).2 +
              (emit out texts (emit out [ascii " "] state).1).2 +
                (emit out texts' (emit out texts (emit out [ascii " "] state).1).1).2 =
              lineBytesWritten + (emit out (ascii " " :: texts ++ texts') state).2 := by
            change _ = lineBytesWritten + (emit out ([ascii " "] ++ texts ++ texts') state).2
            rw [emit_append, emit_append]
            simp only [BitVec.add_assoc]
          have state' : (emit out texts' (emit out texts (emit out [ascii " "] state).1).1).1 =
              (emit out (ascii " " :: texts ++ texts') state).1 := by
            change _ = (emit out ([ascii " "] ++ texts ++ texts') state).1
            rw [emit_append, emit_append]
          simp only [Function.comp_apply, count, state']
      · simp [emit]

theorem flushGlyphs_eq (glyphs : Text) (state : σ) (bytesWritten : BitVec 32)
    (few : glyphs.length <= 16) :
    flushGlyphs out glyphs state bytesWritten =
      some ((emit out [glyphs] state).1, bytesWritten + (emit out [glyphs] state).2) := by
  have count : (BitVec.ofNat 32 glyphs.length).toNat = glyphs.length := by
    rw [BitVec.toNat_ofNat]
    exact Nat.mod_eq_of_lt (by omega)
  have all : glyphs.take (BitVec.ofNat 32 glyphs.length).toNat = glyphs := by
    rw [count]
    exact List.take_length
  have printed := vfprintf_text (.ofNat 32 glyphs.length) 0 glyphs (Nat.le_of_eq count)
  rw [all] at printed
  unfold flushGlyphs
  rw [baseFprintf_of out state printed]
  rfl

/-- What is left in `glyph_buffer` after the loop is flushed. -/
def flushLeft (left : Text × σ × BitVec 32) : Option (σ × BitVec 32) :=
  if left.1 = [] then some (left.2.1, left.2.2)
  else flushGlyphs out left.1 left.2.1 left.2.2

theorem flushLeft_eq (glyphs : Text) (state : σ) (bytesWritten : BitVec 32)
    (few : glyphs.length <= 16) :
    flushLeft out (glyphs, state, bytesWritten) =
      some ((emit out (glyphsText glyphs) state).1,
        bytesWritten + (emit out (glyphsText glyphs) state).2) := by
  unfold flushLeft glyphsText
  dsimp only
  split
  · simp [emit]
  · rw [flushGlyphs_eq out glyphs state bytesWritten few]

/-- The glyphs of a line are printed, 16 of them at a time. -/
theorem glyphLoop_eq (bytes : Nat) (line byte : BitVec 32) (glyphs : Text) (state : σ)
    (bytesWritten : BitVec 32) (few : glyphs.length <= 16) :
    (glyphLoop out fmt buf len line bytes byte glyphs state bytesWritten).bind (flushLeft out) =
      (glyphTexts fmt buf len line bytes byte glyphs).map (fun texts =>
        ((emit out texts state).1, bytesWritten + (emit out texts state).2)) := by
  induction bytes generalizing byte glyphs state bytesWritten with
  | zero =>
      rw [glyphLoop, glyphTexts, Option.bind_some, flushLeft_eq out _ _ _ few]
      rfl
  | succ bytes ih =>
      have step : forall (glyphs : Text) (state : σ) (bytesWritten : BitVec 32),
          glyphs.length < 16 ->
          ((if len <= line + byte then some (glyphs, state, bytesWritten)
            else buf[(line + byte).toNat]?.bind (fun c =>
              glyphLoop out fmt buf len line bytes (byte + 1) (glyphs ++ [fmt.alphabet c]) state
                bytesWritten)).bind (flushLeft out)) =
          (if len <= line + byte then some (glyphsText glyphs)
            else buf[(line + byte).toNat]?.bind (fun c =>
              glyphTexts fmt buf len line bytes (byte + 1) (glyphs ++ [fmt.alphabet c]))).map
            (fun texts => ((emit out texts state).1, bytesWritten + (emit out texts state).2)) := by
        intro glyphs state bytesWritten few
        split
        · rw [Option.bind_some, flushLeft_eq out _ _ _ (Nat.le_of_lt few)]
          rfl
        · rw [Option.bind_assoc, Option.map_bind]
          congr 1
          funext c
          rw [Function.comp_apply, ih]
          rw [List.length_append]
          exact few
      rw [glyphLoop, glyphTexts]
      by_cases full : glyphs.length = 16
      · simp only [full, if_true]
        rw [flushGlyphs_eq out _ _ _ few, Option.map_some, Option.bind_some]
        dsimp only
        rw [step [] _ _ (by decide)]
        split
        · simp only [Option.map_some, emit_append, BitVec.add_assoc]
        · rw [Option.map_bind, Option.map_bind]
          congr 1
          funext c
          simp only [Function.comp_apply, Option.map_map]
          congr 1
          funext texts
          simp only [Function.comp_apply, emit_append, BitVec.add_assoc]
      · simp only [full, if_false]
        rw [Option.bind_some, step glyphs state bytesWritten (by omega)]
        simp only [List.nil_append, Option.map_id']

/-- A line is its offset, its words with their padding, its glyphs and a newline. -/
theorem dumpLine_eq (rounds : Nat) (line : BitVec 32) (state : σ) (bytesWritten : BitVec 32) :
    dumpLine out fmt buf len rounds line state bytesWritten =
      (wordTexts fmt buf len line rounds 0).bind (fun (words, padded) =>
        let start := emit out [addressDigits line, ascii ":"] state
        let worded := emit out words start.1
        (if padded then padLine out fmt.charsPerLine rounds worded.1 worded.2
          else some worded).bind (fun (state, columns) =>
          (glyphTexts fmt buf len line fmt.bytesPerLine.toNat 0 []).map (fun glyphs =>
            let ended := emit out (ascii "  " :: glyphs ++ [ascii "\n"]) state
            (ended.1, bytesWritten + start.2 + columns + ended.2)))) := by
  unfold dumpLine
  rw [baseFprintf_of out state (vfprintf_address line), Option.bind_some]
  dsimp only
  rw [wordLoop_eq, Option.bind_assoc]
  congr 1
  funext texts
  rcases texts with ⟨words, padded⟩
  dsimp only
  have zero : forall count : BitVec 32, 0 + count = count := BitVec.zero_add
  simp only [zero]
  congr 1
  funext columns
  rw [baseFprintf_of out columns.1 vfprintf_gap, Option.bind_some]
  refine Eq.trans (Option.bind_assoc _ (flushLeft out) _).symm ?_
  rw [glyphLoop_eq fmt buf len out _ line 0 [] _ _ (by decide), Option.bind_map]
  cases glyphTexts fmt buf len line fmt.bytesPerLine.toNat 0 [] with
  | none => rfl
  | some glyphs =>
      rw [Option.bind_some, Function.comp_apply, Option.map_some]
      dsimp only
      rw [baseFprintf_of out _ vfprintf_newline]
      change _ = some ((emit out ([ascii "  "] ++ glyphs ++ [ascii "\n"]) columns.1).1,
        _ + (emit out ([ascii "  "] ++ glyphs ++ [ascii "\n"]) columns.1).2)
      rw [emit_append, emit_append]
      simp only [Option.map_some, BitVec.add_assoc]

end

/-! ## What the texts are -/

theorem dumpLoop_flatten (glyphs bytes buf : Text) :
    (dumpLoop glyphs bytes buf).flatten = buf ++ bytes.flatMap (hexByte glyphs) := by
  induction bytes generalizing buf with
  | nil =>
      rw [dumpLoop, List.flatMap_nil, List.append_nil]
      split
      · next empty => rw [empty]; rfl
      · simp
  | cons byte bytes ih =>
      rw [dumpLoop, List.flatMap_cons]
      split
      · simp [ih]
      · simp [ih]

/-- A line of a dump: the buffer has `len` bytes, fewer than a `ptrdiff_t` can count, and
the line begins at one of them. -/
structure LineWithin (fmt : HexdumpFmt) (buf : Text) (len line : BitVec 32) : Prop where
  held : len.toNat <= buf.length
  small : 2 * len.toNat < 2 ^ 32
  positive : 0 < fmt.bytesPerWord.toNat
  begun : line.toNat < len.toNat
  first : line.toNat = 0 ∨ fmt.bytesPerLine.toNat <= len.toNat

section

variable (fmt : HexdumpFmt) (buf : Text) (len line : BitVec 32)

/-- How many words a line has where it is complete. -/
def lineWords : Nat :=
  (fmt.bytesPerLine.toNat + fmt.bytesPerWord.toNat - 1) / fmt.bytesPerWord.toNat

/-- How many words begin within the bytes that are left. -/
def leftWords : Nat := (len.toNat - line.toNat) / fmt.bytesPerWord.toNat + 1

/-- The bytes of one word. -/
def wordBytes (word : Nat) : Text :=
  ((buf.take len.toNat).drop (line.toNat + word * fmt.bytesPerWord.toNat)).take
    fmt.bytesPerWord.toNat

/-- The texts of a number of words. -/
def wordsOf (word count : Nat) : List Text :=
  (List.range' word count).flatMap (fun word =>
    ascii " " :: dumpLoop kDigitsLow (wordBytes fmt buf len line word) [])

variable {fmt : HexdumpFmt} {buf : Text} {len line : BitVec 32}

theorem lt_lineWords (positive : 0 < fmt.bytesPerWord.toNat) (word : Nat) :
    word < lineWords fmt ↔ word * fmt.bytesPerWord.toNat < fmt.bytesPerLine.toNat := by
  unfold lineWords
  rw [<- Nat.succ_le_iff, Nat.le_div_iff_mul_le positive, Nat.succ_mul]
  omega

theorem lt_leftWords (positive : 0 < fmt.bytesPerWord.toNat) (word : Nat) :
    word < leftWords fmt len line ↔
      word * fmt.bytesPerWord.toNat <= len.toNat - line.toNat := by
  unfold leftWords
  rw [Nat.lt_succ_iff, Nat.le_div_iff_mul_le positive]

/-- A word that the loop comes to is addressed without wrapping. -/
theorem LineWithin.word_lt (within : LineWithin fmt buf len line) {word : Nat}
    (reached : word <= leftWords fmt len line) :
    word * fmt.bytesPerWord.toNat < 2 ^ 32 := by
  have small := within.small
  have bound := fmt.bytesPerWord.isLt
  rcases word with _ | _ | word
  · omega
  · omega
  · have before : (word + 1) * fmt.bytesPerWord.toNat <= len.toNat - line.toNat :=
      (lt_leftWords within.positive (word + 1)).mp (by omega)
    rw [Nat.succ_mul] at before
    rw [Nat.succ_mul, Nat.succ_mul]
    omega

theorem LineWithin.offset_lt (within : LineWithin fmt buf len line) {word : Nat}
    (inLine : word < lineWords fmt) :
    line.toNat + word * fmt.bytesPerWord.toNat < 2 ^ 32 := by
  have small := within.small
  have begun := within.begun
  have bound := fmt.bytesPerLine.isLt
  have inside := (lt_lineWords within.positive word).mp inLine
  rcases within.first with zero | short
  · omega
  · omega

/-- The dump of the bytes that are left for a word. -/
theorem LineWithin.hexDump_word (within : LineWithin fmt buf len line) {word : Nat}
    (inLine : word < lineWords fmt) (left : word < leftWords fmt len line) :
    let offset := BitVec.ofNat 32 (word * fmt.bytesPerWord.toNat)
    let rest := len - line - offset
    let bytesLeft := if fmt.bytesPerWord < rest then fmt.bytesPerWord else rest
    hexDump (buf.drop (line + offset).toNat) bytesLeft bytesLeft 0x30 false kDigitsLow =
      some (dumpLoop kDigitsLow (wordBytes fmt buf len line word) []) := by
  intro offset rest bytesLeft
  have held := within.held
  have begun := within.begun
  have reached := (lt_leftWords within.positive word).mp left
  have value : offset.toNat = word * fmt.bytesPerWord.toNat :=
    (BitVec.toNat_ofNat ..).trans (Nat.mod_eq_of_lt (within.word_lt (Nat.le_of_lt left)))
  have position : (line + offset).toNat = line.toNat + word * fmt.bytesPerWord.toNat := by
    rw [BitVec.toNat_add, value]
    exact Nat.mod_eq_of_lt (within.offset_lt inLine)
  have length : rest.toNat = len.toNat - line.toNat - word * fmt.bytesPerWord.toNat := by
    rw [BitVec.toNat_sub_of_le, BitVec.toNat_sub_of_le (Nat.le_of_lt begun), value]
    rw [BitVec.le_def, BitVec.toNat_sub_of_le (Nat.le_of_lt begun), value]
    exact reached
  have count : bytesLeft.toNat = min fmt.bytesPerWord.toNat rest.toNat := by
    change (if fmt.bytesPerWord < rest then fmt.bytesPerWord else rest).toNat = _
    split
    · next shorter => exact (Nat.min_eq_left (Nat.le_of_lt shorter)).symm
    · next longer => exact (Nat.min_eq_right (Nat.le_of_not_lt longer)).symm
  have room : bytesLeft.toNat <= (buf.drop (line + offset).toNat).length := by
    rw [count, List.length_drop, position]
    omega
  have none : ¬ bytesLeft < bytesLeft := Nat.lt_irrefl _
  have bytes : (buf.drop (line + offset).toNat).take bytesLeft.toNat =
      wordBytes fmt buf len line word := by
    unfold wordBytes
    rw [count, length, position, List.drop_take, List.take_take]
    congr 2
    omega
  unfold hexDump firstChars
  rw [if_pos room, if_neg none, bytes]
  rfl

/-- The words that begin within the line and within the bytes that are left are printed,
and the line is padded if it has more. -/
theorem LineWithin.wordTexts (within : LineWithin fmt buf len line) (fuel : Nat) {word : Nat}
    (reached : word <= min (leftWords fmt len line) (lineWords fmt)) :
    Print.wordTexts fmt buf len line fuel (.ofNat 32 (word * fmt.bytesPerWord.toNat)) =
      if min (leftWords fmt len line) (lineWords fmt) - word < fuel then
        some (wordsOf fmt buf len line word (min (leftWords fmt len line) (lineWords fmt) - word),
          decide (leftWords fmt len line < lineWords fmt))
      else none := by
  induction fuel generalizing word with
  | zero => rw [if_neg (Nat.not_lt_zero _)]; rfl
  | succ fuel ih =>
      have value : (BitVec.ofNat 32 (word * fmt.bytesPerWord.toNat)).toNat =
          word * fmt.bytesPerWord.toNat :=
        (BitVec.toNat_ofNat ..).trans (Nat.mod_eq_of_lt (within.word_lt (by omega)))
      have inside : BitVec.ofNat 32 (word * fmt.bytesPerWord.toNat) < fmt.bytesPerLine ↔
          word < lineWords fmt := by
        rw [lt_lineWords within.positive, BitVec.lt_def, value]
      rw [Print.wordTexts]
      by_cases inLine : word < lineWords fmt
      · have beyond : len < line + BitVec.ofNat 32 (word * fmt.bytesPerWord.toNat) ↔
            ¬ word < leftWords fmt len line := by
          have begun := within.begun
          rw [lt_leftWords within.positive, BitVec.lt_def, BitVec.toNat_add, value,
            Nat.mod_eq_of_lt (within.offset_lt inLine)]
          omega
        rw [if_pos (inside.mpr inLine)]
        by_cases left : word < leftWords fmt len line
        · have next : BitVec.ofNat 32 (word * fmt.bytesPerWord.toNat) + fmt.bytesPerWord =
              .ofNat 32 ((word + 1) * fmt.bytesPerWord.toNat) := by
            rw [Nat.succ_mul, BitVec.ofNat_add, BitVec.ofNat_toNat, BitVec.setWidth_eq]
          have count : min (leftWords fmt len line) (lineWords fmt) - word =
              (min (leftWords fmt len line) (lineWords fmt) - (word + 1)) + 1 := by omega
          rw [if_neg (not_not.mpr left |> mt beyond.mp)]
          dsimp only
          rw [within.hexDump_word inLine left, Option.bind_some, next, ih (by omega), count]
          simp only [Nat.add_lt_add_iff_right]
          split
          · rfl
          · rfl
        · have last : min (leftWords fmt len line) (lineWords fmt) - word = 0 := by omega
          have padded : leftWords fmt len line < lineWords fmt := by omega
          rw [if_pos (beyond.mpr left), last, if_pos (Nat.succ_pos fuel), decide_eq_true padded]
          rfl
      · have last : min (leftWords fmt len line) (lineWords fmt) - word = 0 := by omega
        have complete : ¬ leftWords fmt len line < lineWords fmt := by omega
        rw [if_neg (mt inside.mp inLine), last, if_pos (Nat.succ_pos fuel),
          decide_eq_false complete]
        rfl

/-- How many words of a line are printed. -/
def printedWords (fmt : HexdumpFmt) (len line : BitVec 32) : Nat :=
  min (leftWords fmt len line) (lineWords fmt)

theorem LineWithin.wordTexts_zero (within : LineWithin fmt buf len line) (fuel : Nat) :
    Print.wordTexts fmt buf len line fuel 0 =
      if printedWords fmt len line < fuel then
        some (wordsOf fmt buf len line 0 (printedWords fmt len line),
          decide (leftWords fmt len line < lineWords fmt))
      else none := by
  have first := within.wordTexts fuel (Nat.zero_le _)
  rw [Nat.zero_mul] at first
  exact first

/-- Windows of a list side by side are one window. -/
theorem flatMap_windows {α : Type} (xs : List α) (offset size first count : Nat) :
    (List.range' first count).flatMap (fun i => (xs.drop (offset + i * size)).take size) =
      (xs.drop (offset + first * size)).take (count * size) := by
  induction count generalizing first with
  | zero => simp
  | succ count ih =>
      have split : (count + 1) * size = size + count * size := by
        rw [Nat.succ_mul, Nat.add_comm]
      have next : offset + (first + 1) * size = offset + first * size + size := by
        rw [Nat.succ_mul, Nat.add_assoc]
      rw [List.range'_succ, List.flatMap_cons, ih, split, List.take_add, List.drop_drop, next]

/-- Whether a character is not a space. -/
def isInk (c : BitVec 8) : Bool := decide (c ≠ 0x20)

theorem hexByte_ink (byte : BitVec 8) :
    (hexByte kDigitsLow byte).filter isInk = hexByte kDigitsLow byte := by
  have digits : forall n, n < 16 -> isInk (kDigitsLow.getD n 0) = true := by decide
  have high : ((byte >>> 4) &&& 0xf).toNat < 16 := by
    rw [BitVec.toNat_and]
    exact Nat.lt_succ_of_le Nat.and_le_right
  have low : (byte &&& 0xf).toNat < 16 := by
    rw [BitVec.toNat_and]
    exact Nat.lt_succ_of_le Nat.and_le_right
  unfold hexByte
  rw [List.filter_cons_of_pos (digits _ high), List.filter_cons_of_pos (digits _ low)]
  rfl

theorem flatMap_hexByte_ink (bytes : Text) :
    (bytes.flatMap (hexByte kDigitsLow)).filter isInk = bytes.flatMap (hexByte kDigitsLow) := by
  induction bytes with
  | nil => rfl
  | cons byte bytes ih => rw [List.flatMap_cons, List.filter_append, hexByte_ink, ih]

theorem flatMap_hexByte_length (glyphs bytes : Text) :
    (bytes.flatMap (hexByte glyphs)).length = 2 * bytes.length := by
  induction bytes with
  | nil => rfl
  | cons byte bytes ih =>
      rw [List.flatMap_cons, List.length_append, ih, List.length_cons]
      change 2 + 2 * bytes.length = _
      omega

/-- The bytes of a number of words from the first. -/
def dumpedBytes (fmt : HexdumpFmt) (buf : Text) (len line : BitVec 32) (count : Nat) : Text :=
  ((buf.take len.toNat).drop line.toNat).take (count * fmt.bytesPerWord.toNat)

theorem wordsOf_flatten (word count : Nat) :
    (wordsOf fmt buf len line word count).flatten =
      (List.range' word count).flatMap (fun word =>
        ascii " " ++ (wordBytes fmt buf len line word).flatMap (hexByte kDigitsLow)) := by
  unfold wordsOf
  induction List.range' word count with
  | nil => rfl
  | cons word words ih =>
      rw [List.flatMap_cons, List.flatMap_cons, List.flatten_append, ih, List.flatten_cons,
        dumpLoop_flatten, List.nil_append]

theorem flatMap_wordBytes (count : Nat) :
    (List.range' 0 count).flatMap (wordBytes fmt buf len line) =
      dumpedBytes fmt buf len line count := by
  have windows := flatMap_windows (buf.take len.toNat) line.toNat fmt.bytesPerWord.toNat 0 count
  rw [Nat.zero_mul, Nat.add_zero] at windows
  exact windows

/-- Without its spaces the words spell their bytes. -/
theorem wordsOf_ink (count : Nat) :
    (wordsOf fmt buf len line 0 count).flatten.filter isInk =
      (dumpedBytes fmt buf len line count).flatMap (hexByte kDigitsLow) := by
  rw [wordsOf_flatten, <- flatMap_wordBytes]
  induction List.range' 0 count with
  | nil => rfl
  | cons word words ih =>
      have space : (ascii " ").filter isInk = [] := by decide
      rw [List.flatMap_cons, List.flatMap_cons, List.filter_append, ih, List.filter_append, space,
        flatMap_hexByte_ink, List.flatMap_append, List.nil_append]

theorem wordsOf_length (count : Nat) :
    (wordsOf fmt buf len line 0 count).flatten.length =
      count + 2 * (dumpedBytes fmt buf len line count).length := by
  have ink : forall words : List Nat,
      (words.flatMap (fun word =>
        ascii " " ++ (wordBytes fmt buf len line word).flatMap (hexByte kDigitsLow))).length =
      words.length + 2 * (words.flatMap (wordBytes fmt buf len line)).length := by
    intro words
    induction words with
    | nil => rfl
    | cons word words ih =>
        rw [List.flatMap_cons, List.length_append, ih, List.length_append, flatMap_hexByte_length,
          List.flatMap_cons, List.length_append, List.length_cons]
        change 1 + _ + _ = _
        omega
  rw [wordsOf_flatten, ink, flatMap_wordBytes, List.length_range']

/-- The glyphs that are left of a line are printed. -/
theorem LineWithin.glyphTexts (within : LineWithin fmt buf len line) (bytes : Nat)
    {byte : BitVec 32} (glyphs : Text) (reached : line.toNat + byte.toNat <= len.toNat) :
    Exists fun texts => Print.glyphTexts fmt buf len line bytes byte glyphs = some texts ∧
      texts.flatten = glyphs ++
        (((buf.take len.toNat).drop (line.toNat + byte.toNat)).take bytes).map fmt.alphabet := by
  have flat : forall glyphs, (glyphsText glyphs).flatten = glyphs := by
    intro glyphs
    unfold glyphsText
    split
    · next empty => exact empty.symm
    · simp
  induction bytes generalizing byte glyphs with
  | zero =>
      refine ⟨glyphsText glyphs, rfl, ?_⟩
      rw [flat, List.take_zero, List.map_nil, List.append_nil]
  | succ bytes ih =>
      have held := within.held
      have small := within.small
      have position : (line + byte).toNat = line.toNat + byte.toNat := by
        rw [BitVec.toNat_add]
        exact Nat.mod_eq_of_lt (by omega)
      have kept : forall glyphs : Text, (if glyphs.length = 16 then [glyphs] else []).flatten ++
          (if glyphs.length = 16 then [] else glyphs) = glyphs := by
        intro glyphs
        split
        · simp
        · rfl
      rw [Print.glyphTexts]
      by_cases ended : len <= line + byte
      · have last : len.toNat <= line.toNat + byte.toNat := by
          rw [<- position]
          exact ended
        rw [if_pos ended]
        refine ⟨_, rfl, ?_⟩
        rw [List.flatten_append, flat, kept, List.drop_eq_nil_of_le, List.take_nil, List.map_nil,
          List.append_nil]
        rw [List.length_take]
        omega
      · have further : line.toNat + byte.toNat < len.toNat := by
          rw [<- position]
          exact Nat.lt_of_not_le ended
        have inside : line.toNat + byte.toNat < (buf.take len.toNat).length := by
          rw [List.length_take]
          omega
        have read : buf[(line + byte).toNat]? =
            some (buf.take len.toNat)[line.toNat + byte.toNat] := by
          rw [position, List.getElem_take, List.getElem?_eq_getElem]
        have next : line.toNat + (byte + 1).toNat = line.toNat + byte.toNat + 1 := by
          rw [BitVec.toNat_add]
          change line.toNat + (byte.toNat + 1) % 2 ^ 32 = _
          rw [Nat.mod_eq_of_lt (by omega)]
          rfl
        have fits : line.toNat + (byte + 1).toNat <= len.toNat := by omega
        rcases ih ((if glyphs.length = 16 then [] else glyphs) ++
          [fmt.alphabet (buf.take len.toNat)[line.toNat + byte.toNat]]) fits with
          ⟨texts, printed, flatten⟩
        rw [if_neg ended, read, Option.bind_some, printed]
        refine ⟨_, rfl, ?_⟩
        rw [List.flatten_append, flatten, next, List.drop_eq_getElem_cons inside,
          List.take_succ_cons, List.map_cons, <- List.append_assoc, <- List.append_assoc, kept,
          List.append_assoc]
        rfl

end

end Print
end SunburstChip
