import SunburstChip.Runtime.Vfprintf

namespace SunburstChip
namespace Print

/-!
# Hex dumps

`base_fhexdump_with`, over any sink.  Its loops are run for a number of rounds:
the one that pads a line counts what the sink says it has written, and need not
end.
-/

/-- `base_hexdump_fmt_t` -/
structure HexdumpFmt where
  bytesPerWord : BitVec 32
  wordsPerLine : BitVec 32
  alphabet : BitVec 8 -> BitVec 8

/-- `kBaseHexdumpDefaultFmtAlphabet` -/
def kBaseHexdumpDefaultFmtAlphabet (byte : BitVec 8) : BitVec 8 :=
  if 0x20 <= byte ∧ byte <= 0x7e then byte else 0x2e

/-- `kBaseHexdumpDefaultFmt` -/
def kBaseHexdumpDefaultFmt : HexdumpFmt := ⟨2, 8, kBaseHexdumpDefaultFmtAlphabet⟩

/-- `bytes_per_line` -/
def HexdumpFmt.bytesPerLine (fmt : HexdumpFmt) : BitVec 32 := fmt.bytesPerWord * fmt.wordsPerLine

/-- `chars_per_line` -/
def HexdumpFmt.charsPerLine (fmt : HexdumpFmt) : BitVec 32 :=
  fmt.bytesPerLine * 2 + fmt.wordsPerLine

/-- The spaces that a line is padded with. -/
def spaces : Text := List.replicate 16 0x20

section

variable {σ : Type} (out : Sink σ)

/-- `base_fprintf`, with the format as a literal. -/
def baseFprintf (state : σ) (format : String) (args : List Arg) : Option (σ × BitVec 32) :=
  baseVfprintf out state (ascii format ++ [0]) args

/-- The loop that pads a line to `charsPerLine`.  The address of the spaces is not
printed. -/
def padLine (charsPerLine : BitVec 32) : Nat -> σ -> BitVec 32 -> Option (σ × BitVec 32)
  | 0, _, _ => none
  | fuel + 1, state, lineBytesWritten =>
      if lineBytesWritten < charsPerLine then
        let left := charsPerLine - lineBytesWritten
        let toPrint := if 16 < left then 16 else left
        (baseFprintf out state "%!s" [.size toPrint, .pointer 0 spaces]).bind
          (fun (state, written) => padLine charsPerLine fuel state (lineBytesWritten + written))
      else some (state, lineBytesWritten)

variable (fmt : HexdumpFmt) (buf : Text) (len : BitVec 32)

/-- The loop over the words of a line. -/
def wordLoop (rounds : Nat) (line : BitVec 32) :
    Nat -> BitVec 32 -> σ -> BitVec 32 -> Option (σ × BitVec 32)
  | 0, _, _, _ => none
  | fuel + 1, word, state, lineBytesWritten =>
      if word < fmt.bytesPerLine then
        if len < line + word then padLine out fmt.charsPerLine rounds state lineBytesWritten
        else
          let left := len - line - word
          let bytesLeft := if fmt.bytesPerWord < left then fmt.bytesPerWord else left
          (baseFprintf out state " " []).bind (fun (state, space) =>
            (hexDump (buf.drop (line + word).toNat) bytesLeft bytesLeft 0x30 false kDigitsLow).bind
              (fun texts =>
                let (state, written) := emit out texts state
                wordLoop rounds line fuel (word + fmt.bytesPerWord) state
                  (lineBytesWritten + space + written)))
      else some (state, lineBytesWritten)

/-- The glyphs that have been gathered in `glyph_buffer`, if there are any. -/
def flushGlyphs (glyphs : Text) (state : σ) (bytesWritten : BitVec 32) :
    Option (σ × BitVec 32) :=
  (baseFprintf out state "%!s" [.size (.ofNat 32 glyphs.length), .pointer 0 glyphs]).map
    (fun (state, written) => (state, bytesWritten + written))

/-- The loop over the glyphs of a line, with those in `glyph_buffer`. -/
def glyphLoop (line : BitVec 32) :
    Nat -> BitVec 32 -> Text -> σ -> BitVec 32 -> Option (Text × σ × BitVec 32)
  | 0, _, glyphs, state, bytesWritten => some (glyphs, state, bytesWritten)
  | bytes + 1, byte, glyphs, state, bytesWritten =>
      (if glyphs.length = 16 then
          (flushGlyphs out glyphs state bytesWritten).map (fun flushed => (([] : Text), flushed))
        else some (glyphs, state, bytesWritten)).bind (fun (glyphs, state, bytesWritten) =>
          if len <= line + byte then some (glyphs, state, bytesWritten)
          else
            buf[(line + byte).toNat]?.bind (fun c =>
              glyphLoop line bytes (byte + 1) (glyphs ++ [fmt.alphabet c]) state bytesWritten))

/-- One line of `base_fhexdump_with`. -/
def dumpLine (rounds : Nat) (line : BitVec 32) (state : σ) (bytesWritten : BitVec 32) :
    Option (σ × BitVec 32) :=
  (baseFprintf out state "%08x:" [.word line]).bind (fun (state, address) =>
    (wordLoop out fmt buf len rounds line rounds 0 state 0).bind (fun (state, words) =>
      (baseFprintf out state "  " []).bind (fun (state, gap) =>
        (glyphLoop out fmt buf len line fmt.bytesPerLine.toNat 0 [] state
          (bytesWritten + address + words + gap)).bind (fun (glyphs, state, bytesWritten) =>
          (if glyphs = [] then some (state, bytesWritten)
            else flushGlyphs out glyphs state bytesWritten).bind (fun (state, bytesWritten) =>
            (baseFprintf out state "\n" []).map (fun (state, newline) =>
              (state, bytesWritten + newline)))))))

/-- The loop of `base_fhexdump_with` over lines. -/
def lineLoop (rounds : Nat) : Nat -> BitVec 32 -> σ -> BitVec 32 -> Option (σ × BitVec 32)
  | 0, _, _, _ => none
  | fuel + 1, line, state, bytesWritten =>
      if line < len then
        (dumpLine out fmt buf len rounds line state bytesWritten).bind (fun (state, bytesWritten) =>
          lineLoop rounds fuel (line + fmt.bytesPerLine) state bytesWritten)
      else some (state, bytesWritten)

/-- `base_fhexdump_with`, with at most `rounds` rounds of each loop. -/
def baseFhexdumpWith (rounds : Nat) (state : σ) : Option (σ × BitVec 32) :=
  lineLoop out fmt buf len rounds rounds 0 state 0

end

/-! ## Sinks -/

/-- `snprintf_sink`: the text that is in the buffer, and `bytes_left`. -/
def snprintfSink : Sink (Text × BitVec 32) :=
  fun (buf, bytesLeft) text =>
    if bytesLeft = 0 then ((buf, bytesLeft), 0)
    else
      let len := if bytesLeft < .ofNat 32 text.length then bytesLeft else .ofNat 32 text.length
      ((buf ++ text.take len.toNat, bytesLeft - len), len)

/-- `base_snhexdump_with`: what is in the buffer of `outLen` bytes, and the result. -/
def baseSnhexdumpWith (rounds : Nat) (outLen : BitVec 32) (fmt : HexdumpFmt) (buf : Text)
    (len : BitVec 32) : Option (Text × BitVec 32) :=
  (baseFhexdumpWith snprintfSink fmt buf len rounds ([], outLen)).map
    (fun (captures, written) => (captures.1, written))

/-- A sink that accepts everything. -/
def acceptAll : Sink Text := fun output text => (output ++ text, .ofNat 32 text.length)

end Print
end SunburstChip
