import Mathlib.Algebra.Order.BigOperators.Group.List
import SunburstChip.Runtime.HexdumpTexts

namespace SunburstChip
namespace Print

/-!
# The layout of a hex dump

The whole text of a dump, for a sink that accepts everything, and when its columns
are aligned.
-/

/-! ## The text -/

/-- A line is padded up to its length, in rounds of 16 characters. -/
theorem padLine_acceptAll (charsPerLine : BitVec 32) (fuel : Nat) (output : Text)
    (lineBytesWritten : BitVec 32) :
    padLine acceptAll charsPerLine fuel output lineBytesWritten =
      if (charsPerLine.toNat - lineBytesWritten.toNat + 15) / 16 < fuel then
        some (output ++ List.replicate (charsPerLine.toNat - lineBytesWritten.toNat) 0x20,
          if lineBytesWritten < charsPerLine then charsPerLine else lineBytesWritten)
      else none := by
  induction fuel generalizing output lineBytesWritten with
  | zero => rw [if_neg (Nat.not_lt_zero _)]; rfl
  | succ fuel ih =>
      rw [padLine]
      by_cases short : lineBytesWritten < charsPerLine
      · have less : lineBytesWritten.toNat < charsPerLine.toNat := short
        have missing : (charsPerLine - lineBytesWritten).toNat =
            charsPerLine.toNat - lineBytesWritten.toNat :=
          BitVec.toNat_sub_of_le (Nat.le_of_lt less)
        let n : BitVec 32 := if 16 < charsPerLine - lineBytesWritten then 16
          else charsPerLine - lineBytesWritten
        have count : n.toNat = min 16 (charsPerLine.toNat - lineBytesWritten.toNat) := by
          change (if 16 < charsPerLine - lineBytesWritten then (16 : BitVec 32)
            else charsPerLine - lineBytesWritten).toNat = _
          split
          · next more =>
              have large : 16 < (charsPerLine - lineBytesWritten).toNat := more
              rw [<- missing]
              exact (Nat.min_eq_left (Nat.le_of_lt large)).symm
          · next fewer =>
              have few : (charsPerLine - lineBytesWritten).toNat <= 16 := Nat.le_of_not_lt fewer
              rw [<- missing]
              exact (Nat.min_eq_right few).symm
        have printed := vfprintf_text n 0 spaces (by rw [count]; exact Nat.min_le_left 16 _)
        have text : spaces.take n.toNat = List.replicate n.toNat 0x20 := by
          unfold spaces
          rw [List.take_replicate, count]
          congr 1
          omega
        have further : (lineBytesWritten + BitVec.ofNat 32 n.toNat).toNat =
            lineBytesWritten.toNat + n.toNat := by
          have bound := charsPerLine.isLt
          rw [BitVec.ofNat_toNat, BitVec.setWidth_eq, BitVec.toNat_add]
          exact Nat.mod_eq_of_lt (by omega)
        have rounds : (charsPerLine.toNat - (lineBytesWritten.toNat + n.toNat) + 15) / 16 + 1 =
            (charsPerLine.toNat - lineBytesWritten.toNat + 15) / 16 := by omega
        have filled : List.replicate n.toNat (0x20 : BitVec 8) ++
            List.replicate (charsPerLine.toNat - (lineBytesWritten.toNat + n.toNat)) 0x20 =
            List.replicate (charsPerLine.toNat - lineBytesWritten.toNat) 0x20 := by
          rw [List.replicate_append_replicate]
          congr 1
          omega
        have total : (if lineBytesWritten + BitVec.ofNat 32 n.toNat < charsPerLine then charsPerLine
            else lineBytesWritten + BitVec.ofNat 32 n.toNat) = charsPerLine := by
          split
          · rfl
          · next enough =>
              have least : charsPerLine.toNat <=
                  (lineBytesWritten + BitVec.ofNat 32 n.toNat).toNat := Nat.le_of_not_lt enough
              apply BitVec.eq_of_toNat_eq
              omega
        have flat : [List.replicate n.toNat (0x20 : BitVec 8)].flatten =
            List.replicate n.toNat 0x20 := List.flatten_singleton
        rw [if_pos short, if_pos short]
        change (baseFprintf acceptAll output "%!s" [.size n, .pointer 0 spaces]).bind _ = _
        rw [baseFprintf_of acceptAll output printed, Option.bind_some, emit_acceptAll, text, flat,
          List.length_replicate]
        dsimp only
        rw [ih, further, total, List.append_assoc, filled, <- rounds]
        simp only [Nat.add_lt_add_iff_right]
      · have none : charsPerLine.toNat - lineBytesWritten.toNat = 0 :=
          Nat.sub_eq_zero_of_le (Nat.le_of_not_lt short)
        rw [if_neg short, none, if_pos (Nat.succ_pos fuel), if_neg short]
        simp

/-- The text of a line. -/
def lineText (address : BitVec 32) (column glyphs : Text) : Text :=
  addressDigits address ++ ascii ":" ++ column ++ ascii "  " ++ glyphs ++ ascii "\n"

section

variable (fmt : HexdumpFmt) (buf : Text) (len line : BitVec 32)

/-- The words of a line. -/
def hexWords : Text := (wordsOf fmt buf len line 0 (printedWords fmt len line)).flatten

/-- The words of a line with the padding behind them. -/
def hexColumn : Text :=
  hexWords fmt buf len line ++
    List.replicate (if leftWords fmt len line < lineWords fmt then
      fmt.charsPerLine.toNat - (BitVec.ofNat 32 (hexWords fmt buf len line).length).toNat
      else 0) 0x20

/-- The glyphs of a line. -/
def glyphColumn : Text :=
  (((buf.take len.toNat).drop line.toNat).take fmt.bytesPerLine.toNat).map fmt.alphabet

variable {fmt : HexdumpFmt} {buf : Text} {len line : BitVec 32}

/-- A line is written, unless the rounds do not suffice. -/
theorem LineWithin.dumpLine_acceptAll (within : LineWithin fmt buf len line) (rounds : Nat)
    (output : Text) (bytesWritten : BitVec 32) :
    (Exists fun written => dumpLine acceptAll fmt buf len rounds line output bytesWritten =
      some (output ++ lineText line (hexColumn fmt buf len line) (glyphColumn fmt buf len line),
        written)) ∨
    (dumpLine acceptAll fmt buf len rounds line output bytesWritten = none ∧
      rounds < 2 ^ 32) := by
  have small := within.small
  have reached : line.toNat + (0 : BitVec 32).toNat <= len.toNat := Nat.le_of_lt within.begun
  rcases within.glyphTexts fmt.bytesPerLine.toNat [] reached with ⟨glyphs, printed, flatten⟩
  have words : leftWords fmt len line < 2 ^ 32 := by
    have quotient := Nat.div_le_self (len.toNat - line.toNat) fmt.bytesPerWord.toNat
    unfold leftWords
    omega
  rw [dumpLine_eq, within.wordTexts_zero]
  by_cases enough : printedWords fmt len line < rounds
  · rw [if_pos enough, Option.bind_some]
    dsimp only
    rw [emit_acceptAll, emit_acceptAll, printed]
    have ended : forall column, emit acceptAll (ascii "  " :: glyphs ++ [ascii "\n"]) column =
        (column ++ (ascii "  " ++ glyphColumn fmt buf len line ++ ascii "\n"),
          .ofNat 32 (ascii "  " ++ glyphColumn fmt buf len line ++ ascii "\n").length) := by
      intro column
      have flat : (ascii "  " :: glyphs ++ [ascii "\n"]).flatten =
          ascii "  " ++ glyphColumn fmt buf len line ++ ascii "\n" := by
        rw [List.flatten_append, List.flatten_cons, flatten, List.flatten_singleton]
        rfl
      rw [emit_acceptAll, flat]
    by_cases padded : leftWords fmt len line < lineWords fmt
    · rw [if_pos (decide_eq_true padded), padLine_acceptAll]
      by_cases further : (fmt.charsPerLine.toNat - (BitVec.ofNat 32
          (hexWords fmt buf len line).length).toNat + 15) / 16 < rounds
      · left
        unfold hexWords at further
        rw [if_pos further, Option.bind_some, Option.map_some]
        dsimp only
        rw [ended]
        refine ⟨_, congrArg some (Prod.ext ?_ rfl)⟩
        unfold lineText hexColumn hexWords
        rw [if_pos padded]
        simp only [List.append_assoc, List.flatten_cons, List.flatten_nil, List.nil_append]
      · right
        have bound := fmt.charsPerLine.isLt
        refine ⟨?_, by omega⟩
        unfold hexWords at further
        rw [if_neg further, Option.bind_none]
    · left
      rw [if_neg (by simp [padded]), Option.bind_some, Option.map_some]
      dsimp only
      rw [ended]
      refine ⟨_, congrArg some (Prod.ext ?_ rfl)⟩
      unfold lineText hexColumn hexWords
      rw [if_neg padded]
      simp only [List.append_assoc, List.flatten_cons, List.flatten_nil, List.nil_append,
        List.replicate_zero]
  · right
    refine ⟨by rw [if_neg enough, Option.bind_none], ?_⟩
    unfold printedWords at enough
    omega

end

/-- A dump: the buffer has `len` bytes, fewer than a `ptrdiff_t` can count, and the lines
are not empty. -/
structure DumpWithin (fmt : HexdumpFmt) (buf : Text) (len : BitVec 32) : Prop where
  held : len.toNat <= buf.length
  small : 2 * len.toNat < 2 ^ 32
  positive : 0 < fmt.bytesPerWord.toNat
  filled : 0 < fmt.bytesPerLine.toNat

section

variable (fmt : HexdumpFmt) (buf : Text) (len : BitVec 32)

/-- How many lines the loop makes. -/
def dumpLines : Nat := (len.toNat + fmt.bytesPerLine.toNat - 1) / fmt.bytesPerLine.toNat

/-- The offset of a line. -/
def lineAt (i : Nat) : BitVec 32 := .ofNat 32 (i * fmt.bytesPerLine.toNat)

/-- The text of the lines from one on. -/
def dumpText (i : Nat) : Text :=
  (List.range' i (dumpLines fmt len - i)).flatMap (fun i =>
    lineText (lineAt fmt i) (hexColumn fmt buf len (lineAt fmt i))
      (glyphColumn fmt buf len (lineAt fmt i)))

variable {fmt : HexdumpFmt} {buf : Text} {len : BitVec 32}

theorem lineAt_succ (i : Nat) : lineAt fmt i + fmt.bytesPerLine = lineAt fmt (i + 1) := by
  unfold lineAt
  rw [Nat.succ_mul, BitVec.ofNat_add, BitVec.ofNat_toNat, BitVec.setWidth_eq]

theorem DumpWithin.lt_dumpLines (within : DumpWithin fmt buf len) (i : Nat) :
    i < dumpLines fmt len ↔ i * fmt.bytesPerLine.toNat < len.toNat := by
  unfold dumpLines
  rw [<- Nat.succ_le_iff, Nat.le_div_iff_mul_le within.filled, Nat.succ_mul]
  have filled := within.filled
  omega

/-- The offsets of the lines, and the one that ends the loop, do not wrap. -/
theorem DumpWithin.lineAt_toNat (within : DumpWithin fmt buf len) {i : Nat}
    (reached : i <= dumpLines fmt len) : (lineAt fmt i).toNat = i * fmt.bytesPerLine.toNat := by
  have small := within.small
  have bound := fmt.bytesPerLine.isLt
  refine (BitVec.toNat_ofNat ..).trans (Nat.mod_eq_of_lt ?_)
  rcases i with _ | _ | i
  · omega
  · omega
  · have before : (i + 1) * fmt.bytesPerLine.toNat < len.toNat :=
      (within.lt_dumpLines (i + 1)).mp (by omega)
    rw [Nat.succ_mul] at before
    rw [Nat.succ_mul, Nat.succ_mul]
    omega

theorem DumpWithin.line (within : DumpWithin fmt buf len) {i : Nat}
    (inDump : i < dumpLines fmt len) : LineWithin fmt buf len (lineAt fmt i) := by
  have value := within.lineAt_toNat (Nat.le_of_lt inDump)
  have begun := (within.lt_dumpLines i).mp inDump
  refine ⟨within.held, within.small, within.positive, by rw [value]; exact begun, ?_⟩
  rw [value]
  rcases i with _ | i
  · exact Or.inl (Nat.zero_mul _)
  · right
    rw [Nat.succ_mul] at begun
    omega

theorem dumpText_step {i : Nat} (inDump : i < dumpLines fmt len) :
    dumpText fmt buf len i =
      lineText (lineAt fmt i) (hexColumn fmt buf len (lineAt fmt i))
        (glyphColumn fmt buf len (lineAt fmt i)) ++ dumpText fmt buf len (i + 1) := by
  have rest : dumpLines fmt len - i = (dumpLines fmt len - (i + 1)) + 1 := by omega
  unfold dumpText
  rw [rest, List.range'_succ, List.flatMap_cons]

/-- The lines are written one behind the other, unless the rounds do not suffice. -/
theorem DumpWithin.lineLoop_acceptAll (within : DumpWithin fmt buf len) (rounds fuel : Nat)
    {i : Nat} (output : Text) (bytesWritten : BitVec 32) (reached : i <= dumpLines fmt len) :
    (Exists fun written => lineLoop acceptAll fmt buf len rounds fuel (lineAt fmt i) output
      bytesWritten = some (output ++ dumpText fmt buf len i, written)) ∨
    (lineLoop acceptAll fmt buf len rounds fuel (lineAt fmt i) output bytesWritten = none ∧
      (rounds < 2 ^ 32 ∨ fuel <= dumpLines fmt len - i)) := by
  induction fuel generalizing i output bytesWritten with
  | zero => exact Or.inr ⟨rfl, Or.inr (Nat.zero_le _)⟩
  | succ fuel ih =>
      have begun : lineAt fmt i < len ↔ i < dumpLines fmt len := by
        rw [within.lt_dumpLines, BitVec.lt_def, within.lineAt_toNat reached]
      rw [lineLoop]
      by_cases inDump : i < dumpLines fmt len
      · rw [if_pos (begun.mpr inDump)]
        rcases (within.line inDump).dumpLine_acceptAll rounds output bytesWritten with
          ⟨written, dumped⟩ | ⟨none, few⟩
        · rw [dumped, Option.bind_some]
          dsimp only
          rw [lineAt_succ]
          have text := @dumpText_step fmt buf len i inDump
          rcases ih (output ++ lineText (lineAt fmt i) (hexColumn fmt buf len (lineAt fmt i))
              (glyphColumn fmt buf len (lineAt fmt i))) written
              (show i + 1 <= dumpLines fmt len by omega) with
            ⟨total, further⟩ | ⟨none, few⟩
          · left
            refine ⟨total, ?_⟩
            rw [further, text, List.append_assoc]
          · right
            refine ⟨none, ?_⟩
            omega
        · right
          exact ⟨by rw [none, Option.bind_none], Or.inl few⟩
      · have last : dumpLines fmt len - i = 0 := by omega
        left
        refine ⟨bytesWritten, ?_⟩
        rw [if_neg (mt begun.mp inDump)]
        unfold dumpText
        rw [last, List.range'_zero, List.flatMap_nil, List.append_nil]

/-- The text of a dump. -/
theorem DumpWithin.text (within : DumpWithin fmt buf len) :
    (Exists fun rounds => Exists fun written =>
      baseFhexdumpWith acceptAll fmt buf len rounds [] =
        some (dumpText fmt buf len 0, written)) ∧
    forall rounds output written,
      baseFhexdumpWith acceptAll fmt buf len rounds [] = some (output, written) ->
        output = dumpText fmt buf len 0 := by
  have run := fun rounds => within.lineLoop_acceptAll rounds rounds [] 0 (Nat.zero_le _)
  have start : lineAt fmt 0 = 0 := by
    unfold lineAt
    rw [Nat.zero_mul]
    rfl
  rw [start] at run
  constructor
  · rcases run (2 ^ 32 + dumpLines fmt len) with ⟨written, result⟩ | ⟨_, few⟩
    · exact ⟨_, written, result⟩
    · omega
  · intro rounds output written result
    rcases run rounds with ⟨_, same⟩ | ⟨none, _⟩
    · exact congrArg Prod.fst (Option.some.inj (result.symm.trans same))
    · exact absurd (result.symm.trans none) (Option.some_ne_none _)

end

/-! ## Columns -/

section

variable {fmt : HexdumpFmt} {buf : Text} {len line : BitVec 32}

/-- The words that are printed reach the end of the line, or of the bytes. -/
theorem LineWithin.printed_covers (within : LineWithin fmt buf len line) :
    min (len.toNat - line.toNat) fmt.bytesPerLine.toNat <=
      printedWords fmt len line * fmt.bytesPerWord.toNat := by
  have left := (not_congr (@lt_leftWords fmt len line within.positive
    (leftWords fmt len line))).mp (Nat.lt_irrefl _)
  have complete := (not_congr (lt_lineWords within.positive (lineWords fmt))).mp (Nat.lt_irrefl _)
  unfold printedWords
  rcases Nat.le_total (leftWords fmt len line) (lineWords fmt) with fewer | more
  · rw [Nat.min_eq_left fewer]
    omega
  · rw [Nat.min_eq_right more]
    omega

theorem hexColumn_ink :
    (hexColumn fmt buf len line).filter isInk =
      (dumpedBytes fmt buf len line (printedWords fmt len line)).flatMap (hexByte kDigitsLow) := by
  have blank : forall n, (List.replicate n (0x20 : BitVec 8)).filter isInk = [] := by
    intro n
    rw [List.filter_replicate, if_neg (by decide)]
  unfold hexColumn hexWords
  rw [List.filter_append, wordsOf_ink, blank, List.append_nil]

/-- Where a line is made of whole words, or is the only one, it is what is printed. -/
theorem LineWithin.dumpedBytes_eq (within : LineWithin fmt buf len line)
    (whole : lineWords fmt * fmt.bytesPerWord.toNat = fmt.bytesPerLine.toNat ∨
      len.toNat - line.toNat <= fmt.bytesPerLine.toNat) :
    dumpedBytes fmt buf len line (printedWords fmt len line) =
      ((buf.take len.toNat).drop line.toNat).take fmt.bytesPerLine.toNat := by
  have covers := within.printed_covers
  have length : ((buf.take len.toNat).drop line.toNat).length <= len.toNat - line.toNat := by
    rw [List.length_drop, List.length_take]
    omega
  unfold dumpedBytes
  generalize (buf.take len.toNat).drop line.toNat = bytes at length ⊢
  by_cases all : len.toNat - line.toNat <= fmt.bytesPerLine.toNat
  · rw [List.take_of_length_le (Nat.le_trans length (by omega)),
      List.take_of_length_le (Nat.le_trans length all)]
  · rcases whole with exactly | last
    · have complete : printedWords fmt len line * fmt.bytesPerWord.toNat =
          fmt.bytesPerLine.toNat := by
        have most : printedWords fmt len line * fmt.bytesPerWord.toNat <=
            lineWords fmt * fmt.bytesPerWord.toNat :=
          Nat.mul_le_mul_right _ (Nat.min_le_right _ _)
        omega
      rw [complete]
    · exact absurd last all

end

theorem hexByte_last (byte : BitVec 8) :
    Exists fun high => Exists fun low =>
      hexByte kDigitsLow byte = [high, low] ∧ isInk low = true := by
  have ink := hexByte_ink byte
  refine ⟨_, _, rfl, ?_⟩
  have inside : kDigitsLow.getD (byte &&& 0xf).toNat 0 ∈
      (hexByte kDigitsLow byte).filter isInk := by
    rw [ink]
    exact List.mem_cons_of_mem _ List.mem_cons_self
  exact (List.mem_filter.mp inside).2

/-- The sizes of a format do not wrap. -/
structure Unwrapped (fmt : HexdumpFmt) : Prop where
  line : fmt.bytesPerLine.toNat = fmt.bytesPerWord.toNat * fmt.wordsPerLine.toNat
  column : fmt.bytesPerLine.toNat * 2 + fmt.wordsPerLine.toNat < 2 ^ 32
  words : 0 < fmt.bytesPerWord.toNat

namespace Unwrapped

variable {fmt : HexdumpFmt} (unwrapped : Unwrapped fmt) {buf : Text} {len line : BitVec 32}
include unwrapped

theorem charsPerLine : fmt.charsPerLine.toNat =
    fmt.bytesPerLine.toNat * 2 + fmt.wordsPerLine.toNat := by
  have column := unwrapped.column
  unfold HexdumpFmt.charsPerLine
  rw [BitVec.toNat_add, BitVec.toNat_mul]
  change (fmt.bytesPerLine.toNat * 2 % 2 ^ 32 + fmt.wordsPerLine.toNat) % 2 ^ 32 = _
  rw [Nat.mod_eq_of_lt (a := fmt.bytesPerLine.toNat * 2) (by omega), Nat.mod_eq_of_lt column]

theorem lineWords : Print.lineWords fmt = fmt.wordsPerLine.toNat := by
  have words := unwrapped.words
  unfold Print.lineWords
  rw [unwrapped.line]
  apply Nat.div_eq_of_lt_le
  · rw [Nat.mul_comm]
    omega
  · rw [Nat.succ_mul, Nat.mul_comm fmt.wordsPerLine.toNat]
    omega

theorem whole : Print.lineWords fmt * fmt.bytesPerWord.toNat = fmt.bytesPerLine.toNat := by
  rw [unwrapped.lineWords, unwrapped.line, Nat.mul_comm]

/-- The width of a column: that of a whole line where it is padded, else that of its
words and bytes. -/
theorem hexColumn_length (within : LineWithin fmt buf len line) :
    (hexColumn fmt buf len line).length =
      if leftWords fmt len line < fmt.wordsPerLine.toNat then
        fmt.wordsPerLine.toNat + 2 * fmt.bytesPerLine.toNat
      else fmt.wordsPerLine.toNat +
        2 * min (len.toNat - line.toNat) fmt.bytesPerLine.toNat := by
  have held := within.held
  have words := @wordsOf_length fmt buf len line (printedWords fmt len line)
  have bytes : (dumpedBytes fmt buf len line (printedWords fmt len line)).length =
      min (len.toNat - line.toNat) fmt.bytesPerLine.toNat := by
    rw [within.dumpedBytes_eq (Or.inl unwrapped.whole), List.length_take, List.length_drop,
      List.length_take]
    omega
  have column := unwrapped.column
  rw [bytes] at words
  unfold hexColumn hexWords
  rw [List.length_append, words, List.length_replicate, unwrapped.charsPerLine,
    unwrapped.lineWords, BitVec.toNat_ofNat]
  split
  · next fewer =>
      have printed : printedWords fmt len line = leftWords fmt len line :=
        Nat.min_eq_left (by rw [unwrapped.lineWords]; omega)
      rw [printed, Nat.mod_eq_of_lt (by omega)]
      omega
  · next all =>
      have printed : printedWords fmt len line = fmt.wordsPerLine.toNat := by
        unfold printedWords
        rw [unwrapped.lineWords]
        exact Nat.min_eq_right (Nat.le_of_not_lt all)
      rw [printed, Nat.add_zero]

/-- A column that is complete ends with a digit. -/
theorem hexColumn_last (within : LineWithin fmt buf len line)
    (some : 0 < fmt.wordsPerLine.toNat)
    (full : fmt.bytesPerLine.toNat <= len.toNat - line.toNat) :
    Exists fun front => Exists fun digit =>
      hexColumn fmt buf len line = front ++ [digit] ∧ isInk digit = true := by
  have words := unwrapped.lineWords
  have whole := unwrapped.whole
  have more : Print.lineWords fmt < leftWords fmt len line := by
    rw [lt_leftWords within.positive, whole]
    exact full
  have printed : printedWords fmt len line = fmt.wordsPerLine.toNat := by
    unfold printedWords
    rw [words] at more ⊢
    exact Nat.min_eq_right (Nat.le_of_lt more)
  have column : hexColumn fmt buf len line =
      (wordsOf fmt buf len line 0 fmt.wordsPerLine.toNat).flatten := by
    unfold hexColumn hexWords
    rw [if_neg (by omega), List.replicate_zero, List.append_nil, printed]
  rcases size : fmt.wordsPerLine.toNat with _ | count
  · omega
  · have last : wordBytes fmt buf len line count ≠ [] := by
      have held := within.held
      rw [words, size, Nat.succ_mul] at whole
      apply List.ne_nil_of_length_pos
      unfold wordBytes
      rw [List.length_take, List.length_drop, List.length_take]
      have positive := within.positive
      omega
    rcases List.eq_nil_or_concat (wordBytes fmt buf len line count) with
      empty | ⟨bytes, byte, shape⟩
    · exact absurd empty last
    · rcases hexByte_last byte with ⟨high, low, digits, ink⟩
      rw [column, size, wordsOf_flatten, List.range'_concat, List.flatMap_append,
        List.flatMap_singleton, Nat.one_mul, Nat.zero_add, shape, List.concat_eq_append,
        List.flatMap_append, List.flatMap_singleton, digits]
      generalize (List.range' 0 count).flatMap _ = words
      generalize bytes.flatMap _ = before
      refine ⟨words ++ (ascii " " ++ (before ++ [high])), low, ?_, ink⟩
      simp only [List.append_assoc, List.cons_append, List.nil_append]

end Unwrapped

/-! ## Layouts -/

section

variable (fmt : HexdumpFmt)

/-- `bytes_per_word * words_per_line` as a number. -/
def perLine : Nat := fmt.bytesPerWord.toNat * fmt.wordsPerLine.toNat

/-- How many lines the bytes take. -/
def lineCount (bytes : Text) : Nat := (bytes.length + perLine fmt - 1) / perLine fmt

/-- The bytes of a line. -/
def lineBytes (bytes : Text) (i : Nat) : Text := (bytes.drop (i * perLine fmt)).take (perLine fmt)

/-- A line of a dump with the text of its hexadecimal column. -/
def layoutLine (bytes : Text) (column : Nat -> Text) (i : Nat) : Text :=
  lineText (.ofNat 32 (i * perLine fmt)) (column i) ((lineBytes fmt bytes i).map fmt.alphabet)

/-- Where the glyphs of a line begin. -/
def glyphOffset (column : Nat -> Text) (i : Nat) : Nat :=
  (addressDigits (.ofNat 32 (i * perLine fmt)) ++ ascii ":" ++ column i ++ ascii "  ").length

/-- The text is that of the lines of the bytes.  Each has its offset, a column that
spells its bytes, and their glyphs, which begin at the same place of every line. -/
structure Layout (bytes output : Text) (column : Nat -> Text) : Prop where
  lines : output = (List.range (lineCount fmt bytes)).flatMap (layoutLine fmt bytes column)
  spells : forall i, i < lineCount fmt bytes ->
    (column i).filter isInk = (lineBytes fmt bytes i).flatMap (hexByte kDigitsLow)
  aligned : forall i j, i < lineCount fmt bytes -> j < lineCount fmt bytes ->
    glyphOffset fmt column i = glyphOffset fmt column j

/-- `base_fhexdump_with` gives a text that is laid out. -/
def DumpsInColumns (buf : Text) (len : BitVec 32) : Prop :=
  Exists fun rounds => Exists fun output => Exists fun written => Exists fun column =>
    baseFhexdumpWith acceptAll fmt buf len rounds [] = some (output, written) ∧
    Layout fmt (buf.take len.toNat) output column

/-- There is one line at most, or the size of a line does not wrap and the last line is
complete or lacks at least its last word and a byte of the one before it. -/
def ColumnsAgree (len : BitVec 32) : Prop :=
  len.toNat <= fmt.bytesPerLine.toNat ∨
  (perLine fmt < 2 ^ 32 ∧ (len.toNat % perLine fmt = 0 ∨
    len.toNat % perLine fmt < (fmt.wordsPerLine.toNat - 1) * fmt.bytesPerWord.toNat))

end

section

variable {fmt : HexdumpFmt} {buf : Text} {len : BitVec 32}

theorem bytesPerLine_toNat : fmt.bytesPerLine.toNat = perLine fmt % 2 ^ 32 := BitVec.toNat_mul ..

theorem take_length (held : len.toNat <= buf.length) : (buf.take len.toNat).length = len.toNat := by
  rw [List.length_take]
  exact Nat.min_eq_left held

theorem layoutLine_length (bytes : Text) (column : Nat -> Text) (i : Nat) :
    (layoutLine fmt bytes column i).length =
      (column i).length + (layoutLine fmt bytes (fun _ => []) i).length := by
  unfold layoutLine lineText
  simp only [List.length_append, List.append_nil]
  omega

/-- Where the same lines are written with two columns, these are as long together. -/
theorem layout_length (bytes : Text) (left right : Nat -> Text) (lines : List Nat)
    (same : lines.flatMap (layoutLine fmt bytes left) =
      lines.flatMap (layoutLine fmt bytes right)) :
    (lines.map (fun i => (left i).length)).sum = (lines.map (fun i => (right i).length)).sum := by
  have total : forall column : Nat -> Text,
      (lines.flatMap (layoutLine fmt bytes column)).length =
        (lines.map (fun i => (column i).length)).sum +
          (lines.flatMap (layoutLine fmt bytes (fun _ => []))).length := by
    intro column
    clear same
    induction lines with
    | nil => rfl
    | cons i lines ih =>
        rw [List.flatMap_cons, List.flatMap_cons, List.length_append, List.length_append, ih,
          List.map_cons, List.sum_cons, layoutLine_length]
        omega
  have lengths := congrArg List.length same
  rw [total, total right] at lengths
  omega

/-- Of two columns of the same text the shorter one is the front of the longer one. -/
theorem layout_prefix {bytes : Text} {left right : Nat -> Text} {count : Nat}
    (positive : 0 < count)
    (same : (List.range count).flatMap (layoutLine fmt bytes left) =
      (List.range count).flatMap (layoutLine fmt bytes right))
    (shorter : (right 0).length <= (left 0).length) :
    Exists fun rest => left 0 = right 0 ++ rest := by
  rcases count with _ | count
  · omega
  · have first : forall column : Nat -> Text,
        Exists fun behind => (List.range (count + 1)).flatMap (layoutLine fmt bytes column) =
          (addressDigits (.ofNat 32 (0 * perLine fmt)) ++ ascii ":") ++ (column 0 ++ behind) := by
      intro column
      rw [List.range_succ_eq_map, List.flatMap_cons]
      refine ⟨ascii "  " ++ ((lineBytes fmt bytes 0).map fmt.alphabet ++ (ascii "\n" ++
        ((List.range count).map Nat.succ).flatMap (layoutLine fmt bytes column))), ?_⟩
      unfold layoutLine lineText
      simp only [List.append_assoc]
    rcases first left with ⟨behindLeft, textLeft⟩
    rcases first right with ⟨behindRight, textRight⟩
    rw [textLeft, textRight] at same
    have columns := List.append_cancel_left same
    rcases List.append_eq_append_iff.mp columns with ⟨rest, right', _⟩ | ⟨rest, left', _⟩
    · refine ⟨[], ?_⟩
      have none : rest = [] := by
        have lengths := congrArg List.length right'
        rw [List.length_append] at lengths
        exact List.eq_nil_of_length_eq_zero (by omega)
      rw [none, List.append_nil] at right'
      rw [List.append_nil, right']
    · exact ⟨rest, left'⟩

theorem glyphOffset_eq (column : Nat -> Text) (i : Nat) :
    glyphOffset fmt column i = 11 + (column i).length := by
  have colon : (ascii ":").length = 1 := rfl
  have gap : (ascii "  ").length = 2 := rfl
  unfold glyphOffset
  rw [List.length_append, List.length_append, List.length_append, addressDigits_length, colon, gap]
  omega

/-- The column that the loop makes. -/
def madeColumn (fmt : HexdumpFmt) (buf : Text) (len : BitVec 32) (i : Nat) : Text :=
  hexColumn fmt buf len (lineAt fmt i)

namespace DumpWithin

variable (within : DumpWithin fmt buf len)
include within

omit within in
/-- Where the loop has the lines that the bytes take, its text consists of them. -/
theorem dumpText_eq (count : lineCount fmt (buf.take len.toNat) = dumpLines fmt len)
    (line : forall i, i < dumpLines fmt len ->
      i * perLine fmt = i * fmt.bytesPerLine.toNat ∧
      lineBytes fmt (buf.take len.toNat) i =
        ((buf.take len.toNat).drop (lineAt fmt i).toNat).take fmt.bytesPerLine.toNat) :
    dumpText fmt buf len 0 =
      (List.range (lineCount fmt (buf.take len.toNat))).flatMap
        (layoutLine fmt (buf.take len.toNat) (madeColumn fmt buf len)) := by
  unfold dumpText
  rw [count, Nat.sub_zero, <- List.range_eq_range']
  rw [List.flatMap_def, List.flatMap_def]
  congr 1
  apply List.map_congr_left
  intro i inside
  rcases line i (List.mem_range.mp inside) with ⟨offset, bytes⟩
  unfold layoutLine
  rw [offset, bytes]
  rfl

/-- The columns of the loop spell the bytes of their lines. -/
theorem madeColumn_spells {i : Nat} (inDump : i < dumpLines fmt len)
    (whole : lineWords fmt * fmt.bytesPerWord.toNat = fmt.bytesPerLine.toNat ∨
      len.toNat - (lineAt fmt i).toNat <= fmt.bytesPerLine.toNat)
    (bytes : lineBytes fmt (buf.take len.toNat) i =
      ((buf.take len.toNat).drop (lineAt fmt i).toNat).take fmt.bytesPerLine.toNat) :
    (madeColumn fmt buf len i).filter isInk =
      (lineBytes fmt (buf.take len.toNat) i).flatMap (hexByte kDigitsLow) := by
  unfold madeColumn
  rw [hexColumn_ink, (within.line inDump).dumpedBytes_eq whole, bytes]

/-- A single line is laid out. -/
theorem single (few : len.toNat <= fmt.bytesPerLine.toNat) :
    Layout fmt (buf.take len.toNat) (dumpText fmt buf len 0) (madeColumn fmt buf len) := by
  have filled := within.filled
  have size : fmt.bytesPerLine.toNat <= perLine fmt := by
    rw [bytesPerLine_toNat]
    exact Nat.mod_le _ _
  have held := take_length within.held
  have lines : dumpLines fmt len <= 1 := by
    by_contra more
    have second := (within.lt_dumpLines 1).mp (by omega)
    omega
  have count : lineCount fmt (buf.take len.toNat) = dumpLines fmt len := by
    unfold lineCount dumpLines
    rw [held]
    by_cases empty : len.toNat = 0
    · rw [empty, Nat.zero_add, Nat.zero_add, Nat.div_eq_of_lt (by omega),
        Nat.div_eq_of_lt (by omega)]
    · have single : forall size, len.toNat <= size -> (len.toNat + size - 1) / size = 1 := by
        intro size enough
        apply Nat.div_eq_of_lt_le
        · omega
        · omega
      rw [single _ few, single _ (Nat.le_trans few size)]
  have first : forall i, i < dumpLines fmt len -> i = 0 := by
    intro i inside
    omega
  have start : (lineAt fmt 0).toNat = 0 := by
    unfold lineAt
    rw [Nat.zero_mul]
    rfl
  have bytes : lineBytes fmt (buf.take len.toNat) 0 =
      ((buf.take len.toNat).drop (lineAt fmt 0).toNat).take fmt.bytesPerLine.toNat := by
    have short : (buf.take len.toNat).length <= fmt.bytesPerLine.toNat := by
      rw [held]
      exact few
    unfold lineBytes
    rw [start, Nat.zero_mul, List.drop_zero]
    exact (List.take_of_length_le (Nat.le_trans short size)).trans
      (List.take_of_length_le short).symm
  refine ⟨dumpText_eq count ?_, ?_, ?_⟩
  · intro i inside
    rw [first i inside]
    exact ⟨by rw [Nat.zero_mul, Nat.zero_mul], bytes⟩
  · intro i inside
    rw [count] at inside
    have zero := first i inside
    subst zero
    exact within.madeColumn_spells inside (Or.inr (by rw [start]; exact few)) bytes
  · intro i j insideI insideJ
    rw [count] at insideI insideJ
    rw [first i insideI, first j insideJ]

/-- Where the sizes do not wrap the loop has the lines that the bytes take. -/
theorem several (size : perLine fmt < 2 ^ 32) :
    lineCount fmt (buf.take len.toNat) = dumpLines fmt len ∧
    perLine fmt = fmt.bytesPerLine.toNat ∧
    forall i, i < dumpLines fmt len ->
      i * perLine fmt = i * fmt.bytesPerLine.toNat ∧
      lineBytes fmt (buf.take len.toNat) i =
        ((buf.take len.toNat).drop (lineAt fmt i).toNat).take fmt.bytesPerLine.toNat := by
  have same : perLine fmt = fmt.bytesPerLine.toNat := by
    rw [bytesPerLine_toNat, Nat.mod_eq_of_lt size]
  refine ⟨?_, same, ?_⟩
  · unfold lineCount dumpLines
    rw [take_length within.held, same]
  · intro i inside
    refine ⟨by rw [same], ?_⟩
    unfold lineBytes
    rw [same, within.lineAt_toNat (Nat.le_of_lt inside)]

/-- Nor do they where the text is short enough to be counted in a `size_t`. -/
theorem unwrapped (counted : 3 * len.toNat <= 2 ^ 32) (size : perLine fmt < 2 ^ 32)
    (long : fmt.bytesPerLine.toNat < len.toNat) : Unwrapped fmt := by
  have same : fmt.bytesPerLine.toNat = perLine fmt := by
    rw [bytesPerLine_toNat, Nat.mod_eq_of_lt size]
  have words : fmt.wordsPerLine.toNat <= perLine fmt := Nat.le_mul_of_pos_left _ within.positive
  exact ⟨same, by omega, within.positive⟩

/-- The width of a column by its line. -/
theorem madeColumn_length (counted : 3 * len.toNat <= 2 ^ 32) (size : perLine fmt < 2 ^ 32)
    (long : fmt.bytesPerLine.toNat < len.toNat) {i : Nat} (inDump : i < dumpLines fmt len) :
    (madeColumn fmt buf len i).length =
      if (len.toNat - i * perLine fmt) / fmt.bytesPerWord.toNat + 1 < fmt.wordsPerLine.toNat then
        fmt.wordsPerLine.toNat + 2 * perLine fmt
      else fmt.wordsPerLine.toNat + 2 * min (len.toNat - i * perLine fmt) (perLine fmt) := by
  have same := (within.several size).2.1
  unfold madeColumn
  rw [(within.unwrapped counted size long).hexColumn_length (within.line inDump)]
  unfold leftWords
  rw [within.lineAt_toNat (Nat.le_of_lt inDump), same]

/-- A column is as wide as a complete one exactly if its line is complete, or its padding
begins before its last word. -/
theorem madeColumn_complete (counted : 3 * len.toNat <= 2 ^ 32) (size : perLine fmt < 2 ^ 32)
    (long : fmt.bytesPerLine.toNat < len.toNat) {i : Nat} (inDump : i < dumpLines fmt len) :
    (madeColumn fmt buf len i).length <= fmt.wordsPerLine.toNat + 2 * perLine fmt ∧
    ((madeColumn fmt buf len i).length = fmt.wordsPerLine.toNat + 2 * perLine fmt ↔
      perLine fmt <= len.toNat - i * perLine fmt ∨
      len.toNat % perLine fmt < (fmt.wordsPerLine.toNat - 1) * fmt.bytesPerWord.toNat) := by
  have same := (within.several size).2.1
  have begun := (within.lt_dumpLines i).mp inDump
  rw [<- same] at begun
  have padded : (len.toNat - i * perLine fmt) / fmt.bytesPerWord.toNat + 1 <
      fmt.wordsPerLine.toNat ↔ len.toNat - i * perLine fmt <
        (fmt.wordsPerLine.toNat - 1) * fmt.bytesPerWord.toNat := by
    rw [<- Nat.div_lt_iff_lt_mul within.positive]
    generalize (len.toNat - i * perLine fmt) / fmt.bytesPerWord.toNat = words
    omega
  have less : (fmt.wordsPerLine.toNat - 1) * fmt.bytesPerWord.toNat <= perLine fmt := by
    unfold perLine
    rw [Nat.mul_comm]
    exact Nat.mul_le_mul_left _ (Nat.sub_le _ _)
  have last : len.toNat - i * perLine fmt < perLine fmt ->
      len.toNat % perLine fmt = len.toNat - i * perLine fmt := by
    intro short
    have split : len.toNat = len.toNat - i * perLine fmt + perLine fmt * i := by
      rw [Nat.mul_comm (perLine fmt)]
      omega
    rw [split, Nat.add_mul_mod_self_left, Nat.mod_eq_of_lt short, <- split]
  rw [within.madeColumn_length counted size long inDump]
  by_cases fewer : (len.toNat - i * perLine fmt) / fmt.bytesPerWord.toNat + 1 <
      fmt.wordsPerLine.toNat
  · have begins := padded.mp fewer
    rw [if_pos fewer, last (by omega)]
    exact ⟨Nat.le_refl _, iff_of_true rfl (Or.inr begins)⟩
  · have ends := mt padded.mpr fewer
    rw [if_neg fewer]
    refine ⟨by omega, ?_⟩
    by_cases short : len.toNat - i * perLine fmt < perLine fmt
    · rw [last short]
      omega
    · omega

/-- Lines that are complete, but for a last one that is padded, are laid out. -/
theorem aligned (counted : 3 * len.toNat <= 2 ^ 32) (size : perLine fmt < 2 ^ 32)
    (long : fmt.bytesPerLine.toNat < len.toNat)
    (agree : len.toNat % perLine fmt = 0 ∨
      len.toNat % perLine fmt < (fmt.wordsPerLine.toNat - 1) * fmt.bytesPerWord.toNat) :
    Layout fmt (buf.take len.toNat) (dumpText fmt buf len 0) (madeColumn fmt buf len) := by
  rcases within.several size with ⟨count, same, lines⟩
  have width : forall i, i < dumpLines fmt len ->
      (madeColumn fmt buf len i).length = fmt.wordsPerLine.toNat + 2 * perLine fmt := by
    intro i inside
    rw [(within.madeColumn_complete counted size long inside).2]
    rcases agree with whole | padded
    · left
      have begun := (within.lt_dumpLines i).mp inside
      rw [<- same] at begun
      rcases Nat.dvd_of_mod_eq_zero whole with ⟨count, product⟩
      have further : i + 1 <= count := by
        rw [product, Nat.mul_comm] at begun
        exact Nat.lt_of_mul_lt_mul_left begun
      have fits := Nat.mul_le_mul_left (perLine fmt) further
      rw [<- product, Nat.mul_succ, Nat.mul_comm] at fits
      omega
    · exact Or.inr padded
  refine ⟨dumpText_eq count lines, ?_, ?_⟩
  · intro i inside
    rw [count] at inside
    exact within.madeColumn_spells inside (Or.inl (within.unwrapped counted size long).whole)
      (lines i inside).2
  · intro i j insideI insideJ
    rw [count] at insideI insideJ
    rw [glyphOffset_eq, glyphOffset_eq, width i insideI, width j insideJ]

/-- Where the last line is neither complete nor padded there is no layout. -/
theorem misaligned (counted : 3 * len.toNat <= 2 ^ 32) (size : perLine fmt < 2 ^ 32)
    (some : 0 < fmt.wordsPerLine.toNat) (long : fmt.bytesPerLine.toNat < len.toNat)
    (left : len.toNat % perLine fmt ≠ 0)
    (wide : ¬ len.toNat % perLine fmt < (fmt.wordsPerLine.toNat - 1) * fmt.bytesPerWord.toNat)
    (column : Nat -> Text) :
    ¬ Layout fmt (buf.take len.toNat) (dumpText fmt buf len 0) column := by
  intro layout
  rcases within.several size with ⟨count, same, lines⟩
  have filled := within.filled
  -- The last line, whose column is too short.
  have last : len.toNat / perLine fmt < dumpLines fmt len := by
    rw [within.lt_dumpLines, <- same]
    have split := Nat.div_add_mod len.toNat (perLine fmt)
    rw [Nat.mul_comm] at split
    omega
  have shorter : (madeColumn fmt buf len (len.toNat / perLine fmt)).length <
      fmt.wordsPerLine.toNat + 2 * perLine fmt := by
    rcases within.madeColumn_complete counted size long last with ⟨most, complete⟩
    have partial' : ¬ perLine fmt <= len.toNat - len.toNat / perLine fmt * perLine fmt := by
      have split := Nat.div_add_mod len.toNat (perLine fmt)
      have rest := Nat.mod_lt len.toNat (show 0 < perLine fmt by omega)
      rw [Nat.mul_comm] at split
      omega
    have different := mt complete.mp (not_or.mpr ⟨partial', wide⟩)
    omega
  -- All columns of the layout are as wide as the first one, which is therefore too short as well.
  have first : 0 < dumpLines fmt len := Nat.lt_of_le_of_lt (Nat.zero_le _) last
  have texts := (dumpText_eq count lines).symm.trans layout.lines
  have sums := layout_length _ _ _ _ texts
  have narrow : (column 0).length < fmt.wordsPerLine.toNat + 2 * perLine fmt := by
    by_contra wide
    have least : forall i, i ∈ List.range (lineCount fmt (buf.take len.toNat)) ->
        (madeColumn fmt buf len i).length <= (column i).length := by
      intro i inside
      have begun := List.mem_range.mp inside
      have equal := layout.aligned i 0 begun (by omega)
      rw [glyphOffset_eq, glyphOffset_eq] at equal
      rw [count] at begun
      have most := (within.madeColumn_complete counted size long begun).1
      omega
    have strict : (madeColumn fmt buf len (len.toNat / perLine fmt)).length <
        (column (len.toNat / perLine fmt)).length := by
      have equal := layout.aligned (len.toNat / perLine fmt) 0 (by omega) (by omega)
      rw [glyphOffset_eq, glyphOffset_eq] at equal
      omega
    have less := List.sum_lt_sum _ _ least
      ⟨len.toNat / perLine fmt, List.mem_range.mpr (by omega), strict⟩
    omega
  -- So the first line made has a digit behind the digits of the first line of the layout.
  have complete : (madeColumn fmt buf len 0).length =
      fmt.wordsPerLine.toNat + 2 * perLine fmt :=
    (within.madeColumn_complete counted size long first).2.mpr (Or.inl (by omega))
  rcases layout_prefix (by omega) texts (by omega) with ⟨rest, shape⟩
  have blank : rest.filter isInk = [] := by
    have made := within.madeColumn_spells first (Or.inl (within.unwrapped counted size long).whole)
      (lines 0 first).2
    rw [shape, List.filter_append, layout.spells 0 (by omega)] at made
    exact List.append_right_eq_self.mp made
  have start : (lineAt fmt 0).toNat = 0 := by
    rw [within.lineAt_toNat (Nat.zero_le _), Nat.zero_mul]
  rcases (within.unwrapped counted size long).hexColumn_last (within.line first) some
    (by rw [start]; omega) with ⟨front, digit, ends, ink⟩
  rcases List.eq_nil_or_concat rest with empty | ⟨spaces, c, shape'⟩
  · have lengths := congrArg List.length shape
    rw [empty, List.append_nil] at lengths
    omega
  · have same : c = digit := by
      have columns : front ++ [digit] = column 0 ++ (spaces ++ [c]) := by
        rw [<- ends, <- List.concat_eq_append, <- shape']
        exact shape
      rw [<- List.append_assoc] at columns
      exact (List.append_inj_right' columns rfl |> List.cons.inj).1.symm
    rw [shape', List.concat_eq_append, List.filter_append, same,
      List.filter_cons_of_pos ink] at blank
    exact absurd blank (by simp)

omit within in
theorem lineText_ink (address : BitVec 32) (column glyphs : Text) :
    ((lineText address column glyphs).filter isInk).length =
      ((addressDigits address).filter isInk).length + (column.filter isInk).length +
        (glyphs.filter isInk).length + 2 := by
  have colon : (ascii ":").filter isInk = ascii ":" := by decide
  have gap : (ascii "  ").filter isInk = [] := by decide
  have newline : (ascii "\n").filter isInk = ascii "\n" := by decide
  have lengths : (ascii ":").length = 1 ∧ (ascii "\n").length = 1 := by decide
  unfold lineText
  simp only [List.filter_append, List.length_append, colon, gap, newline, lengths.1, lengths.2,
    List.length_nil]
  omega

/-- A line has at least the digits of its bytes, and their glyphs. -/
theorem line_ink {i : Nat} (inDump : i < dumpLines fmt len) :
    2 * min (len.toNat - i * fmt.bytesPerLine.toNat) fmt.bytesPerLine.toNat <=
      ((hexColumn fmt buf len (lineAt fmt i)).filter isInk).length := by
  have held := take_length within.held
  have position := within.lineAt_toNat (Nat.le_of_lt inDump)
  have covers := (within.line inDump).printed_covers
  rw [hexColumn_ink, flatMap_hexByte_length]
  unfold dumpedBytes
  rw [position] at covers ⊢
  rw [List.length_take, List.length_drop, held]
  omega

/-- The lines from one on have at least the digits and glyphs of their bytes, and two
characters each. -/
theorem dumpText_ink {i : Nat} (reached : i <= dumpLines fmt len) :
    2 * (len.toNat - i * fmt.bytesPerLine.toNat) +
        ((((buf.take len.toNat).drop (i * fmt.bytesPerLine.toNat)).map fmt.alphabet).filter
          isInk).length + 2 * (dumpLines fmt len - i) <=
      ((dumpText fmt buf len i).filter isInk).length := by
  have held := take_length within.held
  induction rest : dumpLines fmt len - i generalizing i with
  | zero =>
      have last : i = dumpLines fmt len := by omega
      have ends := mt (within.lt_dumpLines i).mpr (by omega)
      rw [List.drop_eq_nil_of_le (by omega)]
      simp
      omega
  | succ rest ih =>
      have inDump : i < dumpLines fmt len := by omega
      have position := within.lineAt_toNat (Nat.le_of_lt inDump)
      have further := ih (show i + 1 <= dumpLines fmt len by omega) (by omega)
      have ink := within.line_ink inDump
      have split : ((buf.take len.toNat).drop (i * fmt.bytesPerLine.toNat)).map fmt.alphabet =
          glyphColumn fmt buf len (lineAt fmt i) ++
            ((buf.take len.toNat).drop ((i + 1) * fmt.bytesPerLine.toNat)).map fmt.alphabet := by
        unfold glyphColumn
        rw [position, <- List.map_append, Nat.succ_mul, <- List.drop_drop, List.take_append_drop]
      rw [dumpText_step inDump, split, List.filter_append, List.filter_append,
        List.length_append, List.length_append, lineText_ink]
      have next : (i + 1) * fmt.bytesPerLine.toNat =
          i * fmt.bytesPerLine.toNat + fmt.bytesPerLine.toNat := Nat.succ_mul ..
      omega

/-- Where the size of a line wraps there are too many lines. -/
theorem wrapped (size : 2 ^ 32 <= perLine fmt) (long : fmt.bytesPerLine.toNat < len.toNat)
    (column : Nat -> Text) :
    ¬ Layout fmt (buf.take len.toNat) (dumpText fmt buf len 0) column := by
  intro layout
  have held := take_length within.held
  have bound := len.isLt
  have filled := within.filled
  have second : 1 < dumpLines fmt len := (within.lt_dumpLines 1).mpr (by omega)
  have first : 0 < dumpLines fmt len := Nat.lt_trans Nat.zero_lt_one second
  have count : lineCount fmt (buf.take len.toNat) = 1 := by
    unfold lineCount
    rw [held]
    apply Nat.div_eq_of_lt_le
    · omega
    · omega
  have all : lineBytes fmt (buf.take len.toNat) 0 = buf.take len.toNat := by
    have short : (buf.take len.toNat).length <= perLine fmt := by omega
    unfold lineBytes
    rw [Nat.zero_mul, List.drop_zero]
    exact List.take_of_length_le short
  have single : ((dumpText fmt buf len 0).filter isInk).length =
      ((addressDigits 0).filter isInk).length + 2 * len.toNat +
        (((buf.take len.toNat).map fmt.alphabet).filter isInk).length + 2 := by
    have spelled := layout.spells 0 (by omega)
    rw [layout.lines, count, List.range_one, List.flatMap_singleton]
    unfold layoutLine
    rw [lineText_ink, spelled, all, flatMap_hexByte_length, held, Nat.zero_mul]
    rfl
  have start : lineAt fmt 0 = 0 := by
    unfold lineAt
    rw [Nat.zero_mul]
    rfl
  have ink := within.line_ink first
  have rest := within.dumpText_ink (Nat.le_of_lt second)
  have glyphs : (buf.take len.toNat).map fmt.alphabet = glyphColumn fmt buf len 0 ++
      ((buf.take len.toNat).drop fmt.bytesPerLine.toNat).map fmt.alphabet := by
    unfold glyphColumn
    rw [<- List.map_append]
    congr 1
    exact (List.take_append_drop _ _).symm
  have step := @dumpText_step fmt buf len 0 first
  rw [Nat.zero_add] at step
  rw [step, List.filter_append, List.length_append, lineText_ink, glyphs, List.filter_append,
    List.length_append, start] at single
  rw [start, Nat.zero_mul, Nat.sub_zero] at ink
  rw [Nat.one_mul] at rest
  omega

end DumpWithin

/-- A line without bytes is followed by the same one. -/
theorem lineLoop_empty (rounds fuel : Nat) (line : BitVec 32) (output : Text)
    (bytesWritten : BitVec 32) (begun : line < len) (empty : fmt.bytesPerLine = 0) :
    lineLoop acceptAll fmt buf len rounds fuel line output bytesWritten = none := by
  induction fuel generalizing output bytesWritten with
  | zero => rfl
  | succ fuel ih =>
      have stays : line + fmt.bytesPerLine = line := by
        rw [empty]
        exact BitVec.add_zero line
      rw [lineLoop, if_pos begun]
      cases dumpLine acceptAll fmt buf len rounds line output bytesWritten with
      | none => rfl
      | some result =>
          rw [Option.bind_some]
          dsimp only
          rw [stays, ih]

/-- The columns of a hex dump agree exactly if the last of several lines is complete or
padded. -/
theorem dumpsInColumns_iff (held : len.toNat <= buf.length) (small : 3 * len.toNat <= 2 ^ 32)
    (bytes : 0 < fmt.bytesPerWord.toNat) (words : 0 < fmt.wordsPerLine.toNat) :
    DumpsInColumns fmt buf len ↔ ColumnsAgree fmt len := by
  by_cases filled : 0 < fmt.bytesPerLine.toNat
  · have within : DumpWithin fmt buf len := ⟨held, by omega, bytes, filled⟩
    rcases within.text with ⟨⟨rounds, written, dumped⟩, unique⟩
    constructor
    · rintro ⟨_, output, _, column, run, layout⟩
      rw [unique _ _ _ run] at layout
      by_contra disagree
      rcases not_or.mp disagree with ⟨long, wide⟩
      by_cases size : perLine fmt < 2 ^ 32
      · rcases not_or.mp (not_and.mp wide size) with ⟨left, ends⟩
        exact within.misaligned small size words (Nat.lt_of_not_le long) left ends column layout
      · exact within.wrapped (Nat.le_of_not_lt size) (Nat.lt_of_not_le long) column layout
    · intro agree
      by_cases few : len.toNat <= fmt.bytesPerLine.toNat
      · exact ⟨rounds, _, written, _, dumped, within.single few⟩
      · rcases agree with single | ⟨size, ends⟩
        · exact absurd single few
        · have long := Nat.lt_of_not_le few
          exact ⟨rounds, _, written, _, dumped, within.aligned small size long ends⟩
  · have zero : fmt.bytesPerLine = 0 := BitVec.eq_of_toNat_eq (Nat.eq_zero_of_not_pos filled)
    by_cases nothing : len.toNat = 0
    · have empty : len = 0 := BitVec.eq_of_toNat_eq nothing
      have some : 0 < perLine fmt := Nat.mul_pos bytes words
      have count : lineCount fmt (buf.take len.toNat) = 0 := by
        unfold lineCount
        rw [take_length held, nothing, Nat.zero_add]
        exact Nat.div_eq_of_lt (by omega)
      refine iff_of_true ⟨1, [], 0, fun _ => [], ?_, ?_, ?_, ?_⟩ (Or.inl (by omega))
      · rw [empty]
        rfl
      · rw [count]
        rfl
      · intro i inside
        omega
      · intro i j inside
        omega
    · have begun : (0 : BitVec 32) < len := Nat.pos_of_ne_zero nothing
      have overflow : ¬ perLine fmt < 2 ^ 32 := by
        intro size
        have product : 0 < perLine fmt := Nat.mul_pos bytes words
        rw [bytesPerLine_toNat, Nat.mod_eq_of_lt size] at filled
        exact filled product
      apply iff_of_false
      · rintro ⟨rounds, output, written, _, run, _⟩
        exact absurd (run.symm.trans (lineLoop_empty rounds rounds 0 [] 0 begun zero))
          (Option.some_ne_none _)
      · rintro (few | ⟨size, _⟩)
        · omega
        · exact overflow size

end

theorem dumpsInColumns_iff_padded :
    DumpsInColumns kBaseHexdumpDefaultFmt (List.replicate 20 0x61) 20 ↔
      ColumnsAgree kBaseHexdumpDefaultFmt 20 :=
  dumpsInColumns_iff (by decide) (by decide) (by decide) (by decide)

/-- A second line of 15 bytes, one less than the first, has its glyphs two characters
further to the left. -/
theorem not_dumpsInColumns_short :
    ¬ DumpsInColumns kBaseHexdumpDefaultFmt (List.replicate 31 0x61) 31 := by
  have within : DumpWithin kBaseHexdumpDefaultFmt (List.replicate 31 0x61) 31 :=
    ⟨by decide, by decide, by decide, by decide⟩
  rintro ⟨rounds, output, written, column, run, layout⟩
  rw [within.text.2 rounds output written run] at layout
  exact within.misaligned (by decide) (by decide) (by decide) (by decide) (by decide) (by decide)
    column layout

end Print
end SunburstChip
