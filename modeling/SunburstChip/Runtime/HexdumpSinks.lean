import SunburstChip.Runtime.HexdumpLayout

namespace SunburstChip
namespace Print

/-!
# Hex dumps on sinks that give up

The loop that pads a line waits for the sink to have written a number of characters.
It is the only loop of a hex dump that depends on the sink.
-/

/-- The last line is not complete, and a word of it begins behind its end. -/
def PadsLastLine (fmt : HexdumpFmt) (len : BitVec 32) : Prop :=
  len.toNat % fmt.bytesPerLine.toNat ≠ 0 ∧
  (len.toNat % fmt.bytesPerLine.toNat / fmt.bytesPerWord.toNat + 1) * fmt.bytesPerWord.toNat <
    fmt.bytesPerLine.toNat ∧
  fmt.charsPerLine ≠ 0

/-- A hex dump comes to its end. -/
def Finishes {σ : Type} (out : Sink σ) (state : σ) (fmt : HexdumpFmt) (buf : Text)
    (len : BitVec 32) : Prop :=
  Exists fun rounds => (baseFhexdumpWith out fmt buf len rounds state).isSome = true

/-- A sink that has no room and will not have any. -/
def GaveUp {σ : Type} (out : Sink σ) (state : σ) : Prop :=
  forall text, out state text = (state, 0)

section

variable {fmt : HexdumpFmt} {buf : Text} {len : BitVec 32}
variable {i rounds : Nat} {σ : Type} {line : BitVec 32}

/-- Of the lines the last one is padded, if any. -/
theorem DumpWithin.pads_iff (within : DumpWithin fmt buf len) (inDump : i < dumpLines fmt len) :
    leftWords fmt len (lineAt fmt i) < lineWords fmt ∧ fmt.charsPerLine ≠ 0 ↔
      i + 1 = dumpLines fmt len ∧ PadsLastLine fmt len := by
  have begun := (within.lt_dumpLines i).mp inDump
  have next := within.lt_dumpLines (i + 1)
  have position := within.lineAt_toNat (Nat.le_of_lt inDump)
  have last : len.toNat - i * fmt.bytesPerLine.toNat < fmt.bytesPerLine.toNat ->
      len.toNat % fmt.bytesPerLine.toNat = len.toNat - i * fmt.bytesPerLine.toNat := by
    intro short
    have split : len.toNat = len.toNat - i * fmt.bytesPerLine.toNat +
        fmt.bytesPerLine.toNat * i := by
      rw [Nat.mul_comm fmt.bytesPerLine.toNat]
      omega
    rw [split, Nat.add_mul_mod_self_left, Nat.mod_eq_of_lt short, <- split]
  rw [Nat.succ_mul] at next
  rw [lt_lineWords within.positive]
  unfold leftWords PadsLastLine
  rw [position]
  constructor
  · rintro ⟨behind, counts⟩
    have short : len.toNat - i * fmt.bytesPerLine.toNat < fmt.bytesPerLine.toNat := by
      have split := Nat.div_add_mod (len.toNat - i * fmt.bytesPerLine.toNat) fmt.bytesPerWord.toNat
      have rest := Nat.mod_lt (len.toNat - i * fmt.bytesPerLine.toNat) within.positive
      rw [Nat.mul_comm] at split
      rw [Nat.succ_mul] at behind
      omega
    rw [last short]
    exact ⟨by omega, by omega, behind, counts⟩
  · rintro ⟨ends, left, behind, counts⟩
    have short : len.toNat - i * fmt.bytesPerLine.toNat < fmt.bytesPerLine.toNat := by
      have different : len.toNat ≠ i * fmt.bytesPerLine.toNat + fmt.bytesPerLine.toNat := by
        intro whole
        apply left
        rw [whole, <- Nat.succ_mul]
        exact Nat.mul_mod_left _ _
      omega
    rw [last short] at behind
    exact ⟨behind, counts⟩

/-- A line that is not padded is dumped whatever the sink answers. -/
theorem LineWithin.dumpLine_isSome (out : Sink σ) (within : LineWithin fmt buf len line)
    (complete : ¬ (leftWords fmt len line < lineWords fmt ∧ fmt.charsPerLine ≠ 0))
    (enough : 2 ^ 32 <= rounds) (state : σ) (bytesWritten : BitVec 32) :
    (dumpLine out fmt buf len rounds line state bytesWritten).isSome = true := by
  have small := within.small
  have reached : line.toNat + (0 : BitVec 32).toNat <= len.toNat := Nat.le_of_lt within.begun
  rcases within.glyphTexts fmt.bytesPerLine.toNat [] reached with ⟨glyphs, printed, _⟩
  have words : printedWords fmt len line < rounds := by
    have quotient := Nat.div_le_self (len.toNat - line.toNat) fmt.bytesPerWord.toNat
    unfold printedWords leftWords
    omega
  rw [dumpLine_eq, within.wordTexts_zero, if_pos words, Option.bind_some, printed]
  dsimp only
  by_cases padded : leftWords fmt len line < lineWords fmt
  · have none : fmt.charsPerLine = 0 := not_not.mp (not_and.mp complete padded)
    rcases rounds with _ | rounds
    · omega
    · have done : forall count : BitVec 32, ¬ count < 0 := fun count => Nat.not_lt_zero _
      rw [if_pos (decide_eq_true padded), padLine, none, if_neg (done _)]
      rfl
  · rw [decide_eq_false padded, if_neg Bool.false_ne_true]
    rfl

theorem GaveUp.emit {out : Sink σ} {state : σ} (gaveUp : GaveUp out state) (texts : List Text) :
    Print.emit out texts state = (state, 0) := by
  induction texts with
  | nil => rfl
  | cons text texts ih =>
      rw [Print.emit, gaveUp text]
      dsimp only
      rw [ih]
      rfl

theorem GaveUp.padLine {out : Sink σ} {state : σ} (gaveUp : GaveUp out state)
    (charsPerLine : BitVec 32) (counts : charsPerLine ≠ 0) (rounds : Nat) :
    Print.padLine out charsPerLine rounds state 0 = none := by
  induction rounds with
  | zero => rfl
  | succ rounds ih =>
      have short : (0 : BitVec 32) < charsPerLine := by
        refine Nat.pos_of_ne_zero (fun zero => counts (BitVec.eq_of_toNat_eq zero))
      have few : (if 16 < charsPerLine - 0 then 16 else charsPerLine - 0).toNat <=
          spaces.length := by
        split
        · exact Nat.le_refl 16
        · next less => exact Nat.le_of_not_lt less
      rw [Print.padLine, if_pos short]
      dsimp only
      rw [baseFprintf_of out state (vfprintf_text _ 0 spaces few), gaveUp.emit]
      exact ih

/-- A line that is padded is never dumped where the sink has no room. -/
theorem LineWithin.dumpLine_gaveUp {out : Sink σ} {state : σ} (gaveUp : GaveUp out state)
    (within : LineWithin fmt buf len line)
    (padded : leftWords fmt len line < lineWords fmt ∧ fmt.charsPerLine ≠ 0) (rounds : Nat)
    (bytesWritten : BitVec 32) :
    dumpLine out fmt buf len rounds line state bytesWritten = none := by
  rw [dumpLine_eq, within.wordTexts_zero]
  split
  · rw [Option.bind_some]
    dsimp only
    rw [gaveUp.emit, gaveUp.emit, if_pos (decide_eq_true padded.1), gaveUp.padLine _ padded.2]
    rfl
  · rfl

/-- A line leaves a sink without room as it is. -/
theorem GaveUp.dumpLine {out : Sink σ} {state next : σ} (gaveUp : GaveUp out state)
    (within : LineWithin fmt buf len line) (complete : ¬ leftWords fmt len line < lineWords fmt)
    {bytesWritten written : BitVec 32}
    (dumped : Print.dumpLine out fmt buf len rounds line state bytesWritten =
      some (next, written)) :
    next = state := by
  rw [dumpLine_eq, within.wordTexts_zero] at dumped
  split at dumped
  · rw [Option.bind_some] at dumped
    dsimp only at dumped
    rw [gaveUp.emit, gaveUp.emit, if_neg (by simp [complete]), Option.bind_some] at dumped
    rcases Option.map_eq_some_iff.mp dumped with ⟨glyphs, _, same⟩
    rw [gaveUp.emit] at same
    exact (congrArg Prod.fst same).symm
  · cases dumped

/-- The loop over lines comes to its end where no line is padded. -/
theorem DumpWithin.lineLoop_isSome (out : Sink σ) (within : DumpWithin fmt buf len)
    (complete : ¬ PadsLastLine fmt len) (enough : 2 ^ 32 <= rounds) (fuel : Nat)
    (reached : i <= dumpLines fmt len) (lines : dumpLines fmt len - i < fuel) (state : σ)
    (bytesWritten : BitVec 32) :
    (lineLoop out fmt buf len rounds fuel (lineAt fmt i) state bytesWritten).isSome = true := by
  induction fuel generalizing i state bytesWritten with
  | zero => omega
  | succ fuel ih =>
      rw [lineLoop]
      split
      · next begun =>
          have inDump : i < dumpLines fmt len := by
            rw [within.lt_dumpLines, <- within.lineAt_toNat reached]
            exact begun
          have line := (within.line inDump).dumpLine_isSome out
            (fun padded => complete ((within.pads_iff inDump).mp padded).2) enough state
            bytesWritten
          rcases Option.isSome_iff_exists.mp line with ⟨⟨next, written⟩, dumped⟩
          rw [dumped, Option.bind_some, lineAt_succ]
          exact ih (by omega) (by omega) next written
      · rfl

/-- It does not where the last line is padded and the sink has no room. -/
theorem DumpWithin.lineLoop_gaveUp {out : Sink σ} {state : σ} (gaveUp : GaveUp out state)
    (within : DumpWithin fmt buf len) (pads : PadsLastLine fmt len) (rounds fuel : Nat)
    (inDump : i < dumpLines fmt len) (bytesWritten : BitVec 32) :
    lineLoop out fmt buf len rounds fuel (lineAt fmt i) state bytesWritten = none := by
  induction fuel generalizing i bytesWritten with
  | zero => rfl
  | succ fuel ih =>
      have begun : lineAt fmt i < len := by
        rw [BitVec.lt_def, within.lineAt_toNat (Nat.le_of_lt inDump)]
        exact (within.lt_dumpLines i).mp inDump
      have line := within.line inDump
      rw [lineLoop, if_pos begun]
      by_cases last : i + 1 = dumpLines fmt len
      · rw [line.dumpLine_gaveUp gaveUp ((within.pads_iff inDump).mpr ⟨last, pads⟩)]
        rfl
      · have complete : ¬ leftWords fmt len (lineAt fmt i) < lineWords fmt := by
          intro padded
          exact last ((within.pads_iff inDump).mp ⟨padded, pads.2.2⟩).1
        cases dumped : dumpLine out fmt buf len rounds (lineAt fmt i) state bytesWritten with
        | none => rfl
        | some result =>
            rcases result with ⟨next, written⟩
            have same := gaveUp.dumpLine line complete dumped
            subst same
            rw [Option.bind_some, lineAt_succ]
            exact ih (by omega) written

theorem lineAt_zero : lineAt fmt 0 = 0 := by
  unfold lineAt
  rw [Nat.zero_mul]
  rfl

/-- A dump whose last line is padded does not come to its end on a sink without room. -/
theorem DumpWithin.gaveUp {out : Sink σ} {state : σ} (gaveUp : GaveUp out state)
    (within : DumpWithin fmt buf len) (pads : PadsLastLine fmt len) (rounds : Nat) :
    baseFhexdumpWith out fmt buf len rounds state = none := by
  have some : 0 < dumpLines fmt len := by
    rw [within.lt_dumpLines, Nat.zero_mul]
    apply Nat.pos_of_ne_zero
    intro empty
    apply pads.1
    rw [empty, Nat.zero_mod]
  have stuck := within.lineLoop_gaveUp gaveUp pads rounds rounds some 0
  rw [lineAt_zero] at stuck
  exact stuck

/-- A hex dump comes to its end on every sink exactly if its last line is not padded. -/
theorem finishes_iff (held : len.toNat <= buf.length) (object : 2 * len.toNat < 2 ^ 32)
    (filled : 0 < (fmt.bytesPerWord * fmt.wordsPerLine).toNat) :
    (forall (σ : Type) (out : Sink σ) (state : σ), Finishes out state fmt buf len) ↔
      ¬ PadsLastLine fmt len := by
  have positive : 0 < fmt.bytesPerWord.toNat := by
    apply Nat.pos_of_ne_zero
    intro zero
    rw [BitVec.toNat_mul, zero, Nat.zero_mul] at filled
    exact absurd filled (by decide)
  have within : DumpWithin fmt buf len := ⟨held, object, positive, filled⟩
  constructor
  · intro finishes pads
    have gaveUp : GaveUp (fun (_ : Unit) _ => ((), 0)) () := fun _ => rfl
    rcases finishes Unit _ () with ⟨rounds, finished⟩
    rw [within.gaveUp gaveUp pads rounds] at finished
    cases finished
  · intro complete σ out state
    refine ⟨2 ^ 32 + dumpLines fmt len, ?_⟩
    have run := within.lineLoop_isSome out complete (Nat.le_add_right (2 ^ 32) (dumpLines fmt len))
      (2 ^ 32 + dumpLines fmt len) (Nat.zero_le _) (by omega) state 0
    rw [lineAt_zero] at run
    exact run

end

theorem finishes_iff_complete :
    (forall (σ : Type) (out : Sink σ) (state : σ),
      Finishes out state kBaseHexdumpDefaultFmt (List.replicate 16 0x61) 16) ↔
      ¬ PadsLastLine kBaseHexdumpDefaultFmt 16 :=
  finishes_iff (by decide) (by decide) (by decide)

/-- The dump of a single byte does not come to its end in a buffer without room. -/
theorem snhexdump_stuck (rounds : Nat) :
    baseSnhexdumpWith rounds 0 kBaseHexdumpDefaultFmt [0x61] 1 = none := by
  have within : DumpWithin kBaseHexdumpDefaultFmt [0x61] 1 :=
    ⟨by decide, by decide, by decide, by decide⟩
  have pads : PadsLastLine kBaseHexdumpDefaultFmt 1 := ⟨by decide, by decide, by decide⟩
  have gaveUp : GaveUp snprintfSink ([], 0) := fun _ => rfl
  unfold baseSnhexdumpWith
  rw [within.gaveUp gaveUp pads rounds]
  rfl

/-- So not every dump comes to its end on every sink. -/
theorem not_finishes_full :
    ¬ forall (σ : Type) (out : Sink σ) (state : σ),
      Finishes out state kBaseHexdumpDefaultFmt [0x61] 1 := by
  intro finishes
  rcases finishes _ snprintfSink ([], 0) with ⟨rounds, finished⟩
  have stuck := snhexdump_stuck rounds
  unfold baseSnhexdumpWith at stuck
  rw [Option.map_eq_none_iff.mp stuck] at finished
  cases finished

end Print
end SunburstChip
