import SunburstChip.Lib.Memory
import SunburstChip.Runtime.HexdumpTexts

namespace SunburstChip
namespace Print

/-!
# Printing to a buffer

`base_snprintf` prints to a sink that copies what it is given to a buffer for as
long as there is room.  The sink keeps being called when there is none left, and
what it then answers counts for the result.

A text that is handed to a sink is part of an object, or made in a local buffer.
Neither is larger than a `size_t` can tell.
-/

/-- `snprintf_captures_t`, and the memory that `buf` points to. -/
structure SnprintfCaptures where
  main : MainMemory
  buf : Nat
  bytesLeft : BitVec 32

/-- `memcpy` of a text. -/
def memcpyText (dest : Nat) (text : Text) (main : MainMemory) : MainMemory :=
  ⟨main.memory.store dest text, main.accesses ++ [.store dest text.length]⟩

/-- `snprintf_sink` -/
def snprintfMemorySink : Sink SnprintfCaptures := fun captures text =>
  if captures.bytesLeft = 0 then (captures, 0)
  else
    let len :=
      if captures.bytesLeft < .ofNat 32 text.length then captures.bytesLeft
      else .ofNat 32 text.length
    ({ main := memcpyText captures.buf (text.take len.toNat) captures.main
       buf := captures.buf + len.toNat
       bytesLeft := captures.bytesLeft - len }, len)

/-- `base_snprintf`: memory, and the result. -/
def baseSnprintf (memory : Memory) (buf : Nat) (len : BitVec 32) (format : Text)
    (args : List Arg) : Option (MainMemory × BitVec 32) :=
  (baseVfprintf snprintfMemorySink ⟨⟨memory, []⟩, buf, len⟩ format args).map
    (fun (captures, written) => (captures.main, written))

/-- An access that writes nothing outside of a buffer. -/
def WritesWithin (buf len : Nat) : MemoryAccess -> Prop
  | .load _ _ => True
  | .store address size => buf <= address ∧ address + size <= buf + len

/-- A number of cells that an object can have. -/
def Addressable (cells : Text) : Prop := cells.length < 2 ^ 32

/-- Nor is there more behind the pointers of the arguments. -/
def AddressableArgs (args : List Arg) : Prop :=
  forall address cells, .pointer address cells ∈ args -> Addressable cells

/-! ## Sizes of texts -/

variable {cells text glyphs format : Text} {padding : BitVec 8} {texts : List Text}
  {args rest : List Arg}

theorem addressable_of_le (held : Addressable cells) (shorter : text.length <= cells.length) :
    Addressable text :=
  Nat.lt_of_le_of_lt shorter held

/-- What fits in a local buffer. -/
theorem addressable_of_small (small : text.length <= 64) : Addressable text :=
  Nat.lt_of_le_of_lt small (by decide)

theorem digitsLoop_room {base : BitVec 32} {room : Nat} {value : BitVec 32} {written : Text}
    (result : digitsLoop base glyphs room value text = some written) :
    written.length <= text.length + room := by
  induction room generalizing value text with
  | zero =>
      rw [digitsLoop] at result
      split at result
      · cases result
        exact Nat.le_refl _
      · cases result
  | succ room ih =>
      rw [digitsLoop] at result
      split at result
      · cases result
        omega
      · have behind := ih result
        rw [List.length_cons] at behind
        omega

theorem addressable_writeDigits {value : BitVec 32} {width : Nat} {base : BitVec 32}
    (written : writeDigits value width padding base glyphs = some text) : Addressable text := by
  rcases Option.map_eq_some_iff.mp written with ⟨digits, made, rfl⟩
  have few : digits.length <= 32 := by
    split at made
    · cases made
      exact (by decide : 1 <= 32)
    · have room := digitsLoop_room made
      rw [List.length_nil] at room
      omega
  apply addressable_of_small
  rw [List.length_append, List.length_replicate]
  omega

theorem untilNul_length (found : untilNul cells = some text) :
    text.length <= cells.length := by
  induction cells generalizing text with
  | nil => cases found
  | cons c cells ih =>
      rw [untilNul] at found
      split at found
      · cases found
        exact Nat.zero_le _
      · rcases Option.map_eq_some_iff.mp found with ⟨behind, further, rfl⟩
        exact Nat.succ_le_succ (ih further)

theorem firstChars_length {len : BitVec 32} (found : firstChars len cells = some text) :
    text.length <= cells.length := by
  unfold firstChars at found
  split at found
  · cases found
    rw [List.length_take]
    exact Nat.min_le_right _ _
  · cases found

theorem padLoop_small {fuel width : Nat} (inside : text ∈ padLoop padding fuel width) :
    text.length <= 32 := by
  induction fuel generalizing width with
  | zero => cases inside
  | succ fuel ih =>
      rw [padLoop] at inside
      split at inside
      · cases inside
      · rcases List.mem_cons.mp inside with rfl | further
        · rw [List.length_replicate]
          split
          · exact Nat.le_refl 32
          · omega
        · exact ih further

/-- The buffer of a dump takes whole bytes until it is full. -/
theorem dumpLoop_small {bytes buf : Text} (even : buf.length % 2 = 0) (room : buf.length < 32)
    (inside : text ∈ dumpLoop glyphs bytes buf) : text.length <= 32 := by
  induction bytes generalizing buf with
  | nil =>
      rw [dumpLoop] at inside
      split at inside
      · cases inside
      · rw [List.mem_singleton.mp inside]
        omega
  | cons byte bytes ih =>
      have grown : (buf ++ hexByte glyphs byte).length = buf.length + 2 := List.length_append
      rw [dumpLoop] at inside
      split at inside
      · next full =>
          rcases List.mem_cons.mp inside with rfl | further
          · exact Nat.le_of_eq full
          · exact ih (by decide) (by decide) further
      · exact ih (by omega) (by omega) inside

theorem statusCodes_small : forall code, code ∈ statusCodes -> code.length <= 64 := by decide

/-- All texts that are made for a specifier can be handed to a sink. -/
def AllAddressable (texts : List Text) : Prop := forall text, text ∈ texts -> Addressable text

theorem AllAddressable.append {front back : List Text} (first : AllAddressable front)
    (second : AllAddressable back) : AllAddressable (front ++ back) := by
  intro text inside
  rcases List.mem_append.mp inside with before | behind
  · exact first text before
  · exact second text behind

theorem allAddressable_single (fits : Addressable text) :
    AllAddressable [text] := by
  intro other inside
  rw [List.mem_singleton.mp inside]
  exact fits

theorem allAddressable_small (small : forall text, text ∈ texts -> text.length <= 64) :
    AllAddressable texts :=
  fun text inside => addressable_of_small (small text inside)

theorem allAddressable_writeStatus {value : Status} {asJson : Bool}
    (written : writeStatus value asJson = some texts) : AllAddressable texts := by
  have code : (statusExtract value).code.length <= 64 := by
    change (statusCodes.getD _ []).length <= 64
    generalize (if value.value.msb ∧ statusErr value = 0 then statusCodes.length - 1
      else (statusErr value).toNat) = err
    rw [List.getD_eq_getElem?_getD]
    cases found : statusCodes[err]? with
    | none => exact Nat.zero_le 64
    | some name => exact statusCodes_small name (List.mem_of_getElem? found)
  have module' : forall name, (statusExtract value).modId = some name -> name.length = 3 := by
    intro name found
    unfold statusExtract at found
    dsimp only at found
    generalize (if value.value.msb ∧ statusErr value = 0 then statusCodes.length - 1
      else (statusErr value).toNat) = err at found
    by_cases none : err = 0
    · rw [if_neg (not_not.mpr none)] at found
      cases found
    · rw [if_pos none] at found
      cases found
      rfl
  rcases Option.map_eq_some_iff.mp written with ⟨arg, made, rfl⟩
  have digits := addressable_writeDigits made
  have quote : forall literal : String, literal.length <= 64 -> Addressable (ascii literal) := by
    intro literal few
    apply addressable_of_small
    rw [ascii, List.length_map]
    exact few
  apply AllAddressable.append
  · apply AllAddressable.append
    · intro text inside
      simp only [List.mem_cons, List.not_mem_nil, or_false] at inside
      rcases inside with rfl | rfl | rfl | rfl
      · exact quote _ (by split <;> decide)
      · exact addressable_of_small code
      · exact quote _ (by split <;> decide)
      · exact quote _ (by decide)
    · intro text inside
      split at inside
      · next name found =>
          simp only [List.mem_cons, List.not_mem_nil, or_false] at inside
          rcases inside with rfl | rfl | rfl | rfl
          · exact quote _ (by decide)
          · apply addressable_of_small
            rw [List.length_append, List.length_append, module' name found]
            decide
          · exact digits
          · exact quote _ (by decide)
      · rw [List.mem_singleton.mp inside]
        exact digits
  · exact allAddressable_single (quote _ (by split <;> decide))

theorem fourCcByte_small (ch : BitVec 8) : forall text, text ∈ fourCcByte ch ->
    text.length <= 64 := by
  unfold fourCcByte
  split
  · simp
  · simp [ascii]

theorem allAddressable_hexDump {len width : BitVec 32} {bigEndian : Bool}
    (written : hexDump cells len width padding bigEndian glyphs = some texts) :
    AllAddressable texts := by
  rcases Option.map_eq_some_iff.mp written with ⟨bytes, _, rfl⟩
  apply allAddressable_small
  intro text inside
  rcases List.mem_append.mp inside with padded | dumped
  · split at padded
    · have few := padLoop_small padded
      omega
    · cases padded
  · have few := dumpLoop_small (by decide) (by decide) dumped
    omega

/-- What a branch prints is addressable where its argument is. -/
def Branch.Bounded : Branch -> Prop
  | .nothing texts => AllAddressable texts
  | .word print => forall value texts, print value = some texts -> AllAddressable texts
  | .pointer print | .buffer print => forall value cells texts, Addressable cells ->
      print value cells = some texts -> AllAddressable texts

theorem FormatSpecifier.digits_bounded (spec : FormatSpecifier) (base : BitVec 32)
    (glyphs : Text) : (spec.digits base glyphs).Bounded := by
  intro value texts printed
  rcases Option.map_eq_some_iff.mp printed with ⟨text, written, rfl⟩
  exact allAddressable_single (addressable_writeDigits written)

theorem FormatSpecifier.dump_bounded (spec : FormatSpecifier) (bigEndian : Bool)
    (glyphs : Text) : (spec.dump bigEndian glyphs).Bounded :=
  fun _ _ _ _ printed => allAddressable_hexDump printed

theorem badSpec_bounded : badSpec.Bounded := allAddressable_small (by decide)

theorem Branch.ite_bounded {condition : Prop} [Decidable condition] {branch other : Branch}
    (pos : branch.Bounded) (neg : other.Bounded) :
    (if condition then branch else other).Bounded := by
  split
  · exact pos
  · exact neg

theorem FormatSpecifier.branch_bounded (spec : FormatSpecifier) : spec.branch.Bounded := by
  have bad := badSpec_bounded
  have digits := spec.digits_bounded
  have dump := spec.dump_bounded
  unfold FormatSpecifier.branch
  refine Branch.ite_bounded (Branch.ite_bounded bad (allAddressable_small (by decide))) ?_
  apply Branch.ite_bounded
  · apply Branch.ite_bounded bad
    intro value texts printed
    cases printed
    exact allAddressable_small (by simp)
  apply Branch.ite_bounded
  · intro value texts printed
    cases printed
    apply allAddressable_small
    intro text inside
    simp only [fourCc, List.mem_append] at inside
    rcases inside with ((first | second) | third) | fourth
    · exact fourCcByte_small _ text first
    · exact fourCcByte_small _ text second
    · exact fourCcByte_small _ text third
    · exact fourCcByte_small _ text fourth
  apply Branch.ite_bounded
  · apply Branch.ite_bounded
    · intro len cells texts held printed
      rcases Option.map_eq_some_iff.mp printed with ⟨text, found, rfl⟩
      exact allAddressable_single (addressable_of_le held (firstChars_length found))
    · intro address cells texts held printed
      rcases Option.map_eq_some_iff.mp printed with ⟨text, found, rfl⟩
      exact allAddressable_single (addressable_of_le held (untilNul_length found))
  apply Branch.ite_bounded
  · apply Branch.ite_bounded bad
    intro value texts printed
    rcases Option.map_eq_some_iff.mp printed with ⟨text, written, rfl⟩
    apply AllAddressable.append
    · split
      · exact allAddressable_small (by decide)
      · exact allAddressable_small (by simp)
    · exact allAddressable_single (addressable_writeDigits written)
  apply Branch.ite_bounded
  · exact Branch.ite_bounded bad (digits _ _)
  apply Branch.ite_bounded
  · apply Branch.ite_bounded bad
    intro address cells texts held printed
    rcases Option.map_eq_some_iff.mp printed with ⟨text, written, rfl⟩
    have sign : AllAddressable [ascii "0x"] := allAddressable_small (by decide)
    exact sign.append (allAddressable_single (addressable_writeDigits written))
  apply Branch.ite_bounded
  · exact Branch.ite_bounded (dump _ _) (digits _ _)
  apply Branch.ite_bounded (digits _ _)
  apply Branch.ite_bounded
  · exact Branch.ite_bounded (dump _ _) (digits _ _)
  apply Branch.ite_bounded (digits _ _)
  apply Branch.ite_bounded
  · exact Branch.ite_bounded (dump _ _) bad
  apply Branch.ite_bounded
  · exact Branch.ite_bounded (dump _ _) bad
  apply Branch.ite_bounded
  · exact Branch.ite_bounded bad (digits _ _)
  apply Branch.ite_bounded
  · apply Branch.ite_bounded
    · intro value texts printed
      cases printed
      apply allAddressable_small
      intro text inside
      rw [List.mem_singleton.mp inside]
      split
      · decide
      · decide
    · exact digits _ _
  apply Branch.ite_bounded _ bad
  intro value texts printed
  exact allAddressable_writeStatus printed

/-! ## The texts of a format -/

theorem AddressableArgs.of_takes {kinds : List Kind} (held : AddressableArgs args)
    (taken : Takes kinds args rest) : AddressableArgs rest := by
  rcases taken with ⟨front, rfl, _⟩
  exact fun address cells inside => held address cells (List.mem_append_right front inside)

theorem vaPointer_held {value : BitVec 32 × Text} (held : AddressableArgs args)
    (taken : vaPointer args = some (value, rest)) :
    Addressable value.2 := by
  unfold vaPointer at taken
  split at taken
  · cases taken
    exact held _ _ List.mem_cons_self
  · cases taken

theorem processSpecifier_addressable {spec : FormatSpecifier} (held : AddressableArgs args)
    (printed : processSpecifier spec args = some (texts, rest)) :
    AllAddressable texts ∧ AddressableArgs rest := by
  have bounded := spec.branch_bounded
  have taken := Branch.run_takes printed
  constructor
  · unfold processSpecifier at printed
    cases shape : spec.branch with
    | nothing made =>
        rw [shape] at bounded printed
        cases printed
        exact bounded
    | word print =>
        rw [shape] at bounded printed
        rcases Option.bind_eq_some_iff.mp printed with ⟨⟨value, behind⟩, _, printed⟩
        rcases Option.map_eq_some_iff.mp printed with ⟨made, written, same⟩
        cases same
        exact bounded value texts written
    | pointer print =>
        rw [shape] at bounded printed
        rcases Option.bind_eq_some_iff.mp printed with ⟨⟨value, behind⟩, pointer, printed⟩
        rcases Option.map_eq_some_iff.mp printed with ⟨made, written, same⟩
        cases same
        exact bounded _ _ _ (vaPointer_held held pointer) written
    | buffer print =>
        rw [shape] at bounded printed
        rcases Option.bind_eq_some_iff.mp printed with ⟨⟨len, between⟩, size, printed⟩
        rcases Option.bind_eq_some_iff.mp printed with ⟨⟨value, behind⟩, pointer, printed⟩
        rcases Option.map_eq_some_iff.mp printed with ⟨made, written, same⟩
        cases same
        exact bounded _ _ _ (vaPointer_held (held.of_takes (vaSize_takes size)) pointer) written
  · exact held.of_takes taken

theorem untilPercent_length {behind : Text} (found : untilPercent format = some (text, behind)) :
    text.length + behind.length = format.length := by
  induction format generalizing text behind with
  | nil => cases found
  | cons c format ih =>
      rw [untilPercent] at found
      split at found
      · cases found
        exact Nat.zero_add _
      · rcases Option.map_eq_some_iff.mp found with ⟨⟨front, rest⟩, further, same⟩
        cases same
        have lengths := ih further
        change front.length + 1 + rest.length = format.length + 1
        omega

theorem widthLoop_length {rest : Text} {spec spec' : FormatSpecifier} {c : BitVec 8}
    (read : widthLoop format spec = some (spec', c, rest)) : rest.length < format.length := by
  induction format generalizing spec with
  | nil => cases read
  | cons d format ih =>
      rw [widthLoop] at read
      split at read
      · cases read
        exact Nat.lt_succ_self _
      · split at read
        · exact Nat.lt_succ_of_lt (ih read)
        · cases read
          exact Nat.lt_succ_self _

/-- A specifier is part of its format, and what stands for one that is refused is small. -/
theorem consumeFormatSpecifier_length {consumed : Consumed}
    (read : consumeFormatSpecifier format = some consumed) :
    match consumed with
    | .accepted _ behind => behind.length <= format.length
    | .refused marker _ => marker.length <= 64 := by
  unfold consumeFormatSpecifier at read
  split at read
  · cases read
  · next percent format =>
      dsimp only at read
      rcases Option.map_eq_some_iff.mp read with ⟨⟨spec, c, behind⟩, scan, same⟩
      dsimp only at same
      split at same
      · cases same
        exact (by decide : kErrorNul.length <= 64)
      · split at same
        · cases same
          exact (by decide : kErrorTooWide.length <= 64)
        · cases same
          have shorter := widthLoop_length scan
          have tail : (if decide (format.head? = some bang) = true then format.tail
              else format).length <= format.length := by
            split
            · rw [List.length_tail]
              exact Nat.sub_le _ _
            · exact Nat.le_refl _
          change behind.length <= format.length + 1
          omega

theorem vfprintfLoop_addressable {fuel : Nat} (object : Addressable format)
    (held : AddressableArgs args) (printed : vfprintfLoop fuel format args = some (texts, rest)) :
    AllAddressable texts := by
  induction fuel generalizing format args texts with
  | zero => cases printed
  | succ fuel ih =>
      rcases Option.bind_eq_some_iff.mp printed with ⟨⟨text, position⟩, found, printed⟩
      have lengths := untilPercent_length found
      have literal : AllAddressable (if text = [] then [] else [text]) := by
        split
        · exact allAddressable_small (by simp)
        · exact allAddressable_single (addressable_of_le object (by omega))
      dsimp only at printed
      split at printed
      · cases printed
        exact literal
      · rcases Option.bind_eq_some_iff.mp printed with ⟨consumed, read, printed⟩
        have shorter := consumeFormatSpecifier_length read
        cases consumed with
        | refused marker behind =>
            cases printed
            exact literal.append (allAddressable_single (addressable_of_small shorter))
        | accepted spec behind =>
            rcases Option.bind_eq_some_iff.mp printed with ⟨⟨made, between⟩, processed, printed⟩
            rcases Option.map_eq_some_iff.mp printed with ⟨⟨_, _⟩, further, same⟩
            cases same
            rcases processSpecifier_addressable held processed with ⟨fits, held⟩
            have left : Addressable behind := addressable_of_le object (by
              dsimp only at shorter
              omega)
            exact (literal.append fits).append (ih left held further)

/-! ## The sink -/

/-- What the sink has made of an output: the buffer holds as much of it as there is room
for. -/
structure Captured (memory : Memory) (buf : Nat) (len : BitVec 32) (output : Text)
    (captures : SnprintfCaptures) : Prop where
  memory_eq : captures.main.memory = memory.store buf (output.take len.toNat)
  buf_eq : captures.buf = buf + min len.toNat output.length
  left : captures.bytesLeft.toNat = len.toNat - output.length
  within : forall access, access ∈ captures.main.accesses -> WritesWithin buf len.toNat access

section

variable {memory : Memory} {buf : Nat} {len : BitVec 32} {output : Text}
variable {captures : SnprintfCaptures}

theorem captured_start : Captured memory buf len [] ⟨⟨memory, []⟩, buf, len⟩ where
  memory_eq := by simp
  buf_eq := by simp
  left := rfl
  within := fun _ inside => by cases inside

/-- One more text. -/
theorem Captured.step (captured : Captured memory buf len output captures) {text : Text}
    (fits : Addressable text) :
    Captured memory buf len (output ++ text) (snprintfMemorySink captures text).1 ∧
    min len.toNat output.length + (snprintfMemorySink captures text).2.toNat =
      min len.toNat (output ++ text).length := by
  have left := captured.left
  have size : (BitVec.ofNat 32 text.length).toNat = text.length := Nat.mod_eq_of_lt fits
  unfold snprintfMemorySink
  split
  · next full =>
      have none : len.toNat <= output.length := by
        rw [full] at left
        change 0 = _ at left
        omega
      have same : (output ++ text).take len.toNat = output.take len.toNat :=
        List.take_append_of_le_length none
      have room : min len.toNat (output ++ text).length = min len.toNat output.length := by
        rw [List.length_append]
        omega
      refine ⟨⟨by rw [same]; exact captured.memory_eq, by rw [room]; exact captured.buf_eq, ?_,
        captured.within⟩, room.symm⟩
      change captures.bytesLeft.toNat = _
      rw [List.length_append]
      omega
  · next some =>
      have taken : (if captures.bytesLeft < .ofNat 32 text.length then captures.bytesLeft
          else .ofNat 32 text.length).toNat = min (len.toNat - output.length) text.length := by
        split
        · next short =>
            rw [BitVec.lt_def, size, left] at short
            omega
        · next long =>
            rw [BitVec.lt_def, size, left] at long
            omega
      dsimp only
      generalize (if captures.bytesLeft < .ofNat 32 text.length then captures.bytesLeft
        else .ofNat 32 text.length) = count at taken ⊢
      have position : captures.buf = buf + (output.take len.toNat).length := by
        rw [List.length_take]
        exact captured.buf_eq
      have piece : text.take count.toNat = text.take (len.toNat - output.length) := by
        apply List.take_eq_take_iff.mpr
        omega
      have room : min len.toNat output.length + count.toNat =
          min len.toNat (output ++ text).length := by
        rw [taken, List.length_append]
        omega
      refine ⟨⟨?_, ?_, ?_, ?_⟩, room⟩
      · change captures.main.memory.store captures.buf (text.take count.toNat) = _
        rw [captured.memory_eq, position, Memory.store_append, piece, List.take_append]
      · change captures.buf + count.toNat = _
        rw [captured.buf_eq, Nat.add_assoc, room]
      · have fits : count <= captures.bytesLeft := by
          rw [BitVec.le_def]
          omega
        change (captures.bytesLeft - count).toNat = _
        rw [BitVec.toNat_sub_of_le fits, List.length_append]
        omega
      · intro access inside
        rcases List.mem_append.mp inside with before | now
        · exact captured.within access before
        · rw [List.mem_singleton.mp now]
          have begun := captured.buf_eq
          constructor
          · omega
          · rw [List.length_take]
            omega

/-- A number of texts. -/
theorem Captured.emit (captured : Captured memory buf len output captures) {texts : List Text}
    (fits : AllAddressable texts) :
    Captured memory buf len (output ++ texts.flatten)
      (Print.emit snprintfMemorySink texts captures).1 ∧
    min len.toNat output.length + (Print.emit snprintfMemorySink texts captures).2.toNat =
      min len.toNat (output ++ texts.flatten).length := by
  induction texts generalizing output captures with
  | nil =>
      rw [List.flatten_nil, List.append_nil]
      exact ⟨captured, rfl⟩
  | cons text texts ih =>
      rcases captured.step (fits text List.mem_cons_self) with ⟨next, count⟩
      rcases ih next (fun other inside => fits other (List.mem_cons_of_mem text inside)) with
        ⟨last, more⟩
      rw [List.flatten_cons, <- List.append_assoc]
      refine ⟨last, ?_⟩
      have bound := len.isLt
      have total : ((snprintfMemorySink captures text).2 +
          (Print.emit snprintfMemorySink texts (snprintfMemorySink captures text).1).2).toNat =
          (snprintfMemorySink captures text).2.toNat +
          (Print.emit snprintfMemorySink texts (snprintfMemorySink captures text).1).2.toNat := by
        rw [BitVec.toNat_add]
        apply Nat.mod_eq_of_lt
        omega
      change _ + ((snprintfMemorySink captures text).2 +
        (Print.emit snprintfMemorySink texts (snprintfMemorySink captures text).1).2).toNat = _
      rw [total]
      omega

end

/-- A buffer gets what an output begins with, as much as it has room for, and nothing
is written outside of it. -/
theorem snprintf_truncates (memory : Memory) (buf : Nat) (len : BitVec 32) {format : Text}
    {args : List Arg} (object : Addressable format) (held : AddressableArgs args)
    {output : Text} {written : BitVec 32}
    (printed : baseVfprintf acceptAll [] format args = some (output, written)) :
    Exists fun main => Exists fun stored =>
      baseSnprintf memory buf len format args = some (main, stored) ∧
      stored.toNat = min len.toNat output.length ∧
      main.memory = memory.store buf (output.take len.toNat) ∧
      forall access, access ∈ main.accesses -> WritesWithin buf len.toNat access := by
  rcases Option.map_eq_some_iff.mp printed with ⟨⟨texts, rest⟩, made, same⟩
  have fits := vfprintfLoop_addressable object held made
  have outcome := (@captured_start memory buf len).emit fits
  dsimp only at same
  rw [emit_acceptAll] at same
  cases same
  rw [List.length_nil, Nat.min_zero, Nat.zero_add] at outcome
  unfold baseSnprintf baseVfprintf
  rw [made]
  exact ⟨_, _, rfl, outcome.2, outcome.1.memory_eq, outcome.1.within⟩

theorem snprintf_truncates_short :
    Exists fun main => Exists fun stored =>
      baseSnprintf (fun _ => 0) 16 3 (ascii "%d-%s" ++ [0])
        [.word 42, .pointer 64 (ascii "abc" ++ [0])] = some (main, stored) ∧
      stored.toNat = min (3 : BitVec 32).toNat (ascii "42-abc").length ∧
      main.memory = Memory.store (fun _ => 0) 16 ((ascii "42-abc").take (3 : BitVec 32).toNat) ∧
      forall access, access ∈ main.accesses -> WritesWithin 16 (3 : BitVec 32).toNat access := by
  have object : Addressable (ascii "%d-%s" ++ [0]) := by unfold Addressable; decide
  have held : AddressableArgs [.word 42, .pointer 64 (ascii "abc" ++ [0])] := by
    intro address cells inside
    have same : Arg.pointer address cells = .pointer 64 (ascii "abc" ++ [0]) := by
      simpa using inside
    cases same
    unfold Addressable
    decide
  have printed : baseVfprintf acceptAll [] (ascii "%d-%s" ++ [0])
      [.word 42, .pointer 64 (ascii "abc" ++ [0])] = some (ascii "42-abc", 6) := by
    decide +kernel
  exact snprintf_truncates (fun _ => 0) 16 3 object held printed

end Print
end SunburstChip
