import Mathlib.Data.List.Pairwise
import SunburstChip.Util.ExtractSwLogs

namespace SunburstChip
namespace ExtractSwLogs

open Strip

/-!
# Which string is found

What is stored for a section is one entry for each of its runs: bytes other than
NUL, as many as there are between two NULs.  A byte lies in one run of one
section at most, so the first entry that has its address is the only one.
-/

/-! ## Runs of a section -/

/-- Bytes that are not NUL, with a NUL behind them and none right before them. -/
structure Run (data : List Byte) (start stop : Nat) : Prop where
  some : start < stop
  bytes : forall i, start <= i -> i < stop -> data[i]? ≠ .some 0
  ends : data[stop]? = .some 0
  begins : start = 0 ∨ data[start - 1]? = .some 0

section

variable {data : List Byte} {start stop : Nat}

theorem lt_length {i : Nat} {byte : Byte} (found : data[i]? = some byte) : i < data.length :=
  (List.getElem?_eq_some_iff.mp found).1

theorem findNul_some (found : findNul data start = some stop) :
    start <= stop ∧ data[stop]? = some 0 ∧
      forall i, start <= i -> i < stop -> data[i]? ≠ some 0 := by
  rcases Option.map_eq_some_iff.mp found with ⟨count, first, rfl⟩
  rcases List.findIdx?_eq_some_iff_getElem.mp first with ⟨inside, nul, earlier⟩
  rw [List.length_drop] at inside
  rw [List.getElem_drop, beq_iff_eq] at nul
  refine ⟨Nat.le_add_right _ _, List.getElem?_eq_some_iff.mpr ⟨by omega, nul⟩, ?_⟩
  intro i low high zero
  rcases List.getElem?_eq_some_iff.mp zero with ⟨_, byte⟩
  have other := earlier (i - start) (by omega)
  have position : start + (i - start) = i := by omega
  simp only [List.getElem_drop, position, byte, beq_self_eq_true, not_true] at other

theorem findNul_none (missing : findNul data start = none) {i : Nat} (behind : start <= i) :
    data[i]? ≠ some 0 := by
  intro zero
  rcases List.getElem?_eq_some_iff.mp zero with ⟨inside, byte⟩
  have position : start + (i - start) = i := by omega
  have member : (0 : Byte) ∈ data.drop start := by
    rw [List.mem_iff_getElem?]
    refine ⟨i - start, ?_⟩
    rw [List.getElem?_drop, position]
    exact zero
  have other := List.findIdx?_eq_none_iff.mp (Option.map_eq_none_iff.mp missing) 0 member
  exact absurd other (by decide)

/-- A run that begins before a byte of another one does not begin after it. -/
theorem Run.start_le {start' stop' i : Nat} (run : Run data start stop)
    (run' : Run data start' stop') (low : start <= i) (high : i < stop) (low' : start' <= i) :
    start' <= start := by
  by_contra later
  rcases run'.begins with first | nul
  · omega
  · exact run.bytes (start' - 1) (by omega) (by omega) nul

/-- Two runs with a byte in common are one. -/
theorem Run.unique {start' stop' i : Nat} (run : Run data start stop)
    (run' : Run data start' stop') (low : start <= i) (high : i < stop) (low' : start' <= i)
    (high' : i < stop') : start = start' ∧ stop = stop' := by
  have begins := Nat.le_antisymm (run'.start_le run low' high' low) (run.start_le run' low high low')
  refine ⟨begins, ?_⟩
  rcases Nat.lt_trichotomy stop stop' with shorter | same | longer
  · exact absurd run.ends (run'.bytes stop (by omega) shorter)
  · exact same
  · exact absurd run'.ends (run.bytes stop' (by omega) longer)

end

/-- The start of the run that an offset lies in. -/
def runStart (data : List Byte) : Nat -> Nat
  | 0 => 0
  | offset + 1 => if data[offset]? = some 0 then offset + 1 else runStart data offset

section

variable (data : List Byte)

theorem runStart_le (offset : Nat) : runStart data offset <= offset := by
  induction offset with
  | zero => exact Nat.le_refl 0
  | succ offset ih =>
      unfold runStart
      split
      · exact Nat.le_refl _
      · exact Nat.le_succ_of_le ih

theorem runStart_bytes (offset : Nat) {i : Nat} (low : runStart data offset <= i)
    (high : i < offset) : data[i]? ≠ some 0 := by
  induction offset with
  | zero => exact absurd high (Nat.not_lt_zero i)
  | succ offset ih =>
      unfold runStart at low
      by_cases nul : data[offset]? = some 0
      · rw [if_pos nul] at low
        omega
      · rw [if_neg nul] at low
        rcases Nat.lt_succ_iff_lt_or_eq.mp high with before | rfl
        · exact ih low before
        · exact nul

theorem runStart_begins (offset : Nat) :
    runStart data offset = 0 ∨ data[runStart data offset - 1]? = some 0 := by
  induction offset with
  | zero => exact Or.inl rfl
  | succ offset ih =>
      unfold runStart
      by_cases nul : data[offset]? = some 0
      · rw [if_pos nul]
        exact Or.inr nul
      · rw [if_neg nul]
        exact ih

variable {data}

/-- The run of an offset that is not that of a NUL. -/
theorem run_runStart {offset stop : Nat} (before : offset < stop) (ends : data[stop]? = some 0)
    (bytes : forall i, offset <= i -> i < stop -> data[i]? ≠ some 0) :
    Run data (runStart data offset) stop where
  some := Nat.lt_of_le_of_lt (runStart_le data offset) before
  bytes i low high := by
    by_cases earlier : i < offset
    · exact runStart_bytes data offset low earlier
    · exact bytes i (Nat.le_of_not_lt earlier) high
  ends := ends
  begins := runStart_begins data offset

end

/-! ## What is stored -/

/-- The entries of a section from an offset on. -/
def RoContent.Stores (content : RoContent) (strStart : Nat) (entry : Nat × Text × Nat) : Prop :=
  Exists fun start => Exists fun stop => strStart <= start ∧ Run content.data start stop ∧
    entry = content.entry start stop

section

variable {content : RoContent} {strStart strEnd : Nat} {entry : Nat × Text × Nat}

/-- A string from an offset on is the first one that is stored. -/
theorem stores_iff (begins : strStart = 0 ∨ content.data[strStart - 1]? = some 0)
    (more : strStart < strEnd) (ends : content.data[strEnd]? = some 0)
    (bytes : forall i, strStart <= i -> i < strEnd -> content.data[i]? ≠ some 0) :
    content.Stores strStart entry ↔
      entry = content.entry strStart strEnd ∨ content.Stores (strEnd + 1) entry := by
  have here : Run content.data strStart strEnd := ⟨more, bytes, ends, begins⟩
  constructor
  · rintro ⟨start, stop, low, run, rfl⟩
    by_cases inside : start < strEnd
    · rcases here.unique run low inside (Nat.le_refl _) run.some with ⟨rfl, rfl⟩
      exact Or.inl rfl
    · refine Or.inr ⟨start, stop, ?_, run, rfl⟩
      have other : start ≠ strEnd := by
        rintro rfl
        exact run.bytes start (Nat.le_refl _) run.some ends
      omega
  · rintro (rfl | ⟨start, stop, low, run, rfl⟩)
    · exact ⟨strStart, strEnd, Nat.le_refl _, here, rfl⟩
    · exact ⟨start, stop, by omega, run, rfl⟩

/-- No run begins at a NUL. -/
theorem stores_skip (nul : content.data[strStart]? = some 0) :
    content.Stores strStart entry ↔ content.Stores (strStart + 1) entry := by
  constructor
  · rintro ⟨start, stop, low, run, rfl⟩
    have other : start ≠ strStart := by
      rintro rfl
      exact run.bytes start (Nat.le_refl _) run.some nul
    exact ⟨start, stop, by omega, run, rfl⟩
  · rintro ⟨start, stop, low, run, rfl⟩
    exact ⟨start, stop, by omega, run, rfl⟩

/-- Where no NUL follows, nothing more is stored. -/
theorem stores_none (missing : forall i, strStart <= i -> content.data[i]? ≠ some 0) :
    ¬ content.Stores strStart entry := by
  rintro ⟨start, stop, low, run, _⟩
  exact missing stop (Nat.le_trans low (Nat.le_of_lt run.some)) run.ends

theorem stores_over (behind : content.size <= strStart) : ¬ content.Stores strStart entry := by
  apply stores_none
  intro i low nul
  have inside := lt_length nul
  have size := content.sized
  omega

end

/-- The loop adds the strings of the section from an offset on to what has been stored, which has
no address of the rest of the section. -/
theorem sectionStrings_spec (content : RoContent) {fuel strStart : Nat} {result : AddrStrings}
    (enough : content.size <= strStart + fuel)
    (begins : strStart = 0 ∨ content.data[strStart - 1]? = some 0)
    (fresh : forall entry, entry ∈ result -> forall offset, strStart <= offset ->
      offset < content.size -> entry.1 ≠ content.baseAddr + offset) :
    Exists fun found => sectionStrings content fuel strStart result = .ok (result ++ found) ∧
      forall entry, entry ∈ found ↔ content.Stores strStart entry := by
  induction fuel generalizing strStart result with
  | zero =>
      exact ⟨[], by simp [sectionStrings],
        fun entry => ⟨nofun, fun stores => absurd stores (stores_over enough)⟩⟩
  | succ fuel ih =>
      unfold sectionStrings
      by_cases inside : strStart < content.size
      · rw [if_pos inside]
        cases found : findNul content.data strStart with
        | none =>
            exact ⟨[], by simp, fun entry => ⟨nofun, fun stores =>
              absurd stores (stores_none (fun i low => findNul_none found low))⟩⟩
        | some strEnd =>
            rcases findNul_some found with ⟨low, ends, bytes⟩
            dsimp only
            by_cases same : strStart = strEnd
            · subst same
              rw [if_pos rfl]
              rcases @ih (strStart + 1) result (by omega) (Or.inr ends)
                (fun entry stored offset behind => fresh entry stored offset (by omega)) with
                ⟨found, run, stored⟩
              exact ⟨found, run, fun entry => (stored entry).trans (stores_skip ends).symm⟩
            · have more : strStart < strEnd := by omega
              have unused : ¬ result.any
                  (fun other => other.1 == (content.entry strStart strEnd).1) = true := by
                intro used
                rcases List.any_eq_true.mp used with ⟨other, stored, same⟩
                exact fresh other stored strStart (Nat.le_refl _) inside (beq_iff_eq.mp same)
              rw [if_neg same, if_neg unused]
              have later : forall entry, entry ∈ result ++ [content.entry strStart strEnd] ->
                  forall offset, strEnd + 1 <= offset -> offset < content.size ->
                    entry.1 ≠ content.baseAddr + offset := by
                intro entry stored offset behind within
                rcases List.mem_append.mp stored with earlier | last
                · exact fresh entry earlier offset (by omega) within
                · rw [List.mem_singleton.mp last]
                  unfold RoContent.entry
                  omega
              rcases @ih (strEnd + 1) _ (by omega) (Or.inr ends) later with ⟨found, run, stored⟩
              refine ⟨content.entry strStart strEnd :: found, ?_, ?_⟩
              · rw [run, List.append_assoc]
                rfl
              · intro entry
                rw [List.mem_cons, stored entry, stores_iff begins more ends bytes]
      · rw [if_neg inside]
        exact ⟨[], by simp, fun entry => ⟨nofun, fun stores =>
          absurd stores (stores_over (Nat.le_of_not_lt inside))⟩⟩

/-- Two sections have no address in common. -/
def RoContent.Apart (content content' : RoContent) : Prop :=
  forall addr, ¬ (content.Has addr ∧ content'.Has addr)

/-- The address of an entry is in its section. -/
theorem RoContent.Stores.has {content : RoContent} {strStart : Nat} {entry : Nat × Text × Nat}
    (stores : content.Stores strStart entry) : content.Has entry.1 := by
  rcases stores with ⟨start, stop, low, run, rfl⟩
  have inside := lt_length run.ends
  have first := run.some
  have size := content.sized
  unfold RoContent.Has RoContent.entry
  omega

theorem contentsStrings_spec {contents : List RoContent} {result : AddrStrings}
    (apart : contents.Pairwise RoContent.Apart)
    (fresh : forall entry, entry ∈ result -> forall content, content ∈ contents ->
      ¬ content.Has entry.1) :
    Exists fun found => contentsStrings contents result = .ok (result ++ found) ∧
      forall entry, entry ∈ found ↔
        Exists fun content => content ∈ contents ∧ content.Stores 0 entry := by
  induction contents generalizing result with
  | nil => exact ⟨[], by simp [contentsStrings], fun entry => by simp⟩
  | cons content contents ih =>
      rcases List.pairwise_cons.mp apart with ⟨others, rest⟩
      have own : forall entry, entry ∈ result -> forall offset, 0 <= offset ->
          offset < content.size -> entry.1 ≠ content.baseAddr + offset := by
        intro entry stored offset _ inside same
        apply fresh entry stored content List.mem_cons_self
        rw [same]
        exact ⟨Nat.le_add_right _ _, Nat.add_lt_add_left inside _⟩
      rcases @sectionStrings_spec content content.size 0 result (by omega) (Or.inl rfl) own with
        ⟨found, run, stored⟩
      have later : forall entry, entry ∈ result ++ found -> forall other, other ∈ contents ->
          ¬ other.Has entry.1 := by
        intro entry inside other member has
        rcases List.mem_append.mp inside with earlier | added
        · exact fresh entry earlier other (List.mem_cons_of_mem _ member) has
        · exact others other member entry.1 ⟨((stored entry).mp added).has, has⟩
      rcases ih rest later with ⟨found', run', stored'⟩
      refine ⟨found ++ found', ?_, ?_⟩
      · unfold contentsStrings
        rw [run]
        change contentsStrings contents (result ++ found) = _
        rw [run', List.append_assoc]
      · intro entry
        rw [List.mem_append, stored entry, stored' entry]
        simp

/-- What is stored for sections with no address in common is the strings of all of them. -/
theorem getAddrStrings_spec {contents : List RoContent}
    (apart : contents.Pairwise RoContent.Apart) :
    Exists fun addrStrings => getAddrStrings contents = .ok addrStrings ∧
      forall entry, entry ∈ addrStrings ↔
        Exists fun content => content ∈ contents ∧ content.Stores 0 entry :=
  contentsStrings_spec apart (fun _ stored => absurd stored List.not_mem_nil)

/-! ## What is found -/

/-- An address of a byte of a stored string. -/
def Covers (entry : Nat × Text × Nat) (strAddr : Nat) : Prop :=
  entry.1 <= strAddr ∧ strAddr < entry.1 + entry.2.2

theorem getStrAtAddr_missing {strAddr : Nat} {addrStrings : AddrStrings}
    (none : forall entry, entry ∈ addrStrings -> ¬ Covers entry strAddr) :
    getStrAtAddr strAddr addrStrings = .error .keyError := by
  induction addrStrings with
  | nil => rfl
  | cons entry addrStrings ih =>
      rcases entry with ⟨addr, string, length⟩
      unfold getStrAtAddr
      refine (if_neg (none _ List.mem_cons_self)).trans (ih ?_)
      exact fun entry stored => none entry (List.mem_cons_of_mem _ stored)

theorem getStrAtAddr_found {strAddr : Nat} {addrStrings : AddrStrings} {entry : Nat × Text × Nat}
    (stored : entry ∈ addrStrings) (covers : Covers entry strAddr)
    (unique : forall other, other ∈ addrStrings -> Covers other strAddr -> other = entry) :
    getStrAtAddr strAddr addrStrings =
      .ok (strip isSpace (entry.2.1.drop (strAddr - entry.1))) := by
  induction addrStrings with
  | nil => exact absurd stored List.not_mem_nil
  | cons first addrStrings ih =>
      by_cases here : Covers first strAddr
      · have same := unique first List.mem_cons_self here
        subst same
        unfold getStrAtAddr
        exact if_pos here
      · have behind : entry ∈ addrStrings := by
          rcases List.mem_cons.mp stored with rfl | behind
          · exact absurd covers here
          · exact behind
        unfold getStrAtAddr
        refine (if_neg here).trans (ih behind ?_)
        exact fun other inside => unique other (List.mem_cons_of_mem _ inside)

/-- The bytes from an offset up to the first NUL. -/
structure StringAt (data : List Byte) (offset stop : Nat) : Prop where
  starts : offset <= stop
  ends : data[stop]? = some 0
  bytes : forall i, i < stop -> offset <= i -> data[i]? ≠ some 0

/-- There is a byte before the NUL, and as many characters may be cut off the stored text as there
are bytes between its start and the offset. -/
def Meets (data : List Byte) (offset stop : Nat) : Prop :=
  offset < stop ∧
    Aligned (slice data (runStart data offset) offset) (slice data offset stop)

section

variable {data : List Byte} {start offset stop : Nat}

theorem slice_append (low : start <= offset) (high : offset <= stop) :
    slice data start offset ++ slice data offset stop = slice data start stop := by
  have lengths : stop - start = (offset - start) + (stop - offset) := by omega
  have position : start + (offset - start) = offset := by omega
  unfold slice
  rw [List.drop_take, List.drop_take, List.drop_take, lengths, List.take_add, List.drop_drop,
    position]

theorem slice_length (inside : offset <= data.length) :
    (slice data start offset).length = offset - start := by
  unfold slice
  rw [List.length_drop, List.length_take, Nat.min_eq_left inside]

end

section

variable {contents : List RoContent} {content : RoContent} {offset stop : Nat}

/-- An entry that has the address of a byte is that of the run of the byte. -/
theorem covers_run (apart : contents.Pairwise RoContent.Apart) (member : content ∈ contents)
    (inside : offset < content.size) {entry : Nat × Text × Nat}
    (stored : Exists fun other => other ∈ contents ∧ other.Stores 0 entry)
    (covers : Covers entry (content.baseAddr + offset)) :
    Exists fun start => Exists fun stop => start <= offset ∧ offset < stop ∧
      Run content.data start stop ∧ entry = content.entry start stop := by
  rcases stored with ⟨other, member', start, stop, _, run, rfl⟩
  have size := other.sized
  have ends := lt_length run.ends
  have first := run.some
  unfold Covers RoContent.entry at covers
  dsimp only at covers
  have same : content = other := by
    by_contra different
    have symmetric : Std.Symm RoContent.Apart :=
      ⟨fun _ _ apart addr both => apart addr ⟨both.2, both.1⟩⟩
    exact apart.forall member member' different (content.baseAddr + offset)
      ⟨⟨Nat.le_add_right _ _, by omega⟩, ⟨by omega, by omega⟩⟩
  subst same
  exact ⟨start, stop, by omega, by omega, run, rfl⟩

/-- The string that is found is the one from the address on exactly if there is one with a byte
and the address is aligned with the characters of the stored text. -/
theorem lookUp_iff (apart : contents.Pairwise RoContent.Apart) (member : content ∈ contents)
    (string : StringAt content.data offset stop) :
    lookUp contents (content.baseAddr + offset) = .ok (cleanText (slice content.data offset stop)) ↔
      Meets content.data offset stop := by
  have ends := lt_length string.ends
  have size := content.sized
  have starts := string.starts
  rcases getAddrStrings_spec apart with ⟨addrStrings, made, stored⟩
  have found : lookUp contents (content.baseAddr + offset) =
      getStrAtAddr (content.baseAddr + offset) addrStrings := by
    unfold lookUp
    rw [made]
    rfl
  rw [found]
  by_cases more : offset < stop
  · have run := run_runStart more string.ends (fun i low high => string.bytes i high low)
    have before := runStart_le content.data offset
    have result := @getStrAtAddr_found (content.baseAddr + offset) addrStrings
      (content.entry (runStart content.data offset) stop)
      ((stored _).mpr ⟨content, member, _, _, Nat.zero_le _, run, rfl⟩) ?_ ?_
    · have position : content.baseAddr + offset -
          (content.baseAddr + runStart content.data offset) =
            offset - runStart content.data offset := by omega
      have length := @slice_length content.data (runStart content.data offset) offset (by omega)
      have whole := @slice_append content.data (runStart content.data offset) offset stop before
        (Nat.le_of_lt more)
      have cut := @cut_iff (slice content.data (runStart content.data offset) offset)
        (slice content.data offset stop)
      rw [whole, length] at cut
      unfold RoContent.entry at result
      dsimp only at result
      rw [position] at result
      rw [result]
      unfold Meets
      rw [and_iff_right more, <- cut]
      exact ⟨Except.ok.inj, congrArg _⟩
    · unfold Covers RoContent.entry
      dsimp only
      omega
    · intro other inside covers
      rcases covers_run apart member (by omega) ((stored other).mp inside) covers with
        ⟨start', stop', low, high, run', rfl⟩
      rcases run'.unique run low high before more with ⟨rfl, rfl⟩
      rfl
  · have same : offset = stop := by omega
    have missing := @getStrAtAddr_missing (content.baseAddr + offset) addrStrings (by
      intro entry inside covers
      rcases covers_run apart member (by omega) ((stored entry).mp inside) covers with
        ⟨start, stop', low, high, run, _⟩
      exact run.bytes offset low high (same ▸ string.ends))
    rw [missing]
    exact ⟨nofun, fun meets => absurd meets.1 more⟩

end

/-- A section with a string that begins with two newlines. -/
def newlinesSection : RoContent where
  baseAddr := 0x1000
  size := 6
  data := [0x0a, 0x0a, 0x61, 0x62, 0x63, 0x00]
  sized := rfl

theorem newlinesSection_apart : [newlinesSection].Pairwise RoContent.Apart :=
  List.pairwise_singleton _ _

theorem lookUp_iff_letter : lookUp [newlinesSection] (newlinesSection.baseAddr + 2) =
      .ok (cleanText (slice newlinesSection.data 2 5)) ↔ Meets newlinesSection.data 2 5 :=
  lookUp_iff newlinesSection_apart List.mem_cons_self ⟨by decide, rfl, by decide⟩

/-- The last two letters are looked up and nothing is found of them. -/
theorem lookUp_newlines : [newlinesSection].Pairwise RoContent.Apart ∧
    StringAt newlinesSection.data 3 5 ∧
    cleanText (slice newlinesSection.data 3 5) = ['b', 'c'] ∧
    lookUp [newlinesSection] (newlinesSection.baseAddr + 3) = .ok [] :=
  ⟨List.pairwise_singleton _ _, ⟨by decide, rfl, by decide⟩, by decide, by decide⟩

end ExtractSwLogs
end SunburstChip
