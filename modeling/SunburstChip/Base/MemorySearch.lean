import SunburstChip.Base.MemoryBytewise
import Mathlib.Data.List.Range

namespace SunburstChip
namespace Base

open Routine

/-!
# How far a search reads

`memchr` looks at bytes one after the other in front of the aligned words of a
region and behind them.  Of a word it loads all four bytes before it looks at
the first one, and so it reads behind an occurrence that is not the last byte of
its word.  A region that may end at the occurrence, such as a string, is
searched by bytes only where its length is given as `PTRDIFF_MAX` or more.
-/

/-- The index at which a byte occurs first in a region. -/
def firstOccurrence (memory : Memory) (ptr : Nat) (byte : BitVec 8) (len : Nat) : Option Nat :=
  (List.range len).find? (fun k => memory (ptr + k) = byte)

/-- A load of bytes in front of an index. -/
def LoadsBelow (ptr limit : Nat) : MemoryAccess -> Prop
  | .load address size => ptr <= address ∧ address + size <= ptr + limit
  | .store _ _ => False

/-- The search returns where the byte occurs first and reads nothing behind it. -/
def StopsAtMatch (memory : Memory) (ptr : Nat) (value : BitVec 32) (len : Nat) : Prop :=
  let (result, after) := call (memchr ptr value len) memory
  match firstOccurrence memory ptr (value.setWidth 8) len with
  | some k =>
      result = some (ptr + k) ∧
      forall access, access ∈ after.accesses -> LoadsBelow ptr (k + 1) access
  | none =>
      result = none ∧ forall access, access ∈ after.accesses -> LoadsBelow ptr len access

/-- An index is looked at in a word: its aligned word lies within the region, and the
region is not taken for a string. -/
def InWord (ptr len k : Nat) : Prop :=
  len < ptrdiffMax ∧ ptr <= (ptr + k) / 4 * 4 ∧ (ptr + k) / 4 * 4 + 4 <= ptr + len

instance (ptr len k : Nat) : Decidable (InWord ptr len k) := by
  unfold InWord
  infer_instance

/-- How far has been read when an index has been looked at. -/
def reach (ptr len k : Nat) : Nat :=
  if InWord ptr len k then (ptr + k) / 4 * 4 + 4 - ptr else k + 1

/-! ## Phases -/

/-- Where the body begins and ends in a region that has a whole word. -/
theorem computeAlignment_single (ptr : Nat) {len : Nat} (long : 4 <= len) :
    computeAlignment ptr 0 len =
      ((4 - ptr % 4) % 4, (4 - ptr % 4) % 4 + (len - (4 - ptr % 4) % 4) / 4 * 4) := by
  have mask : forall ahead, ahead < 4 -> (4 - ahead) &&& 0x3 = (4 - ahead) % 4 := by decide
  have ahead := mask (ptr % 4) (Nat.mod_lt ptr (by decide))
  simp [computeAlignment, computeNumLeadingBytes, misalignment32Of, Nat.not_lt.mpr long, ahead]

/-- In front of the body no index is looked at in a word. -/
theorem head_bytewise {ptr len i : Nat} (head : i < (computeAlignment ptr 0 len).1) :
    ¬ InWord ptr len i := by
  unfold InWord
  by_cases long : 4 <= len
  · rw [computeAlignment_single ptr long] at head
    dsimp only at head
    omega
  · omega

/-- Behind the body, as far as it is searched by words, none is either. -/
theorem tail_bytewise {ptr len i : Nat}
    (tail : (if len >= ptrdiffMax then 0 else (computeAlignment ptr 0 len).2) <= i) :
    ¬ InWord ptr len i := by
  unfold InWord
  split at tail
  · omega
  · by_cases long : 4 <= len
    · rw [computeAlignment_single ptr long] at tail
      dsimp only at tail
      omega
    · omega

/-- A loop that has nothing to do. -/
theorem countUp_past {σ ρ : Type} {step stop i : Nat} {body : Nat -> Routine σ ρ Unit}
    (past : stop <= i) (fuel : Nat) : countUp step stop body fuel i = pure i := by
  cases fuel with
  | zero => rfl
  | succ fuel => rw [countUp, if_neg (Nat.not_lt.mpr past)]

/-! ## Rounds -/

section

variable (memory : Memory) (ptr : Nat) (byte : BitVec 8) (len : Nat)

/-- The byte does not occur in front of an index, and nothing has been read from there on. -/
structure Unseen (i : Nat) (s : MainMemory) : Prop where
  same : s.memory = memory
  missing : forall j, j < i -> memory (ptr + j) ≠ byte
  reads : forall access, access ∈ s.accesses -> LoadsBelow ptr i access

/-- The byte has been found at an index, and what was read reaches so far. -/
structure SeenAt (k : Nat) (s : MainMemory) : Prop where
  inside : k < len
  here : memory (ptr + k) = byte
  missing : forall j, j < k -> memory (ptr + j) ≠ byte
  reads : forall access, access ∈ s.accesses -> LoadsBelow ptr (reach ptr len k) access
  last : Exists fun address => Exists fun size =>
    MemoryAccess.load address size ∈ s.accesses ∧ address + size = ptr + reach ptr len k

/-- The search has returned where the byte is. -/
def Seen (result : Option Nat) (s : MainMemory) : Prop :=
  Exists fun k => result = some (ptr + k) ∧ SeenAt memory ptr byte len k s

variable {memory ptr byte len}

theorem LoadsBelow.mono {limit limit' : Nat} {access : MemoryAccess}
    (below : LoadsBelow ptr limit access) (more : limit <= limit') :
    LoadsBelow ptr limit' access := by
  cases access with
  | load address size => exact ⟨below.1, Nat.le_trans below.2 (Nat.add_le_add_left more ptr)⟩
  | store address size => exact below

/-- The accesses with one more load, which begins where they end. -/
theorem loadsBelow_append {accesses : List MemoryAccess} {i size : Nat}
    (reads : forall access, access ∈ accesses -> LoadsBelow ptr i access) :
    forall access, access ∈ accesses ++ [.load (ptr + i) size] ->
      LoadsBelow ptr (i + size) access := by
  intro access inside
  rcases List.mem_append.mp inside with before | now
  · exact (reads access before).mono (Nat.le_add_right i size)
  · rw [List.mem_singleton.mp now]
    exact ⟨Nat.le_add_right ptr i, Nat.le_of_eq (Nat.add_assoc ptr i size)⟩

theorem missing_succ {i : Nat} (missing : forall j, j < i -> memory (ptr + j) ≠ byte)
    (other : memory (ptr + i) ≠ byte) : forall j, j < i + 1 -> memory (ptr + j) ≠ byte := by
  intro j inside
  rcases Nat.lt_succ_iff_lt_or_eq.mp inside with before | rfl
  · exact missing j before
  · exact other

theorem triple_searchByte {i : Nat} (inside : i < len) (single : ¬ InWord ptr len i) :
    Triple (Unseen memory ptr byte i)
      (do if (<- byteAt (ptr + i)) = byte then raise (some (ptr + i)) else pure ())
      (Ends (fun _ => Unseen memory ptr byte (i + 1)) (Seen memory ptr byte len)) := by
  rintro s ⟨same, missing, reads⟩
  have further := @loadsBelow_append ptr s.accesses i 1 reads
  have reached : reach ptr len i = i + 1 := if_neg single
  change Ends _ _ ((if s.memory (ptr + i) = byte then _ else _ : Code (Option Nat) Unit) _).1
    ((if s.memory (ptr + i) = byte then _ else _ : Code (Option Nat) Unit) _).2
  rw [same]
  split
  · next here =>
      refine ⟨i, rfl, inside, here, missing, ?_, ptr + i, 1, List.mem_append_right _ (by simp), ?_⟩
      · rw [reached]
        exact further
      · rw [reached]
        rfl
  · next other => exact ⟨rfl, missing_succ missing other, further⟩

variable (memory ptr byte) in
/-- A word has been loaded, and the byte does not occur in front of an index of it. -/
structure Loaded (i m : Nat) (s : MainMemory) : Prop where
  same : s.memory = memory
  missing : forall j, j < i + m -> memory (ptr + j) ≠ byte
  reads : forall access, access ∈ s.accesses -> LoadsBelow ptr (i + 4) access
  now : .load (ptr + i) 4 ∈ s.accesses

/-- A byte of a word is looked at. -/
theorem triple_searchWordByte {i m : Nat} (few : len < ptrdiffMax) (inside : i + 4 <= len)
    (aligned : (ptr + i) % 4 = 0) (small : m < 4) {condition : Prop} [Decidable condition]
    {next : Code (Option Nat) Unit} (test : condition ↔ memory (ptr + i + m) = byte)
    (further : Triple (Loaded memory ptr byte i (m + 1)) next
      (Ends (fun _ => Unseen memory ptr byte (i + 4)) (Seen memory ptr byte len))) :
    Triple (Loaded memory ptr byte i m)
      (if condition then raise (some (ptr + i + m)) else next)
      (Ends (fun _ => Unseen memory ptr byte (i + 4)) (Seen memory ptr byte len)) := by
  have word : (ptr + (i + m)) / 4 * 4 = ptr + i := by omega
  have reached : reach ptr len (i + m) = i + 4 := by
    have here : InWord ptr len (i + m) := by
      unfold InWord
      omega
    rw [reach, if_pos here, word]
    omega
  rw [Nat.add_assoc] at test
  apply Triple.ite
  · rintro holds s ⟨same, missing, reads, now⟩
    refine ⟨i + m, by rw [Nat.add_assoc], by omega, test.mp holds, missing, ?_, ptr + i, 4, now, ?_⟩
    · rw [reached]
      exact reads
    · rw [reached, Nat.add_assoc]
  · rintro fails s ⟨same, missing, reads, now⟩
    have other : memory (ptr + (i + m)) ≠ byte := fun here => fails (test.mpr here)
    exact further s ⟨same, missing_succ missing other, reads, now⟩

theorem triple_searchWord {i : Nat} (few : len < ptrdiffMax) (inside : i + 4 <= len)
    (aligned : (ptr + i) % 4 = 0) :
    Triple (Unseen memory ptr byte i)
      (do
        let word <- read32 (ptr + i)
        let bitsEq := ~~~(word ^^^ repeatByteToU32 byte)
        if byteSet bitsEq 0 then raise (some (ptr + i))
        else if byteSet bitsEq 1 then raise (some (ptr + i + 1))
        else if byteSet bitsEq 2 then raise (some (ptr + i + 2))
        else if byteSet bitsEq 3 then raise (some (ptr + i + 3))
        else pure ())
      (Ends (fun _ => Unseen memory ptr byte (i + 4)) (Seen memory ptr byte len)) := by
  have load : Triple (Unseen memory ptr byte i) (read32 (ptr + i)) (Ends (fun word s =>
      (forall m, m < 4 -> wordByte word m = memory (ptr + i + m)) ∧
        Loaded memory ptr byte i 0 s) (Seen memory ptr byte len)) := by
    rintro s ⟨same, missing, reads⟩
    refine ⟨fun m small => ?_, same, missing, loadsBelow_append reads,
      List.mem_append_right _ (by simp)⟩
    rw [wordByte_setWordBytes _ _ (by simp) small, if_pos (Nat.zero_le m), Nat.sub_zero, same]
    simp [Memory.load, small]
  apply load.next
  rintro word s ⟨bytes, loaded⟩
  have test (m : Nat) (small : m < 4) :
      byteSet (~~~(word ^^^ repeatByteToU32 byte)) m ↔ memory (ptr + i + m) = byte := by
    rw [byteSet_eq word byte small, decide_eq_true_iff, bytes m small]
  refine triple_searchWordByte few inside aligned (by decide) (test 0 (by decide)) ?_ s loaded
  refine triple_searchWordByte few inside aligned (by decide) (test 1 (by decide)) ?_
  refine triple_searchWordByte few inside aligned (by decide) (test 2 (by decide)) ?_
  refine triple_searchWordByte few inside aligned (by decide) (test 3 (by decide)) ?_
  rintro s ⟨same, missing, reads, now⟩
  exact ⟨same, missing, reads⟩

/-- The loops over bytes. -/
theorem triple_searchBytes {start stop : Nat} (before : start <= stop) (inside : stop <= len)
    (bytewise : forall i, start <= i -> i < stop -> ¬ InWord ptr len i) :
    Triple (Unseen memory ptr byte start)
      (countUp 1 stop (fun i => do
        if (<- byteAt (ptr + i)) = byte then raise (some (ptr + i)) else pure ()) len start)
      (Ends (fun i s => i = stop ∧ Unseen memory ptr byte stop s) (Seen memory ptr byte len)) := by
  have enough := Nat.le_trans (Nat.sub_le stop start) inside
  refine Triple.countUp (by decide) (Nat.mod_one _) ?_ before enough
  intro i after more _
  exact triple_searchByte (Nat.lt_of_lt_of_le more inside) (bytewise i after more)

/-- The loop over words. -/
theorem triple_searchWords {start stop : Nat} (before : start <= stop) (inside : stop <= len)
    (whole : (stop - start) % 4 = 0) (few : len < ptrdiffMax)
    (aligned : start < stop -> (ptr + start) % 4 = 0) :
    Triple (Unseen memory ptr byte start)
      (countUp 4 stop (fun i => do
        let word <- read32 (ptr + i)
        let bitsEq := ~~~(word ^^^ repeatByteToU32 byte)
        if byteSet bitsEq 0 then raise (some (ptr + i))
        else if byteSet bitsEq 1 then raise (some (ptr + i + 1))
        else if byteSet bitsEq 2 then raise (some (ptr + i + 2))
        else if byteSet bitsEq 3 then raise (some (ptr + i + 3))
        else pure ()) len start)
      (Ends (fun i s => i = stop ∧ Unseen memory ptr byte stop s) (Seen memory ptr byte len)) := by
  refine Triple.countUp (by decide) whole ?_ before (Nat.le_trans (Nat.sub_le _ _) inside)
  intro i after more steps
  have multiple := aligned (by omega)
  exact triple_searchWord few (by omega) (by omega)

end

/-! ## The search -/

section

variable {memory : Memory} {ptr len : Nat} {value : BitVec 32}

/-- The search comes to the end of the region without having seen the byte, or ends
where it has. -/
theorem triple_memchr :
    Triple (Unseen memory ptr (value.setWidth 8) 0) (memchr ptr value len)
      (Ends (fun result s => result = none ∧ Unseen memory ptr (value.setWidth 8) len s)
        (Seen memory ptr (value.setWidth 8) len)) := by
  have within := computeAlignment_le ptr 0 len
  have whole := computeAlignment_whole ptr 0 len
  have aligned := @computeAlignment_aligned ptr 0 len
  have front := @head_bytewise ptr len
  have behind := @tail_bytewise ptr len
  unfold memchr
  dsimp only
  generalize (computeAlignment ptr 0 len).1 = bodyOffset at *
  generalize (computeAlignment ptr 0 len).2 = tailOffset at *
  apply (triple_searchBytes (Nat.zero_le _) (by omega) (fun i _ head => front head)).next
  rintro i s ⟨rfl, unseen⟩
  by_cases string : len >= ptrdiffMax
  · rw [if_pos string, countUp_past (Nat.zero_le i)]
    rw [if_pos string] at behind
    refine (triple_searchBytes (by omega) (Nat.le_refl len)
      (fun j _ _ => behind (Nat.zero_le j))).next _ ?_ s unseen
    rintro j s ⟨rfl, unseen⟩
    exact ⟨rfl, unseen⟩
  · rw [if_neg string] at behind ⊢
    refine (triple_searchWords within.1 within.2 whole (Nat.lt_of_not_le string)
      (fun body => (aligned body).1)).next _ ?_ s unseen
    rintro j s ⟨rfl, unseen⟩
    refine (triple_searchBytes within.2 (Nat.le_refl len)
      (fun k after _ => behind after)).next _ ?_ s unseen
    rintro k s ⟨rfl, unseen⟩
    exact ⟨rfl, unseen⟩

/-- What a search ends with. -/
theorem memchr_ends (memory : Memory) (ptr : Nat) (value : BitVec 32) (len : Nat) :
    ((call (memchr ptr value len) memory).1 = none ∧
      Unseen memory ptr (value.setWidth 8) len (call (memchr ptr value len) memory).2) ∨
    Seen memory ptr (value.setWidth 8) len (call (memchr ptr value len) memory).1
      (call (memchr ptr value len) memory).2 := by
  have start : Unseen memory ptr (value.setWidth 8) 0 ⟨memory, []⟩ :=
    ⟨rfl, fun _ before => absurd before (Nat.not_lt_zero _), fun _ inside => by cases inside⟩
  have outcome := @triple_memchr memory ptr len value _ start
  unfold call
  generalize memchr ptr value len ⟨memory, []⟩ = ended at outcome ⊢
  rcases ended with ⟨result | result, s⟩
  · exact Or.inr outcome
  · exact Or.inl outcome

theorem firstOccurrence_eq_none {byte : BitVec 8}
    (missing : forall j, j < len -> memory (ptr + j) ≠ byte) :
    firstOccurrence memory ptr byte len = none := by
  unfold firstOccurrence
  rw [List.find?_range_eq_none]
  simpa using missing

theorem SeenAt.firstOccurrence_eq {byte : BitVec 8} {k : Nat} {s : MainMemory}
    (seen : SeenAt memory ptr byte len k s) :
    firstOccurrence memory ptr byte len = some k := by
  unfold firstOccurrence
  rw [List.find?_range_eq_some]
  simpa [seen.here, seen.inside] using seen.missing

/-- No more has been read than up to an index exactly if the last byte of its aligned word is
there, or the index is not looked at in a word. -/
theorem reach_le_iff {k : Nat} :
    reach ptr len k <= k + 1 ↔ (InWord ptr len k -> (ptr + k) % 4 = 3) := by
  unfold reach
  split
  · next word =>
      have start := word.2.1
      constructor
      · intro close _
        omega
      · intro last
        have position := last word
        omega
  · next single => simp [single]

/-- The search reads nothing behind the first occurrence exactly if this is the last byte of
an aligned word, or its aligned word does not lie within the region, or the region is taken
for a string. -/
theorem memchr_stopsAtMatch_iff (memory : Memory) (ptr : Nat) (value : BitVec 32) (len : Nat) :
    StopsAtMatch memory ptr value len ↔
      forall k, firstOccurrence memory ptr (value.setWidth 8) len = some k ->
        InWord ptr len k -> (ptr + k) % 4 = 3 := by
  unfold StopsAtMatch
  dsimp only
  rcases memchr_ends memory ptr value len with ⟨none, unseen⟩ | ⟨k, found, seen⟩
  · rw [firstOccurrence_eq_none unseen.missing]
    exact iff_of_true ⟨none, unseen.reads⟩ (fun _ found => nomatch found)
  · rw [seen.firstOccurrence_eq]
    simp only [found, true_and, Option.some.injEq]
    rw [forall_eq', <- reach_le_iff]
    constructor
    · intro close
      rcases seen.last with ⟨address, size, inside, last⟩
      have below := (close _ inside).2
      omega
    · intro close access inside
      exact (seen.reads access inside).mono close

end

/-- A string of one byte, the NUL, in front of a region of another one: the search for
the NUL reads the other region. -/
theorem memchr_stopsAtMatch_apart :
    ¬ StopsAtMatch (fun _ => 0) 4 0 4 := by
  rintro ⟨-, reads⟩
  have below := reads (.load 4 4) (by decide)
  exact absurd below.2 (by decide)

end Base
end SunburstChip
