import Mathlib.Algebra.Group.End
import SunburstChip.Lib.Memory
import SunburstChip.Testing.RandTestutils

namespace SunburstChip
namespace RandTestutils

open Routine

/-!
# The shuffle

`rand_testutils_shuffle`.  Each round swaps one element with one of those up to
the next one, so that what comes of the elements is always a permutation of
them.  The rounds start with the last element but one, and the last element
takes part in the first round only: what ends up behind the others is one of the
two that were there before.
-/

section

variable {γ : Type}

/-- A routine on memory, where random numbers are drawn as well. -/
def onMemory {α : Type} (m : Routine MainMemory RandFailure α) :
    Routine (Source γ × MainMemory) RandFailure α := fun s =>
  ((m s.2).1, s.1, (m s.2).2)

/-- The reseed frequency of the generator. -/
def setReseedFrequency (frequency : BitVec 32) :
    Routine (Source γ × MainMemory) RandFailure Unit := fun s =>
  (.ok (), { s.1 with rng := { s.1.rng with reseedFrequency := frequency } }, s.2)

variable (gen32 : Routine (Source γ) RandFailure (BitVec 32))

/-- The body of the loop of `rand_testutils_shuffle`, over `temp`. -/
def shuffleRound (array8 size i : Nat) : Routine (Source γ × MainMemory) RandFailure Unit := do
  let j <- onFirst (gen32RangeWith gen32 0 (.ofNat 32 (i + 1)))
  let temp <- onMemory (fetch (array8 + j.toNat * size) size)
  let bytes <- onMemory (fetch (array8 + i * size) size)
  onMemory (deposit (array8 + j.toNat * size) bytes)
  onMemory (deposit (array8 + i * size) temp)

/-- `rand_testutils_shuffle`, with the generator it draws from. -/
def shuffleWith (array size : Nat) (length : BitVec 32) :
    Routine (Source γ × MainMemory) RandFailure Unit := do
  if length <= 1 then
    return ()
  else
    let s <- get
    let reseedFrequency := s.1.rng.reseedFrequency
    setReseedFrequency 0xffffffff
    let _ <- countDown 1 0 (shuffleRound gen32 array size) length.toNat (length - 2).toNat
    setReseedFrequency reseedFrequency

end

/-- `rand_testutils_shuffle` -/
def randTestutilsShuffle (array size : Nat) (length : BitVec 32) :
    Routine (World × MainMemory) RandFailure Unit :=
  shuffleWith gen32 array size length

/-! ## Elements -/

/-- An element of an array. -/
def element (memory : Memory) (array size k : Nat) : List (BitVec 8) :=
  memory.load (array + k * size) size

/-- The elements of an array. -/
def elements (memory : Memory) (array size length : Nat) : List (List (BitVec 8)) :=
  (List.range length).map (element memory array size)

/-- Two elements have no byte in common. -/
theorem element_apart (array size : Nat) {k l : Nat} (other : k ≠ l) :
    array + k * size + size <= array + l * size ∨
      array + l * size + size <= array + k * size := by
  rcases Nat.lt_or_gt_of_ne other with below | above
  · have next : (k + 1) * size <= l * size := Nat.mul_le_mul_right size below
    rw [Nat.succ_mul] at next
    exact Or.inl (by omega)
  · have next : (l + 1) * size <= k * size := Nat.mul_le_mul_right size above
    rw [Nat.succ_mul] at next
    exact Or.inr (by omega)

/-- Memory after two elements have been swapped. -/
def swapped (memory : Memory) (array size i j : Nat) : Memory :=
  (memory.store (array + j * size) (element memory array size i)).store (array + i * size)
    (element memory array size j)

theorem element_store_self (memory : Memory) (array size k : Nat) {bytes : List (BitVec 8)}
    (sized : bytes.length = size) :
    element (memory.store (array + k * size) bytes) array size k = bytes := by
  have stored := memory.load_store_self (array + k * size) bytes []
  rw [List.append_nil, sized] at stored
  exact stored

theorem element_store_other (memory : Memory) (array size : Nat) {k l : Nat} (other : k ≠ l)
    {bytes : List (BitVec 8)} (sized : bytes.length = size) :
    element (memory.store (array + l * size) bytes) array size k = element memory array size k := by
  apply Memory.load_store
  rw [sized]
  exact element_apart array size other

/-- Elements that are swapped have changed places, and the others have not. -/
theorem element_swapped (memory : Memory) (array size i j k : Nat) :
    element (swapped memory array size i j) array size k =
      element memory array size (Equiv.swap i j k) := by
  have sized (k : Nat) : (element memory array size k).length = size := Memory.load_length _ _ _
  unfold swapped
  by_cases first : k = i
  · rw [first, element_store_self _ _ _ _ (sized j), Equiv.swap_apply_left]
  · rw [element_store_other _ _ _ first (sized j)]
    by_cases second : k = j
    · rw [second, element_store_self _ _ _ _ (sized i), Equiv.swap_apply_right]
    · rw [element_store_other _ _ _ second (sized i), Equiv.swap_apply_of_ne_of_ne first second]

/-- What lies in an array of elements. -/
def Within (array size length address : Nat) : Prop :=
  array <= address ∧ address < array + length * size

theorem element_within {length k : Nat} (inside : k < length) (array size : Nat) :
    array <= array + k * size ∧ array + k * size + size <= array + length * size := by
  have next : (k + 1) * size <= length * size := Nat.mul_le_mul_right size inside
  rw [Nat.succ_mul] at next
  constructor
  · omega
  · omega

theorem swapped_outside (memory : Memory) {array size length i j address : Nat}
    (first : i < length) (second : j < length) (outside : ¬ Within array size length address) :
    swapped memory array size i j address = memory address := by
  have sized (k : Nat) : (element memory array size k).length = size := Memory.load_length _ _ _
  have apart {k : Nat} (inside : k < length) :
      Memory.Outside (array + k * size) (element memory array size i).length address ∧
        Memory.Outside (array + k * size) (element memory array size j).length address := by
    have within := element_within inside array size
    unfold Within at outside
    unfold Memory.Outside
    rw [sized, sized]
    omega
  unfold swapped
  rw [Memory.store_outside _ (apart first).2, Memory.store_outside _ (apart second).1]

/-! ## Rounds -/

/-- A generator that always gives a number, whatever number that is. -/
def Total {γ : Type} (gen32 : Routine (Source γ) RandFailure (BitVec 32)) : Prop :=
  forall source, Exists fun output => Exists fun source' => gen32 source = (.ok output, source')

/-- An access to an array of elements. -/
def AccessWithin (array size length : Nat) : MemoryAccess -> Prop
  | .load address len => array <= address ∧ address + len <= array + length * size
  | .store address len => array <= address ∧ address + len <= array + length * size

/-- The accesses of a round. -/
def roundAccesses (array size i j : Nat) : List MemoryAccess :=
  [.load (array + j * size) size, .load (array + i * size) size,
    .store (array + j * size) size, .store (array + i * size) size]

theorem roundAccesses_within {array size length i j : Nat} (first : i < length)
    (second : j < length) :
    forall access, access ∈ roundAccesses array size i j -> AccessWithin array size length access := by
  intro access member
  have here := element_within first array size
  have there := element_within second array size
  simp only [roundAccesses, List.mem_cons, List.not_mem_nil, or_false] at member
  rcases member with rfl | rfl | rfl | rfl
  · exact there
  · exact here
  · exact there
  · exact here

section

variable {γ : Type} {gen32 : Routine (Source γ) RandFailure (BitVec 32)}

/-- A round swaps its element with one of those up to the next one. -/
theorem shuffleRound_apply (total : Total gen32) (array size : Nat) {i : Nat}
    (bound : i + 1 < 2 ^ 32 - 1) (source : Source γ) (main : MainMemory) :
    Exists fun j => Exists fun source' => j <= i + 1 ∧
      shuffleRound gen32 array size i (source, main) =
        (.ok (), source', ⟨swapped main.memory array size i j,
          main.accesses ++ roundAccesses array size i j⟩) := by
  have top : (BitVec.ofNat 32 (i + 1)).toNat = i + 1 := by
    rw [BitVec.toNat_ofNat]
    exact Nat.mod_eq_of_lt (by omega)
  have less : (0 : BitVec 32) < .ofNat 32 (i + 1) := by
    change 0 < (BitVec.ofNat 32 (i + 1)).toNat
    omega
  have room : ¬ ((0 : BitVec 32) = 0 ∧ BitVec.ofNat 32 (i + 1) = 0xffffffff) := by
    intro full
    have most := congrArg BitVec.toNat full.2
    rw [top] at most
    have value : (0xffffffff : BitVec 32).toNat = 2 ^ 32 - 1 := by decide
    omega
  rcases total source with ⟨output, source', gives⟩
  have drawn : gen32RangeWith gen32 0 (.ofNat 32 (i + 1)) source =
      (.ok (bounded 0 (.ofNat 32 (i + 1)) output), source') := by
    rw [gen32RangeWith_drawn gen32 less room, bind_ok gives]
    rfl
  have within : (bounded 0 (.ofNat 32 (i + 1)) output).toNat <= (BitVec.ofNat 32 (i + 1)).toNat :=
    (bounded_within (BitVec.le_of_lt less) room output).2
  refine ⟨(bounded 0 (.ofNat 32 (i + 1)) output).toNat, source', ?_, ?_⟩
  · omega
  · have chosen : (onFirst (gen32RangeWith gen32 0 (.ofNat 32 (i + 1))) :
        Routine (Source γ × MainMemory) RandFailure (BitVec 32)) (source, main) =
          (.ok (bounded 0 (.ofNat 32 (i + 1)) output), source', main) := by
      rw [onFirst_apply, drawn]
    unfold shuffleRound
    rw [bind_ok chosen]
    generalize (bounded 0 (.ofNat 32 (i + 1)) output).toNat = j
    change (Except.ok (), source', MainMemory.mk (swapped main.memory array size i j)
      ((((main.accesses ++ [_]) ++ [_]) ++ [.store _ (List.length _)]) ++
        [.store _ (List.length _)])) = _
    rw [Memory.load_length, Memory.load_length]
    simp only [List.append_assoc, List.cons_append, List.nil_append, roundAccesses]

end

/-! ## Runs -/

/-- What the rounds down to some index have made of memory: which element is where, and that
nothing else has been touched. -/
structure Shuffled (array size length : Nat) (start : MainMemory) (places : Equiv.Perm Nat)
    (i : Nat) (main : MainMemory) : Prop where
  behind : forall k, length <= k -> places k = k
  held : forall k, element main.memory array size k = element start.memory array size (places k)
  /-- Before the first round nothing has been moved. -/
  still : i = length - 2 -> places = 1
  /-- After it the last element is one of the two that were there. -/
  last : places (length - 1) = length - 1 ∨ places (length - 1) = length - 2
  outside : forall address, ¬ Within array size length address ->
    main.memory address = start.memory address
  accesses : Exists fun more => main.accesses = start.accesses ++ more ∧
    forall access, access ∈ more -> AccessWithin array size length access

theorem shuffled_start (array size length : Nat) (start : MainMemory) :
    Shuffled array size length start 1 (length - 2) start where
  behind _ _ := rfl
  held _ := rfl
  still _ := rfl
  last := Or.inl rfl
  outside _ _ := rfl
  accesses := ⟨[], (List.append_nil _).symm, fun _ member => absurd member List.not_mem_nil⟩

/-- Another round composes the permutation with a swap. -/
theorem Shuffled.round {array size length i j : Nat} {start main : MainMemory}
    {places : Equiv.Perm Nat} (shuffled : Shuffled array size length start places i main)
    (above : 0 < i) (low : i <= length - 2) (near : j <= i + 1) :
    Shuffled array size length start (places * Equiv.swap i j) (i - 1)
      ⟨swapped main.memory array size i j, main.accesses ++ roundAccesses array size i j⟩ := by
  have first : i < length := by omega
  have second : j < length := by omega
  refine ⟨?_, ?_, ?_, ?_, ?_, ?_⟩
  · intro k far
    rw [Equiv.Perm.mul_apply, Equiv.swap_apply_of_ne_of_ne (by omega) (by omega)]
    exact shuffled.behind k far
  · intro k
    rw [element_swapped, shuffled.held, Equiv.Perm.mul_apply]
  · intro same
    omega
  · rw [Equiv.Perm.mul_apply]
    by_cases begun : i = length - 2
    · -- The first round, in which the last element may be swapped with the one before it.
      rw [shuffled.still begun, Equiv.Perm.one_apply]
      by_cases reached : j = length - 1
      · rw [<- reached, Equiv.swap_apply_right]
        exact Or.inr begun
      · rw [Equiv.swap_apply_of_ne_of_ne (by omega) (Ne.symm reached)]
        exact Or.inl rfl
    · rw [Equiv.swap_apply_of_ne_of_ne (by omega) (by omega)]
      exact shuffled.last
  · intro address out
    dsimp only
    rw [swapped_outside _ first second out]
    exact shuffled.outside address out
  · rcases shuffled.accesses with ⟨more, noted, within⟩
    refine ⟨more ++ roundAccesses array size i j, ?_, ?_⟩
    · rw [noted, List.append_assoc]
    · intro access member
      rcases List.mem_append.mp member with earlier | now
      · exact within access earlier
      · exact roundAccesses_within first second access now

section

variable {γ : Type} {gen32 : Routine (Source γ) RandFailure (BitVec 32)}

/-- A shuffle leaves a permutation of the elements, in which the last one is one of the last two. -/
theorem shuffleWith_shuffled (total : Total gen32) (array size : Nat) {length : BitVec 32}
    (some : 2 <= length.toNat) (source : Source γ) (start : MainMemory) :
    Exists fun source' => Exists fun main => Exists fun places =>
      shuffleWith gen32 array size length (source, start) = (.ok (), source', main) ∧
        source'.rng.reseedFrequency = source.rng.reseedFrequency ∧
        Shuffled array size length.toNat start places 0 main := by
  have many : ¬ length <= 1 := by
    intro few
    have small : length.toNat <= 1 := few
    omega
  have first : (length - 2).toNat = length.toNat - 2 := by
    rw [BitVec.toNat_sub_of_le]
    · rfl
    · exact some
  have bound := length.isLt
  let after : Nat -> Source γ × MainMemory -> Prop := fun i s =>
    Exists fun places => Shuffled array size length.toNat start places i s.2
  have round : forall i, 0 + 1 <= i -> i <= length.toNat - 2 -> (i - 0) % 1 = 0 ->
      Triple (after i) (shuffleRound gen32 array size i)
        (Ends (fun _ => after (i - 1)) (fun _ _ => False)) := by
    intro i above low _ s holds
    rcases s with ⟨source, main⟩
    rcases holds with ⟨places, shuffled⟩
    rcases shuffleRound_apply total array size (show i + 1 < 2 ^ 32 - 1 by omega) source main with
      ⟨j, source', near, done⟩
    rw [done]
    exact ⟨_, shuffled.round above low near⟩
  have loop : Triple (after (length.toNat - 2))
      (countDown 1 0 (shuffleRound gen32 array size) length.toNat (length.toNat - 2))
      (Ends (fun i s => i = 0 ∧ after 0 s) (fun _ _ => False)) :=
    Triple.countDown (by decide) (Nat.mod_one _) round (Nat.zero_le _) (by omega)
  have ended := loop ({ source with rng := { source.rng with reseedFrequency := 0xffffffff } }, start)
    ⟨1, shuffled_start array size length.toNat start⟩
  unfold shuffleWith
  rw [if_neg many, get_bind_apply, first]
  generalize rounds : countDown 1 0 (shuffleRound gen32 array size) length.toNat
    (length.toNat - 2) ({ source with rng := { source.rng with reseedFrequency := 0xffffffff } },
      start) = done at ended
  rcases done with ⟨reason | i, source', main⟩
  · exact absurd ended id
  · rcases ended with ⟨_, places, shuffled⟩
    refine ⟨{ source' with rng := { source'.rng with
      reseedFrequency := source.rng.reseedFrequency } }, main, places, ?_, rfl, shuffled⟩
    change (countDown 1 0 (shuffleRound gen32 array size) length.toNat (length.toNat - 2) >>=
      fun _ => setReseedFrequency source.rng.reseedFrequency) ({ source with
        rng := { source.rng with reseedFrequency := 0xffffffff } }, start) = _
    rw [bind_ok rounds]
    rfl

end

/-! ## Permutations -/

section

variable {array size length i : Nat} {start main : MainMemory} {places : Equiv.Perm Nat}

/-- Elements that change places stay what they are. -/
theorem Shuffled.perm (shuffled : Shuffled array size length start places i main) :
    (elements main.memory array size length).Perm (elements start.memory array size length) := by
  have inside {k : Nat} (near : k < length) : places k < length := by
    by_contra far
    have fixed := shuffled.behind (places k) (Nat.le_of_not_lt far)
    have itself := places.injective fixed
    rw [itself] at far
    exact far near
  have moved : ((List.range length).map places).Perm (List.range length) := by
    apply (List.subperm_of_subset _ _).perm_of_length_le
    · rw [List.length_map]
    · exact List.nodup_range.map places.injective
    · intro k member
      rcases List.mem_map.mp member with ⟨l, near, rfl⟩
      exact List.mem_range.mpr (inside (List.mem_range.mp near))
  have held : elements main.memory array size length =
      ((List.range length).map places).map (element start.memory array size) := by
    unfold elements
    rw [List.map_map]
    exact List.map_congr_left (fun k _ => shuffled.held k)
  rw [held]
  exact moved.map _

/-- The first element does not get behind all of the others. -/
theorem Shuffled.last_ne (shuffled : Shuffled array size length start places 0 main)
    (some : 2 <= length) (distinct : (elements start.memory array size length).Nodup) :
    element main.memory array size (length - 1) ≠ element start.memory array size 0 := by
  have same {k l : Nat} (near : k < length) (near' : l < length)
      (equal : element start.memory array size k = element start.memory array size l) : k = l :=
    List.inj_on_of_nodup_map distinct (List.mem_range.mpr near) (List.mem_range.mpr near') equal
  rw [shuffled.held]
  intro equal
  by_cases two : length = 2
  · -- There is no round, and both elements stay where they are.
    have still := shuffled.still (by omega)
    rw [still, Equiv.Perm.one_apply] at equal
    have zero := same (by omega) (by omega) equal
    omega
  · rcases shuffled.last with stays | comes
    · rw [stays] at equal
      have zero := same (by omega) (by omega) equal
      omega
    · rw [comes] at equal
      have zero := same (by omega) (by omega) equal
      omega

end

/-! ## What is asked of a shuffle -/

/-- Whatever numbers it is given, the shuffle leaves a permutation of the elements, touches nothing
else and restores the reseed frequency. -/
def Permutes (array size : Nat) (length : BitVec 32) (start : MainMemory) : Prop :=
  forall (γ : Type) (gen32 : Routine (Source γ) RandFailure (BitVec 32)), Total gen32 ->
    forall source, Exists fun source' => Exists fun main =>
      shuffleWith gen32 array size length (source, start) = (.ok (), source', main) ∧
        (elements main.memory array size length.toNat).Perm
          (elements start.memory array size length.toNat) ∧
        (forall address, ¬ Within array size length.toNat address ->
          main.memory address = start.memory address) ∧
        (Exists fun more => main.accesses = start.accesses ++ more ∧
          forall access, access ∈ more -> AccessWithin array size length.toNat access) ∧
        source'.rng.reseedFrequency = source.rng.reseedFrequency

/-- A generator that gives the numbers of a sequence. -/
def scripted : Routine (Source (Nat -> BitVec 32)) RandFailure (BitVec 32) := fun source =>
  (.ok (source.entropy 0), { source with entropy := fun n => source.entropy (n + 1) })

/-- Every permutation of distinct elements comes of some sequence of numbers. -/
def ReachesAll (array size : Nat) (length : BitVec 32) (start : MainMemory) : Prop :=
  (elements start.memory array size length.toNat).Nodup ->
    forall target, target.Perm (elements start.memory array size length.toNat) ->
      Exists fun source => Exists fun source' => Exists fun main =>
        shuffleWith scripted array size length (source, start) = (.ok (), source', main) ∧
          elements main.memory array size length.toNat = target

theorem total_scripted : Total scripted := fun _ => ⟨_, _, rfl⟩

theorem permutes (array size : Nat) {length : BitVec 32} (some : 2 <= length.toNat)
    (start : MainMemory) : Permutes array size length start := by
  intro γ gen32 total source
  rcases shuffleWith_shuffled total array size some source start with
    ⟨source', main, places, done, restored, shuffled⟩
  exact ⟨source', main, done, shuffled.perm, shuffled.outside, shuffled.accesses, restored⟩

/-- The elements with the first one behind the others. -/
def rotated (memory : Memory) (array size length : Nat) : List (List (BitVec 8)) :=
  (List.range (length - 1)).map (fun k => element memory array size (k + 1)) ++
    [element memory array size 0]

theorem rotated_perm (memory : Memory) (array size : Nat) {length : Nat} (some : 0 < length) :
    (rotated memory array size length).Perm (elements memory array size length) := by
  rcases length with _ | length
  · exact absurd some (Nat.lt_irrefl 0)
  · have split : elements memory array size (length + 1) =
        element memory array size 0 ::
          (List.range length).map (fun k => element memory array size (k + 1)) := by
      unfold elements
      rw [List.range_succ_eq_map, List.map_cons, List.map_map]
      rfl
    rw [split]
    exact List.perm_append_singleton _ _

theorem elements_getLast (memory : Memory) (array size : Nat) {length : Nat} (some : 0 < length) :
    (elements memory array size length).getLast? =
      .some (element memory array size (length - 1)) := by
  rcases length with _ | length
  · exact absurd some (Nat.lt_irrefl 0)
  · unfold elements
    rw [List.range_succ, List.map_append, List.map_singleton, List.getLast?_concat,
      Nat.add_sub_cancel]

/-- The last element of a rotation is the first one. -/
theorem not_reachesAll (array size : Nat) {length : BitVec 32} (some : 2 <= length.toNat)
    {start : MainMemory} (distinct : (elements start.memory array size length.toNat).Nodup) :
    ¬ ReachesAll array size length start := by
  intro reaches
  rcases reaches distinct _ (rotated_perm start.memory array size (by omega)) with
    ⟨source, source', main, done, rotates⟩
  rcases shuffleWith_shuffled total_scripted array size some source start with
    ⟨_, _, places, done', _, shuffled⟩
  rw [done] at done'
  cases done'
  apply shuffled.last_ne some distinct
  have last := congrArg List.getLast? rotates
  rw [rotated, List.getLast?_concat, elements_getLast _ _ _ (by omega)] at last
  exact Option.some.inj last

/-- What a shuffle is for is what it does, except that not every permutation of distinct elements
can come of it, whatever the numbers are. -/
theorem shuffle_iff (array size : Nat) {length : BitVec 32} (some : 2 <= length.toNat)
    (start : MainMemory) :
    Permutes array size length start ∧ ReachesAll array size length start ↔
      ¬ (elements start.memory array size length.toNat).Nodup := by
  constructor
  · intro shuffles distinct
    exact not_reachesAll array size some distinct shuffles.2
  · intro same
    exact ⟨permutes array size some start, fun distinct => absurd distinct same⟩

/-- The bytes `1`, `2` and `1`. -/
theorem shuffle_iff_twice :
    Permutes 0 1 3 ⟨fun address => if address = 1 then 2 else 1, []⟩ ∧
      ReachesAll 0 1 3 ⟨fun address => if address = 1 then 2 else 1, []⟩ :=
  (shuffle_iff 0 1 (by decide) ⟨fun address => if address = 1 then 2 else 1, []⟩).mpr (by decide)

/-- Two bytes that differ are never swapped. -/
theorem shuffle_apart : ¬ forall (array size : Nat) (length : BitVec 32) (start : MainMemory),
    2 <= length.toNat ->
      Permutes array size length start ∧ ReachesAll array size length start := by
  intro all
  have shuffles := all 0 1 2 ⟨.ofNat 8, []⟩ (by decide)
  exact not_reachesAll 0 1 (by decide) (by decide) shuffles.2

end RandTestutils
end SunburstChip
