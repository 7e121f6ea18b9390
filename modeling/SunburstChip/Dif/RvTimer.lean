import SunburstChip.Dif.Base
import SunburstChip.Lib.Trajectory

namespace SunburstChip
namespace RvTimer

open Mmio

/-!
# The RISC-V timer

Reading the 64-bit counter and arming the comparator, as `dif_rv_timer.c` does.
The processor reads and writes 32 bits at a time while the counter goes on.
There is one hart with one timer.

The upper half of the compare value is all ones while the lower half is
replaced.  As long as the upper half of the counter is not all ones itself, no
compare value on the way is reached.
-/

abbrev rvTimerParamNHarts : Nat := 1
abbrev rvTimerParamNTimers : Nat := 1
abbrev timerVLower0RegOffset : Nat := 0x110
abbrev timerVUpper0RegOffset : Nat := 0x114
abbrev compareLower00RegOffset : Nat := 0x118
abbrev compareUpper00RegOffset : Nat := 0x11c

/-- The counter of the timer. -/
abbrev Counter : Type := Trajectory 32

/-! ## The device -/

/-- The comparator: its registers, and what their values together have been after
each write, with the instant of the write. -/
structure Comparator where
  compareLower : BitVec 32
  compareUpper : BitVec 32
  writes : List (Nat × BitVec 64)
  deriving DecidableEq

/-- Two halves put together. -/
def join (upper lower : BitVec 32) : BitVec 64 := (upper.setWidth 64 <<< 32) ||| lower.setWidth 64

/-- The compare value in force. -/
def Comparator.compare (comparator : Comparator) : BitVec 64 :=
  join comparator.compareUpper comparator.compareLower

/-- The comparator after a write. -/
def Comparator.written (now : Nat) (comparator : Comparator) : Comparator :=
  { comparator with writes := comparator.writes ++ [(now, comparator.compare)] }

/-- A timer whose counter follows a trajectory. -/
def device (counter : Counter) : Device (At Comparator) where
  read32 offset s :=
    match offset with
    | 0x110 => (counter.lower s.now, s)
    | 0x114 => (counter.upper s.now, s)
    | 0x118 => (s.state.compareLower, s)
    | 0x11c => (s.state.compareUpper, s)
    | _ => (0, s)
  write32 offset value s :=
    match offset with
    | 0x118 => ⟨s.now, { s.state with compareLower := value }.written s.now⟩
    | 0x11c => ⟨s.now, { s.state with compareUpper := value }.written s.now⟩
    | _ => s
  write8 _ _ s := s

/-! ## The driver -/

/-- `reg_for_hart` -/
def regForHart (hart : BitVec 32) (regOffset : Nat) : Nat := 0x100 * hart.toNat + regOffset

/-- The loop of `dif_rv_timer_counter_read`, for a number of rounds at most. -/
def counterReadRounds (hartId : BitVec 32) : Nat -> Mmio (Option (BitVec 64))
  | 0 => .ret none
  | rounds + 1 => do
      let upper <- mmioRegionRead32 (regForHart hartId timerVUpper0RegOffset)
      let lower <- mmioRegionRead32 (regForHart hartId timerVLower0RegOffset)
      let overflowCheck <- mmioRegionRead32 (regForHart hartId timerVUpper0RegOffset)
      if upper = overflowCheck then return some (join upper lower)
      else counterReadRounds hartId rounds

/-- `dif_rv_timer_counter_read`: the result and what is stored, unless the loop
is still going on after so many rounds. -/
def difRvTimerCounterRead (rounds : Nat) (timer : Pointer) (hartId : BitVec 32) (out : Pointer) :
    Mmio (Option (DifResult × Option (BitVec 64))) := do
  if timer = .null ∨ out = .null ∨ rvTimerParamNHarts <= hartId.toNat then
    return some (.kDifBadArg, none)
  let stored <- counterReadRounds hartId rounds
  return stored.map (fun value => (.kDifOk, some value))

/-- `dif_rv_timer_arm` -/
def difRvTimerArm (timer : Pointer) (hartId compId : BitVec 32) (threshold : BitVec 64) :
    Mmio DifResult := do
  if timer = .null ∨ rvTimerParamNHarts <= hartId.toNat ∨ rvTimerParamNTimers <= compId.toNat then
    return .kDifBadArg
  let lower := threshold.setWidth 32
  let upper := (threshold >>> 32).setWidth 32
  let lowerReg := regForHart hartId compareLower00RegOffset + 8 * compId.toNat
  let upperReg := regForHart hartId compareUpper00RegOffset + 8 * compId.toNat
  mmioRegionWrite32 upperReg 0xffffffff
  mmioRegionWrite32 lowerReg lower
  mmioRegionWrite32 upperReg upper
  return .kDifOk

/-! ## Halves -/

theorem join_toNat (upper lower : BitVec 32) :
    (join upper lower).toNat = upper.toNat * 2 ^ 32 + lower.toNat := by
  have shifted : (upper.setWidth 64 <<< 32).toNat = upper.toNat <<< 32 := by
    rw [BitVec.toNat_shiftLeft, BitVec.toNat_setWidth, Nat.shiftLeft_eq, Nat.shiftLeft_eq]
    have most := upper.isLt
    rw [Nat.mod_eq_of_lt (by omega), Nat.mod_eq_of_lt (by omega)]
  have low : (lower.setWidth 64).toNat = lower.toNat := by
    rw [BitVec.toNat_setWidth, Nat.mod_eq_of_lt]
    exact Nat.lt_of_lt_of_le lower.isLt (by decide)
  rw [join, BitVec.toNat_or, shifted, low, <- Nat.shiftLeft_add_eq_or_of_lt lower.isLt, Nat.shiftLeft_eq]

theorem join_halves (counter : Counter) (t : Nat) :
    (join (counter.upper t) (counter.lower t)).toNat = counter.count t := by
  rw [join_toNat]
  exact Trajectory.halves t

/-- A threshold is put together from its halves. -/
theorem join_split (threshold : BitVec 64) :
    join ((threshold >>> 32).setWidth 32) (threshold.setWidth 32) = threshold := by
  apply BitVec.eq_of_toNat_eq
  rw [join_toNat, BitVec.toNat_setWidth, BitVec.toNat_setWidth, BitVec.toNat_ushiftRight,
    Nat.shiftRight_eq_div_pow]
  have most := threshold.isLt
  omega

/-! ## Reading the counter -/

section

variable {counter : Counter}
variable {hartId lower upper : BitVec 32} {s start : At Comparator} {log : List (Nat × BitVec 64)}

theorem only_hart (valid : hartId.toNat < rvTimerParamNHarts) : hartId = 0 :=
  BitVec.eq_of_toNat_eq (Nat.lt_one_iff.mp valid)

/-- The upper half had this value at some instant. -/
def SawUpper (counter : Counter) (least start : Nat) (upper : BitVec 32) (s : At Comparator) : Prop :=
  Exists fun before => start <= before ∧ before <= s.now ∧ upper = counter.upper before ∧
    least <= upper.toNat

theorem sawUpper_stable (least start : Nat) (upper : BitVec 32) :
    Stable Passes (SawUpper counter least start upper) := by
  rintro s s' ⟨later, -⟩ ⟨before, early, late, same, enough⟩
  exact ⟨before, early, Nat.le_trans late later, same, enough⟩

/-- After that, the lower half had this value. -/
def SawLower (counter : Counter) (least start : Nat) (upper lower : BitVec 32) (s : At Comparator) :
    Prop :=
  Exists fun before => Exists fun instant => start <= before ∧ before <= instant ∧
    instant <= s.now ∧ upper = counter.upper before ∧ lower = counter.lower instant ∧
    least <= upper.toNat

theorem sawLower_stable (least start : Nat) (upper lower : BitVec 32) :
    Stable Passes (SawLower counter least start upper lower) := by
  rintro s s' ⟨later, -⟩ ⟨before, instant, early, middle, late, same⟩
  exact ⟨before, instant, early, middle, Nat.le_trans late later, same⟩

/-- The value that is returned is the one of an instant at which the upper half
was the same before and afterwards.  Every round that is not the last one sees
the upper half rise, so that there are not more of them than it has values. -/
theorem counterReadRounds_reads (valid : hartId.toNat < rvTimerParamNHarts)
    (start rounds least : Nat) :
    Triple (device counter) Passes
      (fun s => start <= s.now ∧ least <= (counter.upper s.now).toNat)
      (counterReadRounds hartId rounds)
      (fun out s => (out = none ∧ least + rounds < 2 ^ 32) ∨
        Exists fun value => Exists fun instant => out = some value ∧ start <= instant ∧
          instant <= s.now ∧ value.toNat = counter.count instant) := by
  have stable (least : Nat) : Stable Passes (fun s : At Comparator =>
      start <= s.now ∧ least <= (counter.upper s.now).toNat) := by
    rintro s s' ⟨later, -⟩ ⟨early, enough⟩
    exact ⟨Nat.le_trans early later, Nat.le_trans enough (Trajectory.upper_rises later)⟩
  rw [only_hart valid]
  induction rounds generalizing least with
  | zero =>
      change Triple _ _ _ (.ret none) _
      refine Triple.ret (stable least) ?_
      rintro s ⟨-, enough⟩
      exact Or.inl ⟨rfl, Nat.lt_of_le_of_lt enough (counter.upper s.now).isLt⟩
  | succ rounds ih =>
      change Triple _ _ _ (.read32 timerVUpper0RegOffset fun upper =>
        .read32 timerVLower0RegOffset fun lower => .read32 timerVUpper0RegOffset fun overflowCheck =>
          if upper = overflowCheck then .ret (some (join upper lower))
          else counterReadRounds 0 rounds) _
      refine Triple.read32 (SawUpper counter least start) (stable least) ?_ ?_
      · rintro s ⟨early, enough⟩
        exact ⟨s.now, early, Nat.le_refl _, rfl, enough⟩
      intro upper
      refine Triple.read32 (SawLower counter least start upper) (sawUpper_stable least start upper) ?_ ?_
      · rintro s ⟨before, early, late, same, enough⟩
        exact ⟨before, s.now, early, late, Nat.le_refl _, same, rfl, enough⟩
      intro lower
      refine Triple.read32 (fun overflowCheck s => SawLower counter least start upper lower s ∧
        upper.toNat <= overflowCheck.toNat ∧ overflowCheck.toNat <= (counter.upper s.now).toNat ∧
        (upper = overflowCheck -> Exists fun instant => start <= instant ∧ instant <= s.now ∧
          (join upper lower).toNat = counter.count instant)) (sawLower_stable least start upper lower) ?_ ?_
      · rintro s ⟨before, instant, early, middle, late, sameUpper, sameLower, enough⟩
        subst sameUpper sameLower
        refine ⟨⟨before, instant, early, middle, late, rfl, rfl, enough⟩,
          Trajectory.upper_rises (Nat.le_trans middle late), Nat.le_refl _, ?_⟩
        intro unchanged
        refine ⟨instant, Nat.le_trans early middle, late, ?_⟩
        rw [<- Trajectory.upper_between middle late unchanged.symm]
        exact join_halves counter instant
      intro overflowCheck
      by_cases unchanged : upper = overflowCheck
      · rw [if_pos unchanged]
        have stable' : Stable Passes (fun s : At Comparator => Exists fun instant =>
            start <= instant ∧ instant <= s.now ∧ (join upper lower).toNat = counter.count instant) := by
          rintro s s' ⟨later, -⟩ ⟨instant, early, late, same⟩
          exact ⟨instant, early, Nat.le_trans late later, same⟩
        have returned : Triple (device counter) Passes (fun s : At Comparator => Exists fun instant =>
            start <= instant ∧ instant <= s.now ∧ (join upper lower).toNat = counter.count instant)
            (.ret (some (join upper lower))) (fun out s => (out = none ∧ least + (rounds + 1) < 2 ^ 32) ∨
              Exists fun value => Exists fun instant => out = some value ∧ start <= instant ∧
                instant <= s.now ∧ value.toNat = counter.count instant) := by
          refine Triple.ret stable' ?_
          rintro s ⟨instant, early, late, same⟩
          exact Or.inr ⟨_, instant, rfl, early, late, same⟩
        exact returned.consequence (fun s saw => saw.2.2.2 unchanged) (fun _ _ holds => holds)
      · rw [if_neg unchanged]
        refine (ih (least + 1)).consequence ?_ ?_
        · rintro s ⟨⟨before, instant, early, middle, late, -, -, enough⟩, rises, reached, -⟩
          refine ⟨Nat.le_trans early (Nat.le_trans middle late), ?_⟩
          have rose : upper.toNat < overflowCheck.toNat :=
            Nat.lt_of_le_of_ne rises (fun same => unchanged (BitVec.eq_of_toNat_eq same))
          omega
        · rintro out s (⟨none, few⟩ | returned)
          · exact Or.inl ⟨none, by omega⟩
          · exact Or.inr returned

/-! ## Arming the timer -/

/-- From one instant to another one, the counter is below the compare value,
unless it has reached the threshold. -/
def Below (counter : Counter) (threshold compare : BitVec 64) (earliest latest : Nat) : Prop :=
  forall instant, earliest <= instant -> instant <= latest ->
    counter.count instant < compare.toNat ∨ threshold.toNat <= counter.count instant

/-- From each write to the next one, and from the last one on, the counter is
below the compare value in force. -/
def QuietSince (counter : Counter) (threshold : BitVec 64) (latest : Nat) :
    List (Nat × BitVec 64) -> Prop
  | [] => True
  | [(instant, compare)] => Below counter threshold compare instant latest
  | (instant, compare) :: (instant', compare') :: rest =>
      Below counter threshold compare instant instant' ∧
        QuietSince counter threshold latest ((instant', compare') :: rest)

/-- What has been written since a start, in order, and the registers afterwards. -/
structure Wrote (start : At Comparator) (log : List (Nat × BitVec 64)) (lower upper : BitVec 32)
    (s : At Comparator) : Prop where
  registers : s.state = ⟨lower, upper, start.state.writes ++ log⟩
  ordered : log.Pairwise (fun earlier later => earlier.1 <= later.1)
  since : forall entry, entry ∈ log -> start.now <= entry.1 ∧ entry.1 <= s.now
  later : start.now <= s.now

theorem Wrote.passes {s' : At Comparator} (wrote : Wrote start log lower upper s)
    (passes : Passes s s') :
    Wrote start log lower upper s' where
  registers := passes.2.trans wrote.registers
  ordered := wrote.ordered
  since := fun entry listed =>
    ⟨(wrote.since entry listed).1, Nat.le_trans (wrote.since entry listed).2 passes.1⟩
  later := Nat.le_trans wrote.later passes.1

/-- Another write. -/
theorem Wrote.write (wrote : Wrote start log lower upper s) (lower' upper' : BitVec 32) :
    Wrote start (log ++ [(s.now, join upper' lower')]) lower' upper'
      ⟨s.now, Comparator.written s.now ⟨lower', upper', s.state.writes⟩⟩ where
  registers := by
    rw [wrote.registers, Comparator.written, Comparator.compare, List.append_assoc]
  ordered := by
    rw [List.pairwise_append]
    refine ⟨wrote.ordered, List.pairwise_singleton _ _, ?_⟩
    intro entry listed last isLast
    rw [List.mem_singleton.mp isLast]
    exact (wrote.since entry listed).2
  since := by
    intro entry listed
    rcases List.mem_append.mp listed with earlier | last
    · exact wrote.since entry earlier
    · rw [List.mem_singleton.mp last]
      exact ⟨wrote.later, Nat.le_refl _⟩
  later := wrote.later

/-- These compare values have been in force since a start, one after the other. -/
def Compared (start : At Comparator) (compares : List (BitVec 64)) (lower upper : BitVec 32)
    (s : At Comparator) : Prop :=
  Exists fun log => log.map Prod.snd = compares ∧ Wrote start log lower upper s

theorem compared_stable (start : At Comparator) (compares : List (BitVec 64)) (lower upper : BitVec 32) :
    Stable Passes (Compared start compares lower upper) := by
  rintro s s' passes ⟨log, same, wrote⟩
  exact ⟨log, same, wrote.passes passes⟩

theorem Compared.writeLower {compares : List (BitVec 64)}
    (compared : Compared start compares lower upper s) (value : BitVec 32) :
    Compared start (compares ++ [join upper value]) value upper
      ((device counter).write32 compareLower00RegOffset value s) := by
  rcases compared with ⟨log, same, wrote⟩
  refine ⟨log ++ [(s.now, join upper value)], by rw [List.map_append, same]; rfl, ?_⟩
  have next := wrote.write value upper
  rw [wrote.registers] at next
  change Wrote _ _ _ _ ⟨s.now, Comparator.written s.now { s.state with compareLower := value }⟩
  rw [wrote.registers]
  exact next

theorem Compared.writeUpper {compares : List (BitVec 64)}
    (compared : Compared start compares lower upper s) (value : BitVec 32) :
    Compared start (compares ++ [join value lower]) lower value
      ((device counter).write32 compareUpper00RegOffset value s) := by
  rcases compared with ⟨log, same, wrote⟩
  refine ⟨log ++ [(s.now, join value lower)], by rw [List.map_append, same]; rfl, ?_⟩
  have next := wrote.write lower value
  rw [wrote.registers] at next
  change Wrote _ _ _ _ ⟨s.now, Comparator.written s.now { s.state with compareUpper := value }⟩
  rw [wrote.registers]
  exact next

/-- The three writes. -/
theorem arm_writes (start : At Comparator) {compId : BitVec 32}
    (validHart : hartId.toNat < rvTimerParamNHarts)
    (validComp : compId.toNat < rvTimerParamNTimers) (threshold : BitVec 64) :
    Triple (device counter) Passes
      (Compared start [] start.state.compareLower start.state.compareUpper)
      (difRvTimerArm .object hartId compId threshold)
      (fun out s => out = DifResult.kDifOk ∧ Compared start [join 0xffffffff start.state.compareLower,
        join 0xffffffff (threshold.setWidth 32), threshold]
        (threshold.setWidth 32) ((threshold >>> 32).setWidth 32) s) := by
  have comp : compId = 0 := BitVec.eq_of_toNat_eq (Nat.lt_one_iff.mp validComp)
  rw [only_hart validHart, comp]
  change Triple _ _ _ (.write32 compareUpper00RegOffset 0xffffffff
    (.write32 compareLower00RegOffset (threshold.setWidth 32)
    (.write32 compareUpper00RegOffset ((threshold >>> 32).setWidth 32) (.ret DifResult.kDifOk)))) _
  refine Triple.write32 _ (compared_stable _ _ _ _) (fun s compared => compared.writeUpper _) ?_
  refine Triple.write32 _ (compared_stable _ _ _ _) (fun s compared => compared.writeLower _) ?_
  refine Triple.write32 _ (compared_stable _ _ _ _) (fun s compared => compared.writeUpper _) ?_
  refine Triple.ret (compared_stable _ _ _ _) ?_
  intro s compared
  rw [join_split] at compared
  exact ⟨rfl, compared⟩

/-- A compare value that the counter does not reach while a timer is armed. -/
def Safe (threshold compare : BitVec 64) : Prop :=
  2 ^ 64 - 2 ^ 32 <= compare.toNat ∨ compare = threshold

theorem quietSince_safe {threshold : BitVec 64} {earliest latest : Nat}
    (below : forall instant, earliest <= instant -> instant <= latest ->
      counter.count instant < 2 ^ 64 - 2 ^ 32)
    (within : forall entry, entry ∈ log -> earliest <= entry.1 ∧ entry.1 <= latest)
    (safe : forall entry, entry ∈ log -> Safe threshold entry.2) :
    QuietSince counter threshold latest log := by
  have until' (entry : Nat × BitVec 64) (listed : entry ∈ log) (last : Nat) (inside : last <= latest) :
      Below counter threshold entry.2 entry.1 last := by
    intro instant early late
    rcases safe entry listed with high | same
    · have low := below instant (Nat.le_trans (within entry listed).1 early) (Nat.le_trans late inside)
      exact Or.inl (Nat.lt_of_lt_of_le low high)
    · rw [same]
      exact Nat.lt_or_ge _ _
  induction log with
  | nil => trivial
  | cons entry log ih =>
      have rest := ih (fun other listed => within other (List.mem_cons_of_mem _ listed))
        (fun other listed => safe other (List.mem_cons_of_mem _ listed))
        (fun other listed => until' other (List.mem_cons_of_mem _ listed))
      cases log with
      | nil => exact until' entry List.mem_cons_self latest (Nat.le_refl _)
      | cons entry' log =>
          have inside := (within entry' (List.mem_cons_of_mem _ List.mem_cons_self)).2
          exact ⟨until' entry List.mem_cons_self entry'.1 inside, rest⟩

/-- While a timer is armed, no compare value that is in force from a write on is
reached before the threshold is, and in the end it is the threshold. -/
theorem arm_quiet {start s : At Comparator} {hartId compId : BitVec 32}
    (validHart : hartId.toNat < rvTimerParamNHarts) (validComp : compId.toNat < rvTimerParamNTimers)
    (threshold : BitVec 64) {out : DifResult}
    (armed : Exec (device counter) Passes start (difRvTimerArm .object hartId compId threshold) s out)
    (below : forall instant, start.now <= instant -> instant <= s.now ->
      counter.count instant < 2 ^ 64 - 2 ^ 32) :
    out = .kDifOk ∧ s.state.compare = threshold ∧
    Exists fun log => s.state.writes = start.state.writes ++ log ∧ log.length = 3 ∧
      log.Pairwise (fun earlier later => earlier.1 <= later.1) ∧
      QuietSince counter threshold s.now log := by
  have begins : Compared start [] start.state.compareLower start.state.compareUpper start := by
    refine ⟨[], rfl, ?_, List.Pairwise.nil, nofun, Nat.le_refl _⟩
    rw [List.append_nil]
  rcases arm_writes start validHart validComp threshold start s out begins armed
    with ⟨ok, log, compares, wrote⟩
  have ones (lower : BitVec 32) : 2 ^ 64 - 2 ^ 32 <= (join 0xffffffff lower).toNat := by
    rw [join_toNat]
    change _ <= 4294967295 * 2 ^ 32 + lower.toNat
    omega
  refine ⟨ok, ?_, log, ?_, ?_, wrote.ordered, ?_⟩
  · rw [wrote.registers]
    exact join_split threshold
  · rw [wrote.registers]
  · rw [<- List.length_map Prod.snd, compares]
    rfl
  · apply quietSince_safe below wrote.since
    intro entry listed
    have value := List.mem_map_of_mem (f := Prod.snd) listed
    rw [compares] at value
    rcases List.mem_cons.mp value with first | value
    · rw [first]
      exact Or.inl (ones _)
    rcases List.mem_cons.mp value with second | value
    · rw [second]
      exact Or.inl (ones _)
    · exact Or.inr (List.mem_singleton.mp value)

end

/-- A counter that goes up to a hundred. -/
def hundred : Counter where
  count t := min t 100
  rises t t' later := by
    change min t 100 <= min t' 100
    omega
  inside t := by
    omega

/-- A comparator that has been armed. -/
def armed : At Comparator :=
  ⟨3, ⟨0x10, 1, [(3, join 0xffffffff 5), (3, join 0xffffffff 0x10), (3, join 1 0x10)]⟩⟩

theorem arm_quiet_hundred :
    DifResult.kDifOk = .kDifOk ∧ armed.state.compare = 0x100000010 ∧
    Exists fun log => armed.state.writes = [] ++ log ∧ log.length = 3 ∧
      log.Pairwise (fun earlier later => earlier.1 <= later.1) ∧
      QuietSince hundred 0x100000010 armed.now log := by
  have arming : Exec (device hundred) Passes ⟨3, ⟨5, 0, []⟩⟩
      (difRvTimerArm .object 0 0 0x100000010) armed .kDifOk := exec_of_run (by rfl)
  have below (instant : Nat) (_ : 3 <= instant) (_ : instant <= armed.now) :
      hundred.count instant < 2 ^ 64 - 2 ^ 32 := by
    change min instant 100 < 2 ^ 64 - 2 ^ 32
    omega
  exact arm_quiet (by decide) (by decide) 0x100000010 arming below

end RvTimer
end SunburstChip
