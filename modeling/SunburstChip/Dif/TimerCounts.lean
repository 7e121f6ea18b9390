import SunburstChip.Dif.AonTimer
import SunburstChip.Dif.RvTimer

namespace SunburstChip
namespace TimerCounts

open Mmio
open RvTimer (Counter join join_toNat join_halves difRvTimerCounterRead counterReadRounds_reads)
open AonTimer (difAonTimerWakeupGetCount)

/-!
# Reading 64-bit counters

Two drivers read a 64-bit counter in halves.  The one of the RISC-V timer tries
again until the upper half has not changed, and returns the value that the
counter had when the lower half was read.  The one of the always-on timer reads
the lower half a second time when the upper half has changed.  The value it
returns need not be the one at any of its readings, but it lies between the
first and the last of them, and the wakeup counter counts by ones.
-/

/-- The always-on timer, whose wakeup counter follows a trajectory. -/
def aonDevice (counter : Counter) : Device (At AonTimer.Registers) where
  read32 offset s := ({ s.state with
    wkupCountHi := counter.upper s.now
    wkupCountLo := counter.lower s.now }.read32 offset, s)
  write32 offset value s := ⟨s.now, s.state.write32 offset value⟩
  write8 _ _ s := s

/-- Time passes, and the hardware moves. -/
def AonPasses (s s' : At AonTimer.Registers) : Prop :=
  s.now <= s'.now ∧ AonTimer.Hardware s.state s'.state

/-- The counter had this value at some instant between two instants. -/
def Had (counter : Counter) (start final : Nat) (value : BitVec 64) : Prop :=
  Exists fun instant => start <= instant ∧ instant <= final ∧ value.toNat = counter.count instant

section

variable {counter : Counter}

theorem Had.later {start final final' : Nat} {value : BitVec 64} (had : Had counter start final value)
    (later : final <= final') : Had counter start final' value := by
  rcases had with ⟨instant, early, late, same⟩
  exact ⟨instant, early, Nat.le_trans late later, same⟩

/-! ## The RISC-V timer -/

theorem rvTimer_reads {hartId : BitVec 32} (valid : hartId.toNat < RvTimer.rvTimerParamNHarts)
    (rounds : Nat) {s s' : At RvTimer.Comparator} {out : Option (DifResult × Option (BitVec 64))}
    (reading : Exec (RvTimer.device counter) Passes s
      (difRvTimerCounterRead rounds .object hartId .object) s' out) :
    (out = none ∧ rounds < 2 ^ 32) ∨
    Exists fun value => out = some (.kDifOk, some value) ∧ Had counter s.now s'.now value := by
  have checked : difRvTimerCounterRead rounds .object hartId .object =
      (RvTimer.counterReadRounds hartId rounds >>= fun stored =>
        .ret (stored.map (fun value => (DifResult.kDifOk, some value)))) := by
    unfold difRvTimerCounterRead
    rw [if_neg]
    · rfl
    · rintro (null | null | outside)
      · cases null
      · cases null
      · exact absurd valid (Nat.not_lt.mpr outside)
  rw [checked] at reading
  rcases exec_bind reading with ⟨s₁, stored, loop, rest⟩
  rcases exec_ret rest with ⟨same, passes⟩
  have later := passes_later passes
  rcases counterReadRounds_reads valid s.now rounds 0 s s₁ stored ⟨Nat.le_refl _, Nat.zero_le _⟩ loop
    with ⟨none, few⟩ | ⟨value, instant, stored, early, late, had⟩
  · subst none
    exact Or.inl ⟨same, by omega⟩
  · subst stored
    exact Or.inr ⟨value, same, instant, early, Nat.le_trans late later, had⟩

/-! ## The always-on timer -/

theorem aonPasses_later {start : Nat} : Stable AonPasses (fun s => start <= s.now) :=
  fun _ _ passes early => Nat.le_trans early passes.1

/-- The upper half has been read. -/
def ReadHi (counter : Counter) (start : Nat) (countHi : BitVec 32) (s : At AonTimer.Registers) : Prop :=
  Exists fun first => start <= first ∧ first <= s.now ∧ countHi = counter.upper first

/-- And then the lower half. -/
def ReadLo (counter : Counter) (start : Nat) (countHi countLo : BitVec 32)
    (s : At AonTimer.Registers) : Prop :=
  Exists fun first => Exists fun second => start <= first ∧ first <= second ∧ second <= s.now ∧
    countHi = counter.upper first ∧ countLo = counter.lower second

/-- And then the upper half again. -/
def ReadHi2 (counter : Counter) (start : Nat) (countHi countLo countHi2 : BitVec 32)
    (s : At AonTimer.Registers) : Prop :=
  Exists fun first => Exists fun second => Exists fun third => start <= first ∧ first <= second ∧
    second <= third ∧ third <= s.now ∧ countHi = counter.upper first ∧
    countLo = counter.lower second ∧ countHi2 = counter.upper third

theorem readHi_stable (start : Nat) (countHi : BitVec 32) :
    Stable AonPasses (ReadHi counter start countHi) := by
  rintro s s' ⟨later, -⟩ ⟨first, early, late, same⟩
  exact ⟨first, early, Nat.le_trans late later, same⟩

theorem readLo_stable (start : Nat) (countHi countLo : BitVec 32) :
    Stable AonPasses (ReadLo counter start countHi countLo) := by
  rintro s s' ⟨later, -⟩ ⟨first, second, early, middle, late, same⟩
  exact ⟨first, second, early, middle, Nat.le_trans late later, same⟩

theorem readHi2_stable (start : Nat) (countHi countLo countHi2 : BitVec 32) :
    Stable AonPasses (ReadHi2 counter start countHi countLo countHi2) := by
  rintro s s' ⟨later, -⟩ ⟨first, second, third, early, middle, middle', late, same⟩
  exact ⟨first, second, third, early, middle, middle', Nat.le_trans late later, same⟩

theorem had_stable (start : Nat) (value : BitVec 64) :
    Stable AonPasses (fun s => Had counter start s.now value) :=
  fun _ _ passes had => had.later passes.1

/-- Where the upper half has not changed, the value is the one at the second reading. -/
theorem had_unchanged {start : Nat} {countHi countLo countHi2 : BitVec 32}
    {s : At AonTimer.Registers} (read : ReadHi2 counter start countHi countLo countHi2 s)
    (unchanged : countHi2 = countHi) : Had counter start s.now (join countHi countLo) := by
  rcases read with ⟨first, second, third, early, middle, middle', late, rfl, rfl, rfl⟩
  refine ⟨second, Nat.le_trans early middle, Nat.le_trans middle' late, ?_⟩
  rw [<- Trajectory.upper_between middle middle' unchanged]
  exact join_halves counter second

/-- Where it has changed, the value lies between the ones at the first and at the last reading. -/
theorem had_changed (counts : counter.Counts) {start : Nat} {countHi countLo countHi2 : BitVec 32}
    {s : At AonTimer.Registers} (read : ReadHi2 counter start countHi countLo countHi2 s)
    (changed : countHi2 ≠ countHi) :
    Had counter start s.now (join countHi2 (counter.lower s.now)) := by
  rcases read with ⟨first, second, third, early, middle, middle', late, rfl, rfl, rfl⟩
  have between := Trajectory.mixed_between (Nat.le_trans middle middle') late changed
  rw [<- join_toNat] at between
  have later : first <= s.now := Nat.le_trans middle (Nat.le_trans middle' late)
  rcases counts.between later between.1 between.2 with ⟨instant, early', late', same⟩
  exact ⟨instant, Nat.le_trans early early', late', same.symm⟩

theorem aonTimer_reads (counts : counter.Counts) (start : Nat) :
    Triple (aonDevice counter) AonPasses (fun s => start <= s.now)
      (difAonTimerWakeupGetCount .object .object)
      (fun out s => Exists fun value => out = (DifResult.kDifOk, some value) ∧
        Had counter start s.now value) := by
  change Triple _ _ _ (.read32 AonTimer.wkupCountHiRegOffset fun countHi =>
    .read32 AonTimer.wkupCountLoRegOffset fun countLo =>
    .read32 AonTimer.wkupCountHiRegOffset fun countHi2 =>
      if countHi2 ≠ countHi then
        .read32 AonTimer.wkupCountLoRegOffset fun countLo =>
          .ret (DifResult.kDifOk, some (countLo.setWidth 64 ||| (countHi2.setWidth 64 <<< 32)))
      else .ret (DifResult.kDifOk, some (countLo.setWidth 64 ||| (countHi.setWidth 64 <<< 32)))) _
  refine Triple.read32 (ReadHi counter start) aonPasses_later ?_ ?_
  · exact fun s early => ⟨s.now, early, Nat.le_refl _, rfl⟩
  intro countHi
  refine Triple.read32 (ReadLo counter start countHi) (readHi_stable start countHi) ?_ ?_
  · rintro s ⟨first, early, late, same⟩
    exact ⟨first, s.now, early, late, Nat.le_refl _, same, rfl⟩
  intro countLo
  refine Triple.read32 (ReadHi2 counter start countHi countLo) (readLo_stable start countHi countLo) ?_ ?_
  · rintro s ⟨first, second, early, middle, late, sameHi, sameLo⟩
    exact ⟨first, second, s.now, early, middle, late, Nat.le_refl _, sameHi, sameLo, rfl⟩
  intro countHi2
  by_cases changed : countHi2 ≠ countHi
  · rw [if_pos changed]
    refine Triple.read32 (fun countLo s => Had counter start s.now (join countHi2 countLo))
      (readHi2_stable start countHi countLo countHi2) ?_ ?_
    · exact fun s read => had_changed counts read changed
    intro countLo
    refine Triple.ret (had_stable start _) (fun s had => ⟨join countHi2 countLo, ?_, had⟩)
    rw [join, BitVec.or_comm]
  · rw [if_neg changed]
    refine Triple.ret (readHi2_stable start countHi countLo countHi2) (fun s read =>
      ⟨join countHi countLo, ?_, had_unchanged read (not_not.mp changed)⟩)
    rw [join, BitVec.or_comm]

end

/-! ## Both timers -/

/-- Both functions return a value that the counter had while they were called.
The loop of the first one ends, because the upper half cannot rise for ever. -/
theorem counts_linearizable (counter : Counter) :
    (forall hartId : BitVec 32, hartId.toNat < RvTimer.rvTimerParamNHarts ->
      forall rounds s s' out, Exec (RvTimer.device counter) Passes s
        (difRvTimerCounterRead rounds .object hartId .object) s' out ->
      (out = none ∧ rounds < 2 ^ 32) ∨
      Exists fun value => out = some (.kDifOk, some value) ∧ Had counter s.now s'.now value) ∧
    (counter.Counts -> forall s s' out,
      Exec (aonDevice counter) AonPasses s (difAonTimerWakeupGetCount .object .object) s' out ->
      Exists fun value => out = (.kDifOk, some value) ∧ Had counter s.now s'.now value) := by
  constructor
  · exact fun hartId valid rounds s s' out => rvTimer_reads valid rounds
  · exact fun counts s s' out => aonTimer_reads counts s.now s s' out (Nat.le_refl _)

/-- A counter whose upper half is about to change. -/
def rollingOver : Counter where
  count t := min (0xfffffffe + t) 0x1ffffffff
  rises t t' later := by
    change min (0xfffffffe + t) 0x1ffffffff <= min (0xfffffffe + t') 0x1ffffffff
    omega
  inside t := by
    omega

/-- The lower half wraps between the first two reads, and goes on before the last ones. -/
theorem counts_linearizable_rollingOver :
    ((some (DifResult.kDifOk, some 0x100000003#64) = none ∧ 2 < 2 ^ 32) ∨
      Exists fun value => some (DifResult.kDifOk, some 0x100000003#64) = some (.kDifOk, some value) ∧
        Had rollingOver 0 5 value) ∧
    Exists fun value => (DifResult.kDifOk, some 0x100000003#64) = (.kDifOk, some value) ∧
      Had rollingOver 0 5 value := by
  have wraps {σ : Type} (state : σ) : Passes ⟨0, state⟩ ⟨3, state⟩ := ⟨Nat.le_of_ble_eq_true rfl, rfl⟩
  have goesOn {σ : Type} (state : σ) : Passes ⟨3, state⟩ ⟨5, state⟩ := ⟨Nat.le_of_ble_eq_true rfl, rfl⟩
  have reading : Exec (RvTimer.device rollingOver) Passes ⟨0, ⟨0, 0, []⟩⟩
      (difRvTimerCounterRead 2 .object 0 .object) ⟨5, ⟨0, 0, []⟩⟩
      (some (.kDifOk, some 0x100000003)) :=
    .read32 _ _ (.env (wraps _) (.read32 _ _ (.read32 _ _ (.read32 _ _ (.env (goesOn _)
      (.read32 _ _ (.read32 _ _ (.ret _ _))))))))
  have aonWraps : AonPasses ⟨0, AonTimer.Registers.reset⟩ ⟨3, AonTimer.Registers.reset⟩ :=
    ⟨by decide, _, _, _, _, _, rfl⟩
  have aonGoesOn : AonPasses ⟨3, AonTimer.Registers.reset⟩ ⟨5, AonTimer.Registers.reset⟩ :=
    ⟨by decide, _, _, _, _, _, rfl⟩
  have aonReading : Exec (aonDevice rollingOver) AonPasses ⟨0, AonTimer.Registers.reset⟩
      (difAonTimerWakeupGetCount .object .object) ⟨5, AonTimer.Registers.reset⟩
      (.kDifOk, some 0x100000003) :=
    .read32 _ _ (.env aonWraps (.read32 _ _ (.read32 _ _ (.env aonGoesOn
      (.read32 _ _ (.ret _ _))))))
  have counts : rollingOver.Counts := by
    intro t
    change min (0xfffffffe + (t + 1)) 0x1ffffffff <= min (0xfffffffe + t) 0x1ffffffff + 1
    omega
  exact ⟨(counts_linearizable rollingOver).1 0 (by decide) 2 _ _ _ reading,
    (counts_linearizable rollingOver).2 counts _ _ _ aonReading⟩

end TimerCounts
end SunburstChip
