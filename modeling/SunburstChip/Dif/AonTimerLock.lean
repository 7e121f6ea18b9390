import SunburstChip.Dif.AonTimer

namespace SunburstChip
namespace AonTimer

open Mmio

/-!
# What locking the watchdog achieves

A run is any sequence of driver calls, each executed while the hardware moves
the counters, the interrupt state and the wakeup cause at will.  The lock is
honoured in a run when, after a call that was asked to lock and returned
`kDifOk`, every later call that consults the lock finds it set and changes
nothing.

The lock is one bit that software clears by writing zero, and the driver
writes one.  So the bit never changes over any call, and the lock is honoured
exactly where nothing depends on it.
-/

/-! ## Calls and runs -/

/-- A call of one of the driver's functions. -/
inductive Call where
  | wakeupStart (aon : Pointer) (threshold : BitVec 64) (prescaler : BitVec 32)
  | wakeupStop (aon : Pointer)
  | wakeupRestart (aon : Pointer)
  | wakeupIsEnabled (aon isEnabled : Pointer)
  | getWakeupCause (aon cause : Pointer)
  | clearWakeupCause (aon : Pointer)
  | wakeupGetCount (aon count : Pointer)
  | watchdogStart (aon : Pointer) (barkThreshold biteThreshold : BitVec 32)
      (pauseInSleep lock : Bool)
  | watchdogStop (aon : Pointer)
  | watchdogRestart (aon : Pointer)
  | watchdogIsEnabled (aon isEnabled : Pointer)
  | watchdogGetCount (aon count : Pointer)
  | watchdogPet (aon : Pointer)
  | watchdogLock (aon : Pointer)
  | watchdogIsLocked (aon isLocked : Pointer)
  | irqGetState (aonTimer snapshot : Pointer)
  | irqAcknowledgeState (aonTimer : Pointer) (snapshot : BitVec 32)
  | irqIsPending (aonTimer : Pointer) (irq : Nat) (isPending : Pointer)
  | irqAcknowledgeAll (aonTimer : Pointer)
  | irqAcknowledge (aonTimer : Pointer) (irq : Nat)
  | irqForce (aonTimer : Pointer) (irq : Nat) (val : Bool)
  deriving DecidableEq

/-- What a call returns, with what it stores through its output pointer. -/
inductive Reply where
  | status (result : DifResult)
  | flag (result : DifResult) (stored : Option Bool)
  | word (result : DifResult) (stored : Option (BitVec 32))
  | count (result : DifResult) (stored : Option (BitVec 64))
  deriving DecidableEq

/-- The function a call is of, applied to its arguments. -/
def Call.perform : Call -> Mmio Reply
  | .wakeupStart aon threshold prescaler => do
      return .status (<- difAonTimerWakeupStart aon threshold prescaler)
  | .wakeupStop aon => do return .status (<- difAonTimerWakeupStop aon)
  | .wakeupRestart aon => do return .status (<- difAonTimerWakeupRestart aon)
  | .wakeupIsEnabled aon isEnabled => do
      let reply <- difAonTimerWakeupIsEnabled aon isEnabled
      return .flag reply.1 reply.2
  | .getWakeupCause aon cause => do
      let reply <- difAonTimerGetWakeupCause aon cause
      return .flag reply.1 reply.2
  | .clearWakeupCause aon => do return .status (<- difAonTimerClearWakeupCause aon)
  | .wakeupGetCount aon count => do
      let reply <- difAonTimerWakeupGetCount aon count
      return .count reply.1 reply.2
  | .watchdogStart aon barkThreshold biteThreshold pauseInSleep lock => do
      return .status
        (<- difAonTimerWatchdogStart aon barkThreshold biteThreshold pauseInSleep lock)
  | .watchdogStop aon => do return .status (<- difAonTimerWatchdogStop aon)
  | .watchdogRestart aon => do return .status (<- difAonTimerWatchdogRestart aon)
  | .watchdogIsEnabled aon isEnabled => do
      let reply <- difAonTimerWatchdogIsEnabled aon isEnabled
      return .flag reply.1 reply.2
  | .watchdogGetCount aon count => do
      let reply <- difAonTimerWatchdogGetCount aon count
      return .word reply.1 reply.2
  | .watchdogPet aon => do return .status (<- difAonTimerWatchdogPet aon)
  | .watchdogLock aon => do return .status (<- difAonTimerWatchdogLock aon)
  | .watchdogIsLocked aon isLocked => do
      let reply <- difAonTimerWatchdogIsLocked aon isLocked
      return .flag reply.1 reply.2
  | .irqGetState aonTimer snapshot => do
      let reply <- difAonTimerIrqGetState aonTimer snapshot
      return .word reply.1 reply.2
  | .irqAcknowledgeState aonTimer snapshot => do
      return .status (<- difAonTimerIrqAcknowledgeState aonTimer snapshot)
  | .irqIsPending aonTimer irq isPending => do
      let reply <- difAonTimerIrqIsPending aonTimer irq isPending
      return .flag reply.1 reply.2
  | .irqAcknowledgeAll aonTimer => do return .status (<- difAonTimerIrqAcknowledgeAll aonTimer)
  | .irqAcknowledge aonTimer irq => do
      return .status (<- difAonTimerIrqAcknowledge aonTimer irq)
  | .irqForce aonTimer irq val => do return .status (<- difAonTimerIrqForce aonTimer irq val)

/-- The call asks, through a valid handle, for the watchdog to be locked. -/
def Call.RequestsLock : Call -> Bool
  | .watchdogLock .object => true
  | .watchdogStart .object _ _ _ lock => lock
  | _ => false

/-- The call consults, through valid pointers, whether the watchdog is locked. -/
def Call.ConsultsLock : Call -> Bool
  | .watchdogStart .object _ _ _ _ => true
  | .watchdogStop .object => true
  | .watchdogRestart .object => true
  | .watchdogIsLocked .object .object => true
  | _ => false

/-- One executed call of a run. -/
structure Event where
  before : Registers
  call : Call
  reply : Reply
  after : Registers

/-- `Run regs events regs'`: from `regs` the calls of `events` were executed
one after the other, leaving `regs'`. -/
inductive Run : Registers -> List Event -> Registers -> Prop where
  | nil (regs : Registers) : Run regs [] regs
  | cons {before after last : Registers} {events : List Event} (call : Call) (reply : Reply)
      (execution : Exec device Hardware before call.perform after reply)
      (rest : Run after events last) : Run before (⟨before, call, reply, after⟩ :: events) last

/-- The registers have only been moved by the hardware. -/
def OnlyHardware : Registers -> Registers -> Prop := Relation.ReflTransGen Hardware

/-- The call was asked to lock the watchdog and reported success. -/
def Event.Locks (event : Event) : Prop :=
  event.call.RequestsLock = true ∧ event.reply = .status .kDifOk

/-- What the call has to do if the watchdog is locked: report it as locked, or
refuse to change anything. -/
def Event.RespectsLock (event : Event) : Prop :=
  match event.call with
  | .watchdogIsLocked .object .object => event.reply = .flag .kDifOk (some true)
  | .watchdogStart .object _ _ _ _ | .watchdogStop .object | .watchdogRestart .object =>
      event.reply = .status .kDifLocked ∧ OnlyHardware event.before event.after
  | _ => True

/-- Once a call has locked the watchdog, every later call respects the lock. -/
def LockHonoured (events : List Event) : Prop :=
  events.Pairwise (fun earlier later => earlier.Locks -> later.RespectsLock)

variable {regs' regs : Registers} {event : Event}

/-- The hardware keeps the lock and the configuration of the watchdog. -/
theorem OnlyHardware.config (moves : OnlyHardware regs regs') :
    regs'.wdogRegwen = regs.wdogRegwen ∧ regs'.wdogCtrl = regs.wdogCtrl ∧
      regs'.wdogBarkThold = regs.wdogBarkThold ∧ regs'.wdogBiteThold = regs.wdogBiteThold := by
  induction moves with
  | refl => exact ⟨rfl, rfl, rfl, rfl⟩
  | tail earlier move ih =>
      rcases move with ⟨_, _, _, _, _, rfl⟩
      exact ih

/-! ## No call changes the lock -/

/-- An access that leaves `WDOG_REGWEN` as it is. -/
def KeepsRegwen : Access -> Prop
  | .write32 offset value =>
      offset = wdogRegwenRegOffset -> value.getLsbD wdogRegwenRegwenBit = true
  | .read32 _ | .write8 _ _ => True

theorem after_wdogRegwen {access : Access} (keeps : KeepsRegwen access) (regs : Registers) :
    (device.after access regs).wdogRegwen = regs.wdogRegwen := by
  cases access with
  | read32 | write8 => rfl
  | write32 offset value =>
      change (regs.write32 offset value).wdogRegwen = regs.wdogRegwen
      unfold Registers.write32
      split
      all_goals first
        | rfl
        | (split <;> rfl)
        | exact (congrArg (regs.wdogRegwen && ·) (keeps rfl)).trans (Bool.and_true _)

theorem stable_wdogRegwen (regwen : Bool) :
    Stable Hardware (fun regs => regs.wdogRegwen = regwen) := by
  intro regs regs' move held
  rw [move.wdogRegwen, held]

theorem within_wakeup (aon : Pointer) (threshold : BitVec 64) (prescaler : BitVec 32) :
    (difAonTimerWakeupStart aon threshold prescaler).Within KeepsRegwen ∧
      (difAonTimerWakeupStop aon).Within KeepsRegwen ∧
      (difAonTimerWakeupRestart aon).Within KeepsRegwen := by
  simp [difAonTimerWakeupStart, difAonTimerWakeupStop, difAonTimerWakeupRestart,
    aonTimerWakeupToggle, aonTimerWakeupClearCounter, mmioRegionWrite32, mmioRegionRead32,
    Within, KeepsRegwen]

theorem within_watchdog (aon : Pointer) (barkThreshold biteThreshold : BitVec 32)
    (pauseInSleep lock : Bool) :
    (difAonTimerWatchdogStart aon barkThreshold biteThreshold pauseInSleep lock).Within
        KeepsRegwen ∧
      (difAonTimerWatchdogStop aon).Within KeepsRegwen ∧
      (difAonTimerWatchdogRestart aon).Within KeepsRegwen ∧
      (difAonTimerWatchdogLock aon).Within KeepsRegwen := by
  simp [difAonTimerWatchdogStart, difAonTimerWatchdogStop, difAonTimerWatchdogRestart,
    difAonTimerWatchdogLock, aonTimerWatchdogIsLocked, aonTimerWatchdogToggle,
    aonTimerWatchdogClearCounter, aonTimerWatchdogLock, mmioRegionWrite32, mmioRegionRead32,
    Within, KeepsRegwen]

theorem within_perform (call : Call) : call.perform.Within KeepsRegwen := by
  cases call <;> refine within_bind ?_ (fun _ => trivial)
  case wakeupStart aon threshold prescaler => exact (within_wakeup aon threshold prescaler).1
  case wakeupStop aon => exact (within_wakeup aon 0 0).2.1
  case wakeupRestart aon => exact (within_wakeup aon 0 0).2.2
  case watchdogStart aon barkThreshold biteThreshold pauseInSleep lock =>
    exact (within_watchdog aon barkThreshold biteThreshold pauseInSleep lock).1
  case watchdogStop aon => exact (within_watchdog aon 0 0 false false).2.1
  case watchdogRestart aon => exact (within_watchdog aon 0 0 false false).2.2.1
  case watchdogLock aon => exact (within_watchdog aon 0 0 false false).2.2.2
  case irqIsPending aonTimer irq isPending =>
    cases index : aonTimerGetIrqBitIndex irq <;>
      simp [difAonTimerIrqIsPending, index, mmioRegionRead32, Within, KeepsRegwen]
  case irqAcknowledge aonTimer irq =>
    cases index : aonTimerGetIrqBitIndex irq <;>
      simp [difAonTimerIrqAcknowledge, index, mmioRegionWrite32, Within, KeepsRegwen]
  case irqForce aonTimer irq val =>
    cases index : aonTimerGetIrqBitIndex irq <;>
      simp [difAonTimerIrqForce, index, mmioRegionWrite32, Within, KeepsRegwen]
  all_goals
    simp [difAonTimerWakeupIsEnabled, difAonTimerGetWakeupCause, difAonTimerClearWakeupCause,
      difAonTimerWakeupGetCount, difAonTimerWatchdogIsEnabled, difAonTimerWatchdogGetCount,
      difAonTimerWatchdogPet, difAonTimerWatchdogIsLocked, difAonTimerIrqGetState,
      difAonTimerIrqAcknowledgeState, difAonTimerIrqAcknowledgeAll, readBit,
      aonTimerWatchdogClearCounter, aonTimerWatchdogIsLocked, mmioRegionRead32, mmioRegionWrite32,
      Within, KeepsRegwen]

/-- Every call leaves the lock as it found it, whatever the hardware does. -/
theorem perform_wdogRegwen (call : Call) (regwen : Bool) :
    Triple device Hardware (fun regs => regs.wdogRegwen = regwen) call.perform
      (fun _ regs => regs.wdogRegwen = regwen) := by
  refine Triple.invariant (stable_wdogRegwen regwen) ?_ (within_perform call)
  intro access regs keeps held
  exact (after_wdogRegwen keeps regs).trans held

theorem Run.wdogRegwen {events : List Event} (run : Run regs events regs') :
    forall event, event ∈ events -> event.before.wdogRegwen = regs.wdogRegwen := by
  induction run with
  | nil regs =>
      intro event inside
      cases inside
  | @cons before after last events call reply execution rest ih =>
      intro event inside
      rcases List.mem_cons.mp inside with first | later
      · rw [first]
      · rw [ih event later]
        exact perform_wdogRegwen call _ before after reply rfl execution

theorem Run.execution {events : List Event} (run : Run regs events regs') :
    forall event, event ∈ events ->
      Exec device Hardware event.before event.call.perform event.after event.reply := by
  induction run with
  | nil regs =>
      intro event inside
      cases inside
  | cons call reply execution rest ih =>
      intro event inside
      rcases List.mem_cons.mp inside with first | later
      · subst first
        exact execution
      · exact ih event later

/-! ## What a call does with the lock it finds -/

theorem stable_onlyHardware (start : Registers) : Stable Hardware (OnlyHardware start) :=
  fun _ _ move moved => moved.tail move

/-- Consulting the lock reads it off and changes nothing. -/
theorem isLocked_spec (start : Registers) :
    Triple device Hardware (OnlyHardware start) aonTimerWatchdogIsLocked
      (fun locked regs => locked = (!start.wdogRegwen) ∧ OnlyHardware start regs) := by
  refine Triple.read32 (fun value regs =>
    value = (if start.wdogRegwen then 1 else 0) ∧ OnlyHardware start regs)
    (stable_onlyHardware start) ?_ ?_
  · intro regs moved
    refine ⟨?_, moved⟩
    change (if regs.wdogRegwen then (1 : BitVec 32) else 0) = _
    rw [moved.config.1]
  · intro value
    apply Triple.ret
    · intro regs regs' move both
      exact ⟨both.1, both.2.tail move⟩
    · intro regs both
      refine ⟨?_, both.2⟩
      rw [both.1]
      cases start.wdogRegwen <;> rfl

/-- Refused without any effect where the lock was set, a success where it was not. -/
def GuardedOutcome (start : Registers) (result : DifResult) (regs : Registers) : Prop :=
  (start.wdogRegwen = false -> result = .kDifLocked ∧ OnlyHardware start regs) ∧
    (start.wdogRegwen = true -> result = .kDifOk)

theorem stable_guardedOutcome (start : Registers) (result : DifResult) :
    Stable Hardware (GuardedOutcome start result) := by
  intro regs regs' move outcome
  exact ⟨fun locked => ⟨(outcome.1 locked).1, (outcome.1 locked).2.tail move⟩, outcome.2⟩

/-- A function that consults the lock before a body that always succeeds. -/
theorem guarded_spec (start : Registers) {body : Mmio DifResult}
    (succeeds : body.Returns (· = .kDifOk)) :
    Triple device Hardware (OnlyHardware start)
      (do
        if <- aonTimerWatchdogIsLocked then
          return .kDifLocked
        body)
      (GuardedOutcome start) := by
  refine Triple.bind (isLocked_spec start) ?_
  intro locked
  cases locked with
  | false =>
      intro regs regs' result both execution
      have unlocked : start.wdogRegwen = true := by
        have reported := both.1
        cases regwen : start.wdogRegwen with
        | false => simp [regwen] at reported
        | true => rfl
      refine ⟨fun wrong => ?_, fun _ => succeeds.of_exec execution⟩
      rw [unlocked] at wrong
      cases wrong
  | true =>
      apply Triple.ret
      · exact fun regs regs' move both => ⟨both.1, both.2.tail move⟩
      · intro regs both
        refine ⟨fun _ => ⟨rfl, both.2⟩, fun unlocked => ?_⟩
        have reported := both.1
        rw [unlocked] at reported
        cases reported

theorem watchdogStart_spec (start : Registers) (barkThreshold biteThreshold : BitVec 32)
    (pauseInSleep lock : Bool) :
    Triple device Hardware (OnlyHardware start)
      (difAonTimerWatchdogStart .object barkThreshold biteThreshold pauseInSleep lock)
      (GuardedOutcome start) := by
  refine guarded_spec start ?_
  cases lock <;> exact fun _ => rfl

theorem watchdogStop_spec (start : Registers) :
    Triple device Hardware (OnlyHardware start) (difAonTimerWatchdogStop .object)
      (GuardedOutcome start) :=
  guarded_spec start (fun _ => rfl)

theorem watchdogRestart_spec (start : Registers) :
    Triple device Hardware (OnlyHardware start) (difAonTimerWatchdogRestart .object)
      (GuardedOutcome start) :=
  guarded_spec start (fun _ => rfl)

/-- The status of a guarded function becomes the reply of its call. -/
theorem status_spec {start : Registers} {m : Mmio DifResult}
    (spec : Triple device Hardware (OnlyHardware start) m (GuardedOutcome start)) :
    Triple device Hardware (OnlyHardware start) (do return Reply.status (<- m))
      (fun reply regs => Exists fun result =>
        reply = .status result ∧ GuardedOutcome start result regs) := by
  refine Triple.bind spec ?_
  exact fun result => Triple.ret (stable_guardedOutcome start result)
    (fun regs outcome => ⟨result, rfl, outcome⟩)

/-- What a call that consults the lock does in either state of it. -/
def ConsultOutcome (event : Event) : Prop :=
  (event.before.wdogRegwen = false -> event.RespectsLock) ∧
    (event.before.wdogRegwen = true -> ¬ event.RespectsLock)

/-- The three guarded calls share this form. -/
theorem consultOutcome_of_guarded
    (respects : event.RespectsLock ↔
      event.reply = .status .kDifLocked ∧ OnlyHardware event.before event.after)
    (outcome : Exists fun result =>
      event.reply = .status result ∧ GuardedOutcome event.before result event.after) :
    ConsultOutcome event := by
  rcases outcome with ⟨result, replied, locked, unlocked⟩
  refine ⟨fun regwen => respects.mpr ⟨?_, (locked regwen).2⟩, fun regwen honoured => ?_⟩
  · rw [replied, (locked regwen).1]
  · have refused := (respects.mp honoured).1
    rw [replied, unlocked regwen] at refused
    cases refused

/-- A call that is told whether the watchdog is locked. -/
theorem watchdogIsLocked_spec (start : Registers) :
    Triple device Hardware (OnlyHardware start) (Call.watchdogIsLocked .object .object).perform
      (fun reply _ => reply = .flag .kDifOk (some (!start.wdogRegwen))) := by
  intro regs regs' reply moved execution
  rcases exec_bind execution with ⟨middle, result, first, second⟩
  rcases exec_bind first with ⟨middle', locked, third, fourth⟩
  have reported := (isLocked_spec start regs middle' locked moved third).1
  have stored : result = (.kDifOk, some locked) := (exec_ret fourth).1
  have replied : reply = .flag result.1 result.2 := (exec_ret second).1
  rw [replied, stored, reported]

theorem consultOutcome (consults : event.call.ConsultsLock = true)
    (execution : Exec device Hardware event.before event.call.perform event.after event.reply) :
    ConsultOutcome event := by
  rcases event with ⟨before, call, reply, after⟩
  cases call
  case watchdogStart aon barkThreshold biteThreshold pauseInSleep lock =>
    cases aon with
    | null => cases consults
    | object =>
        exact consultOutcome_of_guarded Iff.rfl
          (status_spec (watchdogStart_spec before _ _ _ _) before after reply .refl execution)
  case watchdogStop aon =>
    cases aon with
    | null => cases consults
    | object =>
        exact consultOutcome_of_guarded Iff.rfl
          (status_spec (watchdogStop_spec before) before after reply .refl execution)
  case watchdogRestart aon =>
    cases aon with
    | null => cases consults
    | object =>
        exact consultOutcome_of_guarded Iff.rfl
          (status_spec (watchdogRestart_spec before) before after reply .refl execution)
  case watchdogIsLocked aon isLocked =>
    cases aon <;> cases isLocked <;> try cases consults
    have replied := watchdogIsLocked_spec before before after reply .refl execution
    refine ⟨fun locked => ?_, fun unlocked honoured => ?_⟩
    · change reply = .flag .kDifOk (some true)
      rw [replied]
      exact congrArg (fun regwen => Reply.flag .kDifOk (some (!regwen))) locked
    · change reply = .flag .kDifOk (some true) at honoured
      change before.wdogRegwen = true at unlocked
      rw [replied, unlocked] at honoured
      cases honoured
  all_goals cases consults

/-- Where the lock is open, a call asked to set it reports success. -/
theorem locks_of_requestsLock (requests : event.call.RequestsLock = true)
    (unlocked : event.before.wdogRegwen = true)
    (execution : Exec device Hardware event.before event.call.perform event.after event.reply) :
    event.Locks := by
  refine ⟨requests, ?_⟩
  rcases event with ⟨before, call, reply, after⟩
  cases call
  case watchdogLock aon =>
    cases aon with
    | null => cases requests
    | object =>
        have succeeds : (Call.watchdogLock .object).perform.Returns (· = .status .kDifOk) := rfl
        exact succeeds.of_exec execution
  case watchdogStart aon barkThreshold biteThreshold pauseInSleep lock =>
    cases aon with
    | null => cases requests
    | object =>
        rcases status_spec (watchdogStart_spec before _ _ _ _) before after reply .refl execution
          with ⟨result, replied, outcome⟩
        rw [replied, outcome.2 unlocked]
  all_goals cases requests

/-- A call that does not consult the lock has nothing to respect. -/
theorem respectsLock_of_not_consults (free : event.call.ConsultsLock = false) :
    event.RespectsLock := by
  rcases event with ⟨before, call, reply, after⟩
  cases call
  case watchdogStart aon barkThreshold biteThreshold pauseInSleep lock =>
    cases aon with
    | null => trivial
    | object => cases free
  case watchdogStop aon | watchdogRestart aon =>
    cases aon with
    | null => trivial
    | object => cases free
  case watchdogIsLocked aon isLocked =>
    cases aon <;> cases isLocked <;> trivial
  all_goals trivial

/-! ## Exactly when the lock is honoured -/

/-- In any run, the lock is honoured if and only if the watchdog was locked
before the run began, or no call that asks for the lock is followed by one
that consults it. -/
theorem lockHonoured_iff {regs regs' : Registers} {events : List Event}
    (run : Run regs events regs') :
    LockHonoured events ↔ regs.wdogRegwen = false ∨
      (events.map Event.call).Pairwise
        (fun earlier later => ¬ (earlier.RequestsLock = true ∧ later.ConsultsLock = true)) := by
  have regwen := run.wdogRegwen
  have executed := run.execution
  rw [List.pairwise_map]
  cases hasLock : regs.wdogRegwen with
  | false =>
      refine ⟨fun _ => Or.inl rfl, fun _ => List.pairwise_of_forall_mem_list ?_⟩
      intro earlier _ later inside _
      have locked : later.before.wdogRegwen = false := (regwen later inside).trans hasLock
      cases consults : later.call.ConsultsLock with
      | false => exact respectsLock_of_not_consults consults
      | true => exact (consultOutcome consults (executed later inside)).1 locked
  | true =>
      -- The lock stays open throughout, so a request succeeds and a consultation disrespects it.
      have pairs : LockHonoured events ↔ events.Pairwise (fun earlier later =>
          ¬ (earlier.call.RequestsLock = true ∧ later.call.ConsultsLock = true)) := by
        apply List.Pairwise.iff_of_mem
        intro earlier later first second
        have open' : earlier.before.wdogRegwen = true := (regwen earlier first).trans hasLock
        have open'' : later.before.wdogRegwen = true := (regwen later second).trans hasLock
        constructor
        · rintro respected ⟨requests, consults⟩
          exact (consultOutcome consults (executed later second)).2 open''
            (respected (locks_of_requestsLock requests open' (executed earlier first)))
        · intro apart locks
          cases consults : later.call.ConsultsLock with
          | false => exact respectsLock_of_not_consults consults
          | true => exact absurd ⟨locks.1, consults⟩ apart
      rw [pairs]
      exact ⟨Or.inr, fun either => either.resolve_left (by decide)⟩

/-- From reset, a lock request followed by a stop: the stop goes through. -/
def lockThenStop : List Event :=
  [⟨.reset, .watchdogLock .object, .status .kDifOk, .reset⟩,
    ⟨.reset, .watchdogStop .object, .status .kDifOk, .reset⟩]

theorem run_lockThenStop : Run .reset lockThenStop .reset :=
  .cons _ _ (exec_of_run rfl) (.cons _ _ (exec_of_run rfl) (.nil _))

/-- A run in which the lock is requested and then ignored. -/
theorem lock_not_honoured : Run .reset lockThenStop .reset ∧ ¬ LockHonoured lockThenStop := by
  refine ⟨run_lockThenStop, fun honoured => ?_⟩
  have refused := (List.pairwise_cons.mp honoured).1 _ (List.mem_singleton_self _) ⟨rfl, rfl⟩
  cases refused.1

theorem lockHonoured_iff_lockThenStop :
    LockHonoured lockThenStop ↔ Registers.reset.wdogRegwen = false ∨
      (lockThenStop.map Event.call).Pairwise
        (fun earlier later => ¬ (earlier.RequestsLock = true ∧ later.ConsultsLock = true)) :=
  lockHonoured_iff run_lockThenStop

end AonTimer
end SunburstChip
