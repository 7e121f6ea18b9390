import SunburstChip.Testing.OttfConsoleRuns

namespace SunburstChip
namespace OttfConsole

open Mmio Uart FlowControl

/-!
# The enable bit of the receive watermark interrupt

A decision to pause disables the interrupt and one to resume enables it, so
that a receive FIFO that fills up again leads to a request to pause.  But
`ottf_console_flow_control` saves the enabled interrupts before its decision
and restores them afterwards: the change that goes with a decision of its own
is undone, and so is that of a handler which is invoked after the interrupts
are saved and before they are disabled.  While flow control is being enabled, a
handler can leave a disabled interrupt to be saved.

Runs in which none of this happens keep the bit and the decision together.
-/

/-! ## What an invocation leaves -/

section Invoking

variable {meets : Position -> Console -> Prop} {s s' : Console}

/-- The decision and the enable bit go together. -/
structure Consistent (s : Console) : Prop where
  level : Level s
  decided : s.flowControlState = kOttfConsoleFlowControlResume.toWord ∧ RxWatermarkEnabled s ∨
    s.flowControlState = kOttfConsoleFlowControlPause.toWord ∧ ¬ RxWatermarkEnabled s

theorem Consistent.enabled_iff (consistent : Consistent s) :
    RxWatermarkEnabled s ↔ s.flowControlState = kOttfConsoleFlowControlResume.toWord := by
  rcases consistent.decided with ⟨state, enabled⟩ | ⟨state, disabled⟩
  · exact ⟨fun _ => state, fun _ => enabled⟩
  · exact ⟨fun enabled => absurd enabled disabled,
      fun resumed => absurd (state.symm.trans resumed) (by decide)⟩

theorem Consistent.hardware (consistent : Consistent s) (move : Hardware s s') :
    Consistent s' := by
  refine ⟨move.level consistent.level, ?_⟩
  unfold RxWatermarkEnabled
  rw [move.flowControlState_eq, move.intrEnable_eq]
  exact consistent.decided

/-- The interrupt is only pending after a decision to resume; the handler then
decides to pause, and disables it. -/
theorem Consistent.handler (consistent : Consistent s) (handler : Handler meets s s') :
    Consistent s' := by
  have enabled := handler.1.2.2.1
  rcases consistent.decided with ⟨state, _⟩ | ⟨_, disabled⟩
  · have quiet : Stable Hardware (fun t => ¬ RxWatermarkEnabled t) := by
      intro t t' move disabled
      unfold RxWatermarkEnabled at disabled ⊢
      rw [move.intrEnable_eq]
      exact disabled
    have raised := handler.pausing (by decide)
      (by decide) quiet quiet (fun t _ => ?_) (fun _ disabled _ _ => disabled)
      (fun t disabled room => ?_) (fun _ disabled => disabled) (fun _ _ disabled => disabled)
      state consistent.level rfl
    · exact ⟨raised.level, .inr ⟨raised.state, raised.rest⟩⟩
    · unfold RxWatermarkEnabled
      rw [bitfieldBit32Read_write_same (by decide)]
      exact Bool.false_ne_true
    · rw [send_accepted room]
      exact disabled
  · exact absurd enabled disabled

end Invoking

/-! ## The runs -/

/-- A program enables flow control first, and asks for a decision after each
byte it receives. -/
def Begins (op : Operation) (s : Console) : Prop := op = .enable ∧ Fits s

def Follows : Operation -> Operation -> Prop
  | .receive _, op => op = .flowControl kOttfConsoleFlowControlAuto
  | _, op => (Exists fun byte => op = .output byte) ∨ Exists fun byte => op = .receive byte

/-- Between the enabling of the interrupt and the saving of the enabled
interrupts. -/
def SettingUp (place : Position) : Prop :=
  place = .write32 flowControlStateAddr kOttfConsoleFlowControlAuto.toWord ∨
    place = .write32 globalInterruptsAddr 1 ∨ place = .write32 externalInterruptsAddr 1

/-- The handler is not invoked where the program undoes what it does to the
enable bit, and the program comes to no decision of its own. -/
def guarded : Conditions where
  admits op place s :=
    match op with
    | .enable =>
        (SettingUp place -> s.flowControlState = kOttfConsoleFlowControlNone.toWord ∨
          s.flowControlState = kOttfConsoleFlowControlPause.toWord) ∧
        (place = .read32 intrEnableRegOffset ->
          s.flowControlState ≠ kOttfConsoleFlowControlAuto.toWord)
    | .flowControl _ => place ≠ .write32 intrEnableRegOffset 0
    | .output _ | .receive _ => True
  meets op place s :=
    match op with
    | .flowControl _ => place = .read32 fifoStatusRegOffset ->
        (s.flowControlState = kOttfConsoleFlowControlPause.toWord -> 4 <= s.uart.rx.length) ∧
        (s.flowControlState = kOttfConsoleFlowControlResume.toWord -> s.uart.rx.length < 8)
    | .enable | .output _ | .receive _ => True
  handler _ _ := True

/-- What is invariant during an operation. -/
def Between : Operation -> Position -> Console -> Prop
  | .output _, _, s | .receive _, _, s => Consistent s
  | .enable, _, _ | .flowControl _, _, _ => True

/-- What an operation needs. -/
def Needs : Operation -> Console -> Prop
  | .enable, s => Fits s
  | .output _, s | .receive _, s => Consistent s
  | .flowControl ctrl, s => ctrl = kOttfConsoleFlowControlAuto ∧ Consistent s

section Operations

variable {inv : Position -> Console -> Prop}

theorem keeps_consistent (op : Operation) (place : Position)
    (within : forall s, Consistent s -> inv place s) :
    Keeps (consoleWorld guarded op) inv place Consistent := by
  refine ⟨within, ?_⟩
  rintro s s' (move | ⟨_, handler⟩) consistent
  · exact consistent.hardware move
  · exact consistent.handler handler

theorem live_output_consistent (byte : BitVec 8) :
    Live (consoleWorld guarded (.output byte)) (Between (.output byte)) False Consistent
      (Operation.output byte).program (fun _ => Consistent) := by
  refine live_output byte (fun place => keeps_consistent _ place (fun _ holds => holds)) ?_
  intro s consistent
  unfold State.send
  split
  · exact ⟨⟨consistent.level.rx_le, consistent.level.watermark⟩, consistent.decided⟩
  · exact ⟨⟨consistent.level.rx_le, consistent.level.watermark⟩, consistent.decided⟩

theorem live_receive_consistent (byte : BitVec 8) :
    Live (consoleWorld guarded (.receive byte)) (Between (.receive byte)) False Consistent
      (Operation.receive byte).program (fun _ => Consistent) := by
  refine live_receive byte (fun place => keeps_consistent _ place (fun _ holds => holds)) ?_
  intro s consistent
  exact ⟨⟨fits_tail consistent.level.rx_le, consistent.level.watermark⟩, consistent.decided⟩

/-! ## Decisions of the program -/

theorem stable_state (word : BitVec 32) :
    Stable Hardware (fun s => s.flowControlState = word) :=
  fun _ _ move state => move.flowControlState_eq.trans state

/-- While it is asked for a decision and there is none to take, everything
stays as it is. -/
theorem live_manage_kept {word : BitVec 32}
    (decided : word = kOttfConsoleFlowControlResume.toWord ∨
      word = kOttfConsoleFlowControlPause.toWord) :
    Live (consoleWorld guarded (.flowControl kOttfConsoleFlowControlAuto)) (fun _ _ => True) False
      (Masked (fun s => s.flowControlState = word))
      (manageFlowControl .object kOttfConsoleFlowControlAuto ())
      (Code.Returned (fun _ _ => Masked (fun s => s.flowControlState = word))) := by
  have keeps : forall place, Keeps (consoleWorld guarded (.flowControl kOttfConsoleFlowControlAuto))
      (fun _ _ => True) place (Masked (fun s => s.flowControlState = word)) :=
    fun place => keeps_masked _ (stable_state word) place (fun _ _ => trivial)
  have known : forall s, Masked (fun s => s.flowControlState = word) s ->
      s.flowControlState = word := fun s masked => masked.rest
  have some : word ≠ kOttfConsoleFlowControlNone.toWord := by
    rcases decided with rfl | rfl <;> decide
  refine live_readState rfl keeps known (Code.live_ite (fun none => absurd none some) (fun _ => ?_))
  refine Code.live_bind (fun decision _ s => decision = none ∧
    Masked (fun s => s.flowControlState = word) s) ?_ ?_
  · refine live_available (fun avail s =>
      ((word = kOttfConsoleFlowControlPause.toWord -> 4 <= avail.toNat) ∧
        (word = kOttfConsoleFlowControlResume.toWord -> avail.toNat < 8)) ∧
      Masked (fun s => s.flowControlState = word) s) rfl keeps (fun s masked => masked.level) ?_
      (fun avail => Live.assume (fun bounds => ?_))
    · intro s avail masked met same
      have bounds := met rfl
      rw [masked.rest, <- same] at bounds
      exact ⟨bounds, masked⟩
    · rcases decided with rfl | rfl
      · have low : ¬ kFlowControlHighWatermark <= avail :=
          fun high => Nat.not_lt.mpr ((high_iff rfl).mp high) (bounds.2 rfl)
        refine Code.live_ite (fun _ => ?_) (fun _ => ?_)
        · refine live_readState rfl keeps known
            (Code.live_ite (fun unresumed => absurd rfl unresumed) (fun _ => ?_))
          exact Code.live_ite (fun high => absurd high low)
            (fun _ => Live.ret (keeps _) (fun s masked => ⟨_, rfl, rfl, masked⟩))
        · exact Code.live_ite (fun high => absurd high low)
            (fun _ => Live.ret (keeps _) (fun s masked => ⟨_, rfl, rfl, masked⟩))
      · refine Code.live_ite (fun low => ?_) (fun _ => Code.live_ite (fun _ => ?_) (fun _ => ?_))
        · exact absurd ((low_iff rfl).mp low) (Nat.not_lt.mpr (bounds.1 rfl))
        · refine live_readState rfl keeps known
            (Code.live_ite (fun unpaused => absurd rfl unpaused) (fun _ => ?_))
          exact Live.ret (keeps _) (fun s masked => ⟨_, rfl, rfl, masked⟩)
        · exact Live.ret (keeps _) (fun s masked => ⟨_, rfl, rfl, masked⟩)
  · rintro decision ⟨⟩
    refine Live.assume ?_
    rintro rfl
    exact live_reportState rfl keeps

/-- The decision stays as it is, and so does the enable bit that is restored. -/
theorem live_flowControl (ctrl : FlowControl) :
    Live (consoleWorld guarded (.flowControl ctrl)) (Between (.flowControl ctrl)) False
      (Needs (.flowControl ctrl)) (Operation.flowControl ctrl).program (fun _ => Consistent) := by
  refine Live.assume ?_
  rintro rfl
  have keeps : forall place, Keeps (consoleWorld guarded (.flowControl kOttfConsoleFlowControlAuto))
      (fun _ _ => True) place Consistent :=
    fun place => keeps_consistent _ place (fun _ _ => trivial)
  -- The enabled interrupts are saved, and no handler comes before all of them
  -- are disabled.
  have saved : Live (consoleWorld guarded (.flowControl kOttfConsoleFlowControlAuto))
      (fun _ _ => True) False Consistent (disableInterrupts .object ())
      (Code.Returned (fun snapshot _ s => Exists fun word =>
        (word = kOttfConsoleFlowControlResume.toWord ∧
            bitfieldBit32Read snapshot intrCommonRxWatermarkBit = true ∨
          word = kOttfConsoleFlowControlPause.toWord ∧
            ¬ bitfieldBit32Read snapshot intrCommonRxWatermarkBit = true) ∧
        Masked (fun s => s.flowControlState = word) s)) := by
    have keepsMasked : forall word place,
        Keeps (consoleWorld guarded (.flowControl kOttfConsoleFlowControlAuto)) (fun _ _ => True)
          place (Masked (fun s => s.flowControlState = word)) :=
      fun word place => keeps_masked _ (stable_state word) place (fun _ _ => trivial)
    refine Live.read32 (fun value s => value = s.uart.intrEnable ∧ Consistent s) (keeps _)
      (fun never => never.elim) (fun s consistent _ => ⟨rfl, consistent⟩) (fun snapshot => ?_)
    refine Live.write32 (fun s => Exists fun word =>
        (word = kOttfConsoleFlowControlResume.toWord ∧
            bitfieldBit32Read snapshot intrCommonRxWatermarkBit = true ∨
          word = kOttfConsoleFlowControlPause.toWord ∧
            ¬ bitfieldBit32Read snapshot intrCommonRxWatermarkBit = true) ∧
        Masked (fun s => s.flowControlState = word) s) ⟨fun _ _ => trivial, ?_⟩
      (fun never => never.elim) ?_ ?_
    · rintro s s' (move | ⟨admitted, _⟩) ⟨same, consistent⟩
      · exact ⟨same.trans move.intrEnable_eq.symm, consistent.hardware move⟩
      · exact absurd rfl admitted
    · rintro s ⟨rfl, consistent⟩ _
      refine ⟨s.flowControlState, consistent.decided, ?_⟩
      exact ⟨rfl, ⟨consistent.level.rx_le, consistent.level.watermark⟩, rfl⟩
    · refine Live.ret ⟨fun _ _ => trivial, ?_⟩ (fun s holds => ⟨_, rfl, holds⟩)
      rintro s s' move ⟨word, decided, masked⟩
      exact ⟨word, decided, (keepsMasked word _).2 s s' move masked⟩
  have whole : Live (consoleWorld guarded (.flowControl kOttfConsoleFlowControlAuto))
      (fun _ _ => True) False Consistent (ottfConsoleFlowControl .object
        kOttfConsoleFlowControlAuto ()) (fun _ => Consistent) := by
    refine Code.live_bind _ saved (fun snapshot _ => ?_)
    refine Live.of_exists (fun word => Live.assume (fun decided => ?_))
    have decides : word = kOttfConsoleFlowControlResume.toWord ∨
        word = kOttfConsoleFlowControlPause.toWord := decided.imp And.left And.left
    refine Code.live_bind _ (live_statusOf (keeps_masked _ (stable_state word) _ (fun _ _ => trivial))
      (live_manage_kept decides)) (fun _ _ => ?_)
    refine Live.write32 Consistent (keeps_masked _ (stable_state word) _ (fun _ _ => trivial)) (fun never => never.elim)
      ?_ (Live.ret (keeps _) (fun _ consistent => consistent))
    intro s masked _
    refine ⟨⟨masked.level.rx_le, masked.level.watermark⟩, ?_⟩
    have state : s.flowControlState = word := masked.rest
    exact decided.imp (And.imp_left state.trans) (And.imp_left state.trans)
  exact Live.bind whole (fun _ => Live.ret (keeps _) (fun _ consistent => consistent))

/-! ## Enabling flow control -/

theorem enabled_write (enabled : BitVec 32) :
    bitfieldBit32Read (bitfieldBit32Write enabled intrCommonRxWatermarkBit true)
      intrCommonRxWatermarkBit = true :=
  bitfieldBit32Read_write_same (by decide) _ _

/-- The interrupt is enabled and the decision is pending. -/
def Armed (word : BitVec 32) (s : Console) : Prop :=
  s.flowControlState = word ∧ Level s ∧ RxWatermarkEnabled s

theorem stable_enabled : Stable Hardware (fun s => Level s ∧ RxWatermarkEnabled s) := by
  intro s s' move both
  refine ⟨move.level both.1, ?_⟩
  unfold RxWatermarkEnabled
  rw [move.intrEnable_eq]
  exact both.2

theorem Armed.hardware {word : BitVec 32} {s s' : Console} (armed : Armed word s)
    (move : Hardware s s') : Armed word s' :=
  ⟨move.flowControlState_eq.trans armed.1, stable_enabled s s' move armed.2⟩

/-- Setting up, in front of a routine. -/
theorem live_prepareFlowControl {next : Unit -> Code Unit Failure Unit}
    {post : Except Failure Unit × Unit -> Console -> Prop}
    (after : Live (consoleWorld guarded .enable) (fun _ _ => True) False
      (Armed kOttfConsoleFlowControlAuto.toWord) (next () ()) post) :
    Live (consoleWorld guarded .enable) (fun _ _ => True) False Fits
      ((prepareFlowControl .object >>= next) ()) post := by
  have keepsFits : forall place, Keeps (consoleWorld guarded .enable) (fun _ _ => True) place
      Fits := by
    refine fun place => ⟨fun _ _ => trivial, ?_⟩
    rintro s s' (move | ⟨_, handler⟩) fits
    · exact fits.hardware move
    · exact handler.fits fits
  have keepsLevel : forall place, Keeps (consoleWorld guarded .enable) (fun _ _ => True) place
      Level := by
    refine fun place => ⟨fun _ _ => trivial, ?_⟩
    rintro s s' (move | ⟨_, handler⟩) level
    · exact move.level level
    · exact level.handler handler
  refine Live.read32 (fun _ => Fits) (keepsFits _) (fun never => never.elim)
    (fun s fits _ => fits) (fun reg => ?_)
  refine Live.write32 Level (keepsFits _) (fun never => never.elim)
    (fun s fits _ => ⟨fits, rxWatermark_write s.uart reg⟩) ?_
  refine Live.read32 (fun _ => Level) (keepsLevel _) (fun never => never.elim)
    (fun s level _ => level) (fun enabled => ?_)
  refine Live.write32 (fun s => Level s ∧ RxWatermarkEnabled s) (keepsLevel _)
    (fun never => never.elim) ?_ ?_
  · intro s level _
    exact ⟨⟨level.rx_le, level.watermark⟩, enabled_write enabled⟩
  have keepsArmed : forall place, SettingUp place -> Keeps (consoleWorld guarded .enable)
      (fun _ _ => True) place (Armed kOttfConsoleFlowControlAuto.toWord) := by
    refine fun place settingUp => ⟨fun _ _ => trivial, ?_⟩
    rintro s s' (move | ⟨admitted, _⟩) armed
    · exact armed.hardware move
    · rcases admitted.1 settingUp with off | paused
      · exact absurd (armed.1.symm.trans off) (by decide)
      · exact absurd (armed.1.symm.trans paused) (by decide)
  refine Live.write32 (Armed kOttfConsoleFlowControlAuto.toWord) ⟨fun _ _ => trivial, ?_⟩
    (fun never => never.elim) (fun s both _ => ⟨rfl, ⟨both.1.rx_le, both.1.watermark⟩, both.2⟩) ?_
  · rintro s s' (move | ⟨admitted, handler⟩) both
    · exact stable_enabled s s' move both
    · rcases admitted.1 (.inl rfl) with off | paused
      · exact (handler.off stable_enabled
          (fun _ _ both => ⟨⟨both.1.rx_le, both.1.watermark⟩, both.2⟩)
          (fun _ _ both => ⟨⟨both.1.rx_le, both.1.watermark⟩, both.2⟩) off both).2
      · exact (handler.paused stable_enabled
          (fun _ _ both => ⟨⟨both.1.rx_le, both.1.watermark⟩, both.2⟩)
          (fun _ _ both => ⟨⟨both.1.rx_le, both.1.watermark⟩, both.2⟩) paused both.1 both).rest
  refine Live.write32 (Armed kOttfConsoleFlowControlAuto.toWord) (keepsArmed _ (.inr (.inl rfl)))
    (fun never => never.elim) (fun s armed _ => ⟨armed.1, ⟨armed.2.1.rx_le, armed.2.1.watermark⟩,
      armed.2.2⟩) ?_
  refine Live.write32 (Armed kOttfConsoleFlowControlAuto.toWord) (keepsArmed _ (.inr (.inr rfl)))
    (fun never => never.elim) (fun s armed _ => ⟨armed.1, ⟨armed.2.1.rx_le, armed.2.1.watermark⟩,
      armed.2.2⟩) after

theorem stable_on : Stable Hardware (fun s =>
    s.flowControlState ≠ kOttfConsoleFlowControlNone.toWord) :=
  fun _ _ move on off => on (move.flowControlState_eq.symm.trans off)

/-- A decision that is asked for is taken, whatever the one before. -/
theorem live_manage_resume :
    Live (consoleWorld guarded .enable) (fun _ _ => True) False
      (Masked (fun s => s.flowControlState ≠ kOttfConsoleFlowControlNone.toWord))
      (manageFlowControl .object kOttfConsoleFlowControlResume ())
      (Code.Returned (fun _ _ => Masked (fun s =>
        s.flowControlState = kOttfConsoleFlowControlResume.toWord))) := by
  have keeps : forall place, Keeps (consoleWorld guarded .enable) (fun _ _ => True) place
      (Masked (fun s => s.flowControlState ≠ kOttfConsoleFlowControlNone.toWord)) :=
    fun place => keeps_masked _ stable_on place (fun _ _ => trivial)
  refine Live.read32 (fun word s => word ≠ kOttfConsoleFlowControlNone.toWord ∧
    Masked (fun s => s.flowControlState ≠ kOttfConsoleFlowControlNone.toWord) s) (keeps _)
    (fun never => never.elim) (fun s masked _ => ⟨masked.rest, masked⟩)
    (fun word => Live.assume (fun on => ?_))
  refine Code.live_ite (fun off => absurd off on) (fun _ => ?_)
  refine live_sendDecision _ _ rfl _ keeps keeps (keeps _) (keeps _)
    (fun place => keeps_masked _ (stable_state _) place (fun _ _ => trivial)) (fun s masked _ => masked)
    (fun s masked _ _ => masked) ?_ ?_
  · intro s masked
    unfold State.send
    split
    · exact ⟨masked.disabled, ⟨masked.level.rx_le, masked.level.watermark⟩, masked.rest⟩
    · exact ⟨masked.disabled, ⟨masked.level.rx_le, masked.level.watermark⟩, masked.rest⟩
  · exact fun s masked => ⟨masked.disabled, ⟨masked.level.rx_le, masked.level.watermark⟩, rfl⟩

/-- The request to resume, with the interrupt enabled when the enabled
interrupts are saved. -/
theorem live_resume :
    Live (consoleWorld guarded .enable) (fun _ _ => True) False
      (Armed kOttfConsoleFlowControlAuto.toWord)
      (ottfConsoleFlowControl .object kOttfConsoleFlowControlResume ())
      (Code.Returned (fun _ _ => Consistent)) := by
  have keepsMasked : forall place, Keeps (consoleWorld guarded .enable) (fun _ _ => True) place
      (Masked (fun s => s.flowControlState ≠ kOttfConsoleFlowControlNone.toWord)) :=
    fun place => keeps_masked _ stable_on place (fun _ _ => trivial)
  have saved : Live (consoleWorld guarded .enable) (fun _ _ => True) False
      (Armed kOttfConsoleFlowControlAuto.toWord) (disableInterrupts .object ())
      (Code.Returned (fun snapshot _ s =>
        bitfieldBit32Read snapshot intrCommonRxWatermarkBit = true ∧
        Masked (fun s => s.flowControlState ≠ kOttfConsoleFlowControlNone.toWord) s)) := by
    refine Live.read32 (fun value s =>
      bitfieldBit32Read value intrCommonRxWatermarkBit = true ∧ Managed s) ⟨fun _ _ => trivial, ?_⟩
      (fun never => never.elim) ?_ (fun snapshot => Live.assume (fun enabled => ?_))
    · rintro s s' (move | ⟨admitted, _⟩) armed
      · exact armed.hardware move
      · exact absurd armed.1 (admitted.2 rfl)
    · intro s armed _
      refine ⟨armed.2.2, armed.2.1, fun off => ?_⟩
      exact absurd (armed.1.symm.trans off) (by decide)
    · refine Live.write32 (Masked (fun s =>
        s.flowControlState ≠ kOttfConsoleFlowControlNone.toWord)) ⟨fun _ _ => trivial, ?_⟩
        (fun never => never.elim) ?_
        (Live.ret (keepsMasked _) (fun s masked => ⟨_, rfl, enabled, masked⟩))
      · rintro s s' (move | ⟨_, handler⟩) managed
        · exact managed.hardware move
        · exact managed.handler handler
      · exact fun s managed _ => ⟨rfl, ⟨managed.level.rx_le, managed.level.watermark⟩, managed.on⟩
  refine Code.live_bind _ saved (fun snapshot _ => Live.assume (fun enabled => ?_))
  refine Code.live_bind _ (live_statusOf (keeps_masked _ (stable_state _) _ (fun _ _ => trivial)) live_manage_resume)
    (fun _ _ => ?_)
  refine Live.write32 Consistent (keeps_masked _ (stable_state _) _ (fun _ _ => trivial)) (fun never => never.elim) ?_
    (Live.ret ?_ (fun _ consistent => ⟨_, rfl, consistent⟩))
  · intro s masked _
    exact ⟨⟨masked.level.rx_le, masked.level.watermark⟩, .inl ⟨masked.rest, enabled⟩⟩
  · exact keeps_consistent _ _ (fun _ _ => trivial)

theorem live_enable :
    Live (consoleWorld guarded .enable) (Between .enable) False (Needs .enable)
      Operation.enable.program (fun _ => Consistent) := by
  have keepsConsistent : forall place, Keeps (consoleWorld guarded .enable) (fun _ _ => True)
      place Consistent := fun place => keeps_consistent _ place (fun _ _ => trivial)
  have whole : Live (consoleWorld guarded .enable) (fun _ _ => True) False Fits
      (ottfConsoleFlowControlEnable .object ()) (fun _ => Consistent) := by
    exact live_prepareFlowControl (Code.live_bind _ live_resume (fun _ _ =>
      Live.ret (keepsConsistent _) (fun _ consistent => consistent)))
  exact Live.bind whole (fun _ => Live.ret (keepsConsistent _) (fun _ consistent => consistent))

end Operations

/-! ## The interrupt and the decision -/

theorem live_operation (op : Operation) :
    Live (consoleWorld guarded op) (Between op) False (Needs op) op.program
      (fun _ => Consistent) := by
  cases op with
  | enable => exact live_enable
  | output byte => exact live_output_consistent byte
  | receive byte => exact live_receive_consistent byte
  | flowControl ctrl => exact live_flowControl ctrl

/-- A call that decides about the flow control is in progress. -/
def Deciding (op : Operation) (m : Mmio Unit) : Prop := op.Decides ∧ m ≠ .ret ()

theorem starts (op : Operation) (s : Console) (begins : Begins op s) : Needs op s := by
  rcases begins with ⟨rfl, fits⟩
  exact fits

theorem leaves (op op' : Operation) (s : Console) (follows : Follows op op')
    (consistent : Consistent s) : Needs op' s := by
  cases op with
  | receive byte =>
      cases follows
      exact ⟨rfl, consistent⟩
  | enable | output byte | flowControl ctrl =>
      rcases follows with ⟨byte, rfl⟩ | ⟨byte, rfl⟩
      · exact consistent
      · exact consistent

/-- In every run in which no handler is invoked where the program undoes what
it does, and the program never comes to a new decision itself, the receive
watermark interrupt is enabled exactly if the last decision was to resume,
whenever no decision is in progress. -/
theorem enabled_iff_resumed (op : Operation) (config : Mmio Unit × Console)
    (running : Running guarded Begins Follows op config) (between : ¬ Deciding op config.1) :
    RxWatermarkEnabled config.2 ↔
      config.2.flowControlState = kOttfConsoleFlowControlResume.toWord := by
  have all := running.invariant live_operation starts leaves
  refine Consistent.enabled_iff ?_
  by_cases finished : config.1 = .ret ()
  · exact all.2 finished
  · cases op with
    | output byte | receive byte => exact all.1
    | enable => exact absurd ⟨trivial, finished⟩ between
    | flowControl ctrl => exact absurd ⟨trivial, finished⟩ between

/-! ## A program that resumes -/

/-- Nothing has been received or sent, and flow control is off. -/
def quiescent : Console := ⟨⟨0, 0, 0, [], false, [], [], []⟩, 0, 0, false, false⟩

/-- Flow control is enabled. -/
def enabled : Console :=
  ⟨⟨2, 0, 12, [0x11], false, [], [(.flowControl, 0x11)], []⟩, 17, 0, true, true⟩

set_option maxRecDepth 4000 in
theorem run_enable : Operation.enable.program.run (device .flowControl) quiescent =
    some ((), enabled) := by
  rfl

theorem begins_quiescent : Begins .enable quiescent := ⟨rfl, Nat.zero_le 64⟩

theorem enabled_iff_resumed_enabled :
    RxWatermarkEnabled enabled ↔
      enabled.flowControlState = kOttfConsoleFlowControlResume.toWord := by
  have reaches : Reaches (consoleWorld guarded .enable) (Operation.enable.program, quiescent)
      (.ret (), enabled) := reaches_of_run (fun _ _ => trivial) run_enable
  have running : Running guarded Begins Follows .enable (.ret (), enabled) :=
    Running.reaches (.start begins_quiescent) reaches
  exact enabled_iff_resumed .enable (.ret (), enabled) running (fun deciding => deciding.2 rfl)

/-- Flow control is enabled, and this many bytes have been received. -/
def received (count : Nat) : Console :=
  { enabled with uart := { enabled.uart with rx := List.replicate count 0x61 } }

/-- The handler asked to pause, and this many bytes are left to be read. -/
def paused (count : Nat) : Console :=
  ⟨⟨0, 0, 12, [0x11, 0x13], false, List.replicate count 0x61,
    [(.flowControl, 0x11), (.flowControl, 0x13)], []⟩, 19, 1, true, true⟩

/-- The program asked to resume. -/
def resumed : Console :=
  ⟨⟨0, 0, 12, [0x11, 0x13, 0x11], false, List.replicate 3 0x61,
    [(.flowControl, 0x11), (.flowControl, 0x13), (.flowControl, 0x11)], []⟩, 17, 1, true, true⟩

theorem hardware_received (count : Nat) (room : count < rxFifoDepth) :
    Hardware (received count) (received (count + 1)) := by
  refine ⟨_, .receive _ 0x61 ?_, ?_⟩
  · exact (List.length_replicate (n := count)).symm ▸ room
  · unfold received
    rw [List.replicate_succ']

set_option maxRecDepth 4000 in
theorem handler_received : Handler unconditioned.handler (received 8) (paused 8) := by
  refine ⟨⟨rfl, rfl, by decide, by decide⟩, (.ok true, ()),
    reaches_of_run (fun _ _ => trivial) ?_⟩
  rfl

set_option maxRecDepth 8000 in
/-- Above the low watermark, the program reads a byte and decides nothing. -/
theorem run_read_paused : forall count : Fin 4,
    (Operation.receive 0).program.run (device .flowControl) (paused (count + 5)) =
        some ((), paused (count + 4)) ∧
      (Operation.flowControl kOttfConsoleFlowControlAuto).program.run (device .flowControl)
        (paused (count + 4)) = some ((), paused (count + 4)) := by
  decide

set_option maxRecDepth 8000 in
/-- Below, it asks to resume, and leaves the interrupt disabled. -/
theorem run_read_resumed :
    (Operation.receive 0).program.run (device .flowControl) (paused 4) = some ((), paused 3) ∧
      (Operation.flowControl kOttfConsoleFlowControlAuto).program.run (device .flowControl)
        (paused 3) = some ((), resumed) :=
  ⟨rfl, rfl⟩

/-- An undisturbed call after another one. -/
theorem Running.called {op op' : Operation} {s s' : Console}
    (running : Running unconditioned Begins Follows op (.ret (), s)) (follows : Follows op op')
    (ran : op'.program.run (device op'.writer) s = some ((), s')) :
    Running unconditioned Begins Follows op' (.ret (), s') :=
  (running.call follows).reaches (reaches_of_run (fun _ _ => trivial) ran)

/-- Eight bytes arrive while the program waits for one, the handler asks to
pause, and the program reads the first. -/
theorem running_paused :
    Running unconditioned Begins Follows (.flowControl kOttfConsoleFlowControlAuto)
      (.ret (), paused 7) := by
  have first : Running unconditioned Begins Follows .enable (.ret (), enabled) :=
    Running.reaches (.start begins_quiescent) (reaches_of_run (fun _ _ => trivial) run_enable)
  have waiting : Running unconditioned Begins Follows (.receive 0)
      ((Operation.receive 0).program, received 0) := first.call (.inr ⟨0, rfl⟩)
  have arriving : forall count, count <= 8 -> Running unconditioned Begins Follows (.receive 0)
      ((Operation.receive 0).program, received count) := by
    intro count
    induction count with
    | zero => exact fun _ => waiting
    | succ count ih =>
        intro few
        refine (ih (Nat.le_of_succ_le few)).step (.env _ (.inl (hardware_received count ?_)))
        exact Nat.lt_of_lt_of_le few (by decide)
  have interrupted := (arriving 8 (Nat.le_refl 8)).step
    (.env _ (.inr ⟨trivial, handler_received⟩))
  have read := interrupted.reaches (reaches_of_run (fun _ _ => trivial) (run_read_paused 3).1)
  exact read.called rfl (run_read_paused 3).2

/-- It reads four more bytes. -/
theorem running_resumed :
    Running unconditioned Begins Follows (.flowControl kOttfConsoleFlowControlAuto)
      (.ret (), resumed) := by
  have reads : forall count : Fin 4,
      Running unconditioned Begins Follows (.flowControl kOttfConsoleFlowControlAuto)
        (.ret (), paused (count + 5)) ->
      Running unconditioned Begins Follows (.flowControl kOttfConsoleFlowControlAuto)
        (.ret (), paused (count + 4)) :=
    fun count running =>
      (running.called (.inr ⟨0, rfl⟩) (run_read_paused count).1).called rfl
        (run_read_paused count).2
  have four := reads 0 (reads 1 (reads 2 running_paused))
  exact (four.called (.inr ⟨0, rfl⟩) run_read_resumed.1).called rfl run_read_resumed.2

theorem resumed_disabled :
    ¬ forall (op : Operation) (config : Mmio Unit × Console),
      Running unconditioned Begins Follows op config -> ¬ Deciding op config.1 ->
        (RxWatermarkEnabled config.2 ↔
          config.2.flowControlState = kOttfConsoleFlowControlResume.toWord) := by
  intro all
  have enabled := (all _ _ running_resumed (fun deciding => deciding.2 rfl)).mpr rfl
  exact absurd enabled (by decide)

end OttfConsole
end SunburstChip
