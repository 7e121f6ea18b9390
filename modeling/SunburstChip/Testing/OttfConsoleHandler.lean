import SunburstChip.Testing.OttfConsole

namespace SunburstChip
namespace OttfConsole

open Mmio Uart FlowControl

/-!
# The flow control interrupt

An invocation of the handler runs to its end, with only the hardware moving
between its accesses.  What it does depends on the remembered decision: if that
is to pause, nothing; otherwise it disables the interrupt, sends the other side
a request to pause, if there is room for it, and remembers that.
-/

/-! ## What hardware leaves alone -/

/-- The receive FIFO is within its depth, and the watermark is eight bytes. -/
structure Level (console : Console) : Prop where
  rx_le : console.uart.rx.length <= 64
  watermark : console.uart.rxWatermark = 8

section HardwareMoves

variable {console console' : Console}

theorem Hardware.flowControlState_eq (move : Hardware console console') :
    console'.flowControlState = console.flowControlState := by
  rcases move with ⟨uart, _, rfl⟩
  rfl

theorem Hardware.intrEnable_eq (move : Hardware console console') :
    console'.uart.intrEnable = console.uart.intrEnable := by
  rcases move with ⟨uart, moved, rfl⟩
  cases moved <;> rfl

theorem Hardware.accepted_eq (move : Hardware console console') :
    console'.uart.accepted = console.uart.accepted := by
  rcases move with ⟨uart, moved, rfl⟩
  exact moved.accepted_eq

theorem Hardware.hasRoom (move : Hardware console console') (room : console.uart.HasRoom) :
    console'.uart.HasRoom := by
  rcases move with ⟨uart, moved, rfl⟩
  exact moved.hasRoom room

/-- Software alone takes bytes out of the receive FIFO. -/
theorem Hardware.rx_le (move : Hardware console console') :
    console.uart.rx.length <= console'.uart.rx.length := by
  rcases move with ⟨uart, moved, rfl⟩
  cases moved with
  | receive byte room =>
      rw [List.length_append]
      exact Nat.le_add_right _ _
  | transmit | sent | event => exact Nat.le_refl _

theorem Hardware.level (move : Hardware console console') (level : Level console) :
    Level console' := by
  rcases move with ⟨uart, moved, rfl⟩
  cases moved with
  | receive byte room =>
      refine ⟨?_, level.watermark⟩
      rw [List.length_append]
      exact room
  | transmit | sent | event => exact ⟨level.rx_le, level.watermark⟩

end HardwareMoves

theorem rxWatermark_write (uart : State) (reg : BitVec 32) :
    State.rxWatermark { uart with
      fifoCtrl := bitfieldField32Write reg fifoCtrlRxilvlField kFlowControlRxWatermark.rxilvl } =
      8 := by
  unfold State.rxWatermark
  rw [bitfieldField32Read_write_same (by decide)]
  rfl

/-! ## The handler -/

/-- An interrupt handler and the hardware. -/
def handlerWorld (meets : Position -> Console -> Prop) : World Console where
  device := device .flowControl
  env _ := Hardware
  meets := meets

/-- An invocation of the handler, whose accesses are made in the given states. -/
def Handler (meets : Position -> Console -> Prop) (console console' : Console) : Prop :=
  Pending console ∧ Exists fun out =>
    Reaches (handlerWorld meets) (ottfConsoleFlowControlIsr .object (), console)
      (.ret out, console')

theorem kept {meets : Position -> Console -> Prop} {place : Position} {assertion : Console -> Prop}
    (stable : Stable Hardware assertion) :
    Keeps (handlerWorld meets) (fun _ _ => True) place assertion :=
  ⟨fun _ _ => trivial, stable⟩

/-- The status of a routine that never ends early is its value. -/
theorem live_statusOf {world : World Console} {inv : Position -> Console -> Prop} {pre : Console -> Prop}
    {α : Type} {routine : Code Unit Failure α} {middle : Console -> Prop}
    (kept : Keeps world inv .returned middle)
    (live : Live world inv False pre (routine ()) (Code.Returned (fun _ _ => middle))) :
    Live world inv False pre (statusOf routine ()) (Code.Returned (fun _ _ => middle)) := by
  refine Live.bind live ?_
  rintro ⟨out, ⟨⟩⟩ s ⟨value, rfl, holds⟩
  exact Live.ret kept (fun s holds => ⟨_, rfl, holds⟩) s holds

/-! ## Pieces of a decision -/

/-- The byte by which the other side is told a decision. -/
def controlByte (ctrl : FlowControl) : BitVec 8 := ctrl.toWord.setWidth 8

section Deciding

variable {world : World Console} {inv : Position -> Console -> Prop} {pre post : Console -> Prop}

/-- Sending a control byte looks for room and writes if there is some. -/
theorem live_controlByte (roomy sent : Console -> Prop)
    (drives : world.device = device .flowControl) (byte : BitVec 8)
    (keptPre : forall place, Keeps world inv place pre)
    (keptRoomy : forall place, Keeps world inv place roomy)
    (keptSent : Keeps world inv .returned sent)
    (found : forall s, pre s -> s.uart.HasRoom -> roomy s)
    (missed : forall s, pre s -> world.meets (.read32 statusRegOffset) s -> ¬ s.uart.HasRoom ->
      sent s)
    (written : forall s, roomy s -> sent { s with uart := s.uart.send .flowControl byte }) :
    Live world inv False pre (difUartBytesSend .object [byte])
      (fun out s => out.1 = .kDifOk ∧ sent s) := by
  have bytes : Live world inv False pre (uartBytesSend [byte]) (fun _ => sent) := by
    refine Live.read32 (fun reg s => if bitfieldBit32Read reg statusTxfullBit = true
      then sent s else roomy s) (keptPre _) (fun never => never.elim) ?_ (fun reg => ?_)
    · intro s holds met
      rw [drives]
      change if bitfieldBit32Read s.uart.status statusTxfullBit = true then sent s else roomy s
      by_cases room : s.uart.HasRoom
      · rw [if_neg ((txfull_status s.uart).not.mpr (not_not_intro room))]
        exact found s holds room
      · rw [if_pos ((txfull_status s.uart).mpr room)]
        exact missed s holds met room
    · change Live world inv False _ (if bitfieldBit32Read reg statusTxfullBit = true then _ else _) _
      by_cases full : bitfieldBit32Read reg statusTxfullBit = true
      · simp only [if_pos full]
        exact Live.ret keptSent (fun _ holds => holds)
      · simp only [if_neg full]
        refine Live.write32 sent (keptRoomy _) (fun never => never.elim) ?_ ?_
        · intro s holds _
          rw [drives]
          have after := written s holds
          rw [<- wdata_byte byte] at after
          exact after
        · exact Live.ret keptSent (fun _ holds => holds)
  exact Live.bind bytes (fun _ => Live.ret keptSent (fun _ holds => ⟨rfl, holds⟩))

/-- Reporting the remembered decision. -/
theorem live_reportState (drives : world.device = device .flowControl)
    (keptPre : forall place, Keeps world inv place pre) :
    Live world inv False pre (readCell flowControlStateAddr ())
      (Code.Returned (fun _ _ => pre)) := by
  refine Live.read32 (fun _ => pre) (keptPre _) (fun never => never.elim) ?_ (fun word => ?_)
  · intro s holds _
    rw [drives]
    exact holds
  · exact Live.ret (keptPre _) (fun s holds => ⟨_, rfl, holds⟩)

/-- The end of a decision: it is remembered whether or not it could be sent. -/
theorem live_sendDecision (roomy sent : Console -> Prop)
    (drives : world.device = device .flowControl) (ctrl : FlowControl)
    (keptPre : forall place, Keeps world inv place pre)
    (keptRoomy : forall place, Keeps world inv place roomy)
    (keptSent : Keeps world inv .returned sent)
    (keptStored : Keeps world inv (.write32 flowControlStateAddr ctrl.toWord) sent)
    (keptPost : forall place, Keeps world inv place post)
    (found : forall s, pre s -> s.uart.HasRoom -> roomy s)
    (missed : forall s, pre s -> world.meets (.read32 statusRegOffset) s -> ¬ s.uart.HasRoom ->
      sent s)
    (written : forall s, roomy s ->
      sent { s with uart := s.uart.send .flowControl (controlByte ctrl) })
    (stored : forall s, sent s -> post { s with flowControlState := ctrl.toWord }) :
    Live world inv False pre (sendDecision .object ctrl ()) (Code.Returned (fun _ _ => post)) := by
  refine Code.live_lift_bind _ (live_controlByte roomy sent drives (controlByte ctrl) keptPre
    keptRoomy keptSent found missed written) ?_
  rintro ⟨result, count⟩
  refine Live.assume ?_
  rintro rfl
  refine Live.write32 post keptStored (fun never => never.elim) ?_ ?_
  · intro s holds _
    rw [drives]
    exact stored s holds
  · exact live_reportState drives keptPost

/-- Reading the remembered decision, where it is known. -/
theorem live_readState {α : Type} {word : BitVec 32} {next : BitVec 32 -> Code Unit Failure α}
    {post : Except Failure α × Unit -> Console -> Prop}
    (drives : world.device = device .flowControl)
    (keptPre : forall place, Keeps world inv place pre)
    (known : forall s, pre s -> s.flowControlState = word)
    (after : Live world inv False pre (next word ()) post) :
    Live world inv False pre ((readCell flowControlStateAddr >>= next) ()) post := by
  refine Live.read32 (fun value s => value = word ∧ pre s) (keptPre _) (fun never => never.elim)
    ?_ (fun value => ?_)
  · intro s holds _
    rw [drives]
    exact ⟨known s holds, holds⟩
  · refine Live.assume ?_
    rintro rfl
    exact after

/-- Reading how many bytes have been received. -/
theorem live_available {α : Type}
    {next : DifResult × BitVec 32 -> Code Unit Failure α}
    {post : Except Failure α × Unit -> Console -> Prop} (middle : BitVec 32 -> Console -> Prop)
    (drives : world.device = device .flowControl)
    (keptPre : forall place, Keeps world inv place pre)
    (level : forall s, pre s -> Level s)
    (read : forall s avail, pre s -> world.meets (.read32 fifoStatusRegOffset) s ->
      avail.toNat = s.uart.rx.length -> middle avail s)
    (after : forall avail, Live world inv False (middle avail) (next (.kDifOk, avail) ()) post) :
    Live world inv False pre
      ((Code.lift (difUartRxBytesAvailable .object) >>= next) ()) post := by
  refine Live.read32 (fun reg s => middle (bitfieldField32Read reg fifoStatusRxlvlField) s)
    (keptPre _) (fun never => never.elim) ?_ (fun reg => after _)
  intro s holds met
  rw [drives]
  exact read s _ holds met (rxlvl_fifoStatus (level s holds).rx_le)

/-- Enabling or disabling the watermark interrupt, where the other interrupts
are known. -/
theorem live_setEnabled {α : Type} {enabled : BitVec 32} {toggle : DifToggle}
    {next : DifResult -> Code Unit Failure α} {post : Except Failure α × Unit -> Console -> Prop}
    (middle : Console -> Prop) (drives : world.device = device .flowControl)
    (keptPre : forall place, Keeps world inv place pre)
    (known : forall s, pre s -> s.uart.intrEnable = enabled)
    (changed : forall s, pre s -> middle { s with uart := { s.uart with
      intrEnable := bitfieldBit32Write enabled intrCommonRxWatermarkBit
        (toggle == kDifToggleEnabled) } })
    (after : Live world inv False middle (next .kDifOk ()) post) :
    Live world inv False pre
      ((Code.lift (difUartIrqSetEnabled .object .kDifUartIrqRxWatermark toggle) >>= next) ())
      post := by
  refine Live.read32 (fun value s => value = enabled ∧ pre s) (keptPre _)
    (fun never => never.elim) ?_ (fun value => ?_)
  · intro s holds _
    rw [drives]
    exact ⟨known s holds, holds⟩
  · refine Live.assume ?_
    rintro rfl
    refine Live.write32 middle (keptPre _) (fun never => never.elim) ?_ after
    intro s holds _
    rw [drives]
    exact changed s holds

end Deciding

/-- What `manage_flow_control` achieves in the handler is what the handler
achieves, if it does not matter that it counts and acknowledges interrupts. -/
theorem live_isr (meets : Position -> Console -> Prop) {pre post : Console -> Prop}
    (stablePre : Stable Hardware pre) (stablePost : Stable Hardware post)
    (counted : forall s irqs, pre s -> pre { s with flowControlIrqs := irqs })
    (skipped : forall s, pre s -> ¬ s.uart.rxWatermark <= s.uart.rx.length -> post s)
    (manage : Live (handlerWorld meets) (fun _ _ => True) False pre
      (manageFlowControl .object kOttfConsoleFlowControlAuto ())
      (Code.Returned (fun _ _ => post)))
    (acknowledged : forall s events, post s ->
      post { s with uart := { s.uart with intrEvents := events } }) :
    Live (handlerWorld meets) (fun _ _ => True) False pre (ottfConsoleFlowControlIsr .object ())
      (Code.Returned (fun _ _ => post)) := by
  refine Live.read32 (fun _ => pre) (kept stablePre) (fun never => never.elim)
    (fun s holds _ => holds) (fun irqs => ?_)
  refine Live.write32 pre (kept stablePre) (fun never => never.elim)
    (fun s holds _ => counted s (irqs + 1) holds) ?_
  refine Live.read32 (fun reg s => if bitfieldBit32Read reg intrCommonRxWatermarkBit = true
    then pre s else post s) (kept stablePre) (fun never => never.elim) ?_ (fun reg => ?_)
  · intro s holds _
    change if bitfieldBit32Read s.uart.intrState intrCommonRxWatermarkBit = true
      then pre s else post s
    simp only [rxWatermark_intrState, decide_eq_true_eq]
    split
    · exact holds
    · next low => exact skipped s holds low
  · refine Code.live_ite (fun raised => ?_) (fun low => ?_)
    · have raised : bitfieldBit32Read reg intrCommonRxWatermarkBit = true := raised
      simp only [if_pos raised]
      refine Code.live_bind (fun _ _ => post) (live_statusOf (kept stablePost) manage) ?_
      intro _ _
      refine Live.write32 post (kept stablePost) (fun never => never.elim)
        (fun s holds _ => acknowledged s _ holds) ?_
      exact Live.ret (kept stablePost) (fun s holds => ⟨_, rfl, holds⟩)
    · have low : ¬ bitfieldBit32Read reg intrCommonRxWatermarkBit = true := low
      simp only [if_neg low]
      exact Live.ret (kept stablePost) (fun s holds => ⟨_, rfl, holds⟩)

/-! ## What the handler does -/

theorem low_iff {avail : BitVec 32} {level : Nat} (same : avail.toNat = level) :
    avail < kFlowControlLowWatermark ↔ level < 4 := by
  rw [BitVec.lt_def, same]
  exact Iff.rfl

theorem high_iff {avail : BitVec 32} {level : Nat} (same : avail.toNat = level) :
    kFlowControlHighWatermark <= avail ↔ 8 <= level := by
  rw [BitVec.le_def, same]
  exact Iff.rfl

/-- The interrupt was raised in this state of the flow control, and `rest`
holds besides. -/
structure Raised (word : BitVec 32) (rest : Console -> Prop) (s : Console) : Prop where
  state : s.flowControlState = word
  level : Level s
  high : 8 <= s.uart.rx.length
  rest : rest s

theorem stable_raised {word : BitVec 32} {rest : Console -> Prop} (stable : Stable Hardware rest) :
    Stable Hardware (Raised word rest) :=
  fun s s' move raised => ⟨move.flowControlState_eq.trans raised.state, move.level raised.level,
    Nat.le_trans raised.high move.rx_le, stable s s' move raised.rest⟩

section Raising

variable {meets : Position -> Console -> Prop} {rest : Console -> Prop}

/-- Once the decision is to pause, the handler decides nothing. -/
theorem live_manage_paused (stable : Stable Hardware rest) :
    Live (handlerWorld meets) (fun _ _ => True) False
      (Raised kOttfConsoleFlowControlPause.toWord rest)
      (manageFlowControl .object kOttfConsoleFlowControlAuto ())
      (Code.Returned (fun _ _ => Raised kOttfConsoleFlowControlPause.toWord rest)) := by
  have keeps : forall place, Keeps (handlerWorld meets) (fun _ _ => True) place
      (Raised kOttfConsoleFlowControlPause.toWord rest) :=
    fun place => kept (stable_raised stable)
  have known : forall s, Raised kOttfConsoleFlowControlPause.toWord rest s ->
      s.flowControlState = kOttfConsoleFlowControlPause.toWord := fun s raised => raised.state
  refine live_readState rfl keeps known ?_
  refine Code.live_bind (fun decision _ s => decision = none ∧
    Raised kOttfConsoleFlowControlPause.toWord rest s) ?_ ?_
  · refine live_available (fun avail s => 8 <= avail.toNat ∧
      Raised kOttfConsoleFlowControlPause.toWord rest s) rfl keeps (fun s raised => raised.level)
      ?_ (fun avail => Live.assume (fun high => ?_))
    · intro s avail raised _ same
      exact ⟨same ▸ raised.high, raised⟩
    · refine Code.live_ite (fun low => ?_) (fun _ => Code.live_ite (fun _ => ?_) (fun low => ?_))
      · exact absurd ((low_iff rfl).mp low) (Nat.not_lt.mpr (Nat.le_trans (by decide) high))
      · refine live_readState rfl keeps known ?_
        exact Live.ret (keeps _) (fun s raised => ⟨_, rfl, rfl, raised⟩)
      · exact absurd ((high_iff rfl).mpr high) low
  · rintro decision ⟨⟩
    refine Live.assume ?_
    rintro rfl
    exact live_reportState rfl keeps

/-- Otherwise it disables the interrupt, asks the other side to pause and
remembers that.  What it means that the request was or was not accepted is left
to `sent`. -/
theorem live_manage_pausing {word enabled : BitVec 32} {quiet sent : Console -> Prop}
    (some : word ≠ kOttfConsoleFlowControlNone.toWord)
    (unpaused : word ≠ kOttfConsoleFlowControlPause.toWord)
    (stable : Stable Hardware rest) (stableQuiet : Stable Hardware quiet)
    (stableSent : Stable Hardware sent)
    (known : forall s, rest s -> s.uart.intrEnable = enabled)
    (disabled : forall s, rest s -> quiet { s with uart := { s.uart with
      intrEnable := bitfieldBit32Write enabled intrCommonRxWatermarkBit false } })
    (missed : forall s, quiet s -> meets (.read32 statusRegOffset) s -> ¬ s.uart.HasRoom ->
      sent s)
    (written : forall s, quiet s -> s.uart.HasRoom ->
      sent { s with
        uart := s.uart.send .flowControl (controlByte kOttfConsoleFlowControlPause) })
    (stored : forall s, sent s ->
      sent { s with flowControlState := kOttfConsoleFlowControlPause.toWord }) :
    Live (handlerWorld meets) (fun _ _ => True) False (Raised word rest)
      (manageFlowControl .object kOttfConsoleFlowControlAuto ())
      (Code.Returned (fun _ _ => Raised kOttfConsoleFlowControlPause.toWord sent)) := by
  have keeps : forall place, Keeps (handlerWorld meets) (fun _ _ => True) place
      (Raised word rest) := fun place => kept (stable_raised stable)
  have keepsQuiet : forall place, Keeps (handlerWorld meets) (fun _ _ => True) place
      (Raised word quiet) := fun place => kept (stable_raised stableQuiet)
  have state : forall s, Raised word rest s -> s.flowControlState = word :=
    fun s raised => raised.state
  refine live_readState rfl keeps state (Code.live_ite (fun none => absurd none some) (fun _ => ?_))
  refine Code.live_bind (fun decision _ s => decision = Option.some kOttfConsoleFlowControlPause ∧
    Raised word quiet s) ?_ ?_
  · refine live_available (fun avail s => 8 <= avail.toNat ∧ Raised word rest s) rfl keeps
      (fun s raised => raised.level) ?_ (fun avail => Live.assume (fun high => ?_))
    · intro s avail raised _ same
      exact ⟨same ▸ raised.high, raised⟩
    · refine Code.live_ite (fun low => ?_) (fun _ => Code.live_ite (fun _ => ?_) (fun low => ?_))
      · exact absurd ((low_iff rfl).mp low) (Nat.not_lt.mpr (Nat.le_trans (by decide) high))
      · refine live_readState rfl keeps state (Code.live_ite (fun _ => ?_)
          (fun paused => absurd (Classical.not_not.mp paused) unpaused))
        refine live_setEnabled (Raised word quiet) rfl keeps (fun s raised => known s raised.rest)
          ?_ (Live.ret (keepsQuiet _) (fun s raised => ⟨_, rfl, rfl, raised⟩))
        exact fun s raised => ⟨raised.state, ⟨raised.level.rx_le, raised.level.watermark⟩,
          raised.high, disabled s raised.rest⟩
      · exact absurd ((high_iff rfl).mpr high) low
  · rintro decision ⟨⟩
    refine Live.assume ?_
    rintro rfl
    refine live_sendDecision (fun s => Raised word quiet s ∧ s.uart.HasRoom) (Raised word sent) rfl
      _ keepsQuiet ?_ (kept (stable_raised stableSent)) (kept (stable_raised stableSent))
      (fun place => kept (stable_raised stableSent)) (fun s raised room => ⟨raised, room⟩) ?_ ?_ ?_
    · exact fun place => kept (fun s s' move both =>
        ⟨stable_raised stableQuiet s s' move both.1, move.hasRoom both.2⟩)
    · exact fun s raised met full => ⟨raised.state, raised.level, raised.high,
        missed s raised.rest met full⟩
    · rintro s ⟨raised, room⟩
      have accepted := written s raised.rest room
      rw [send_accepted room] at accepted ⊢
      exact ⟨raised.state, ⟨raised.level.rx_le, raised.level.watermark⟩, raised.high, accepted⟩
    · exact fun s raised => ⟨rfl, ⟨raised.level.rx_le, raised.level.watermark⟩, raised.high,
        stored s raised.rest⟩

end Raising

/-! ## Invocations -/

section Invocations

variable {meets : Position -> Console -> Prop} {rest : Console -> Prop} {s s' : Console}

/-- Where flow control is off, an invocation decides nothing. -/
theorem Handler.off (stable : Stable Hardware rest)
    (counted : forall s irqs, rest s -> rest { s with flowControlIrqs := irqs })
    (acknowledged : forall s events, rest s ->
      rest { s with uart := { s.uart with intrEvents := events } })
    (handler : Handler meets s s')
    (state : s.flowControlState = kOttfConsoleFlowControlNone.toWord) (holds : rest s) :
    s'.flowControlState = kOttfConsoleFlowControlNone.toWord ∧ rest s' := by
  rcases handler with ⟨_, out, reaches⟩
  have stableOff : Stable Hardware (fun s =>
      s.flowControlState = kOttfConsoleFlowControlNone.toWord ∧ rest s) :=
    fun s s' move off => ⟨move.flowControlState_eq.trans off.1, stable s s' move off.2⟩
  have known : forall s, s.flowControlState = kOttfConsoleFlowControlNone.toWord ∧ rest s ->
      s.flowControlState = kOttfConsoleFlowControlNone.toWord := fun s off => off.1
  have live := live_isr meets stableOff stableOff
    (fun s irqs off => ⟨off.1, counted s irqs off.2⟩) (fun s off _ => off)
    (live_readState rfl (fun place => kept stableOff) known
      (Code.live_ite (fun _ => live_reportState rfl (fun place => kept stableOff))
        (fun some => absurd rfl some)))
    (fun s events off => ⟨off.1, acknowledged s events off.2⟩)
  rcases (live s ⟨state, holds⟩ _ reaches).2.1 out rfl with ⟨value, _, off⟩
  exact off

/-- Once the decision is to pause, an invocation decides nothing. -/
theorem Handler.paused (stable : Stable Hardware rest)
    (counted : forall s irqs, rest s -> rest { s with flowControlIrqs := irqs })
    (acknowledged : forall s events, rest s ->
      rest { s with uart := { s.uart with intrEvents := events } })
    (handler : Handler meets s s')
    (state : s.flowControlState = kOttfConsoleFlowControlPause.toWord) (level : Level s)
    (holds : rest s) : Raised kOttfConsoleFlowControlPause.toWord rest s' := by
  rcases handler with ⟨⟨_, _, _, high⟩, out, reaches⟩
  have live := live_isr meets (stable_raised stable) (stable_raised stable)
    (fun s irqs raised => ⟨raised.state, ⟨raised.level.rx_le, raised.level.watermark⟩,
      raised.high, counted s irqs raised.rest⟩)
    (fun s raised _ => raised) (live_manage_paused stable)
    (fun s events raised => ⟨raised.state, ⟨raised.level.rx_le, raised.level.watermark⟩,
      raised.high, acknowledged s events raised.rest⟩)
  have raised : Raised kOttfConsoleFlowControlPause.toWord rest s :=
    ⟨state, level, Nat.le_trans (Nat.le_of_eq level.watermark.symm) high, holds⟩
  rcases (live s raised _ reaches).2.1 out rfl with ⟨value, _, raised⟩
  exact raised

/-- Otherwise it asks the other side to pause, with the interrupt disabled. -/
theorem Handler.pausing {word enabled : BitVec 32} {quiet sent : Console -> Prop}
    (some : word ≠ kOttfConsoleFlowControlNone.toWord)
    (unpaused : word ≠ kOttfConsoleFlowControlPause.toWord)
    (stableQuiet : Stable Hardware quiet) (stableSent : Stable Hardware sent)
    (disabled : forall s : Console, s.uart.intrEnable = enabled -> quiet { s with
      uart := { s.uart with
        intrEnable := bitfieldBit32Write enabled intrCommonRxWatermarkBit false } })
    (missed : forall s, quiet s -> meets (.read32 statusRegOffset) s -> ¬ s.uart.HasRoom ->
      sent s)
    (written : forall s, quiet s -> s.uart.HasRoom ->
      sent { s with
        uart := s.uart.send .flowControl (controlByte kOttfConsoleFlowControlPause) })
    (stored : forall s, sent s ->
      sent { s with flowControlState := kOttfConsoleFlowControlPause.toWord })
    (acknowledged : forall s events, sent s ->
      sent { s with uart := { s.uart with intrEvents := events } })
    (handler : Handler meets s s') (state : s.flowControlState = word) (level : Level s)
    (known : s.uart.intrEnable = enabled) :
    Raised kOttfConsoleFlowControlPause.toWord sent s' := by
  rcases handler with ⟨⟨_, _, _, high⟩, out, reaches⟩
  have stableKnown : Stable Hardware (fun s => s.uart.intrEnable = enabled) :=
    fun s s' move same => move.intrEnable_eq.trans same
  have live := live_isr meets (stable_raised stableKnown) (stable_raised stableSent)
    (fun s irqs raised => ⟨raised.state, ⟨raised.level.rx_le, raised.level.watermark⟩,
      raised.high, raised.rest⟩)
    (fun s raised low =>
      absurd (Nat.le_trans (Nat.le_of_eq raised.level.watermark) raised.high) low)
    (live_manage_pausing some unpaused stableKnown stableQuiet stableSent (fun _ same => same)
      disabled missed written stored)
    (fun s events raised => ⟨raised.state, ⟨raised.level.rx_le, raised.level.watermark⟩,
      raised.high, acknowledged s events raised.rest⟩)
  have raised : Raised word (fun s => s.uart.intrEnable = enabled) s :=
    ⟨state, level, Nat.le_trans (Nat.le_of_eq level.watermark.symm) high, known⟩
  rcases (live s raised _ reaches).2.1 out rfl with ⟨value, _, raised⟩
  exact raised

/-- The receive FIFO is within its depth. -/
def Fits (s : Console) : Prop := s.uart.rx.length <= 64

theorem Fits.hardware (fits : Fits s) (move : Hardware s s') : Fits s' := by
  rcases move with ⟨uart, moved, rfl⟩
  cases moved with
  | receive byte room =>
      unfold Fits
      rw [List.length_append]
      exact room
  | transmit | sent | event => exact fits

theorem fits_tail (fits : Fits s) :
    Fits { s with uart := { s.uart with rx := s.uart.rx.tail } } := by
  unfold Fits at fits ⊢
  rw [List.length_tail]
  exact Nat.le_trans (Nat.sub_le _ _) fits

theorem fits_read (writer : Writer) (offset : Nat) (fits : Fits s) :
    Fits ((device writer).read32 offset s).2 := by
  simp only [device]
  split
  · exact fits
  · exact fits
  · simp only [Uart.device]
    split
    case h_4 => exact fits_tail fits
    all_goals exact fits

theorem fits_write (writer : Writer) (offset : Nat) (value : BitVec 32) (fits : Fits s) :
    Fits ((device writer).write32 offset value s) := by
  simp only [device]
  split
  case h_5 =>
    simp only [Uart.device]
    split
    case h_3 =>
      unfold Fits State.send
      split <;> exact fits
    all_goals exact fits
  all_goals exact fits

theorem Handler.fits (handler : Handler meets s s') (fits : Fits s) : Fits s' := by
  rcases handler with ⟨_, out, reaches⟩
  have live : Live (handlerWorld meets) (fun _ => Fits) False Fits
      (ottfConsoleFlowControlIsr .object ()) (fun _ => Fits) :=
    Live.invariant Fits (fun _ _ _ move fits => Fits.hardware fits move)
      (fun offset _ => fits_read _ offset) (fun offset value _ => fits_write _ offset value)
      (fun _ _ _ fits => fits) _
  exact (live s fits _ reaches).1

/-- Flow control stays on, once it is. -/
structure Managed (s : Console) : Prop where
  level : Level s
  on : s.flowControlState ≠ kOttfConsoleFlowControlNone.toWord

theorem Managed.hardware (managed : Managed s) (move : Hardware s s') : Managed s' :=
  ⟨move.level managed.level, fun off => managed.on (move.flowControlState_eq.symm.trans off)⟩

theorem Managed.handler (managed : Managed s) (handler : Handler meets s s') : Managed s' := by
  by_cases paused : s.flowControlState = kOttfConsoleFlowControlPause.toWord
  · have raised := handler.paused (fun _ _ _ _ => trivial)
      (fun _ _ _ => trivial) (fun _ _ _ => trivial) paused managed.level trivial
    exact ⟨raised.level, fun off => absurd (raised.state.symm.trans off) (by decide)⟩
  · have raised := handler.pausing managed.on
      paused (fun _ _ _ _ => trivial) (fun _ _ _ _ => trivial) (fun _ _ => trivial)
      (fun _ _ _ _ => trivial) (fun _ _ _ => trivial) (fun _ _ => trivial) (fun _ _ _ => trivial)
      rfl managed.level rfl
    exact ⟨raised.level, fun off => absurd (raised.state.symm.trans off) (by decide)⟩

theorem Level.hardware (level : Level s) (move : Hardware s s') : Level s' := move.level level

theorem Level.handler (level : Level s) (handler : Handler meets s s') : Level s' := by
  by_cases off : s.flowControlState = kOttfConsoleFlowControlNone.toWord
  · exact (handler.off (fun _ _ move level => level.hardware move)
      (fun _ _ level => ⟨level.rx_le, level.watermark⟩)
      (fun _ _ level => ⟨level.rx_le, level.watermark⟩) off level).2
  · exact (Managed.handler ⟨level, off⟩ handler).level

end Invocations

end OttfConsole
end SunburstChip
