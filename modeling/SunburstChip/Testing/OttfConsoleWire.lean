import SunburstChip.Testing.OttfConsoleRuns

namespace SunburstChip
namespace OttfConsole

open Mmio Uart FlowControl

/-!
# The flow control that the other side is told

A decision is sent without waiting: if the transmit FIFO has no room for the
control byte, the byte is gone, and the decision is remembered all the same.
And once a decision to resume has enabled the interrupt, the handler can be
invoked when the request to resume is out but the decision is not remembered
yet; it then takes the decision to pause for the current one.

In every run in which there is room for each control byte, and no handler
comes in between there, the remembered decision is the one the other side was
told last.
-/

/-! ## The wire -/

/-- The control bytes that the transmit FIFO accepted, in order. -/
def controls (uart : State) : List (BitVec 8) :=
  uart.accepted.filterMap (fun write => if write.1 = .flowControl then some write.2 else none)

/-- The control byte that was accepted last. -/
def lastControl (uart : State) : Option (BitVec 8) := (controls uart).getLast?

theorem lastControl_flowControl {uart : State} (room : uart.HasRoom) (byte : BitVec 8) :
    lastControl (uart.send .flowControl byte) = some byte := by
  unfold lastControl controls
  rw [send_accepted room, List.filterMap_append]
  exact List.getLast?_concat

theorem lastControl_output (uart : State) (byte : BitVec 8) :
    lastControl (uart.send .output byte) = lastControl uart := by
  unfold State.send
  split
  · unfold lastControl controls
    rw [List.filterMap_append]
    exact congrArg List.getLast? (List.append_nil _)
  · rfl

/-- A decision that is remembered is the one that was told. -/
def Agrees (s : Console) : Prop :=
  forall ctrl, ctrl = kOttfConsoleFlowControlPause ∨ ctrl = kOttfConsoleFlowControlResume ->
    s.flowControlState = ctrl.toWord -> lastControl s.uart = some (controlByte ctrl)

/-- A decision is about to be remembered. -/
def Storing (place : Position) : Prop :=
  Exists fun value => place = .write32 flowControlStateAddr value

/-- What is invariant where no decision is about to be remembered. -/
def Shown (place : Position) (s : Console) : Prop :=
  place = .returned ∨ Storing place ∨ Agrees s

/-! ## The states between operations -/

/-- This decision is remembered and was told. -/
structure Told (ctrl : FlowControl) (s : Console) : Prop where
  state : s.flowControlState = ctrl.toWord
  level : Level s
  last : lastControl s.uart = some (controlByte ctrl)

/-- Flow control is off. -/
def Off (s : Console) : Prop :=
  s.flowControlState = kOttfConsoleFlowControlNone.toWord ∧ Fits s

/-- Flow control is off, or its decision was told. -/
def Ready (s : Console) : Prop :=
  Off s ∨ Told kOttfConsoleFlowControlPause s ∨ Told kOttfConsoleFlowControlResume s

section Keeping

variable {s s' : Console} {ctrl : FlowControl}

theorem Told.agrees (told : Told ctrl s)
    (decided : ctrl = kOttfConsoleFlowControlPause ∨ ctrl = kOttfConsoleFlowControlResume) :
    Agrees s := by
  intro ctrl' decided' same
  have words := told.state.symm.trans same
  rcases decided with rfl | rfl
  · rcases decided' with rfl | rfl
    · exact told.last
    · exact absurd words (by decide)
  · rcases decided' with rfl | rfl
    · exact absurd words (by decide)
    · exact told.last

theorem Off.agrees (off : Off s) : Agrees s := by
  intro ctrl decided same
  have words := off.1.symm.trans same
  rcases decided with rfl | rfl
  · exact absurd words (by decide)
  · exact absurd words (by decide)

theorem Ready.agrees (ready : Ready s) : Agrees s := by
  rcases ready with off | told | told
  · exact off.agrees
  · exact told.agrees (.inl rfl)
  · exact told.agrees (.inr rfl)

theorem lastControl_hardware (move : Hardware s s') :
    lastControl s'.uart = lastControl s.uart := by
  unfold lastControl controls
  rw [move.accepted_eq]

theorem Told.hardware (told : Told ctrl s) (move : Hardware s s') : Told ctrl s' :=
  ⟨move.flowControlState_eq.trans told.state, move.level told.level,
    (lastControl_hardware move).trans told.last⟩

theorem Off.hardware (off : Off s) (move : Hardware s s') : Off s' :=
  ⟨move.flowControlState_eq.trans off.1, off.2.hardware move⟩

theorem Ready.hardware (ready : Ready s) (move : Hardware s s') : Ready s' :=
  ready.imp (fun off => off.hardware move)
    (fun told => told.imp (fun told => told.hardware move) (fun told => told.hardware move))

end Keeping

/-! ## The runs -/

/-- Sending this decision makes it the one that was told last.  A decision that
is taken automatically is never the one before. -/
def Delivers (ctrl : FlowControl) (s : Console) : Prop :=
  match ctrl with
  | kOttfConsoleFlowControlNone => True
  | kOttfConsoleFlowControlAuto => s.uart.HasRoom
  | kOttfConsoleFlowControlResume | kOttfConsoleFlowControlPause =>
      s.uart.HasRoom ∨ lastControl s.uart = some (controlByte ctrl)

/-- Each control byte is delivered, and no handler is invoked between sending a
request to resume and remembering it. -/
def delivered : Conditions where
  admits _ place _ :=
    place ≠ .write32 flowControlStateAddr kOttfConsoleFlowControlResume.toWord
  meets op place s :=
    match op with
    | .enable => place = .read32 statusRegOffset -> Delivers kOttfConsoleFlowControlResume s
    | .flowControl ctrl => place = .read32 statusRegOffset -> Delivers ctrl s
    | .output _ | .receive _ => True
  handler place s := place = .read32 statusRegOffset -> Delivers kOttfConsoleFlowControlPause s

/-- Whatever has been sent, flow control is off at first. -/
def BeginsOff (_ : Operation) (s : Console) : Prop := Off s

/-- Any operation follows any other. -/
def FollowsAny (_ _ : Operation) : Prop := True

section Invoking

variable {s s' : Console}

theorem Off.handler {meets : Position -> Console -> Prop} (off : Off s)
    (handler : Handler meets s s') : Off s' :=
  handler.off (fun _ _ move fits => Fits.hardware fits move) (fun _ _ fits => fits)
    (fun _ _ fits => fits) off.1 off.2

theorem stable_last (byte : BitVec 8) :
    Stable Hardware (fun s => lastControl s.uart = some byte) :=
  fun _ _ move last => (lastControl_hardware move).trans last

/-- Once the decision is to pause, a handler leaves what was told, and the room
that there is. -/
theorem Handler.paused_last {meets : Position -> Console -> Prop} {byte : BitVec 8}
    (handler : Handler meets s s') (level : Level s)
    (state : s.flowControlState = kOttfConsoleFlowControlPause.toWord)
    (last : lastControl s.uart = some byte) :
    Raised kOttfConsoleFlowControlPause.toWord (fun s => lastControl s.uart = some byte) s' :=
  handler.paused (stable_last byte) (fun _ _ last => last) (fun _ _ last => last) state level last

theorem Told.paused (told : Told kOttfConsoleFlowControlPause s)
    {meets : Position -> Console -> Prop} (handler : Handler meets s s') :
    Told kOttfConsoleFlowControlPause s' := by
  have raised := handler.paused_last told.level told.state told.last
  exact ⟨raised.state, raised.level, raised.rest⟩

/-- A handler that decides tells the other side. -/
theorem Handler.told {word : BitVec 32} (some : word ≠ kOttfConsoleFlowControlNone.toWord)
    (unpaused : word ≠ kOttfConsoleFlowControlPause.toWord)
    (handler : Handler delivered.handler s s') (state : s.flowControlState = word)
    (level : Level s) : Told kOttfConsoleFlowControlPause s' := by
  have stable := stable_last (controlByte kOttfConsoleFlowControlPause)
  have raised := handler.pausing some unpaused (fun _ _ _ _ => trivial) stable
    (fun _ _ => trivial) (fun t _ met full => (met rfl).resolve_left full)
    (fun t _ room => lastControl_flowControl room _) (fun _ last => last) (fun _ _ last => last)
    state level rfl
  exact ⟨raised.state, raised.level, raised.rest⟩

theorem Ready.handler (ready : Ready s) (handler : Handler delivered.handler s s') :
    Ready s' := by
  rcases ready with off | told | told
  · exact .inl (off.handler handler)
  · exact .inr (.inl (told.paused handler))
  · exact .inr (.inl (handler.told (by decide) (by decide) told.state told.level))

/-- Between operations, and wherever an operation leaves the decision alone. -/
theorem keeps_ready (op : Operation) (place : Position) :
    Keeps (consoleWorld delivered op) Shown place Ready := by
  refine ⟨fun s ready => .inr (.inr ready.agrees), ?_⟩
  rintro s s' (move | ⟨_, handler⟩) ready
  · exact ready.hardware move
  · exact ready.handler handler

end Invoking

/-! ## Sending a decision -/

section Operations

/-- What is left of the console by a write to a register that has no part in
flow control. -/
theorem Ready.of_eq {s s' : Console} (ready : Ready s)
    (state : s'.flowControlState = s.flowControlState) (fits : Fits s -> Fits s')
    (level : Level s -> Level s') (last : lastControl s'.uart = lastControl s.uart) :
    Ready s' := by
  rcases ready with off | told | told
  · exact .inl ⟨state.trans off.1, fits off.2⟩
  · exact .inr (.inl ⟨state.trans told.state, level told.level, last.trans told.last⟩)
  · exact .inr (.inr ⟨state.trans told.state, level told.level, last.trans told.last⟩)

theorem live_output_ready (byte : BitVec 8) :
    Live (consoleWorld delivered (.output byte)) Shown False Ready
      (Operation.output byte).program (fun _ => Ready) := by
  refine live_output byte (keeps_ready _) (fun s ready => ?_)
  have last := lastControl_output s.uart byte
  refine ready.of_eq rfl ?_ ?_ last
  · unfold Fits State.send
    split <;> exact id
  · unfold State.send
    split <;> exact fun level => ⟨level.rx_le, level.watermark⟩

theorem live_receive_ready (byte : BitVec 8) :
    Live (consoleWorld delivered (.receive byte)) Shown False Ready
      (Operation.receive byte).program (fun _ => Ready) :=
  live_receive byte (keeps_ready _) (fun _ ready => ready.of_eq rfl fits_tail
    (fun level => ⟨fits_tail level.rx_le, level.watermark⟩) rfl)

/-- With all interrupts disabled, a decision is told and then remembered. -/
theorem live_sendDecision_masked {rest : Console -> Prop} (op : Operation) {ctrl : FlowControl}
    (taken : ctrl ≠ kOttfConsoleFlowControlAuto) (stable : Stable Hardware rest)
    (agrees : forall s, rest s -> Agrees s)
    (delivers : forall s, (consoleWorld delivered op).meets (.read32 statusRegOffset) s ->
      ctrl ≠ kOttfConsoleFlowControlNone -> ¬ s.uart.HasRoom ->
      lastControl s.uart = some (controlByte ctrl))
    (drives : op.writer = .flowControl) :
    Live (consoleWorld delivered op) Shown False (Masked rest) (sendDecision .object ctrl ())
      (Code.Returned (fun _ _ => Ready)) := by
  have device : (consoleWorld delivered op).device = device .flowControl :=
    congrArg device drives
  have stableSent : Stable Hardware (fun s : Console => ctrl ≠ kOttfConsoleFlowControlNone ->
      lastControl s.uart = some (controlByte ctrl)) :=
    fun s s' move sent some => stable_last _ s s' move (sent some)
  refine live_sendDecision (Masked (fun s => rest s ∧ s.uart.HasRoom))
    (Masked (fun s => ctrl ≠ kOttfConsoleFlowControlNone ->
      lastControl s.uart = some (controlByte ctrl))) device ctrl
    (fun place => keeps_masked op stable place
      (fun s masked => .inr (.inr (agrees s masked.rest)))) (fun place => ?_)
    (keeps_masked op stableSent _ (fun _ _ => .inl rfl))
    (keeps_masked op stableSent _ (fun _ _ => .inr (.inl ⟨_, rfl⟩))) (keeps_ready op) ?_ ?_ ?_ ?_
  · refine keeps_masked op (fun s s' move both => ⟨stable s s' move both.1, move.hasRoom both.2⟩)
      place (fun s masked => .inr (.inr (agrees s masked.rest.1)))
  · exact fun s masked room => ⟨masked.disabled, masked.level, masked.rest, room⟩
  · exact fun s masked met full => ⟨masked.disabled, masked.level,
      fun some => delivers s met some full⟩
  · intro s masked
    have last := lastControl_flowControl masked.rest.2 (controlByte ctrl)
    rw [send_accepted masked.rest.2] at last ⊢
    exact ⟨masked.disabled, ⟨masked.level.rx_le, masked.level.watermark⟩, fun _ => last⟩
  · intro s masked
    have level := masked.level
    cases ctrl with
    | kOttfConsoleFlowControlNone => exact .inl ⟨rfl, level.rx_le⟩
    | kOttfConsoleFlowControlAuto => exact absurd rfl taken
    | kOttfConsoleFlowControlResume =>
        exact .inr (.inr ⟨rfl, ⟨level.rx_le, level.watermark⟩, masked.rest (by decide)⟩)
    | kOttfConsoleFlowControlPause =>
        exact .inr (.inl ⟨rfl, ⟨level.rx_le, level.watermark⟩, masked.rest (by decide)⟩)

/-- The decision to pause is remembered, and this was told last. -/
structure Paused (byte : BitVec 8) (rest : Console -> Prop) (s : Console) : Prop where
  state : s.flowControlState = kOttfConsoleFlowControlPause.toWord
  level : Level s
  last : lastControl s.uart = some byte
  rest : rest s

/-- A handler decides nothing in between. -/
theorem keeps_paused {byte : BitVec 8} {rest : Console -> Prop} (op : Operation)
    (place : Position) (stable : Stable Hardware rest)
    (counted : forall s irqs, rest s -> rest { s with flowControlIrqs := irqs })
    (acknowledged : forall s events, rest s ->
      rest { s with uart := { s.uart with intrEvents := events } })
    (within : forall s, Paused byte rest s -> Shown place s) :
    Keeps (consoleWorld delivered op) Shown place (Paused byte rest) := by
  refine ⟨within, ?_⟩
  rintro s s' (move | ⟨_, handler⟩) between
  · exact ⟨move.flowControlState_eq.trans between.state, move.level between.level,
      stable_last byte s s' move between.last, stable s s' move between.rest⟩
  · have raised : Raised kOttfConsoleFlowControlPause.toWord
        (fun s => lastControl s.uart = some byte ∧ rest s) s' := handler.paused
      (fun s s' move both => ⟨stable_last byte s s' move both.1, stable s s' move both.2⟩)
      (fun s irqs both => ⟨both.1, counted s irqs both.2⟩)
      (fun s events both => ⟨both.1, acknowledged s events both.2⟩)
      between.state between.level ⟨between.last, between.rest⟩
    exact ⟨raised.state, raised.level, raised.rest.1, raised.rest.2⟩

/-- After the interrupt is enabled again, the request to resume is told and
remembered, with handlers in between. -/
theorem live_sendDecision_resume :
    Live (consoleWorld delivered (.flowControl kOttfConsoleFlowControlAuto)) Shown False
      (Told kOttfConsoleFlowControlPause) (sendDecision .object kOttfConsoleFlowControlResume ())
      (Code.Returned (fun _ _ => Ready)) := by
  have roomy : Stable Hardware (fun s : Console => s.uart.HasRoom) :=
    fun s s' move room => move.hasRoom room
  have keepsTold : forall place, Keeps (consoleWorld delivered
      (.flowControl kOttfConsoleFlowControlAuto)) Shown place
      (Told kOttfConsoleFlowControlPause) := by
    refine fun place => ⟨fun s told => .inr (.inr (told.agrees (.inl rfl))), ?_⟩
    rintro s s' (move | ⟨_, handler⟩) told
    · exact told.hardware move
    · exact told.paused handler
  have keepsSent : forall place, place = .returned ∨ Storing place ->
      Keeps (consoleWorld delivered (.flowControl kOttfConsoleFlowControlAuto)) Shown place
        (Paused (controlByte kOttfConsoleFlowControlResume) (fun _ => True)) :=
    fun place exempt => keeps_paused _ place (fun _ _ _ _ => trivial) (fun _ _ _ => trivial)
      (fun _ _ _ => trivial) (fun _ _ => exempt.imp_right .inl)
  refine live_sendDecision (Paused (controlByte kOttfConsoleFlowControlPause)
    (fun s => s.uart.HasRoom)) (Paused (controlByte kOttfConsoleFlowControlResume)
    (fun _ => True)) rfl _ keepsTold ?_ (keepsSent _ (.inl rfl)) (keepsSent _ (.inr ⟨_, rfl⟩))
    (keeps_ready _) ?_ ?_ ?_ ?_
  · refine fun place => keeps_paused _ place roomy (fun _ _ room => room) (fun _ _ room => room)
      (fun s between => .inr (.inr ?_))
    exact Told.agrees ⟨between.state, between.level, between.last⟩ (.inl rfl)
  · exact fun s told room => ⟨told.state, told.level, told.last, room⟩
  · exact fun s told met full => absurd (met rfl) full
  · intro s between
    have last := lastControl_flowControl between.rest (controlByte kOttfConsoleFlowControlResume)
    rw [send_accepted between.rest] at last ⊢
    exact ⟨between.state, ⟨between.level.rx_le, between.level.watermark⟩, last, trivial⟩
  · exact fun s between =>
      .inr (.inr ⟨rfl, ⟨between.level.rx_le, between.level.watermark⟩, between.last⟩)

/-! ## Taking a decision -/

/-- What goes with an automatic decision before it is sent. -/
def Outcome (decision : Option FlowControl) (s : Console) : Prop :=
  match decision with
  | none => Ready s
  | some kOttfConsoleFlowControlResume => Told kOttfConsoleFlowControlPause s
  | some kOttfConsoleFlowControlPause => Masked (Told kOttfConsoleFlowControlResume) s
  | some _ => False

section Automatic

abbrev automatic : World Console :=
  consoleWorld delivered (.flowControl kOttfConsoleFlowControlAuto)

theorem keeps_masked_told {decided : FlowControl} (op : Operation) (place : Position)
    (known : decided = kOttfConsoleFlowControlPause ∨ decided = kOttfConsoleFlowControlResume) :
    Keeps (consoleWorld delivered op) Shown place (Masked (Told decided)) :=
  keeps_masked op (fun _ _ move told => told.hardware move) place
    (fun _ masked => .inr (.inr (masked.rest.agrees known)))

theorem live_autoDecision_paused :
    Live automatic Shown False (Masked (Told kOttfConsoleFlowControlPause))
      (autoDecision .object ()) (Code.Returned (fun decision _ => Outcome decision)) := by
  have keeps : forall place, Keeps automatic Shown place
      (Masked (Told kOttfConsoleFlowControlPause)) :=
    fun place => keeps_masked_told _ place (.inl rfl)
  have known : forall s, Masked (Told kOttfConsoleFlowControlPause) s ->
      s.flowControlState = kOttfConsoleFlowControlPause.toWord := fun s masked => masked.rest.state
  have kept : Live automatic Shown False (Masked (Told kOttfConsoleFlowControlPause))
      ((pure none : Code Unit Failure (Option FlowControl)) ())
      (Code.Returned (fun decision _ => Outcome decision)) :=
    Live.ret (keeps _) (fun s masked => ⟨_, rfl, .inr (.inl masked.rest)⟩)
  refine live_available (fun _ => Masked (Told kOttfConsoleFlowControlPause)) rfl keeps
    (fun s masked => masked.level) (fun s avail masked _ _ => masked) (fun avail => ?_)
  refine Code.live_ite (fun low => ?_) (fun _ => ?_)
  · refine live_readState rfl keeps known (Code.live_ite (fun _ => ?_)
      (fun resumed => absurd (Classical.not_not.mp resumed) (by decide)))
    refine live_setEnabled (Told kOttfConsoleFlowControlPause) rfl keeps
      (fun s masked => masked.disabled) ?_ (Live.ret ?_ (fun s told => ⟨_, rfl, told⟩))
    · exact fun s masked => ⟨masked.rest.state, ⟨masked.level.rx_le, masked.level.watermark⟩,
        masked.rest.last⟩
    · refine ⟨fun _ _ => .inl rfl, ?_⟩
      rintro s s' (move | ⟨_, handler⟩) told
      · exact told.hardware move
      · exact told.paused handler
  · refine Code.live_ite (fun _ => ?_) (fun _ => kept)
    exact live_readState rfl keeps known (Code.live_ite (fun unpaused => absurd rfl unpaused)
      (fun _ => kept))

theorem live_autoDecision_resumed :
    Live automatic Shown False (Masked (Told kOttfConsoleFlowControlResume))
      (autoDecision .object ()) (Code.Returned (fun decision _ => Outcome decision)) := by
  have keeps : forall place, Keeps automatic Shown place
      (Masked (Told kOttfConsoleFlowControlResume)) :=
    fun place => keeps_masked_told _ place (.inr rfl)
  have known : forall s, Masked (Told kOttfConsoleFlowControlResume) s ->
      s.flowControlState = kOttfConsoleFlowControlResume.toWord :=
    fun s masked => masked.rest.state
  have kept : Live automatic Shown False (Masked (Told kOttfConsoleFlowControlResume))
      ((pure none : Code Unit Failure (Option FlowControl)) ())
      (Code.Returned (fun decision _ => Outcome decision)) :=
    Live.ret (keeps _) (fun s masked => ⟨_, rfl, .inr (.inr masked.rest)⟩)
  -- The end of the decision, which the first test leads to in either case.
  have high : forall avail : BitVec 32, Live automatic Shown False
      (Masked (Told kOttfConsoleFlowControlResume))
      ((if kFlowControlHighWatermark <= avail then do
          let state <- readCell flowControlStateAddr
          if state ≠ kOttfConsoleFlowControlPause.toWord then
            let result <- Code.lift (difUartIrqSetEnabled .object .kDifUartIrqRxWatermark
              kDifToggleDisabled)
            checkDifOk result
            return some kOttfConsoleFlowControlPause
          else return none
        else return none : Code Unit Failure (Option FlowControl)) ())
      (Code.Returned (fun decision _ => Outcome decision)) := by
    intro avail
    refine Code.live_ite (fun _ => ?_) (fun _ => kept)
    refine live_readState rfl keeps known (Code.live_ite (fun _ => ?_)
      (fun paused => absurd (Classical.not_not.mp paused) (by decide)))
    refine live_setEnabled (Masked (Told kOttfConsoleFlowControlResume)) rfl keeps
      (fun s masked => masked.disabled) ?_ (Live.ret (keeps _) (fun s masked => ⟨_, rfl, masked⟩))
    have cleared : bitfieldBit32Write 0 intrCommonRxWatermarkBit
        (kDifToggleDisabled == kDifToggleEnabled) = 0 := by decide
    exact fun s masked => ⟨cleared, ⟨masked.level.rx_le, masked.level.watermark⟩,
      masked.rest.state, ⟨masked.level.rx_le, masked.level.watermark⟩, masked.rest.last⟩
  refine live_available (fun _ => Masked (Told kOttfConsoleFlowControlResume)) rfl keeps
    (fun s masked => masked.level) (fun s avail masked _ _ => masked) (fun avail => ?_)
  refine Code.live_ite (fun low => ?_) (fun _ => high avail)
  exact live_readState rfl keeps known (Code.live_ite (fun unresumed => absurd rfl unresumed)
    (fun _ => high avail))

/-- The decision that is taken automatically, from one that was told. -/
theorem live_manage_auto {decided : FlowControl}
    (known : decided = kOttfConsoleFlowControlPause ∨ decided = kOttfConsoleFlowControlResume) :
    Live automatic Shown False (Masked (Told decided))
      (manageFlowControl .object kOttfConsoleFlowControlAuto ())
      (Code.Returned (fun _ _ => Ready)) := by
  have on : decided.toWord ≠ kOttfConsoleFlowControlNone.toWord := by
    rcases known with rfl | rfl <;> decide
  have decides : Live automatic Shown False (Masked (Told decided)) (autoDecision .object ())
      (Code.Returned (fun decision _ => Outcome decision)) := by
    rcases known with rfl | rfl
    · exact live_autoDecision_paused
    · exact live_autoDecision_resumed
  refine live_readState rfl (fun place => keeps_masked_told _ place known)
    (fun s masked => masked.rest.state) (Code.live_ite (fun off => absurd off on) (fun _ => ?_))
  refine Code.live_bind _ decides ?_
  rintro decision ⟨⟩
  cases decision with
  | none => exact live_reportState rfl (keeps_ready _)
  | some ctrl =>
      cases ctrl with
      | kOttfConsoleFlowControlNone | kOttfConsoleFlowControlAuto =>
          exact fun s never => never.elim
      | kOttfConsoleFlowControlResume => exact live_sendDecision_resume
      | kOttfConsoleFlowControlPause =>
          exact live_sendDecision_masked _ (by decide) (fun _ _ move told => told.hardware move)
            (fun s told => told.agrees (.inr rfl)) (fun s met _ full => absurd (met rfl) full) rfl

end Automatic

/-- The decision of a call, from one that was told. -/
theorem live_manage_told (ctrl : FlowControl) {decided : FlowControl}
    (known : decided = kOttfConsoleFlowControlPause ∨ decided = kOttfConsoleFlowControlResume) :
    Live (consoleWorld delivered (.flowControl ctrl)) Shown False (Masked (Told decided))
      (manageFlowControl .object ctrl ()) (Code.Returned (fun _ _ => Ready)) := by
  by_cases auto : ctrl = kOttfConsoleFlowControlAuto
  · rw [auto]
    exact live_manage_auto known
  · have on : decided.toWord ≠ kOttfConsoleFlowControlNone.toWord := by
      rcases known with rfl | rfl <;> decide
    refine live_readState rfl (fun place => keeps_masked_told _ place known)
      (fun s masked => masked.rest.state) (Code.live_ite (fun off => absurd off on) (fun _ => ?_))
    refine Code.live_ite (fun same => absurd same auto) (fun _ => ?_)
    refine live_sendDecision_masked _ auto (fun _ _ move told => told.hardware move)
      (fun s told => told.agrees known) (fun s met some full => ?_) rfl
    have delivers : Delivers ctrl s := met rfl
    cases ctrl with
    | kOttfConsoleFlowControlNone => exact absurd rfl some
    | kOttfConsoleFlowControlAuto => exact absurd rfl auto
    | kOttfConsoleFlowControlResume | kOttfConsoleFlowControlPause =>
        exact delivers.resolve_left full

/-- While flow control is off, a call decides nothing. -/
theorem live_flowControl_off (ctrl : FlowControl) :
    Live (consoleWorld delivered (.flowControl ctrl)) Shown False Off
      (ottfConsoleFlowControl .object ctrl ()) (fun _ => Ready) := by
  have keeps : forall place, Keeps (consoleWorld delivered (.flowControl ctrl)) Shown place
      Off := by
    refine fun place => ⟨fun s off => .inr (.inr off.agrees), ?_⟩
    rintro s s' (move | ⟨_, handler⟩) off
    · exact off.hardware move
    · exact off.handler handler
  have manage : Live (consoleWorld delivered (.flowControl ctrl)) Shown False Off
      (manageFlowControl .object ctrl ()) (Code.Returned (fun _ _ => Off)) :=
    live_readState rfl keeps (fun s off => off.1)
      (Code.live_ite (fun _ => live_reportState rfl keeps) (fun on => absurd rfl on))
  refine Live.read32 (fun _ => Off) (keeps _) (fun never => never.elim) (fun s off _ => off)
    (fun snapshot => ?_)
  refine Live.write32 Off (keeps _) (fun never => never.elim) (fun s off _ => off) ?_
  refine Code.live_bind (fun _ _ => Off) (live_statusOf (keeps _) manage) (fun _ _ => ?_)
  refine Live.write32 Off (keeps _) (fun never => never.elim) (fun s off _ => off) ?_
  exact Live.ret (keeps _) (fun s off => .inl off)

/-- Otherwise its decision is told. -/
theorem live_flowControl_told (ctrl : FlowControl) :
    Live (consoleWorld delivered (.flowControl ctrl)) Shown False
      (fun s => Told kOttfConsoleFlowControlPause s ∨ Told kOttfConsoleFlowControlResume s)
      (ottfConsoleFlowControl .object ctrl ()) (fun _ => Ready) := by
  have keeps : forall place, Keeps (consoleWorld delivered (.flowControl ctrl)) Shown place
      (fun s => Told kOttfConsoleFlowControlPause s ∨ Told kOttfConsoleFlowControlResume s) := by
    refine fun place => ⟨fun s told => .inr (.inr (Ready.agrees (.inr told))), ?_⟩
    rintro s s' (move | ⟨_, handler⟩) (told | told)
    · exact .inl (told.hardware move)
    · exact .inr (told.hardware move)
    · exact .inl (told.paused handler)
    · exact .inl (handler.told (by decide) (by decide) told.state told.level)
  refine Live.read32 (fun _ s => Told kOttfConsoleFlowControlPause s ∨
    Told kOttfConsoleFlowControlResume s) (keeps _) (fun never => never.elim)
    (fun s told _ => told) (fun snapshot => ?_)
  refine Live.write32 (fun s => Masked (Told kOttfConsoleFlowControlPause) s ∨
    Masked (Told kOttfConsoleFlowControlResume) s) (keeps _) (fun never => never.elim) ?_ ?_
  · intro s told _
    refine told.imp (fun told => ?_) (fun told => ?_)
    · exact ⟨rfl, ⟨told.level.rx_le, told.level.watermark⟩, told.state,
        ⟨told.level.rx_le, told.level.watermark⟩, told.last⟩
    · exact ⟨rfl, ⟨told.level.rx_le, told.level.watermark⟩, told.state,
        ⟨told.level.rx_le, told.level.watermark⟩, told.last⟩
  · have after : forall decided, decided = kOttfConsoleFlowControlPause ∨
        decided = kOttfConsoleFlowControlResume ->
        Live (consoleWorld delivered (.flowControl ctrl)) Shown False (Masked (Told decided))
          ((statusOf (manageFlowControl .object ctrl) >>= fun s => do
            restoreInterrupts .object snapshot
            return s) ()) (fun _ => Ready) := by
      intro decided known
      refine Code.live_bind (fun _ _ => Ready) (live_statusOf (keeps_ready _ _)
        (live_manage_told ctrl known)) (fun _ _ => ?_)
      refine Live.write32 Ready (keeps_ready _ _) (fun never => never.elim) ?_
        (Live.ret (keeps_ready _ _) (fun _ ready => ready))
      exact fun s ready _ => ready.of_eq rfl id (fun level => ⟨level.rx_le, level.watermark⟩) rfl
    exact fun s told => told.elim (after _ (.inl rfl) s) (after _ (.inr rfl) s)

theorem live_flowControl_ready (ctrl : FlowControl) :
    Live (consoleWorld delivered (.flowControl ctrl)) Shown False Ready
      (Operation.flowControl ctrl).program (fun _ => Ready) := by
  have whole : Live (consoleWorld delivered (.flowControl ctrl)) Shown False Ready
      (ottfConsoleFlowControl .object ctrl ()) (fun _ => Ready) :=
    fun s ready => ready.elim (live_flowControl_off ctrl s) (live_flowControl_told ctrl s)
  exact Live.bind whole (fun _ => Live.ret (keeps_ready _ _) (fun _ ready => ready))

/-! ## Enabling flow control -/

/-- Flow control is being enabled: nothing is decided yet, or a handler decided
to pause. -/
def Opening (s : Console) : Prop :=
  Level s ∧ (s.flowControlState = kOttfConsoleFlowControlAuto.toWord ∨
    Told kOttfConsoleFlowControlPause s)

theorem Opening.agrees {s : Console} (opening : Opening s) : Agrees s := by
  rcases opening.2 with state | told
  · intro ctrl decided same
    have words := state.symm.trans same
    rcases decided with rfl | rfl
    · exact absurd words (by decide)
    · exact absurd words (by decide)
  · exact told.agrees (.inl rfl)

theorem stable_opening : Stable Hardware Opening :=
  fun _ _ move opening => ⟨move.level opening.1,
    opening.2.imp move.flowControlState_eq.trans (fun told => told.hardware move)⟩

theorem keeps_opening (place : Position) :
    Keeps (consoleWorld delivered .enable) Shown place Opening := by
  refine ⟨fun s opening => .inr (.inr opening.agrees), ?_⟩
  rintro s s' (move | ⟨_, handler⟩) opening
  · exact stable_opening s s' move opening
  · rcases opening.2 with state | told
    · have told := handler.told (by decide) (by decide) state opening.1
      exact ⟨told.level, .inr told⟩
    · have told := told.paused handler
      exact ⟨told.level, .inr told⟩

theorem live_prepareFlowControl_ready :
    Live (consoleWorld delivered .enable) Shown False Ready (prepareFlowControl .object ())
      (Code.Returned (fun _ _ => Opening)) := by
  have keeps : forall place, Keeps (consoleWorld delivered .enable) Shown place
      (fun s => Ready s ∧ Level s) := by
    refine fun place => ⟨fun s both => .inr (.inr both.1.agrees), ?_⟩
    rintro s s' (move | ⟨_, handler⟩) both
    · exact ⟨both.1.hardware move, move.level both.2⟩
    · exact ⟨both.1.handler handler, both.2.handler handler⟩
  refine Live.read32 (fun _ => Ready) (keeps_ready _ _) (fun never => never.elim)
    (fun s ready _ => ready) (fun reg => ?_)
  refine Live.write32 (fun s => Ready s ∧ Level s) (keeps_ready _ _) (fun never => never.elim) ?_ ?_
  · intro s ready _
    have fits : Fits s := by
      rcases ready with off | told | told
      · exact off.2
      · exact told.level.rx_le
      · exact told.level.rx_le
    have level : Level { s with uart := { s.uart with
        fifoCtrl := bitfieldField32Write reg fifoCtrlRxilvlField kFlowControlRxWatermark.rxilvl } } :=
      ⟨fits, rxWatermark_write s.uart reg⟩
    exact ⟨ready.of_eq rfl id (fun _ => level) rfl, level⟩
  refine Live.read32 (fun _ s => Ready s ∧ Level s) (keeps _) (fun never => never.elim)
    (fun s both _ => both) (fun enabled => ?_)
  refine Live.write32 (fun s => Ready s ∧ Level s) (keeps _) (fun never => never.elim) ?_ ?_
  · intro s both _
    exact ⟨both.1.of_eq rfl id (fun level => ⟨level.rx_le, level.watermark⟩) rfl,
      both.2.rx_le, both.2.watermark⟩
  refine Live.write32 Opening (keeps _) (fun never => never.elim)
    (fun s both _ => ⟨⟨both.2.rx_le, both.2.watermark⟩, .inl rfl⟩) ?_
  have opening : forall (s : Console) (global external : Bool), Opening s ->
      Opening { s with globalInterrupts := global, externalInterrupts := external } :=
    fun s global external opening => ⟨⟨opening.1.rx_le, opening.1.watermark⟩,
      opening.2.imp_right (fun told => ⟨told.state, ⟨told.level.rx_le, told.level.watermark⟩,
        told.last⟩)⟩
  refine Live.write32 Opening (keeps_opening _) (fun never => never.elim)
    (fun s holds _ => opening s _ _ holds) ?_
  refine Live.write32 Opening (keeps_opening _) (fun never => never.elim)
    (fun s holds _ => opening s _ _ holds) ?_
  exact Live.ret (keeps_opening _) (fun s holds => ⟨_, rfl, holds⟩)

theorem live_enable_ready :
    Live (consoleWorld delivered .enable) Shown False Ready Operation.enable.program
      (fun _ => Ready) := by
  have manage : Live (consoleWorld delivered .enable) Shown False (Masked Opening)
      (manageFlowControl .object kOttfConsoleFlowControlResume ())
      (Code.Returned (fun _ _ => Ready)) := by
    refine Live.read32 (fun word s => word ≠ kOttfConsoleFlowControlNone.toWord ∧
      Masked Opening s) (keeps_masked _ stable_opening _
        (fun _ masked => .inr (.inr masked.rest.agrees))) (fun never => never.elim) ?_
      (fun word => Live.assume (fun on => ?_))
    · intro s masked _
      refine ⟨fun off => ?_, masked⟩
      have off : s.flowControlState = kOttfConsoleFlowControlNone.toWord := off
      rcases masked.rest.2 with state | told
      · exact absurd (state.symm.trans off) (by decide)
      · exact absurd (told.state.symm.trans off) (by decide)
    · refine Code.live_ite (fun off => absurd off on) (fun _ => ?_)
      exact live_sendDecision_masked _ (by decide) stable_opening (fun s opening => opening.agrees)
        (fun s met _ full => (met rfl).resolve_left full) rfl
  have resume : Live (consoleWorld delivered .enable) Shown False Opening
      (ottfConsoleFlowControl .object kOttfConsoleFlowControlResume ())
      (Code.Returned (fun _ _ => Ready)) := by
    refine Live.read32 (fun _ => Opening) (keeps_opening _) (fun never => never.elim)
      (fun s opening _ => opening) (fun snapshot => ?_)
    refine Live.write32 (Masked Opening) (keeps_opening _) (fun never => never.elim) ?_ ?_
    · intro s opening _
      refine ⟨rfl, ⟨opening.1.rx_le, opening.1.watermark⟩,
        ⟨opening.1.rx_le, opening.1.watermark⟩, ?_⟩
      exact opening.2.imp_right (fun told =>
        ⟨told.state, ⟨told.level.rx_le, told.level.watermark⟩, told.last⟩)
    · refine Code.live_bind (fun _ _ => Ready) (live_statusOf (keeps_ready _ _) manage)
        (fun _ _ => ?_)
      refine Live.write32 Ready (keeps_ready _ _) (fun never => never.elim) ?_
        (Live.ret (keeps_ready _ _) (fun _ ready => ⟨_, rfl, ready⟩))
      exact fun s ready _ => ready.of_eq rfl id (fun level => ⟨level.rx_le, level.watermark⟩) rfl
  have whole : Live (consoleWorld delivered .enable) Shown False Ready
      (ottfConsoleFlowControlEnable .object ()) (fun _ => Ready) :=
    Code.live_bind (fun _ _ => Opening) live_prepareFlowControl_ready (fun _ _ =>
      Code.live_bind (fun _ _ => Ready) resume (fun _ _ =>
        Live.ret (keeps_ready _ _) (fun _ ready => ready)))
  exact Live.bind whole (fun _ => Live.ret (keeps_ready _ _) (fun _ ready => ready))

end Operations

/-! ## The decision and the wire -/

theorem live_operation_ready (op : Operation) :
    Live (consoleWorld delivered op) Shown False Ready op.program (fun _ => Ready) := by
  cases op with
  | enable => exact live_enable_ready
  | output byte => exact live_output_ready byte
  | receive byte => exact live_receive_ready byte
  | flowControl ctrl => exact live_flowControl_ready ctrl

/-- In every run in which each control byte is delivered, and no handler is
invoked between sending a request to resume and remembering it, the remembered
decision is the one that the other side was told last, whenever it is not just
about to be remembered. -/
theorem decision_told (op : Operation) (config : Mmio Unit × Console)
    (running : Running delivered BeginsOff FollowsAny op config)
    (settled : ¬ Storing config.1.position) : Agrees config.2 := by
  have all : Shown config.1.position config.2 ∧ (config.1 = .ret () -> Ready config.2) :=
    running.invariant live_operation_ready (fun _ _ off => .inl off) (fun _ _ _ _ => id)
  rcases config with ⟨m, s⟩
  rcases all.1 with returned | storing | agrees
  · cases m with
    | ret value => exact (all.2 rfl).agrees
    | read32 | write32 | write8 | poll32 => cases returned
  · exact absurd storing settled
  · exact agrees

/-! ## A full transmit FIFO -/

/-- Flow control is off, and this many bytes of output are queued. -/
def queued (count : Nat) : Console :=
  ⟨⟨0, 0, 0, List.replicate count 0x2e, false, [], [], []⟩, 0, 0, false, false⟩

/-- Flow control is on, and its first decision was told. -/
def opened : Console :=
  ⟨⟨2, 0, 12, [0x11], false, [], [(.flowControl, 0x11)], []⟩, 17, 0, true, true⟩

theorem queued_off (count : Nat) : BeginsOff .enable (queued count) := ⟨rfl, Nat.zero_le 64⟩

set_option maxRecDepth 4000 in
theorem reaches_opened :
    Reaches (consoleWorld delivered .enable) (Operation.enable.program, queued 0)
      (.ret (), opened) := by
  have write : forall offset value s,
      (consoleWorld delivered .enable).meets (.write32 offset value) s :=
    fun offset value s same => by cases same
  have read : forall offset s, offset ≠ statusRegOffset ->
      (consoleWorld delivered .enable).meets (.read32 offset) s :=
    fun offset s other same => by cases same; exact absurd rfl other
  -- Setting up.
  refine .head (.read32 _ _ _ (read _ _ (by decide))) (.head (.write32 _ _ _ _ (write _ _ _)) ?_)
  refine .head (.read32 _ _ _ (read _ _ (by decide))) (.head (.write32 _ _ _ _ (write _ _ _)) ?_)
  refine .head (.write32 _ _ _ _ (write _ _ _)) (.head (.write32 _ _ _ _ (write _ _ _))
    (.head (.write32 _ _ _ _ (write _ _ _)) ?_))
  -- The request to resume.
  refine .head (.read32 _ _ _ (read _ _ (by decide))) (.head (.write32 _ _ _ _ (write _ _ _)) ?_)
  refine .head (.read32 _ _ _ (read _ _ (by decide))) ?_
  refine .head (.read32 _ _ _ (fun _ => .inl (by decide))) (.head (.write32 _ _ _ _
    (write _ _ _)) (.head (.write32 _ _ _ _ (write _ _ _)) ?_))
  exact .head (.read32 _ _ _ (read _ _ (by decide))) (.head (.write32 _ _ _ _ (write _ _ _)) .refl)

theorem decision_told_opened : Agrees opened :=
  decision_told .enable (.ret (), opened)
    (Running.reaches (.start (queued_off 0)) reaches_opened) (fun ⟨_, same⟩ => by cases same)

/-- Flow control is on, and its first decision found no room. -/
def untold : Console :=
  ⟨⟨2, 0, 12, List.replicate 32 0x2e, false, [], [], []⟩, 17, 0, true, true⟩

set_option maxRecDepth 4000 in
theorem run_enable_untold :
    Operation.enable.program.run (device .flowControl) (queued 32) = some ((), untold) := by
  rfl

theorem decision_untold :
    ¬ forall (op : Operation) (config : Mmio Unit × Console),
      Running unconditioned BeginsOff FollowsAny op config -> config.1 = .ret () ->
        Agrees config.2 := by
  intro all
  have running : Running unconditioned BeginsOff FollowsAny .enable (.ret (), untold) :=
    Running.reaches (.start (queued_off 32)) (reaches_of_run (fun _ _ => trivial) run_enable_untold)
  have told := all _ _ running rfl kOttfConsoleFlowControlResume (.inr rfl) rfl
  cases told

end OttfConsole
end SunburstChip
