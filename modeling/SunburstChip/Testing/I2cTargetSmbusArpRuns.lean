import SunburstChip.Testing.I2cTargetSmbusArpHistory

namespace SunburstChip
namespace SmbusArp

open Mmio I2c

/-!
# Runs of the target

A run is a sequence of interrupts and of rounds of the loop, with every value
that the registers can return on the way, and so with every order of bytes that
a controller can send.  Whatever happens, an address is accepted only at the
end of a command that was received as a whole, and the target answers to the
address that it takes for its own.
-/

/-! ## The state between two rounds -/

/-- What the history says about a command that is being received. -/
structure Received (history : List Event) (memory : Memory) : Prop where
  udid : memory.state = .kI2cStateArpCheckUdid -> memory.arpCmdPending = kArpCmdAssignAddress ∧
    memory.runningPec = 0 ∧ Exists fun earlier => acquired history = earlier ++ [arpStart]
  pec : memory.state = .kI2cStateArpPec ->
    ((memory.arpCmdPending = kArpCmdPrepareToArp ∨ memory.arpCmdPending = kArpCmdResetDevice) ∧
      memory.runningPec = 0 ∧ Exists fun earlier => acquired history = earlier ++ [arpStart]) ∨
    (memory.arpCmdPending = kArpCmdAssignAddress ∧
      memory.runningPec = crc8 (assignHead memory.kSmbusUdid) ∧
      Exists fun earlier =>
        acquired history = earlier ++ arpStart :: (assignHead memory.kSmbusUdid).map plain)

/-- The target answers to the address that it takes for its own. -/
def Programmed (history : List Event) (memory : Memory) : Prop :=
  memory.arpAv = true -> secondAddress history = memory.i2cId.address.setWidth 32

/-- A step that touches neither the addresses nor what belongs to them. -/
def Quiet (memory : Memory) (events : List Event) (memory' : Memory) : Prop :=
  Same memory memory' ∧ forall event, event ∈ events -> SparesTargetId event.access

/-- A state that is about no command. -/
theorem received_of_settled {history : List Event} {memory : Memory}
    (notUdid : memory.state ≠ .kI2cStateArpCheckUdid) (notPec : memory.state ≠ .kI2cStateArpPec) :
    Received history memory :=
  ⟨fun udid => absurd udid notUdid, fun pec => absurd pec notPec⟩

/-- The bytes of a whole Assign Address command. -/
def assignCommand (udid : Vector (BitVec 8) 16) (newAddress : BitVec 8) : List (BitVec 8) :=
  kArpCmdAssignAddress :: 17 :: udid.toList ++ [newAddress]

/-- `check_arp_pec` has assigned an address, at the end of a command received as a whole:
its start, a byte count of 17, all of the UDID, and a pending error code that is right. -/
structure AssignAddress (memory : Memory) (history' : List Event) (memory' : Memory) : Prop where
  state : memory.state = .kI2cStateArpPec
  command : memory.arpCmdPending = kArpCmdAssignAddress
  call : Exists fun irqSnapshot => Exists fun i2cStatus => Exists fun events =>
    events <:+ history' ∧ Transcript
      (checkArpPec irqSnapshot i2cStatus { memory with i2cEvent := false }) events
      (.ok (), memory')
  received : Exists fun earlier => Exists fun newAddress => Exists fun pec =>
    acquired history' =
      earlier ++ arpStart :: (assignCommand memory.kSmbusUdid newAddress).map plain ∧
    (awaiting history').getLast? = some pec ∧
    pec = crc8 (assignCommand memory.kSmbusUdid newAddress) ∧
    memory'.i2cId.address = newAddress >>> 1

/-- `check_arp_pec` has reset the device, at the end of a command with a right error code. -/
structure ResetDevice (memory : Memory) (history' : List Event) (memory' : Memory) : Prop where
  state : memory.state = .kI2cStateArpPec
  command : memory.arpCmdPending = kArpCmdResetDevice
  call : Exists fun irqSnapshot => Exists fun i2cStatus => Exists fun events =>
    events <:+ history' ∧ Transcript
      (checkArpPec irqSnapshot i2cStatus { memory with i2cEvent := false }) events
      (.ok (), memory')
  received : Exists fun earlier => Exists fun pec => Exists fun byte =>
    acquired history' =
      earlier ++ [arpStart, plain kArpCmdResetDevice, plain pec, (byte, kDifI2cSignalStop)] ∧
    pec = crc8 [kArpCmdResetDevice]


/-! ## One handler -/

section Handler

variable {memory : Memory} {history : List Event}
variable {events : List Event} {out : Except Failure Unit × Memory} {irqSnapshot : BitVec 32}
  {i2cStatus : DifI2cStatus}

theorem quiet_of_keeps {α : Type} {code : Code Memory Failure α} {out : Except Failure α × Memory}
    (keeps : Keeps (Same memory) code) (transcript : Transcript (code memory) events out) :
    Quiet memory events out.2 :=
  (keeps.transcript (Same.refl memory) transcript).symm

/-- The handler of a state in which no address is at stake. -/
theorem quiet_of_settled {code : Code Memory Failure Unit} (keeps : Keeps (Settled memory) code)
    (notUdid : memory.state ≠ .kI2cStateArpCheckUdid) (notPec : memory.state ≠ .kI2cStateArpPec)
    (transcript : Transcript (code memory) events out) :
    Quiet memory events out.2 ∧ Received (history ++ events) out.2 := by
  have kept := keeps.transcript ⟨Same.refl memory, notUdid, notPec⟩ transcript
  exact ⟨⟨kept.2.1, kept.1⟩, received_of_settled kept.2.2.1 kept.2.2.2⟩

/-- What a round can come to: nothing that concerns the address, an assignment, or a reset. -/
inductive Outcome (memory : Memory) (events : List Event) (out : Except Failure Unit × Memory) :
    Prop where
  | quiet (quiet : Quiet memory events out.2)
  | assigned (newAddress pec : BitVec 8) (state : memory.state = .kI2cStateArpPec)
      (command : memory.arpCmdPending = kArpCmdAssignAddress)
      (ended : out.1 = .ok ()) (settled : out.2.state = .kI2cStateAssignAddressComplete)
      (udid : out.2.kSmbusUdid = memory.kSmbusUdid)
      (valid : out.2.arpAv = true) (address : out.2.i2cId.address = newAddress >>> 1)
      (programmed : forall history, targetId (history ++ events) =
        targetIdWord (some kSmbusArpId) (some out.2.i2cId))
      (received : acquired events = [plain (udidLast memory.kSmbusUdid), plain newAddress])
      (pending : awaiting events = [pec])
      (correct : pec = crc8Add (crc8Add memory.runningPec (udidLast memory.kSmbusUdid)) newAddress)
  | reset (pec byte : BitVec 8) (state : memory.state = .kI2cStateArpPec)
      (command : memory.arpCmdPending = kArpCmdResetDevice)
      (ended : out.1 = .ok ()) (settled : out.2.state = .kI2cStateIdle)
      (udid : out.2.kSmbusUdid = memory.kSmbusUdid) (id : out.2.i2cId = memory.i2cId)
      (invalid : out.2.arpAv = false)
      (spares : forall event, event ∈ events -> SparesTargetId event.access)
      (received : acquired events =
        [plain kArpCmdResetDevice, plain pec, (byte, kDifI2cSignalStop)])
      (correct : crc8Add (crc8Add memory.runningPec kArpCmdResetDevice) pec = 0)

/-- A command of two bytes, with what is left to do when it has been received. -/
theorem shortCommand_cases {change : Memory -> Memory}
    (transcript : Transcript ((do
      checkShortCommand irqSnapshot i2cStatus
      modify change) memory) events out) :
    (Quiet memory events out.2 ∧ out.1 ≠ .ok ()) ∨
    (out.1 = .ok () ∧ Exists fun memory₁ => out.2 = change memory₁ ∧
      Quiet memory events memory₁ ∧ memory₁.state = .kI2cStateIdle ∧
      Exists fun pec => Exists fun byte =>
        acquired events = [plain memory.arpCmdPending, plain pec, (byte, kDifI2cSignalStop)] ∧
        crc8Add (crc8Add memory.runningPec memory.arpCmdPending) pec = 0) := by
  rcases Code.transcript_bind transcript with
    ⟨reason, memory₁, failed, rfl⟩ | ⟨before, after, _, memory₁, rfl, checked, changed⟩
  · exact .inl ⟨quiet_of_keeps (checkShortCommand_same _ _) failed, nofun⟩
  · rcases transcript_ret.mp changed with ⟨rfl, rfl⟩
    rw [List.append_nil]
    have ends := checkShortCommand_ends irqSnapshot i2cStatus before () memory₁ checked
    exact .inr ⟨rfl, memory₁, rfl, quiet_of_keeps (checkShortCommand_same _ _) checked, ends⟩

/-- The command that is pending decides what is checked. -/
theorem checkArpPec_apply (irqSnapshot : BitVec 32) (i2cStatus : DifI2cStatus) :
    checkArpPec irqSnapshot i2cStatus memory =
      (if memory.arpCmdPending = kArpCmdPrepareToArp then do
        checkShortCommand irqSnapshot i2cStatus
        modify ({ · with arpAr := false })
      else if memory.arpCmdPending = kArpCmdResetDevice then do
        checkShortCommand irqSnapshot i2cStatus
        modify ({ · with arpAr := false, arpAv := false })
      else if memory.arpCmdPending = kArpCmdAssignAddress then do
        let newAddress <- checkAssignment irqSnapshot i2cStatus
        commitAddress newAddress
      else tryCheck false : Code Memory Failure Unit) memory := rfl

theorem checkArpPec_outcome (state : memory.state = .kI2cStateArpPec)
    (transcript : Transcript (checkArpPec irqSnapshot i2cStatus memory) events out) :
    Outcome memory events out ∧ (out.1 = .ok () -> Received (history ++ events) out.2) := by
  rw [checkArpPec_apply] at transcript
  by_cases prepare : memory.arpCmdPending = kArpCmdPrepareToArp
  · rw [if_pos prepare] at transcript
    rcases shortCommand_cases transcript with ⟨quiet, failed⟩ | ⟨-, memory₁, same, quiet, idle, -⟩
    · exact ⟨.quiet quiet, fun ok => absurd ok failed⟩
    · rw [same]
      refine ⟨.quiet ?_, fun _ => received_of_settled ?_ ?_⟩
      · rw [same]
        exact quiet
      · change memory₁.state ≠ _
        rw [idle]
        exact nofun
      · change memory₁.state ≠ _
        rw [idle]
        exact nofun
  rw [if_neg prepare] at transcript
  by_cases reset : memory.arpCmdPending = kArpCmdResetDevice
  · rw [if_pos reset] at transcript
    rcases shortCommand_cases transcript with
      ⟨quiet, failed⟩ | ⟨ok, memory₁, same, quiet, idle, pec, byte, received, correct⟩
    · exact ⟨.quiet quiet, fun ok => absurd ok failed⟩
    · rw [reset] at received correct
      have settled : out.2.state = .kI2cStateIdle := by
        rw [same]
        exact idle
      refine ⟨.reset pec byte state reset ok settled ?_ ?_ ?_ quiet.2 received correct, fun _ => ?_⟩
      · rw [same]
        exact quiet.1.2.2
      · rw [same]
        exact quiet.1.1
      · rw [same]
      · exact received_of_settled (by rw [settled]; exact nofun) (by rw [settled]; exact nofun)
  rw [if_neg reset] at transcript
  by_cases assign : memory.arpCmdPending = kArpCmdAssignAddress
  · rw [if_pos assign] at transcript
    rcases Code.transcript_bind transcript with
      ⟨reason, memory₁, failed, rfl⟩ | ⟨before, after, newAddress, memory₁, rfl, checked, committed⟩
    · have kept := quiet_of_keeps (checkAssignment_same irqSnapshot i2cStatus) failed
      exact ⟨.quiet kept, nofun⟩
    · rcases commitAddress_transcript committed with ⟨rfl, none, noneAwaited, programmed⟩
      have kept := quiet_of_keeps (checkAssignment_same _ _) checked
      have ends := checkAssignment_ends irqSnapshot i2cStatus before newAddress memory₁ checked
      rcases ends with ⟨pec, received, pending, correct⟩
      refine ⟨.assigned newAddress pec state assign rfl rfl kept.1.2.2 rfl rfl (fun history => ?_)
        ?_ ?_ correct, fun _ => received_of_settled nofun nofun⟩
      · rw [<- List.append_assoc]
        exact programmed _
      · rw [acquired_append, none, received, List.append_nil]
      · rw [awaiting_append, noneAwaited, pending, List.append_nil]
  rw [if_neg assign] at transcript
  cases transcript
  exact ⟨.quiet ⟨Same.refl memory, nofun⟩, nofun⟩

/-- An entry that begins a command, at the end of what has been taken. -/
theorem started (first : acquired events = [arpStart]) :
    Exists fun earlier => acquired (history ++ events) = earlier ++ [arpStart] :=
  ⟨acquired history, by rw [acquired_append, first]⟩

/-- The handler of any state, after a history that says what is being received. -/
theorem handler_outcome (received : Received history memory)
    (transcript : Transcript (handler memory.state irqSnapshot i2cStatus memory) events out) :
    Outcome memory events out ∧ (out.1 = .ok () -> Received (history ++ events) out.2) := by
  -- The states in which no address is at stake are all alike.
  have plainly {code : Code Memory Failure Unit} (keeps : Keeps (Settled memory) code)
      (notUdid : memory.state ≠ .kI2cStateArpCheckUdid)
      (notPec : memory.state ≠ .kI2cStateArpPec) (ran : Transcript (code memory) events out) :
      Outcome memory events out ∧ (out.1 = .ok () -> Received (history ++ events) out.2) := by
    have quiet := @quiet_of_settled memory history _ _ _ keeps notUdid notPec ran
    exact ⟨.quiet quiet.1, fun _ => quiet.2⟩
  generalize state : memory.state = current at transcript
  have notUdid (other : current ≠ .kI2cStateArpCheckUdid) :
      memory.state ≠ .kI2cStateArpCheckUdid := by
    rw [state]
    exact other
  have notPec (other : current ≠ .kI2cStateArpPec) : memory.state ≠ .kI2cStateArpPec := by
    rw [state]
    exact other
  cases current with
  | kI2cStateIdle =>
      refine ⟨.quiet (quiet_of_keeps (processNewCommand_same _ _) transcript), fun ok => ?_⟩
      rcases out with ⟨_, memory'⟩
      cases ok
      rcases processNewCommand_ends _ _ _ _ _ transcript with ⟨accepted, begun⟩
      constructor
      · intro udid
        have begins := begun (.inl udid)
        exact ⟨accepted.udid udid, begins.2, started begins.1⟩
      · intro pec
        have begins := begun (.inr pec)
        exact .inl ⟨accepted.short pec, begins.2, started begins.1⟩
  | kI2cStateArpPec => exact checkArpPec_outcome state transcript
  | kI2cStateArpCheckUdid =>
      have quiet := quiet_of_keeps (checkReceivedUdid_same irqSnapshot i2cStatus) transcript
      refine ⟨.quiet quiet, fun ok => ?_⟩
      rcases out with ⟨_, memory'⟩
      cases ok
      rcases received.udid state with ⟨-, pecBefore, earlier, began⟩
      rcases checkReceivedUdid_ends _ _ _ _ _ transcript with ⟨left, checked⟩
      refine ⟨fun udid => absurd udid left, fun pec => .inr ?_⟩
      rcases checked pec with ⟨assign, taken, running⟩
      have udid : memory'.kSmbusUdid = memory.kSmbusUdid := quiet.1.2.2
      rw [udid]
      refine ⟨assign, ?_, earlier, ?_⟩
      · rw [running, pecBefore]
        rfl
      · rw [acquired_append, began, taken, List.append_assoc]
        rfl
  | kI2cStateArpGetUdidWait =>
      exact plainly (prepareUdidReply_settled _ _) (notUdid nofun) (notPec nofun) transcript
  | kI2cStateArpGetUdidTransmit =>
      exact plainly (completeGetUdid_settled _ _) (notUdid nofun) (notPec nofun) transcript
  | kI2cStateMessageWait =>
      exact plainly (messageCmdDispatch_settled _ _) (notUdid nofun) (notPec nofun) transcript
  | kI2cStateMessageReceive =>
      exact plainly (messageReceive_settled _ _) (notUdid nofun) (notPec nofun) transcript
  | kI2cStateMessageTransmit =>
      exact plainly (messageTransmit_settled _ _) (notUdid nofun) (notPec nofun) transcript
  | kI2cStateMessageFinish =>
      exact plainly (messageFinish_settled _ _) (notUdid nofun) (notPec nofun) transcript
  | kI2cStateAssignAddressComplete =>
      exact plainly (finishAssignAddr_settled _ _) (notUdid nofun) (notPec nofun) transcript
  | kI2cStateTransactionNack =>
      exact plainly (finishNack_settled _ _) (notUdid nofun) (notPec nofun) transcript

end Handler

/-! ## The system -/

/-- Where `smbus_arp_test` is. -/
inductive Phase where
  /-- It waits for an interrupt. -/
  | waiting
  /-- An event has been handled, and the interrupts are still to be restored. -/
  | restoring (messageReceived : Bool)
  /-- It has returned, or a check has failed. -/
  | ended
  deriving DecidableEq

/-- The test ends with the first failure. -/
def Phase.next : Except Failure Phase -> Phase
  | .ok phase => phase
  | .error _ => .ended

/-- The variables, where the test is, and the accesses so far. -/
structure Config where
  memory : Memory
  phase : Phase
  history : List Event

/-- The start of `smbus_arp_test`, with what has been configured.  The first of
the accesses is the last one of `test_init` to `TARGET_ID`. -/
def start (kSmbusUdid : Vector (BitVec 8) 16) (kMessageAddr : BitVec 32) : Config where
  memory := {
    kSmbusUdid := kSmbusUdid
    kMessageAddr := kMessageAddr
    runningPec := 0
    arpAv := false
    arpAr := false
    arpCmdPending := 0
    i2cId := { address := 0x7f, mask := 0x7f }
    i2cIrqEnables := 0
    i2cEvent := false
    state := .kI2cStateIdle
    message := Vector.replicate 32 0 }
  phase := .waiting
  history := [.write32 targetIdRegOffset (targetIdWord (some kSmbusArpId) none)]

/-- The target goes on.  An interrupt can come at any time: one that comes while
an event is being handled does what it would do right after it. -/
inductive Step : Config -> Config -> Prop where
  | interrupt {memory memory' : Memory} {phase : Phase} {history events : List Event}
      {result : Except Failure Unit} (irq : DifI2cIrq) (running : phase ≠ .ended)
      (transcript : Transcript (i2cIsr irq memory) events (result, memory')) :
      Step ⟨memory, phase, history⟩
        ⟨memory', .next (result.map fun _ => phase), history ++ events⟩
  | handle {memory memory' : Memory} {history events : List Event} {result : Except Failure Bool}
      (event : memory.i2cEvent = true)
      (transcript : Transcript (handleEvent memory) events (result, memory')) :
      Step ⟨memory, .waiting, history⟩
        ⟨memory', .next (result.map .restoring), history ++ events⟩
  | restore {memory memory' : Memory} {history events : List Event}
      {result : Except Failure Unit} (messageReceived : Bool)
      (transcript : Transcript (restoreInterrupts memory) events (result, memory')) :
      Step ⟨memory, .restoring messageReceived, history⟩
        ⟨memory', .next (result.map fun _ => if messageReceived then .ended else .waiting),
          history ++ events⟩

/-- What a run can come to from the start. -/
def Reachable (kSmbusUdid : Vector (BitVec 8) 16) (kMessageAddr : BitVec 32)
    (config : Config) : Prop :=
  Relation.ReflTransGen Step (start kSmbusUdid kMessageAddr) config

/-- What happens next, with the values that the registers return. -/
inductive Move where
  | interrupt (irq : DifI2cIrq) (enables : BitVec 32)
  | handle (values : List (BitVec 32))
  | restore

/-- The step for a move, if there is one. -/
def Config.move (config : Config) : Move -> Option Config
  | .interrupt irq enables =>
      if config.phase = .ended then none
      else ((i2cIsr irq config.memory).replay [enables]).map fun ran =>
        ⟨ran.1.2, .next (ran.1.1.map fun _ => config.phase), config.history ++ ran.2⟩
  | .handle values =>
      if config.phase = .waiting ∧ config.memory.i2cEvent = true then
        ((handleEvent config.memory).replay values).map fun ran =>
          ⟨ran.1.2, .next (ran.1.1.map .restoring), config.history ++ ran.2⟩
      else none
  | .restore =>
      match config.phase with
      | .restoring messageReceived => ((restoreInterrupts config.memory).replay []).map fun ran =>
          ⟨ran.1.2, .next (ran.1.1.map fun _ => if messageReceived then .ended else .waiting),
            config.history ++ ran.2⟩
      | _ => none

theorem step_of_move {config config' : Config} {move : Move}
    (moved : config.move move = some config') : Step config config' := by
  rcases config with ⟨memory, phase, history⟩
  cases move with
  | interrupt irq enables =>
      by_cases ended : phase = .ended
      · rw [Config.move, if_pos ended] at moved
        cases moved
      · rw [Config.move, if_neg ended] at moved
        rcases Option.map_eq_some_iff.mp moved with ⟨⟨⟨result, memory'⟩, events⟩, ran, rfl⟩
        exact .interrupt irq ended (transcript_replay ran)
  | handle values =>
      by_cases ready : phase = .waiting ∧ memory.i2cEvent = true
      · rw [Config.move, if_pos ready] at moved
        rcases ready with ⟨rfl, event⟩
        rcases Option.map_eq_some_iff.mp moved with ⟨⟨⟨result, memory'⟩, events⟩, ran, rfl⟩
        exact .handle event (transcript_replay ran)
      · rw [Config.move, if_neg ready] at moved
        cases moved
  | restore =>
      cases phase with
      | restoring messageReceived =>
          simp only [Config.move] at moved
          rcases Option.map_eq_some_iff.mp moved with ⟨⟨⟨result, memory'⟩, events⟩, ran, rfl⟩
          exact .restore messageReceived (transcript_replay ran)
      | waiting | ended => cases moved

/-- A run that can be computed is one. -/
theorem reachable_of_moves {kSmbusUdid : Vector (BitVec 8) 16} {kMessageAddr : BitVec 32}
    {config config' : Config} {moves : List Move}
    (reachable : Reachable kSmbusUdid kMessageAddr config)
    (moved : moves.foldlM Config.move config = some config') :
    Reachable kSmbusUdid kMessageAddr config' := by
  induction moves generalizing config with
  | nil =>
      cases moved
      exact reachable
  | cons move moves ih =>
      rw [List.foldlM_cons] at moved
      rcases Option.bind_eq_some_iff.mp moved with ⟨config₁, first, rest⟩
      exact ih (reachable.tail (step_of_move first)) rest

/-! ## What a step keeps -/

/-- The target is programmed with its address, and knows what it is receiving. -/
structure Sound (config : Config) : Prop where
  programmed : Programmed config.history config.memory
  received : config.phase ≠ .ended -> Received config.history config.memory

/-- What a step may change, and how. -/
structure Safe (config config' : Config) : Prop where
  udid : config'.memory.kSmbusUdid = config.memory.kSmbusUdid
  assigns : config'.memory.i2cId.address ≠ config.memory.i2cId.address ∨
      targetId config'.history ≠ targetId config.history ∨
      (config.memory.arpAv = false ∧ config'.memory.arpAv = true) ->
    AssignAddress config.memory config'.history config'.memory
  resets : config.memory.arpAv = true -> config'.memory.arpAv = false ->
    ResetDevice config.memory config'.history config'.memory

section Steps

variable {memory memory' : Memory} {history events : List Event} {phase phase' : Phase}

/-- A step that is quiet is safe. -/
theorem safe_of_quiet (quiet : Quiet memory events memory') :
    Safe ⟨memory, phase, history⟩ ⟨memory', phase', history ++ events⟩ := by
  rcases quiet with ⟨⟨id, av, udid⟩, spares⟩
  refine ⟨udid, ?_, ?_⟩
  · rintro (address | register | ⟨before, after⟩)
    · exact absurd (congrArg DifI2cId.address id) address
    · exact absurd (targetId_spared spares history) register
    · exact absurd (av.symm.trans after) (by rw [before]; exact nofun)
  · intro before after
    exact absurd (after.symm.trans av) (by rw [before]; exact nofun)

theorem programmed_of_quiet (programmed : Programmed history memory)
    (quiet : Quiet memory events memory') : Programmed (history ++ events) memory' := by
  rcases quiet with ⟨⟨id, av, -⟩, spares⟩
  intro valid
  rw [secondAddress, targetId_spared spares, id]
  exact programmed (av.symm.trans valid)

/-- A step in which nothing is received. -/
theorem received_aside (received : Received history memory) (none : acquired events = [])
    (udid : memory'.kSmbusUdid = memory.kSmbusUdid) (state : memory'.state = memory.state)
    (command : memory'.arpCmdPending = memory.arpCmdPending)
    (running : memory'.runningPec = memory.runningPec) : Received (history ++ events) memory' := by
  have taken : acquired (history ++ events) = acquired history := by
    rw [acquired_append, none, List.append_nil]
  constructor
  · rw [state, command, running, taken]
    exact received.udid
  · rw [state, command, running, taken, udid]
    exact received.pec

/-- A step that has nothing to do with the address or with a command. -/
structure Aside (memory : Memory) (events : List Event) (memory' : Memory) : Prop where
  quiet : Quiet memory events memory'
  none : acquired events = []
  state : memory'.state = memory.state
  command : memory'.arpCmdPending = memory.arpCmdPending
  running : memory'.runningPec = memory.runningPec

theorem sound_of_aside (sound : Sound ⟨memory, phase, history⟩)
    (aside : Aside memory events memory') (goesOn : phase' ≠ .ended -> phase ≠ .ended) :
    Safe ⟨memory, phase, history⟩ ⟨memory', phase', history ++ events⟩ ∧
      Sound ⟨memory', phase', history ++ events⟩ := by
  refine ⟨safe_of_quiet aside.quiet, programmed_of_quiet sound.programmed aside.quiet, ?_⟩
  intro running
  exact received_aside (sound.received (goesOn running)) aside.none aside.quiet.1.2.2 aside.state
    aside.command aside.running

/-- An interrupt leaves a note for the loop, and disables all of them. -/
theorem i2cIsr_aside {irq : DifI2cIrq} {out : Except Failure Unit × Memory}
    (transcript : Transcript (i2cIsr irq memory) events out) : Aside memory events out.2 := by
  -- What the interrupt does after it has been noted, or has been found unexpected.
  have disables (ran : Transcript (.read32 intrEnableRegOffset fun enables =>
        .write32 intrEnableRegOffset 0
          (.ret (.ok (), { memory with i2cEvent := true, i2cIrqEnables := enables }))) events out) :
      Aside memory events out.2 := by
    rcases transcript_read32.mp ran with ⟨enables, rest, rfl, masks⟩
    rcases transcript_write32.mp masks with ⟨none, rfl, returned⟩
    rcases transcript_ret.mp returned with ⟨rfl, rfl⟩
    refine ⟨⟨⟨rfl, rfl, rfl⟩, ?_⟩, rfl, rfl, rfl, rfl⟩
    intro event member
    rcases List.mem_cons.mp member with rfl | member
    · trivial
    · rcases List.mem_cons.mp member with rfl | member
      · exact spares (by decide)
      · cases member
  have unexpected (ran : Transcript (.ret (.error .check, memory)) events out) :
      Aside memory events out.2 := by
    rcases transcript_ret.mp ran with ⟨rfl, rfl⟩
    exact ⟨⟨Same.refl memory, fun _ member => absurd member List.not_mem_nil⟩, rfl, rfl, rfl, rfl⟩
  cases irq with
  | kDifI2cIrqAcqThreshold | kDifI2cIrqCmdComplete | kDifI2cIrqTxStretch
  | kDifI2cIrqAcqStretch => exact disables transcript
  | _ => exact unexpected transcript

theorem restoreInterrupts_aside {out : Except Failure Unit × Memory}
    (transcript : Transcript (restoreInterrupts memory) events out) :
    Aside memory events out.2 := by
  rcases transcript_write32.mp transcript with ⟨none, rfl, returned⟩
  rcases transcript_ret.mp returned with ⟨rfl, rfl⟩
  refine ⟨⟨Same.refl memory, fun event member => ?_⟩, rfl, rfl, rfl, rfl⟩
  rcases List.mem_singleton.mp member with rfl
  exact spares (by decide)

/-- A round looks at the interrupts and the status, and calls the handler of the state. -/
theorem handleEvent_transcript {result : Except Failure Bool}
    (transcript : Transcript (handleEvent memory) events (result, memory')) :
    Exists fun irqSnapshot => Exists fun i2cStatus => Exists fun looked => Exists fun rest =>
      Exists fun ended : Except Failure Unit =>
        events = looked ++ rest ∧ acquired looked = [] ∧
        (forall event, event ∈ looked -> SparesTargetId event.access) ∧
        Transcript (handler memory.state irqSnapshot i2cStatus { memory with i2cEvent := false })
          rest (ended, memory') ∧
        (forall received, result = .ok received -> ended = .ok ()) := by
  rcases transcript_read32.mp transcript with ⟨irqSnapshot, afterIrq, rfl, readsCtrl⟩
  rcases transcript_read32.mp readsCtrl with ⟨ctrl, afterCtrl, rfl, readsStatus⟩
  rcases transcript_read32.mp readsStatus with ⟨reg, rest, rfl, handles⟩
  have calls : Transcript ((do
      handler memory.state irqSnapshot (.ofRegs ctrl reg)
      pure (memory.state == .kI2cStateMessageFinish) : Code Memory Failure Bool)
      { memory with i2cEvent := false }) rest (result, memory') := handles
  refine ⟨irqSnapshot, .ofRegs ctrl reg, [.read32 intrStateRegOffset irqSnapshot,
    .read32 ctrlRegOffset ctrl, .read32 statusRegOffset reg], rest, ?_⟩
  have spared : forall event, event ∈ [Event.read32 intrStateRegOffset irqSnapshot,
      .read32 ctrlRegOffset ctrl, .read32 statusRegOffset reg] -> SparesTargetId event.access := by
    intro event member
    simp only [List.mem_cons, List.not_mem_nil, or_false] at member
    rcases member with rfl | rfl | rfl <;> trivial
  rcases Code.transcript_bind calls with
    ⟨reason, memory₁, failed, same⟩ | ⟨before, after, _, memory₁, rfl, handled, returned⟩
  · cases same
    exact ⟨.error reason, rfl, rfl, spared, failed, nofun⟩
  · rcases transcript_ret.mp returned with ⟨rfl, same⟩
    cases same
    rw [List.append_nil]
    exact ⟨.ok (), rfl, rfl, spared, handled, fun _ _ => rfl⟩

/-- The end of the command after its head. -/
theorem assignHead_append (udid : Vector (BitVec 8) 16) (newAddress : BitVec 8) :
    assignHead udid ++ [udidLast udid, newAddress] = assignCommand udid newAddress := by
  have last : udid.toList.take 15 ++ [udidLast udid] = udid.toList := by
    have inside : 15 < udid.toList.length := by simp
    calc udid.toList.take 15 ++ [udidLast udid]
        = udid.toList.take 15 ++ [udid.toList[15]] := by simp [udidLast]
      _ = udid.toList.take 16 := List.take_append_getElem inside
      _ = udid.toList := List.take_of_length_le (by simp)
  calc assignHead udid ++ [udidLast udid, newAddress]
      = kArpCmdAssignAddress :: 17 :: (udid.toList.take 15 ++ [udidLast udid]) ++ [newAddress] := by
        simp [assignHead]
    _ = assignCommand udid newAddress := by
        rw [last]
        rfl

/-- A round keeps the target sound, and is safe. -/
theorem handle_sound {result : Except Failure Bool} (sound : Sound ⟨memory, .waiting, history⟩)
    (transcript : Transcript (handleEvent memory) events (result, memory'))
    (goesOn : phase' ≠ .ended -> Exists fun received => result = .ok received) :
    Safe ⟨memory, .waiting, history⟩ ⟨memory', phase', history ++ events⟩ ∧
      Sound ⟨memory', phase', history ++ events⟩ := by
  rcases handleEvent_transcript transcript with
    ⟨irqSnapshot, i2cStatus, looked, rest, ended, rfl, none, spared, handled, ok⟩
  have received := sound.received nofun
  have before : Received (history ++ looked) { memory with i2cEvent := false } := by
    have aside : Received (history ++ looked) memory :=
      received_aside received none rfl rfl rfl rfl
    exact ⟨aside.udid, aside.pec⟩
  rcases handler_outcome before handled with ⟨outcome, after⟩
  have call (state : memory.state = .kI2cStateArpPec) :
      Transcript (checkArpPec irqSnapshot i2cStatus { memory with i2cEvent := false }) rest
        (ended, memory') := by
    have same : handler memory.state irqSnapshot i2cStatus = checkArpPec irqSnapshot i2cStatus := by
      rw [state]
      rfl
    rw [<- same]
    exact handled
  have receivedAfter (running : phase' ≠ .ended) :
      Received (history ++ (looked ++ rest)) memory' := by
    rcases goesOn running with ⟨messageReceived, same⟩
    have kept := after (ok messageReceived same)
    rwa [List.append_assoc] at kept
  cases outcome with
  | quiet quiet =>
      have whole : Quiet memory (looked ++ rest) memory' := by
        refine ⟨quiet.1, fun event member => ?_⟩
        rcases List.mem_append.mp member with member | member
        · exact spared event member
        · exact quiet.2 event member
      exact ⟨safe_of_quiet whole, programmed_of_quiet sound.programmed whole, receivedAfter⟩
  | assigned newAddress pec state command ended' settled udid valid address programmed taken
      pending correct =>
      cases ended'
      have held := (received.pec state).resolve_left (fun short => by
        rcases short.1 with prepare | reset
        · cases prepare.symm.trans command
        · cases reset.symm.trans command)
      rcases held with ⟨-, running, earlier, began⟩
      have whole : acquired (history ++ (looked ++ rest)) =
          earlier ++ arpStart :: (assignCommand memory.kSmbusUdid newAddress).map plain := by
        rw [acquired_append, acquired_append, none, taken, began, <- assignHead_append]
        simp
      have code : pec = crc8 (assignCommand memory.kSmbusUdid newAddress) := by
        rw [correct, <- assignHead_append, crc8, List.foldl_append]
        exact congrArg (fun crc => crc8Add (crc8Add crc (udidLast memory.kSmbusUdid)) newAddress) running
      have last : (awaiting (history ++ (looked ++ rest))).getLast? = some pec := by
        rw [awaiting_append, awaiting_append, pending]
        simp
      have assigned : AssignAddress memory (history ++ (looked ++ rest)) memory' :=
        ⟨state, command, ⟨irqSnapshot, i2cStatus, rest, ⟨history ++ looked, by simp⟩, call state⟩,
          ⟨earlier, newAddress, pec, whole, last, code, address⟩⟩
      refine ⟨⟨udid, fun _ => assigned, fun _ invalid => absurd valid (by rw [invalid]; exact nofun)⟩,
        fun _ => ?_, receivedAfter⟩
      have sevenBits : memory'.i2cId.address.toNat < 128 := by
        rw [address, BitVec.toNat_ushiftRight, Nat.shiftRight_eq_div_pow]
        exact Nat.div_lt_of_lt_mul newAddress.isLt
      change bitfieldField32Read (targetId (history ++ (looked ++ rest))) _ = _
      rw [<- List.append_assoc, programmed]
      exact targetIdWord_address1 _ _ sevenBits
  | reset pec byte state command ended' settled udid id invalid spares taken correct =>
      cases ended'
      have held := (received.pec state).resolve_right
        (fun assign => by cases assign.1.symm.trans command)
      rcases held with ⟨-, running, earlier, began⟩
      have whole : acquired (history ++ (looked ++ rest)) =
          earlier ++ [arpStart, plain kArpCmdResetDevice, plain pec, (byte, kDifI2cSignalStop)] := by
        rw [acquired_append, acquired_append, none, taken, began]
        simp
      have code : pec = crc8 [kArpCmdResetDevice] := by
        rw [crc8Add_eq_zero correct]
        exact congrArg (fun crc => crc8Add crc kArpCmdResetDevice) running
      have reset : ResetDevice memory (history ++ (looked ++ rest)) memory' :=
        ⟨state, command, ⟨irqSnapshot, i2cStatus, rest, ⟨history ++ looked, by simp⟩, call state⟩,
          ⟨earlier, pec, byte, whole, code⟩⟩
      have untouched : targetId (history ++ (looked ++ rest)) = targetId history := by
        rw [<- List.append_assoc, targetId_spared spares, targetId_spared spared]
      have notValid (valid : memory'.arpAv = true) : False := by
        rw [invalid] at valid
        cases valid
      refine ⟨⟨udid, ?_, fun _ _ => reset⟩, fun valid => (notValid valid).elim, receivedAfter⟩
      rintro (changed | register | ⟨-, valid⟩)
      · exact absurd (congrArg DifI2cId.address id) changed
      · exact absurd untouched register
      · exact (notValid valid).elim

theorem step_sound {config config' : Config} (sound : Sound config) (step : Step config config') :
    Safe config config' ∧ Sound config' := by
  cases step with
  | interrupt irq running transcript =>
      exact sound_of_aside sound (i2cIsr_aside transcript) (fun _ => running)
  | handle event transcript =>
      refine handle_sound sound transcript (fun goesOn => ?_)
      next result =>
        cases result with
        | ok received => exact ⟨received, rfl⟩
        | error reason => exact absurd rfl goesOn
  | restore messageReceived transcript =>
      exact sound_of_aside sound (restoreInterrupts_aside transcript) (fun _ => nofun)

theorem sound_of_reachable {kSmbusUdid : Vector (BitVec 8) 16} {kMessageAddr : BitVec 32}
    {config : Config} (reachable : Reachable kSmbusUdid kMessageAddr config) : Sound config := by
  induction reachable with
  | refl => exact ⟨nofun, fun _ => received_of_settled nofun nofun⟩
  | tail _ step ih => exact (step_sound ih step).2

end Steps

/-! ## The assignment of addresses is safe -/

/-- Over every order of interrupts and everything a controller can send, the
address and the register change only by a right Assign Address command, the
address becomes valid only so and invalid only by a right reset, and as long as
it is valid, it is the second address that the target answers to. -/
theorem assignment_safe {kSmbusUdid : Vector (BitVec 8) 16} {kMessageAddr : BitVec 32}
    {config : Config} (reachable : Reachable kSmbusUdid kMessageAddr config) :
    (config.memory.arpAv = true ->
      secondAddress config.history = config.memory.i2cId.address.setWidth 32) ∧
    config.memory.kSmbusUdid = kSmbusUdid ∧
    forall config', Step config config' ->
      (config'.memory.i2cId.address ≠ config.memory.i2cId.address ∨
          targetId config'.history ≠ targetId config.history ∨
          (config.memory.arpAv = false ∧ config'.memory.arpAv = true) ->
        AssignAddress config.memory config'.history config'.memory) ∧
      (config.memory.arpAv = true -> config'.memory.arpAv = false ->
        ResetDevice config.memory config'.history config'.memory) := by
  have sound := sound_of_reachable reachable
  refine ⟨sound.programmed, ?_, fun config' step => ?_⟩
  · induction reachable with
    | refl => rfl
    | tail before step ih =>
        have soundBefore := sound_of_reachable before
        exact (step_sound soundBefore step).1.udid.trans (ih soundBefore)
  · have safe := (step_sound sound step).1
    exact ⟨safe.assigns, safe.resets⟩

/-- A controller assigns the address 0x55 to a target with a UDID of zeros. -/
def assignMoves : List Move :=
  let stretch : List (BitVec 32) := [0x1000, 0, 0x400]
  [ .interrupt .kDifI2cIrqAcqStretch 0x7fff,
    .handle (stretch ++ [0x1c2, 4]),
    .restore,
    .interrupt .kDifI2cIrqAcqStretch 0x7fff,
    .handle (stretch ++ [0, 0x110000, 4, 17] ++ List.replicate 16 0),
    .restore,
    .interrupt .kDifI2cIrqAcqStretch 0x7fff,
    .handle (stretch ++ [0, 0x20000, 0, 0xaa,
      (crc8 (assignCommand (Vector.replicate 16 0) 0xaa)).setWidth 32]),
    .restore,
    .interrupt .kDifI2cIrqCmdComplete 0x7fff,
    .handle [0x200, 0, 0, 0, 0x200],
    .restore ]

theorem assignMoves_run :
    (assignMoves.foldlM Config.move (start (Vector.replicate 16 0) 0)).isSome = true := by
  decide +kernel

/-- The configuration it comes to. -/
def assignedConfig : Config :=
  (assignMoves.foldlM Config.move (start (Vector.replicate 16 0) 0)).get assignMoves_run

theorem assignedConfig_reachable : Reachable (Vector.replicate 16 0) 0 assignedConfig :=
  reachable_of_moves .refl (Option.some_get assignMoves_run).symm

theorem assignment_safe_assigned : assignedConfig.memory.arpAv = true ∧
    secondAddress assignedConfig.history = 0x55 := by
  have valid : assignedConfig.memory.arpAv = true := by decide +kernel
  have address : assignedConfig.memory.i2cId.address.setWidth 32 = 0x55 := by decide +kernel
  exact ⟨valid, ((assignment_safe assignedConfig_reachable).1 valid).trans address⟩

end SmbusArp
end SunburstChip
