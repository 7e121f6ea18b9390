import Mathlib.Data.List.Chain
import SunburstChip.Testing.I2cTargetSmbusArpCommands

namespace SunburstChip
namespace SmbusArp

open Mmio I2c

/-!
# A target that has been reset

A reset makes the address of the target invalid.  The register with which the
hardware compares an address is written by an assignment only, and so it has the
old address until another one is assigned.  A controller that uses the old one
still reaches the target, and the state machine does not expect it.
-/

/-! ## Which addresses are answered -/

/-- The hardware answers to an address: masked, it is one of the two of `TARGET_ID`, where the
mask is not zero. -/
def Matches (word : BitVec 32) (address : BitVec 7) : Prop :=
  (address.setWidth 32 &&& bitfieldField32Read word targetIdMask0Field =
      bitfieldField32Read word targetIdAddress0Field ∧
    bitfieldField32Read word targetIdMask0Field ≠ 0) ∨
  (address.setWidth 32 &&& bitfieldField32Read word targetIdMask1Field =
      bitfieldField32Read word targetIdAddress1Field ∧
    bitfieldField32Read word targetIdMask1Field ≠ 0)

instance (word : BitVec 32) (address : BitVec 7) : Decidable (Matches word address) :=
  inferInstanceAs (Decidable ((_ ∧ _) ∨ (_ ∧ _)))

/-- The first byte of a transaction that begins with a write. -/
def writeByte (address : BitVec 7) : BitVec 8 := address.setWidth 8 <<< 1

/-- A transaction that begins with a write to the address is taken up by `process_new_command`. -/
def Answered (memory : Memory) (address : BitVec 7) : Prop :=
  forall irqSnapshot i2cStatus first next, irqRead irqSnapshot .kDifI2cIrqAcqStretch = true ->
    i2cStatus.acqFifoEmpty = false -> i2cStatus.ackCtrlStretch = true ->
    Entry first (writeByte address) kDifI2cSignalStart ->
    Exists fun memory' =>
      (processNewCommand irqSnapshot i2cStatus memory).outcome [first, next] =
        some (.ok (), memory')

/-- A target without a valid address answers to that of the protocol only, and a transaction to
any address that it answers to is expected. -/
structure Agrees (config : Config) : Prop where
  invalid : config.memory.arpAv = false -> forall address,
    Matches (targetId config.history) address -> address.setWidth 8 = kSmbusArpId.address
  expected : forall address, Matches (targetId config.history) address ->
    Answered config.memory address

theorem matches_none (address : BitVec 7) :
    Matches (targetIdWord (some kSmbusArpId) none) address ↔
      address.setWidth 8 = kSmbusArpId.address := by
  revert address
  decide +kernel

theorem matches_some {id : DifI2cId} (mask : id.mask = 0x7f) (sevenBits : id.address.toNat < 128)
    (address : BitVec 7) : Matches (targetIdWord (some kSmbusArpId) (some id)) address ↔
      address.setWidth 8 = kSmbusArpId.address ∨ address.setWidth 8 = id.address := by
  have masked : forall address : BitVec 7, address.setWidth 32 &&& (0x7f : BitVec 32) =
      address.setWidth 32 := by decide +kernel
  have protocol : forall address : BitVec 7, address.setWidth 32 = (0x61 : BitVec 32) ↔
      address.setWidth 8 = kSmbusArpId.address := by decide +kernel
  have own : address.setWidth 32 = id.address.setWidth 32 ↔ address.setWidth 8 = id.address := by
    rw [<- BitVec.toNat_inj, <- BitVec.toNat_inj, BitVec.toNat_setWidth_of_le (by decide),
      BitVec.toNat_setWidth_of_le (by decide), BitVec.toNat_setWidth_of_le (by decide)]
  have addressZero : bitfieldField32Read (targetIdWord (some kSmbusArpId) (some id))
      targetIdAddress0Field = 0x61 :=
    (bitfieldField32Read_write_other (by decide) _ _).trans
      (bitfieldField32Read_write_other (by decide) _ _)
  have maskZero : bitfieldField32Read (targetIdWord (some kSmbusArpId) (some id))
      targetIdMask0Field = 0x7f :=
    (bitfieldField32Read_write_other (by decide) _ _).trans
      (bitfieldField32Read_write_other (by decide) _ _)
  have maskOne : bitfieldField32Read (targetIdWord (some kSmbusArpId) (some id))
      targetIdMask1Field = 0x7f := by
    refine (bitfieldField32Read_write_same (by decide) _ _).trans ?_
    rw [mask]
    decide
  have addressOne := targetIdWord_address1 (some kSmbusArpId) id sevenBits
  unfold Matches
  rw [addressZero, maskZero, addressOne, maskOne, masked, protocol, own]
  simp

section

variable {memory : Memory}

/-- Both branches take the transaction up. -/
theorem answers_ite {condition : Prop} [Decidable condition] {code code' : Code Memory Failure Unit}
    {values : List (BitVec 32)}
    (pos : Exists fun memory' => (code memory).outcome values = some (.ok (), memory'))
    (neg : Exists fun memory' => (code' memory).outcome values = some (.ok (), memory')) :
    Exists fun memory' =>
      ((if condition then code else code') memory).outcome values = some (.ok (), memory') := by
  by_cases holds : condition
  · rw [if_pos holds]
    exact pos
  · rw [if_neg holds]
    exact neg

/-- Whatever the command is. -/
theorem chooseArpCommand_answers (command : BitVec 8) : Exists fun memory' =>
    (chooseArpCommand { memory with runningPec := 0 } command
      { memory with runningPec := 0 }).outcome [] = some (.ok (), memory') := by
  have accepts (command : BitVec 8) (state : I2cState) {count : BitVec 16}
      (small : ¬ count.setWidth 32 > targetAckCtrlNbytesMask) : Exists fun memory' =>
        (acceptCommand command state count { memory with runningPec := 0 }).outcome [] =
          some (.ok (), memory') := ⟨_, acceptCommand_outcome state small⟩
  have nacks : Exists fun memory' =>
      (nackCommand { memory with runningPec := 0 }).outcome [] = some (.ok (), memory') :=
    ⟨_, nackCommand_outcome⟩
  unfold chooseArpCommand
  refine answers_ite (accepts _ _ (by decide)) (answers_ite (accepts _ _ (by decide)) ?_)
  refine answers_ite (answers_ite nacks (accepts _ _ (by decide))) ?_
  refine answers_ite (accepts _ _ (by decide)) ?_
  refine answers_ite (answers_ite (accepts _ _ (by decide)) nacks) ?_
  exact answers_ite (answers_ite (accepts _ _ (by decide)) nacks) nacks

theorem processMessageCommand_answers (next : BitVec 32) : Exists fun memory' =>
    (processMessageCommand { memory with runningPec := 0 }).outcome [next] =
      some (.ok (), memory') := by
  have looks : (processMessageCommand { memory with runningPec := 0 }).outcome [next] =
      ((if ((0xff &&& next).setWidth 8 : BitVec 8).setWidth 32 == (memory.kMessageAddr &&& 0xff)
        then do
          modify ({ · with state := .kI2cStateMessageWait })
          trySetAutoAckCount 1
        else nackCommand : Code Memory Failure Unit) { memory with runningPec := 0 }).outcome [] :=
    outcome_read32 _ _ _ _
  rw [looks]
  exact answers_ite ⟨_, acceptCommand_outcome .kI2cStateMessageWait (by decide)⟩
    ⟨_, nackCommand_outcome⟩

/-- A transaction to the address of the protocol or to a valid address is taken up. -/
theorem answered_of_known {address : BitVec 7}
    (known : address.setWidth 8 = kSmbusArpId.address ∨
      (memory.arpAv = true ∧ address.setWidth 8 = memory.i2cId.address)) :
    Answered memory address := by
  have write : forall address : BitVec 7, (writeByte address &&& 1 == 0) = true ∧
      writeByte address >>> 1 = address.setWidth 8 := by decide +kernel
  rcases write address with ⟨even, seven⟩
  intro irqSnapshot i2cStatus first next stretches present held entry
  rw [processNewCommand_begins stretches present held entry even, seven]
  unfold processAddress
  by_cases protocol : address.setWidth 8 = kSmbusArpId.address
  · rw [if_pos (beq_iff_eq.mpr protocol), processArpCommand_looks]
    exact chooseArpCommand_answers _
  · rcases known.resolve_left protocol with ⟨valid, own⟩
    have both : (memory.arpAv && address.setWidth 8 == memory.i2cId.address) = true := by
      rw [valid, own]
      exact beq_self_eq_true _
    rw [if_neg (fun same => protocol (beq_iff_eq.mp same)), if_pos both]
    exact processMessageCommand_answers next

end

/-! ## What a step makes of the addresses -/

/-- What a whole Reset Device command leaves in the ACQ FIFO after its start. -/
def resetEntries (byte : BitVec 8) : List (BitVec 8 × DifI2cSignal) :=
  [plain kArpCmdResetDevice, plain (crc8 [kArpCmdResetDevice]), (byte, kDifI2cSignalStop)]

section

variable {memory memory' : Memory} {irqSnapshot : BitVec 32} {i2cStatus : DifI2cStatus}
variable {events : List Event}

/-- An assignment that has been completed. -/
theorem checkArpPec_assigned (command : memory.arpCmdPending = kArpCmdAssignAddress)
    (transcript : Transcript (checkArpPec irqSnapshot i2cStatus memory) events
      (.ok (), memory')) :
    memory'.i2cId.mask = memory.i2cId.mask ∧ memory'.i2cId.address.toNat < 128 ∧
      memory'.arpAv = true ∧ forall history, targetId (history ++ events) =
        targetIdWord (some kSmbusArpId) (some memory'.i2cId) := by
  have prepare : memory.arpCmdPending ≠ kArpCmdPrepareToArp := by
    rw [command]
    decide
  have reset : memory.arpCmdPending ≠ kArpCmdResetDevice := by
    rw [command]
    decide
  rw [checkArpPec_apply, if_neg prepare, if_neg reset, if_pos command] at transcript
  rcases Code.transcript_bind transcript with
    ⟨reason, memory₁, failed, same⟩ | ⟨before, after, newAddress, memory₁, rfl, checked, committed⟩
  · cases same
  · rcases commitAddress_transcript committed with ⟨same, -, -, programmed⟩
    have kept : memory₁.i2cId = memory.i2cId :=
      (quiet_of_keeps (checkAssignment_same _ _) checked).1.1
    cases same
    refine ⟨?_, ?_, rfl, fun history => ?_⟩
    · change memory₁.i2cId.mask = memory.i2cId.mask
      rw [kept]
    · change (newAddress >>> 1).toNat < 128
      rw [BitVec.toNat_ushiftRight, Nat.shiftRight_eq_div_pow]
      exact Nat.div_lt_of_lt_mul newAddress.isLt
    · rw [<- List.append_assoc]
      exact programmed _

variable {α : Type} {others : List (BitVec 8 × DifI2cSignal)}

variable {out : Except Failure α × Memory}

/-- A condition holds after which something is received. -/
theorem transcript_tryCheck_bind {condition : Bool} {next : Unit -> Code Memory Failure α}
    (transcript : Transcript ((tryCheck condition >>= next) memory) events out)
    (taken : acquired events ≠ []) : Transcript (next () memory) events out := by
  cases condition with
  | true => exact transcript
  | false =>
      have failed : Transcript (.ret (.error (.status .kInternal), memory)) events out := transcript
      rcases transcript_ret.mp failed with ⟨rfl, -⟩
      exact absurd rfl taken

/-- The next entry of the ACQ FIFO is the first that is received. -/
theorem transcript_acquire_bind {next : BitVec 8 × DifI2cSignal -> Code Memory Failure α}
    {entry : BitVec 8 × DifI2cSignal}
    (transcript : Transcript ((tryAcquireByte >>= next) memory) events out)
    (taken : acquired events = entry :: others) :
    Exists fun rest => acquired rest = others ∧ Transcript (next entry memory) rest out := by
  rcases transcript_read32.mp transcript with ⟨word, rest, rfl, continues⟩
  rcases List.cons.inj taken with ⟨first, others'⟩
  rw [<- first]
  exact ⟨rest, others', continues⟩

/-- The next entry of the ACQ FIFO has the signal that is expected. -/
theorem transcript_signalled_bind {next : BitVec 8 -> Code Memory Failure α} {data : BitVec 8}
    {expected : DifI2cSignal}
    (transcript : Transcript ((acquireSignalled expected >>= next) memory) events out)
    (taken : acquired events = (data, expected) :: others) :
    Exists fun rest => acquired rest = others ∧ Transcript (next data memory) rest out := by
  rw [acquireSignalled, Code.bind_assoc] at transcript
  rcases transcript_acquire_bind transcript taken with ⟨rest, others', checks⟩
  refine ⟨rest, others', ?_⟩
  have passes : (expected == expected) = true := beq_self_eq_true expected
  rw [Code.bind_assoc] at checks
  rwa [tryCheck_bind passes] at checks

/-- The next entry of the ACQ FIFO goes into the packet error code. -/
theorem transcript_acquirePec_bind {next : BitVec 8 -> Code Memory Failure α} {data : BitVec 8}
    (transcript : Transcript ((acquirePec >>= next) memory) events out)
    (taken : acquired events = plain data :: others) :
    Exists fun rest => acquired rest = others ∧
      Transcript (next data { memory with runningPec := crc8Add memory.runningPec data }) rest out := by
  rw [acquirePec, Code.bind_assoc] at transcript
  rcases transcript_signalled_bind transcript taken with ⟨rest, others', continues⟩
  rw [<- calcPec_eq]
  exact ⟨rest, others', continues⟩

/-- A command of two bytes is completed when it is received as a whole with its error code. -/
theorem checkShortCommand_completes {pec byte : BitVec 8} {out : Except Failure Unit × Memory}
    (transcript : Transcript (checkShortCommand irqSnapshot i2cStatus memory) events out)
    (taken : acquired events = [plain memory.arpCmdPending, plain pec, (byte, kDifI2cSignalStop)])
    (correct : crc8Add (crc8Add memory.runningPec memory.arpCmdPending) pec = 0) :
    out.1 = .ok () := by
  have some : acquired events ≠ [] := by
    rw [taken]
    exact List.cons_ne_nil _ _
  have present := transcript_tryCheck_bind transcript some
  have levels := transcript_tryCheck_bind present some
  rcases transcript_read32.mp levels with ⟨host, afterHost, rfl, looksTarget⟩
  rcases transcript_read32.mp looksTarget with ⟨target, afterTarget, rfl, enough⟩
  have takes := transcript_tryCheck_bind enough some
  rcases transcript_acquire_bind takes taken with ⟨afterCommand, takenPec, checks⟩
  have somePec : acquired afterCommand ≠ [] := by
    rw [takenPec]
    exact List.cons_ne_nil _ _
  have checksCommand := transcript_tryCheck_bind checks somePec
  have adds := transcript_tryCheck_bind checksCommand somePec
  let added : Memory := { memory with
    runningPec := calcPec memory.runningPec memory.arpCmdPending }
  have takesPec : Transcript ((acquirePec >>= fun _ => do
      let _ <- acquireSignalled kDifI2cSignalStop
      tryIrqAcknowledge .kDifI2cIrqCmdComplete
      modify ({ · with arpCmdPending := 0, state := .kI2cStateIdle })
      let memory <- Code.get
      tryCheck (memory.runningPec == 0)) added) afterCommand out := adds
  rcases transcript_acquirePec_bind takesPec takenPec with ⟨afterPec, takenStop, takesStop⟩
  rcases transcript_signalled_bind takesStop takenStop with ⟨afterStop, -, acknowledges⟩
  have running : crc8Add added.runningPec pec = 0 := by
    change crc8Add (calcPec memory.runningPec memory.arpCmdPending) pec = 0
    rw [calcPec_eq]
    exact correct
  rw [running] at acknowledges
  rcases transcript_write32.mp acknowledges with ⟨none, rfl, returned⟩
  exact congrArg Prod.fst (transcript_ret.mp returned).2

/-- A Reset Device command that is received as a whole makes the address invalid. -/
theorem checkArpPec_reset {byte : BitVec 8} {out : Except Failure Unit × Memory}
    (command : memory.arpCmdPending = kArpCmdResetDevice) (running : memory.runningPec = 0)
    (taken : acquired events = resetEntries byte)
    (transcript : Transcript (checkArpPec irqSnapshot i2cStatus memory) events out) :
    out.2.arpAv = false := by
  have prepare : memory.arpCmdPending ≠ kArpCmdPrepareToArp := by
    rw [command]
    decide
  rw [checkArpPec_apply, if_neg prepare, if_pos command] at transcript
  rcases Code.transcript_bind transcript with
    ⟨reason, memory₁, failed, rfl⟩ | ⟨before, after, _, memory₁, rfl, checked, changed⟩
  · have correct : crc8Add (crc8Add memory.runningPec memory.arpCmdPending)
        (crc8 [kArpCmdResetDevice]) = 0 := by
      rw [running, command]
      decide +kernel
    have completed := checkShortCommand_completes failed (by rw [taken, command]; rfl) correct
    cases completed
  · exact congrArg (fun out => out.2.arpAv) (transcript_ret.mp changed).2

end

/-- The step takes a Reset Device command from the ACQ FIFO, with the right error code. -/
structure TakesReset (config config' : Config) : Prop where
  state : config.memory.state = .kI2cStateArpPec
  command : config.memory.arpCmdPending = kArpCmdResetDevice
  taken : Exists fun byte =>
    acquired config'.history = acquired config.history ++ resetEntries byte

/-- What a step makes of the addresses and of the register. -/
inductive Readdressed (config config' : Config) : Prop where
  | kept (register : targetId config'.history = targetId config.history)
      (id : config'.memory.i2cId = config.memory.i2cId)
      (valid : config'.memory.arpAv = config.memory.arpAv)
  | assigned (register : targetId config'.history =
        targetIdWord (some kSmbusArpId) (some config'.memory.i2cId))
      (mask : config'.memory.i2cId.mask = config.memory.i2cId.mask)
      (sevenBits : config'.memory.i2cId.address.toNat < 128)
      (valid : config'.memory.arpAv = true)
  | reset (register : targetId config'.history = targetId config.history)
      (id : config'.memory.i2cId = config.memory.i2cId)
      (invalid : config'.memory.arpAv = false) (takes : TakesReset config config')

section

variable {memory memory' : Memory} {events history : List Event} {phase phase' : Phase}

theorem runningPec_reset (received : Received history memory)
    (state : memory.state = .kI2cStateArpPec) (command : memory.arpCmdPending = kArpCmdResetDevice) :
    memory.runningPec = 0 :=
  ((received.pec state).resolve_right (fun assign => by cases assign.1.symm.trans command)).2.1

theorem readdressed_of_quiet (quiet : Quiet memory events memory') :
    Readdressed ⟨memory, phase, history⟩ ⟨memory', phase', history ++ events⟩ :=
  .kept (targetId_spared quiet.2 history) quiet.1.1 quiet.1.2.1

theorem readdressed_handle {result : Except Failure Bool}
    (sound : Sound ⟨memory, .waiting, history⟩)
    (transcript : Transcript (handleEvent memory) events (result, memory')) :
    Readdressed ⟨memory, .waiting, history⟩ ⟨memory', phase', history ++ events⟩ := by
  rcases handleEvent_transcript transcript with
    ⟨irqSnapshot, i2cStatus, looked, rest, ended, rfl, none, spared, handled, -⟩
  have before : Received (history ++ looked) { memory with i2cEvent := false } := by
    have aside : Received (history ++ looked) memory :=
      received_aside (sound.received nofun) none rfl rfl rfl rfl
    exact ⟨aside.udid, aside.pec⟩
  have register : targetId (history ++ (looked ++ rest)) = targetId (history ++ looked ++ rest) := by
    rw [List.append_assoc]
  cases (handler_outcome before handled).1 with
  | quiet quiet =>
      refine .kept ?_ quiet.1.1 quiet.1.2.1
      change targetId (history ++ (looked ++ rest)) = targetId history
      rw [register, targetId_spared quiet.2, targetId_spared spared]
  | assigned newAddress pec state command ended' settled udid valid address programmed =>
      cases ended'
      have checks : Transcript (checkArpPec irqSnapshot i2cStatus { memory with i2cEvent := false })
          rest (.ok (), memory') := by
        have same : handler memory.state irqSnapshot i2cStatus =
            checkArpPec irqSnapshot i2cStatus := by
          rw [state]
          rfl
        rw [<- same]
        exact handled
      rcases checkArpPec_assigned command checks with ⟨mask, sevenBits, valid, word⟩
      refine .assigned ?_ mask sevenBits valid
      change targetId (history ++ (looked ++ rest)) = _
      rw [register]
      exact word (history ++ looked)
  | reset pec byte state command ended' settled udid id invalid spares taken correct =>
      have code : pec = crc8 [kArpCmdResetDevice] := by
        rw [crc8Add_eq_zero correct]
        exact congrArg (fun crc => crc8Add crc kArpCmdResetDevice)
          (runningPec_reset (sound.received nofun) state command)
      refine .reset ?_ id invalid ⟨state, command, byte, ?_⟩
      · change targetId (history ++ (looked ++ rest)) = targetId history
        rw [register, targetId_spared spares, targetId_spared spared]
      · change acquired (history ++ (looked ++ rest)) = acquired history ++ resetEntries byte
        rw [acquired_append, acquired_append, none, taken, code]
        rfl

end

variable {config config' : Config}

theorem readdressed_of_step (sound : Sound config) (step : Step config config') :
    Readdressed config config' := by
  cases step with
  | interrupt irq running transcript => exact readdressed_of_quiet (i2cIsr_aside transcript).quiet
  | handle event transcript => exact readdressed_handle sound transcript
  | restore messageReceived transcript =>
      exact readdressed_of_quiet (restoreInterrupts_aside transcript).quiet

theorem invalid_of_takes (sound : Sound config) (step : Step config config')
    (takes : TakesReset config config') :
    config'.memory.arpAv = false := by
  rcases takes with ⟨state, command, byte, taken⟩
  -- Only a round of the loop takes anything from the FIFO.
  have something {history events : List Event} (none : acquired events = [])
      (taken : acquired (history ++ events) = acquired history ++ resetEntries byte) : False := by
    rw [acquired_append, none] at taken
    exact absurd (List.append_cancel_left taken) nofun
  cases step with
  | interrupt irq running transcript => exact (something (i2cIsr_aside transcript).none taken).elim
  | restore messageReceived transcript =>
      exact (something (restoreInterrupts_aside transcript).none taken).elim
  | @handle memory memory' history events result event transcript =>
      rcases handleEvent_transcript transcript with
        ⟨irqSnapshot, i2cStatus, looked, rest, ended, rfl, none, spared, handled, -⟩
      have received : acquired rest = resetEntries byte := by
        change acquired (history ++ (looked ++ rest)) = _ at taken
        rw [acquired_append, acquired_append, none] at taken
        exact List.append_cancel_left taken
      have checks : handler memory.state irqSnapshot i2cStatus =
          checkArpPec irqSnapshot i2cStatus := by
        rw [show memory.state = .kI2cStateArpPec from state]
        rfl
      rw [checks] at handled
      have running := runningPec_reset (sound.received nofun) state command
      exact @checkArpPec_reset { memory with i2cEvent := false } irqSnapshot i2cStatus rest byte
        (ended, memory') command running received handled

/-! ## When the register agrees with the flag -/

/-- No address has been assigned yet, or the register has the one that the target remembers. -/
structure Listening (config : Config) : Prop where
  mask : config.memory.i2cId.mask = 0x7f
  register : (targetId config.history = targetIdWord (some kSmbusArpId) none ∧
      config.memory.arpAv = false) ∨
    (targetId config.history = targetIdWord (some kSmbusArpId) (some config.memory.i2cId) ∧
      config.memory.i2cId.address.toNat < 128)

theorem listening_start (kSmbusUdid : Vector (BitVec 8) 16) (kMessageAddr : BitVec 32) :
    Listening (start kSmbusUdid kMessageAddr) :=
  ⟨rfl, Or.inl ⟨rfl, rfl⟩⟩

theorem Listening.step (listening : Listening config) (readdressed : Readdressed config config') :
    Listening config' := by
  rcases listening with ⟨mask, never | assigned⟩
  · cases readdressed with
    | kept register id valid =>
        exact ⟨by rw [id, mask], Or.inl ⟨register.trans never.1, valid.trans never.2⟩⟩
    | assigned register mask' sevenBits valid =>
        exact ⟨mask'.trans mask, Or.inr ⟨register, sevenBits⟩⟩
    | reset register id invalid _ =>
        exact ⟨by rw [id, mask], Or.inl ⟨register.trans never.1, invalid⟩⟩
  · cases readdressed with
    | kept register id valid =>
        exact ⟨by rw [id, mask], Or.inr (by rw [register, id]; exact assigned)⟩
    | assigned register mask' sevenBits valid =>
        exact ⟨mask'.trans mask, Or.inr ⟨register, sevenBits⟩⟩
    | reset register id invalid _ =>
        exact ⟨by rw [id, mask], Or.inr (by rw [register, id]; exact assigned)⟩

/-- The register has an address that is not valid any more. -/
def Stale (config : Config) : Prop :=
  config.memory.arpAv = false ∧
    targetId config.history = targetIdWord (some kSmbusArpId) (some config.memory.i2cId) ∧
    config.memory.i2cId.address.toNat < 128 ∧
    config.memory.i2cId.address ≠ kSmbusArpId.address

/-- A stale address is all that can be wrong. -/
theorem Listening.agrees_iff (listening : Listening config) :
    Agrees config ↔ ¬ Stale config := by
  constructor
  · rintro agrees ⟨invalid, register, sevenBits, other⟩
    have seven : ((config.memory.i2cId.address.setWidth 7).setWidth 8) =
        config.memory.i2cId.address := by
      apply BitVec.eq_of_toNat_eq
      rw [BitVec.toNat_setWidth_of_le (by decide), BitVec.toNat_setWidth]
      exact Nat.mod_eq_of_lt sevenBits
    have answers : Matches (targetId config.history) (config.memory.i2cId.address.setWidth 7) := by
      rw [register, matches_some listening.mask sevenBits]
      exact Or.inr seven
    exact other (seven.symm.trans (agrees.invalid invalid _ answers))
  · intro fresh
    rcases listening with ⟨mask, never | assigned⟩
    · refine ⟨fun _ address answers => ?_, fun address answers => ?_⟩
      · rw [never.1, matches_none] at answers
        exact answers
      · rw [never.1, matches_none] at answers
        exact answered_of_known (Or.inl answers)
    · have known (address : BitVec 7) (answers : Matches (targetId config.history) address) :
          address.setWidth 8 = kSmbusArpId.address ∨
            (config.memory.arpAv = true ∧ address.setWidth 8 = config.memory.i2cId.address) := by
        rw [assigned.1, matches_some mask assigned.2] at answers
        rcases answers with protocol | own
        · exact Or.inl protocol
        · by_cases protocol : config.memory.i2cId.address = kSmbusArpId.address
          · exact Or.inl (own.trans protocol)
          · cases valid : config.memory.arpAv with
            | true => exact Or.inr ⟨rfl, own⟩
            | false => exact absurd ⟨valid, assigned.1, assigned.2, protocol⟩ fresh
      refine ⟨fun invalid address answers => ?_, fun address answers => ?_⟩
      · rcases known address answers with protocol | ⟨valid, _⟩
        · exact protocol
        · rw [invalid] at valid
          cases valid
      · exact answered_of_known (known address answers)

/-! ## Over runs -/

/-- A right Reset Device command is received while an address is valid that is not that of the
protocol. -/
def LeavesAddress (config config' : Config) : Prop :=
  config.memory.arpAv = true ∧ config.memory.i2cId.address ≠ kSmbusArpId.address ∧
    TakesReset config config'

/-- Such a step makes the register disagree, and no other step does. -/
theorem step_agrees_iff (sound : Sound config) (listening : Listening config)
    (agrees : Agrees config) (step : Step config config') :
    Agrees config' ↔ ¬ LeavesAddress config config' := by
  have readdressed := readdressed_of_step sound step
  rw [(listening.step readdressed).agrees_iff, not_iff_not]
  constructor
  · rintro ⟨invalid, register, sevenBits, other⟩
    cases readdressed with
    | kept register' id valid =>
        rw [valid] at invalid
        rw [register', id] at register
        rw [id] at sevenBits other
        exact absurd ⟨invalid, register, sevenBits, other⟩ (listening.agrees_iff.mp agrees)
    | assigned _ _ _ valid =>
        rw [invalid] at valid
        cases valid
    | reset register' id _ takes =>
        rw [register', id] at register
        rw [id] at sevenBits other
        have valid : config.memory.arpAv = true := by
          by_contra before
          exact listening.agrees_iff.mp agrees
            ⟨Bool.eq_false_iff.mpr before, register, sevenBits, other⟩
        exact ⟨valid, other, takes⟩
  · rintro ⟨valid, other, takes⟩
    have invalid := invalid_of_takes sound step takes
    have assigned := listening.register.resolve_left (fun never => by
      rw [never.2] at valid
      cases valid)
    cases readdressed with
    | kept _ _ same =>
        rw [valid, invalid] at same
        cases same
    | assigned _ _ _ same =>
        rw [invalid] at same
        cases same
    | reset register id _ _ =>
        refine ⟨invalid, ?_, ?_, ?_⟩
        · rw [register, id]
          exact assigned.1
        · rw [id]
          exact assigned.2
        · rw [id]
          exact other

/-- In a run from a state in which the register agrees, it does in every state exactly if no step
leaves an address behind. -/
theorem chain_agrees_iff {configs : List Config} (run : List.IsChain Step (config :: configs))
    (sound : Sound config) (listening : Listening config) (agrees : Agrees config) :
    (forall other, other ∈ config :: configs -> Agrees other) ↔
      List.IsChain (fun before after => ¬ LeavesAddress before after) (config :: configs) := by
  induction configs generalizing config with
  | nil =>
      refine ⟨fun _ => List.isChain_singleton _, fun _ other member => ?_⟩
      rw [List.mem_singleton.mp member]
      exact agrees
  | cons next configs ih =>
      rw [List.isChain_cons_cons] at run ⊢
      have here := step_agrees_iff sound listening agrees run.1
      have nextSound := (step_sound sound run.1).2
      have nextListening := listening.step (readdressed_of_step sound run.1)
      constructor
      · intro all
        have nextAgrees := all next (List.mem_cons_of_mem _ List.mem_cons_self)
        refine ⟨here.mp nextAgrees, (ih run.2 nextSound nextListening nextAgrees).mp ?_⟩
        exact fun other member => all other (List.mem_cons_of_mem _ member)
      · rintro ⟨first, rest⟩ other member
        have nextAgrees := here.mpr first
        rcases List.mem_cons.mp member with rfl | member
        · exact agrees
        · exact (ih run.2 nextSound nextListening nextAgrees).mpr rest other member

/-- In a run of the target, its register agrees with the flag in every state exactly if no right
Reset Device command is received while an address is valid that is not that of the protocol. -/
theorem run_agrees_iff {kSmbusUdid : Vector (BitVec 8) 16} {kMessageAddr : BitVec 32}
    {configs : List Config} (run : List.IsChain Step (start kSmbusUdid kMessageAddr :: configs)) :
    (forall config, config ∈ start kSmbusUdid kMessageAddr :: configs -> Agrees config) ↔
      List.IsChain (fun before after => ¬ LeavesAddress before after)
        (start kSmbusUdid kMessageAddr :: configs) := by
  have listening := listening_start kSmbusUdid kMessageAddr
  refine chain_agrees_iff run ⟨nofun, fun _ => received_of_settled nofun nofun⟩ listening ?_
  rw [listening.agrees_iff]
  have other : targetIdWord (some kSmbusArpId) none ≠
      targetIdWord (some kSmbusArpId) (some { address := 0x7f, mask := 0x7f }) := by decide
  rintro ⟨_, register, _⟩
  exact absurd register other

/-! ## An address that is left behind -/

/-- The configurations that some moves come to, one after the other. -/
def Config.trace (config : Config) : List Move -> Option (List Config)
  | [] => some []
  | move :: moves => do
      let next <- config.move move
      let configs <- next.trace moves
      pure (next :: configs)

theorem chain_of_trace {moves : List Move} {configs : List Config}
    (traced : config.trace moves = some configs) : List.IsChain Step (config :: configs) := by
  induction moves generalizing config configs with
  | nil =>
      cases traced
      exact List.isChain_singleton _
  | cons move moves ih =>
      rcases Option.bind_eq_some_iff.mp traced with ⟨next, moved, rest⟩
      rcases Option.bind_eq_some_iff.mp rest with ⟨configs', traced', same⟩
      cases same
      exact List.isChain_cons_cons.mpr ⟨step_of_move moved, ih traced'⟩

theorem assignMoves_trace :
    ((start (Vector.replicate 16 0) 0).trace assignMoves).isSome = true := by
  decide +kernel

/-- The configurations on the way to the address 0x55. -/
def assignedConfigs : List Config :=
  ((start (Vector.replicate 16 0) 0).trace assignMoves).get assignMoves_trace

/-- The assignment leaves no address behind. -/
theorem run_agrees_iff_assigned :
    (forall config, config ∈ start (Vector.replicate 16 0) 0 :: assignedConfigs ->
      Agrees config) ↔
      List.IsChain (fun before after => ¬ LeavesAddress before after)
        (start (Vector.replicate 16 0) 0 :: assignedConfigs) :=
  run_agrees_iff (chain_of_trace (Option.some_get assignMoves_trace).symm)

/-- Then it resets the target. -/
def resetMoves : List Move :=
  [ .interrupt .kDifI2cIrqAcqStretch 0x7fff,
    .handle [0x1000, 0, 0x400, 0x1c2, 2],
    .restore,
    .interrupt .kDifI2cIrqCmdComplete 0x7fff,
    .handle [0x200, 0, 0, 0, 0x30000, 2, (crc8 [kArpCmdResetDevice]).setWidth 32, 0x200],
    .restore ]

theorem resetMoves_run : (resetMoves.foldlM Config.move assignedConfig).isSome = true := by
  decide +kernel

/-- The configuration it comes to. -/
def resetConfig : Config := (resetMoves.foldlM Config.move assignedConfig).get resetMoves_run

theorem resetConfig_reachable : Reachable (Vector.replicate 16 0) 0 resetConfig :=
  reachable_of_moves assignedConfig_reachable (Option.some_get resetMoves_run).symm

/-- After the reset, the target still answers to 0x55, and a write to it is an error. -/
theorem run_agrees_reset : Exists fun config => Reachable (Vector.replicate 16 0) 0 config ∧
    config.phase = .waiting ∧ config.memory.state = .kI2cStateIdle ∧
    config.memory.arpAv = false ∧ Matches (targetId config.history) 0x55 ∧ ¬ Agrees config ∧
    Exists fun memory' =>
      (processNewCommand 0x1000 (.ofRegs 0 0x400) config.memory).outcome [0x1aa] =
        some (.error (.status .kInternal), memory') := by
  have invalid : resetConfig.memory.arpAv = false := by decide +kernel
  have answers : Matches (targetId resetConfig.history) 0x55 := by decide +kernel
  have unexpected :
      (processNewCommand 0x1000 (.ofRegs 0 0x400) resetConfig.memory).outcome [0x1aa] =
        some (.error (.status .kInternal), { resetConfig.memory with runningPec := 0 }) := by
    decide +kernel
  refine ⟨resetConfig, resetConfig_reachable, by decide +kernel, by decide +kernel, invalid,
    answers, fun agrees => ?_, _, unexpected⟩
  exact absurd (agrees.invalid invalid _ answers) (by decide)

end SmbusArp
end SunburstChip
