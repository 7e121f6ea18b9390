import SunburstChip.Testing.I2cTargetSmbusArpRuns

namespace SunburstChip
namespace SmbusArp

open Mmio I2c

/-!
# Commands directed at an assigned address

Besides its general commands, the protocol has two that are directed at one
target: their command byte is the address that has been assigned to it, shifted
to the left, with the lowest bit telling them apart.  `process_new_command`
compares the address with one instead of shifting it by one, and so takes the
byte zero for the directed reset, and knows neither of the two commands.
-/

/-! ## What the protocol asks for -/

/-- A word is an entry of the ACQ FIFO. -/
def Entry (word : BitVec 32) (byte : BitVec 8) (sig : DifI2cSignal) : Prop :=
  abyte word = byte ∧ signal word = sig

/-- The variables after a command has been accepted. -/
def Memory.accepted (memory : Memory) (command : BitVec 8) (state : I2cState) : Memory :=
  { memory with runningPec := 0, arpCmdPending := command, state := state }

/-- The variables after a command has been refused. -/
def Memory.refused (memory : Memory) : Memory :=
  { memory with runningPec := 0, state := .kI2cStateTransactionNack }

/-- The command byte of the directed reset. -/
def directedReset (memory : Memory) : BitVec 8 := memory.i2cId.address <<< 1

/-- The command byte of the directed Get UDID. -/
def directedGetUdid (memory : Memory) : BitVec 8 := (memory.i2cId.address <<< 1) ||| 1

/-- What a target with a valid address should make of a command byte. -/
def intended (memory : Memory) (command : BitVec 8) : Memory :=
  if command = kArpCmdPrepareToArp then memory.accepted command .kI2cStateArpPec
  else if command = kArpCmdResetDevice then memory.accepted command .kI2cStateArpPec
  else if command = kArpCmdGetUdid then
    if memory.arpAr then memory.refused else memory.accepted command .kI2cStateArpGetUdidWait
  else if command = kArpCmdAssignAddress then memory.accepted command .kI2cStateArpCheckUdid
  else if command = directedReset memory then
    memory.accepted kArpCmdResetDevice .kI2cStateArpPec
  else if command = directedGetUdid memory then
    memory.accepted kArpCmdGetUdid .kI2cStateArpGetUdidWait
  else memory.refused

/-- `process_new_command` classifies a command byte at the address of the protocol. -/
def Classifies (memory : Memory) (command : BitVec 8) : Prop :=
  forall irqSnapshot i2cStatus first next, irqRead irqSnapshot .kDifI2cIrqAcqStretch = true ->
    i2cStatus.acqFifoEmpty = false -> i2cStatus.ackCtrlStretch = true ->
    Entry first 0xc2 kDifI2cSignalStart -> (0xff &&& next).setWidth 8 = command ->
    (processNewCommand irqSnapshot i2cStatus memory).outcome [first, next] =
      some (.ok (), intended memory command)

/-- A directed reset with a right error code is completed. -/
def ResetCompletes (memory : Memory) (command : BitVec 8) : Prop :=
  forall irqSnapshot i2cStatus host target first second third byte,
    irqRead irqSnapshot .kDifI2cIrqCmdComplete = true -> i2cStatus.acqFifoEmpty = false ->
    (3 : BitVec 16) <= (bitfieldField32Read target targetFifoStatusAcqlvlField).setWidth 16 ->
    Entry first command kDifI2cSignalNone -> Entry second (crc8 [command]) kDifI2cSignalNone ->
    Entry third byte kDifI2cSignalStop ->
    Exists fun memory' =>
      (checkArpPec irqSnapshot i2cStatus (intended memory command)).outcome
        [host, target, first, second, third] = some (.ok (), memory') ∧
      memory'.state = .kI2cStateIdle

/-- A directed Get UDID is answered, and completed when the reply has been read. -/
def GetUdidCompletes (memory : Memory) (command : BitVec 8) : Prop :=
  forall irqSnapshot i2cStatus irqSnapshot' i2cStatus' first events second third events' byte,
    irqRead irqSnapshot .kDifI2cIrqCmdComplete = true ->
    irqRead irqSnapshot .kDifI2cIrqTxStretch = true -> i2cStatus.acqFifoEmpty = false ->
    i2cStatus.txFifoEmpty = true ->
    irqRead irqSnapshot' .kDifI2cIrqCmdComplete = true -> i2cStatus'.acqFifoEmpty = false ->
    Entry first command kDifI2cSignalNone ->
    bitfieldBit32Read events targetEventsTxPendingBit = true ->
    bitfieldBit32Read events targetEventsBusTimeoutBit = false ->
    Entry second 0xc3 kDifI2cSignalRepeat -> Entry third byte kDifI2cSignalStop ->
    bitfieldBit32Read events' targetEventsTxPendingBit = false ->
    bitfieldBit32Read events' targetEventsBusTimeoutBit = false ->
    bitfieldBit32Read events' targetEventsArbitrationLostBit = false ->
    Exists fun memory' => Exists fun memory'' =>
      (prepareUdidReply irqSnapshot i2cStatus (intended memory command)).outcome
        [first, events, second] = some (.ok (), memory') ∧
      (completeGetUdid irqSnapshot' i2cStatus' memory').outcome [third, events'] =
        some (.ok (), memory'') ∧
      memory''.state = .kI2cStateIdle

/-- A command byte is treated as the protocol asks for. -/
structure Treated (memory : Memory) (command : BitVec 8) : Prop where
  classified : Classifies memory command
  reset : command = directedReset memory -> ResetCompletes memory command
  getUdid : command = directedGetUdid memory -> GetUdidCompletes memory command

/-! ## What the target does -/

/-- What a target with an address above zero makes of a command byte. -/
def dispatched (memory : Memory) (command : BitVec 8) : Memory :=
  if command = kArpCmdPrepareToArp then memory.accepted command .kI2cStateArpPec
  else if command = kArpCmdResetDevice then memory.accepted command .kI2cStateArpPec
  else if command = kArpCmdGetUdid then
    if memory.arpAr then memory.refused else memory.accepted command .kI2cStateArpGetUdidWait
  else if command = kArpCmdAssignAddress then memory.accepted command .kI2cStateArpCheckUdid
  else if command = 0 then memory.accepted kArpCmdResetDevice .kI2cStateArpPec
  else memory.refused

section Dispatched

variable {memory : Memory} {command : BitVec 8}

/-- A command that is accepted, with a count that the register has room for. -/
theorem acceptCommand_outcome (state : I2cState) {count : BitVec 16}
    (small : ¬ count.setWidth 32 > targetAckCtrlNbytesMask) :
    (acceptCommand command state count { memory with runningPec := 0 }).outcome [] =
      some (.ok (), memory.accepted command state) := by
  have written : acceptCommand command state count { memory with runningPec := 0 } =
      .write32 targetAckCtrlRegOffset
        (bitfieldField32Write 0 targetAckCtrlNbytesField (count.setWidth 32))
        (.ret (.ok (), memory.accepted command state)) := by
    change trySetAutoAckCount count (memory.accepted command state) = _
    rw [trySetAutoAckCount, difI2cSetAutoAckCount_object, if_neg small]
    rfl
  rw [written]
  rfl

theorem nackCommand_outcome : (nackCommand { memory with runningPec := 0 }).outcome [] =
    some (.ok (), memory.refused) := rfl

/-- Both alternatives come to what they should. -/
theorem outcome_ite {condition condition' : Prop} [Decidable condition] [Decidable condition']
    {code code' : Code Memory Failure Unit} {start left right : Memory}
    (same : condition ↔ condition') (pos : condition' -> (code start).outcome [] = some (.ok (), left))
    (neg : ¬ condition' -> (code' start).outcome [] = some (.ok (), right)) :
    ((if condition then code else code') start).outcome [] =
      some (.ok (), if condition' then left else right) := by
  by_cases holds : condition'
  · rw [if_pos (same.mpr holds), if_pos holds]
    exact pos holds
  · rw [if_neg (fun holds' => holds (same.mp holds')), if_neg holds]
    exact neg holds

/-- Comparing with a number that has eight bits. -/
theorem setWidth_beq (other : BitVec 8) :
    (command.setWidth 32 == other.setWidth 32) = true ↔ command = other := by
  rw [beq_iff_eq]
  constructor
  · intro same
    apply BitVec.eq_of_toNat_eq
    have wide := congrArg BitVec.toNat same
    rwa [BitVec.toNat_setWidth_of_le (by decide), BitVec.toNat_setWidth_of_le (by decide)] at wide
  · rintro rfl
    rfl

/-- What `process_new_command` makes of an address, when it has passed the checks. -/
def processAddress (address : BitVec 8) (memory : Memory) : Code Memory Failure Unit :=
  if address == kSmbusArpId.address then processArpCommand
  else if memory.arpAv && address == memory.i2cId.address then processMessageCommand
  else tryCheck false

/-- A transaction that begins with a write passes the checks. -/
theorem processNewCommand_begins {irqSnapshot first : BitVec 32} {i2cStatus : DifI2cStatus}
    {data : BitVec 8} {values : List (BitVec 32)}
    (stretches : irqRead irqSnapshot .kDifI2cIrqAcqStretch = true)
    (present : i2cStatus.acqFifoEmpty = false) (held : i2cStatus.ackCtrlStretch = true)
    (entry : Entry first data kDifI2cSignalStart) (write : (data &&& 1 == 0) = true) :
    (processNewCommand irqSnapshot i2cStatus memory).outcome (first :: values) =
      (processAddress (data >>> 1) { memory with runningPec := 0 }
        { memory with runningPec := 0 }).outcome values := by
  rcases entry with ⟨byte, start⟩
  unfold processNewCommand
  rw [tryCheck_bind stretches, tryCheck_bind (by rw [present]; rfl)]
  have begins {α : Type} (rest : BitVec 8 × DifI2cSignal -> Code Memory Failure α) :
      ((tryAcquireByte >>= rest) memory).outcome (first :: values) =
        (rest (data, kDifI2cSignalStart) memory).outcome values := by
    rw [<- byte, <- start]
    exact outcome_read32 _ _ _ _
  rw [begins]
  change ((do
    tryCheck (data &&& 1 == 0)
    tryCheck i2cStatus.ackCtrlStretch
    let memory <- Code.get
    processAddress (data >>> 1) memory : Code Memory Failure Unit)
      { memory with runningPec := 0 }).outcome values = _
  rw [tryCheck_bind write, tryCheck_bind held]
  rfl

/-- The command is the byte that waits for its acknowledgement. -/
theorem processArpCommand_looks (next : BitVec 32) : (processArpCommand memory).outcome [next] =
    (chooseArpCommand memory ((0xff &&& next).setWidth 8) memory).outcome [] :=
  outcome_read32 _ _ _ _

theorem chooseArpCommand_outcome (valid : memory.arpAv = true)
    (assigned : memory.i2cId.address ≠ 0) :
    (chooseArpCommand { memory with runningPec := 0 } command
      { memory with runningPec := 0 }).outcome [] = some (.ok (), dispatched memory command) := by
  have notBelow : boolToInt (decide (memory.i2cId.address < 1)) = 0 := by
    simpa [boolToInt] using assigned
  unfold chooseArpCommand dispatched
  refine outcome_ite beq_iff_eq (fun _ => acceptCommand_outcome _ (by decide))
    (fun notPrepare => ?_)
  refine outcome_ite beq_iff_eq (fun _ => acceptCommand_outcome _ (by decide)) (fun _ => ?_)
  refine outcome_ite beq_iff_eq (fun _ => ?_) (fun _ => ?_)
  · exact outcome_ite Iff.rfl (fun _ => nackCommand_outcome)
      (fun _ => acceptCommand_outcome _ (by decide))
  refine outcome_ite beq_iff_eq (fun _ => acceptCommand_outcome _ (by decide)) (fun _ => ?_)
  -- What is compared from here on is 0 and 1, and 1 is a general command.
  rw [notBelow]
  refine outcome_ite (setWidth_beq 0) (fun _ => ?_) (fun _ => ?_)
  · have still : ({ memory with runningPec := 0 } : Memory).arpAv = true := valid
    rw [if_pos still]
    exact acceptCommand_outcome _ (by decide)
  · have notOne : ¬ (command.setWidth 32 == (0 ||| 1 : BitVec 32)) = true :=
      fun one => notPrepare ((setWidth_beq 1).mp one)
    rw [if_neg notOne]
    exact nackCommand_outcome

/-- The whole of `process_new_command`, for a command of the protocol. -/
theorem processNewCommand_outcome (valid : memory.arpAv = true)
    (assigned : memory.i2cId.address ≠ 0) {irqSnapshot first next : BitVec 32}
    {i2cStatus : DifI2cStatus} (stretches : irqRead irqSnapshot .kDifI2cIrqAcqStretch = true)
    (present : i2cStatus.acqFifoEmpty = false) (held : i2cStatus.ackCtrlStretch = true)
    (entry : Entry first 0xc2 kDifI2cSignalStart)
    (byte : (0xff &&& next).setWidth 8 = command) :
    (processNewCommand irqSnapshot i2cStatus memory).outcome [first, next] =
      some (.ok (), dispatched memory command) := by
  rw [processNewCommand_begins stretches present held entry (by decide)]
  change (processArpCommand { memory with runningPec := 0 }).outcome [next] = _
  rw [processArpCommand_looks, byte]
  exact chooseArpCommand_outcome valid assigned

end Dispatched

/-! ## Which bytes are treated as they should be -/

section Treated

variable {memory : Memory} {command : BitVec 8}

theorem directedReset_toNat (sevenBits : memory.i2cId.address.toNat < 128) :
    (directedReset memory).toNat = 2 * memory.i2cId.address.toNat := by
  rw [directedReset, BitVec.toNat_shiftLeft, Nat.shiftLeft_eq]
  omega

theorem directedGetUdid_toNat (sevenBits : memory.i2cId.address.toNat < 128) :
    (directedGetUdid memory).toNat = 2 * memory.i2cId.address.toNat + 1 := by
  have even := directedReset_toNat sevenBits
  have joined : (directedGetUdid memory).toNat = (directedReset memory).toNat ||| 1 :=
    BitVec.toNat_or ..
  rw [joined, even]
  exact (Nat.two_pow_add_eq_or_of_lt (i := 1) (by decide) _).symm

/-- It is enough to look at what the byte is taken for. -/
theorem classifies_iff (valid : memory.arpAv = true) (assigned : memory.i2cId.address ≠ 0) :
    Classifies memory command ↔ dispatched memory command = intended memory command := by
  constructor
  · intro classifies
    have byte : (0xff &&& command.setWidth 32 : BitVec 32).setWidth 8 = command := by
      apply BitVec.eq_of_toNat_eq
      have wide : (command.setWidth 32).toNat = command.toNat :=
        BitVec.toNat_setWidth_of_le (by decide)
      rw [BitVec.toNat_setWidth, BitVec.toNat_and, wide, Nat.and_comm]
      change (command.toNat &&& 2 ^ 8 - 1) % 2 ^ 8 = command.toNat
      rw [Nat.and_two_pow_sub_one_eq_mod, Nat.mod_mod, Nat.mod_eq_of_lt command.isLt]
    have here := classifies 0x1000 (.ofRegs 0 0x400) 0x1c2 (command.setWidth 32) (by decide)
      (by decide) (by decide) ⟨by decide, by decide⟩ byte
    rw [processNewCommand_outcome valid assigned (by decide) (by decide) (by decide)
      ⟨by decide, by decide⟩ byte] at here
    exact congrArg Prod.snd (Option.some.inj here)
  · intro same irqSnapshot i2cStatus first next stretches present held entry byte
    rw [processNewCommand_outcome valid assigned stretches present held entry byte, same]

/-- The general commands. -/
def generalCommands : List (BitVec 8) :=
  [kArpCmdPrepareToArp, kArpCmdResetDevice, kArpCmdGetUdid, kArpCmdAssignAddress]

theorem dispatched_other (other : command ∉ generalCommands) :
    dispatched memory command = if command = 0 then
      memory.accepted kArpCmdResetDevice .kI2cStateArpPec else memory.refused := by
  simp only [generalCommands, List.mem_cons, List.not_mem_nil, or_false, not_or] at other
  rcases other with ⟨notPrepare, notReset, notGetUdid, notAssign⟩
  rw [dispatched, if_neg notPrepare, if_neg notReset, if_neg notGetUdid, if_neg notAssign]

theorem intended_other (other : command ∉ generalCommands) :
    intended memory command = if command = directedReset memory then
      memory.accepted kArpCmdResetDevice .kI2cStateArpPec
      else if command = directedGetUdid memory then
        memory.accepted kArpCmdGetUdid .kI2cStateArpGetUdidWait
      else memory.refused := by
  simp only [generalCommands, List.mem_cons, List.not_mem_nil, or_false, not_or] at other
  rcases other with ⟨notPrepare, notReset, notGetUdid, notAssign⟩
  rw [intended, if_neg notPrepare, if_neg notReset, if_neg notGetUdid, if_neg notAssign]

/-- The general commands are known. -/
theorem dispatched_general (general : command ∈ generalCommands) :
    dispatched memory command = intended memory command := by
  simp only [generalCommands, List.mem_cons, List.not_mem_nil, or_false] at general
  rcases general with rfl | rfl | rfl | rfl <;> rfl

theorem general_toNat (general : command ∈ generalCommands) :
    0 < command.toNat ∧ command.toNat <= 4 := by
  simp only [generalCommands, List.mem_cons, List.not_mem_nil, or_false] at general
  rcases general with rfl | rfl | rfl | rfl <;> decide

/-- Where an address is assigned, the directed commands are no general ones. -/
theorem dispatched_eq_intended_iff (sevenBits : memory.i2cId.address.toNat < 128)
    (above : 4 < 2 * memory.i2cId.address.toNat) :
    dispatched memory command = intended memory command ↔
      command ≠ 0 ∧ command ≠ directedReset memory ∧ command ≠ directedGetUdid memory := by
  have reset := directedReset_toNat sevenBits
  have getUdid := directedGetUdid_toNat sevenBits
  by_cases general : command ∈ generalCommands
  · have value := general_toNat general
    refine ⟨fun _ => ⟨?_, ?_, ?_⟩, fun _ => dispatched_general general⟩
    · rintro rfl
      exact absurd value.1 (by decide)
    · rintro rfl
      omega
    · rintro rfl
      omega
  rw [dispatched_other general, intended_other general]
  by_cases zero : command = 0
  · have notReset : command ≠ directedReset memory := by
      rintro rfl
      rw [zero] at reset
      exact absurd reset (by simp; omega)
    have notGetUdid : command ≠ directedGetUdid memory := by
      rintro rfl
      rw [zero] at getUdid
      exact absurd getUdid (by simp)
    rw [if_pos zero, if_neg notReset, if_neg notGetUdid]
    constructor
    · intro same
      cases congrArg Memory.state same
    · intro outside
      exact absurd zero outside.1
  rw [if_neg zero]
  by_cases isReset : command = directedReset memory
  · rw [if_pos isReset]
    constructor
    · intro same
      cases congrArg Memory.state same
    · intro outside
      exact absurd isReset outside.2.1
  rw [if_neg isReset]
  by_cases isGetUdid : command = directedGetUdid memory
  · rw [if_pos isGetUdid]
    constructor
    · intro same
      cases congrArg Memory.state same
    · intro outside
      exact absurd isGetUdid outside.2.2
  rw [if_neg isGetUdid]
  exact ⟨fun _ => ⟨zero, isReset, isGetUdid⟩, fun _ => rfl⟩

/-- A command byte is treated as the protocol asks for, unless it is zero or one
of the two directed commands. -/
theorem treated_iff (valid : memory.arpAv = true) (sevenBits : memory.i2cId.address.toNat < 128)
    (above : 4 < 2 * memory.i2cId.address.toNat) :
    Treated memory command ↔
      command ≠ 0 ∧ command ≠ directedReset memory ∧ command ≠ directedGetUdid memory := by
  have assigned : memory.i2cId.address ≠ 0 := by
    intro zero
    rw [zero] at above
    exact absurd above (by decide)
  have known : Classifies memory command ↔ _ :=
    (classifies_iff valid assigned).trans (dispatched_eq_intended_iff sevenBits above)
  constructor
  · intro treated
    exact known.mp treated.classified
  · intro outside
    exact ⟨known.mpr outside, fun reset => absurd reset outside.2.1,
      fun getUdid => absurd getUdid outside.2.2⟩

theorem treated_assigned : Treated assignedConfig.memory kArpCmdPrepareToArp := by
  have valid : assignedConfig.memory.arpAv = true := by decide +kernel
  have address : assignedConfig.memory.i2cId.address = 0x55 := by decide +kernel
  refine (treated_iff valid ?_ ?_).mpr ⟨by decide, ?_, ?_⟩
  · rw [address]
    decide
  · rw [address]
    decide
  · rw [directedReset, address]
    decide
  · rw [directedGetUdid, address]
    decide

/-- A target to which the address 0x55 has been assigned does not know its own reset. -/
theorem not_treated_directedReset :
    Reachable (Vector.replicate 16 0) 0 assignedConfig ∧ assignedConfig.memory.arpAv = true ∧
    assignedConfig.memory.state = .kI2cStateIdle ∧
    directedReset assignedConfig.memory = 0xaa ∧ ¬ Treated assignedConfig.memory 0xaa := by
  have valid : assignedConfig.memory.arpAv = true := by decide +kernel
  have address : assignedConfig.memory.i2cId.address = 0x55 := by decide +kernel
  have assigned : assignedConfig.memory.i2cId.address ≠ 0 := by
    rw [address]
    decide
  have reset : directedReset assignedConfig.memory = 0xaa := by
    rw [directedReset, address]
    decide
  refine ⟨assignedConfig_reachable, valid, by decide +kernel, reset, fun treated => ?_⟩
  have same := (classifies_iff valid assigned).mp treated.classified
  rw [dispatched_other (by decide), intended_other (by decide), if_neg (by decide),
    if_pos reset.symm] at same
  cases congrArg Memory.state same

end Treated

end SmbusArp
end SunburstChip
