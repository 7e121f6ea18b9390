import SunburstChip.Testing.I2cTargetSmbusArpKeeps

namespace SunburstChip
namespace SmbusArp

open Mmio I2c
open Code (ends_bind ends_ite ends_pure ends_read32 ends_write32)

/-!
# What the target has seen

The accesses that the target has made are its history, and what a controller
has sent so far is in it.  A handler that ends well has seen a certain part of
a command, and its error code is that of the bytes it has taken.
-/

/-! ## Reading the history -/

/-- The entries taken from the ACQ FIFO, oldest first. -/
def acquired (history : List Event) : List (BitVec 8 × DifI2cSignal) :=
  history.filterMap fun
    | .read32 offset word =>
        if offset = acqdataRegOffset then some (abyte word, signal word) else none
    | _ => none

/-- The bytes that were seen waiting for their acknowledgement, oldest first. -/
def awaiting (history : List Event) : List (BitVec 8) :=
  history.filterMap fun
    | .read32 offset word =>
        if offset = acqFifoNextDataRegOffset then some ((0xff &&& word).setWidth 8) else none
    | _ => none

/-- Looking at a byte does not take it. -/
theorem acquired_awaited (word : BitVec 32) :
    acquired [.read32 acqFifoNextDataRegOffset word] = [] := rfl

/-- What an access makes of the value of `TARGET_ID`, which only software writes. -/
def setTargetId (word : BitVec 32) : Event -> BitVec 32
  | .write32 offset value => if offset = targetIdRegOffset then value else word
  | _ => word

/-- The value of `TARGET_ID`. -/
def targetId (history : List Event) : BitVec 32 := history.foldl setTargetId 0

/-- The second address that the target answers to. -/
def secondAddress (history : List Event) : BitVec 32 :=
  bitfieldField32Read (targetId history) targetIdAddress1Field

@[simp] theorem acquired_append (history events : List Event) :
    acquired (history ++ events) = acquired history ++ acquired events := List.filterMap_append

@[simp] theorem awaiting_append (history events : List Event) :
    awaiting (history ++ events) = awaiting history ++ awaiting events := List.filterMap_append

/-- Accesses that spare the register leave its value. -/
theorem targetId_spared {events : List Event}
    (spared : forall event, event ∈ events -> SparesTargetId event.access) (history : List Event) :
    targetId (history ++ events) = targetId history := by
  have step (word : BitVec 32) (event : Event) (spares : SparesTargetId event.access) :
      setTargetId word event = word := by
    cases event with
    | write32 offset value => exact if_neg spares
    | read32 | write8 => rfl
  rw [targetId, targetId, List.foldl_append]
  generalize history.foldl setTargetId 0 = word
  induction events with
  | nil => rfl
  | cons event events ih =>
      rw [List.foldl_cons, step word event (spared event List.mem_cons_self)]
      exact ih (fun event' member => spared event' (List.mem_cons_of_mem _ member))

/-! ## What one call of a device interface function shows -/

section Ends

variable {memory : Memory}
variable {post : List Event -> Unit -> Memory -> Prop}

theorem ends_tryCheck {condition : Bool} (passed : condition = true -> post [] () memory) :
    (tryCheck condition : Code Memory Failure Unit).Ends memory post := by
  intro events value memory' transcript
  cases condition with
  | false => cases (transcript_ret.mp transcript).2
  | true =>
      rcases transcript_ret.mp transcript with ⟨rfl, same⟩
      cases same
      exact passed rfl

theorem ends_modify {change : Memory -> Memory} (holds : post [] () (change memory)) :
    (modify change).Ends memory post := by
  intro events value memory' transcript
  rcases transcript_ret.mp transcript with ⟨rfl, same⟩
  cases same
  exact holds

theorem ends_get {post : List Event -> Memory -> Memory -> Prop} (holds : post [] memory memory) :
    (Code.get : Code Memory Failure Memory).Ends memory post := by
  intro events value memory' transcript
  rcases transcript_ret.mp transcript with ⟨rfl, same⟩
  cases same
  exact holds

theorem ends_tryAcquireByte {post : List Event -> BitVec 8 × DifI2cSignal -> Memory -> Prop}
    (holds : forall word, post [.read32 acqdataRegOffset word] (abyte word, signal word) memory) :
    tryAcquireByte.Ends memory post :=
  ends_read32 rfl holds

theorem ends_tryGetPendingAcqByte {post : List Event -> BitVec 8 -> Memory -> Prop}
    (holds : forall word,
      post [.read32 acqFifoNextDataRegOffset word] ((0xff &&& word).setWidth 8) memory) :
    tryGetPendingAcqByte.Ends memory post :=
  ends_read32 rfl holds

/-- A level, of which nothing is known. -/
theorem ends_tryGetAcqFifoLevel {post : List Event -> BitVec 16 -> Memory -> Prop}
    (holds : forall events level, acquired events = [] -> awaiting events = [] ->
      post events level memory) : tryGetAcqFifoLevel.Ends memory post := by
  intro events level memory' transcript
  rcases transcript_read32.mp transcript with ⟨host, rest, rfl, afterHost⟩
  rcases transcript_read32.mp afterHost with ⟨target, none, rfl, returned⟩
  rcases transcript_ret.mp returned with ⟨rfl, same⟩
  cases same
  exact holds _ _ rfl rfl

/-- A function that writes nothing but a register without meaning for the history. -/
theorem ends_tryIrqAcknowledge {irq : DifI2cIrq}
    (holds : forall events, acquired events = [] -> awaiting events = [] ->
      post events () memory) : (tryIrqAcknowledge irq).Ends memory post :=
  ends_write32 rfl (holds _ rfl rfl)

theorem ends_tryNackTransaction
    (holds : forall events, acquired events = [] -> awaiting events = [] ->
      post events () memory) : tryNackTransaction.Ends memory post :=
  ends_write32 rfl (holds _ rfl rfl)

theorem ends_trySetAutoAckCount {count : BitVec 16}
    (holds : forall events, acquired events = [] -> awaiting events = [] ->
      post events () memory) : (trySetAutoAckCount count).Ends memory post := by
  intro events value memory' transcript
  by_cases big : count.setWidth 32 > targetAckCtrlNbytesMask
  · have refused : trySetAutoAckCount count memory =
        .ret (.error (.status .kInvalidArgument), memory) := by
      rw [trySetAutoAckCount, difI2cSetAutoAckCount_object, if_pos big]
      rfl
    rw [refused] at transcript
    cases (transcript_ret.mp transcript).2
  · have written : trySetAutoAckCount count memory = .write32 targetAckCtrlRegOffset
        (bitfieldField32Write 0 targetAckCtrlNbytesField (count.setWidth 32))
        (.ret (.ok (), memory)) := by
      rw [trySetAutoAckCount, difI2cSetAutoAckCount_object, if_neg big]
      rfl
    exact ends_write32 written (holds _ rfl rfl) events value memory' transcript

end Ends

/-! ## What the entries received so far amount to -/

/-- The entry that begins a command of the protocol: a write to its address. -/
abbrev arpStart : BitVec 8 × DifI2cSignal := (0xc2, kDifI2cSignalStart)

/-- A byte of a command. -/
abbrev plain (byte : BitVec 8) : BitVec 8 × DifI2cSignal := (byte, kDifI2cSignalNone)

/-- The command that is pending is one that the state is about. -/
structure Accepted (memory : Memory) : Prop where
  udid : memory.state = .kI2cStateArpCheckUdid -> memory.arpCmdPending = kArpCmdAssignAddress
  short : memory.state = .kI2cStateArpPec ->
    memory.arpCmdPending = kArpCmdPrepareToArp ∨ memory.arpCmdPending = kArpCmdResetDevice

section Commands

variable {memory : Memory}

theorem nackCommand_ends : nackCommand.Ends memory (fun events _ memory' =>
    acquired events = [] ∧ memory' = { memory with state := .kI2cStateTransactionNack }) := by
  refine ends_bind (ends_modify ?_)
  exact ends_tryNackTransaction (fun events none _ => ⟨none, rfl⟩)

theorem acceptCommand_ends (command : BitVec 8) (state : I2cState) (count : BitVec 16) :
    (acceptCommand command state count).Ends memory (fun events _ memory' =>
      acquired events = [] ∧
        memory' = { memory with arpCmdPending := command, state := state }) := by
  refine ends_bind (ends_modify ?_)
  exact ends_trySetAutoAckCount (fun events none _ => ⟨none, rfl⟩)

/-- Whatever command is dispatched is one the state it leads to is about. -/
theorem processArpCommand_ends : processArpCommand.Ends memory (fun events _ memory' =>
    acquired events = [] ∧ memory'.runningPec = memory.runningPec ∧ Accepted memory') := by
  -- A command that is refused, and one for which the target goes on to another state.
  have nacks : nackCommand.Ends memory (fun events _ memory' =>
      acquired events = [] ∧ memory'.runningPec = memory.runningPec ∧ Accepted memory') := by
    refine nackCommand_ends.imp (fun events _ memory' outcome => ?_)
    rcases outcome with ⟨none, rfl⟩
    exact ⟨none, rfl, ⟨nofun, nofun⟩⟩
  have accepts (command : BitVec 8) (state : I2cState) (count : BitVec 16)
      (accepted : Accepted { memory with arpCmdPending := command, state := state }) :
      (acceptCommand command state count).Ends memory (fun events _ memory' =>
        acquired events = [] ∧ memory'.runningPec = memory.runningPec ∧ Accepted memory') := by
    refine (acceptCommand_ends command state count).imp (fun events _ memory' outcome => ?_)
    rcases outcome with ⟨none, rfl⟩
    exact ⟨none, rfl, accepted⟩
  have getUdid : Accepted { memory with
      arpCmdPending := kArpCmdGetUdid, state := .kI2cStateArpGetUdidWait } := ⟨nofun, nofun⟩
  have reset : Accepted { memory with
      arpCmdPending := kArpCmdResetDevice, state := .kI2cStateArpPec } :=
    ⟨nofun, fun _ => .inr rfl⟩
  refine ends_bind (ends_tryGetPendingAcqByte (fun word => ?_))
  generalize (0xff &&& word).setWidth 8 = command
  refine ends_bind (ends_get ?_)
  refine ends_ite (fun prepare => ?_) (fun _ => ?_)
  · exact accepts _ _ _ ⟨nofun, fun _ => .inl (beq_iff_eq.mp prepare)⟩
  refine ends_ite (fun resets => ?_) (fun _ => ?_)
  · exact accepts _ _ _ ⟨nofun, fun _ => .inr (beq_iff_eq.mp resets)⟩
  refine ends_ite (fun _ => ?_) (fun _ => ?_)
  · exact ends_ite (fun _ => nacks) (fun _ => accepts _ _ _ ⟨nofun, nofun⟩)
  refine ends_ite (fun assign => ?_) (fun _ => ?_)
  · exact accepts _ _ _ ⟨fun _ => beq_iff_eq.mp assign, nofun⟩
  refine ends_ite (fun _ => ?_) (fun _ => ?_)
  · exact ends_ite (fun _ => accepts _ _ _ reset) (fun _ => nacks)
  refine ends_ite (fun _ => ?_) (fun _ => nacks)
  exact ends_ite (fun _ => accepts _ _ _ getUdid) (fun _ => nacks)

/-- No command at the assigned address is one of the protocol. -/
theorem processMessageCommand_ends : processMessageCommand.Ends memory (fun _ _ memory' =>
    memory'.state ≠ .kI2cStateArpCheckUdid ∧ memory'.state ≠ .kI2cStateArpPec) := by
  have nacks : nackCommand.Ends memory (fun _ _ memory' =>
      memory'.state ≠ .kI2cStateArpCheckUdid ∧ memory'.state ≠ .kI2cStateArpPec) := by
    refine nackCommand_ends.imp (fun events _ memory' outcome => ?_)
    rcases outcome with ⟨-, rfl⟩
    exact ⟨nofun, nofun⟩
  refine ends_bind (ends_tryGetPendingAcqByte (fun word => ?_))
  refine ends_bind (ends_get ?_)
  refine ends_ite (fun _ => ?_) (fun _ => nacks)
  refine ends_bind (ends_modify ?_)
  exact ends_trySetAutoAckCount (fun _ _ _ => ⟨nofun, nofun⟩)

/-- The only byte that is a write to the address of the protocol. -/
theorem eq_arpWrite {data : BitVec 8} (write : (data &&& 1 == 0) = true)
    (address : (data >>> 1 == kSmbusArpId.address) = true) : data = 0xc2 := by
  have even : data.toNat % 2 = 0 := by
    have bit : data.toNat &&& 1 = 0 := congrArg BitVec.toNat (beq_iff_eq.mp write)
    rwa [Nat.and_one_is_mod] at bit
  have half : data.toNat / 2 = 0x61 := by
    have shifted := congrArg BitVec.toNat (beq_iff_eq.mp address)
    rwa [BitVec.toNat_ushiftRight, Nat.shiftRight_eq_div_pow] at shifted
  apply BitVec.eq_of_toNat_eq
  change data.toNat = 0xc2
  omega

/-- A command has been dispatched. -/
theorem processNewCommand_ends (irqSnapshot : BitVec 32) (i2cStatus : DifI2cStatus) :
    (processNewCommand irqSnapshot i2cStatus).Ends memory (fun events _ memory' =>
      Accepted memory' ∧
      (memory'.state = .kI2cStateArpCheckUdid ∨ memory'.state = .kI2cStateArpPec ->
        acquired events = [arpStart] ∧ memory'.runningPec = 0)) := by
  refine ends_bind (ends_tryCheck (fun _ => ?_))
  refine ends_bind (ends_tryCheck (fun _ => ?_))
  refine ends_bind (ends_tryAcquireByte (fun word => ?_))
  refine ends_bind (ends_tryCheck (fun start => ?_))
  refine ends_bind (ends_modify ?_)
  refine ends_bind (ends_tryCheck (fun write => ?_))
  refine ends_bind (ends_tryCheck (fun _ => ?_))
  refine ends_bind (ends_get ?_)
  refine ends_ite (fun address => ?_) (fun _ => ?_)
  · refine processArpCommand_ends.imp (fun events _ memory' outcome => ?_)
    rcases outcome with ⟨none, pec, accepted⟩
    have entry : (abyte word, signal word) = arpStart :=
      Prod.ext (eq_arpWrite write address) (beq_iff_eq.mp start)
    refine ⟨accepted, fun _ => ⟨?_, pec⟩⟩
    change (abyte word, signal word) :: acquired events = [arpStart]
    rw [none, entry]
  · refine ends_ite (fun _ => ?_) (fun _ => ends_tryCheck nofun)
    refine processMessageCommand_ends.imp (fun events _ memory' outcome => ?_)
    rcases outcome with ⟨notUdid, notPec⟩
    exact ⟨⟨fun udid => absurd udid notUdid, fun short => absurd short notPec⟩,
      fun either => either.elim (absurd · notUdid) (absurd · notPec)⟩

/-- A byte of the error code. -/
theorem acquirePec_ends : acquirePec.Ends memory (fun events data memory' =>
    acquired events = [plain data] ∧ awaiting events = [] ∧
      memory' = { memory with runningPec := crc8Add memory.runningPec data }) := by
  refine ends_bind (ends_bind (ends_tryAcquireByte (fun word => ?_)))
  refine ends_bind (ends_tryCheck (fun none => ends_pure ?_))
  refine ends_bind (ends_modify (ends_pure ?_))
  have entry : (abyte word, signal word) = plain (abyte word) :=
    Prod.ext rfl (beq_iff_eq.mp none)
  rw [calcPec_eq]
  exact ⟨congrArg (fun entry => [entry]) entry, rfl, rfl⟩

/-- A byte that has to be a certain one, and goes into the error code. -/
theorem acquire_ends {word : BitVec 32} {expected : BitVec 8}
    (none : (signal word == kDifI2cSignalNone) = true) (same : (abyte word == expected) = true) :
    acquired [.read32 acqdataRegOffset word] = [plain expected] := by
  have entry : (abyte word, signal word) = plain expected :=
    Prod.ext (beq_iff_eq.mp same) (beq_iff_eq.mp none)
  exact congrArg (fun entry => [entry]) entry

/-- The loop has compared every byte, and added it to the error code. -/
theorem matchUdid_ends (expected : List (BitVec 8)) (udidMatch : Bool) :
    (expected.foldlM matchUdid udidMatch).Ends memory (fun events matched memory' =>
      Exists fun bytes => acquired events = bytes.map plain ∧
        matched = (udidMatch && decide (bytes = expected)) ∧
        memory' = { memory with runningPec := bytes.foldl crc8Add memory.runningPec }) := by
  induction expected generalizing udidMatch memory with
  | nil => exact ends_pure ⟨[], rfl, (Bool.and_true _).symm, rfl⟩
  | cons byte expected ih =>
      rw [List.foldlM_cons]
      refine ends_bind (ends_bind (acquirePec_ends.imp ?_))
      rintro events data memory₁ ⟨taken, -, rfl⟩
      refine ends_pure ((ih _).imp ?_)
      rintro later matched memory₂ ⟨bytes, takenLater, rfl, rfl⟩
      refine ⟨data :: bytes, ?_, ?_, rfl⟩
      · rw [acquired_append, acquired_append, taken, takenLater]
        rfl
      · have compared : (data == byte) = decide (data = byte) := rfl
        simp [Bool.and_assoc, Bool.decide_and, compared]

/-- The bytes of an Assign Address command up to the last but one of the UDID. -/
def assignHead (udid : Vector (BitVec 8) 16) : List (BitVec 8) :=
  kArpCmdAssignAddress :: 17 :: udid.toList.take 15

/-- The UDID has been compared, and all of the command so far is in the error code. -/
theorem checkReceivedUdid_ends (irqSnapshot : BitVec 32) (i2cStatus : DifI2cStatus) :
    (checkReceivedUdid irqSnapshot i2cStatus).Ends memory (fun events _ memory' =>
      memory'.state ≠ .kI2cStateArpCheckUdid ∧
      (memory'.state = .kI2cStateArpPec -> memory'.arpCmdPending = kArpCmdAssignAddress ∧
        acquired events = (assignHead memory.kSmbusUdid).map plain ∧
        memory'.runningPec = (assignHead memory.kSmbusUdid).foldl crc8Add memory.runningPec)) := by
  refine ends_bind (ends_get ?_)
  refine ends_bind (ends_tryCheck (fun assign => ?_))
  refine ends_bind (ends_tryCheck (fun _ => ?_))
  refine ends_bind (ends_tryCheck (fun _ => ?_))
  refine ends_bind (ends_tryGetAcqFifoLevel (fun looked level noneLooked _ => ?_))
  refine ends_bind (ends_tryCheck (fun _ => ?_))
  refine ends_bind (ends_tryAcquireByte (fun command => ?_))
  refine ends_bind (ends_tryCheck (fun plainCommand => ?_))
  refine ends_bind (ends_tryCheck (fun sameCommand => ?_))
  refine ends_bind (ends_modify ?_)
  refine ends_bind (ends_tryAcquireByte (fun count => ?_))
  refine ends_bind (ends_tryCheck (fun plainCount => ?_))
  refine ends_bind (ends_tryCheck (fun sameCount => ?_))
  refine ends_bind (ends_modify ?_)
  refine ends_bind ((matchUdid_ends _ _).imp ?_)
  rintro compared udidMatch memory₁ ⟨bytes, taken, rfl, rfl⟩
  refine ends_bind (ends_tryGetPendingAcqByte (fun word => ?_))
  refine ends_ite (fun matches_ => ?_) (fun _ => ?_)
  · have pending : memory.arpCmdPending = kArpCmdAssignAddress := beq_iff_eq.mp assign
    have all : bytes = memory.kSmbusUdid.toList.take 15 := by
      rw [Bool.and_eq_true, Bool.true_and, decide_eq_true_eq] at matches_
      exact matches_.1
    refine ends_bind (ends_modify (ends_trySetAutoAckCount (fun events none _ => ?_)))
    refine ⟨nofun, fun _ => ⟨pending, ?_, ?_⟩⟩
    · have first := acquire_ends plainCommand sameCommand
      have second := acquire_ends plainCount sameCount
      simp only [List.nil_append, acquired_append, noneLooked, first, second, taken, all, none,
        acquired_awaited, List.append_nil, pending]
      rfl
    · rw [calcPec_eq, calcPec_eq, all, beq_iff_eq.mp sameCommand, beq_iff_eq.mp sameCount, pending]
      rfl
  · refine nackCommand_ends.imp (fun events _ memory' outcome => ?_)
    rcases outcome with ⟨-, rfl⟩
    exact ⟨nofun, nofun⟩

/-- A command of two bytes has been received as a whole, with its error code. -/
theorem checkShortCommand_ends (irqSnapshot : BitVec 32) (i2cStatus : DifI2cStatus) :
    (checkShortCommand irqSnapshot i2cStatus).Ends memory (fun events _ memory' =>
      memory'.state = .kI2cStateIdle ∧ Exists fun pec => Exists fun byte =>
        acquired events =
          [plain memory.arpCmdPending, plain pec, (byte, kDifI2cSignalStop)] ∧
        crc8Add (crc8Add memory.runningPec memory.arpCmdPending) pec = 0) := by
  refine ends_bind (ends_tryCheck (fun _ => ?_))
  refine ends_bind (ends_tryCheck (fun _ => ?_))
  refine ends_bind (ends_tryGetAcqFifoLevel (fun looked level noneLooked _ => ?_))
  refine ends_bind (ends_tryCheck (fun _ => ?_))
  refine ends_bind (ends_tryAcquireByte (fun command => ?_))
  refine ends_bind (ends_tryCheck (fun plainCommand => ?_))
  refine ends_bind (ends_get ?_)
  refine ends_bind (ends_tryCheck (fun sameCommand => ?_))
  refine ends_bind (ends_modify ?_)
  refine ends_bind (acquirePec_ends.imp ?_)
  rintro pecRead pec memory₁ ⟨takenPec, -, rfl⟩
  refine ends_bind (ends_bind (ends_tryAcquireByte (fun stop => ?_)))
  refine ends_bind (ends_tryCheck (fun stopped => ends_pure ?_))
  refine ends_bind (ends_tryIrqAcknowledge (fun acknowledged noneAcknowledged _ => ?_))
  refine ends_bind (ends_modify ?_)
  refine ends_bind (ends_get (ends_tryCheck (fun correct => ?_)))
  refine ⟨rfl, pec, abyte stop, ?_, ?_⟩
  · have first := acquire_ends plainCommand sameCommand
    have last : acquired [.read32 acqdataRegOffset stop] = [(abyte stop, kDifI2cSignalStop)] :=
      congrArg (fun entry => [(abyte stop, entry)]) (beq_iff_eq.mp stopped)
    simp only [List.nil_append, acquired_append, noneLooked, first, takenPec, last,
      noneAcknowledged, List.append_nil]
    rfl
  · rw [beq_iff_eq] at correct
    rw [<- beq_iff_eq.mp sameCommand]
    rw [calcPec_eq] at correct
    exact correct

/-- The last byte of the UDID, the address and the error code that waits for its
acknowledgement belong together. -/
theorem checkAssignment_ends (irqSnapshot : BitVec 32) (i2cStatus : DifI2cStatus) :
    (checkAssignment irqSnapshot i2cStatus).Ends memory (fun events newAddress _ =>
      Exists fun pec => acquired events = [plain (udidLast memory.kSmbusUdid), plain newAddress] ∧
        awaiting events = [pec] ∧
        pec = crc8Add (crc8Add memory.runningPec (udidLast memory.kSmbusUdid)) newAddress) := by
  refine ends_bind (ends_tryCheck (fun _ => ?_))
  refine ends_bind (ends_tryCheck (fun _ => ?_))
  refine ends_bind (ends_tryCheck (fun _ => ?_))
  refine ends_bind (ends_tryGetAcqFifoLevel (fun looked level noneLooked noneAwaiting => ?_))
  refine ends_bind (ends_tryCheck (fun _ => ?_))
  refine ends_bind (ends_tryAcquireByte (fun last => ?_))
  refine ends_bind (ends_tryCheck (fun plainLast => ?_))
  refine ends_bind (ends_get ?_)
  refine ends_bind (ends_tryCheck (fun sameLast => ?_))
  refine ends_bind (ends_modify ?_)
  refine ends_bind (acquirePec_ends.imp ?_)
  rintro addressRead newAddress memory₁ ⟨takenAddress, noneRead, rfl⟩
  refine ends_bind (ends_tryGetPendingAcqByte (fun word => ?_))
  refine ends_bind (ends_get ?_)
  refine ends_bind (ends_tryCheck (fun correct => ends_pure ?_))
  refine ⟨_, ?_, ?_, (beq_iff_eq.mp correct).symm.trans ?_⟩
  · have first := acquire_ends plainLast sameLast
    simp only [List.nil_append, acquired_append, noneLooked, first, takenAddress,
      acquired_awaited, List.append_nil]
    rfl
  · simp only [List.nil_append, awaiting_append, noneAwaiting, noneRead, List.append_nil]
    rfl
  · rw [udidLast, <- beq_iff_eq.mp sameLast, <- calcPec_eq memory.runningPec]

/-- The variables after an address has been assigned. -/
def Memory.assigned (memory : Memory) (newAddress : BitVec 8) : Memory :=
  { memory with
    i2cId.address := newAddress >>> 1
    arpAr := true
    arpAv := true
    state := .kI2cStateAssignAddressComplete }

/-- Nothing can go wrong any more once the address has changed. -/
theorem commitAddress_transcript {newAddress : BitVec 8} {events : List Event}
    {out : Except Failure Unit × Memory}
    (transcript : Transcript (commitAddress newAddress memory) events out) :
    out = (.ok (), memory.assigned newAddress) ∧ acquired events = [] ∧ awaiting events = [] ∧
      forall history, targetId (history ++ events) =
        targetIdWord (some kSmbusArpId) (some (memory.assigned newAddress).i2cId) := by
  rcases transcript_write32.mp transcript with ⟨rest, rfl, acknowledges⟩
  rcases transcript_write32.mp acknowledges with ⟨none, rfl, returned⟩
  rcases transcript_ret.mp returned with ⟨rfl, same⟩
  refine ⟨same, rfl, rfl, fun history => ?_⟩
  rw [targetId, List.foldl_append]
  rfl

end Commands

end SmbusArp
end SunburstChip
