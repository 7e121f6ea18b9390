import SunburstChip.Dif.I2cBusStates
import SunburstChip.Dif.I2cFmtFifo
import SunburstChip.Testing.I2cTestutils

namespace SunburstChip
namespace I2c

open Mmio

/-!
# Requests of a read

`i2c_testutils_issue_read` sends an address, waits until nothing moves on the bus any
more, and requests a read if there was no NAK.  The bytes of the read are taken from
the RX FIFO as they arrive.
-/

variable {τ : Type} {schedule : Schedule Moves} {requests : List (BitVec 8 × Nat)}
  {sent taken : List (BitVec 8)} {address : BitVec 8} {length : Nat}

/-! ## Bytes that arrive -/

theorem rxempty_status (host : Host) :
    bitfieldBit32Read host.status statusRxemptyBit = host.rx.isEmpty := by
  unfold Host.status
  rw [bitfieldBit32Read_write_same (by decide)]

theorem fmtempty_status (host : Host) :
    bitfieldBit32Read host.status statusFmtemptyBit = host.fmt.isEmpty := by
  unfold Host.status
  rw [bitfieldBit32Read_write_other (by decide), bitfieldBit32Read_write_same (by decide)]

theorem controllerHalt_intrState (host : Host) :
    bitfieldBit32Read host.intrState DifI2cIrq.kDifI2cIrqControllerHalt.index =
      (host.events != 0) := by
  unfold Host.intrState
  rw [bitfieldBit32Read_write_same (by decide)]

/-- The byte in a value of `RDATA`. -/
def rdataByte (values : BitVec 32) : BitVec 8 :=
  (bitfieldField32Read values rdataRdataField).setWidth 8

theorem rdataByte_setWidth (byte : BitVec 8) : rdataByte (byte.setWidth 32) = byte := by
  have all : forall byte : BitVec 8, rdataByte (byte.setWidth 32) = byte := by decide
  exact all byte

theorem readBytes_succ (size : Nat) :
    readBytes (size + 1) =
      .poll32 statusRegOffset (fun reg => bitfieldBit32Read reg statusRxemptyBit != true)
        (fun _ => .read32 rdataRegOffset (fun values =>
          readBytes size >>= fun bytes => .ret (rdataByte values :: bytes))) :=
  rfl

/-- The wait is over once there is a byte in the RX FIFO. -/
theorem rxempty_passes (host : Host) :
    (bitfieldBit32Read host.status statusRxemptyBit != true) = true ↔ host.rx ≠ [] := by
  rw [rxempty_status, bne_iff_ne, Ne, List.isEmpty_iff]

theorem halt_reported (host : Host) :
    bitfieldBit32Read host.intrState DifI2cIrq.kDifI2cIrqControllerHalt.index = true ↔
      host.events ≠ 0 := by
  rw [controllerHalt_intrState, bne_iff_ne]

theorem fmt_waits (host : Host) :
    (!bitfieldBit32Read host.status statusFmtemptyBit) = true ↔ host.fmt ≠ [] := by
  rw [fmtempty_status, Bool.not_eq_true', Bool.eq_false_iff, Ne, Ne, List.isEmpty_iff]

/-- What has arrived stays. -/
theorem stable_arrived : Stable Moves (fun bus => bus.host.rx ≠ []) := by
  intro bus bus' move arrived
  cases move with
  | ack | nack | request | release => exact arrived
  | receive byte owing =>
      unfold Host.receive
      split
      · exact List.append_ne_nil_of_right_ne_nil _ (List.cons_ne_nil _ _)
      · exact arrived

/-- The bytes of a read are taken in the order in which they are sent. -/
theorem comes_readBytes (balanced : Balanced requests sent) (fits : length <= paramFifoDepth.toNat)
    (size : Nat) (rest : taken.length + size = length) :
    Comes busDevice schedule (Reading address length requests sent taken) (fun _ => readBytes size)
      (fun bytes bus => bytes.length = size ∧
        Reading address length requests sent (taken ++ bytes) bus) := by
  induction size generalizing taken with
  | zero =>
      refine Comes.ret (fun bus reading => ⟨rfl, ?_⟩)
      rw [List.append_nil]
      exact reading
  | succ size ih =>
      have stable : Stable Moves (Reading address length requests sent taken) :=
        Reading.stable balanced fits
      simp only [readBytes_succ]
      refine Comes.poll32 moves_wellFounded
        (fun _ bus => Reading address length requests sent taken bus ∧ bus.host.rx ≠ []) stable
        (fun _ _ => rfl) ?_ ?_ (fun _ => ?_)
      · intro bus reading settled
        have arrived := reading.arrived balanced (by omega) settled
        exact (rxempty_passes bus.host).mpr arrived
      · intro bus reading passed
        exact ⟨reading, (rxempty_passes bus.host).mp passed⟩
      · refine Comes.read32
          (fun values => Reading address length requests sent (taken ++ [rdataByte values])) ?_ ?_
          (fun values => ?_)
        · exact fun bus bus' move holds =>
            ⟨stable _ _ move holds.1, stable_arrived _ _ move holds.2⟩
        · rintro bus ⟨reading, arrived⟩
          rcases List.exists_cons_of_ne_nil arrived with ⟨byte, rest, oldest⟩
          have value : (busDevice.read32 rdataRegOffset bus).1 = byte.setWidth 32 := by
            change (bus.host.rx.headD 0).setWidth 32 = _
            rw [oldest]
            rfl
          have left : (busDevice.read32 rdataRegOffset bus).2 =
              { bus with host := { bus.host with rx := rest } } := by
            change { bus with host := { bus.host with rx := bus.host.rx.tail } } = _
            rw [oldest]
            rfl
          rw [value, left, rdataByte_setWidth]
          exact .inr (reading.take oldest)
        · refine Comes.bind _ (ih ?_) (fun bytes => ?_)
          · rw [List.length_append, List.length_singleton]
            omega
          · refine Comes.ret (fun bus holds => ⟨congrArg (· + 1) holds.1, ?_⟩)
            rw [List.append_cons]
            exact holds.2

/-! ## Waiting until nothing moves -/

theorem waitRound_eq (state : τ) :
    waitRound .object state = .read32 intrStateRegOffset (fun intrState =>
      if bitfieldBit32Read intrState DifI2cIrq.kDifI2cIrqControllerHalt.index then
        .ret (.ok (.inr 1), state)
      else .read32 ctrlRegOffset (fun _ => .read32 statusRegOffset (fun reg =>
        if !bitfieldBit32Read reg statusFmtemptyBit then .ret (.ok (.inl ()), state)
        else .ret (.ok (.inr 0), state)))) := by
  refine congrArg (Mmio.read32 intrStateRegOffset) (funext fun intrState => ?_)
  change (ite (bitfieldBit32Read intrState _ = true) _ _ : Code τ (Option Failure) _) state = _
  rw [Code.ite_apply]
  refine if_congr Iff.rfl rfl (congrArg (Mmio.read32 ctrlRegOffset) (funext fun _ => ?_))
  refine congrArg (Mmio.read32 statusRegOffset) (funext fun reg => ?_)
  change (ite ((!bitfieldBit32Read reg _) = true) _ _ : Code τ (Option Failure) _) state = _
  rw [Code.ite_apply]
  rfl

/-- A round finds that nothing moves, or something could move before. -/
theorem watches_waitRound {pre : Bus -> Prop} (stable : Stable Moves pre)
    (calm : forall bus, pre bus -> Exists fun events => Exists fun rx => Exists fun requests =>
      Exists fun sent => Calm events rx requests sent bus) (state : τ) (t : Nat) (bus : Bus)
    (holds : pre bus) :
    Code.Watches busDevice schedule (waitRound .object) () state
      (fun _ bus => pre bus ∧ Settled Moves bus) t bus := by
  have still (k : Nat) : pre (drift schedule.tick t bus k) := stable.drift schedule t holds k
  have settled (k : Nat) (rest : (drift schedule.tick t bus k).host.fmt = [] ∨
      (drift schedule.tick t bus k).host.events ≠ 0) :
      Settled Moves (drift schedule.tick t bus k) := by
    rcases calm _ (still k) with ⟨events, rx, requests, sent, calm⟩
    exact calm.settled_iff.mpr rest
  by_cases halted : (drift schedule.tick t bus 1).host.events ≠ 0
  · refine ⟨1, .inl ⟨1, ⟨still 1, settled 1 (.inr halted)⟩, fun fuel => ?_⟩⟩
    rw [waitRound_eq, runScheduled]
    exact congrArg (Mmio.runScheduled _ _ _ · _ _) (if_pos ((halt_reported _).mpr halted))
  · by_cases empty : (drift schedule.tick t bus 3).host.fmt = []
    · refine ⟨3, .inl ⟨0, ⟨still 3, settled 3 (.inl empty)⟩, fun fuel => ?_⟩⟩
      rw [waitRound_eq, runScheduled]
      refine (congrArg (Mmio.runScheduled _ _ _ · _ _)
        (if_neg (fun reported => halted ((halt_reported _).mp reported)))).trans ?_
      exact congrArg (Mmio.runScheduled _ _ _ · _ _) 
        (if_neg (fun waiting => (fmt_waits _).mp waiting empty))
    · refine ⟨3, .inr ⟨by decide, fun rest => ?_, fun fuel => ?_⟩⟩
      · have same (k : Nat) : drift schedule.tick t bus k = bus := rest.drift schedule t k
        rcases calm _ holds with ⟨events, rx, requests, sent, calm⟩
        rw [same] at halted empty
        exact (calm.settled_iff.mp rest).elim empty halted
      · rw [waitRound_eq, runScheduled]
        refine (congrArg (Mmio.runScheduled _ _ _ · _ _)
          (if_neg (fun reported => halted ((halt_reported _).mp reported)))).trans ?_
        exact congrArg (Mmio.runScheduled _ _ _ · _ _) (if_pos ((fmt_waits _).mpr empty))

/-- `i2c_testutils_wait_transaction_finish` waits until nothing moves any more. -/
theorem comes_wait {pre : Bus -> Prop} (stable : Stable Moves pre)
    (calm : forall bus, pre bus -> Exists fun events => Exists fun rx => Exists fun requests =>
      Exists fun sent => Calm events rx requests sent bus) (state : τ) :
    Comes busDevice schedule pre
      (fun fuel => i2cTestutilsWaitTransactionFinish fuel .object state)
      (fun out bus => Exists fun value => out = (.ok value, state) ∧
        (pre bus ∧ Settled Moves bus)) :=
  Code.comes_rounds_settled moves_wellFounded stable (watches_waitRound stable calm state)

/-! ## Requests -/

/-- An entry is pushed where there is room for it. -/
theorem comes_push {pre post : Bus -> Prop} {byte : BitVec 8} {flags : DifI2cFmtFlags}
    (agree : (parseFlags flags 0).1 = .kDifOk) (stable : Stable Moves pre)
    (pushed : forall bus, pre bus -> bus.host.HasRoom ∧
      post { bus with host := { bus.host with fmt := bus.host.fmt ++ [⟨byte, flags⟩] } }) :
    Comes busDevice schedule pre (fun _ => difI2cWriteByteRaw .object byte flags)
      (fun result bus => result = .kDifOk ∧ post bus) := by
  rcases difI2cWriteByteRaw_accepted byte agree with ⟨word, entry, program⟩
  rw [program]
  refine Comes.write32 post stable (fun bus holds => ?_) (Comes.ret (fun bus holds => ⟨rfl, holds⟩))
  have room : bus.host.push (.ofWord word) =
      { bus.host with fmt := bus.host.fmt ++ [⟨byte, flags⟩] } := by
    rw [entry]
    exact if_pos (pushed bus holds).1
  change post { bus with host := bus.host.push (.ofWord word) }
  rw [room]
  exact (pushed bus holds).2

/-- A target that has been addressed: it has not acknowledged, and all is as before,
or a read has been requested from it. -/
def Issued (address : BitVec 8) (length : Nat) (requests : List (BitVec 8 × Nat))
    (sent : List (BitVec 8)) (nack : Bool) (bus : Bus) : Prop :=
  bif nack then Calm 0 [] requests sent bus ∧ bus.host.HasRoom
  else Unbegun address length requests sent bus

/-- The events in a value of `CONTROLLER_EVENTS`. -/
def haltEventsOf (reg : BitVec 32) : DifI2cControllerHaltEvents where
  nackReceived := bitfieldBit32Read reg controllerEventsNackBit
  unhandledNackTimeout := bitfieldBit32Read reg controllerEventsUnhandledNackTimeoutBit
  busTimeout := bitfieldBit32Read reg controllerEventsBusTimeoutBit
  arbitrationLost := bitfieldBit32Read reg controllerEventsArbitrationLostBit

/-- The halt events of a controller that has received a NAK. -/
abbrev nackEvents : DifI2cControllerHaltEvents := ⟨true, false, false, false⟩

theorem recoverFromNack_eq (state : τ) :
    recoverFromNack .object nackEvents state =
      .read32 fifoCtrlRegOffset (fun reg =>
        .write32 fifoCtrlRegOffset (bitfieldBit32Write reg fifoCtrlFmtrstBit true)
          (.write32 controllerEventsRegOffset 1 (.read32 ctrlRegOffset (fun reg =>
            .write32 ctrlRegOffset (bitfieldBit32Write reg ctrlEnablehostBit false)
              (.read32 ctrlRegOffset (fun reg =>
                .write32 ctrlRegOffset (bitfieldBit32Write reg ctrlEnablehostBit true)
                  (.ret (.ok (), state)))))))) :=
  rfl

theorem resetFmt (bus : Bus) :
    busDevice.write32 fifoCtrlRegOffset (bitfieldBit32Write 0 fifoCtrlFmtrstBit true) bus =
      { bus with host := { bus.host with fmt := [] } } := by
  change { bus with host := bus.host.resetFifos _ } = _
  unfold Host.resetFifos
  rw [if_pos (by decide), if_neg (by decide)]

/-- Where a NAK has been received, nothing is left of it with an empty FMT FIFO, the
event cleared and the controller enabled. -/
theorem restarted {bus : Bus} (calm : Calm 0 [] requests sent bus) (halted : bus.host.events = 1)
    {ctrl : BitVec 32} (enabled : bitfieldBit32Read ctrl ctrlEnablehostBit = true) :
    Issued address length requests sent true { bus with host := { bus.host with
      fmt := [], events := bus.host.events &&& ~~~1, ctrl := ctrl } } := by
  have stopped : bus.host.events ≠ 0 := by
    rw [halted]
    decide
  have cleared : bus.host.events &&& ~~~1 = 0 := by
    rw [halted]
    decide
  have free := calm.halted stopped
  refine ⟨{ calm with
    enabled := enabled, events := .inl cleared, writes := ?_, begun := ?_, halted := ?_ }, ?_⟩
  · change forall entry, entry ∈ (bif bus.busy then [] else []) -> _
    rw [free]
    exact fun _ never => absurd never List.not_mem_nil
  · exact fun busy => absurd (free.symm.trans busy) Bool.false_ne_true
  · exact fun _ => free
  · exact Nat.succ_pos _

/-- After a NAK, the FMT FIFO is emptied and the controller started again. -/
theorem comes_recoverFromNack {bus : Bus} (calm : Calm 0 [] requests sent bus)
    (halted : bus.host.events = 1) (state : τ) :
    Comes busDevice schedule (fun bus' => bus' = bus)
      (fun _ => recoverFromNack .object nackEvents state)
      (fun out bus' => Exists fun value => out = (.ok value, state) ∧
        Issued address length requests sent true bus') := by
  have stopped : bus.host.events ≠ 0 := by
    rw [halted]
    decide
  have free := calm.halted stopped
  have served := calm.served
  simp only [recoverFromNack_eq]
  refine Comes.read32_settled (settled_of_free free served (.inr stopped)) ?_
  refine Comes.write32_settled (settled_of_free free served (.inr stopped)) ?_
  change Comes _ _ (fun bus' => bus' = busDevice.write32 fifoCtrlRegOffset
    (bitfieldBit32Write 0 fifoCtrlFmtrstBit true) bus) _ _
  rw [resetFmt]
  -- From here on there is no entry to take.
  refine Comes.write32_settled (settled_of_free free served (.inl rfl)) ?_
  refine Comes.read32_settled (settled_of_free free served (.inl rfl)) ?_
  refine Comes.write32_settled (settled_of_free free served (.inl rfl)) ?_
  refine Comes.read32_settled (settled_of_free free served (.inl rfl)) ?_
  refine Comes.write32_settled (settled_of_free free served (.inl rfl)) ?_
  refine Comes.ret ?_
  rintro bus' rfl
  exact ⟨(), rfl, restarted calm halted (bitfieldBit32Read_write_same (by decide) _ true)⟩

/-- The events that have halted the controller, where nothing moves. -/
theorem comes_haltEvents {bus : Bus} (settled : Settled Moves bus) {reg : BitVec 32}
    (shown : bus.host.events = reg) :
    Comes busDevice schedule (fun bus' => bus' = bus)
      (fun _ => difI2cGetControllerHaltEvents .object)
      (fun out bus' => out = (.kDifOk, some (haltEventsOf reg)) ∧ bus' = bus) := by
  refine Comes.read32_settled settled (Comes.ret ?_)
  rintro bus' rfl
  exact ⟨congrArg (fun reg => (DifResult.kDifOk, some (haltEventsOf reg))) shown, rfl⟩

/-- The entry that requests a read. -/
def requestEntry (byteCount : BitVec 8) : Entry :=
  ⟨byteCount, { kDefaultFlags with read := true, stop := true }⟩

/-- What follows the address: a read is requested, or the host recovers from a NAK. -/
theorem comes_requestOrRecover (byteCount : BitVec 8) (state : τ) :
    Comes busDevice schedule
      (fun bus => (Calm 0 [] requests sent bus ∧ Addresses address bus) ∧ Settled Moves bus)
      (fun _ => requestOrRecover .object byteCount state)
      (fun out bus => Exists fun nack => out = (.ok nack, state) ∧
        Issued address (readLength byteCount) requests sent nack bus) := by
  refine Comes.pointwise ?_
  rintro bus ⟨⟨calm, addresses⟩, settled⟩
  rcases calm.events with running | ⟨-, halted⟩
  · have empty := (calm.settled_iff.mp settled).resolve_right (fun halted => halted running)
    have free : bus.busy = false := Bool.eq_false_iff.mpr (fun busy => calm.begun busy empty)
    refine Code.comes_lift_ok (fun bus' => bus' = bus)
      (comes_haltEvents settled running) ?_
    refine Code.comes_lift_ok (Unbegun address (readLength byteCount) requests sent)
      (comes_push rfl settled.stable ?_) (Comes.ret (fun bus' unbegun => ⟨false, rfl, unbegun⟩))
    rintro bus' rfl
    constructor
    · unfold Host.HasRoom
      rw [empty]
      decide
    · have queue := (Bus.queue_free free).trans empty
      have alone : bus'.host.fmt ++ [requestEntry byteCount] = [requestEntry byteCount] :=
        congrArg (· ++ _) empty
      exact ⟨⟨calm.enabled, running, free, calm.served⟩, ⟨_, alone, rfl, rfl⟩, calm.rx,
        (addresses running).1 queue, calm.requests, calm.sent⟩
  · refine Code.comes_lift_ok (fun bus' => bus' = bus)
      (comes_haltEvents settled halted) ?_
    change Comes _ _ _
      (fun _ => (recoverFromNack .object nackEvents >>= fun _ => pure true) state) _
    exact Code.comes_bind_same _ (comes_recoverFromNack calm halted state)
      (fun _ => Comes.ret (fun bus' recovered => ⟨true, rfl, recovered⟩))

/-- A target is addressed, and if it acknowledges, a read is requested. -/
theorem comes_issueRead (addr byteCount : BitVec 8) (state : τ) :
    Comes busDevice schedule
      (fun bus => Calm 0 [] requests sent bus ∧ bus.host.HasRoom)
      (fun fuel => i2cTestutilsIssueRead fuel .object addr byteCount state)
      (fun out bus => Exists fun nack => out = (.ok nack, state) ∧
        Issued (addr <<< 1 ||| kI2cRead) (readLength byteCount) requests sent nack bus) := by
  refine Code.comes_lift_ok
    (fun bus => Calm 0 [] requests sent bus ∧ Addresses (addr <<< 1 ||| kI2cRead) bus)
    (comes_push rfl ?_ (fun bus holds => ⟨holds.2, holds.1.push rfl rfl⟩)) ?_
  · exact fun bus bus' move holds =>
      ⟨Calm.stable _ _ move holds.1, stable_hasRoom _ _ move holds.2⟩
  · change Comes _ _ _ (fun fuel => (i2cTestutilsWaitTransactionFinish fuel .object >>=
      fun _ => requestOrRecover .object byteCount) state) _
    exact Code.comes_bind_same _
      (comes_wait stable_addresses (fun bus holds => ⟨_, _, _, _, holds.1⟩) state)
      (fun _ => comes_requestOrRecover byteCount state)

/-! ## Addressing a target again -/

/-- The time is over at some reading of the cycle counter. -/
def Clock.Expires (clock : Clock) (timeout : BitVec 32) : Prop :=
  Exists fun last => clock.cycles timeout < clock.mcycle last - clock.mcycle 0

/-- The time was over when the cycle counter was read last. -/
def Clock.Expired (clock : Clock) (timeout : BitVec 32) (state : ReadState) : Prop :=
  clock.cycles timeout < clock.mcycle (state.readings - 1) - clock.mcycle 0

/-- The timer that has been started with the first reading. -/
abbrev Clock.timer (clock : Clock) (timeout : BitVec 32) : IbexTimeout :=
  ⟨clock.cycles timeout, clock.mcycle 0⟩

variable {clock : Clock} {timeout : BitVec 32} {last : Nat} {stores : List (Nat × BitVec 8)}

/-- A target has acknowledged and a read is requested from it, or the time is over. -/
def Acknowledged (clock : Clock) (timeout : BitVec 32) (last : Nat)
    (stores : List (Nat × BitVec 8)) (address : BitVec 8) (length : Nat)
    (requests : List (BitVec 8 × Nat)) (sent : List (BitVec 8)) :
    Except (Option Failure) (BitVec 32) × ReadState -> Bus -> Prop
  | (.ok _, state), bus =>
      (state.stores = stores ∧ state.readings <= last) ∧ Unbegun address length requests sent bus
  | (.error reason, state), bus => reason = some (.status .kDeadlineExceeded) ∧
      clock.Expired timeout state ∧ state.stores = stores ∧ Calm 0 [] requests sent bus

/-- A check of the time reads the cycle counter once more. -/
theorem ibexTimeoutCheck_bind {α : Type} (timer : IbexTimeout)
    (next : Bool -> Code ReadState (Option Failure) α) (state : ReadState) :
    (ibexTimeoutCheck clock timer >>= next) state =
      next (decide (clock.mcycle state.readings - timer.start > timer.cycles))
        { state with readings := state.readings + 1 } :=
  rfl

/-- A NAK makes the time that is left shorter. -/
theorem comes_nakRounds (expires : clock.cycles timeout < clock.mcycle last - clock.mcycle 0)
    (addr chunk : BitVec 8) (nakCount : BitVec 32) (state : ReadState) :
    Comes busDevice schedule
      (fun bus => (state.stores = stores ∧ state.readings <= last) ∧
        (Calm 0 [] requests sent bus ∧ bus.host.HasRoom))
      (fun fuel => Code.rounds none
        (nakRound fuel clock .object addr chunk (clock.timer timeout)) fuel nakCount state)
      (Acknowledged clock timeout last stores (addr <<< 1 ||| kI2cRead) (readLength chunk) requests
        sent) := by
  refine Code.comes_rounds (fun _ state => last - state.readings) (fun _ state bus =>
    (state.stores = stores ∧ state.readings <= last) ∧
      (Calm 0 [] requests sent bus ∧ bus.host.HasRoom)) (fun nakCount state => ?_) nakCount state
  refine Comes.assume (fun before => ?_)
  refine Code.comes_bind_same _ (comes_issueRead addr chunk state) (fun nack => ?_)
  cases nack with
  | false => exact Comes.ret (fun bus unbegun => ⟨before, unbegun⟩)
  | true =>
      change Comes _ _ _ (fun _ => (ibexTimeoutCheck clock (clock.timer timeout) >>= _) _) _
      simp only [ibexTimeoutCheck_bind]
      by_cases expired : clock.mcycle state.readings - clock.mcycle 0 > clock.cycles timeout
      · rw [decide_eq_true expired]
        exact Comes.ret (fun bus issued => ⟨rfl, expired, before.1, issued.1⟩)
      · rw [decide_eq_false expired]
        have earlier : state.readings ≠ last := fun same => expired (same ▸ expires)
        have fewer : state.readings < last := Nat.lt_of_le_of_ne before.2 earlier
        exact Comes.ret (fun bus issued =>
          ⟨⟨⟨before.1, fewer⟩, issued⟩, Nat.sub_lt_sub_left fewer (Nat.lt_succ_self _)⟩)

end I2c
end SunburstChip
