import SunburstChip.Testing.I2cTestutilsIssueRead

namespace SunburstChip
namespace I2c

open Mmio

/-!
# Reads from a target

`i2c_testutils_read` cuts a read into chunks that fit into the RX FIFO.  For each
it addresses the target until there is no NAK or the time is over, requests the
chunk, and takes its bytes.  So before each chunk the bytes requested are those sent
by the target and those stored.

A read of no bytes is a chunk too.  Nothing is taken then, but the request of a
read of no bytes is one for 256.
-/

variable {schedule : Schedule Moves} {requests : List (BitVec 8 × Nat)} {sent : List (BitVec 8)}
  {address : BitVec 8} {length : Nat} {clock : Clock} {timeout : BitVec 32} {last : Nat}

/-! ## Chunks -/

/-- What has been read before a chunk, and what is left to read. -/
structure Progress (address : BitVec 8) (total last : Nat) (start : Chunks) (state : ReadState)
    (requests : List (BitVec 8 × Nat)) (sent : List (BitVec 8)) : Prop where
  data : start.data = sent.length
  rest : sent.length + start.byteCount.toNat = total
  balanced : Balanced requests sent
  addressed : forall request, request ∈ requests -> request.1 = address
  stores : state.stores = sent.mapIdx (fun i byte => (i, byte))
  readings : state.readings <= last

variable {total : Nat} {start : Chunks} {state : ReadState}

theorem positive_iff {w : Nat} (count : BitVec w) : count > 0 ↔ count ≠ 0 := by
  change (0#w).toNat < count.toNat ↔ ¬ count = 0#w
  rw [<- BitVec.toNat_inj, BitVec.toNat_zero, Nat.pos_iff_ne_zero]

theorem chunkOf_toNat (byteCount : BitVec 32) :
    (chunkOf byteCount).toNat = min byteCount.toNat paramFifoDepth.toNat := by
  have depth : paramFifoDepth.toNat = 64 := rfl
  have chunk : chunkOf byteCount = (if byteCount < 64 then byteCount else 64).setWidth 8 := rfl
  rw [chunk, depth]
  split
  · next less =>
      have small : byteCount.toNat < 64 := less
      rw [BitVec.toNat_setWidth, Nat.mod_eq_of_lt (by omega)]
      omega
  · next more =>
      have large : ¬ byteCount.toNat < 64 := more
      rw [Nat.min_eq_right (by omega)]
      rfl

/-- The progress with another chunk. -/
theorem Progress.step (progress : Progress address total last start state requests sent)
    {chunk : BitVec 8} (inside : chunk.toNat <= start.byteCount.toNat) {bytes : List (BitVec 8)}
    (all : bytes.length = chunk.toNat) (nakCount : BitVec 32) {state' : ReadState}
    (stores : state'.stores = state.stores) (readings : state'.readings <= last) :
    Progress address total last
      ⟨start.data + chunk.toNat, start.byteCount - chunk.setWidth 32, nakCount⟩
      { state' with stores :=
          state'.stores ++ bytes.mapIdx (fun i byte => (start.data + i, byte)) }
      (requests ++ [(address, chunk.toNat)]) (sent ++ bytes) := by
  have rest := progress.rest
  have widened : (chunk.setWidth 32).toNat = chunk.toNat :=
    BitVec.toNat_setWidth_of_le (by decide)
  have left : (start.byteCount - chunk.setWidth 32).toNat =
      start.byteCount.toNat - chunk.toNat := by
    rw [BitVec.toNat_sub_of_le (by rw [BitVec.le_def, widened]; exact inside), widened]
  refine ⟨?_, ?_, ?_, ?_, ?_, readings⟩
  · rw [List.length_append, all, progress.data]
  · change (sent ++ bytes).length + (start.byteCount - chunk.setWidth 32).toNat = total
    rw [List.length_append, left, all]
    omega
  · unfold Balanced
    rw [List.map_append, List.sum_append, progress.balanced, List.length_append, all]
    rfl
  · intro request among
    rcases List.mem_append.mp among with before | new
    · exact progress.addressed request before
    · rw [List.mem_singleton.mp new]
  · change state'.stores ++ _ = _
    rw [stores, progress.stores, progress.data, List.mapIdx_append]
    simp only [Nat.add_comm]

/-- Between two chunks nothing goes on. -/
def BetweenChunks (address : BitVec 8) (total last : Nat) (start : Chunks) (state : ReadState)
    (bus : Bus) : Prop :=
  Exists fun requests => Exists fun sent =>
    Progress address total last start state requests sent ∧
      (Calm 0 [] requests sent bus ∧ bus.host.HasRoom)

/-- The loop over the chunks ends with all that has been asked for, or early when the
time is over. -/
def ChunksRead (clock : Clock) (timeout : BitVec 32) (address : BitVec 8) (total last : Nat) :
    Except (Option Failure) (BitVec 32) × ReadState -> Bus -> Prop
  | (.ok _, state), bus => Exists fun start => start.byteCount = 0 ∧
      BetweenChunks address total last start state bus
  | (.error reason, state), bus => reason = some (.status .kDeadlineExceeded) ∧
      clock.Expired timeout state ∧ Exists fun start => start.byteCount ≠ 0 ∧
        Exists fun requests => Exists fun sent => Exists fun state' =>
          state'.stores = state.stores ∧
          Progress address total last start state' requests sent ∧ Calm 0 [] requests sent bus

/-- The bytes of a chunk. -/
theorem comes_difI2cReadBytes (balanced : Balanced requests sent)
    (fits : length <= paramFifoDepth.toNat) :
    Comes busDevice schedule (Unbegun address length requests sent)
      (fun _ => difI2cReadBytes .object length .object)
      (fun out bus => out.1 = .kDifOk ∧ out.2.length = length ∧
        Reading address length requests sent out.2 bus) := by
  have bytes : Comes busDevice schedule (Reading address length requests sent [])
      (fun _ => readBytes length) (fun bytes bus => bytes.length = length ∧
        Reading address length requests sent ([] ++ bytes) bus) :=
    comes_readBytes balanced fits length (Nat.zero_add length)
  refine (Comes.bind _ bytes (fun bytes => ?_)).consequence
    (fun bus unbegun => .inl ⟨rfl, unbegun⟩) (fun _ _ met => met)
  exact Comes.ret (fun bus holds => ⟨rfl, holds⟩)

/-- The next chunk, or the end. -/
theorem comes_nextChunk (chunk : BitVec 8) (positive : 0 < chunk.toNat)
    (inside : chunk.toNat <= start.byteCount.toNat) (next : Chunks) (state' : ReadState)
    (moved : next.byteCount = start.byteCount - chunk.setWidth 32) :
    Comes busDevice schedule (BetweenChunks address total last next state')
      (fun _ => nextChunk next state')
      (Code.RoundEnds (fun next state bus => (next.byteCount ≠ 0 ∧
          BetweenChunks address total last next state bus) ∧
            next.byteCount.toNat < start.byteCount.toNat)
        (ChunksRead clock timeout address total last)) := by
  have widened : (chunk.setWidth 32).toNat = chunk.toNat :=
    BitVec.toNat_setWidth_of_le (by decide)
  have left : next.byteCount.toNat = start.byteCount.toNat - chunk.toNat := by
    rw [moved, BitVec.toNat_sub_of_le (by rw [BitVec.le_def, widened]; exact inside), widened]
  unfold nextChunk
  simp only [Code.ite_apply]
  by_cases more : next.byteCount > 0
  · rw [if_pos more]
    have some : next.byteCount ≠ 0 := (positive_iff _).mp more
    exact Comes.ret (fun bus between => ⟨⟨some, between⟩, by omega⟩)
  · rw [if_neg more]
    have none : next.byteCount = 0 := Classical.not_not.mp (mt (positive_iff _).mpr more)
    exact Comes.ret (fun bus between => ⟨next, none, between⟩)

/-- One chunk is read after the other. -/
theorem comes_chunkRounds (expires : clock.cycles timeout < clock.mcycle last - clock.mcycle 0)
    (addr : BitVec 8) (start : Chunks) (state : ReadState) :
    Comes busDevice schedule
      (fun bus => start.byteCount ≠ 0 ∧
        BetweenChunks (addr <<< 1 ||| kI2cRead) total last start state bus)
      (fun fuel => Code.rounds none
        (chunkRound fuel clock .object addr .object (clock.timer timeout)) fuel start state)
      (ChunksRead clock timeout (addr <<< 1 ||| kI2cRead) total last) := by
  refine Code.comes_rounds (fun (start : Chunks) _ => start.byteCount.toNat)
    (fun start state bus => start.byteCount ≠ 0 ∧
      BetweenChunks (addr <<< 1 ||| kI2cRead) total last start state bus)
    (fun start state => ?_) start state
  refine Comes.assume (fun some => ?_)
  refine Comes.of_exists (fun requests => Comes.of_exists (fun sent => Comes.assume ?_))
  intro progress
  have size := chunkOf_toNat start.byteCount
  have depth : paramFifoDepth.toNat = 64 := rfl
  have positive : 0 < (chunkOf start.byteCount).toNat := by
    have more : 0 < start.byteCount.toNat := (positive_iff _).mpr some
    omega
  have inside : (chunkOf start.byteCount).toNat <= start.byteCount.toNat := by omega
  have asks : readLength (chunkOf start.byteCount) = (chunkOf start.byteCount).toNat :=
    if_neg ((positive_iff _).mp positive)
  have fits : (chunkOf start.byteCount).toNat <= paramFifoDepth.toNat := by omega
  refine Code.comes_bind (fun _ state' bus =>
    (state'.stores = state.stores ∧ state'.readings <= last) ∧
      Unbegun (addr <<< 1 ||| kI2cRead) (chunkOf start.byteCount).toNat requests sent bus) ?_
    (fun nakCount state' => ?_)
  · refine (comes_nakRounds expires addr _ start.nakCount state).consequence
      (fun bus holds => ⟨⟨rfl, progress.readings⟩, holds⟩) ?_
    rintro ⟨reason | nakCount, state'⟩ bus met
    · rcases met with ⟨late, expired, stores, calm⟩
      exact ⟨late, expired, start, some, requests, sent, state, stores.symm, progress, calm⟩
    · rw [asks] at met
      exact met
  · refine Comes.assume (fun kept => ?_)
    simp only [if_pos (show chunkOf start.byteCount > 0 from positive)]
    refine Code.comes_lift_bind _ (comes_difI2cReadBytes progress.balanced fits) ?_
    rintro ⟨result, bytes⟩
    refine Comes.assume ?_
    rintro rfl
    refine Comes.assume (fun all => ?_)
    have step := progress.step inside all nakCount kept.1 kept.2
    refine Comes.consequence (comes_nextChunk (chunkOf start.byteCount) positive inside
      ⟨start.data + (chunkOf start.byteCount).toNat,
        start.byteCount - (chunkOf start.byteCount).setWidth 32, nakCount⟩ _ rfl) ?_
      (fun _ _ met => met)
    rintro bus (⟨none, -⟩ | begun)
    · rw [none] at all
      exact absurd all (Nat.ne_of_lt positive)
    · refine ⟨_, _, step, begun.calm progress.balanced all, ?_⟩
      unfold Host.HasRoom
      rw [begun.alone, depth]
      exact Nat.lt_of_le_of_lt (Bool.toNat_le _) (by decide)

/-! ## A clean state -/

/-- The controller is enabled, no read is under way, and there is room for another entry. -/
structure Idle (bus : Bus) : Prop where
  enabled : bitfieldBit32Read bus.host.ctrl ctrlEnablehostBit = true
  /-- There are four events. -/
  events : bus.host.events < 16
  requests : bus.requests = []
  sent : bus.sent = []
  free : bus.busy = false
  writes : forall entry, entry ∈ bus.host.fmt -> entry.flags.read = false
  room : bus.host.HasRoom

theorem Idle.calm {bus : Bus} (idle : Idle bus) :
    Calm bus.host.events bus.host.rx [] [] bus := by
  refine ⟨idle.enabled, .inl rfl, rfl, idle.requests, idle.sent, ?_, ?_, ?_, fun _ => idle.free⟩
  · unfold Bus.Served Bus.requested
    rw [idle.requests]
    exact Nat.zero_le _
  · rw [Bus.queue_free idle.free]
    exact idle.writes
  · exact fun busy => absurd (idle.free.symm.trans busy) Bool.false_ne_true

/-- The value that clears events. -/
def clearingWord (events : DifI2cControllerHaltEvents) : BitVec 32 :=
  let reg := bitfieldBit32Write 0 controllerEventsNackBit events.nackReceived
  let reg := bitfieldBit32Write reg controllerEventsUnhandledNackTimeoutBit
    events.unhandledNackTimeout
  let reg := bitfieldBit32Write reg controllerEventsBusTimeoutBit events.busTimeout
  bitfieldBit32Write reg controllerEventsArbitrationLostBit events.arbitrationLost

theorem clearingWord_haltEventsOf {reg : BitVec 32} (small : reg < 16) :
    clearingWord (haltEventsOf reg) = reg := by
  have all : forall n, n < 16 ->
      clearingWord (haltEventsOf (BitVec.ofNat 32 n)) = BitVec.ofNat 32 n := by decide
  have here := all reg.toNat small
  rw [BitVec.ofNat_toNat, BitVec.setWidth_eq] at here
  exact here

/-- Events that have been read are cleared, and a NAK may have come. -/
theorem Calm.clear {events value : BitVec 32} {rx : List (BitVec 8)} {bus : Bus}
    (calm : Calm events rx requests sent bus)
    (seen : value = events ∨ events = 0 ∧ value = 1) :
    Calm 0 rx requests sent
      { bus with host := { bus.host with events := bus.host.events &&& ~~~value } } := by
  refine { calm with events := ?_, halted := fun left => calm.halted (fun none => left ?_) }
  · change bus.host.events &&& ~~~value = 0 ∨ (0 : BitVec 32) = 0 ∧ bus.host.events &&& ~~~value = 1
    rcases calm.events with same | ⟨none, nack⟩
    · rcases seen with rfl | ⟨none, -⟩
      · rw [same]
        exact .inl (by simp)
      · rw [same, none]
        exact .inl BitVec.zero_and
    · rw [nack]
      rcases seen with same | ⟨-, same⟩
      · rw [same, none]
        exact .inr ⟨rfl, by decide⟩
      · rw [same]
        exact .inl (by decide)
  · change bus.host.events &&& ~~~value = 0
    rw [none]
    exact BitVec.zero_and

theorem resetRx (bus : Bus) :
    busDevice.write32 fifoCtrlRegOffset (bitfieldBit32Write 0 fifoCtrlRxrstBit true) bus =
      { bus with host := { bus.host with rx := [] } } := by
  change { bus with host := bus.host.resetFifos _ } = _
  unfold Host.resetFifos
  rw [if_neg (by decide), if_pos (by decide)]

/-- The state before the first chunk. -/
theorem comes_cleanState {events : BitVec 32} {rx : List (BitVec 8)} (small : events < 16)
    {next : Nat -> Code ReadState (Option Failure) (BitVec 32)} {state : ReadState}
    {post : Except (Option Failure) (BitVec 32) × ReadState -> Bus -> Prop}
    (after : Comes busDevice schedule
      (fun bus => Calm 0 [] requests sent bus ∧ bus.host.HasRoom)
      (fun fuel => next fuel state) post) :
    Comes busDevice schedule
      (fun bus => Calm events rx requests sent bus ∧ bus.host.HasRoom)
      (fun fuel => .read32 controllerEventsRegOffset (fun reg =>
        .write32 controllerEventsRegOffset (clearingWord (haltEventsOf reg))
          (.read32 fifoCtrlRegOffset (fun reg =>
            .write32 fifoCtrlRegOffset (bitfieldBit32Write reg fifoCtrlRxrstBit true)
              (next fuel state))))) post := by
  have stable (events : BitVec 32) : Stable Moves
      (fun bus => Calm events rx requests sent bus ∧ bus.host.HasRoom) :=
    fun bus bus' move holds => ⟨Calm.stable _ _ move holds.1, stable_hasRoom _ _ move holds.2⟩
  refine Comes.read32 (fun value bus => (value = events ∨ events = 0 ∧ value = 1) ∧
    (Calm events rx requests sent bus ∧ bus.host.HasRoom)) (stable events)
    (fun bus holds => ⟨holds.1.events, holds⟩) (fun value => Comes.assume (fun seen => ?_))
  have cleared : clearingWord (haltEventsOf value) = value := by
    rcases seen with rfl | ⟨-, rfl⟩
    · exact clearingWord_haltEventsOf small
    · decide
  rw [cleared]
  refine Comes.write32 (fun bus => Calm 0 rx requests sent bus ∧ bus.host.HasRoom) (stable events)
    (fun bus holds => ⟨holds.1.clear seen, holds.2⟩) ?_
  refine Comes.read32 (fun value bus => value = 0 ∧
    (Calm 0 rx requests sent bus ∧ bus.host.HasRoom)) (stable 0) (fun bus holds => ⟨rfl, holds⟩)
    (fun value => Comes.assume ?_)
  rintro rfl
  refine Comes.write32 (fun bus => Calm 0 [] requests sent bus ∧ bus.host.HasRoom) (stable 0)
    (fun bus holds => ?_) after
  rw [resetRx]
  exact ⟨{ holds.1 with rx := rfl }, holds.2⟩

/-! ## Whole reads -/

/-- A read of a target that has come to an end.  The reads requested from the target
add up to the bytes it has sent, which have been stored one after the other.  If the
read has succeeded, it is as long as it was asked to be.  Otherwise the time was
over. -/
def ReadsOut (clock : Clock) (timeout : BitVec 32) (addr : BitVec 8) (byteCount : BitVec 32)
    (out : Except (Option Failure) (BitVec 32) × ReadState) (bus : Bus) : Prop :=
  (forall request, request ∈ bus.requests -> request.1 = addr <<< 1 ||| kI2cRead) ∧
  bus.requested = bus.sent.length ∧
  out.2.stores = bus.sent.mapIdx (fun i byte => (i, byte)) ∧
  match out.1 with
  | .ok _ => bus.requested = byteCount.toNat
  | .error reason => reason = some (.status .kDeadlineExceeded) ∧
      clock.Expired timeout out.2 ∧ bus.requested < byteCount.toNat

/-- What is known of the bus between two chunks. -/
theorem Progress.account (progress : Progress address total last start state requests sent)
    {bus : Bus} (calm : Calm 0 [] requests sent bus) :
    (forall request, request ∈ bus.requests -> request.1 = address) ∧
      bus.requested = bus.sent.length ∧
      state.stores = bus.sent.mapIdx (fun i byte => (i, byte)) ∧
      bus.requested + start.byteCount.toNat = total := by
  have requested : bus.requested = sent.length :=
    (congrArg (fun requests => (requests.map Prod.snd).sum) calm.requests).trans progress.balanced
  rw [requested, calm.requests, calm.sent]
  exact ⟨progress.addressed, rfl, progress.stores, progress.rest⟩

/-- The chunks, and the end of the last transaction. -/
def readChunks (fuel : Nat) (clock : Clock) (timeout : BitVec 32) (addr : BitVec 8)
    (byteCount : BitVec 32) : Code ReadState (Option Failure) (BitVec 32) := do
  let timer := clock.timer timeout
  let nakCount <- .rounds none (chunkRound fuel clock .object addr .object timer) fuel
    ⟨0, byteCount, 0⟩
  let _ <- i2cTestutilsWaitTransactionFinish fuel .object
  return nakCount

theorem i2cTestutilsRead_eq (fuel : Nat) (clock : Clock) (addr : BitVec 8)
    (byteCount timeout : BitVec 32) :
    i2cTestutilsRead fuel clock .object addr byteCount .object timeout ⟨[], 0⟩ =
      .read32 controllerEventsRegOffset (fun reg =>
        .write32 controllerEventsRegOffset (clearingWord (haltEventsOf reg))
          (.read32 fifoCtrlRegOffset (fun reg =>
            .write32 fifoCtrlRegOffset (bitfieldBit32Write reg fifoCtrlRxrstBit true)
              (readChunks fuel clock timeout addr byteCount ⟨[], 1⟩)))) :=
  rfl

/-- All chunks are read, unless the time is over. -/
theorem comes_readChunks {byteCount : BitVec 32} (some : byteCount ≠ 0)
    (expires : clock.Expires timeout) (addr : BitVec 8) :
    Comes busDevice schedule (fun bus => Calm 0 [] [] [] bus ∧ bus.host.HasRoom)
      (fun fuel => readChunks fuel clock timeout addr byteCount ⟨[], 1⟩)
      (ReadsOut clock timeout addr byteCount) := by
  rcases expires with ⟨last, expires⟩
  have later : 1 <= last := by
    by_contra first
    rw [Nat.eq_zero_of_not_pos first, BitVec.sub_self] at expires
    exact Nat.not_lt_zero _ expires
  refine Code.comes_bind (fun _ state bus => Exists fun start : Chunks => start.byteCount = 0 ∧
    BetweenChunks (addr <<< 1 ||| kI2cRead) byteCount.toNat last start state bus) ?_
    (fun nakCount state => ?_)
  · refine (comes_chunkRounds expires addr ⟨0, byteCount, 0⟩ ⟨[], 1⟩).consequence
      (fun bus calm => ⟨some, [], [], ⟨rfl, Nat.zero_add _, rfl, nofun, rfl, later⟩, calm⟩) ?_
    rintro ⟨reason | nakCount, state⟩ bus met
    · rcases met with ⟨late, expired, start, more, requests, sent, state', stores, progress, calm⟩
      rcases progress.account calm with ⟨addressed, balanced, stored, rest⟩
      have positive : 0 < start.byteCount.toNat := (positive_iff _).mpr more
      change bus.requested + start.byteCount.toNat = byteCount.toNat at rest
      exact ⟨addressed, balanced, stores.symm.trans stored, late, expired, by omega⟩
    · exact met
  · refine Comes.of_exists (fun start => Comes.assume (fun none => ?_))
    refine Comes.of_exists (fun requests => Comes.of_exists (fun sent => Comes.assume ?_))
    intro progress
    have waits : Comes busDevice schedule (Calm 0 [] requests sent)
        (fun fuel => i2cTestutilsWaitTransactionFinish fuel .object state) _ :=
      comes_wait Calm.stable (fun bus calm => ⟨_, _, _, _, calm⟩) state
    refine Code.comes_bind_same _ (waits.consequence (fun bus holds => holds.1)
      (fun _ _ met => met)) (fun _ => Comes.ret (fun bus holds => ?_))
    rcases progress.account holds.1 with ⟨addressed, balanced, stored, rest⟩
    rw [none] at rest
    exact ⟨addressed, balanced, stored, rest⟩

/-- A read of some bytes comes to an end with all of them, unless the time is over. -/
theorem comes_i2cTestutilsRead {byteCount : BitVec 32} (some : byteCount ≠ 0)
    (expires : clock.Expires timeout) (addr : BitVec 8) :
    Comes busDevice schedule Idle
      (fun fuel => i2cTestutilsRead fuel clock .object addr byteCount .object timeout ⟨[], 0⟩)
      (ReadsOut clock timeout addr byteCount) := by
  refine Comes.pointwise (fun bus idle => ?_)
  simp only [i2cTestutilsRead_eq]
  have clean : Comes busDevice schedule
      (fun bus' => Calm bus.host.events bus.host.rx [] [] bus' ∧ bus'.host.HasRoom) _ _ :=
    comes_cleanState idle.events (comes_readChunks some expires addr)
  refine clean.consequence ?_ (fun _ _ met => met)
  rintro bus' rfl
  exact ⟨idle.calm, idle.room⟩

/-! ## A read of nothing -/

/-- A bus on which a target acknowledges everything, one move at a time. -/
def serve (bus : Bus) : Bus :=
  if bus.busy then { bus with busy := false, host := { bus.host with fmt := bus.host.fmt.tail } }
  else if ¬ bus.Served then
    { bus with host := bus.host.receive 0, sent := bus.sent ++ [0] }
  else if bitfieldBit32Read bus.host.ctrl ctrlEnablehostBit = true ∧ bus.host.events = 0 then
    match bus.host.fmt with
    | [] => bus
    | entry :: rest =>
        if entry.flags.read then
          { bus with
            busy := true
            requests := bus.requests ++ [(bus.addressed, readLength entry.byte)] }
        else
          { bus with
            host := { bus.host with fmt := rest }
            addressed := if entry.flags.start then entry.byte else bus.addressed }
  else bus

theorem serve_cases (bus : Bus) : Moves bus (serve bus) ∨ serve bus = bus ∧ Settled Moves bus := by
  unfold serve
  split
  · next busy => exact .inl (.release busy)
  · next idle =>
      have free : bus.busy = false := Bool.eq_false_iff.mpr idle
      split
      · next owing => exact .inl (.receive 0 owing)
      · next all =>
          have served : bus.Served := Classical.not_not.mp all
          split
          · next running =>
              have ready : bus.Ready := ⟨running.1, running.2, free, served⟩
              split
              · next empty => exact .inr ⟨rfl, settled_of_free free served (.inl empty)⟩
              · next entry rest oldest =>
                  split
                  · next read => exact .inl (.request ready oldest read)
                  · next write => exact .inl (.ack ready oldest (Bool.eq_false_iff.mpr write))
          · next stopped =>
              refine .inr ⟨rfl, fun bus' move => ?_⟩
              cases move with
              | ack ready | nack ready | request ready =>
                  exact stopped ⟨ready.enabled, ready.running⟩
              | release busy => exact idle busy
              | receive byte owing => exact owing served

/-- The bus moves whenever it can. -/
def eager : Schedule Moves where
  tick _ := serve
  moved _ bus := by
    rcases serve_cases bus with move | ⟨same, -⟩
    · exact .single move
    · rw [same]
  fair t bus := by
    rintro ⟨bus', move⟩
    refine ⟨t, Nat.le_refl t, fun same => ?_⟩
    rcases serve_cases bus with move' | ⟨-, settled⟩
    · rw [same] at move'
      exact Nat.lt_irrefl _ move'.work_lt
    · exact settled bus' move

/-- A clock whose counter is one more at each reading. -/
def ticking : Clock := ⟨1, BitVec.ofNat 64⟩

/-- A controller that has nothing to do. -/
def resting : Bus := ⟨⟨[], [], 0, 1, 0, 0⟩, false, 0, [], []⟩

theorem idle_resting : Idle resting := by
  refine ⟨by decide, by decide, rfl, rfl, rfl, nofun, by decide⟩

theorem expires_ticking : ticking.Expires 0 := ⟨1, by decide +kernel⟩

/-- A request for no bytes is one for 256, none of which is stored. -/
theorem run_readNothing (fuel patience : Nat) :
    (i2cTestutilsRead (fuel + 1) ticking .object 0 0 .object 0 ⟨[], 0⟩).runScheduled busDevice
        eager.tick patience 0 resting =
      some ((.ok 0, ⟨[], 1⟩), 13, ⟨⟨[], [0], 0, 1, 0, 0⟩, false, 1, [(1, 256)], [0]⟩) :=
  rfl

theorem not_comes_readNothing :
    ¬ Comes busDevice eager Idle
      (fun fuel => i2cTestutilsRead fuel ticking .object 0 0 .object 0 ⟨[], 0⟩)
      (ReadsOut ticking 0 0 0) := by
  intro comes
  rcases comes 0 resting idle_resting with ⟨out, t, bus, ⟨enough, ends⟩, read⟩
  have same := (ends (enough + 1) (Nat.le_succ enough)).symm.trans
    (run_readNothing enough (enough + 1))
  cases same
  exact absurd read.2.2.2 (by decide)

/-- Reads requested from the target add up to the bytes asked for, which are stored in
order, exactly if some are asked for. -/
theorem readsOut_iff (byteCount : BitVec 32) :
    (forall (schedule : Schedule Moves) (clock : Clock) (timeout : BitVec 32) (addr : BitVec 8),
      clock.Expires timeout ->
      Comes busDevice schedule Idle
        (fun fuel => i2cTestutilsRead fuel clock .object addr byteCount .object timeout ⟨[], 0⟩)
        (ReadsOut clock timeout addr byteCount)) ↔
      byteCount ≠ 0 := by
  constructor
  · rintro claim rfl
    exact not_comes_readNothing (claim eager ticking 0 0 expires_ticking)
  · exact fun some schedule clock timeout addr expires => comes_i2cTestutilsRead some expires addr

/-- A read of no bytes requests some. -/
theorem readsOut_apart :
    ¬ forall (byteCount : BitVec 32) (schedule : Schedule Moves) (clock : Clock)
      (timeout : BitVec 32) (addr : BitVec 8), clock.Expires timeout ->
      Comes busDevice schedule Idle
        (fun fuel => i2cTestutilsRead fuel clock .object addr byteCount .object timeout ⟨[], 0⟩)
        (ReadsOut clock timeout addr byteCount) :=
  fun claim => not_comes_readNothing (claim 0 eager ticking 0 0 expires_ticking)

end I2c
end SunburstChip
