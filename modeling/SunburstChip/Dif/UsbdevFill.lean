import SunburstChip.Dif.UsbdevBuffers
import SunburstChip.Lib.Interleaving

namespace SunburstChip
namespace Usbdev

open Mmio

/-!
# Filling the Available FIFOs while they are drained

While `dif_usbdev_fill_available_fifos` reads the levels of the two FIFOs and
writes buffers to them, the controller takes buffers out.  The levels are out of
date as soon as they have been read, but only in one direction, and so there is
room for what the loop writes.  What the loop has done is a sequence of rounds,
each of which has read the levels and has then moved one buffer from the pool to
one of the FIFOs.
-/

/-- The controller takes buffers out of the Available FIFOs, whatever else it does. -/
def Drains (usbdev usbdev' : Controller) : Prop :=
  usbdev'.avSetup <:+ usbdev.avSetup ∧ usbdev'.avOut <:+ usbdev.avOut

/-- All that the controller does by itself is that. -/
theorem Hardware.drains {usbdev usbdev' : Controller} (move : Hardware usbdev usbdev') :
    Drains usbdev usbdev' := by
  cases move with
  | receiveSetup ep size packet available room =>
      exact ⟨by rw [available]; exact List.suffix_cons _ _, List.suffix_refl _⟩
  | receiveOut ep size packet available room =>
      exact ⟨List.suffix_refl _, by rw [available]; exact List.suffix_cons _ _⟩
  | attempt | acknowledge | link => exact ⟨List.suffix_refl _, List.suffix_refl _⟩

/-- The FIFOs hold no more than they have room for. -/
def Levels (usbdev : Controller) : Prop :=
  usbdev.avSetup.length <= avSetupFifoDepth ∧ usbdev.avOut.length <= avOutFifoDepth

instance (usbdev : Controller) : Decidable (Levels usbdev) :=
  inferInstanceAs (Decidable (_ ∧ _))

/-- The level at which the loop takes the Available SETUP FIFO to be supplied. -/
abbrev setupThreshold : Nat := 2

/-- The accesses of the loop, with the states they were made in. -/
abbrev FillLog := List (Access × Controller)

/-- The log is that of complete rounds, by which these buffers were moved in
this order.  As long as the Available SETUP FIFO is found below its threshold,
it is the one that is supplied. -/
inductive Rounds : FillLog -> List (BitVec 8) -> Prop where
  | none : Rounds [] []
  | setup {log : FillLog} {taken : List (BitVec 8)} (rounds : Rounds log taken)
      {read write : Controller} (bufferId : BitVec 8)
      (below : read.avSetup.length < setupThreshold)
      (room : write.avSetup.length < avSetupFifoDepth) :
      Rounds (log ++ [(.read32 usbstatRegOffset, read),
        (.write32 avsetupbufferRegOffset
          (bitfieldField32Write 0 avsetupbufferBufferField (bufferId.setWidth 32)), write)])
        (taken ++ [bufferId])
  | out {log : FillLog} {taken : List (BitVec 8)} (rounds : Rounds log taken)
      {read write : Controller} (bufferId : BitVec 8)
      (supplied : setupThreshold <= read.avSetup.length)
      (room : write.avOut.length < avOutFifoDepth) :
      Rounds (log ++ [(.read32 usbstatRegOffset, read),
        (.write32 avoutbufferRegOffset
          (bitfieldField32Write 0 avoutbufferBufferField (bufferId.setWidth 32)), write)])
        (taken ++ [bufferId])

theorem Rounds.length {log : FillLog} {taken : List (BitVec 8)} (rounds : Rounds log taken) :
    log.length = 2 * taken.length := by
  induction rounds with
  | none => rfl
  | setup rounds bufferId below room ih | out rounds bufferId supplied room ih =>
      rw [List.length_append, List.length_append, ih]
      rfl

/-- In the course of the loop: each buffer that has left the pool has been moved in its round. -/
structure Filling (start pool : BufferPool) (s : Controller × FillLog) : Prop where
  levels : Levels s.1
  moved : Exists fun taken => Rounds s.2 taken ∧ start.stack = pool.stack ++ taken.reverse

/-- After the loop: it has ended with an empty pool, or when it has found the
Available SETUP FIFO supplied and the Available OUT FIFO full. -/
def FillEnded (start : BufferPool) (out : DifResult × BufferPool) (s : Controller × FillLog) : Prop :=
  out.1 = .kDifOk ∧ Exists fun log => Exists fun taken =>
    Rounds log taken ∧ start.stack = out.2.stack ++ taken.reverse ∧
    ((s.2 = log ∧ out.2.stack = []) ∨
      Exists fun read => s.2 = log ++ [(.read32 usbstatRegOffset, read)] ∧
        setupThreshold <= read.avSetup.length ∧ avOutFifoDepth <= read.avOut.length)

/-- At every moment: there is room for what is written next, the loop never
waits, and it has not made more accesses than so many. -/
def FillSound (bound : Nat) : Position -> Controller × FillLog -> Prop
  | .write32 offset _, s =>
      (offset = avsetupbufferRegOffset -> s.1.avSetup.length < avSetupFifoDepth) ∧
      (offset = avoutbufferRegOffset -> s.1.avOut.length < avOutFifoDepth) ∧
      s.2.length <= bound
  | .poll32 _, _ => False
  | _, s => s.2.length <= bound

section Fill

variable {start pool : BufferPool} {s s' : Controller × FillLog}

theorem levels_drained {usbdev usbdev' : Controller} (levels : Levels usbdev)
    (drains : Drains usbdev usbdev') : Levels usbdev' :=
  ⟨Nat.le_trans drains.1.length_le levels.1, Nat.le_trans drains.2.length_le levels.2⟩

theorem Filling.onwards (filling : Filling start pool s) (move : Onwards Drains s s') :
    Filling start pool s' := by
  rcases filling with ⟨levels, moved⟩
  refine ⟨levels_drained levels move.1, ?_⟩
  rw [move.2]
  exact moved

/-- Each round has moved a buffer that was in the pool. -/
theorem Filling.length (filling : Filling start pool s) :
    s.2.length + 2 * pool.stack.length = 2 * start.stack.length := by
  rcases filling.moved with ⟨taken, rounds, whole⟩
  rw [rounds.length, whole, List.length_append, List.length_reverse]
  omega

variable {bufferId : BitVec 8} {pool' : BufferPool} {status : BitVec 32}

/-- The pool of a loop that is not over. -/
theorem Filling.inside (filling : Filling start pool s)
    (removed : pool.stack = pool'.stack ++ [bufferId]) :
    s.2.length + 2 <= 2 * start.stack.length := by
  have length := filling.length
  rw [removed, List.length_append, List.length_singleton] at length
  omega

/-- What is known after the levels have been read: the FIFO to be written to has
room, and keeps it while the controller takes buffers out. -/
structure FillRead (start pool : BufferPool) (status : BitVec 32) (s : Controller × FillLog) :
    Prop where
  levels : Levels s.1
  room : RoomAsRead status s.1
  moved : Exists fun before => Exists fun read =>
    s.2 = before ++ [(.read32 usbstatRegOffset, read)] ∧ Filling start pool (read, before) ∧
    status = read.usbstat

theorem FillRead.onwards (read : FillRead start pool status s) (move : Onwards Drains s s') :
    FillRead start pool status s' := by
  rcases read with ⟨levels, room, moved⟩
  refine ⟨levels_drained levels move.1, ⟨fun below => ?_, fun notFull => ?_⟩, ?_⟩
  · exact Nat.lt_of_le_of_lt move.1.1.length_le (room.1 below)
  · exact Nat.lt_of_le_of_lt move.1.2.length_le (room.2 notFull)
  · rw [move.2]
    exact moved

theorem fillRead_usbstat (filling : Filling start pool s) :
    FillRead start pool ((traced device).read32 usbstatRegOffset s).1
      ((traced device).read32 usbstatRegOffset s).2 := by
  have read : device.read32 usbstatRegOffset s.1 = (s.1.usbstat, s.1) :=
    read32_of_ne s.1 (by decide)
  simp only [traced, read]
  exact ⟨filling.levels, roomAsRead_usbstat filling.levels.1, s.2, s.1, rfl, filling, rfl⟩

/-- The depth that has been read is that of the FIFO at the time. -/
theorem supplied_iff {read : Controller} (levels : Levels read) :
    2 <= bitfieldField32Read read.usbstat usbstatAvSetupDepthField ↔
      setupThreshold <= read.avSetup.length := by
  rw [BitVec.le_def, usbstat_avSetupDepth (Nat.lt_of_le_of_lt levels.1 (by decide))]
  exact Iff.rfl

/-- A buffer is moved to the Available SETUP FIFO. -/
theorem FillRead.supplySetup (read : FillRead start pool status s)
    (below : ¬ 2 <= bitfieldField32Read status usbstatAvSetupDepthField)
    (removed : pool.stack = pool'.stack ++ [bufferId]) :
    Filling start pool' ((traced device).write32 avsetupbufferRegOffset
      (bitfieldField32Write 0 avsetupbufferBufferField (bufferId.setWidth 32)) s) := by
  rcases read with ⟨levels, room, before, then_, log, filling, rfl⟩
  have hasRoom := room.1 (BitVec.not_le.mp below)
  rcases filling.moved with ⟨taken, rounds, whole⟩
  constructor
  · simp only [traced, device, writeWord_avSetup _ _ hasRoom]
    refine ⟨?_, levels.2⟩
    rw [List.length_append]
    exact hasRoom
  · refine ⟨taken ++ [bufferId], ?_, ?_⟩
    · simp only [traced, log, List.append_assoc]
      exact .setup rounds bufferId
        (Nat.not_le.mp (fun supplied => below ((supplied_iff filling.levels).mpr supplied))) hasRoom
    · rw [whole, removed, List.reverse_append, List.append_assoc]
      rfl

/-- A buffer is moved to the Available OUT FIFO. -/
theorem FillRead.supplyOut (read : FillRead start pool status s)
    (supplied : 2 <= bitfieldField32Read status usbstatAvSetupDepthField)
    (notFull : bitfieldBit32Read status usbstatAvOutFullBit = false)
    (removed : pool.stack = pool'.stack ++ [bufferId]) :
    Filling start pool' ((traced device).write32 avoutbufferRegOffset
      (bitfieldField32Write 0 avoutbufferBufferField (bufferId.setWidth 32)) s) := by
  rcases read with ⟨levels, room, before, then_, log, filling, rfl⟩
  have hasRoom := room.2 notFull
  rcases filling.moved with ⟨taken, rounds, whole⟩
  constructor
  · simp only [traced, device, writeWord_avOut _ _ hasRoom]
    refine ⟨levels.1, ?_⟩
    rw [List.length_append]
    exact hasRoom
  · refine ⟨taken ++ [bufferId], ?_, ?_⟩
    · simp only [traced, log, List.append_assoc]
      exact .out rounds bufferId ((supplied_iff filling.levels).mp supplied) hasRoom
    · rw [whole, removed, List.reverse_append, List.append_assoc]
      rfl

end Fill

/-! ## The loop -/

section Loop

variable {start : BufferPool}

/-- What holds at every moment of the loop, and after it. -/
abbrev FillLive (start : BufferPool) (pre : Controller × FillLog -> Prop)
    (program : Mmio (DifResult × BufferPool)) : Prop :=
  Live (Remembering device Drains) (FillSound (2 * start.stack.length)) True pre program
    (FillEnded start)

variable {pool : BufferPool}

/-- A position at which nothing is known but that the loop is not beyond its bound. -/
theorem keeps_filling {place : Position}
    (plain : forall s, s.2.length <= 2 * start.stack.length ->
      FillSound (2 * start.stack.length) place s) :
    Keeps (Remembering device Drains) (FillSound (2 * start.stack.length)) place
      (Filling start pool) := by
  refine ⟨fun s filling => plain s ?_, fun s s' move filling => filling.onwards move⟩
  have length := filling.length
  omega

/-- The loop ends with an empty pool. -/
theorem fillLoop_empty (empty : pool.stack = []) :
    FillLive start (Filling start pool) (.ret (.kDifOk, pool)) := by
  refine Live.ret (keeps_filling (fun _ inside => inside)) (fun s filling => ?_)
  rcases filling.moved with ⟨taken, rounds, whole⟩
  exact ⟨rfl, s.2, taken, rounds, whole, .inl ⟨rfl, empty⟩⟩

/-- What the loop has read stays what it has read. -/
theorem keeps_fillRead {pool' : BufferPool} {status : BitVec 32} {place : Position}
    {bufferId : BitVec 8} (removed : pool.stack = pool'.stack ++ [bufferId])
    (plain : forall s, FillRead start pool status s -> s.2.length <= 2 * start.stack.length ->
      FillSound (2 * start.stack.length) place s) :
    Keeps (Remembering device Drains) (FillSound (2 * start.stack.length)) place
      (FillRead start pool status) := by
  refine ⟨fun s read => plain s read ?_, fun s s' move read => read.onwards move⟩
  rcases read.moved with ⟨before, then_, log, filling, -⟩
  have inside := filling.inside removed
  rw [log, List.length_append]
  exact Nat.le_of_succ_le inside

/-- The loop ends when it has found both FIFOs supplied. -/
theorem fillLoop_supplied {pool' : BufferPool} {status : BitVec 32} {bufferId : BitVec 8}
    (removed : pool.stack = pool'.stack ++ [bufferId])
    (supplied : 2 <= bitfieldField32Read status usbstatAvSetupDepthField)
    (full : bitfieldBit32Read status usbstatAvOutFullBit = true) :
    FillLive start (FillRead start pool status) (.ret (.kDifOk, pool)) := by
  refine Live.ret (keeps_fillRead removed (fun _ _ inside => inside)) (fun s read => ?_)
  rcases read.moved with ⟨before, then_, log, filling, rfl⟩
  rcases filling.moved with ⟨taken, rounds, whole⟩
  rw [usbstat_avOutFull] at full
  exact ⟨rfl, before, taken, rounds, whole, .inr ⟨then_, log,
    (supplied_iff filling.levels).mp supplied, of_decide_eq_true full⟩⟩

theorem fillLoop_live (rounds : Nat) (bounds : pool.InBounds)
    (enough : pool.stack.length <= rounds) :
    FillLive start (Filling start pool) (fillLoop rounds pool) := by
  induction rounds generalizing pool with
  | zero => exact fillLoop_empty (List.length_eq_zero_iff.mp (Nat.le_zero.mp enough))
  | succ rounds ih =>
      unfold fillLoop
      split
      · next empty =>
          have top := (bufferPoolIsEmpty_iff pool).mp empty
          have length := BufferPool.length_stack bounds
          exact fillLoop_empty (List.length_eq_zero_iff.mp (by omega))
      · next nonempty =>
          rcases bufferPoolRemove_isSome (Bool.eq_false_iff.mpr nonempty) with
            ⟨bufferId, pool', removed⟩
          rcases bufferPoolRemove_stack bounds removed with ⟨stack, bounds'⟩
          have fewer : pool'.stack.length <= rounds := by
            rw [stack, List.length_append] at enough
            exact Nat.le_of_succ_le_succ enough
          refine Live.read32 (FillRead start pool) (keeps_filling (fun _ inside => inside))
            (fun _ _ _ => trivial) (fun s filling _ => fillRead_usbstat filling) (fun status => ?_)
          simp only [bind_ret, removed]
          by_cases supplied : 2 <= bitfieldField32Read status usbstatAvSetupDepthField
          · by_cases full : bitfieldBit32Read status usbstatAvOutFullBit = true
            · simp only [supplied, full, decide_true, Bool.and_self, if_true]
              exact fillLoop_supplied stack supplied full
            · simp only [supplied, full, decide_true, Bool.and_false, if_true]
              have notFull := Bool.eq_false_iff.mpr full
              refine Live.write32 _ (keeps_fillRead stack ?_) (fun _ _ _ => trivial)
                (fun s read _ => read.supplyOut supplied notFull stack) (ih bounds' fewer)
              exact fun s read inside =>
                ⟨fun setup => absurd setup (by decide), fun _ => read.room.2 notFull, inside⟩
          · simp only [supplied, decide_false, Bool.false_and, if_false]
            refine Live.write32 _ (keeps_fillRead stack ?_) (fun _ _ _ => trivial)
              (fun s read _ => read.supplySetup supplied stack) (ih bounds' fewer)
            exact fun s read inside =>
              ⟨fun _ => read.room.1 (BitVec.not_le.mp supplied), fun out => absurd out (by decide), inside⟩

/-- Among hardware that only takes buffers out of the FIFOs, whatever is in the
pool and in the FIFOs: the loop never writes to a full FIFO, it goes on until it
returns, which it does within two accesses for each buffer of the pool, and what
it has done then is to move buffers in rounds, each buffer that it took once. -/
theorem fillAvailableFifos_live {pool : BufferPool} (bounds : pool.InBounds)
    {controller : Controller} (levels : Levels controller)
    {config : Mmio (DifResult × BufferPool) × (Controller × FillLog)}
    (reached : Reaches (Remembering device Drains)
      (difUsbdevFillAvailableFifos .object .object pool, (controller, [])) config) :
    FillSound (2 * pool.stack.length) config.1.position config.2 ∧
    (forall out, config.1 = .ret out -> FillEnded pool out config.2) ∧
    (Finished config ∨ Exists fun config' => Step (Remembering device Drains) config config' ∧
      config'.2.2.length = config.2.2.length + 1) := by
  have enough : pool.stack.length <= (pool.top + 1).toNat := by
    have length := BufferPool.length_stack bounds
    omega
  have filling : Filling pool pool (controller, []) :=
    ⟨levels, [], .none, (List.append_nil _).symm⟩
  have live := fillLoop_live (pool.top + 1).toNat bounds enough _ filling config reached
  refine ⟨live.1, live.2.1, ?_⟩
  by_cases finished : Finished config
  · exact .inl finished
  · refine .inr (access_of_running finished (fun offset waits => ?_))
    have sound := live.1
    rw [waits] at sound
    exact sound

/-- The controller takes a buffer for a SETUP packet. -/
theorem takes_setup (m : Mmio (DifResult × BufferPool)) (s : Controller × FillLog) :
    Step (Remembering device Drains) (m, s) (m, ({ s.1 with avSetup := s.1.avSetup.tail }, s.2)) :=
  .env m ⟨⟨List.tail_suffix _, List.suffix_refl _⟩, rfl⟩

set_option maxRecDepth 4000 in
/-- Four buffers are in the pool, and the FIFOs are empty.  The controller takes one of the first two
buffers, and the loop replaces it before it turns to the other FIFO. -/
theorem fillAvailableFifos_live_drained : Exists fun out => Exists fun s =>
    FillEnded { configuredSystem.pool with top := 3 } out s ∧ out.2.stack = [] ∧
      s.1.avSetup.length = 2 ∧ s.1.avOut.length = 1 := by
  have ran : Exists fun out => Exists fun s => Reaches (Remembering device Drains)
      (difUsbdevFillAvailableFifos .object .object { configuredSystem.pool with top := 3 },
        (Controller.reset, [])) (.ret out, s) ∧ out.2.stack = [] ∧
          s.1.avSetup.length = 2 ∧ s.1.avOut.length = 1 :=
    ⟨_, _, .head (.read32 _ _ _ trivial) (.head (.write32 _ _ _ _ trivial)
      (.head (.read32 _ _ _ trivial) (.head (.write32 _ _ _ _ trivial) (.head (takes_setup _ _)
        (.head (.read32 _ _ _ trivial) (.head (.write32 _ _ _ _ trivial)
          (.head (.read32 _ _ _ trivial) (.head (.write32 _ _ _ _ trivial) .refl)))))))),
      rfl, rfl, rfl⟩
  rcases ran with ⟨out, s, reached, empty, setups, outs⟩
  have live := fillAvailableFifos_live ⟨by decide, by decide⟩ (by decide) reached
  exact ⟨out, s, live.2.1 out rfl, empty, setups, outs⟩

end Loop

end Usbdev
end SunburstChip
