import SunburstChip.Testing.UsbSimpleserialPort

namespace SunburstChip
namespace UsbSimpleserial

open Mmio Usbdev UsbTestutils

/-!
# Runs of a serial port

A port is initialised on an endpoint of a configured driver.  From then on the
client sends bytes, and the library flushes the port and tells it of packets
that have been collected or received, in any order, while the controller moves
and others use the driver, its buffers included.

What has been accepted is at every moment what the host has collected, followed
by the packet on offer, followed by what has been gathered.
-/

/-- The controller, the buffer objects of others, and the memory; the packets
that had been collected when the port was told, the bytes that were accepted,
and the packets that the port was told of. -/
structure Serial where
  controller : Controller
  objects : Nat -> Buffer
  memory : Memory
  collected : List Packet
  accepted : List (BitVec 8)
  delivered : List Packet

/-- A packet of possible size waits that is for an endpoint. -/
structure Arrived (ep : BitVec 8) (usbdev : Controller) (entry : RxEntry) : Prop where
  head : usbdev.rxFifo.head? = some entry
  here : entry.ep.toNat = ep.toNat
  short : entry.size.toNat <= maxPacketSize

/-- A step of a run: the controller moves, others use the driver and other
endpoints, the client sends a byte, or the library calls the port. -/
inductive Step (n : Nat) (ep : BitVec 8) : Serial -> Serial -> Prop where
  | hardware {state : Serial} {usbdev : Controller} (move : Hardware state.controller usbdev) :
      Step n ep state { state with controller := usbdev }
  | others {state : Serial} {usbdev : Controller}
      {result : DifResult × BufferPool × (Nat -> Buffer)} (call : Call)
      (inEndpoints : Nat -> InEndpoint Callback) (outEndpoints : Nat -> OutEndpoint Callback)
      (allowed : call.Allowed n ⟨state.controller, state.memory.pool, state.objects⟩)
      (elsewhere : call.Elsewhere (ownSlot ep.toNat .idle))
      (apart : inEndpoints ep.toNat = state.memory.inEndpoints ep.toNat)
      (apart' : outEndpoints ep.toNat = state.memory.outEndpoints ep.toNat)
      (execution : Exec device Hardware state.controller
        (call.perform state.memory.pool state.objects) usbdev result) :
      Step n ep state { state with
        controller := usbdev
        objects := result.2.2
        memory := ⟨result.2.1, inEndpoints, outEndpoints, state.memory.client⟩ }
  | sendByte {state : Serial} {usbdev : Controller} {out : Except Failure Bool × Memory}
      (c : BitVec 8)
      (execution : Exec device Hardware state.controller
        (usbTestutilsSimpleserialSendByte c state.memory) usbdev out) :
      Step n ep state { state with
        controller := usbdev
        memory := out.2
        accepted := state.accepted ++ acceptedByte c out.1 }
  | flush {state : Serial} {usbdev : Controller} {out : Except Failure Unit × Memory}
      (execution : Exec device Hardware state.controller
        (pollFlush callFlush ep state.memory) usbdev out) :
      Step n ep state { state with
        controller := usbdev
        memory := out.2 }
  | txDone {state : Serial} {usbdev : Controller} {out : Except Failure Unit × Memory}
      (sent : state.controller.inSent ep.toNat = true)
      (execution : Exec device Hardware state.controller
        (pollSent callTxDone ep state.memory) usbdev out) :
      Step n ep state { state with
        controller := usbdev
        memory := out.2
        collected := state.collected ++ offered state.controller ep.toNat }
  | receive {state : Serial} {usbdev : Controller} {out : Except Failure Bool × Memory}
      (entry : RxEntry) (arrived : Arrived ep state.controller entry)
      (execution : Exec device Hardware state.controller
        (pollReceived callRx state.memory) usbdev out) :
      Step n ep state { state with
        controller := usbdev
        memory := out.2
        delivered := state.delivered ++ [entry.packet state.controller] }

/-- The states of the runs of a port, which has been initialised on an endpoint
that was not in use. -/
inductive Reachable (n : Nat) (ep : BitVec 8) : Serial -> Prop where
  | initialised {usbdev usbdev' : Controller} {objects : Nat -> Buffer} {memory memory' : Memory}
      (configured : Usbdev.Reachable n ⟨usbdev, memory.pool, objects⟩)
      (unused : usbdev.Pending ep.toNat = false)
      (alone : (memory.inEndpoints ep.toNat).transfer.buffer = none)
      (silent : memory.client.received = [])
      (execution : Exec device Hardware usbdev (usbTestutilsSimpleserialInit ep memory) usbdev'
        (.ok (), memory')) :
      Reachable n ep ⟨usbdev', objects, memory', [], [], []⟩
  | step {state state' : Serial} (before : Reachable n ep state) (step : Step n ep state state') :
      Reachable n ep state'

/-! ## What holds in every state -/

/-- The bytes that have been accepted, and the buffers that have been lost. -/
structure Balance (n : Nat) (state : Serial) (lost : Multiset Nat) (offer : List Packet)
    (held : Packet) : Prop where
  port : Port n state.objects state.memory lost offer held state.controller
  bytes : (state.collected ++ offer).flatten ++ held = state.accepted
  count : lost.card = state.delivered.count []

structure Running (n : Nat) (ep : BitVec 8) (state : Serial) : Prop where
  registered : Registered state.memory
  endpoint : state.memory.client.ep = ep
  short : forall packet, packet ∈ state.collected -> packet.length <= maxPacketSize
  received : state.memory.client.received = state.delivered.flatten
  balance : Exists fun lost => Exists fun offer => Exists fun held =>
    Balance n state lost offer held

section

variable {n : Nat} {ep : BitVec 8} {state state' : Serial}
variable {usbdev : Controller} {memory : Memory} {held : Packet} {lost : Multiset Nat}
  {out : Except Failure Bool × Memory}

theorem Running.hardware (running : Running n ep state) (move : Hardware state.controller usbdev) :
    Running n ep { state with controller := usbdev } := by
  rcases running with ⟨registered, endpoint, short, received, lost, offer, held, port, bytes, count⟩
  exact ⟨registered, endpoint, short, received, lost, offer, held, port.hardware move, bytes, count⟩

/-- The port is left alone by others. -/
theorem Registered.others (registered : Registered memory) {pool : BufferPool}
    {inEndpoints : Nat -> InEndpoint Callback} {outEndpoints : Nat -> OutEndpoint Callback}
    (apart : inEndpoints memory.client.ep.toNat = memory.inEndpoints memory.client.ep.toNat)
    (apart' : outEndpoints memory.client.ep.toNat = memory.outEndpoints memory.client.ep.toNat) :
    Registered ⟨pool, inEndpoints, outEndpoints, memory.client⟩ := by
  refine ⟨registered.below, ?_, ?_, ?_, ?_⟩
  · dsimp only
    rw [apart]
    exact registered.txDone
  · dsimp only
    rw [apart]
    exact registered.flush
  · dsimp only
    rw [apart']
    exact registered.rx
  · dsimp only
    rw [apart]
    exact registered.alone

theorem Running.others {result : DifResult × BufferPool × (Nat -> Buffer)} {call : Call}
    {inEndpoints : Nat -> InEndpoint Callback} {outEndpoints : Nat -> OutEndpoint Callback}
    (running : Running n ep state)
    (allowed : call.Allowed n ⟨state.controller, state.memory.pool, state.objects⟩)
    (elsewhere : call.Elsewhere (ownSlot ep.toNat .idle))
    (apart : inEndpoints ep.toNat = state.memory.inEndpoints ep.toNat)
    (apart' : outEndpoints ep.toNat = state.memory.outEndpoints ep.toNat)
    (execution : Exec device Hardware state.controller
      (call.perform state.memory.pool state.objects) usbdev result) :
    Running n ep { state with
      controller := usbdev
      objects := result.2.2
      memory := ⟨result.2.1, inEndpoints, outEndpoints, state.memory.client⟩ } := by
  rcases running with ⟨registered, endpoint, short, received, lost, offer, held,
    ⟨known, away, slot, gathered, onOffer, tracked⟩, bytes, count⟩
  rw [<- endpoint] at elsewhere apart apart'
  have tracked' := perform_tracked call (elsewhere_ownSlot elsewhere slot) _ _ _
    ⟨tracked, allowed⟩ execution
  exact ⟨registered.others apart apart', endpoint, short, received, lost, offer, held,
    ⟨known, away, slot, gathered, onOffer, tracked'⟩, bytes, count⟩

/-- A call that appends bytes to what there is to be sent. -/
theorem Running.appended {bytes : Packet} {offer : List Packet} (running : Running n ep state)
    (balance : Balance n state lost offer held)
    (appended : Appended n state.objects state.memory memory lost offer held bytes usbdev) :
    Running n ep { state with
      controller := usbdev
      memory := memory
      accepted := state.accepted ++ bytes } := by
  rcases appended with ⟨⟨pool, ssctx, rfl, sameEp, sameReceived⟩, offer', held', port, same, kept⟩
  have registered := running.registered
  refine ⟨?_, sameEp.trans running.endpoint, running.short, sameReceived.trans running.received,
    lost, offer', held', port, ?_, balance.count⟩
  · constructor
    all_goals
      dsimp only
      rw [sameEp]
    · exact registered.below
    · exact registered.txDone
    · exact registered.flush
    · exact registered.rx
    · exact registered.alone
  · dsimp only
    rw [<- balance.bytes, List.flatten_append, List.append_assoc, same, List.flatten_append]
    simp only [List.append_assoc]

theorem Running.sendByte {c : BitVec 8} (running : Running n ep state)
    (execution : Exec device Hardware state.controller
      (usbTestutilsSimpleserialSendByte c state.memory) usbdev out) :
    Running n ep { state with
      controller := usbdev
      memory := out.2
      accepted := state.accepted ++ acceptedByte c out.1 } := by
  rcases running.balance with ⟨lost, offer, held, balance⟩
  exact running.appended balance
    (sendByte_spec running.registered.below c _ _ _ balance.port execution)

theorem pollFlush_eq (registered : Registered memory) :
    pollFlush callFlush memory.client.ep memory = ssFlush memory := by
  unfold pollFlush
  rw [Code.get_bind_apply, registered.flush]
  rfl

theorem Running.flush {out : Except Failure Unit × Memory} (running : Running n ep state)
    (execution : Exec device Hardware state.controller
      (pollFlush callFlush ep state.memory) usbdev out) :
    Running n ep { state with
      controller := usbdev
      memory := out.2 } := by
  rcases running.balance with ⟨lost, offer, held, balance⟩
  rw [<- running.endpoint, pollFlush_eq running.registered] at execution
  have after := running.appended balance
    (ssFlush_spec running.registered.below _ _ _ balance.port execution).2
  rw [List.append_nil] at after
  exact after

theorem Running.txDone {out : Except Failure Unit × Memory} (running : Running n ep state)
    (sent : state.controller.inSent ep.toNat = true)
    (execution : Exec device Hardware state.controller
      (pollSent callTxDone ep state.memory) usbdev out) :
    Running n ep { state with
      controller := usbdev
      memory := out.2
      collected := state.collected ++ offered state.controller ep.toNat } := by
  rcases running with ⟨registered, endpoint, short, received, lost, offer, held, port, bytes, count⟩
  subst endpoint
  have shown := (port.offered registered.below).1
  rcases pollSent_spec registered _ _ _ ⟨port, sent⟩ execution with ⟨-, pool, isMemory, port'⟩
  rw [isMemory] at port' ⊢
  refine ⟨⟨registered.below, registered.txDone, registered.flush, registered.rx,
    registered.alone⟩, rfl, ?_, received, lost, [], held, port', ?_, count⟩
  · intro packet inside
    rcases List.mem_append.mp inside with before | now
    · exact short packet before
    · rw [shown] at now
      exact port.short now
  · dsimp only
    rw [List.append_nil, shown]
    exact bytes

theorem card_lostWith (entry : RxEntry) (packet : Packet) :
    (lostWith entry packet).card = [packet].count [] := by
  unfold lostWith
  by_cases empty : packet = []
  · rw [if_pos empty, empty]
    rfl
  · rw [if_neg empty, List.count_singleton]
    exact (if_neg (fun same => empty (beq_iff_eq.mp same))).symm

theorem Running.receive {entry : RxEntry} (running : Running n ep state)
    (arrived : Arrived ep state.controller entry)
    (execution : Exec device Hardware state.controller
      (pollReceived callRx state.memory) usbdev out) :
    Running n ep { state with
      controller := usbdev
      memory := out.2
      delivered := state.delivered ++ [entry.packet state.controller] } := by
  rcases running with ⟨registered, endpoint, short, received, lost, offer, held, port, bytes, count⟩
  subst endpoint
  have size := length_packetBytes state.controller entry.buffer.toNat entry.size.toNat
  rcases pollReceived_spec registered arrived.here size (size.trans_le arrived.short) _ _ _
    (port.arriving arrived.head arrived.short) execution with ⟨pool, rfl, -, port'⟩
  refine ⟨⟨registered.below, registered.txDone, registered.flush, registered.rx,
    registered.alone⟩, rfl, short, ?_, _, offer, held, port', bytes, ?_⟩
  · rw [List.flatten_append, <- received]
    exact congrArg (state.memory.client.received ++ ·) (List.append_nil _).symm
  · rw [List.count_append, Multiset.card_add, count, card_lostWith]
    rfl

theorem Running.step (running : Running n ep state) (step : Step n ep state state') :
    Running n ep state' := by
  cases step with
  | hardware move => exact running.hardware move
  | others call inEndpoints outEndpoints allowed elsewhere apart apart' execution =>
      exact running.others allowed elsewhere apart apart' execution
  | sendByte c execution => exact running.sendByte execution
  | flush execution => exact running.flush execution
  | txDone sent execution => exact running.txDone sent execution
  | receive entry arrived execution => exact running.receive arrived execution

/-! ## Beginning -/

/-- Memory after the port has been initialised. -/
def initMemory (memory : Memory) (ep : BitVec 8) : Memory where
  pool := memory.pool
  inEndpoints := Function.update memory.inEndpoints ep.toNat
    (inEndpointSet (memory.inEndpoints ep.toNat) .kUsbTransferTypeBulk (some .ssTxDone)
      (some .ssFlush) none)
  outEndpoints := Function.update memory.outEndpoints ep.toNat
    ⟨.kUsbTransferTypeBulk, some .ssRx, none⟩
  client := { memory.client with ep := ep, sending := false, curCpos := -1 }

theorem init_spec {away : Multiset Nat} {slots : Nat -> Slot} {known : Nat -> Packet}
    {objects : Nat -> Buffer} (below : ep.toNat < 12) :
    Triple device Hardware
      (fun usbdev => Tracked n away slots known ⟨usbdev, memory.pool, objects⟩)
      (usbTestutilsSimpleserialInit ep memory)
      (fun out usbdev => out = (.ok (), initMemory memory ep) ∧
        Tracked n away slots known ⟨usbdev, memory.pool, objects⟩) := by
  unfold usbTestutilsSimpleserialInit usbTestutilsEndpointSetup
  refine Code.triple_bind_ok _ (Code.triple_bind_ok _
    (inEndpointSetup_spec below _ _ _ _) (outEndpointSetup_spec below _ _ _ _)) ?_
  exact Triple.ret stable_tracked (fun _ tracked => ⟨rfl, tracked⟩)

/-- Only an endpoint that there is can be set up. -/
theorem below_of_init {memory' : Memory} {usbdev' : Controller}
    (execution : Exec device Hardware usbdev (usbTestutilsSimpleserialInit ep memory) usbdev'
      (.ok (), memory')) : ep.toNat < 12 := by
  by_contra other
  unfold usbTestutilsSimpleserialInit usbTestutilsEndpointSetup usbTestutilsInEndpointSetup
    inRange at execution
  rw [if_neg other] at execution
  cases (exec_ret execution).1

theorem registered_init (below : ep.toNat < 12)
    (alone : (memory.inEndpoints ep.toNat).transfer.buffer = none) :
    Registered (initMemory memory ep) := by
  have inEntry : (initMemory memory ep).inEndpoints ep.toNat =
      inEndpointSet (memory.inEndpoints ep.toNat) .kUsbTransferTypeBulk (some .ssTxDone)
        (some .ssFlush) none := Function.update_self _ _ _
  have outEntry : (initMemory memory ep).outEndpoints ep.toNat =
      ⟨.kUsbTransferTypeBulk, some .ssRx, none⟩ := Function.update_self _ _ _
  refine ⟨below, congrArg InEndpoint.txDoneCallback inEntry, congrArg InEndpoint.flush inEntry,
    congrArg OutEndpoint.rxCallback outEntry, ?_⟩
  exact (congrArg (fun entry => entry.transfer.buffer) inEntry).trans alone

theorem Reachable.running (reachable : Reachable n ep state) : Running n ep state := by
  induction reachable with
  | step before step ih => exact ih.step step
  | @initialised usbdev usbdev' objects memory memory' configured unused alone silent execution =>
      have below := below_of_init execution
      have tracked : Tracked n 0 (ownSlot ep.toNat .idle) (fun _ => [])
          ⟨usbdev, memory.pool, objects⟩ := tracked_idle configured unused
      rcases init_spec below _ _ _ tracked execution with ⟨same, tracked'⟩
      cases same
      exact ⟨registered_init below alone, rfl, fun packet inside => absurd inside List.not_mem_nil,
        silent, 0, [], [], ⟨fun _ => [], 0, .idle, .nothing rfl, .idle, tracked'⟩, rfl, rfl⟩

/-! ## Nothing is lost when sending -/

/-- What the host has collected, the packet on offer and the bytes gathered are
what has been accepted. -/
structure Lossless (ep : BitVec 8) (state : Serial) : Prop where
  bytes : (state.collected ++ offered state.controller ep.toNat).flatten ++
    heldBytes state.controller state.memory.client = state.accepted
  short : forall packet, packet ∈ state.collected ++ offered state.controller ep.toNat ->
    packet.length <= maxPacketSize
  /-- While a packet is pending, the calls that may send one access nothing but
  packet memory. -/
  waits : state.controller.Pending ep.toNat = true ->
    (forall c, (usbTestutilsSimpleserialSendByte c state.memory).Within
      (AtOrAbove bufferRegOffset)) ∧
    (pollFlush callFlush ep state.memory).Within (AtOrAbove bufferRegOffset)

/-- In every state of every run of a port. -/
theorem simpleserial_lossless (reachable : Reachable n ep state) : Lossless ep state := by
  rcases reachable.running with ⟨registered, rfl, short, received, lost, offer, held, port, bytes,
    count⟩
  rcases port.offered registered.below with ⟨shown, pending⟩
  constructor
  · rw [shown, port.heldBytes]
    exact bytes
  · intro packet inside
    rw [shown] at inside
    rcases List.mem_append.mp inside with before | now
    · exact short packet before
    · exact port.short now
  · intro isPending
    rw [pending] at isPending
    constructor
    · exact within_sendByte isPending
    · rw [pollFlush_eq registered]
      exact within_ssFlush isPending

/-- Memory before a port is initialised. -/
def memoryBefore : Memory where
  pool := configuredSystem.pool
  inEndpoints _ := ⟨.kUsbTransferTypeControl, none, none, none, ⟨none, 0, 0, 0, false, false,
    ⟨0, 0, 0, .kDifUsbdevBufferTypeStale⟩⟩⟩
  outEndpoints _ := ⟨.kUsbTransferTypeControl, none, none⟩
  client := ⟨0, false, ⟨0, 0, 0, .kDifUsbdevBufferTypeStale⟩, -1, Vector.replicate 4 0, []⟩

set_option maxRecDepth 8000 in
/-- A port on the configured driver. -/
theorem reachable_initialised
    (ran : (usbTestutilsSimpleserialInit 1 memoryBefore).run device configuredSystem.controller =
      some ((.ok (), memory), usbdev)) :
    Reachable 1 1 ⟨usbdev, configuredSystem.objects, memory, [], [], []⟩ :=
  .initialised reachable_configuredSystem rfl rfl rfl (exec_of_run ran)

set_option maxRecDepth 8000 in
/-- A byte is accepted, and sent when the port is flushed. -/
theorem simpleserial_lossless_flushed : Exists fun state => Reachable 1 1 state ∧
    state.accepted = [0x41] ∧ offered state.controller 1 = [[0x41]] ∧ Lossless 1 state := by
  have ran : Exists fun usbdev => Exists fun memory => Exists fun usbdev' => Exists fun memory' =>
      Exists fun usbdev'' => Exists fun memory'' =>
      (usbTestutilsSimpleserialInit 1 memoryBefore).run device configuredSystem.controller =
        some ((.ok (), memory), usbdev) ∧
      (usbTestutilsSimpleserialSendByte 0x41 memory).run device usbdev =
        some ((.ok true, memory'), usbdev') ∧
      (pollFlush callFlush 1 memory').run device usbdev' = some ((.ok (), memory''), usbdev'') ∧
      offered usbdev'' 1 = [[0x41]] :=
    ⟨_, _, _, _, _, _, rfl, rfl, rfl, rfl⟩
  rcases ran with ⟨usbdev, memory, usbdev', memory', usbdev'', memory'', init, send, flush, shown⟩
  have accepted : Reachable 1 1 ⟨usbdev', configuredSystem.objects, memory', [], [0x41], []⟩ :=
    (reachable_initialised init).step (@Step.sendByte 1 1 _ usbdev' (.ok true, memory') 0x41
      (exec_of_run send))
  have reachable : Reachable 1 1 ⟨usbdev'', configuredSystem.objects, memory'', [], [0x41], []⟩ :=
    accepted.step (@Step.flush 1 1 _ usbdev'' (.ok (), memory'') (exec_of_run flush))
  exact ⟨_, reachable, rfl, shown, simpleserial_lossless reachable⟩

/-! ## Buffers of packets received -/

/-- A packet has been received: its bytes have been passed on, and its buffer is
in the pool. -/
structure Delivered (before after : Memory) (entry : RxEntry) (packet : Packet) : Prop where
  bytes : after.client.received = before.client.received ++ packet
  buffer : entry.received.id ∈ after.pool.stack

/-- The buffers that a port may keep: the one it gathers bytes in. -/
def gathering (ssctx : SsCtx) : Multiset Nat :=
  if ssctx.curCpos = -1 then 0 else {ssctx.curBuf.id.toNat}

/-- What a port has received, and which buffers are accounted for. -/
structure Receives (n : Nat) (ep : BitVec 8) (state : Serial) : Prop where
  bytes : state.memory.client.received = state.delivered.flatten
  /-- Each packet is delivered, unless it has no bytes. -/
  each : forall (entry : RxEntry) (usbdev : Controller) (out : Except Failure Bool × Memory),
    Arrived ep state.controller entry ->
    Exec device Hardware state.controller (pollReceived callRx state.memory) usbdev out ->
    (Delivered state.memory out.2 entry (entry.packet state.controller) ↔
      entry.packet state.controller ≠ [])
  /-- No buffer is missing as long as all packets had bytes. -/
  accounted : Invariant n (gathering state.memory.client)
      ⟨state.controller, state.memory.pool, state.objects⟩ ↔ [] ∉ state.delivered

/-- What is in hand, apart from what is lost. -/
theorem Gathered.away_eq {ssctx : SsCtx} {known : Nat -> Packet} {away : Multiset Nat}
    (gathered : Gathered ssctx known lost away held) :
    away = lost + gathering ssctx := by
  unfold gathering
  cases gathered with
  | nothing none => rw [if_pos none, add_zero]
  | bytes count front position filled words contains room =>
      rw [if_neg (by omega)]

theorem Port.accounted {objects : Nat -> Buffer} {offer : List Packet}
    (port : Port n objects memory lost offer held usbdev) :
    Invariant n (gathering memory.client) ⟨usbdev, memory.pool, objects⟩ ↔ lost = 0 := by
  rcases port with ⟨known, away, slot, gathered, onOffer, tracked⟩
  have account := tracked.account
  rw [gathered.away_eq] at account
  constructor
  · intro all
    have same := account.accounted.trans all.accounted.symm
    rw [add_right_inj, add_eq_right] at same
    exact same
  · rintro rfl
    rwa [zero_add] at account

theorem Running.delivered_iff {entry : RxEntry} (running : Running n ep state)
    (arrived : Arrived ep state.controller entry)
    (execution : Exec device Hardware state.controller
      (pollReceived callRx state.memory) usbdev out) :
    Delivered state.memory out.2 entry (entry.packet state.controller) ↔
      entry.packet state.controller ≠ [] := by
  have size := length_packetBytes state.controller entry.buffer.toNat entry.size.toNat
  have here := arrived.here
  rw [<- running.endpoint] at here
  rcases running.balance with ⟨lost, offer, held, balance⟩
  rcases pollReceived_spec running.registered here size (size.trans_le arrived.short) _ _ _
    (balance.port.arriving arrived.head arrived.short) execution with ⟨pool, rfl, isBack, port⟩
  constructor
  · exact fun delivered => isBack.mp delivered.buffer
  · exact fun some => ⟨rfl, isBack.mpr some⟩

theorem simpleserial_receives (reachable : Reachable n ep state) : Receives n ep state := by
  have running := reachable.running
  rcases running.balance with ⟨lost, offer, held, port, bytes, count⟩
  refine ⟨running.received, ?_, ?_⟩
  · exact fun entry usbdev out arrived execution => running.delivered_iff arrived execution
  · rw [port.accounted, <- Multiset.card_eq_zero, count, List.count_eq_zero]

/-- An OUT packet is received into a buffer. -/
def receivedOut (usbdev : Controller) (buffer : BitVec 5) (rest : List (BitVec 5))
    (size : BitVec 7) : Controller :=
  { usbdev with
    avOut := rest
    rxFifo := usbdev.rxFifo ++ [⟨1, false, size, buffer⟩]
    memory := storePacket usbdev.memory buffer (fun _ => 0x44332211) }

/-- The run of a port up to a packet that waits for it. -/
structure ArrivalRun (usbdev usbdev' : Controller) (pool : BufferPool) (memory : Memory)
    (buffer : BitVec 5) (rest : List (BitVec 5)) : Prop where
  intro ::
  filled : (Call.perform (.fillAvailableFifos .object .object) configuredSystem.pool
    configuredSystem.objects).run device configuredSystem.controller =
      some ((.kDifOk, pool, configuredSystem.objects), usbdev)
  unused : usbdev.Pending 1 = false
  init : (usbTestutilsSimpleserialInit 1 { memoryBefore with pool := pool }).run device usbdev =
    some ((.ok (), memory), usbdev')
  available : usbdev'.avOut = buffer :: rest
  empty : usbdev'.rxFifo = []

theorem ArrivalRun.arrived {usbdev' : Controller} {pool : BufferPool} {buffer : BitVec 5}
    {rest : List (BitVec 5)} {size : BitVec 7}
    (ran : ArrivalRun usbdev usbdev' pool memory buffer rest) (short : size.toNat <= maxPacketSize) :
    Reachable 1 1 ⟨receivedOut usbdev' buffer rest size, configuredSystem.objects, memory, [], [],
      []⟩ ∧ Arrived 1 (receivedOut usbdev' buffer rest size) ⟨1, false, size, buffer⟩ := by
  have configured : Usbdev.Reachable 1 ⟨usbdev, pool, configuredSystem.objects⟩ :=
    @Usbdev.Reachable.call 1 configuredSystem usbdev (.kDifOk, pool, configuredSystem.objects)
      reachable_configuredSystem (.fillAvailableFifos .object .object) trivial
      (exec_of_run ran.filled)
  have initialised : Reachable 1 1 ⟨usbdev', configuredSystem.objects, memory, [], [], []⟩ :=
    @Reachable.initialised 1 1 usbdev usbdev' configuredSystem.objects
      { memoryBefore with pool := pool } memory configured ran.unused rfl rfl (exec_of_run ran.init)
  have room : usbdev'.rxFifo.length < rxFifoDepth := by
    rw [ran.empty]
    decide
  have head : (receivedOut usbdev' buffer rest size).rxFifo.head? =
      some ⟨1, false, size, buffer⟩ := by
    unfold receivedOut
    rw [ran.empty]
    rfl
  exact ⟨initialised.step (.hardware (.receiveOut 1 size _ ran.available room)), head, rfl, short⟩

set_option maxRecDepth 8000 in
/-- A packet of two bytes waits, and it will be delivered. -/
theorem simpleserial_receives_twoBytes : Exists fun state => Exists fun entry =>
    Reachable 1 1 state ∧ Arrived 1 state.controller entry ∧
      entry.packet state.controller = [0x11, 0x22] ∧ Receives 1 1 state := by
  have ran : Exists fun usbdev => Exists fun usbdev' => Exists fun pool => Exists fun memory =>
      Exists fun buffer => Exists fun rest => ArrivalRun usbdev usbdev' pool memory buffer rest ∧
      RxEntry.packet ⟨1, false, 2, buffer⟩ (receivedOut usbdev' buffer rest 2) = [0x11, 0x22] :=
    ⟨_, _, _, _, _, _, ⟨rfl, rfl, rfl, rfl, rfl⟩, rfl⟩
  rcases ran with ⟨usbdev, usbdev', pool, memory, buffer, rest, ran, packet⟩
  have two : (2 : BitVec 7).toNat <= maxPacketSize := by decide
  rcases ran.arrived two with ⟨reachable, arrived⟩
  exact ⟨_, _, reachable, arrived, packet, simpleserial_receives reachable⟩

set_option maxRecDepth 8000 in
/-- The buffer of a packet without bytes is not returned. -/
theorem not_delivered_empty : Exists fun state => Exists fun entry => Exists fun usbdev =>
    Exists fun out => Reachable 1 1 state ∧ Arrived 1 state.controller entry ∧
      entry.packet state.controller = [] ∧
      Exec device Hardware state.controller (pollReceived callRx state.memory) usbdev out ∧
      ¬ Delivered state.memory out.2 entry (entry.packet state.controller) := by
  have ran : Exists fun usbdev => Exists fun usbdev' => Exists fun pool => Exists fun memory =>
      Exists fun buffer => Exists fun rest => Exists fun finish =>
      ArrivalRun usbdev usbdev' pool memory buffer rest ∧
      (pollReceived callRx memory).run device (receivedOut usbdev' buffer rest (.zero 7)) =
        some ((.ok true, memory), finish) :=
    ⟨_, _, _, _, _, _, _, ⟨rfl, rfl, rfl, rfl, rfl⟩, rfl⟩
  rcases ran with ⟨usbdev, usbdev', pool, memory, buffer, rest, finish, ran, poll⟩
  have none : (BitVec.zero 7).toNat <= maxPacketSize := by decide
  rcases ran.arrived none with ⟨before, arrived⟩
  have execution : Exec device Hardware (receivedOut usbdev' buffer rest (.zero 7))
      (pollReceived callRx memory) finish (.ok true, memory) := exec_of_run poll
  exact ⟨_, ⟨1, false, .zero 7, buffer⟩, finish, _, before, arrived, rfl, execution,
    fun delivered => (before.running.delivered_iff arrived execution).mp delivered rfl⟩

end

end UsbSimpleserial
end SunburstChip
