import SunburstChip.Testing.UsbTransfers

namespace SunburstChip
namespace UsbTransfers

open Mmio Usbdev UsbTestutils Segments

/-!
# Runs of a transfer

A transfer is accepted on an endpoint of a configured driver.  From then on the
host collects packets whenever it likes, and the library is told of each one,
while the controller moves and others use the driver, its buffers included.
The client's callback notes how the transfer went each time it is called.
-/

/-- What the client keeps is how the transfer went, as often as it has been told. -/
abbrev Memory := State Unit (List XfrResult)

/-- A callback that notes that it has been called. -/
def noteDone (_ : Unit) (res : XfrResult) : Code Memory Failure Unit := do
  let state <- Code.get
  Code.set { state with client := state.client ++ [res] }

/-- A transfer of data that is there, in packets of a possible size. -/
structure Request where
  ep : BitVec 8
  data : Option Packet
  length : BitVec 32
  flags : XfrFlags
  enough : length.toNat <= (data.getD []).length
  positive : 1 <= (maxPacket flags).toNat
  bounded : (maxPacket flags).toNat <= maxPacketSize

namespace Request

/-- The bytes to be transferred. -/
def bytes (request : Request) : Packet := (request.data.getD []).take request.length.toNat

/-- The size of a packet that is not the last one. -/
def size (request : Request) : Nat := (maxPacket request.flags).toNat

/-- The call of `usb_testutils_transfer_send`. -/
def send (request : Request) : Code Memory Failure Bool :=
  usbTestutilsTransferSend request.ep request.data request.length request.flags

/-- The packets of the transfer. -/
def packets (request : Request) : List Packet :=
  segments request.size (employZlp request.flags) request.bytes

end Request

/-- The controller, the buffer objects of others, and the memory; and the
packets that had been collected by the host when the library was told. -/
structure Sending where
  controller : Controller
  objects : Nat -> Buffer
  memory : Memory
  collected : List Packet

/-- A step of a run: the controller moves, others use the driver and other
endpoints, or the library is told that a packet has been collected. -/
inductive Step (n : Nat) (ep : BitVec 8) : Sending -> Sending -> Prop where
  | hardware {state : Sending} {usbdev : Controller} (move : Hardware state.controller usbdev) :
      Step n ep state { state with controller := usbdev }
  | others {state : Sending} {usbdev : Controller}
      {result : DifResult × BufferPool × (Nat -> Buffer)} (call : Call)
      (inEndpoints : Nat -> InEndpoint Unit) (outEndpoints : Nat -> OutEndpoint Unit)
      (allowed : call.Allowed n ⟨state.controller, state.memory.pool, state.objects⟩)
      (elsewhere : call.Elsewhere (ownSlot ep.toNat .idle))
      (apart : inEndpoints ep.toNat = state.memory.inEndpoints ep.toNat)
      (execution : Exec device Hardware state.controller
        (call.perform state.memory.pool state.objects) usbdev result) :
      Step n ep state { state with
        controller := usbdev
        objects := result.2.2
        memory := ⟨result.2.1, inEndpoints, outEndpoints, state.memory.client⟩ }
  | txDone {state : Sending} {usbdev : Controller} {out : Except Failure Unit × Memory}
      (sent : state.controller.inSent ep.toNat = true)
      (execution : Exec device Hardware state.controller
        (pollSent noteDone ep state.memory) usbdev out) :
      Step n ep state { state with
        controller := usbdev
        memory := out.2
        collected := state.collected ++ offered state.controller ep.toNat }

/-- The states of the runs in which a transfer has been accepted, on an endpoint
that had no packet on offer. -/
inductive Reachable (request : Request) (n : Nat) : Sending -> Prop where
  | accepted {usbdev usbdev' : Controller} {objects : Nat -> Buffer} {memory memory' : Memory}
      (configured : Usbdev.Reachable n ⟨usbdev, memory.pool, objects⟩)
      (unused : usbdev.Pending request.ep.toNat = false)
      (callback : (memory.inEndpoints request.ep.toNat).txDoneCallback = some ())
      (silent : memory.client = [])
      (execution : Exec device Hardware usbdev (request.send memory) usbdev' (.ok true, memory')) :
      Reachable request n ⟨usbdev', objects, memory', []⟩
  | step {state state' : Sending} (before : Reachable request n state)
      (step : Step n request.ep state state') : Reachable request n state'

/-! ## What holds in every state -/

/-- How far a transfer is: packets are still to be collected, all of them have
been, or it has been given up. -/
inductive Progress (request : Request) (n : Nat) (state : Sending) : Prop where
  | underway (packet : Packet) (rest : List Packet) (silent : state.memory.client = [])
      (packets : state.collected ++ packet :: rest = request.packets)
      (offers : Offers n request.ep.toNat state.objects packet rest
        (state.memory.inEndpoints request.ep.toNat).transfer state.memory.pool state.controller)
  | finished (told : state.memory.client = [.kUsbTestutilsXfrResultOk])
      (packets : state.collected = request.packets)
      (free : Free n request.ep.toNat state.objects state.memory.pool state.controller)
  | failed (told : state.memory.client = [.kUsbTestutilsXfrResultFailed])
      (free : Free n request.ep.toNat state.objects state.memory.pool state.controller)

/-- The callback stays registered, and the endpoint is one there is. -/
structure Running (request : Request) (n : Nat) (state : Sending) : Prop where
  below : request.ep.toNat < 12
  callback : (state.memory.inEndpoints request.ep.toNat).txDoneCallback = some ()
  progress : Progress request n state

section

variable {request : Request} {n ep : Nat} {state state' : Sending}
variable {pool : BufferPool} {usbdev' usbdev : Controller} {objects : Nat -> Buffer}
  {rest : List Packet} {packet : Packet} {memory memory' : Memory}

theorem Free.hardware (free : Free n ep objects pool usbdev) (move : Hardware usbdev usbdev') :
    Free n ep objects pool usbdev' := by
  rcases free with ⟨known, tracked⟩
  exact ⟨known, tracked.hardware move⟩

theorem Running.hardware (running : Running request n state)
    (move : Hardware state.controller usbdev) :
    Running request n { state with controller := usbdev } := by
  refine ⟨running.below, running.callback, ?_⟩
  cases running.progress with
  | underway packet rest silent packets offers =>
      exact .underway packet rest silent packets (offers.hardware move)
  | finished told packets free => exact .finished told packets (Free.hardware free move)
  | failed told free => exact .failed told (Free.hardware free move)

/-- What others do. -/
theorem Running.others {result : DifResult × BufferPool × (Nat -> Buffer)} {call : Call}
    {inEndpoints : Nat -> InEndpoint Unit} {outEndpoints : Nat -> OutEndpoint Unit}
    (running : Running request n state)
    (allowed : call.Allowed n ⟨state.controller, state.memory.pool, state.objects⟩)
    (elsewhere : call.Elsewhere (ownSlot request.ep.toNat .idle))
    (apart : inEndpoints request.ep.toNat = state.memory.inEndpoints request.ep.toNat)
    (execution : Exec device Hardware state.controller
      (call.perform state.memory.pool state.objects) usbdev result) :
    Running request n { state with
      controller := usbdev
      objects := result.2.2
      memory := ⟨result.2.1, inEndpoints, outEndpoints, state.memory.client⟩ } := by
  have kept {away : Multiset Nat} {slot : Slot} {known : Nat -> Packet}
      (tracked : Tracked n away (ownSlot request.ep.toNat slot) known
        ⟨state.controller, state.memory.pool, state.objects⟩) :
      Tracked n away (ownSlot request.ep.toNat slot) known ⟨usbdev, result.2.1, result.2.2⟩ :=
    perform_tracked call (elsewhere_ownSlot elsewhere slot) _ _ _ ⟨tracked, allowed⟩ execution
  have free (free : Free n request.ep.toNat state.objects state.memory.pool state.controller) :
      Free n request.ep.toNat result.2.2 result.2.1 usbdev := by
    rcases free with ⟨known, tracked⟩
    exact ⟨known, kept tracked⟩
  refine ⟨running.below, ?_, ?_⟩
  · dsimp only
    rw [apart]
    exact running.callback
  · cases running.progress with
    | finished told packets before => exact .finished told packets (free before)
    | failed told before => exact .failed told (free before)
    | underway packet rest silent packets offers =>
        refine .underway packet rest silent packets ?_
        dsimp only
        rw [apart]
        rcases offers.ahead with ⟨known, id, contains, ⟨invalid, last, tracked⟩ |
          ⟨valid, next, filled, holds, more, tracked⟩⟩
        · exact ⟨offers.sound, offers.alone, known, id, contains,
            .inl ⟨invalid, last, kept tracked⟩⟩
        · exact ⟨offers.sound, offers.alone, known, id, contains,
            .inr ⟨valid, next, filled, holds, more, kept tracked⟩⟩

/-! ## A completion -/

/-- The packet on offer is the one that is sent. -/
theorem Offers.offered {transfer : Transfer} (below : ep < 12)
    (offers : Offers n ep objects packet rest transfer pool usbdev) :
    usbdev.Pending ep = true ∧ Usbdev.offered usbdev ep = [packet] := by
  rcases offers.ahead with ⟨known, id, contains, ahead⟩
  have tracked : Exists fun away => Tracked n away (ownSlot ep (.holds id packet.length)) known
      ⟨usbdev, pool, objects⟩ := by
    rcases ahead with ⟨_, _, tracked⟩ | ⟨_, next, _, _, _, tracked⟩
    · exact ⟨_, tracked⟩
    · exact ⟨_, tracked⟩
  rcases tracked with ⟨away, tracked⟩
  exact tracked.offers below (Function.update_self _ _ _) contains

theorem Free.idle (free : Free n ep objects pool usbdev) : usbdev.Pending ep = false := by
  rcases free with ⟨known, tracked⟩
  have described := tracked.endpoints ep
  rw [ownSlot, Function.update_self] at described
  exact described

/-- Once its packet has been collected, the endpoint has the rest to send. -/
theorem Offers.cleared {transfer : Transfer} (below : request.ep.toNat < 12) :
    Triple device Hardware
      (fun usbdev => Offers n request.ep.toNat objects packet rest transfer pool usbdev ∧
        usbdev.inSent request.ep.toNat = true)
      (difUsbdevClearTxStatus .object .object pool request.ep)
      (fun out usbdev => out.1 = .kDifOk ∧
        Rests n request.ep.toNat objects rest transfer out.2 usbdev) := by
  rintro start finish out ⟨offers, sent⟩ execution
  rcases offers.ahead with ⟨known, id, contains, ⟨invalid, last, tracked⟩ |
    ⟨valid, next, filled, holds, more, tracked⟩⟩
  · have cleared := clearTxStatus_tracked below start finish out ⟨tracked, sent⟩ execution
    rw [ownSlot_update] at cleared
    exact ⟨cleared.1, .inl ⟨invalid, last, known, cleared.2⟩⟩
  · have cleared := clearTxStatus_tracked below start finish out ⟨tracked, sent⟩ execution
    rw [ownSlot_update] at cleared
    exact ⟨cleared.1, .inr ⟨valid, next, known, filled, holds, more, cleared.2⟩⟩

theorem stable_continued {done : Bool} {res : XfrResult} :
    Stable Hardware (fun usbdev => Continued n ep objects memory usbdev rest done res memory') := by
  intro usbdev usbdev' move continued
  cases continued with
  | finished transfer forgotten free => exact .finished transfer forgotten (Free.hardware free move)
  | failed transfer packet rest forgotten free =>
      exact .failed transfer packet rest forgotten (Free.hardware free move)
  | underway transfer pool packet rest offers =>
      exact .underway transfer pool packet rest (offers.hardware move)

/-- The callback is left as it is. -/
theorem txDoneCallback_continued {done : Bool} {res : XfrResult}
    (continued : Continued n ep objects memory usbdev rest done res memory') :
    (memory'.inEndpoints ep).txDoneCallback = (memory.inEndpoints ep).txDoneCallback := by
  have kept (memory : Memory) (transfer : Transfer) :
      ((memory.setTransfer ep transfer).inEndpoints ep).txDoneCallback =
        (memory.inEndpoints ep).txDoneCallback := by
    unfold State.setTransfer State.setIn
    dsimp only
    rw [Function.update_self]
  cases continued with
  | finished | failed | underway => exact kept _ _

/-- Memory after the client has been told, if it is. -/
def told (done : Bool) (res : XfrResult) (memory : Memory) : Memory :=
  if done then { memory with client := memory.client ++ [res] } else memory

/-- The library is told that the packet on offer has been collected. -/
theorem pollSent_spec (below : request.ep.toNat < 12)
    (callback : (memory.inEndpoints request.ep.toNat).txDoneCallback = some ()) :
    Triple device Hardware
      (fun usbdev => Offers n request.ep.toNat objects packet rest
          (memory.inEndpoints request.ep.toNat).transfer memory.pool usbdev ∧
        usbdev.inSent request.ep.toNat = true)
      (pollSent noteDone request.ep memory)
      (fun out usbdev => Exists fun pool => Exists fun done => Exists fun res =>
        Exists fun memory' => out = (.ok (), told done res memory') ∧
          Continued n request.ep.toNat objects { memory with pool := pool } usbdev rest done res
            memory') := by
  rintro start finish out ⟨offers, sent⟩ execution
  have sound := offers.sound
  have alone := offers.alone
  unfold pollSent at execution
  rw [Code.get_bind_apply, Code.lift_bind_apply] at execution
  rcases exec_bind execution with ⟨middle, ⟨result, pool⟩, clearing, execution⟩
  rcases Offers.cleared below start middle _ ⟨offers, sent⟩ clearing with ⟨cleared, rests⟩
  dsimp only at cleared rests execution
  rw [cleared, Code.set_bind_apply, tryDif_ok_bind, Code.bind_apply] at execution
  rcases exec_bind execution with ⟨later, ⟨value, memory'⟩, continuing, execution⟩
  have entry : (({ memory with pool := pool } : Memory).inEndpoints request.ep.toNat).transfer =
      (memory.inEndpoints request.ep.toNat).transfer := rfl
  rcases continueTransfer_spec below entry sound alone middle later _ rests continuing with
    ⟨done, res, rfl, continued⟩
  dsimp only at continued
  have registered := (txDoneCallback_continued continued).trans callback
  change Exec device Hardware later (((Code.get >>= fun state => _) : Code Memory Failure Unit)
    memory') finish out at execution
  rw [Code.get_bind_apply] at execution
  dsimp only at execution
  rw [registered] at execution
  cases done with
  | true =>
      rcases Triple.returned stable_continued continued execution with ⟨rfl, after⟩
      exact ⟨pool, true, res, memory', rfl, after⟩
  | false =>
      rcases Triple.returned stable_continued continued execution with ⟨rfl, after⟩
      exact ⟨pool, false, res, memory', rfl, after⟩

theorem Running.txDone {out : Except Failure Unit × Memory} (running : Running request n state)
    (sent : state.controller.inSent request.ep.toNat = true)
    (execution : Exec device Hardware state.controller
      (pollSent noteDone request.ep state.memory) usbdev out) :
    Running request n { state with
      controller := usbdev
      memory := out.2
      collected := state.collected ++ offered state.controller request.ep.toNat } := by
  have pending : state.controller.Pending request.ep.toNat = true := by
    rw [Controller.Pending, sent, Bool.or_true]
  cases running.progress with
  | finished told packets free => exact Bool.noConfusion (pending.symm.trans (Free.idle free))
  | failed told free => exact Bool.noConfusion (pending.symm.trans (Free.idle free))
  | underway packet rest silent packets offers =>
      have on := (Offers.offered running.below offers).2
      rcases pollSent_spec running.below running.callback _ _ _ ⟨offers, sent⟩ execution with
        ⟨pool, done, res, memory', rfl, continued⟩
      have callback := (txDoneCallback_continued continued).trans running.callback
      rw [on]
      cases continued with
      | finished transfer forgotten free =>
          refine ⟨running.below, callback, .finished ?_ packets free⟩
          exact congrArg (fun reports => reports ++ [XfrResult.kUsbTestutilsXfrResultOk]) silent
      | failed transfer packet' rest' forgotten free =>
          refine ⟨running.below, callback, .failed ?_ free⟩
          exact congrArg (fun reports => reports ++ [XfrResult.kUsbTestutilsXfrResultFailed]) silent
      | underway transfer pool' packet' rest' after =>
          refine ⟨running.below, callback, .underway packet' rest' silent ?_ ?_⟩
          · rw [List.append_assoc]
            exact packets
          · change Offers n _ _ packet' rest' ((State.setTransfer _ _ transfer).inEndpoints _).transfer
              pool' usbdev
            rw [State.transfer_setTransfer]
            exact after

theorem Running.step (running : Running request n state)
    (step : Step n request.ep state state') : Running request n state' := by
  cases step with
  | hardware move => exact running.hardware move
  | others call inEndpoints outEndpoints allowed elsewhere apart execution =>
      exact running.others allowed elsewhere apart execution
  | txDone sent execution => exact running.txDone sent execution

/-! ## Beginning -/

/-- A transfer is only accepted on an endpoint there is, which has none in progress. -/
theorem free_of_send
    (execution : Exec device Hardware usbdev (request.send memory) usbdev' (.ok true, memory')) :
    request.ep.toNat < 12 ∧ (memory.inEndpoints request.ep.toNat).transfer.buffer = none := by
  unfold Request.send usbTestutilsTransferSend at execution
  by_cases below : request.ep.toNat < 12
  · refine ⟨below, ?_⟩
    rw [check_bind (decide_eq_true below), Code.get_bind_apply] at execution
    cases buffer : (memory.inEndpoints request.ep.toNat).transfer.buffer with
    | none => rfl
    | some data =>
        rw [if_pos (by rw [buffer]; rfl)] at execution
        cases (exec_ret execution).1
  · unfold check at execution
    rw [decide_eq_false below] at execution
    cases (exec_ret execution).1

theorem running_accepted (configured : Usbdev.Reachable n ⟨usbdev, memory.pool, objects⟩)
    (unused : usbdev.Pending request.ep.toNat = false)
    (callback : (memory.inEndpoints request.ep.toNat).txDoneCallback = some ())
    (silent : memory.client = [])
    (execution : Exec device Hardware usbdev (request.send memory) usbdev' (.ok true, memory')) :
    Running request n ⟨usbdev', objects, memory', []⟩ := by
  rcases free_of_send execution with ⟨below, free⟩
  have tracked : Tracked n 0 (ownSlot request.ep.toNat .idle) (fun _ => [])
      ⟨usbdev, memory.pool, objects⟩ := tracked_idle configured unused
  rcases transferSend_spec below free request.positive request.bounded request.enough _ _ _ tracked
    execution with ⟨refused, _⟩ | ⟨packet, rest, transfer, pool, packets, accepted, offers⟩
  · cases refused
  · have memory_eq := (Prod.mk.inj accepted).2
    subst memory_eq
    have entry : (({ memory with pool := pool } : Memory).setTransfer request.ep.toNat
        transfer).inEndpoints request.ep.toNat =
          { memory.inEndpoints request.ep.toNat with transfer := transfer } :=
      Function.update_self _ _ _
    refine ⟨below, ?_, .underway packet rest silent packets.symm ?_⟩
    · dsimp only
      rw [entry]
      exact callback
    · dsimp only
      rw [entry]
      exact offers

theorem Reachable.running (reachable : Reachable request n state) : Running request n state := by
  induction reachable with
  | accepted configured unused callback silent execution =>
      exact running_accepted configured unused callback silent execution
  | step before step ih => exact ih.step step

/-! ## The packets of a transfer -/

/-- What the host has got of a transfer, and what the client has been told. -/
structure Segmented (request : Request) (state : Sending) : Prop where
  once : state.memory.client = [] ∨ state.memory.client = [.kUsbTestutilsXfrResultOk]
  /-- Until the client is told, a packet is on offer, and those that have been
  collected continue to a cut of the data. -/
  underway : state.memory.client = [] ->
    Exists fun packet => Exists fun rest =>
      offered state.controller request.ep.toNat = [packet] ∧
      IsCut request.size (employZlp request.flags) request.bytes
        (state.collected ++ packet :: rest)
  /-- When it has been told, the packets collected are a cut of the data. -/
  finished : state.memory.client = [.kUsbTestutilsXfrResultOk] ->
    offered state.controller request.ep.toNat = [] ∧
    IsCut request.size (employZlp request.flags) request.bytes state.collected
  /-- Any transfer of the data in packets of that size, with double buffering or
  without, has the same packets. -/
  same : forall (request' : Request) (n' : Nat) (state' : Sending), Reachable request' n' state' ->
    request'.bytes = request.bytes -> request'.size = request.size ->
    employZlp request'.flags = employZlp request.flags ->
    state.memory.client = [.kUsbTestutilsXfrResultOk] ->
    state'.memory.client = [.kUsbTestutilsXfrResultOk] -> state'.collected = state.collected

theorem Running.finished (running : Running request n state)
    (done : state.memory.client = [.kUsbTestutilsXfrResultOk]) :
    state.collected = request.packets ∧
      Free n request.ep.toNat state.objects state.memory.pool state.controller := by
  cases running.progress with
  | underway packet rest silent packets offers => exact absurd (silent.symm.trans done) nofun
  | finished told packets free => exact ⟨packets, free⟩
  | failed told free => exact absurd (told.symm.trans done) nofun

/-- In every state of every run in which no error is reported. -/
theorem transfer_segmented (reachable : Reachable request n state)
    (fine : forall res, res ∈ state.memory.client -> res = .kUsbTestutilsXfrResultOk) :
    Segmented request state := by
  have running := reachable.running
  have cut : IsCut request.size (employZlp request.flags) request.bytes request.packets :=
    isCut_segments request.positive _ _
  constructor
  · cases running.progress with
    | underway packet rest silent packets offers => exact .inl silent
    | finished told packets free => exact .inr told
    | failed told free =>
        have failed := fine .kUsbTestutilsXfrResultFailed (by rw [told]; exact List.mem_singleton_self _)
        cases failed
  · intro silent
    cases running.progress with
    | underway packet rest _ packets offers =>
        rw [<- packets] at cut
        exact ⟨packet, rest, (Offers.offered running.below offers).2, cut⟩
    | finished told packets free => exact absurd (silent.symm.trans told) nofun
    | failed told free => exact absurd (silent.symm.trans told) nofun
  · intro done
    rcases running.finished done with ⟨packets, free⟩
    refine ⟨?_, packets ▸ cut⟩
    unfold offered
    rw [Free.idle free]
    rfl
  · intro request' n' state' reachable' bytes size zlp done done'
    rw [(running.finished done).1, (reachable'.running.finished done').1]
    unfold Request.packets
    rw [bytes, size, zlp]

/-- Two bytes in packets of two, ended by an empty packet, with double buffering. -/
def twoBytes : Request where
  ep := 1
  data := some [0x12, 0x34]
  length := 2
  flags := 0x702
  enough := Nat.le_refl _
  positive := by decide
  bounded := by decide

/-- Memory before the transfer. -/
def memoryBefore : Memory where
  pool := configuredSystem.pool
  inEndpoints _ := ⟨.kUsbTransferTypeBulk, some (), none, none, ⟨none, 0, 0, 0, false, false,
    ⟨0, 0, 0, .kDifUsbdevBufferTypeStale⟩⟩⟩
  outEndpoints _ := ⟨.kUsbTransferTypeBulk, none, none⟩
  client := []

/-- The host collects the packet of an endpoint. -/
def acknowledged (usbdev : Controller) (ep : Nat) : Controller :=
  { usbdev with
    configIn := Function.update usbdev.configIn ep
      { usbdev.configIn ep with sending := false, rdy := false }
    inSent := Function.update usbdev.inSent ep true }

/-- A completion, if the endpoint has a packet. -/
theorem Reachable.completion (reachable : Reachable request n state)
    (inside : request.ep.toNat < numEndpoints)
    (ready : (state.controller.configIn request.ep.toNat).rdy = true)
    (ran : (pollSent noteDone request.ep state.memory).run device
      (acknowledged state.controller request.ep.toNat) = some ((.ok (), memory), usbdev)) :
    Reachable request n ⟨usbdev, state.objects, memory, state.collected ++
      offered (acknowledged state.controller request.ep.toNat) request.ep.toNat⟩ := by
  have collected : Reachable request n
      { state with controller := acknowledged state.controller request.ep.toNat } :=
    reachable.step (.hardware (.acknowledge _ inside ready))
  have sent : (acknowledged state.controller request.ep.toNat).inSent request.ep.toNat = true :=
    Function.update_self _ _ _
  exact collected.step (@Step.txDone n request.ep _ usbdev (.ok (), memory) sent (exec_of_run ran))

set_option maxRecDepth 8000 in
theorem transfer_segmented_twoBytes : Exists fun state => Reachable twoBytes 1 state ∧
    state.memory.client = [.kUsbTestutilsXfrResultOk] ∧ Segmented twoBytes state := by
  have ran : Exists fun usbdev => Exists fun memory =>
      Exists fun usbdev' => Exists fun memory' => Exists fun usbdev'' => Exists fun memory'' =>
      (twoBytes.send memoryBefore).run device configuredSystem.controller =
        some ((.ok true, memory), usbdev) ∧
      (usbdev.configIn 1).rdy = true ∧
      (pollSent noteDone 1 memory).run device (acknowledged usbdev 1) =
        some ((.ok (), memory'), usbdev') ∧
      (usbdev'.configIn 1).rdy = true ∧
      (pollSent noteDone 1 memory').run device (acknowledged usbdev' 1) =
        some ((.ok (), memory''), usbdev'') ∧
      memory''.client = [.kUsbTestutilsXfrResultOk] :=
    ⟨_, _, _, _, _, _, rfl, rfl, rfl, rfl, rfl, rfl⟩
  rcases ran with ⟨usbdev, memory, usbdev', memory', usbdev'', memory'', send, ready, poll, ready',
    poll', told⟩
  have accepted : Reachable twoBytes 1 ⟨usbdev, configuredSystem.objects, memory, []⟩ :=
    .accepted reachable_configuredSystem rfl rfl rfl (exec_of_run send)
  have reachable := (accepted.completion (by decide) ready poll).completion (by decide) ready' poll'
  refine ⟨_, reachable, told, transfer_segmented reachable ?_⟩
  intro res inside
  rw [show memory''.client = _ from told] at inside
  exact List.mem_singleton.mp inside

end

end UsbTransfers
end SunburstChip
