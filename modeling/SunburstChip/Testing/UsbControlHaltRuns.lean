import SunburstChip.Testing.UsbControlHalt

namespace SunburstChip
namespace UsbControlEp

open Mmio Usbdev UsbTestutils
open Function (update update_eq_self_iff update_of_ne update_self)

/-!
# Runs of requests about halted endpoints

The host makes such requests one after the other, each when the last has been
completed, while the controller moves and others use the driver.  What it has
last asked for is kept with the state, and compared with the settings.
-/

/-- The controller, the buffer objects of others and the memory, with what the
host has last asked for. -/
structure Halting where
  controller : Controller
  objects : Nat -> Buffer
  memory : Memory
  last : EndpointId -> Bool

/-- What the host has last asked for after a request. -/
def HaltRequest.asks (last : EndpointId -> Bool) : HaltRequest -> EndpointId -> Bool
  | setFeature endpoint => update last endpoint true
  | clearFeature endpoint => update last endpoint false
  | getStatus _ => last

/-- The next packet is a request. -/
structure Requested (ep : BitVec 8) (usbdev : Controller) (entry : RxEntry)
    (request : HaltRequest) : Prop where
  head : usbdev.rxFifo.head? = some entry
  here : entry.ep.toNat = ep.toNat
  setup : entry.setup = true
  size : entry.size = 8
  packet : entry.packet usbdev = request.bytes

/-- A request is served. -/
inductive Halting.Serves (n : Nat) (ep : BitVec 8) : Halting -> HaltRequest -> Halting -> Prop where
  | intro {state : Halting} {usbdev : Controller} {out : Except Failure Bool × Memory}
      {request : HaltRequest} (entry : RxEntry)
      (valid : request.endpoint.number.toNat < 12)
      (idle : state.memory.client.ctrlstate = .kUsbTestutilsCtIdle)
      (requested : Requested ep state.controller entry request)
      (execution : Exec device Hardware state.controller
        (pollReceived callRx state.memory) usbdev out)
      (served : out.1 = .ok true) :
      Serves n ep state request ⟨usbdev, state.objects, out.2, request.asks state.last⟩

/-- What happens between requests: the controller moves, a SETUP packet clears
settings of the control endpoint, others use the driver and other endpoints,
and the further stages of a request are completed. -/
inductive Halting.Step (n : Nat) (ep : BitVec 8) : Halting -> Halting -> Prop where
  | hardware {state : Halting} {usbdev : Controller} (move : Hardware state.controller usbdev) :
      Step n ep state { state with controller := usbdev }
  | setup (state : Halting) :
      Step n ep state { state with controller := state.controller.setupArrives ep }
  | others {state : Halting} {usbdev : Controller}
      {result : DifResult × BufferPool × (Nat -> Buffer)} (call : Call)
      (inEndpoints : Nat -> InEndpoint Callback) (outEndpoints : Nat -> OutEndpoint Callback)
      (allowed : call.Allowed n ⟨state.controller, state.memory.pool, state.objects⟩)
      (elsewhere : call.Elsewhere (ownSlot ep.toNat .idle))
      (apart : inEndpoints ep.toNat = state.memory.inEndpoints ep.toNat)
      (apart' : outEndpoints ep.toNat = state.memory.outEndpoints ep.toNat)
      (execution : Exec device Hardware state.controller
        (call.perform state.memory.pool state.objects) usbdev result) :
      Step n ep state { state with
        controller := usbdev
        objects := result.2.2
        memory := ⟨result.2.1, inEndpoints, outEndpoints, state.memory.client⟩ }
  | sent {state : Halting} {usbdev : Controller} {out : Except Failure Unit × Memory}
      (collected : state.controller.inSent ep.toNat = true)
      (execution : Exec device Hardware state.controller
        (pollSent callTxDone ep state.memory) usbdev out) :
      Step n ep state { state with
        controller := usbdev
        memory := out.2 }
  | status {state : Halting} {usbdev : Controller} {out : Except Failure Bool × Memory}
      (entry : RxEntry) (head : state.controller.rxFifo.head? = some entry)
      (here : entry.ep.toNat = ep.toNat) (isOut : entry.setup = false) (empty : entry.size = 0)
      (stage : state.memory.client.ctrlstate = .kUsbTestutilsCtStatOut)
      (execution : Exec device Hardware state.controller
        (pollReceived callRx state.memory) usbdev out) :
      Step n ep state { state with
        controller := usbdev
        memory := out.2 }

/-- The states of the runs of a control endpoint, which has been initialised on
an endpoint that was not in use, with requests that are `allowed`. -/
inductive Halting.Reachable (n : Nat) (ep : BitVec 8) (allowed : Halting -> HaltRequest -> Prop) :
    Halting -> Prop where
  | initialised {usbdev usbdev' : Controller} {objects : Nat -> Buffer} {memory memory' : Memory}
      {cfgDscr : List (BitVec 8)} {cfgDscrLen : BitVec 32} {testDscr : Option (List (BitVec 8))}
      {testDscrLen : BitVec 32}
      (configured : Usbdev.Reachable n ⟨usbdev, memory.pool, objects⟩)
      (unused : usbdev.Pending ep.toNat = false)
      (alone : (memory.inEndpoints ep.toNat).transfer.buffer = none)
      (execution : Exec device Hardware usbdev
        (usbTestutilsControlepInit ep cfgDscr cfgDscrLen testDscr testDscrLen memory) usbdev'
        (.ok (), memory')) :
      Reachable n ep allowed ⟨usbdev', objects, memory', usbdev'.stall⟩
  | step {state state' : Halting} (before : Reachable n ep allowed state)
      (step : Step n ep state state') : Reachable n ep allowed state'
  | request {state state' : Halting} {request : HaltRequest}
      (before : Reachable n ep allowed state) (isAllowed : allowed state request)
      (serves : Serves n ep state request state') : Reachable n ep allowed state'

/-! ## The control endpoint in every state -/

/-- The stages of these requests. -/
def haltStages : List CtState :=
  [.kUsbTestutilsCtIdle, .kUsbTestutilsCtStatIn, .kUsbTestutilsCtWaitIn, .kUsbTestutilsCtStatOut]

/-- The callbacks of the control endpoint are registered, and it has no larger transfer. -/
structure Registered (ep : BitVec 8) (memory : Memory) : Prop where
  below : ep.toNat < 12
  endpoint : memory.client.ep = ep
  txDone : (memory.inEndpoints ep.toNat).txDoneCallback = some .ctrlTxDone
  rx : (memory.outEndpoints ep.toNat).rxCallback = some .ctrlRx
  alone : (memory.inEndpoints ep.toNat).transfer.buffer = none

/-- Nothing is in hand, and a packet is on offer at most while it waits to be collected. -/
structure Halting.Running (n : Nat) (ep : BitVec 8) (state : Halting) : Prop where
  registered : Registered ep state.memory
  stage : state.memory.client.ctrlstate ∈ haltStages
  tracked : Exists fun known => Exists fun slot =>
    Tracked n 0 (ownSlot ep.toNat slot) known
      ⟨state.controller, state.memory.pool, state.objects⟩ ∧
    (state.memory.client.ctrlstate = .kUsbTestutilsCtIdle ∨
      state.memory.client.ctrlstate = .kUsbTestutilsCtStatOut -> slot = .idle)

section

variable {n : Nat} {ep : BitVec 8} {state state' : Halting} {request : HaltRequest}
  {allowed : Halting -> HaltRequest -> Prop}
variable {memory : Memory} {usbdev : Controller}

theorem Registered.stageSet (registered : Registered ep memory) (pool : BufferPool)
    (ctrlstate : CtState) : Registered ep (stageSet memory pool ctrlstate) :=
  ⟨registered.below, registered.endpoint, registered.txDone, registered.rx, registered.alone⟩

/-- What a request changes. -/
structure Answered (n : Nat) (ep : BitVec 8) (state : Halting) (request : HaltRequest)
    (state' : Halting) : Prop where
  running : state'.Running n ep
  last : state'.last = request.asks state.last
  stall : state'.controller.stall = request.leaves state.controller.stall
  reply : offered state'.controller ep.toNat = [request.reply state.controller.stall]

theorem isValidEndpoint_number {number : BitVec 4} (valid : number.toNat < 12) :
    isValidEndpoint (number.setWidth 8) = true := by
  apply decide_eq_true
  rw [BitVec.toNat_setWidth]
  change _ < 12
  omega

theorem Requested.waiting {known : Nat -> Packet} {slots : Nat -> Slot} {entry : RxEntry}
    {pool : BufferPool} {objects : Nat -> Buffer} (requested : Requested ep usbdev entry request)
    (tracked : Tracked n 0 slots known ⟨usbdev, pool, objects⟩) :
    Waiting n 0 slots known pool objects entry request.bytes usbdev := by
  have short : entry.size.toNat <= maxPacketSize := by
    rw [requested.size]
    decide
  refine ⟨tracked, requested.head, ?_⟩
  rw [<- requested.packet]
  exact beginsWith_packetBytes _ _ short

theorem stage_halts (request : HaltRequest) : request.stage ∈ haltStages ∧
    ¬ (request.stage = .kUsbTestutilsCtIdle ∨ request.stage = .kUsbTestutilsCtStatOut) := by
  cases request <;> simp [HaltRequest.stage, haltStages]

theorem Halting.Running.answers (running : state.Running n ep)
    (serves : Serves n ep state request state') : Answered n ep state request state' := by
  cases serves with
  | intro entry valid idle requested execution served =>
      rcases running with ⟨registered, stage, known, slot, tracked, ifIdle⟩
      have isIdle := ifIdle (.inl idle)
      subst isIdle
      have below := registered.below
      have here := requested.here
      rcases pollReceived_calls (here ▸ below) (here ▸ registered.rx) (requested.waiting tracked)
        rfl execution with ⟨middle, later, ⟨result, memory'⟩, tracked', stall, calling, returning⟩
      have inside : state.memory.client.ep.toNat < 12 := registered.endpoint ▸ below
      have free : ownSlot ep.toNat .idle state.memory.client.ep.toNat = .idle := by
        rw [registered.endpoint]
        exact update_self _ _ _
      have answered := ctrlRx_request inside free (isValidEndpoint_number valid) idle
        requested.setup requested.size middle later _ ⟨tracked', stall⟩ calling
      cases result with
      | error reason =>
          rw [(exec_ret returning).1] at served
          cases served
      | ok =>
          rcases answered rfl with ⟨known', id, pool, rfl, contains, held⟩
          rw [registered.endpoint, ownSlot_update] at held
          rcases Triple.returned stable_held held returning with ⟨rfl, held'⟩
          have offers := held'.tracked.offers below (update_self _ _ _) contains
          refine ⟨⟨registered.stageSet pool _, ?_, known', _, held'.tracked, ?_⟩, rfl, held'.stall,
            offers.2⟩
          · exact (stage_halts request).1
          · exact fun waits => absurd waits (stage_halts request).2

/-- After a packet that was collected, the next stage is that of a packet from the host. -/
theorem ctrlTxDone_halting (stage : memory.client.ctrlstate ∈ haltStages) (pool : BufferPool)
    (result : XfrResult) : Exists fun ctrlstate => ctrlstate ∈ haltStages ∧
      callTxDone .ctrlTxDone result { memory with pool := pool } =
        .ret (.ok (), stageSet memory pool ctrlstate) := by
  unfold callTxDone
  dsimp only
  unfold ctrlTxDone
  rw [Code.get_bind_apply]
  cases isStage : memory.client.ctrlstate with
  | kUsbTestutilsCtIdle | kUsbTestutilsCtStatOut =>
      refine ⟨memory.client.ctrlstate, stage, ?_⟩
      rfl
  | kUsbTestutilsCtStatIn => exact ⟨.kUsbTestutilsCtIdle, by decide, rfl⟩
  | kUsbTestutilsCtWaitIn => exact ⟨.kUsbTestutilsCtStatOut, by decide, rfl⟩
  | kUsbTestutilsCtAddrStatIn | kUsbTestutilsCtCfgStatIn | kUsbTestutilsCtError =>
      rw [isStage] at stage
      exact absurd stage (by decide)

theorem Halting.Running.hardware (running : state.Running n ep)
    (move : Hardware state.controller usbdev) :
    Halting.Running n ep { state with controller := usbdev } := by
  rcases running with ⟨registered, stage, known, slot, tracked, ifIdle⟩
  exact ⟨registered, stage, known, slot, tracked.hardware move, ifIdle⟩

theorem Halting.Running.setup (running : state.Running n ep) :
    Halting.Running n ep { state with controller := state.controller.setupArrives ep } := by
  rcases running with ⟨registered, stage, known, slot, tracked, ifIdle⟩
  exact ⟨registered, stage, known, slot, tracked.regs _, ifIdle⟩

theorem Halting.Running.others {result : DifResult × BufferPool × (Nat -> Buffer)} {call : Call}
    {inEndpoints : Nat -> InEndpoint Callback} {outEndpoints : Nat -> OutEndpoint Callback}
    (running : state.Running n ep)
    (allowed : call.Allowed n ⟨state.controller, state.memory.pool, state.objects⟩)
    (elsewhere : call.Elsewhere (ownSlot ep.toNat .idle))
    (apart : inEndpoints ep.toNat = state.memory.inEndpoints ep.toNat)
    (apart' : outEndpoints ep.toNat = state.memory.outEndpoints ep.toNat)
    (execution : Exec device Hardware state.controller
      (call.perform state.memory.pool state.objects) usbdev result) :
    Halting.Running n ep { state with
      controller := usbdev
      objects := result.2.2
      memory := ⟨result.2.1, inEndpoints, outEndpoints, state.memory.client⟩ } := by
  rcases running with ⟨registered, stage, known, slot, tracked, ifIdle⟩
  have tracked' := perform_tracked call (elsewhere_ownSlot elsewhere slot) _ _ _
    ⟨tracked, allowed⟩ execution
  refine ⟨⟨registered.below, registered.endpoint, ?_, ?_, ?_⟩, stage, known, slot, tracked', ifIdle⟩
  · dsimp only
    rw [apart]
    exact registered.txDone
  · dsimp only
    rw [apart']
    exact registered.rx
  · dsimp only
    rw [apart]
    exact registered.alone

/-- A packet that was collected changes no settings. -/
theorem Halting.Running.sent {out : Except Failure Unit × Memory} (running : state.Running n ep)
    (collected : state.controller.inSent ep.toNat = true)
    (execution : Exec device Hardware state.controller
      (pollSent callTxDone ep state.memory) usbdev out) :
    Halting.Running n ep { state with controller := usbdev, memory := out.2 } ∧
      usbdev.stall = state.controller.stall := by
  rcases running with ⟨registered, stage, known, slot, tracked, ifIdle⟩
  rcases pollSent_calls registered.below registered.txDone registered.alone tracked collected rfl
    execution with ⟨middle, pool, tracked', stall, calling⟩
  rcases ctrlTxDone_halting stage pool .kUsbTestutilsXfrResultOk with ⟨ctrlstate, halts, isRet⟩
  rw [isRet] at calling
  rw [ownSlot_update] at tracked'
  have held : Held n 0 (ownSlot ep.toNat .idle) known state.objects pool state.controller.stall
      middle := ⟨tracked', stall⟩
  rcases Triple.returned stable_held held calling with ⟨rfl, held'⟩
  exact ⟨⟨registered.stageSet pool ctrlstate, halts, known, .idle, held'.tracked, fun _ => rfl⟩,
    held'.stall⟩

/-- Nor does the status stage. -/
theorem Halting.Running.status {out : Except Failure Bool × Memory} {entry : RxEntry}
    (running : state.Running n ep) (head : state.controller.rxFifo.head? = some entry)
    (here : entry.ep.toNat = ep.toNat) (isOut : entry.setup = false) (empty : entry.size = 0)
    (stage : state.memory.client.ctrlstate = .kUsbTestutilsCtStatOut)
    (execution : Exec device Hardware state.controller
      (pollReceived callRx state.memory) usbdev out) :
    Halting.Running n ep { state with controller := usbdev, memory := out.2 } ∧
      usbdev.stall = state.controller.stall := by
  rcases running with ⟨registered, -, known, slot, tracked, ifIdle⟩
  have isIdle := ifIdle (.inr stage)
  subst isIdle
  have below := registered.below
  have waiting : Waiting n 0 (ownSlot ep.toNat .idle) known state.memory.pool state.objects entry []
      state.controller := ⟨tracked, head, beginsWith_nil⟩
  rcases pollReceived_calls (here ▸ below) (here ▸ registered.rx) waiting rfl execution with
    ⟨middle, later, done, tracked', stall, calling, returning⟩
  rcases ctrlRx_status stage isOut empty middle later done ⟨tracked', stall⟩ calling with
    ⟨pool, rfl, held⟩
  rcases Triple.returned stable_held held returning with ⟨rfl, held'⟩
  have halts : CtState.kUsbTestutilsCtIdle ∈ haltStages := by decide
  exact ⟨⟨registered.stageSet pool _, halts, _, .idle, held'.tracked, fun _ => rfl⟩,
    held'.stall⟩

/-! ## Beginning -/

/-- The control endpoint is initialised, and answers in neither direction with STALL. -/
theorem init_spec {away : Multiset Nat} {slots : Nat -> Slot} {known : Nat -> Packet}
    {objects : Nat -> Buffer} {settings : EndpointId -> Bool} {cfgDscr : List (BitVec 8)}
    {cfgDscrLen : BitVec 32} {testDscr : Option (List (BitVec 8))} {testDscrLen : BitVec 32}
    (below : ep.toNat < 12) :
    Triple device Hardware (Held n away slots known objects memory.pool settings)
      (usbTestutilsControlepInit ep cfgDscr cfgDscrLen testDscr testDscrLen memory)
      (fun out usbdev => Exists fun ctctx : CtCtx => ctctx.ep = ep ∧
        ctctx.ctrlstate = .kUsbTestutilsCtIdle ∧
        out = (.ok (), ⟨memory.pool,
          update memory.inEndpoints ep.toNat (inEndpointSet (memory.inEndpoints ep.toNat)
            .kUsbTransferTypeControl (some .ctrlTxDone) none (some .ctrlReset)),
          update memory.outEndpoints ep.toNat
            ⟨.kUsbTransferTypeControl, some .ctrlRx, none⟩, ctctx⟩) ∧
        Held n away slots known objects memory.pool
          (update (update settings ⟨ep.setWidth 4, true⟩ false)
            ⟨ep.setWidth 4, false⟩ false) usbdev) := by
  intro start finish out held execution
  unfold usbTestutilsControlepInit usbTestutilsEndpointSetup at execution
  rw [Code.bind_apply, Code.bind_apply] at execution
  rcases exec_bind execution with ⟨middle, done, setting, execution⟩
  rcases exec_bind setting with ⟨before, first, settingIn, settingOut⟩
  have stall := inEndpointSetup_stall below _ _ _ _ settings start before first held.stall settingIn
  rcases inEndpointSetup_spec below _ _ _ _ start before first held.tracked settingIn with
    ⟨rfl, tracked⟩
  have stall' := outEndpointSetup_stall below _ _ _ _ _ before middle done stall settingOut
  rcases outEndpointSetup_spec below _ _ _ _ before middle done tracked settingOut with
    ⟨rfl, tracked'⟩
  change Exec _ _ _ ((modifyCtx _ >>= fun _ => _) _) _ _ at execution
  rw [modifyCtx_bind, Code.lift_bind_apply] at execution
  rcases exec_bind execution with ⟨later, result, enabling, execution⟩
  have tracked'' := interfaceEnable_tracked _ middle later result tracked' enabling
  rcases interfaceEnable_stall rfl middle later result stall' enabling with ⟨rfl, stall''⟩
  rcases Triple.returned stable_held ⟨tracked'', stall''⟩ execution with ⟨rfl, held'⟩
  exact ⟨_, rfl, rfl, rfl, held'⟩

/-- Only an endpoint that there is can be initialised. -/
theorem below_of_init {memory' : Memory} {usbdev' : Controller} {cfgDscr : List (BitVec 8)}
    {cfgDscrLen : BitVec 32} {testDscr : Option (List (BitVec 8))} {testDscrLen : BitVec 32}
    (execution : Exec device Hardware usbdev
      (usbTestutilsControlepInit ep cfgDscr cfgDscrLen testDscr testDscrLen memory) usbdev'
      (.ok (), memory')) : ep.toNat < 12 := by
  by_contra other
  unfold usbTestutilsControlepInit usbTestutilsEndpointSetup usbTestutilsInEndpointSetup
    inRange at execution
  rw [if_neg other] at execution
  cases (exec_ret execution).1

/-- In every run. -/
theorem Halting.Reachable.running (reachable : Halting.Reachable n ep allowed state) :
    state.Running n ep := by
  induction reachable with
  | @initialised usbdev usbdev' objects memory memory' cfgDscr cfgDscrLen testDscr testDscrLen
      configured unused alone execution =>
      have below := below_of_init execution
      have held : Held n 0 (ownSlot ep.toNat .idle) (fun _ => []) objects memory.pool usbdev.stall
          usbdev := ⟨tracked_idle configured unused, rfl⟩
      rcases init_spec below _ _ _ held execution with ⟨ctctx, isEp, isIdle, same, held'⟩
      cases same
      refine ⟨⟨below, isEp, ?_, ?_, ?_⟩, ?_, _, .idle, held'.tracked, fun _ => rfl⟩
      · dsimp only
        rw [update_self]
        rfl
      · dsimp only
        rw [update_self]
      · dsimp only
        rw [update_self]
        exact alone
      · dsimp only
        rw [isIdle]
        decide
  | step before step ih =>
      cases step with
      | hardware move => exact ih.hardware move
      | setup => exact ih.setup
      | others call inEndpoints outEndpoints allowed elsewhere apart apart' execution =>
          exact ih.others allowed elsewhere apart apart' execution
      | sent collected execution => exact (ih.sent collected execution).1
      | status entry head here isOut empty stage execution =>
          exact (ih.status head here isOut empty stage execution).1
  | request before isAllowed serves ih => exact (ih.answers serves).running

/-! ## The settings -/

/-- A request acts on the direction of the endpoint that it names, and on
nothing else; asked for the status, the device answers with what the host has
last asked for. -/
def ActsAsNamed (ep : BitVec 8) (state : Halting) : HaltRequest -> Halting -> Prop
  | .setFeature endpoint, state' =>
      state'.controller.stall = update state.controller.stall endpoint true
  | .clearFeature endpoint, state' =>
      state'.controller.stall = update state.controller.stall endpoint false
  | .getStatus endpoint, state' =>
      state'.controller.stall = state.controller.stall ∧
        offered state'.controller ep.toNat =
          [[if state.last endpoint then kUsbStatusHalted else 0, 0]]

/-- A request names the direction of `bmRequestType`, or it makes no difference
which of the two is meant. -/
def MeetsDirection (state : Halting) : HaltRequest -> Prop
  | .setFeature endpoint => endpoint.direction = false ∨
      state.controller.stall ⟨endpoint.number, true⟩ = true ∧
        state.controller.stall ⟨endpoint.number, false⟩ = true
  | .clearFeature endpoint => endpoint.direction = false ∨
      state.controller.stall ⟨endpoint.number, true⟩ = false ∧
        state.controller.stall ⟨endpoint.number, false⟩ = false
  | .getStatus endpoint => endpoint.direction = true ∨
      state.last ⟨endpoint.number, true⟩ = state.last ⟨endpoint.number, false⟩

theorem update_other_direction {settings : EndpointId -> Bool} {endpoint : EndpointId}
    {value : Bool} :
    update settings ⟨endpoint.number, false⟩ value =
        update settings endpoint value ↔
      endpoint.direction = false ∨
        settings ⟨endpoint.number, true⟩ = value ∧ settings ⟨endpoint.number, false⟩ = value := by
  rcases endpoint with ⟨number, direction⟩
  cases direction with
  | false => simp
  | true =>
      have apart : (⟨number, true⟩ : EndpointId) ≠ ⟨number, false⟩ := by simp
      constructor
      · intro same
        have here := congrFun same ⟨number, true⟩
        have there := congrFun same ⟨number, false⟩
        rw [update_of_ne apart, update_self] at here
        rw [update_self, update_of_ne apart.symm] at there
        exact .inr ⟨here, there.symm⟩
      · rintro (impossible | ⟨here, there⟩)
        · cases impossible
        · rw [update_eq_self_iff.mpr there.symm, update_eq_self_iff.mpr here.symm]

/-- The settings are those last asked for, except of the control endpoint, which
is not halted. -/
structure Agreeing (ep : BitVec 8) (state : Halting) : Prop where
  others : forall endpoint : EndpointId, endpoint.number ≠ ep.setWidth 4 ->
    state.controller.stall endpoint = state.last endpoint
  stall : state.controller.stall ⟨ep.setWidth 4, true⟩ = false
  last : state.last ⟨ep.setWidth 4, true⟩ = false

theorem Agreeing.same_in (agreeing : Agreeing ep state) (number : BitVec 4) :
    state.controller.stall ⟨number, true⟩ = state.last ⟨number, true⟩ := by
  by_cases own : number = ep.setWidth 4
  · rw [own, agreeing.stall, agreeing.last]
  · exact agreeing.others _ own

/-- What a request does is what it asks for exactly when it meets the condition. -/
theorem Answered.acts_iff (answered : Answered n ep state request state')
    (agreeing : Agreeing ep state) :
    ActsAsNamed ep state request state' ↔ MeetsDirection state request := by
  rcases answered with ⟨running, last, stall, reply⟩
  cases request with
  | setFeature endpoint =>
      change state'.controller.stall = update state.controller.stall endpoint true ↔ _
      rw [stall]
      exact update_other_direction
  | clearFeature endpoint =>
      change state'.controller.stall = update state.controller.stall endpoint false ↔ _
      rw [stall]
      exact update_other_direction
  | getStatus endpoint =>
      have answers : offered state'.controller ep.toNat =
          [[if state.last ⟨endpoint.number, true⟩ then kUsbStatusHalted else 0, 0]] := by
        rw [<- agreeing.same_in]
        exact reply
      change state'.controller.stall = state.controller.stall ∧
        offered state'.controller ep.toNat =
          [[if state.last endpoint then kUsbStatusHalted else 0, 0]] ↔
        (endpoint.direction = true ∨
          state.last ⟨endpoint.number, true⟩ = state.last ⟨endpoint.number, false⟩)
      rw [stall, answers]
      rcases endpoint with ⟨number, direction⟩
      cases direction with
      | true => simp [HaltRequest.leaves]
      | false =>
          dsimp only
          cases state.last ⟨number, true⟩ <;> cases state.last ⟨number, false⟩ <;>
            simp [HaltRequest.leaves]

/-- A setting that is changed as asked for. -/
theorem Agreeing.update (agreeing : Agreeing ep state) {endpoint : EndpointId} {value : Bool}
    (stall : state'.controller.stall = update state.controller.stall endpoint value)
    (last : state'.last = update state.last endpoint value)
    (meets : endpoint.direction = true -> state.controller.stall ⟨endpoint.number, true⟩ = value) :
    Agreeing ep state' := by
  have own (same : ⟨ep.setWidth 4, true⟩ = endpoint) : value = false := by
    subst same
    exact (meets rfl).symm.trans agreeing.stall
  refine ⟨fun other elsewhere => ?_, ?_, ?_⟩
  · rw [stall, last]
    by_cases here : other = endpoint
    · rw [here, update_self, update_self]
    · rw [update_of_ne here, update_of_ne here]
      exact agreeing.others other elsewhere
  · rw [stall]
    by_cases here : ⟨ep.setWidth 4, true⟩ = endpoint
    · rw [here, update_self]
      exact own here
    · rw [update_of_ne here]
      exact agreeing.stall
  · rw [last]
    by_cases here : ⟨ep.setWidth 4, true⟩ = endpoint
    · rw [here, update_self]
      exact own here
    · rw [update_of_ne here]
      exact agreeing.last

theorem Answered.agreeing (answered : Answered n ep state request state')
    (agreeing : Agreeing ep state) (meets : MeetsDirection state request) :
    Agreeing ep state' := by
  have acts := (answered.acts_iff agreeing).mpr meets
  cases request with
  | setFeature endpoint =>
      refine agreeing.update acts answered.last (fun isIn => ?_)
      rcases meets with isOut | both
      · rw [isIn] at isOut
        cases isOut
      · exact both.1
  | clearFeature endpoint =>
      refine agreeing.update acts answered.last (fun isIn => ?_)
      rcases meets with isOut | both
      · rw [isIn] at isOut
        cases isOut
      · exact both.1
  | getStatus endpoint =>
      have last : state'.last = state.last := answered.last
      refine ⟨fun other elsewhere => ?_, ?_, ?_⟩
      · rw [acts.1, last]
        exact agreeing.others other elsewhere
      · rw [acts.1]
        exact agreeing.stall
      · rw [last]
        exact agreeing.last

theorem Agreeing.kept (agreeing : Agreeing ep state)
    (stall : state'.controller.stall = state.controller.stall) (last : state'.last = state.last) :
    Agreeing ep state' := by
  refine ⟨fun other elsewhere => ?_, ?_, ?_⟩
  · rw [stall, last]
    exact agreeing.others other elsewhere
  · rw [stall]
    exact agreeing.stall
  · rw [last]
    exact agreeing.last

/-- A SETUP packet changes the settings of the control endpoint alone. -/
theorem Agreeing.setup (agreeing : Agreeing ep state) :
    Agreeing ep { state with controller := state.controller.setupArrives ep } := by
  refine ⟨fun other elsewhere => ?_, ?_, agreeing.last⟩
  · have apart (direction : Bool) : other ≠ ⟨ep.setWidth 4, direction⟩ := by
      rintro rfl
      exact elsewhere rfl
    dsimp only
    rw [stall_setupArrives, update_of_ne (apart _), update_of_ne (apart _)]
    exact agreeing.others other elsewhere
  · dsimp only
    rw [stall_setupArrives, update_of_ne (by simp), update_self]

theorem Agreeing.step (agreeing : Agreeing ep state) (running : state.Running n ep)
    (step : Halting.Step n ep state state') : Agreeing ep state' := by
  cases step with
  | hardware move => exact agreeing.kept (stable_stall _ _ move rfl) rfl
  | setup => exact agreeing.setup
  | others call inEndpoints outEndpoints allowed elsewhere apart apart' execution =>
      have quiet : (call.perform state.memory.pool state.objects).Within AvoidsStall :=
        within_avoidsStall (fun _ plain => avoids_perform plain call _ _)
      exact agreeing.kept (stall_of_avoids _ quiet _ _ _ rfl execution) rfl
  | sent collected execution => exact agreeing.kept (running.sent collected execution).2 rfl
  | status entry head here isOut empty stage execution =>
      exact agreeing.kept (running.status head here isOut empty stage execution).2 rfl

/-- In every run whose requests meet the condition. -/
theorem Halting.Reachable.agreeing
    (reachable : Halting.Reachable n ep MeetsDirection state) : Agreeing ep state := by
  induction reachable with
  | @initialised usbdev usbdev' objects memory memory' cfgDscr cfgDscrLen testDscr testDscrLen
      configured unused alone execution =>
      have held : Held n 0 (ownSlot ep.toNat .idle) (fun _ => []) objects memory.pool usbdev.stall
          usbdev := ⟨tracked_idle configured unused, rfl⟩
      rcases init_spec (below_of_init execution) _ _ _ held execution with
        ⟨ctctx, isEp, isIdle, same, held'⟩
      have clear : usbdev'.stall ⟨ep.setWidth 4, true⟩ = false := by
        rw [held'.stall, update_of_ne (by simp), update_self]
      exact ⟨fun _ _ => rfl, clear, clear⟩
  | step before step ih => exact ih.step before.running step
  | request before isAllowed serves ih => exact (before.running.answers serves).agreeing ih isAllowed

/-- In every run whose requests so far have met the condition, the next one acts
as named exactly when it meets the condition too. -/
theorem halts_as_named (reachable : Halting.Reachable n ep MeetsDirection state)
    (serves : Halting.Serves n ep state request state') :
    ActsAsNamed ep state request state' ↔ MeetsDirection state request :=
  (reachable.running.answers serves).acts_iff reachable.agreeing

end

/-! ## An endpoint of the other direction -/

/-- Memory before the control endpoint is initialised. -/
def freshMemory (pool : BufferPool) : Memory where
  pool := pool
  inEndpoints _ := ⟨.kUsbTransferTypeControl, none, none, none, ⟨none, 0, 0, 0, false, false,
    ⟨0, 0, 0, .kDifUsbdevBufferTypeStale⟩⟩⟩
  outEndpoints _ := ⟨.kUsbTransferTypeControl, none, none⟩
  client := ⟨0, .kUsbTestutilsCtIdle, .kUsbTestutilsDeviceAttached, 0, 0, 0, [], 0, none, 0⟩

/-- A request to halt endpoint 1, in the direction of this `wIndex`, is received into a buffer. -/
def receivedSetup (usbdev : Controller) (buffer : BitVec 5) (rest : List (BitVec 5))
    (wIndex : BitVec 32) : Controller :=
  { usbdev with
    avSetup := rest
    rxFifo := usbdev.rxFifo ++ [⟨0, true, 8, buffer⟩]
    memory := storePacket usbdev.memory buffer (fun word => if word = 0 then 0x302 else wIndex) }

/-- The run of a control endpoint up to a request that is served. -/
structure RequestRun (usbdev usbdev' finish : Controller) (pool : BufferPool)
    (memory memory' : Memory) (buffer : BitVec 5) (rest : List (BitVec 5)) (wIndex : BitVec 32)
    (request : HaltRequest) : Prop where
  intro ::
  filled : (Call.perform (.fillAvailableFifos .object .object) configuredSystem.pool
    configuredSystem.objects).run device configuredSystem.controller =
      some ((.kDifOk, pool, configuredSystem.objects), usbdev)
  unused : usbdev.Pending 0 = false
  init : (usbTestutilsControlepInit 0 [] 0 none 0 (freshMemory pool)).run device usbdev =
    some ((.ok (), memory), usbdev')
  available : usbdev'.avSetup = buffer :: rest
  empty : usbdev'.rxFifo = []
  idle : memory.client.ctrlstate = .kUsbTestutilsCtIdle
  packet : RxEntry.packet ⟨0, true, 8, buffer⟩ (receivedSetup usbdev' buffer rest wIndex) =
    request.bytes
  poll : (pollReceived callRx memory).run device (receivedSetup usbdev' buffer rest wIndex) =
    some ((.ok true, memory'), finish)

theorem RequestRun.serves {usbdev usbdev' finish : Controller} {pool : BufferPool}
    {memory memory' : Memory} {buffer : BitVec 5} {rest : List (BitVec 5)} {wIndex : BitVec 32}
    {request : HaltRequest} {allowed : Halting -> HaltRequest -> Prop}
    (ran : RequestRun usbdev usbdev' finish pool memory memory' buffer rest wIndex request)
    (valid : request.endpoint.number.toNat < 12) : Exists fun state => Exists fun state' =>
      Halting.Reachable 1 0 allowed state ∧ Halting.Serves 1 0 state request state' ∧
        state.controller.stall = usbdev'.stall := by
  have configured : Usbdev.Reachable 1 ⟨usbdev, pool, configuredSystem.objects⟩ :=
    @Usbdev.Reachable.call 1 configuredSystem usbdev (.kDifOk, pool, configuredSystem.objects)
      reachable_configuredSystem (.fillAvailableFifos .object .object) trivial
      (exec_of_run ran.filled)
  have initialised : Halting.Reachable 1 0 allowed
      ⟨usbdev', configuredSystem.objects, memory, usbdev'.stall⟩ :=
    @Halting.Reachable.initialised 1 0 allowed usbdev usbdev' configuredSystem.objects
      (freshMemory pool) memory [] 0 none 0 configured ran.unused rfl (exec_of_run ran.init)
  have room : usbdev'.rxFifo.length < rxFifoDepth := by
    rw [ran.empty]
    decide
  have head : (receivedSetup usbdev' buffer rest wIndex).rxFifo.head? =
      some ⟨0, true, 8, buffer⟩ := by
    unfold receivedSetup
    rw [ran.empty]
    rfl
  have move : Hardware usbdev' (receivedSetup usbdev' buffer rest wIndex) :=
    .receiveSetup 0 8 _ ran.available room
  exact ⟨_, _, initialised.step (.hardware move),
    .intro ⟨0, true, 8, buffer⟩ valid ran.idle ⟨head, rfl, rfl, rfl, ran.packet⟩
      (exec_of_run ran.poll) rfl, stable_stall _ _ move rfl⟩

set_option maxRecDepth 8000 in
/-- A request to halt the OUT direction acts on it. -/
theorem halts_as_named_out : Exists fun state => Exists fun state' =>
    Halting.Reachable 1 0 MeetsDirection state ∧
      Halting.Serves 1 0 state (.setFeature ⟨1, false⟩) state' ∧
      (ActsAsNamed 0 state (.setFeature ⟨1, false⟩) state' ↔
        MeetsDirection state (.setFeature ⟨1, false⟩)) := by
  have ran : Exists fun usbdev => Exists fun usbdev' => Exists fun finish => Exists fun pool =>
      Exists fun memory => Exists fun memory' => Exists fun buffer => Exists fun rest =>
      RequestRun usbdev usbdev' finish pool memory memory' buffer rest 0x01
        (.setFeature ⟨1, false⟩) :=
    ⟨_, _, _, _, _, _, _, _, rfl, rfl, rfl, rfl, rfl, rfl, rfl, rfl⟩
  rcases ran with ⟨usbdev, usbdev', finish, pool, memory, memory', buffer, rest, ran⟩
  rcases ran.serves (by decide) with ⟨state, state', reachable, serves, -⟩
  exact ⟨state, state', reachable, serves, halts_as_named reachable serves⟩

set_option maxRecDepth 8000 in
/-- A request to halt the IN direction does not. -/
theorem not_halted_in : ¬ forall state request state',
    Halting.Reachable 1 0 (fun _ _ => True) state -> Halting.Serves 1 0 state request state' ->
      ActsAsNamed 0 state request state' := by
  intro always
  have ran : Exists fun usbdev => Exists fun usbdev' => Exists fun finish => Exists fun pool =>
      Exists fun memory => Exists fun memory' => Exists fun buffer => Exists fun rest =>
      RequestRun usbdev usbdev' finish pool memory memory' buffer rest 0x81
        (.setFeature ⟨1, true⟩) ∧ usbdev'.stall ⟨1, true⟩ = false :=
    ⟨_, _, _, _, _, _, _, _, ⟨rfl, rfl, rfl, rfl, rfl, rfl, rfl, rfl⟩, rfl⟩
  rcases ran with ⟨usbdev, usbdev', finish, pool, memory, memory', buffer, rest, ran, clear⟩
  rcases ran.serves (by decide) with ⟨state, state', reachable, serves, same⟩
  have acts : state'.controller.stall = update state.controller.stall ⟨1, true⟩ true :=
    always state _ state' reachable serves
  have stall : state'.controller.stall =
      update state.controller.stall ⟨1, false⟩ true :=
    (reachable.running.answers serves).stall
  have here := congrFun (acts.symm.trans stall) ⟨1, true⟩
  have apart : (⟨1, true⟩ : EndpointId) ≠ ⟨1, false⟩ := by decide
  rw [update_self, update_of_ne apart, same, clear] at here
  cases here

end UsbControlEp
end SunburstChip
