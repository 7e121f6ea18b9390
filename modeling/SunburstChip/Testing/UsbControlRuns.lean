import SunburstChip.Testing.UsbControlEvents

namespace SunburstChip
namespace UsbControlEp

open Mmio Usbdev UsbTestutils

/-!
# Runs of the control endpoint

Events follow one another in any order, with whatever else the software and the
controller do in between.  An address is written only when the packet for the
status stage has been collected, and then it is the one that was asked for.
Whether the state of the device agrees with the number of its configuration is
another matter: setting an address and a link reset change the one and leave
the other.
-/

/-! ## What a packet leaves behind -/

/-- What `usb_testutils_poll` passes to a callback for a packet that has been received. -/
structure Handed (packetInfo : RxPacketInfo) (buffer : Buffer) (packet : List (BitVec 8))
    (pool : BufferPool) (usbdev : Controller) : Prop where
  length : packetInfo.length.toNat = packet.length
  unread : Unread buffer packet 0
  returnable : Exists fun pool' => bufferPoolAdd pool buffer.id = some pool'
  safe : Safe (fun id => id = buffer.id.toNat) (fun _ => packet) usbdev

variable {memory : Memory} {buffer : Buffer} {packet : List (BitVec 8)} {packetInfo : RxPacketInfo}

theorem returns_stallEnable {α : Type} {post : Except Failure α × Memory -> Prop}
    {direction : Bool} {next : Code Memory Failure α} (after : (next memory).Returns post) :
    ((Code.lift (difUsbdevEndpointStallEnable .object ⟨0, direction⟩ kDifToggleEnabled) >>=
      fun result => tryDif result >>= fun _ => next) memory).Returns post := by
  rw [Code.lift_bind_apply]
  have valid : isValidEndpoint ((0 : BitVec 4).setWidth 8) = true := by decide
  refine Returns.bind (functionalityEnable_returns _ valid (by decide)) ?_
  rintro result rfl
  exact after

/-- After something unexpected the control endpoint is idle, if the buffer has
been read or can be returned. -/
theorem unexpected_idle
    (returnable : buffer.type ≠ .kDifUsbdevBufferTypeStale ->
      Exists fun pool' => bufferPoolAdd memory.pool buffer.id = some pool') :
    (unexpected buffer memory).Returns (fun out =>
      out.2.client.ctrlstate = .kUsbTestutilsCtIdle) := by
  unfold unexpected
  apply returns_stallEnable
  apply returns_stallEnable
  unfold returnUnused
  by_cases stale : buffer.type = .kDifUsbdevBufferTypeStale
  · rw [if_neg (not_not_intro stale)]
    exact rfl
  · rw [if_pos stale]
    rcases returnable stale with ⟨pool', added⟩
    have result : difUsbdevBufferReturn .object .object .object memory.pool buffer =
        (.kDifOk, pool', { buffer with type := .kDifUsbdevBufferTypeStale }) := by
      unfold difUsbdevBufferReturn
      rw [if_neg (by decide)]
      cases type : buffer.type with
      | kDifUsbdevBufferTypeStale => exact absurd type stale
      | kDifUsbdevBufferTypeRead | kDifUsbdevBufferTypeWrite =>
          dsimp only
          rw [added]
    unfold returnBuffer
    rw [Code.bind_apply, Code.get_bind_apply, result]
    exact rfl

/-- No stall setting is in the register with the device address. -/
theorem stallReg_ne_usbctrl (endpoint : EndpointId) : endpoint.stallReg ≠ usbctrlRegOffset := by
  unfold EndpointId.stallReg
  split <;> decide

/-- The bytes of a SETUP packet are read, and its buffer is returned. -/
theorem Handed.read {pool : BufferPool} (size : packetInfo.length = 8) :
    Triple device Hardware (Handed packetInfo buffer packet pool)
      (difUsbdevBufferRead .object .object .object .object pool buffer 8)
      (fun out _ => out.1 = .kDifOk ∧ out.2.2.1.type = .kDifUsbdevBufferTypeStale ∧
        out.2.2.2 = packet) := by
  rintro start finish out ⟨length, unread, ⟨pool', added⟩, safe⟩ execution
  have eight : packet.length = 8 := by
    rw [<- length, size]
    rfl
  have reads : Triple device Hardware (Safe (fun id => id = buffer.id.toNat) (fun _ => packet))
      (difUsbdevBufferRead .object .object .object .object pool buffer 8) _ :=
    bufferRead_safe 8 rfl unread added
  rcases reads start finish out safe execution with ⟨part, sameId, readTo, safe'⟩
  have bytes : out.2.2.2 = packet :=
    part.bytes.trans (List.take_of_length_le (by rw [List.drop_zero, eight]; decide))
  rw [ReadTo, if_neg (by rw [eight]; decide)] at readTo
  exact ⟨part.result, readTo, bytes⟩

theorem ctrlSetup_address (isSetup : packetInfo.isSetup = true) (size : packetInfo.length = 8)
    (idle : memory.client.ctrlstate = .kUsbTestutilsCtIdle) :
    Triple device Hardware (Handed packetInfo buffer packet memory.pool)
      (ctrlSetup buffer memory)
      (fun out _ => out.2.client.ctrlstate = .kUsbTestutilsCtAddrStatIn ->
        AsksForAddress packetInfo packet out.2.client.newDev) := by
  intro start finish out handed execution pending
  unfold ctrlSetup at execution
  rw [Code.get_bind_apply, Code.lift_bind_apply] at execution
  rcases exec_bind execution with ⟨middle, read, reading, execution⟩
  rcases Handed.read size start middle read handed reading with ⟨result, stale, bytes⟩
  dsimp only at execution
  rw [result, bytes, Code.set_bind_apply, tryDif_ok_bind, Code.bind_apply] at execution
  rcases exec_bind execution with ⟨later, ⟨served, memory'⟩, serving, execution⟩
  cases served with
  | error reason =>
      -- A request that ends early leaves the endpoint idle.
      have plain : PlainRegister usbctrlRegOffset := by decide
      have kept := confined_setupReq plain stallReg_ne_usbctrl
        (fun ctctx _ (same : ctctx.ctrlstate = .kUsbTestutilsCtIdle) => same)
        (fun _ _ same => same) (packet.getD 0 0) (packet.getD 1 0) (word16 packet 2)
        (word16 packet 4) (word16 packet 6) { memory with pool := read.2.1 } idle
      have still := kept.2.of_exec serving
      rw [(exec_ret execution).1] at pending
      rw [still] at pending
      cases pending
  | ok ctrlstate =>
      have asked := (setupReqOf_address packet _).of_exec serving
      change Exec _ _ _ ((modifyCtx _ >>= fun _ => _) memory') _ _ at execution
      rw [modifyCtx_bind, Code.ite_apply] at execution
      by_cases failed : ctrlstate = .kUsbTestutilsCtError
      · rw [if_pos failed] at execution
        have still := (unexpected_idle (fun fresh => absurd stale fresh)).of_exec execution
        rw [still] at pending
        cases pending
      · rw [if_neg failed] at execution
        rw [(exec_ret execution).1] at pending ⊢
        rcases asked (congrArg Except.ok pending) with ⟨request, address⟩
        exact ⟨isSetup, size, request, address⟩

/-- A packet leaves an address to be set only if it asks for it. -/
theorem ctrlRx_address :
    Triple device Hardware (Handed packetInfo buffer packet memory.pool)
      (ctrlRx packetInfo buffer memory)
      (fun out _ => out.2.client.ctrlstate = .kUsbTestutilsCtAddrStatIn ->
        AsksForAddress packetInfo packet out.2.client.newDev) := by
  intro start finish out handed execution
  unfold ctrlRx at execution
  rw [Code.lift_bind_apply] at execution
  rcases exec_bind execution with ⟨middle, result, enabling, execution⟩
  have enabled := functionalityEnable_returns rxenableOutRegOffset
    (show isValidEndpoint 0 = true by decide) (show difIsValidToggle kDifToggleEnabled = true by rfl)
  have harmless : (difUsbdevEndpointOutEnable .object 0 kDifToggleEnabled).Within
      (Harmless (fun id => id = buffer.id.toNat)) :=
    ⟨trivial, fun _ => ⟨harmless_of_lt (by decide) (by decide), trivial⟩⟩
  have safe := safe_of_within harmless start middle result handed.safe enabling
  have isOk : result = .kDifOk := enabled.of_exec enabling
  have refused {finish : Controller} {out : Except Failure Unit × Memory}
      (execution : Exec device Hardware middle (unexpected buffer memory) finish out)
      (pending : out.2.client.ctrlstate = .kUsbTestutilsCtAddrStatIn) :
      AsksForAddress packetInfo packet out.2.client.newDev := by
    have idle := (unexpected_idle (fun _ => handed.returnable)).of_exec execution
    rw [idle] at pending
    cases pending
  rw [isOk, tryDif_ok_bind, Code.get_bind_apply] at execution
  cases stage : memory.client.ctrlstate with
  | kUsbTestutilsCtIdle =>
      rw [stage] at execution
      dsimp only at execution
      rw [Code.ite_apply] at execution
      by_cases request : packetInfo.isSetup ∧ packetInfo.length = 8
      · rw [if_pos request] at execution
        exact ctrlSetup_address request.1 request.2 stage middle finish out
          ⟨handed.length, handed.unread, handed.returnable, safe⟩ execution
      · rw [if_neg request] at execution
        exact refused execution
  | kUsbTestutilsCtStatOut =>
      rw [stage] at execution
      dsimp only at execution
      rw [Code.ite_apply] at execution
      by_cases status : !packetInfo.isSetup ∧ packetInfo.length = 0
      · rw [if_pos status] at execution
        have idle (ctctx : CtCtx) (_ : ctctx.ctrlstate ≠ .kUsbTestutilsCtAddrStatIn) :
            CtState.kUsbTestutilsCtIdle ≠ .kUsbTestutilsCtAddrStatIn := by decide
        have waits : memory.client.ctrlstate ≠ .kUsbTestutilsCtAddrStatIn := by
          rw [stage]
          decide
        have kept := (@confined_ctrlStatus usbctrlRegOffset
          (fun ctctx => ctctx.ctrlstate ≠ .kUsbTestutilsCtAddrStatIn) idle buffer memory waits).2
        exact fun pending => absurd pending (kept.of_exec execution)
      · rw [if_neg status] at execution
        exact refused execution
  | kUsbTestutilsCtWaitIn | kUsbTestutilsCtAddrStatIn | kUsbTestutilsCtCfgStatIn
  | kUsbTestutilsCtStatIn | kUsbTestutilsCtError =>
      rw [stage] at execution
      exact refused execution

/-! ## Events -/

/-- What happens on the control endpoint. -/
inductive Event where
  | received (packetInfo : RxPacketInfo) (buffer : Buffer) (packet : List (BitVec 8))
  | sent (result : XfrResult)
  | reset

/-- The callback for an event. -/
def Event.handle : Event -> Code Memory Failure Unit
  | .received packetInfo buffer _ => ctrlRx packetInfo buffer
  | .sent result => ctrlTxDone result
  | .reset => ctrlReset

/-- A packet that is received is in the buffer that comes with it. -/
def Event.Possible : Event -> Memory -> Controller -> Prop
  | .received packetInfo buffer packet, memory, usbdev =>
      Handed packetInfo buffer packet memory.pool usbdev
  | .sent _, _, _ | .reset, _, _ => True

/-- The address that waits for the end of the status stage. -/
def CtCtx.pendingAddress (ctctx : CtCtx) : Option (BitVec 8) :=
  if ctctx.ctrlstate = .kUsbTestutilsCtAddrStatIn then some ctctx.newDev else none

/-- The address that an event lets take effect. -/
def Event.takesEffect (ctctx : CtCtx) : Event -> Option (BitVec 8)
  | .sent _ => ctctx.pendingAddress
  | .received _ _ _ | .reset => none

/-- The device address is not written, unless it is this one. -/
def WritesAddress (address : Option (BitVec 8)) : Access -> Prop
  | .write32 offset value => offset = usbctrlRegOffset ->
      (bitfieldField32Read value usbctrlDeviceAddressField).setWidth 8 ∈ address
  | .read32 _ | .write8 _ _ => True

/-- The control endpoint and its surroundings, with what has last happened on it. -/
structure Control where
  controller : Controller
  memory : Memory
  last : Option Event

/-- The states that are reached by events that are `allowed`, from contexts
that satisfy `start`. -/
inductive Reachable (start : CtCtx -> Prop) (allowed : CtCtx -> Event -> Prop) : Control -> Prop where
  | initialised {usbdev usbdev' : Controller} {memory memory' : Memory} {ep : BitVec 8}
      {cfgDscr : List (BitVec 8)} {cfgDscrLen : BitVec 32} {testDscr : Option (List (BitVec 8))}
      {testDscrLen : BitVec 32} (starts : start memory.client)
      (execution : Exec device Hardware usbdev
        (usbTestutilsControlepInit ep cfgDscr cfgDscrLen testDscr testDscrLen memory) usbdev'
        (.ok (), memory')) : Reachable start allowed ⟨usbdev', memory', none⟩
  /-- Anything that is done without the control endpoint. -/
  | others {state : Control} (before : Reachable start allowed state) (usbdev' : Controller)
      {memory' : Memory} (same : memory'.client = state.memory.client) :
      Reachable start allowed ⟨usbdev', memory', state.last⟩
  | event {state : Control} (before : Reachable start allowed state) {usbdev' : Controller}
      {event : Event} {out : Except Failure Unit × Memory}
      (isAllowed : allowed state.memory.client event)
      (possible : event.Possible state.memory state.controller)
      (execution : Exec device Hardware state.controller (event.handle state.memory) usbdev' out) :
      Reachable start allowed ⟨usbdev', out.2, some event⟩

section

variable {start : CtCtx -> Prop} {allowed : CtCtx -> Event -> Prop} {state : Control}

theorem Reachable.any (reachable : Reachable start allowed state) :
    Reachable start (fun _ _ => True) state := by
  induction reachable with
  | initialised starts execution => exact .initialised starts execution
  | others before usbdev' same ih => exact ih.others usbdev' same
  | event before isAllowed possible execution ih => exact ih.event trivial possible execution

/-! ## The address -/

/-- An address is pending when the last event is the request for it. -/
def AddressAsked (state : Control) : Prop :=
  forall address, state.memory.client.pendingAddress = some address ->
    Exists fun packetInfo => Exists fun buffer => Exists fun packet =>
      state.last = some (.received packetInfo buffer packet) ∧
        AsksForAddress packetInfo packet address

theorem pendingAddress_eq_some {ctctx : CtCtx} {address : BitVec 8} :
    ctctx.pendingAddress = some address ↔
      ctctx.ctrlstate = .kUsbTestutilsCtAddrStatIn ∧ ctctx.newDev = address := by
  unfold CtCtx.pendingAddress
  split
  · next pending => simp [pending]
  · next pending => simp [pending]

theorem addressAsked_of_ne (other : state.memory.client.ctrlstate ≠ .kUsbTestutilsCtAddrStatIn) :
    AddressAsked state :=
  fun _ pending => absurd (pendingAddress_eq_some.mp pending).1 other

/-- When a packet has been collected, no address is pending any more. -/
theorem ctrlTxDone_address (result : XfrResult) (memory : Memory) :
    (ctrlTxDone result memory).Returns (fun out =>
      out.2.client.ctrlstate ≠ .kUsbTestutilsCtAddrStatIn) := by
  unfold ctrlTxDone
  rw [Code.get_bind_apply]
  cases stage : memory.client.ctrlstate with
  | kUsbTestutilsCtAddrStatIn =>
      dsimp only
      rw [Code.lift_bind_apply]
      exact fun _ => nofun
  | kUsbTestutilsCtCfgStatIn | kUsbTestutilsCtStatIn | kUsbTestutilsCtWaitIn => exact nofun
  | kUsbTestutilsCtIdle | kUsbTestutilsCtStatOut | kUsbTestutilsCtError =>
      change memory.client.ctrlstate ≠ _
      rw [stage]
      decide

/-- The context after the control endpoint has been initialised. -/
theorem init_client (ep : BitVec 8) (cfgDscr : List (BitVec 8)) (cfgDscrLen : BitVec 32)
    (testDscr : Option (List (BitVec 8))) (testDscrLen : BitVec 32) (memory : Memory) :
    (usbTestutilsControlepInit ep cfgDscr cfgDscrLen testDscr testDscrLen memory).Returns
      (fun out => out.1 = .ok () ->
        out.2.client.ctrlstate = .kUsbTestutilsCtIdle ∧
        out.2.client.deviceState = .kUsbTestutilsDeviceDefault ∧
        out.2.client.usbConfig = memory.client.usbConfig) := by
  have setup := @confined_endpointSetup Callback CtCtx (fun ctctx => ctctx = memory.client) ep
    .kUsbTransferTypeControl .kUsbTransferTypeControl .kUsbdevOutMessage
    (some .ctrlTxDone) (some .ctrlRx) none (some .ctrlReset) memory rfl
  unfold usbTestutilsControlepInit
  rw [Code.bind_apply]
  refine Returns.bind setup.2 ?_
  rintro ⟨reason | _, memory'⟩ same
  · exact nofun
  · have sameConfig : memory'.client.usbConfig = memory.client.usbConfig :=
      congrArg CtCtx.usbConfig same
    change Returns _ ((modifyCtx _ >>= fun _ => _) memory')
    rw [modifyCtx_bind, Code.lift_bind_apply]
    refine Returns.bind (returns_true _) (fun result _ => ?_)
    unfold tryDif
    rw [Code.ite_apply]
    split
    · exact fun _ => ⟨rfl, rfl, sameConfig⟩
    · exact nofun

/-- In every run. -/
theorem Reachable.addressAsked (reachable : Reachable start allowed state) :
    AddressAsked state := by
  induction reachable with
  | initialised starts execution =>
      have idle := ((init_client _ _ _ _ _ _).of_exec execution rfl).1
      apply addressAsked_of_ne
      dsimp only
      rw [idle]
      decide
  | others before usbdev' same ih =>
      intro address pending
      dsimp only at pending
      rw [same] at pending
      exact ih address pending
  | @event state before usbdev' event out isAllowed possible execution ih =>
      cases event with
      | received packetInfo buffer packet =>
          intro address pending
          rcases pendingAddress_eq_some.mp pending with ⟨stage, rfl⟩
          exact ⟨packetInfo, buffer, packet, rfl,
            ctrlRx_address state.controller usbdev' out possible execution stage⟩
      | sent result =>
          exact addressAsked_of_ne ((ctrlTxDone_address result _).of_exec execution)
      | reset =>
          apply addressAsked_of_ne
          rw [(exec_ret execution).1]
          change CtState.kUsbTestutilsCtIdle ≠ _
          decide

/-- An address that is asked for fits into its field. -/
theorem AsksForAddress.fits {packetInfo : RxPacketInfo} {packet : List (BitVec 8)}
    {address : BitVec 8} (asks : AsksForAddress packetInfo packet address) :
    (address.setWidth 32 &&& usbctrlDeviceAddressField.mask).setWidth 8 = address := by
  have masked : (word16 packet 2 &&& 0x7f).toNat = (word16 packet 2).toNat % 2 ^ 7 := by
    rw [BitVec.toNat_and]
    exact Nat.and_two_pow_sub_one_eq_mod _ 7
  have small : address.toNat < 2 ^ 7 := by
    rw [asks.address_eq, BitVec.toNat_setWidth, masked]
    omega
  apply BitVec.eq_of_toNat_eq
  rw [BitVec.toNat_setWidth,
    toNat_and_mask (show usbctrlDeviceAddressField.mask.toNat = 2 ^ 7 - 1 from rfl),
    BitVec.toNat_setWidth]
  omega

/-- The device address is written by no event but the one that completes the
status stage, which writes the address that was pending. -/
theorem writesAddress (asked : AddressAsked state) (event : Event) :
    (event.handle state.memory).Within
      (WritesAddress (event.takesEffect state.memory.client)) := by
  have avoids {address : Option (BitVec 8)} {m : Mmio (Except Failure Unit × Memory)}
      (within : m.Within (Avoids usbctrlRegOffset)) : m.Within (WritesAddress address) := by
    refine within.imp (fun access apart => ?_)
    cases access with
    | read32 | write8 => trivial
    | write32 => exact fun same => absurd same apart
  cases event with
  | received packetInfo buffer packet =>
      have plain : PlainRegister usbctrlRegOffset := by decide
      apply avoids
      exact (@confined_ctrlRx usbctrlRegOffset (fun _ => True) plain (by decide)
        stallReg_ne_usbctrl (fun _ _ _ => trivial) (fun _ _ _ => trivial) (fun _ _ _ => trivial)
        packetInfo buffer state.memory trivial).1
  | reset => trivial
  | sent result =>
      change ((ctrlTxDone result) state.memory).Within
        (WritesAddress state.memory.client.pendingAddress)
      unfold ctrlTxDone
      rw [Code.get_bind_apply]
      cases stage : state.memory.client.ctrlstate with
      | kUsbTestutilsCtAddrStatIn =>
          have pending : state.memory.client.pendingAddress = some state.memory.client.newDev :=
            pendingAddress_eq_some.mpr ⟨stage, rfl⟩
          rcases asked _ pending with ⟨packetInfo, buffer, packet, last, asks⟩
          dsimp only
          rw [Code.lift_bind_apply, pending]
          refine ⟨trivial, fun word => ⟨fun _ => ?_, trivial⟩⟩
          rw [bitfieldField32Read_write_same (by decide)]
          exact congrArg some asks.fits.symm
      | kUsbTestutilsCtCfgStatIn | kUsbTestutilsCtStatIn | kUsbTestutilsCtWaitIn
      | kUsbTestutilsCtIdle | kUsbTestutilsCtStatOut | kUsbTestutilsCtError => trivial

/-! ## The state of the device -/

/-- The state of the device agrees with its configuration, an address is
written only when it has been asked for, and a link reset leaves nothing behind. -/
structure Agrees (state : Control) : Prop where
  configured : state.memory.client.deviceState = .kUsbTestutilsDeviceConfigured ↔
    state.memory.client.usbConfig ≠ 0
  asked : AddressAsked state
  writes : forall event : Event, (event.handle state.memory).Within
    (WritesAddress (event.takesEffect state.memory.client))
  reset : state.last = some .reset ->
    state.memory.client.pendingAddress = none ∧ state.memory.client.usbConfig = 0

/-- The event finds the device without a configuration, if it changes the state
of the device alone. -/
def Meets (ctctx : CtCtx) : Event -> Prop
  | .received _ _ _ => True
  | .sent _ => ctctx.ctrlstate = .kUsbTestutilsCtAddrStatIn -> ctctx.usbConfig = 0
  | .reset => ctctx.usbConfig = 0

variable {out : Except Failure Unit × Memory} {usbdev' : Controller}

/-- A packet that is received changes neither. -/
theorem received_keeps {packetInfo : RxPacketInfo} {buffer : Buffer} {memory : Memory}
    {usbdev : Controller}
    (execution : Exec device Hardware usbdev (ctrlRx packetInfo buffer memory) usbdev' out) :
    out.2.client.deviceState = memory.client.deviceState ∧
      out.2.client.usbConfig = memory.client.usbConfig := by
  have plain : PlainRegister usbctrlRegOffset := by decide
  have kept := @confined_ctrlRx usbctrlRegOffset
    (fun ctctx => ctctx.deviceState = memory.client.deviceState ∧
      ctctx.usbConfig = memory.client.usbConfig) plain (by decide) stallReg_ne_usbctrl
    (fun _ _ same => same) (fun _ _ same => same) (fun _ _ same => same) packetInfo buffer memory
    ⟨rfl, rfl⟩
  exact kept.2.of_exec execution

/-- The state and the configuration after a packet has been collected. -/
theorem sent_changes (result : XfrResult) (memory : Memory) :
    (ctrlTxDone result memory).Returns (fun out =>
      (out.2.client.deviceState, out.2.client.usbConfig) =
        match memory.client.ctrlstate with
        | .kUsbTestutilsCtAddrStatIn => (.kUsbTestutilsDeviceAddressed, memory.client.usbConfig)
        | .kUsbTestutilsCtCfgStatIn =>
            (if memory.client.newConfig ≠ 0 then .kUsbTestutilsDeviceConfigured
              else .kUsbTestutilsDeviceAddressed, memory.client.newConfig)
        | _ => (memory.client.deviceState, memory.client.usbConfig)) := by
  unfold ctrlTxDone
  rw [Code.get_bind_apply]
  cases memory.client.ctrlstate with
  | kUsbTestutilsCtAddrStatIn =>
      dsimp only
      rw [Code.lift_bind_apply]
      exact fun _ => rfl
  | kUsbTestutilsCtCfgStatIn | kUsbTestutilsCtStatIn | kUsbTestutilsCtWaitIn
  | kUsbTestutilsCtIdle | kUsbTestutilsCtStatOut | kUsbTestutilsCtError => exact rfl

/-- An event leaves the state of the device and its configuration in agreement
exactly when it meets the condition. -/
theorem configured_event {event : Event}
    (configured : state.memory.client.deviceState = .kUsbTestutilsDeviceConfigured ↔
      state.memory.client.usbConfig ≠ 0)
    (execution : Exec device Hardware state.controller (event.handle state.memory) usbdev' out) :
    (out.2.client.deviceState = .kUsbTestutilsDeviceConfigured ↔ out.2.client.usbConfig ≠ 0) ↔
      Meets state.memory.client event := by
  cases event with
  | received packetInfo buffer packet =>
      rcases received_keeps execution with ⟨sameState, sameConfig⟩
      rw [sameState, sameConfig]
      exact iff_of_true configured trivial
  | sent result =>
      have changes := (sent_changes result state.memory).of_exec execution
      cases stage : state.memory.client.ctrlstate with
      | kUsbTestutilsCtAddrStatIn =>
          rw [stage] at changes
          rcases Prod.mk.inj changes with ⟨sameState, sameConfig⟩
          rw [sameState, sameConfig]
          unfold Meets
          rw [stage]
          simp
      | kUsbTestutilsCtCfgStatIn =>
          rw [stage] at changes
          rcases Prod.mk.inj changes with ⟨sameState, sameConfig⟩
          rw [sameState, sameConfig]
          unfold Meets
          rw [stage]
          simp
      | kUsbTestutilsCtStatIn | kUsbTestutilsCtWaitIn
      | kUsbTestutilsCtIdle | kUsbTestutilsCtStatOut | kUsbTestutilsCtError =>
          rw [stage] at changes
          rcases Prod.mk.inj changes with ⟨sameState, sameConfig⟩
          rw [sameState, sameConfig]
          unfold Meets
          rw [stage]
          exact iff_of_true configured nofun
  | reset =>
      rw [(exec_ret execution).1]
      change (DeviceState.kUsbTestutilsDeviceDefault = _ ↔ state.memory.client.usbConfig ≠ 0) ↔
        state.memory.client.usbConfig = 0
      simp

/-- After a link reset nothing is pending. -/
theorem reset_leaves {usbdev : Controller} {memory : Memory}
    (execution : Exec device Hardware usbdev (ctrlReset memory) usbdev' out) :
    out.2.client.pendingAddress = none ∧ out.2.client.usbConfig = memory.client.usbConfig := by
  rw [(exec_ret execution).1]
  exact ⟨rfl, rfl⟩

/-- In every run whose events meet the condition, the state of the device agrees
with its configuration. -/
theorem Reachable.configured
    (reachable : Reachable (fun ctctx => ctctx.usbConfig = 0) Meets state) :
    state.memory.client.deviceState = .kUsbTestutilsDeviceConfigured ↔
      state.memory.client.usbConfig ≠ 0 := by
  induction reachable with
  | initialised starts execution =>
      rcases (init_client _ _ _ _ _ _).of_exec execution rfl with ⟨-, sameState, sameConfig⟩
      dsimp only at sameState sameConfig ⊢
      rw [sameState, sameConfig]
      exact iff_of_false nofun (not_not_intro starts)
  | others before usbdev' same ih =>
      dsimp only
      rw [same]
      exact ih
  | event before isAllowed possible execution ih =>
      exact (configured_event ih execution).mpr isAllowed

theorem Reachable.resets
    (reachable : Reachable (fun ctctx => ctctx.usbConfig = 0) Meets state)
    (isReset : state.last = some .reset) :
    state.memory.client.pendingAddress = none ∧ state.memory.client.usbConfig = 0 := by
  induction reachable with
  | initialised => cases isReset
  | others before usbdev' same ih =>
      dsimp only
      rw [same]
      exact ih isReset
  | event before isAllowed possible execution ih =>
      cases isReset
      rcases reset_leaves execution with ⟨none, sameConfig⟩
      exact ⟨none, sameConfig.trans isAllowed⟩

/-- The device agrees with its configuration in every state of every run whose
events meet the condition, and the next event leaves it so exactly when it
meets the condition too. -/
theorem control_agrees
    (reachable : Reachable (fun ctctx => ctctx.usbConfig = 0) Meets state) :
    Agrees state ∧ forall (event : Event) (usbdev' : Controller)
      (out : Except Failure Unit × Memory), event.Possible state.memory state.controller ->
      Exec device Hardware state.controller (event.handle state.memory) usbdev' out ->
      (Agrees ⟨usbdev', out.2, some event⟩ ↔ Meets state.memory.client event) := by
  have agrees {state : Control}
      (reachable : Reachable (fun ctctx => ctctx.usbConfig = 0) Meets state) : Agrees state :=
    ⟨reachable.configured, reachable.addressAsked, writesAddress reachable.addressAsked,
      reachable.resets⟩
  refine ⟨agrees reachable, fun event usbdev' out possible execution => ⟨fun after => ?_, ?_⟩⟩
  · exact (configured_event reachable.configured execution).mp after.configured
  · exact fun meets => agrees (reachable.event meets possible execution)

end

/-! ## A configuration that outlives a link reset -/

/-- A request to set the configuration. -/
def setConfiguration : List (BitVec 8) := [0, 9, 1, 0, 0, 0, 0, 0]

/-- The controller, with the request in the packet memory of a buffer. -/
def requesting : Controller :=
  { Controller.reset with memory := fun i => if i = 112 then 0x10900 else 0 }

def requestInfo : RxPacketInfo := ⟨0, true, 8⟩

/-- The buffer that contains the request. -/
def requestReceived : Buffer := ⟨7, 0, 8, .kDifUsbdevBufferTypeRead⟩

/-- Memory before the control endpoint is initialised. -/
def memoryBefore : Memory where
  pool := ⟨Vector.replicate 32 3, 0⟩
  inEndpoints _ := ⟨.kUsbTransferTypeControl, none, none, none, ⟨none, 0, 0, 0, false, false,
    ⟨0, 0, 0, .kDifUsbdevBufferTypeStale⟩⟩⟩
  outEndpoints _ := ⟨.kUsbTransferTypeControl, none, none⟩
  client := ⟨0, .kUsbTestutilsCtIdle, .kUsbTestutilsDeviceAttached, 0, 0, 0, [], 0, none, 0⟩

theorem handed_request {pool : BufferPool} (room : (bufferPoolAdd pool 7).isSome = true) :
    Handed requestInfo requestReceived setConfiguration pool requesting := by
  have contents : requesting.BeginsWith 7 setConfiguration := by
    constructor <;> decide
  refine ⟨rfl, ⟨rfl, rfl, rfl, Nat.zero_le _, by decide⟩, Option.isSome_iff_exists.mp room, ?_, ?_⟩
  · intro buffer inside
    exact absurd inside (by simp [requesting, Controller.reset])
  · rintro id rfl
    exact contents

set_option maxRecDepth 8000 in
/-- The configuration is set. -/
theorem reachable_configured : Exists fun state =>
    Reachable (fun ctctx => ctctx.usbConfig = 0) Meets state ∧
      state.memory.client.ctrlstate = .kUsbTestutilsCtIdle ∧
      state.memory.client.deviceState = .kUsbTestutilsDeviceConfigured ∧
      state.memory.client.usbConfig = 1 := by
  have ran : Exists fun usbdev => Exists fun memory => Exists fun usbdev' => Exists fun memory' =>
      Exists fun memory'' =>
      (usbTestutilsControlepInit 0 [] 0 none 0 memoryBefore).run device .reset =
        some ((.ok (), memory), usbdev) ∧
      memory.pool = memoryBefore.pool ∧
      (ctrlRx requestInfo requestReceived memory).run device requesting =
        some ((.ok (), memory'), usbdev') ∧
      memory'.client.ctrlstate = .kUsbTestutilsCtCfgStatIn ∧
      (ctrlTxDone .kUsbTestutilsXfrResultOk memory').run device usbdev' =
        some ((.ok (), memory''), usbdev') ∧
      memory''.client.ctrlstate = .kUsbTestutilsCtIdle ∧
      memory''.client.deviceState = .kUsbTestutilsDeviceConfigured ∧
      memory''.client.usbConfig = 1 :=
    ⟨_, _, _, _, _, rfl, rfl, rfl, rfl, rfl, rfl, rfl, rfl⟩
  rcases ran with ⟨usbdev, memory, usbdev', memory', memory'', init, samePool, request, stage,
    sent, result⟩
  have initialised : Reachable (fun ctctx => ctctx.usbConfig = 0) Meets ⟨usbdev, memory, none⟩ :=
    .initialised (by decide) (exec_of_run init)
  have handed : Handed requestInfo requestReceived setConfiguration memory.pool requesting :=
    handed_request (by rw [samePool]; decide)
  have requested := @Reachable.event _ _ _ (initialised.others requesting rfl) usbdev'
    (.received requestInfo requestReceived setConfiguration) (.ok (), memory') trivial handed
    (exec_of_run request)
  have collected := @Reachable.event _ _ _ requested usbdev' (.sent .kUsbTestutilsXfrResultOk)
    (.ok (), memory'') (fun pending => absurd (stage.symm.trans pending) (by decide)) trivial
    (exec_of_run sent)
  exact ⟨_, collected, result⟩

theorem control_agrees_configured : Exists fun state =>
    Reachable (fun ctctx => ctctx.usbConfig = 0) Meets state ∧
      state.memory.client.deviceState = .kUsbTestutilsDeviceConfigured ∧ Agrees state := by
  rcases reachable_configured with ⟨state, reachable, stage, configured, config⟩
  exact ⟨state, reachable, configured, (control_agrees reachable).1⟩

/-- A link reset then leaves the number of the configuration. -/
theorem configuration_outlives_reset : ¬ forall state : Control,
    Reachable (fun ctctx => ctctx.usbConfig = 0) (fun _ _ => True) state -> Agrees state := by
  intro always
  rcases reachable_configured with ⟨state, reachable, stage, configured, config⟩
  have after := @Reachable.event _ _ _ reachable.any state.controller .reset (_, _) trivial trivial
    (.ret _ _)
  have none := ((always _ after).reset rfl).2
  change state.memory.client.usbConfig = 0 at none
  rw [config] at none
  cases none

end UsbControlEp
end SunburstChip
