import SunburstChip.Testing.UsbControlEp
import SunburstChip.Testing.UsbEndpointSetup
import SunburstChip.Testing.UsbTransfers

namespace SunburstChip
namespace UsbControlEp

open Mmio Usbdev UsbTestutils
open Function (update update_self)

/-!
# Halting endpoints

The host halts an endpoint, lets it go on and asks whether it is halted, with
requests that name the endpoint and its direction in `wIndex`.  The direction
that counts is another one: that of the data stage, in `bmRequestType`.
-/

/-! ## Requests about an endpoint -/

/-- The requests of the host about whether an endpoint is halted. -/
inductive HaltRequest where
  | setFeature (endpoint : EndpointId)
  | clearFeature (endpoint : EndpointId)
  | getStatus (endpoint : EndpointId)
  deriving DecidableEq

namespace HaltRequest

def endpoint : HaltRequest -> EndpointId
  | setFeature endpoint | clearFeature endpoint | getStatus endpoint => endpoint

end HaltRequest

/-- The lower byte of `wIndex` for an endpoint. -/
def endpointIndex (endpoint : EndpointId) : BitVec 8 :=
  endpoint.number.setWidth 8 ||| (if endpoint.direction then 0x80 else 0)

namespace HaltRequest

/-- The SETUP packet of a request. -/
def bytes : HaltRequest -> List (BitVec 8)
  | setFeature endpoint => [0x02, 3, 0, 0, endpointIndex endpoint, 0, 0, 0]
  | clearFeature endpoint => [0x02, 1, 0, 0, endpointIndex endpoint, 0, 0, 0]
  | getStatus endpoint => [0x82, 0, 0, 0, endpointIndex endpoint, 0, 2, 0]

/-- What is done with the buffer that has been requested. -/
def answer : HaltRequest -> Buffer -> Code Memory Failure CtState
  | setFeature endpoint, buffer =>
      setupFeature buffer ⟨endpoint.number, false⟩ kUsbFeatureEndpointHalt kDifToggleEnabled
  | clearFeature endpoint, buffer =>
      setupFeature buffer ⟨endpoint.number, false⟩ kUsbFeatureEndpointHalt kDifToggleDisabled
  | getStatus endpoint, buffer => setupGetStatus buffer 0x82 ⟨endpoint.number, true⟩ 2

/-- The stage that follows. -/
def stage : HaltRequest -> CtState
  | setFeature _ | clearFeature _ => .kUsbTestutilsCtStatIn
  | getStatus _ => .kUsbTestutilsCtWaitIn

/-- The settings that it leaves. -/
def leaves (settings : EndpointId -> Bool) : HaltRequest -> EndpointId -> Bool
  | setFeature endpoint => update settings ⟨endpoint.number, false⟩ true
  | clearFeature endpoint => update settings ⟨endpoint.number, false⟩ false
  | getStatus _ => settings

/-- The data it is answered with. -/
def reply (settings : EndpointId -> Bool) : HaltRequest -> Packet
  | setFeature _ | clearFeature _ => []
  | getStatus endpoint => [if settings ⟨endpoint.number, true⟩ then kUsbStatusHalted else 0, 0]

end HaltRequest

theorem number_bytes (request : HaltRequest) :
    (word16 request.bytes 4).setWidth 4 = request.endpoint.number := by
  have number (endpoint : EndpointId) : (((0 : BitVec 8).setWidth 16 <<< 8) |||
      (endpointIndex endpoint).setWidth 16).setWidth 4 = endpoint.number := by
    rcases endpoint with ⟨number, direction⟩
    revert number direction
    decide
  cases request <;> exact number _

/-- The number of the endpoint is taken from `wIndex`, and the direction from
`bmRequestType`. -/
theorem setupReqOf_bytes (request : HaltRequest) :
    setupReqOf request.bytes = requestBuffer >>= request.answer := by
  have number := number_bytes request
  unfold setupReqOf setupReq
  apply congrArg (requestBuffer >>= ·)
  funext buffer
  cases request with
  | setFeature endpoint | clearFeature endpoint | getStatus endpoint =>
      simp only [serveRequest, number]
      simp [HaltRequest.bytes, HaltRequest.endpoint, HaltRequest.answer, SetupReq.ofByte, word16]

/-! ## Answering -/

section

variable {n : Nat} {away : Multiset Nat} {slots : Nat -> Slot} {known : Nat -> Packet}
  {objects : Nat -> Buffer} {memory : Memory} {settings : EndpointId -> Bool}

/-- What is tracked, and which endpoints answer with STALL. -/
structure Held (n : Nat) (away : Multiset Nat) (slots : Nat -> Slot) (known : Nat -> Packet)
    (objects : Nat -> Buffer) (pool : BufferPool) (settings : EndpointId -> Bool)
    (usbdev : Controller) : Prop where
  tracked : Tracked n away slots known ⟨usbdev, pool, objects⟩
  stall : usbdev.stall = settings

theorem stable_held {pool : BufferPool} :
    Stable Hardware (Held n away slots known objects pool settings) :=
  fun _ _ move held => ⟨held.tracked.hardware move, stable_stall _ _ move held.stall⟩

/-- A buffer with data is given to the endpoint. -/
theorem sendBuffer_spec {buf : Buffer} {data : Packet} (below : memory.client.ep.toNat < 12)
    (idle : slots memory.client.ep.toNat = .idle) (filled : Filled buf data) :
    Triple device Hardware
      (Held n (away + {buf.id.toNat}) slots known objects memory.pool settings)
      (sendBuffer buf memory)
      (fun out usbdev => out = (.ok (), memory) ∧
        Held n away (update slots memory.client.ep.toNat
          (.holds buf.id.toNat data.length)) known objects memory.pool settings usbdev) := by
  intro start finish out held execution
  have short : data.length <= 64 := filled.short
  have quiet : (difUsbdevSend .object memory.client.ep .object buf).Within AvoidsStall :=
    within_avoidsStall (fun _ plain => avoids_send plain.2.1 _ _ _ _)
  unfold sendBuffer at execution
  rw [Code.get_bind_apply, Code.lift_bind_apply] at execution
  rcases exec_bind execution with ⟨middle, result, sending, execution⟩
  have stall := stall_of_avoids settings quiet start middle result held.stall sending
  rcases send_tracked below filled.type (by rw [filled.offset]; omega) idle start middle result
    held.tracked sending with ⟨rfl, tracked⟩
  rw [filled.offset] at tracked
  exact Triple.returned stable_held ⟨tracked, stall⟩ execution

/-- An answer with data. -/
theorem sendData_spec {id : BitVec 8} {data : Packet} (below : memory.client.ep.toNat < 12)
    (idle : slots memory.client.ep.toNat = .idle) (short : data.length <= maxPacketSize) :
    Triple device Hardware
      (Held n (away + {id.toNat}) slots (update known id.toNat []) objects memory.pool
        settings)
      (sendData (emptyBuffer id) data memory)
      (fun out usbdev => out = (.ok .kUsbTestutilsCtWaitIn, memory) ∧
        Held n away (update slots memory.client.ep.toNat (.holds id.toNat data.length))
          (update known id.toNat data) objects memory.pool settings usbdev) := by
  intro start finish out held execution
  have quiet : (difUsbdevBufferWrite .object .object .object (emptyBuffer id) data).Within
      AvoidsStall := within_avoidsStall (fun _ plain => avoids_bufferWrite plain.1 _ _ _ _ _)
  unfold sendData at execution
  rw [Code.lift_bind_apply] at execution
  rcases exec_bind execution with ⟨middle, result, writing, execution⟩
  have stall := stall_of_avoids settings quiet start middle result held.stall writing
  have room : ([] : Packet).length + data.length <= maxPacketSize := by
    rw [List.length_nil, Nat.zero_add]
    exact short
  rcases bufferWrite_filled (filled_nil id) room start middle result held.tracked writing with
    ⟨rfl, tracked⟩
  have filled := (filled_nil id).written room
  dsimp only at execution
  rw [checkDifOk_ok_bind, Code.bind_apply] at execution
  rcases exec_bind execution with ⟨later, sent, sending, execution⟩
  rcases sendBuffer_spec below idle filled middle later sent ⟨tracked, stall⟩ sending with
    ⟨rfl, held'⟩
  exact Triple.returned stable_held held' execution

/-- A feature of an endpoint is set or cleared. -/
theorem setupFeature_spec {id : BitVec 8} {endpoint : EndpointId} {newState : DifToggle}
    (below : memory.client.ep.toNat < 12) (idle : slots memory.client.ep.toNat = .idle)
    (valid : isValidEndpoint (endpoint.number.setWidth 8) = true)
    (toggle : difIsValidToggle newState = true) :
    Triple device Hardware
      (Held n (away + {id.toNat}) slots (update known id.toNat []) objects memory.pool
        settings)
      (setupFeature (emptyBuffer id) endpoint kUsbFeatureEndpointHalt newState memory)
      (fun out usbdev => out = (.ok .kUsbTestutilsCtStatIn, memory) ∧
        Held n away (update slots memory.client.ep.toNat (.holds id.toNat 0))
          (update known id.toNat []) objects memory.pool
          (update settings endpoint (difToggleToBool newState)) usbdev) := by
  intro start finish out held execution
  unfold setupFeature at execution
  rw [if_pos rfl, Code.lift_bind_apply] at execution
  rcases exec_bind execution with ⟨middle, result, enabling, execution⟩
  rcases stallEnable_spec valid toggle settings start middle result held.stall enabling with
    ⟨rfl, stall⟩
  have tracked := (directionEnable_tracked (by decide) (by decide) valid toggle start middle _
    held.tracked enabling).2
  rw [checkDifOk_ok_bind] at execution
  unfold sendStatus at execution
  rw [Code.bind_apply] at execution
  rcases exec_bind execution with ⟨later, sent, sending, execution⟩
  rcases sendBuffer_spec below idle (filled_nil id) middle later sent ⟨tracked, stall⟩ sending with
    ⟨rfl, held'⟩
  exact Triple.returned stable_held held' execution

/-- Whether an endpoint is halted is asked for. -/
theorem setupGetStatus_spec {id : BitVec 8} {endpoint : EndpointId}
    (below : memory.client.ep.toNat < 12) (idle : slots memory.client.ep.toNat = .idle)
    (valid : isValidEndpoint (endpoint.number.setWidth 8) = true) :
    Triple device Hardware
      (Held n (away + {id.toNat}) slots (update known id.toNat []) objects memory.pool
        settings)
      (setupGetStatus (emptyBuffer id) 0x82 endpoint 2 memory)
      (fun out usbdev => out = (.ok .kUsbTestutilsCtWaitIn, memory) ∧
        Held n away (update slots memory.client.ep.toNat (.holds id.toNat 2))
          (update known id.toNat
            [if settings endpoint then kUsbStatusHalted else 0, 0]) objects memory.pool settings
          usbdev) := by
  intro start finish out held execution
  unfold setupGetStatus at execution
  rw [Code.bind_apply] at execution
  rcases exec_bind execution with ⟨middle, stat, asking, execution⟩
  change Exec _ _ _ ((Code.lift (difUsbdevEndpointStallGet .object endpoint .object) >>= fun got =>
    checkDifOk got.1 >>= fun _ => pure (if got.2 then kUsbStatusHalted else 0)) memory) _ _
    at asking
  rw [Code.lift_bind_apply] at asking
  rcases exec_bind asking with ⟨later, got, getting, asking⟩
  rcases stallGet_spec valid settings start later got held.stall getting with ⟨rfl, stall⟩
  have tracked := stallGet_tracked endpoint start later _ held.tracked getting
  rw [checkDifOk_ok_bind] at asking
  rcases Triple.returned stable_held ⟨tracked, stall⟩ asking with ⟨rfl, held'⟩
  have short (first : BitVec 8) : ([first, 0].take (dataLength 2 2).toNat).length <= 64 :=
    (List.length_take_le' _ _).trans (Nat.le_of_ble_eq_true rfl)
  exact sendData_spec below idle (short _) middle finish out held' execution

theorem HaltRequest.answer_spec {id : BitVec 8} (memory : Memory) (request : HaltRequest)
    (below : memory.client.ep.toNat < 12) (idle : slots memory.client.ep.toNat = .idle)
    (valid : isValidEndpoint (request.endpoint.number.setWidth 8) = true) :
    Triple device Hardware
      (Held n (away + {id.toNat}) slots (update known id.toNat []) objects memory.pool
        settings)
      (request.answer (emptyBuffer id) memory)
      (fun out usbdev => out = (.ok request.stage, memory) ∧
        Held n away (update slots memory.client.ep.toNat
            (.holds id.toNat (request.reply settings).length))
          (update known id.toNat (request.reply settings)) objects memory.pool
          (request.leaves settings) usbdev) := by
  cases request with
  | setFeature endpoint => exact setupFeature_spec below idle valid rfl
  | clearFeature endpoint => exact setupFeature_spec below idle valid rfl
  | getStatus endpoint => exact setupGetStatus_spec below idle valid

/-- A request is refused for want of a buffer, or it is answered. -/
theorem setupReqOf_spec (memory : Memory) (request : HaltRequest)
    (below : memory.client.ep.toNat < 12)
    (idle : slots memory.client.ep.toNat = .idle)
    (valid : isValidEndpoint (request.endpoint.number.setWidth 8) = true) :
    Triple device Hardware (Held n away slots known objects memory.pool settings)
      (setupReqOf request.bytes memory)
      (fun out usbdev => out.1 = .error .check ∨ Exists fun id => Exists fun pool =>
        out = (.ok request.stage, { memory with pool := pool }) ∧
        Held n away (update slots memory.client.ep.toNat
            (.holds id (request.reply settings).length))
          (update known id (request.reply settings)) objects pool
          (request.leaves settings) usbdev) := by
  intro start finish out held execution
  rw [setupReqOf_bytes, Code.bind_apply] at execution
  rcases exec_bind execution with ⟨middle, got, getting, execution⟩
  unfold requestBuffer at getting
  rw [Code.get_bind_apply] at getting
  rcases request_tracked held.tracked with unavailable | ⟨id, pool, taken, inside, fresh, tracked⟩
  · rw [unavailable] at getting
    rw [(exec_ret getting).1] at execution
    exact .inl (congrArg Prod.fst (exec_ret execution).1)
  · rw [taken] at getting
    rcases Triple.returned stable_held ⟨tracked, held.stall⟩ getting with ⟨rfl, held'⟩
    rcases request.answer_spec { memory with pool := pool } below idle valid middle
      finish out held' execution with ⟨answered, held''⟩
    exact .inr ⟨id.toNat, pool, answered, held''⟩

/-! ## From the packet to the answer -/

theorem length_bytes (request : HaltRequest) : request.bytes.length = 8 := by
  cases request <;> rfl

/-- A packet enables the endpoint for further ones before anything else. -/
theorem outEnable_held {pool : BufferPool} :
    Triple device Hardware (Held n away slots known objects pool settings)
      (difUsbdevEndpointOutEnable .object 0 kDifToggleEnabled)
      (fun result usbdev => result = .kDifOk ∧
        Held n away slots known objects pool settings usbdev) := by
  intro start finish out held execution
  have quiet : (difUsbdevEndpointOutEnable .object 0 kDifToggleEnabled).Within AvoidsStall :=
    functionalityEnable_avoidsStall _ _ _ (by decide)
  have plain : PlainRegister rxenableOutRegOffset := by decide
  rcases functionalityEnable_tracked plain (show isValidEndpoint 0 = true by decide)
    (show difIsValidToggle kDifToggleEnabled = true by rfl) start finish out held.tracked
    execution with ⟨isOk, tracked⟩
  exact ⟨isOk, tracked, stall_of_avoids settings quiet start finish out held.stall execution⟩

/-- Memory after a packet has been dealt with. -/
def stageSet (memory : Memory) (pool : BufferPool) (ctrlstate : CtState) : Memory :=
  { memory with pool := pool, client := { memory.client with ctrlstate := ctrlstate } }

/-- A request that is served is answered. -/
theorem ctrlRx_request {request : HaltRequest} {entry : RxEntry}
    (below : memory.client.ep.toNat < 12) (idle : slots memory.client.ep.toNat = .idle)
    (valid : isValidEndpoint (request.endpoint.number.setWidth 8) = true)
    (stage : memory.client.ctrlstate = .kUsbTestutilsCtIdle) (isSetup : entry.setup = true)
    (size : entry.size = 8) :
    Triple device Hardware
      (Held n (away + {entry.received.id.toNat}) slots
        (update known entry.received.id.toNat request.bytes) objects memory.pool settings)
      (ctrlRx entry.info entry.received memory)
      (fun out usbdev => out.1 = .ok () -> Exists fun known' => Exists fun id => Exists fun pool =>
        out.2 = stageSet memory pool request.stage ∧ known' id = request.reply settings ∧
        Held n away (update slots memory.client.ep.toNat
          (.holds id (request.reply settings).length)) known' objects pool
          (request.leaves settings) usbdev) := by
  intro start finish out held execution served
  have eight : request.bytes.length = entry.size.toNat := by
    rw [length_bytes, size]
    rfl
  unfold ctrlRx at execution
  rw [Code.lift_bind_apply] at execution
  rcases exec_bind execution with ⟨middle, result, enabling, execution⟩
  rcases outEnable_held start middle result held enabling with ⟨rfl, held⟩
  have isRequest : entry.info.isSetup ∧ entry.info.length = 8 := by
    constructor
    · exact isSetup
    · rw [RxEntry.info, size]
      rfl
  rw [tryDif_ok_bind, Code.get_bind_apply, stage] at execution
  dsimp only at execution
  rw [if_pos isRequest] at execution
  unfold ctrlSetup at execution
  rw [Code.get_bind_apply, Code.lift_bind_apply] at execution
  rcases exec_bind execution with ⟨later, read, reading, execution⟩
  have quiet : (difUsbdevBufferRead .object .object .object .object memory.pool entry.received
      8).Within AvoidsStall := within_avoidsStall (fun _ plain => avoids_bufferRead plain.1 _ _ _ _ _ _ _)
  have stall := stall_of_avoids settings quiet middle later read held.stall reading
  have contains : update known entry.received.id.toNat request.bytes
      entry.received.id.toNat = request.bytes := update_self _ _ _
  have unread : Unread entry.received (update known entry.received.id.toNat request.bytes
      entry.received.id.toNat) 0 := by
    rw [contains]
    exact entry.unread eight (by rw [length_bytes]; decide)
  rcases bufferRead_tracked 8 unread middle later read held.tracked reading with
    ⟨pool', added, part, sameId, readTo, tracked⟩
  have all : ¬ 0 + (8 : BitVec 32).toNat < request.bytes.length := by
    rw [length_bytes]
    decide
  rw [contains] at part tracked
  rw [if_neg all] at tracked
  have bytes : read.2.2.2 = request.bytes :=
    part.bytes.trans (List.take_of_length_le (by rw [List.drop_zero, length_bytes]; decide))
  dsimp only at execution
  rw [part.result, bytes, Code.set_bind_apply, tryDif_ok_bind, Code.bind_apply] at execution
  rcases exec_bind execution with ⟨last, answered, answering, execution⟩
  rcases setupReqOf_spec { memory with pool := read.2.1 } request below idle valid
    later last answered ⟨tracked, stall⟩ answering with refused | ⟨id, pool, rfl, held'⟩
  · rcases answered with ⟨first, memory'⟩
    dsimp only at refused
    rw [refused] at execution
    rw [(exec_ret execution).1] at served
    cases served
  · have accepted : request.stage ≠ .kUsbTestutilsCtError := by
      intro failed
      cases request <;> cases failed
    change Exec _ _ _ ((modifyCtx _ >>= fun _ => _) { memory with pool := pool }) _ _ at execution
    rw [Code.bind_apply] at execution
    change Exec _ _ _ ((if request.stage = .kUsbTestutilsCtError then _ else _ :
      Code Memory Failure Unit) (stageSet memory pool request.stage)) _ _ at execution
    rw [if_neg accepted] at execution
    rcases Triple.returned stable_held held' execution with ⟨rfl, held''⟩
    exact ⟨_, id, pool, rfl, update_self _ _ _, held''⟩

/-- The status stage of a request that has been answered with data. -/
theorem ctrlRx_status {entry : RxEntry} (stage : memory.client.ctrlstate = .kUsbTestutilsCtStatOut)
    (isOut : entry.setup = false) (empty : entry.size = 0) :
    Triple device Hardware
      (Held n (away + {entry.received.id.toNat}) slots known objects memory.pool settings)
      (ctrlRx entry.info entry.received memory)
      (fun out usbdev => Exists fun pool =>
        out = (.ok (), stageSet memory pool .kUsbTestutilsCtIdle) ∧
        Held n away slots known objects pool settings usbdev) := by
  intro start finish out held execution
  unfold ctrlRx at execution
  rw [Code.lift_bind_apply] at execution
  rcases exec_bind execution with ⟨middle, result, enabling, execution⟩
  rcases outEnable_held start middle result held enabling with ⟨rfl, held⟩
  have isStatus : !entry.info.isSetup ∧ entry.info.length = 0 := by
    constructor
    · rw [RxEntry.info, isOut]
      rfl
    · rw [RxEntry.info, empty]
      rfl
  rw [tryDif_ok_bind, Code.get_bind_apply, stage] at execution
  dsimp only at execution
  rw [if_pos isStatus] at execution
  rcases held.tracked.account.addable with ⟨pool, added⟩
  have returns : difUsbdevBufferReturn .object .object .object memory.pool entry.received =
      (.kDifOk, pool, { entry.received with type := .kDifUsbdevBufferTypeStale }) := by
    unfold difUsbdevBufferReturn
    have isRead : entry.received.type = .kDifUsbdevBufferTypeRead := rfl
    rw [if_neg (by decide)]
    simp only [isRead, added]
  unfold ctrlStatus returnBuffer at execution
  rw [Code.bind_apply, Code.get_bind_apply, returns] at execution
  dsimp only at execution
  rw [Code.set_bind_apply] at execution
  have held' : Held n away slots known objects pool settings middle :=
    ⟨⟨held.tracked.account.add added, held.tracked.endpoints, fun id isMine =>
      held.tracked.contents id (isMine.imp_left (fun inHand =>
        Multiset.mem_add.mpr (.inl inHand))), held.tracked.fits⟩, held.stall⟩
  rcases Triple.returned stable_held held' execution with ⟨rfl, held''⟩
  exact ⟨pool, rfl, held''⟩

end

end UsbControlEp
end SunburstChip
