import SunburstChip.Dif.UsbdevPackets

namespace SunburstChip
namespace Usbdev

open Mmio
open Function (update update_of_ne update_self)

/-!
# Registers that keep what is written to them

A register of the controller that only keeps what is written to it is changed
by the functions that write it, and by no others.  Two of them say for each
endpoint whether it answers with STALL.
-/

/-- The access does not write a register. -/
def Avoids (offset : Nat) : Access -> Prop
  | .write32 offset' _ => offset' ≠ offset
  | .read32 _ | .write8 _ _ => True

section

variable {offset : Nat}

/-! ## What the driver's functions do not write -/

theorem avoids_memory {access : Access} (low : offset < bufferRegOffset)
    (inMemory : AtOrAbove bufferRegOffset access) : Avoids offset access := by
  cases access with
  | read32 | write8 => trivial
  | write32 offset' value =>
      rintro rfl
      exact absurd low (Nat.not_lt.mpr inMemory)

theorem avoids_configIn {endpoint : BitVec 8} (notConfig : configInEndpoint offset = none)
    (valid : endpoint.toNat < 12) (value : BitVec 32) :
    Avoids offset (.write32 (configInRegOffset endpoint) value) := by
  rintro rfl
  unfold configInRegOffset at notConfig
  rw [configInEndpoint_of_lt valid] at notConfig
  cases notConfig

variable {regOffset : Nat} {newState : DifToggle} {usbdev : Controller} {α : Type}
  {settings : EndpointId -> Bool} {endpoint : EndpointId}

theorem avoids_functionalityEnable (pointer : Pointer) (endpoint : BitVec 8) (newState : DifToggle)
    (apart : regOffset ≠ offset) :
    (endpointFunctionalityEnable pointer regOffset endpoint newState).Within (Avoids offset) := by
  unfold endpointFunctionalityEnable
  rw [within_ite]
  exact ⟨fun _ => trivial, fun _ => ⟨trivial, fun _ => ⟨apart, trivial⟩⟩⟩

theorem avoids_stallGet (pointer state : Pointer) (endpoint : EndpointId) :
    (difUsbdevEndpointStallGet pointer endpoint state).Within (Avoids offset) := by
  unfold difUsbdevEndpointStallGet
  rw [within_ite]
  exact ⟨fun _ => trivial, fun _ => ⟨trivial, fun _ => trivial⟩⟩

theorem avoids_statusGetRxFifoEmpty (pointer isEmpty : Pointer) :
    (difUsbdevStatusGetRxFifoEmpty pointer isEmpty).Within (Avoids offset) := by
  unfold difUsbdevStatusGetRxFifoEmpty
  rw [within_ite]
  exact ⟨fun _ => trivial, fun _ => ⟨trivial, fun _ => trivial⟩⟩

theorem avoids_recv (usbdev info buffer : Pointer) :
    (difUsbdevRecv usbdev info buffer).Within (Avoids offset) :=
  recv_within (fun _ => trivial) _ _ _

theorem avoids_bufferRead (low : offset < bufferRegOffset) (usbdev bufferPool buffer dst : Pointer)
    (pool : BufferPool) (buf : Buffer) (dstLen : BitVec 32) :
    (difUsbdevBufferRead usbdev bufferPool buffer dst pool buf dstLen).Within (Avoids offset) :=
  (memory_bufferRead _ _ _ _ _ _ _).imp (fun _ => avoids_memory low)

theorem avoids_bufferWrite (low : offset < bufferRegOffset) (usbdev buffer src : Pointer)
    (buf : Buffer) (bytes : List (BitVec 8)) :
    (difUsbdevBufferWrite usbdev buffer src buf bytes).Within (Avoids offset) :=
  (memory_bufferWrite _ _ _ _ _).imp (fun _ => avoids_memory low)

theorem avoids_send (notConfig : configInEndpoint offset = none) (pointer buffer : Pointer)
    (endpoint : BitVec 8) (buf : Buffer) :
    (difUsbdevSend pointer endpoint buffer buf).Within (Avoids offset) :=
  send_within (fun inside _ => avoids_configIn notConfig inside _) _ _ _

theorem avoids_clearTxStatus (plain : PlainRegister offset) (pointer bufferPool : Pointer)
    (pool : BufferPool) (endpoint : BitVec 8) :
    (difUsbdevClearTxStatus pointer bufferPool pool endpoint).Within (Avoids offset) := by
  have notSent : inSentRegOffset ≠ offset := by
    rintro rfl
    exact absurd plain (by decide)
  exact clearTxStatus_within (fun _ => trivial)
    (fun inside _ => avoids_configIn plain.2.1 inside _) (fun _ => notSent) _ _ _

theorem avoids_fillLoop (plain : PlainRegister offset) (rounds : Nat) (pool : BufferPool) :
    (fillLoop rounds pool).Within (Avoids offset) := by
  have notOut : avoutbufferRegOffset ≠ offset := by
    rintro rfl
    exact absurd plain (by decide)
  have notSetup : avsetupbufferRegOffset ≠ offset := by
    rintro rfl
    exact absurd plain (by decide)
  exact fillLoop_within (fun _ => trivial) (fun _ => notOut) (fun _ => notSetup) rounds pool

/-- The driver's functions for buffers and packets write no such register. -/
theorem avoids_perform (plain : PlainRegister offset) (call : Call) (pool : BufferPool)
    (objects : Nat -> Buffer) : (call.perform pool objects).Within (Avoids offset) := by
  cases call with
  | fillAvailableFifos usbdev bufferPool =>
      refine within_bind ?_ (fun _ => trivial)
      unfold difUsbdevFillAvailableFifos
      rw [within_ite]
      exact ⟨fun _ => trivial, fun _ => avoids_fillLoop plain _ _⟩
  | recv usbdev info buffer object => exact within_bind (avoids_recv _ _ _) (fun _ => trivial)
  | bufferRequest | bufferReturn => trivial
  | bufferRead usbdev bufferPool buffer dst object dstLen =>
      exact within_bind (avoids_bufferRead plain.1 _ _ _ _ _ _ _) (fun _ => trivial)
  | bufferWrite usbdev buffer src object bytes =>
      exact within_bind (avoids_bufferWrite plain.1 _ _ _ _ _) (fun _ => trivial)
  | send usbdev endpoint buffer object =>
      exact within_bind (avoids_send plain.2.1 _ _ _ _) (fun _ => trivial)
  | clearTxStatus usbdev bufferPool endpoint =>
      exact within_bind (avoids_clearTxStatus plain _ _ _ _) (fun _ => trivial)

/-! ## What a register keeps -/

theorem functionalityEnable_returns (regOffset : Nat) {endpoint : BitVec 8}
    (valid : isValidEndpoint endpoint = true) (toggle : difIsValidToggle newState = true) :
    (endpointFunctionalityEnable .object regOffset endpoint newState).Returns
      (fun result => result = .kDifOk) := by
  unfold endpointFunctionalityEnable
  rw [if_neg (by simp [valid, toggle])]
  exact fun _ => rfl

theorem Hardware.regs {usbdev' : Controller} (move : Hardware usbdev usbdev') :
    usbdev'.regs = usbdev.regs := by
  cases move <;> rfl

theorem regs_writeWord {written : Nat} (apart : written ≠ offset) (value : BitVec 32) :
    (usbdev.writeWord written value).regs offset = usbdev.regs offset := by
  unfold Controller.writeWord
  repeat' split
  all_goals first
    | rfl
    | exact update_of_ne apart.symm _ _

theorem readWord_plain (plain : PlainRegister offset) :
    usbdev.readWord offset = usbdev.regs offset := by
  rcases plain with ⟨low, notConfig, others⟩
  simp only [List.mem_cons, List.not_mem_nil, or_false, not_or] at others
  simp only [Controller.readWord, if_neg others.2.2.1, if_neg others.2.2.2.1,
    if_neg others.2.2.2.2, if_neg (Nat.not_le.mpr low), notConfig]

/-- A register is kept by what does not write it. -/
theorem kept_of_avoids {m : Mmio α} (value : BitVec 32) (within : m.Within (Avoids offset)) :
    Triple device Hardware (fun usbdev => usbdev.regs offset = value) m
      (fun _ usbdev => usbdev.regs offset = value) := by
  have stable : Stable Hardware (fun usbdev => usbdev.regs offset = value) := by
    intro usbdev usbdev' move kept
    rw [move.regs]
    exact kept
  refine Triple.invariant stable (fun access usbdev avoids kept => ?_) within
  cases access with
  | read32 read =>
      change (if _ then _ else _ : Controller).regs offset = _
      split <;> exact kept
  | write32 written word => exact (regs_writeWord avoids word).trans kept
  | write8 => exact kept

/-! ## Endpoints that answer with STALL -/

/-- The register with the bit of an endpoint. -/
def EndpointId.stallReg (endpoint : EndpointId) : Nat :=
  if endpoint.direction then inStallRegOffset else outStallRegOffset

/-- The endpoint answers with STALL. -/
def Controller.stall (usbdev : Controller) (endpoint : EndpointId) : Bool :=
  bitfieldBit32Read (usbdev.regs endpoint.stallReg) endpoint.number.toNat

/-- An access that leaves all of these settings. -/
def AvoidsStall (access : Access) : Prop :=
  Avoids inStallRegOffset access ∧ Avoids outStallRegOffset access

theorem plain_stallReg (endpoint : EndpointId) : PlainRegister endpoint.stallReg := by
  unfold EndpointId.stallReg
  split <;> decide

theorem within_avoidsStall {m : Mmio α}
    (within : forall offset, PlainRegister offset -> m.Within (Avoids offset)) :
    m.Within AvoidsStall := by
  have both {m' : Mmio α} (left : m'.Within (Avoids inStallRegOffset))
      (right : m'.Within (Avoids outStallRegOffset)) : m'.Within AvoidsStall := by
    induction m' with
    | ret => trivial
    | read32 offset next ih | poll32 offset done next ih =>
        exact ⟨⟨left.1, right.1⟩, fun value => ih value (left.2 value) (right.2 value)⟩
    | write32 offset value next ih | write8 offset value next ih =>
        exact ⟨⟨left.1, right.1⟩, ih left.2 right.2⟩
  exact both (within _ (by decide)) (within _ (by decide))

theorem functionalityEnable_avoidsStall (pointer : Pointer) (endpoint : BitVec 8)
    (newState : DifToggle) (apart : regOffset ≠ inStallRegOffset ∧ regOffset ≠ outStallRegOffset) :
    (endpointFunctionalityEnable pointer regOffset endpoint newState).Within AvoidsStall := by
  unfold endpointFunctionalityEnable
  rw [within_ite]
  exact ⟨fun _ => trivial, fun _ => ⟨⟨trivial, trivial⟩, fun _ => ⟨apart, trivial⟩⟩⟩

/-- The settings are kept by what does not write them. -/
theorem stall_of_avoids {m : Mmio α} (settings : EndpointId -> Bool)
    (within : m.Within AvoidsStall) :
    Triple device Hardware (fun usbdev => usbdev.stall = settings) m
      (fun _ usbdev => usbdev.stall = settings) := by
  intro start finish out isSettings execution
  rw [<- isSettings]
  funext endpoint
  have avoids : m.Within (Avoids endpoint.stallReg) := by
    refine within.imp (fun access both => ?_)
    unfold EndpointId.stallReg
    split
    · exact both.1
    · exact both.2
  exact congrArg (fun word => bitfieldBit32Read word _)
    (kept_of_avoids _ avoids start finish out rfl execution)

theorem stable_stall :
    Stable Hardware (fun usbdev => usbdev.stall = settings) := by
  intro usbdev usbdev' move isSettings
  rw [<- isSettings]
  unfold Controller.stall
  rw [move.regs]

theorem direction_of_stallReg {endpoint' : EndpointId}
    (same : endpoint.stallReg = endpoint'.stallReg) :
    endpoint.direction = endpoint'.direction := by
  unfold EndpointId.stallReg at same
  cases isIn : endpoint.direction with
  | false =>
      cases isIn' : endpoint'.direction with
      | false => rfl
      | true =>
          rw [isIn, isIn'] at same
          cases same
  | true =>
      cases isIn' : endpoint'.direction with
      | true => rfl
      | false =>
          rw [isIn, isIn'] at same
          cases same

/-- The setting of one endpoint is a bit of its own. -/
theorem stall_update (usbdev : Controller) (endpoint : EndpointId) (value : Bool)
    {word : BitVec 32} (isWord : word =
      bitfieldBit32Write (usbdev.regs endpoint.stallReg) endpoint.number.toNat value) :
    Controller.stall { usbdev with regs := update usbdev.regs endpoint.stallReg word } =
      update usbdev.stall endpoint value := by
  subst isWord
  funext other
  unfold Controller.stall
  dsimp only
  by_cases same : other = endpoint
  · subst same
    have inside : other.number.toNat < 32 := by omega
    rw [update_self, update_self, bitfieldBit32Read_write_same inside]
  · rw [update_of_ne same]
    by_cases register : other.stallReg = endpoint.stallReg
    · have apart : endpoint.number.toNat ≠ other.number.toNat := by
        intro number
        apply same
        rcases other with ⟨number', direction'⟩
        rcases endpoint with ⟨number'', direction''⟩
        have direction := direction_of_stallReg register
        have equal := BitVec.eq_of_toNat_eq number
        dsimp only at direction equal
        rw [direction, equal]
      rw [register, update_self, bitfieldBit32Read_write_other apart]
    · rw [update_of_ne register]

/-- The setting of one endpoint is changed, and no other. -/
theorem stallEnable_spec (valid : isValidEndpoint (endpoint.number.setWidth 8) = true)
    (toggle : difIsValidToggle newState = true) (settings : EndpointId -> Bool) :
    Triple device Hardware (fun usbdev => usbdev.stall = settings)
      (difUsbdevEndpointStallEnable .object endpoint newState)
      (fun result usbdev => result = .kDifOk ∧
        usbdev.stall = update settings endpoint (difToggleToBool newState)) := by
  have number : (endpoint.number.setWidth 8).toNat = endpoint.number.toNat := by
    rw [BitVec.toNat_setWidth]
    omega
  have plain := plain_stallReg endpoint
  have notFifo : endpoint.stallReg ≠ rxfifoRegOffset := by
    intro same
    exact plain.2.2 (by rw [same]; decide)
  unfold difUsbdevEndpointStallEnable endpointFunctionalityEnable
  rw [if_neg (by simp [valid, toggle]), number]
  refine Triple.read32 (fun regVal usbdev => regVal = usbdev.regs endpoint.stallReg ∧
    usbdev.stall = settings) stable_stall ?_ (fun regVal => Triple.write32
      (fun usbdev => usbdev.stall = update settings endpoint (difToggleToBool newState))
      ?_ ?_ (Triple.ret stable_stall (fun _ isSettings => ⟨rfl, isSettings⟩)))
  · intro usbdev isSettings
    change usbdev.readWord endpoint.stallReg =
        ((device.read32 endpoint.stallReg usbdev).2).regs endpoint.stallReg ∧
      ((device.read32 endpoint.stallReg usbdev).2).stall = settings
    rw [read32_of_ne usbdev notFifo]
    exact ⟨readWord_plain plain, isSettings⟩
  · rintro usbdev usbdev' move ⟨isWord, isSettings⟩
    refine ⟨?_, stable_stall _ _ move isSettings⟩
    rw [move.regs]
    exact isWord
  · rintro usbdev ⟨rfl, isSettings⟩
    change (usbdev.writeWord endpoint.stallReg _).stall = _
    rw [writeWord_plain plain, <- isSettings]
    exact stall_update usbdev endpoint _ rfl

theorem stallGet_spec (valid : isValidEndpoint (endpoint.number.setWidth 8) = true)
    (settings : EndpointId -> Bool) :
    Triple device Hardware (fun usbdev => usbdev.stall = settings)
      (difUsbdevEndpointStallGet .object endpoint .object)
      (fun out usbdev => out = (.kDifOk, settings endpoint) ∧ usbdev.stall = settings) := by
  have plain := plain_stallReg endpoint
  have notFifo : endpoint.stallReg ≠ rxfifoRegOffset := by
    intro same
    exact plain.2.2 (by rw [same]; decide)
  unfold difUsbdevEndpointStallGet
  rw [if_neg (by simp [valid])]
  refine Triple.read32 (fun regVal usbdev =>
    bitfieldBit32Read regVal endpoint.number.toNat = settings endpoint ∧ usbdev.stall = settings)
    stable_stall ?_ (fun regVal => Triple.ret ?_ ?_)
  · intro usbdev isSettings
    change _ ∧ ((device.read32 endpoint.stallReg usbdev).2).stall = settings
    rw [read32_of_ne usbdev notFifo]
    refine ⟨?_, isSettings⟩
    rw [<- isSettings]
    exact congrArg (fun word => bitfieldBit32Read word endpoint.number.toNat) (readWord_plain plain)
  · exact fun _ _ move both => ⟨both.1, stable_stall _ _ move both.2⟩
  · rintro usbdev ⟨isSetting, isSettings⟩
    rw [isSetting]
    exact ⟨rfl, isSettings⟩

/-- The setting is switched off. -/
def Controller.clearStall (usbdev : Controller) (endpoint : EndpointId) : Controller :=
  let word := bitfieldBit32Write (usbdev.regs endpoint.stallReg) endpoint.number.toNat false
  { usbdev with regs := update usbdev.regs endpoint.stallReg word }

theorem stall_clearStall (usbdev : Controller) (endpoint : EndpointId) :
    (usbdev.clearStall endpoint).stall = update usbdev.stall endpoint false :=
  stall_update usbdev endpoint false rfl

/-- What a SETUP packet for an endpoint does to its settings. -/
def Controller.setupArrives (usbdev : Controller) (ep : BitVec 8) : Controller :=
  (usbdev.clearStall ⟨ep.setWidth 4, true⟩).clearStall ⟨ep.setWidth 4, false⟩

theorem stall_setupArrives (usbdev : Controller) (ep : BitVec 8) :
    (usbdev.setupArrives ep).stall =
      update (update usbdev.stall ⟨ep.setWidth 4, true⟩ false)
        ⟨ep.setWidth 4, false⟩ false := by
  unfold Controller.setupArrives
  rw [stall_clearStall, stall_clearStall]

/-- Switching something else on or off leaves the settings. -/
theorem functionalityEnable_stall {endpoint : BitVec 8}
    (apart : regOffset ≠ inStallRegOffset ∧ regOffset ≠ outStallRegOffset)
    (valid : isValidEndpoint endpoint = true) (toggle : difIsValidToggle newState = true) :
    Triple device Hardware (fun usbdev => usbdev.stall = settings)
      (endpointFunctionalityEnable .object regOffset endpoint newState)
      (fun result usbdev => result = .kDifOk ∧ usbdev.stall = settings) := by
  intro start finish out isSettings execution
  exact ⟨(functionalityEnable_returns regOffset valid toggle).of_exec execution,
    stall_of_avoids settings (functionalityEnable_avoidsStall _ _ _ apart) start finish out
      isSettings execution⟩

/-- The same for a register of each direction. -/
theorem directionEnable_stall {inOffset outOffset : Nat}
    (apartIn : inOffset ≠ inStallRegOffset ∧ inOffset ≠ outStallRegOffset)
    (apartOut : outOffset ≠ inStallRegOffset ∧ outOffset ≠ outStallRegOffset)
    (valid : isValidEndpoint (endpoint.number.setWidth 8) = true)
    (toggle : difIsValidToggle newState = true) :
    Triple device Hardware (fun usbdev => usbdev.stall = settings)
      (endpointFunctionalityEnable .object (if endpoint.direction then inOffset else outOffset)
        (endpoint.number.setWidth 8) newState)
      (fun result usbdev => result = .kDifOk ∧ usbdev.stall = settings) := by
  apply functionalityEnable_stall _ valid toggle
  split
  · exact apartIn
  · exact apartOut

/-! ## What is tracked of packets -/

/-- The access is to a register that only keeps what is written to it. -/
def ToPlain : Access -> Prop
  | .read32 offset | .write32 offset _ => PlainRegister offset
  | .write8 _ _ => False

section

variable {n : Nat} {away : Multiset Nat} {slots : Nat -> Slot} {known : Nat -> List (BitVec 8)}
  {pool : BufferPool} {objects : Nat -> Buffer}

theorem Tracked.regs {usbdev : Controller}
    (tracked : Tracked n away slots known ⟨usbdev, pool, objects⟩) (regs : Nat -> BitVec 32) :
    Tracked n away slots known ⟨{ usbdev with regs := regs }, pool, objects⟩ := by
  rcases tracked with ⟨⟨accounted, avSetup, avOut, bounds, exclusive⟩, endpoints, contents, fits⟩
  exact ⟨⟨accounted, avSetup, avOut, bounds, exclusive⟩, endpoints, contents, fits⟩

theorem tracked_toPlain {α : Type} {m : Mmio α} (within : m.Within ToPlain) :
    Triple device Hardware (fun usbdev => Tracked n away slots known ⟨usbdev, pool, objects⟩) m
      (fun _ usbdev => Tracked n away slots known ⟨usbdev, pool, objects⟩) := by
  refine Triple.invariant stable_tracked (fun access usbdev plain tracked => ?_) within
  cases access with
  | read32 offset =>
      have notFifo : offset ≠ rxfifoRegOffset := by
        rintro rfl
        exact plain.2.2 (by decide)
      change Tracked n away slots known ⟨(device.read32 offset usbdev).2, pool, objects⟩
      rw [read32_of_ne usbdev notFifo]
      exact tracked
  | write32 offset value =>
      change Tracked n away slots known ⟨usbdev.writeWord offset value, pool, objects⟩
      rw [writeWord_plain plain]
      exact tracked.regs _
  | write8 => cases plain

/-- Reading a setting leaves what is tracked. -/
theorem stallGet_tracked (endpoint : EndpointId) :
    Triple device Hardware (fun usbdev => Tracked n away slots known ⟨usbdev, pool, objects⟩)
      (difUsbdevEndpointStallGet .object endpoint .object)
      (fun _ usbdev => Tracked n away slots known ⟨usbdev, pool, objects⟩) := by
  apply tracked_toPlain
  unfold difUsbdevEndpointStallGet
  rw [within_ite]
  exact ⟨fun _ => trivial, fun _ => ⟨plain_stallReg endpoint, fun _ => trivial⟩⟩

/-- So does connecting the device. -/
theorem interfaceEnable_tracked (newState : DifToggle) :
    Triple device Hardware (fun usbdev => Tracked n away slots known ⟨usbdev, pool, objects⟩)
      (difUsbdevInterfaceEnable .object newState)
      (fun _ usbdev => Tracked n away slots known ⟨usbdev, pool, objects⟩) := by
  have plain : PlainRegister usbctrlRegOffset := by decide
  apply tracked_toPlain
  unfold difUsbdevInterfaceEnable
  rw [within_ite]
  exact ⟨fun _ => trivial, fun _ => ⟨plain, fun _ => ⟨plain, trivial⟩⟩⟩

end

theorem interfaceEnable_stall (toggle : difIsValidToggle newState = true) :
    Triple device Hardware (fun usbdev => usbdev.stall = settings)
      (difUsbdevInterfaceEnable .object newState)
      (fun result usbdev => result = .kDifOk ∧ usbdev.stall = settings) := by
  intro start finish out isSettings execution
  have apart : usbctrlRegOffset ≠ inStallRegOffset ∧ usbctrlRegOffset ≠ outStallRegOffset := by
    decide
  have returns : (difUsbdevInterfaceEnable .object newState).Returns (· = .kDifOk) := by
    unfold difUsbdevInterfaceEnable
    rw [if_neg (by simp [toggle])]
    exact fun _ => rfl
  have quiet : (difUsbdevInterfaceEnable .object newState).Within AvoidsStall := by
    unfold difUsbdevInterfaceEnable
    rw [within_ite]
    exact ⟨fun _ => trivial, fun _ => ⟨⟨trivial, trivial⟩, fun _ => ⟨apart, trivial⟩⟩⟩
  exact ⟨returns.of_exec execution,
    stall_of_avoids settings quiet start finish out isSettings execution⟩

end

end Usbdev
end SunburstChip
