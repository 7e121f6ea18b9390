import SunburstChip.Dif.UsbdevBuffers

namespace SunburstChip
namespace Usbdev

open Mmio
open Function (update update_idem update_of_ne update_self)

/-!
# Endpoints

The functions of `dif_usbdev.c` that switch something on or off for an
endpoint, and what each endpoint offers to the host.  An endpoint is idle or
holds one packet, which is given by its buffer and its size, from the moment
the driver sends it until the driver clears it.  Sending and clearing are the
only accesses that change this, each for its own endpoint; the controller and
all other accesses leave it alone.
-/

/-- `dif_usbdev_endpoint_id_t`; the direction is set for an IN endpoint. -/
structure EndpointId where
  number : BitVec 4
  direction : Bool
  deriving DecidableEq

abbrev usbctrlRegOffset : Nat := 0x10
abbrev usbctrlEnableBit : Nat := 0
abbrev usbctrlDeviceAddressField : BitfieldField32 := ⟨0x7f, 16⟩
abbrev epOutEnableRegOffset : Nat := 0x14
abbrev epInEnableRegOffset : Nat := 0x18
abbrev rxenableSetupRegOffset : Nat := 0x2c
abbrev rxenableOutRegOffset : Nat := 0x30
abbrev setNakOutRegOffset : Nat := 0x34
abbrev outStallRegOffset : Nat := 0x3c
abbrev inStallRegOffset : Nat := 0x40
abbrev outIsoRegOffset : Nat := 0x74
abbrev inIsoRegOffset : Nat := 0x78

/-- `endpoint_functionality_enable` -/
def endpointFunctionalityEnable (usbdev : Pointer) (regOffset : Nat) (endpoint : BitVec 8)
    (newState : DifToggle) : Mmio DifResult := do
  if usbdev = .null ∨ !isValidEndpoint endpoint ∨ !difIsValidToggle newState then
    return .kDifBadArg
  let regVal <- mmioRegionRead32 regOffset
  mmioRegionWrite32 regOffset
    (bitfieldBit32Write regVal endpoint.toNat (difToggleToBool newState))
  return .kDifOk

/-- `dif_usbdev_endpoint_out_enable` -/
def difUsbdevEndpointOutEnable (usbdev : Pointer) (endpoint : BitVec 8) (newState : DifToggle) :
    Mmio DifResult :=
  endpointFunctionalityEnable usbdev rxenableOutRegOffset endpoint newState

/-- `dif_usbdev_endpoint_set_nak_out_enable` -/
def difUsbdevEndpointSetNakOutEnable (usbdev : Pointer) (endpoint : BitVec 8)
    (newState : DifToggle) : Mmio DifResult :=
  endpointFunctionalityEnable usbdev setNakOutRegOffset endpoint newState

/-- `dif_usbdev_endpoint_stall_enable` -/
def difUsbdevEndpointStallEnable (usbdev : Pointer) (endpoint : EndpointId)
    (newState : DifToggle) : Mmio DifResult :=
  endpointFunctionalityEnable usbdev
    (if endpoint.direction then inStallRegOffset else outStallRegOffset)
    (endpoint.number.setWidth 8) newState

/-- `dif_usbdev_endpoint_stall_get`: the result and the state. -/
def difUsbdevEndpointStallGet (usbdev : Pointer) (endpoint : EndpointId) (state : Pointer) :
    Mmio (DifResult × Bool) := do
  if usbdev = .null ∨ state = .null ∨ !isValidEndpoint (endpoint.number.setWidth 8) then
    return (.kDifBadArg, false)
  let regVal <- mmioRegionRead32
    (if endpoint.direction then inStallRegOffset else outStallRegOffset)
  return (.kDifOk, bitfieldBit32Read regVal endpoint.number.toNat)

/-- `dif_usbdev_endpoint_iso_enable` -/
def difUsbdevEndpointIsoEnable (usbdev : Pointer) (endpoint : EndpointId)
    (newState : DifToggle) : Mmio DifResult :=
  endpointFunctionalityEnable usbdev
    (if endpoint.direction then inIsoRegOffset else outIsoRegOffset)
    (endpoint.number.setWidth 8) newState

/-- `dif_usbdev_endpoint_enable` -/
def difUsbdevEndpointEnable (usbdev : Pointer) (endpoint : EndpointId)
    (newState : DifToggle) : Mmio DifResult :=
  endpointFunctionalityEnable usbdev
    (if endpoint.direction then epInEnableRegOffset else epOutEnableRegOffset)
    (endpoint.number.setWidth 8) newState

/-- `dif_usbdev_address_set` -/
def difUsbdevAddressSet (usbdev : Pointer) (addr : BitVec 8) : Mmio DifResult := do
  if usbdev = .null then
    return .kDifBadArg
  let regVal <- mmioRegionRead32 usbctrlRegOffset
  mmioRegionWrite32 usbctrlRegOffset
    (bitfieldField32Write regVal usbctrlDeviceAddressField (addr.setWidth 32))
  return .kDifOk

/-- `dif_usbdev_interface_enable` -/
def difUsbdevInterfaceEnable (usbdev : Pointer) (newState : DifToggle) : Mmio DifResult := do
  if usbdev = .null ∨ !difIsValidToggle newState then
    return .kDifBadArg
  let regVal <- mmioRegionRead32 usbctrlRegOffset
  mmioRegionWrite32 usbctrlRegOffset
    (bitfieldBit32Write regVal usbctrlEnableBit (difToggleToBool newState))
  return .kDifOk

/-! ## What an endpoint offers -/

/-- What is known of an endpoint: nothing, that it is idle, or which packet it
holds for the host. -/
inductive Slot where
  | untracked
  | idle
  | holds (buffer size : Nat)
  deriving DecidableEq

/-- The endpoint is as the slot says. -/
def Slot.Describes (usbdev : Controller) (endpoint : Nat) : Slot -> Prop
  | .untracked => True
  | .idle => usbdev.Pending endpoint = false
  | .holds buffer size => usbdev.Pending endpoint = true ∧
      (usbdev.configIn endpoint).buffer.toNat = buffer ∧
      (usbdev.configIn endpoint).size.toNat = size

/-- Every endpoint is as its slot says. -/
def Described (slots : Nat -> Slot) (usbdev : Controller) : Prop :=
  forall endpoint, (slots endpoint).Describes usbdev endpoint

section

variable {slots : Nat -> Slot} {usbdev usbdev' : Controller} {endpoint : Nat} {slot : Slot}

theorem Slot.Describes.congr (described : slot.Describes usbdev endpoint)
    (pending : usbdev'.Pending endpoint = usbdev.Pending endpoint)
    (buffer : (usbdev'.configIn endpoint).buffer = (usbdev.configIn endpoint).buffer)
    (size : (usbdev'.configIn endpoint).size = (usbdev.configIn endpoint).size) :
    slot.Describes usbdev' endpoint := by
  cases slot with
  | untracked => trivial
  | idle => exact pending.trans described
  | holds number length =>
      exact ⟨pending.trans described.1, (congrArg _ buffer).trans described.2.1,
        (congrArg _ size).trans described.2.2⟩

/-- An endpoint whose registers have not changed. -/
theorem Slot.Describes.unchanged (described : slot.Describes usbdev endpoint)
    (configIn : usbdev'.configIn endpoint = usbdev.configIn endpoint)
    (inSent : usbdev'.inSent endpoint = usbdev.inSent endpoint) :
    slot.Describes usbdev' endpoint := by
  apply described.congr
  · unfold Controller.Pending
    rw [configIn, inSent]
  · rw [configIn]
  · rw [configIn]

/-- Describe one endpoint anew, and the others as before. -/
theorem Described.update (described : Described slots usbdev)
    (here : slot.Describes usbdev' endpoint)
    (elsewhere : forall other, other ≠ endpoint ->
      usbdev'.configIn other = usbdev.configIn other ∧
        usbdev'.inSent other = usbdev.inSent other) :
    Described (update slots endpoint slot) usbdev' := by
  intro other
  by_cases same : other = endpoint
  · subst same
    rw [update_self]
    exact here
  · rw [update_of_ne same]
    exact (described other).unchanged (elsewhere other same).1 (elsewhere other same).2

/-- The controller collects packets, but offers no others and drops none. -/
theorem Described.hardware (described : Described slots usbdev)
    (move : Hardware usbdev usbdev') : Described slots usbdev' := by
  intro other
  cases move with
  | receiveSetup | receiveOut | link => exact described other
  | attempt endpoint inside ready =>
      by_cases same : other = endpoint
      · subst same
        apply (described other).congr
        · simp only [Controller.Pending, update_self]
        · simp only [update_self]
        · simp only [update_self]
      · exact (described other).unchanged (update_of_ne same _ _) rfl
  | acknowledge endpoint inside ready =>
      by_cases same : other = endpoint
      · subst same
        apply (described other).congr
        · simp [Controller.Pending, update_self, ready]
        · simp only [update_self]
        · simp only [update_self]
      · exact (described other).unchanged (update_of_ne same _ _)
          (update_of_ne same _ _)

theorem stable_described : Stable Hardware (Described slots) :=
  fun _ _ move described => described.hardware move

/-! ## Accesses that concern no tracked endpoint -/

/-- The access does not write the CONFIGIN register of a tracked endpoint, nor
clear its sent bit. -/
def Spares (slots : Nat -> Slot) : Access -> Prop
  | .write32 offset value => forall endpoint, slots endpoint ≠ .untracked ->
      configInEndpoint offset ≠ some endpoint ∧
        (offset = inSentRegOffset -> bitfieldBit32Read value endpoint = false)
  | .read32 _ | .write8 _ _ => True

theorem Described.after {access : Access} (spares : Spares slots access)
    (described : Described slots usbdev) : Described slots (device.after access usbdev) := by
  cases access with
  | write8 offset value => exact described
  | read32 offset =>
      intro endpoint
      apply (described endpoint).unchanged
      · simp only [Device.after, device]
        split <;> rfl
      · simp only [Device.after, device]
        split <;> rfl
  | write32 offset value =>
      intro endpoint
      by_cases tracked : slots endpoint = .untracked
      · rw [tracked]
        trivial
      · rcases spares endpoint tracked with ⟨otherConfig, otherSent⟩
        apply (described endpoint).unchanged
        · simp only [Device.after, device, Controller.writeWord]
          repeat' split
          all_goals first
            | rfl
            | next here =>
                apply update_of_ne
                rintro rfl
                exact otherConfig here
        · simp only [Device.after, device, Controller.writeWord]
          repeat' split
          all_goals first
            | rfl
            | next here => simp [otherSent here]

/-- A program that spares the tracked endpoints leaves them as they are. -/
theorem described_of_within {α : Type} {m : Mmio α} (within : m.Within (Spares slots)) :
    Triple device Hardware (Described slots) m (fun _ => Described slots) :=
  Triple.invariant stable_described (fun _ _ spares described => described.after spares) within

/-- An offset that is neither a CONFIGIN register's nor that of `IN_SENT`. -/
theorem spares_write {offset : Nat} {value : BitVec 32}
    (other : configInEndpoint offset = none) (notSent : offset ≠ inSentRegOffset) :
    Spares slots (.write32 offset value) :=
  fun endpoint _ => ⟨by rw [other]; nofun, fun here => absurd here notSent⟩

theorem spares_memory {access : Access} (inMemory : AtOrAbove bufferRegOffset access) :
    Spares slots access := by
  cases access with
  | read32 | write8 => trivial
  | write32 offset value =>
      have above : 0x800 <= offset := inMemory
      have outside : ¬ (0x44 <= offset ∧ offset < 0x44 + 4 * 12) := by omega
      have notSent : ¬ offset = 0x38 := by omega
      exact spares_write (if_neg outside) notSent

theorem within_memory {α : Type} {m : Mmio α} (within : m.Within (AtOrAbove bufferRegOffset)) :
    m.Within (Spares slots) :=
  within.imp (fun _ => spares_memory)

section

variable {allowed : Access -> Prop}

/-- The loop that fills the FIFOs writes nothing but them. -/
theorem fillLoop_within (reads : forall offset, allowed (.read32 offset))
    (out : forall value, allowed (.write32 avoutbufferRegOffset value))
    (setup : forall value, allowed (.write32 avsetupbufferRegOffset value)) (rounds : Nat)
    (pool : BufferPool) : (fillLoop rounds pool).Within allowed := by
  induction rounds generalizing pool with
  | zero => trivial
  | succ rounds ih =>
      unfold fillLoop
      rw [within_ite]
      refine ⟨fun _ => trivial, fun _ => ⟨reads _, fun status => ?_⟩⟩
      simp only [bind_ret]
      rw [within_ite]
      refine ⟨fun _ => trivial, fun _ => ?_⟩
      cases bufferPoolRemove pool with
      | none => trivial
      | some removed =>
          dsimp only
          split
          · exact ⟨out _, ih _⟩
          · exact ⟨setup _, ih _⟩

/-- What is received is read. -/
theorem recv_within (reads : forall offset, allowed (.read32 offset))
    (usbdev info buffer : Pointer) : (difUsbdevRecv usbdev info buffer).Within allowed := by
  unfold difUsbdevRecv
  rw [within_ite]
  refine ⟨fun _ => trivial, fun _ => ⟨reads _, fun status => ?_⟩⟩
  simp only [bind_ret]
  rw [within_ite]
  exact ⟨fun _ => trivial, fun _ => ⟨reads _, fun _ => trivial⟩⟩

variable {endpoint : BitVec 8}

/-- To send a packet its endpoint is written. -/
theorem send_within (configIn : endpoint.toNat < 12 -> forall value,
      allowed (.write32 (configInRegOffset endpoint) value))
    (usbdev buffer : Pointer) (buf : Buffer) :
    (difUsbdevSend usbdev endpoint buffer buf).Within allowed := by
  unfold difUsbdevSend
  rw [within_ite]
  refine ⟨fun _ => trivial, fun accepted => ?_⟩
  have inside : endpoint.toNat < 12 :=
    below_of_accepted accepted (fun invalid => .inr (.inl invalid))
  exact ⟨configIn inside _, configIn inside _, trivial⟩

/-- To clear the status of an endpoint it is written, and so is its bit of `IN_SENT`. -/
theorem clearTxStatus_within (reads : forall offset, allowed (.read32 offset))
    (configIn : endpoint.toNat < 12 -> forall value,
      allowed (.write32 (configInRegOffset endpoint) value))
    (sent : endpoint.toNat < 12 -> allowed (.write32 inSentRegOffset (1#32 <<< endpoint.toNat)))
    (usbdev bufferPool : Pointer) (pool : BufferPool) :
    (difUsbdevClearTxStatus usbdev bufferPool pool endpoint).Within allowed := by
  unfold difUsbdevClearTxStatus
  rw [within_ite]
  refine ⟨fun _ => trivial, fun accepted => ?_⟩
  have inside : endpoint.toNat < 12 :=
    below_of_accepted accepted (fun invalid => .inr (.inr invalid))
  refine ⟨reads _, fun word => ⟨configIn inside _, sent inside, ?_⟩⟩
  split <;> trivial

end

theorem within_fillLoop (rounds : Nat) (pool : BufferPool) :
    (fillLoop rounds pool).Within (Spares slots) :=
  fillLoop_within (fun _ => trivial) (fun _ => spares_write rfl (by decide))
    (fun _ => spares_write rfl (by decide)) rounds pool

/-- The endpoint the call is about has no tracked slot. -/
def Call.Elsewhere (slots : Nat -> Slot) : Call -> Prop
  | .send _ endpoint _ _ | .clearTxStatus _ _ endpoint => slots endpoint.toNat = .untracked
  | _ => True

theorem spares_configIn {endpoint : Nat} (inside : endpoint < 12) (value : BitVec 32)
    (untracked : slots endpoint = .untracked) :
    Spares slots (.write32 (configin0RegOffset + 4 * endpoint) value) := by
  intro other tracked
  rw [configInEndpoint_of_lt inside]
  constructor
  · intro same
    cases same
    exact tracked untracked
  · change 0x44 + 4 * endpoint = 0x38 -> _
    omega

theorem spares_inSent {endpoint : Nat} (inside : endpoint < 12)
    (untracked : slots endpoint = .untracked) :
    Spares slots (.write32 inSentRegOffset (1#32 <<< endpoint)) := by
  intro other tracked
  refine ⟨nofun, fun _ => ?_⟩
  rw [bitfieldBit32Read_one_shiftLeft (by omega)]
  apply decide_eq_false
  rintro rfl
  exact tracked untracked

theorem within_recv (usbdev info buffer : Pointer) :
    (difUsbdevRecv usbdev info buffer).Within (Spares slots) :=
  recv_within (fun _ => trivial) _ _ _

theorem memory_bufferRead (usbdev bufferPool buffer dst : Pointer) (pool : BufferPool)
    (buf : Buffer) (dstLen : BitVec 32) :
    (difUsbdevBufferRead usbdev bufferPool buffer dst pool buf dstLen).Within
      (AtOrAbove bufferRegOffset) := by
  unfold difUsbdevBufferRead
  rw [within_ite]
  refine ⟨fun _ => trivial, fun _ => within_bind
    (within_memcpyFromMmio32 (by decide) (getBufferAddr_above _ _) _) (fun _ => ?_)⟩
  dsimp only
  rw [within_ite]
  refine ⟨fun _ => trivial, fun _ => ?_⟩
  split <;> trivial

theorem memory_bufferWrite (usbdev buffer src : Pointer) (buf : Buffer)
    (bytes : List (BitVec 8)) :
    (difUsbdevBufferWrite usbdev buffer src buf bytes).Within (AtOrAbove bufferRegOffset) := by
  unfold difUsbdevBufferWrite
  rw [within_ite]
  refine ⟨fun _ => trivial, fun _ => within_bind
    (within_memcpyToMmio32 (by decide) (getBufferAddr_above _ _) _) (fun _ => ?_)⟩
  dsimp only
  split <;> trivial

/-- The driver's functions spare all endpoints but the one they are told to use. -/
theorem within_perform {pool : BufferPool} {objects : Nat -> Buffer} (call : Call)
    (elsewhere : call.Elsewhere slots) : (call.perform pool objects).Within (Spares slots) := by
  cases call with
  | fillAvailableFifos usbdev bufferPool =>
      refine within_bind ?_ (fun _ => trivial)
      unfold difUsbdevFillAvailableFifos
      rw [within_ite]
      exact ⟨fun _ => trivial, fun _ => within_fillLoop _ _⟩
  | recv usbdev info buffer object => exact within_bind (within_recv _ _ _) (fun _ => trivial)
  | bufferRequest | bufferReturn => trivial
  | bufferRead usbdev bufferPool buffer dst object dstLen =>
      exact within_bind (within_memory (memory_bufferRead _ _ _ _ _ _ _)) (fun _ => trivial)
  | bufferWrite usbdev buffer src object bytes =>
      exact within_bind (within_memory (memory_bufferWrite _ _ _ _ _)) (fun _ => trivial)
  | send usbdev endpoint buffer object =>
      exact within_bind (send_within (fun inside _ => spares_configIn inside _ elsewhere) _ _ _)
        (fun _ => trivial)
  | clearTxStatus usbdev bufferPool endpoint =>
      exact within_bind (clearTxStatus_within (fun _ => trivial)
        (fun inside _ => spares_configIn inside _ elsewhere)
        (fun inside => spares_inSent inside elsewhere) _ _ _) (fun _ => trivial)

/-! ## Sending and clearing -/

theorem sendConfig_size (configIn : ConfigIn) (id : BitVec 8) {offset : BitVec 8}
    (valid : offset.toNat < 128) :
    (configIn.write (bitfieldBit32Write (sendConfig id offset) configinRdyBit
      true)).size.toNat = offset.toNat := by
  change ((bitfieldField32Read (bitfieldBit32Write (sendConfig id offset) configinRdyBit true)
    configinSizeField).setWidth 7).toNat = _
  unfold sendConfig bitfieldBit32Write
  rw [bitfieldField32Read_write_other (by decide), bitfieldField32Read_write_same (by decide),
    BitVec.toNat_setWidth,
    toNat_and_mask (show configinSizeField.mask.toNat = 2 ^ 7 - 1 from rfl), BitVec.toNat_setWidth]
  omega

/-- A packet that has been sent is what its endpoint holds. -/
theorem send_described {pointer buffer : Pointer} {endpoint : BitVec 8} {buf : Buffer}
    (accepted : ¬ (pointer = .null ∨ !isValidEndpoint endpoint ∨ buffer = .null ∨
      buf.type ≠ .kDifUsbdevBufferTypeWrite))
    (id : buf.id.toNat < 32) (offset : buf.offset.toNat < 128) :
    Triple device Hardware (Described slots) (difUsbdevSend pointer endpoint buffer buf)
      (fun _ => Described (update slots endpoint.toNat
        (.holds buf.id.toNat buf.offset.toNat))) := by
  have below : endpoint.toNat < 12 :=
    below_of_accepted accepted (fun invalid => .inr (.inl invalid))
  unfold difUsbdevSend
  rw [if_neg accepted]
  refine Triple.write32 (Described (update slots endpoint.toNat .untracked))
    stable_described ?_ (Triple.write32 (Described (update slots endpoint.toNat
      (.holds buf.id.toNat buf.offset.toNat))) stable_described ?_
      (Triple.ret stable_described (fun _ described => described)))
  · intro usbdev described
    simp only [device, configInRegOffset, writeWord_configIn usbdev _ below]
    exact described.update trivial (fun other apart => ⟨update_of_ne apart _ _, rfl⟩)
  · intro usbdev described
    simp only [device, configInRegOffset, writeWord_configIn usbdev _ below]
    rw [<- update_idem .untracked]
    apply described.update
    · refine ⟨?_, ?_, ?_⟩
      · have ready := sendReady_rdy (usbdev.configIn endpoint.toNat) buf.id buf.offset
        unfold sendConfig at ready
        simp only [Controller.Pending, update_self, ready, Bool.true_or]
      · simp only [update_self]
        exact sendReady_buffer _ _ id
      · simp only [update_self]
        exact sendConfig_size _ _ offset
    · exact fun other apart => ⟨update_of_ne apart _ _, rfl⟩

/-- An endpoint that has been cleared is idle. -/
theorem clearTxStatus_described {pointer bufferPool : Pointer} {pool : BufferPool}
    {endpoint : BitVec 8}
    (accepted : ¬ (pointer = .null ∨ bufferPool = .null ∨ !isValidEndpoint endpoint)) :
    Triple device Hardware (Described slots)
      (difUsbdevClearTxStatus pointer bufferPool pool endpoint)
      (fun _ => Described (update slots endpoint.toNat .idle)) := by
  have below : endpoint.toNat < 12 :=
    below_of_accepted accepted (fun invalid => .inr (.inr invalid))
  let Quiet (usbdev : Controller) : Prop :=
    Described (update slots endpoint.toNat .untracked) usbdev ∧
      (usbdev.configIn endpoint.toNat).rdy = false
  have stableQuiet : Stable Hardware Quiet := fun usbdev usbdev' move both =>
    ⟨both.1.hardware move, (move.clearSent both.2).2⟩
  unfold difUsbdevClearTxStatus
  rw [if_neg accepted]
  refine Triple.read32 (fun _ => Described slots) stable_described ?_ (fun word => ?_)
  · intro usbdev described
    have spares : Spares slots (.read32 (configInRegOffset endpoint)) := trivial
    exact described.after spares
  · refine Triple.write32 Quiet stable_described ?_ (Triple.write32 (Described
      (update slots endpoint.toNat .idle)) stableQuiet ?_ ?_)
    · intro usbdev described
      simp only [device, configInRegOffset, writeWord_configIn usbdev _ below]
      refine ⟨described.update trivial
        (fun other apart => ⟨update_of_ne apart _ _, rfl⟩), ?_⟩
      simp only [update_self]
      rfl
    · rintro usbdev ⟨described, notReady⟩
      change Described _ (usbdev.writeWord inSentRegOffset _)
      rw [writeWord_clearSent below]
      rw [<- update_idem .untracked]
      apply described.update
      · have unsent : (usbdev.clearSent endpoint.toNat).inSent endpoint.toNat = false :=
          update_self _ _ _
        exact Bool.or_eq_false_iff.mpr ⟨notReady, unsent⟩
      · exact fun other apart => ⟨rfl, update_of_ne apart _ _⟩
    · split <;> exact Triple.ret stable_described (fun _ described => described)

end

end Usbdev
end SunburstChip
