import SunburstChip.Dif.UsbdevBus
import SunburstChip.Lib.Bitmap
import SunburstChip.Lib.Noted
import SunburstChip.Scratch.UsbdevUtils

namespace SunburstChip
namespace UsbdevUtils

open Mmio Usbdev OpenTitanUsbdev
open Function (update update_of_ne update_self)

/-!
# Where the buffers of the scratch software are

A buffer number is a bit of the bitmap, in one of the three FIFOs, or in the
CONFIGIN register of an endpoint.  `packet_send` writes to that register
whatever it has, and nothing but the number in it says which buffer a cancelled
packet is in.  So a register that still has a buffer loses it when the next
packet is sent.  The controller is made to note this, and as long as it notes
nothing, every number is at exactly one place.
-/

/-- The places a buffer number can be at. -/
inductive Place where
  | bufAvail
  | availableSetup
  | availableOut
  | received
  /-- The CONFIGIN register of an endpoint. -/
  | configIn (endpoint : Nat)
  deriving DecidableEq

/-- The buffer numbers at a place. -/
def held (bufAvail : BitVec 64) (usbdev : Controller) : Place -> Multiset Nat
  | .bufAvail => bitNumbers bufferCount bufAvail
  | .availableSetup => (usbdev.avSetup.map BitVec.toNat : List Nat)
  | .availableOut => (usbdev.avOut.map BitVec.toNat : List Nat)
  | .received => (usbdev.rxFifo.map (fun entry => entry.buffer.toNat) : List Nat)
  | .configIn endpoint =>
      if usbdev.Owns endpoint then {(usbdev.configIn endpoint).buffer.toNat} else 0

/-- The places there are. -/
def places : Finset Place :=
  {.bufAvail, .availableSetup, .availableOut, .received} ∪
    (Finset.range maxEndpoints).image .configIn

@[simp] theorem mem_places_bufAvail : Place.bufAvail ∈ places := by decide

@[simp] theorem mem_places_availableSetup : Place.availableSetup ∈ places := by decide

@[simp] theorem mem_places_availableOut : Place.availableOut ∈ places := by decide

@[simp] theorem mem_places_received : Place.received ∈ places := by decide

@[simp] theorem mem_places_configIn {endpoint : Nat} :
    Place.configIn endpoint ∈ places ↔ endpoint < 12 := by
  simp [places]

/-- A register has at most one reason to have its buffer. -/
def Single (usbdev : Controller) (endpoint : Nat) : Prop :=
  ((usbdev.configIn endpoint).rdy = true ->
    (usbdev.configIn endpoint).pend = false ∧ usbdev.inSent endpoint = false) ∧
  ((usbdev.configIn endpoint).pend = true -> usbdev.inSent endpoint = false)

/-- All buffer numbers are at the places, apart from those in hand. -/
structure Invariant (bufAvail : BitVec 64) (inHand : Multiset Nat) (usbdev : Controller) :
    Prop where
  accounted : Accounted places (held bufAvail usbdev) inHand (Multiset.range bufferCount)
  avSetup : usbdev.avSetup.length <= avSetupFifoDepth
  avOut : usbdev.avOut.length <= avOutFifoDepth
  single : forall endpoint, Single usbdev endpoint

section

variable {bufAvail : BitVec 64} {inHand away : Multiset Nat} {usbdev usbdev' : Controller}
variable {id endpoint index : Nat} {bufferId : BitVec 8}

theorem Invariant.valid (invariant : Invariant bufAvail (away + {id}) usbdev) :
    id < 32 := by
  have within := invariant.accounted.held_le mem_places_bufAvail
  have here : id ∈ away + {id} := Multiset.mem_add.mpr (Or.inr (Multiset.mem_singleton_self id))
  exact Multiset.mem_range.mp (Multiset.mem_of_le within (Multiset.mem_add.mpr (Or.inr here)))

/-! ## What the controller does -/

theorem held_configIn_congr
    (buffer : (usbdev'.configIn endpoint).buffer = (usbdev.configIn endpoint).buffer)
    (owns : usbdev'.Owns endpoint = usbdev.Owns endpoint) :
    held bufAvail usbdev' (.configIn endpoint) = held bufAvail usbdev (.configIn endpoint) := by
  simp only [held]
  rw [owns, buffer]

theorem single_bus (move : Bus usbdev usbdev') (single : Single usbdev endpoint) :
    Single usbdev' endpoint := by
  cases move with
  | receiveSetup ep inside size packet available room =>
      by_cases same : endpoint = ep.toNat
      · subst same
        rcases single with ⟨ready, pending⟩
        refine ⟨?_, ?_⟩
        · simp [ConfigIn.afterSetup]
        · intro either
          simp only [update_self, ConfigIn.afterSetup, Bool.or_eq_true] at either
          rcases either with isReady | isPending
          · exact (ready isReady).2
          · exact pending isPending
      · simpa only [Single, update_of_ne same] using single
  | other move notSetup =>
      cases move with
      | receiveSetup | receiveOut | link => exact single
      | attempt other inside ready =>
          by_cases same : endpoint = other
          · subst same
            simpa only [Single, update_self] using single
          · simpa only [Single, update_of_ne same] using single
      | acknowledge other inside ready =>
          by_cases same : endpoint = other
          · subst same
            have idle := (single.1 ready).1
            simp [Single, idle]
          · simpa only [Single, update_of_ne same] using single

/-- The controller moves numbers between places, and in no other way. -/
theorem Invariant.bus (invariant : Invariant bufAvail inHand usbdev) (move : Bus usbdev usbdev') :
    Invariant bufAvail inHand usbdev' := by
  refine ⟨?_, Nat.le_trans move.avSetup_le invariant.avSetup,
    Nat.le_trans move.avOut_le invariant.avOut,
    fun endpoint => single_bus move (invariant.single endpoint)⟩
  have registers (endpoint : Nat) :
      held bufAvail usbdev' (.configIn endpoint) = held bufAvail usbdev (.configIn endpoint) :=
    held_configIn_congr (move.configIn_buffer endpoint) (move.owns endpoint)
  have accounted := invariant.accounted
  cases move with
  | @receiveSetup buffer rest ep inside size packet available room =>
      apply accounted.move .availableSetup .received {buffer.toNat} (by decide) (by simp) (by simp)
      · simp only [held, available, List.map_cons, coe_cons_eq]
      · simp only [held, List.map_append, List.map_singleton, coe_concat_eq]
      · intro other notSource notTarget
        cases other with
        | configIn endpoint => exact registers endpoint
        | bufAvail | availableOut => rfl
        | availableSetup | received => contradiction
  | other move notSetup =>
      cases move with
      | receiveSetup ep size packet available room =>
          rw [available] at notSetup
          exact absurd notSetup.symm (List.cons_ne_self _ _)
      | @receiveOut buffer rest ep size packet available room =>
          apply accounted.move .availableOut .received {buffer.toNat} (by decide) (by simp)
            (by simp)
          · simp only [held, available, List.map_cons, coe_cons_eq]
          · simp only [held, List.map_append, List.map_singleton, coe_concat_eq]
          · intro other notSource notTarget
            cases other <;> first | exact absurd rfl notSource | exact absurd rfl notTarget | rfl
      | attempt | acknowledge | link =>
          apply accounted.congr
          intro place _
          cases place with
          | configIn endpoint => exact registers endpoint
          | bufAvail | availableSetup | availableOut | received => rfl

theorem stable_invariant : Stable Bus (Invariant bufAvail inHand) :=
  fun _ _ move invariant => invariant.bus move

/-- An access that no buffer number depends on. -/
def Harmless : Access -> Prop
  | .read32 offset => offset ≠ rxfifoRegOffset
  | .write32 offset _ => PlainRegister offset ∨ bufferRegOffset <= offset
  | .write8 _ _ => False

theorem invariant_harmless (access : Access) (usbdev : Controller) (harmless : Harmless access)
    (invariant : Invariant bufAvail inHand usbdev) :
    Invariant bufAvail inHand (device.after access usbdev) := by
  cases access with
  | read32 offset =>
      rw [Device.after, read32_of_ne usbdev harmless]
      exact invariant
  | write32 offset value =>
      change Invariant bufAvail inHand (usbdev.writeWord offset value)
      rcases harmless with plain | inMemory
      · rw [writeWord_plain plain]
        exact ⟨invariant.accounted, invariant.avSetup, invariant.avOut, invariant.single⟩
      · rw [writeWord_memory usbdev value inMemory]
        exact ⟨invariant.accounted, invariant.avSetup, invariant.avOut, invariant.single⟩
  | write8 => exact absurd harmless id

theorem keeps_harmless {α : Type} {m : Mmio α} (within : m.Within Harmless) :
    Triple device Bus (Invariant bufAvail inHand) m (fun _ => Invariant bufAvail inHand) :=
  Triple.invariant stable_invariant invariant_harmless within

/-! ## The bitmap -/

/-- Take a buffer out of the bitmap. -/
theorem Invariant.takeBit {fewer : BitVec 64} (invariant : Invariant bufAvail away usbdev)
    (inside : id < 32) (isSet : bufAvail.getLsbD id = true)
    (bits : forall other, other < 32 ->
      fewer.getLsbD other = (bufAvail.getLsbD other && decide (other ≠ id))) :
    Invariant fewer (away + {id}) usbdev := by
  refine ⟨?_, invariant.avSetup, invariant.avOut, invariant.single⟩
  apply invariant.accounted.take .bufAvail mem_places_bufAvail
  · refine bitNumbers_eq_add inside isSet ?_ ?_
    · rw [bits id inside]
      simp
    · intro other below apart
      rw [bits other below]
      simp [apart]
  · intro other apart
    cases other <;> first | exact absurd rfl apart | rfl

/-- Put a buffer in hand into the bitmap. -/
theorem Invariant.putBit (invariant : Invariant bufAvail (away + {id}) usbdev) :
    Invariant (bufAvail ||| (1#64 <<< id)) away usbdev := by
  have inside : id < 32 := invariant.valid
  have absent : bufAvail.getLsbD id = false := by
    have here : id ∈ away + {id} := Multiset.mem_add.mpr (Or.inr (Multiset.mem_singleton_self id))
    have notHeld := invariant.accounted.not_held_of_inHand (Multiset.nodup_range _)
      mem_places_bufAvail here
    simp only [held, mem_bitNumbers, not_and, Bool.not_eq_true] at notHeld
    exact notHeld inside
  have bits (other : Nat) (below : other < 32) :
      (bufAvail ||| (1#64 <<< id)).getLsbD other =
        (bufAvail.getLsbD other || decide (other = id)) := by
    have small : other < 64 := by omega
    have small' : id < 64 := by omega
    rw [BitVec.getLsbD_or, <- BitVec.twoPow_eq, BitVec.getLsbD_twoPow]
    simp [small, small', eq_comm]
  refine ⟨?_, invariant.avSetup, invariant.avOut, invariant.single⟩
  apply invariant.accounted.put .bufAvail mem_places_bufAvail
  · refine bitNumbers_eq_add inside ?_ absent ?_
    · rw [bits id inside]
      simp
    · intro other below apart
      rw [bits other below]
      simp [apart]
  · intro other apart
    cases other <;> first | exact absurd rfl apart | rfl

/-! ## Supplying buffers -/

/-- A buffer index written to an Available FIFO register. -/
theorem available_index {field : BitfieldField32} (isBuffer : field = ⟨0x1f, 0⟩)
    (inside : index < 32) :
    ((bitfieldField32Read (.ofNat 32 index) field).setWidth 5).toNat = index := by
  subst isBuffer
  unfold bitfieldField32Read
  rw [BitVec.ushiftRight_zero, BitVec.toNat_setWidth,
    toNat_and_mask (show configinBufferField.mask.toNat = 2 ^ 5 - 1 from rfl),
    BitVec.toNat_ofNat]
  omega

/-- Give a buffer in hand to the Available OUT FIFO. -/
theorem Invariant.writeAvOut (invariant : Invariant bufAvail (away + {index}) usbdev)
    (room : usbdev.avOut.length < avOutFifoDepth) :
    Invariant bufAvail away (usbdev.writeWord avoutbufferRegOffset (.ofNat 32 index)) := by
  rw [writeWord_avOut usbdev _ room]
  refine ⟨?_, invariant.avSetup, ?_, invariant.single⟩
  · apply invariant.accounted.put .availableOut mem_places_availableOut
    · simp only [held, List.map_append, List.map_singleton, coe_concat_eq,
        available_index rfl invariant.valid]
    · intro other apart
      cases other <;> first | exact absurd rfl apart | rfl
  · rw [List.length_append]
    exact room

/-- Give a buffer in hand to the Available SETUP FIFO. -/
theorem Invariant.writeAvSetup (invariant : Invariant bufAvail (away + {index}) usbdev)
    (room : usbdev.avSetup.length < avSetupFifoDepth) :
    Invariant bufAvail away (usbdev.writeWord avsetupbufferRegOffset (.ofNat 32 index)) := by
  rw [writeWord_avSetup usbdev _ room]
  refine ⟨?_, ?_, invariant.avOut, invariant.single⟩
  · apply invariant.accounted.put .availableSetup mem_places_availableSetup
    · simp only [held, List.map_append, List.map_singleton, coe_concat_eq,
        available_index rfl invariant.valid]
    · intro other apart
      cases other <;> first | exact absurd rfl apart | rfl
  · rw [List.length_append]
    exact room

theorem usbstat_avSetupFull (usbdev : Controller) :
    bitfieldBit32Read usbdev.usbstat usbstatAvSetupFullBit =
      decide (avSetupFifoDepth <= usbdev.avSetup.length) := by
  unfold Controller.usbstat
  rw [bitfieldBit32Read_write_other (by decide), bitfieldBit32Read_write_same (by decide)]

/-- The status that `supply_buffers` reads says whether the FIFOs have room. -/
theorem availableSetupFull_iff (usbdev : Controller) :
    usbdev.usbstat &&& availableSetupFullBit = 0 ↔ usbdev.avSetup.length < avSetupFifoDepth := by
  unfold availableSetupFullBit
  rw [and_bit_eq_zero_iff _ (by decide), <- bitfieldBit32Read_eq_getLsbD]
  change bitfieldBit32Read usbdev.usbstat usbstatAvSetupFullBit = false ↔ _
  rw [usbstat_avSetupFull, decide_eq_false_iff_not, Nat.not_le]

theorem availableOutFull_iff (usbdev : Controller) :
    usbdev.usbstat &&& availableOutFullBit = 0 ↔ usbdev.avOut.length < avOutFifoDepth := by
  unfold availableOutFullBit
  rw [and_bit_eq_zero_iff _ (by decide), <- bitfieldBit32Read_eq_getLsbD]
  change bitfieldBit32Read usbdev.usbstat usbstatAvOutFullBit = false ↔ _
  rw [usbstat_avOutFull, decide_eq_false_iff_not, Nat.not_le]

/-- The bits of the bitmap once the buffer has been given away. -/
theorem supplied_bits (inside : index < 32) (other : Nat) (below : other < 32) :
    (bufAvail &&& (~~~(1#32 <<< index)).setWidth 64).getLsbD other =
      (bufAvail.getLsbD other && decide (other ≠ index)) := by
  have small : other < 64 := by omega
  rw [BitVec.getLsbD_and, BitVec.getLsbD_setWidth, BitVec.getLsbD_not, <- BitVec.twoPow_eq,
    BitVec.getLsbD_twoPow]
  simp [small, below, inside, eq_comm]

theorem bitmap_bit (inside : index < 32) :
    bufAvail &&& (1#32 <<< index).setWidth 64 = 0 ↔ bufAvail.getLsbD index = false := by
  have widened : (1#32 <<< index).setWidth 64 = 1#64 <<< index := by
    apply BitVec.eq_of_getLsbD_eq
    intro other small
    rw [BitVec.getLsbD_setWidth, <- BitVec.twoPow_eq, <- BitVec.twoPow_eq, BitVec.getLsbD_twoPow,
      BitVec.getLsbD_twoPow]
    have small' : index < 64 := by omega
    simp [small, small', inside]
  rw [widened]
  exact and_bit_eq_zero_iff bufAvail (by omega)

theorem supplyLoop_spec (indexes : List Nat) (below : forall index, index ∈ indexes -> index < 32)
    (bufAvail : BitVec 64) :
    Triple device Bus (Invariant bufAvail away) (supplyLoop indexes bufAvail)
      (fun bufAvail => Invariant bufAvail away) := by
  induction indexes generalizing bufAvail with
  | nil => exact Triple.ret stable_invariant (fun _ invariant => invariant)
  | cons index rest ih =>
      have inside : index < 32 := below index List.mem_cons_self
      have later := ih (fun index member => below index (List.mem_cons_of_mem _ member))
      unfold supplyLoop
      dsimp only
      split
      · exact later bufAvail
      · next set =>
          have isSet : bufAvail.getLsbD index = true := by
            rwa [bitmap_bit inside, Bool.not_eq_false] at set
          have taken (usbdev : Controller) (invariant : Invariant bufAvail away usbdev) :
              Invariant _ (away + {index}) usbdev :=
            invariant.takeBit inside isSet (supplied_bits inside)
          -- What a status says stays true, since the controller only takes buffers out.
          refine Triple.read32 (fun status usbdev => Invariant bufAvail away usbdev ∧
            (status &&& availableSetupFullBit = 0 -> usbdev.avSetup.length < avSetupFifoDepth))
            stable_invariant ?_ (fun status => ?_)
          · intro usbdev invariant
            rw [read32_of_ne usbdev (by decide)]
            exact ⟨invariant, (availableSetupFull_iff usbdev).mp⟩
          have stable : Stable Bus (fun usbdev => Invariant bufAvail away usbdev ∧
              (status &&& availableSetupFullBit = 0 ->
                usbdev.avSetup.length < avSetupFifoDepth)) :=
            fun usbdev usbdev' move both => ⟨both.1.bus move,
              fun notFull => Nat.lt_of_le_of_lt move.avSetup_le (both.2 notFull)⟩
          simp only [bind_ret]
          split
          · refine Triple.read32 (fun status usbdev => Invariant bufAvail away usbdev ∧
              (status &&& availableOutFullBit = 0 -> usbdev.avOut.length < avOutFifoDepth))
              stable ?_ (fun status => ?_)
            · intro usbdev both
              rw [read32_of_ne usbdev (by decide)]
              exact ⟨both.1, (availableOutFull_iff usbdev).mp⟩
            have stable' : Stable Bus (fun usbdev => Invariant bufAvail away usbdev ∧
                (status &&& availableOutFullBit = 0 -> usbdev.avOut.length < avOutFifoDepth)) :=
              fun usbdev usbdev' move both => ⟨both.1.bus move,
                fun notFull => Nat.lt_of_le_of_lt move.avOut_le (both.2 notFull)⟩
            simp only [bind_ret]
            split
            · exact Triple.ret stable' (fun _ both => both.1)
            · next notFull =>
                refine Triple.write32 _ stable' (fun usbdev both => ?_) (later _)
                exact (taken usbdev both.1).writeAvOut (both.2 (not_not.mp notFull))
          · next notFull =>
              refine Triple.write32 _ stable (fun usbdev both => ?_) (later _)
              exact (taken usbdev both.1).writeAvSetup (both.2 (not_not.mp notFull))

theorem supplyBuffers_spec (bufAvail : BitVec 64) :
    Triple device Bus (Invariant bufAvail away) (OpenTitanUsbdev.supplyBuffers bufAvail)
      (fun bufAvail => Invariant bufAvail away) :=
  supplyLoop_spec _ (fun _ member => List.mem_range.mp member) bufAvail

/-! ## Collected packets -/

/-- Clearing the sent bit of an endpoint takes the buffer out of its register. -/
theorem Invariant.clearSent (invariant : Invariant bufAvail away usbdev) (inside : endpoint < 12)
    (sent : usbdev.inSent endpoint = true) :
    Invariant bufAvail (away + {(usbdev.configIn endpoint).buffer.toNat})
      (usbdev.clearSent endpoint) := by
  have notReady : (usbdev.configIn endpoint).rdy = false := by
    by_contra ready
    exact absurd sent
      (Bool.eq_false_iff.mp ((invariant.single endpoint).1 (Bool.eq_true_of_not_eq_false ready)).2)
  have notPending : (usbdev.configIn endpoint).pend = false := by
    by_contra pending
    exact absurd sent
      (Bool.eq_false_iff.mp ((invariant.single endpoint).2 (Bool.eq_true_of_not_eq_false pending)))
  refine ⟨?_, invariant.avSetup, invariant.avOut, fun other => ?_⟩
  · apply invariant.accounted.take (.configIn endpoint) (by simpa)
    · simp [held, Controller.Owns, Controller.clearSent, sent, notReady, notPending]
    · intro other apart
      cases other with
      | configIn other =>
          have different : other ≠ endpoint := fun same => apart (congrArg Place.configIn same)
          have same := update_of_ne different false usbdev.inSent
          exact held_configIn_congr rfl (by simp only [Controller.Owns, Controller.clearSent, same])
      | bufAvail | availableSetup | availableOut | received => rfl
  · by_cases same : other = endpoint
    · subst same
      simp [Single, Controller.clearSent, notReady, notPending]
    · simpa only [Single, Controller.clearSent, update_of_ne same] using
        invariant.single other

theorem inSentWord_bit (usbdev : Controller) (inside : endpoint < 12) :
    usbdev.inSentWord.getLsbD endpoint = usbdev.inSent endpoint := by
  have bits (count : Nat) (limit : count <= 12) :
      bitfieldBit32Read ((List.range count).foldl
        (fun reg endpoint => bitfieldBit32Write reg endpoint (usbdev.inSent endpoint)) 0) endpoint =
          (decide (endpoint < count) && usbdev.inSent endpoint) := by
    induction count with
    | zero => simp
    | succ count ih =>
        rw [List.range_succ, List.foldl_append, List.foldl_cons, List.foldl_nil]
        by_cases same : endpoint = count
        · subst same
          rw [bitfieldBit32Read_write_same (by omega)]
          simp
        · rw [bitfieldBit32Read_write_other (fun same' => same same'.symm),
            ih (Nat.le_of_succ_le limit)]
          have same : decide (endpoint < count) = decide (endpoint < count + 1) := by
            apply decide_eq_decide.mpr
            omega
          rw [same]
  rw [<- bitfieldBit32Read_eq_getLsbD]
  unfold Controller.inSentWord
  rw [bits 12 (Nat.le_refl _)]
  simp [inside]

theorem configIn_bufferId (configIn : ConfigIn) :
    ((configIn.toWord &&& configInBufferIdMask).setWidth 8).toNat = configIn.buffer.toNat := by
  rw [<- configIn_buffer configIn]
  unfold bitfieldField32Read
  rw [BitVec.ushiftRight_zero]

/-- The buffer of a collected packet is in hand. -/
theorem retrieveCollectedPacket_spec :
    Triple device Bus (Invariant bufAvail 0) retrieveCollectedPacket
      (fun out usbdev => Invariant bufAvail
        (match out with | none => 0 | some packet => {packet.2.toNat}) usbdev) := by
  unfold retrieveCollectedPacket
  refine Triple.read32 (fun sent usbdev => Invariant bufAvail 0 usbdev ∧
    forall endpoint, endpoint < 12 -> sent.getLsbD endpoint = true ->
      usbdev.inSent endpoint = true) stable_invariant ?_ (fun sent => ?_)
  · intro usbdev invariant
    rw [read32_of_ne usbdev (by decide)]
    refine ⟨invariant, fun endpoint inside isSet => ?_⟩
    change usbdev.inSentWord.getLsbD endpoint = true at isSet
    rwa [inSentWord_bit usbdev inside] at isSet
  have stable : Stable Bus (fun usbdev => Invariant bufAvail 0 usbdev ∧
      forall endpoint, endpoint < 12 -> sent.getLsbD endpoint = true ->
        usbdev.inSent endpoint = true) :=
    fun usbdev usbdev' move both => ⟨both.1.bus move,
      fun endpoint inside isSet => move.inSent (both.2 endpoint inside isSet)⟩
  simp only [bind_ret]
  split
  · exact Triple.ret stable (fun _ both => both.1)
  · next endpointId found =>
      have inside : endpointId < 12 := List.mem_range.mp (List.mem_of_find?_eq_some found)
      have isSet : sent.getLsbD endpointId = true := by
        have masked := List.find?_some found
        rwa [decide_eq_true_iff, ne_eq, and_bit_eq_zero_iff _ (by omega),
          Bool.not_eq_false] at masked
      refine Triple.write32 (fun usbdev => Invariant bufAvail
        {(usbdev.configIn endpointId).buffer.toNat} usbdev) stable ?_ ?_
      · intro usbdev both
        change Invariant bufAvail _ (usbdev.writeWord inSentRegOffset (1#32 <<< endpointId))
        rw [writeWord_clearSent inside]
        have cleared := both.1.clearSent inside (both.2 endpointId inside isSet)
        rw [zero_add] at cleared
        exact cleared
      · have named : Stable Bus (fun usbdev => Invariant bufAvail
            {(usbdev.configIn endpointId).buffer.toNat} usbdev) := by
          intro usbdev usbdev' move invariant
          rw [move.configIn_buffer]
          exact invariant.bus move
        refine Triple.read32 (fun configIn usbdev => Invariant bufAvail
          {((configIn &&& configInBufferIdMask).setWidth 8).toNat} usbdev) named ?_
          (fun configIn => Triple.ret stable_invariant (fun _ invariant => invariant))
        intro usbdev invariant
        have apart : configin0RegOffset + 4 * endpointId ≠ rxfifoRegOffset := by
          change 0x44 + 4 * endpointId ≠ 0x28
          omega
        rw [read32_of_ne usbdev apart, readWord_configIn usbdev inside, configIn_bufferId]
        exact invariant

/-! ## Received packets -/

/-- Take the buffer at the head of the RX FIFO. -/
theorem Invariant.readRxFifo (invariant : Invariant bufAvail away usbdev)
    (nonempty : usbdev.rxFifo ≠ []) :
    Invariant bufAvail
      (away + {(((device.read32 rxfifoRegOffset usbdev).1 &&& receiveBufferIdMask).setWidth
        8).toNat}) (device.read32 rxfifoRegOffset usbdev).2 := by
  rcases List.exists_cons_of_ne_nil nonempty with ⟨entry, rest, fifo⟩
  have word : (device.read32 rxfifoRegOffset usbdev).1 = entry.toWord := by
    change ((usbdev.rxFifo.head?.map RxEntry.toWord).getD 0) = _
    rw [fifo]
    rfl
  have number : ((entry.toWord &&& receiveBufferIdMask).setWidth 8).toNat = entry.buffer.toNat := by
    rw [<- rxEntry_buffer entry]
    unfold bitfieldField32Read
    rw [BitVec.ushiftRight_zero]
  rw [word, number]
  refine ⟨?_, invariant.avSetup, invariant.avOut, invariant.single⟩
  apply invariant.accounted.take .received mem_places_received
  · change ((usbdev.rxFifo.map _ : List Nat) : Multiset Nat) =
      ((usbdev.rxFifo.tail.map _ : List Nat) : Multiset Nat) + _
    rw [fifo, List.map_cons, coe_cons_eq]
    rfl
  · intro other apart
    cases other <;> first | exact absurd rfl apart | rfl

/-- With nothing in the RX FIFO its depth reads as zero. -/
theorem usbstat_depth (usbdev : Controller) (empty : usbdev.rxFifo = []) :
    usbdev.usbstat &&& receiveDepthMask = 0 := by
  have field : bitfieldField32Read usbdev.usbstat usbstatRxDepthField = 0 := by
    unfold Controller.usbstat bitfieldBit32Write
    rw [bitfieldField32Read_write_other (by decide), bitfieldField32Read_write_other (by decide),
      bitfieldField32Read_write_same (by decide), empty]
    rfl
  apply BitVec.eq_of_getLsbD_eq
  intro i small
  have bit := congrArg (BitVec.getLsbD · (i - 24)) field
  simp only [bitfieldField32Read, BitVec.getLsbD_and, BitVec.getLsbD_ushiftRight] at bit
  rw [BitVec.getLsbD_and, BitVec.getLsbD_shiftLeft]
  by_cases below : i < 24
  · simp [below]
  · rw [show 24 + (i - 24) = i by omega] at bit
    simpa [below, small] using bit

theorem within_transferFromDevice (source : Nat) (above : bufferRegOffset <= source)
    (size : Nat) : (transferFromDevice source size).Within Harmless := by
  refine (reads_memcpyWordsFromMmio32 above size).imp (fun access reads => ?_)
  cases access with
  | read32 offset =>
      rintro rfl
      exact absurd (show bufferRegOffset <= rxfifoRegOffset from reads) (by decide)
  | write32 | write8 => exact absurd reads id

/-- The buffer of a received packet is in hand. -/
theorem packetReceive_spec :
    Triple device Bus (Invariant bufAvail 0) packetReceive
      (fun out usbdev => Invariant bufAvail
        (match out with | none => 0 | some packet => {packet.bufferId.toNat}) usbdev) := by
  unfold packetReceive
  refine Triple.read32 (fun status usbdev => Invariant bufAvail 0 usbdev ∧
    (status &&& receiveDepthMask ≠ 0 -> usbdev.rxFifo ≠ [])) stable_invariant ?_
    (fun status => ?_)
  · intro usbdev invariant
    rw [read32_of_ne usbdev (by decide)]
    exact ⟨invariant, fun nonzero empty => nonzero (usbstat_depth usbdev empty)⟩
  have stable : Stable Bus (fun usbdev => Invariant bufAvail 0 usbdev ∧
      (status &&& receiveDepthMask ≠ 0 -> usbdev.rxFifo ≠ [])) :=
    fun usbdev usbdev' move both => ⟨both.1.bus move,
      fun nonzero => move.rxFifo_ne_nil (both.2 nonzero)⟩
  simp only [bind_ret]
  split
  · exact Triple.ret stable (fun _ both => both.1)
  · next nonzero =>
      refine Triple.read32 (fun received usbdev => Invariant bufAvail
        {((received &&& receiveBufferIdMask).setWidth 8).toNat} usbdev) stable ?_
        (fun received => ?_)
      · intro usbdev both
        have taken := both.1.readRxFifo (both.2 nonzero)
        rw [zero_add] at taken
        exact taken
      · simp only [bind_ret]
        split
        · refine Triple.bind (keeps_harmless (within_transferFromDevice _ ?_ _))
            (fun destination => Triple.ret stable_invariant (fun _ invariant => invariant))
          exact Nat.le_add_right _ _
        · exact Triple.ret stable_invariant (fun _ invariant => invariant)

/-! ## Sending -/

/-- What a write to a CONFIGIN register takes away from it: the buffer that it
has, where another one is written. -/
def overwritten : Access -> Controller -> List (BitVec 5)
  | .write32 offset value, usbdev =>
      match configInEndpoint offset with
      | some endpoint =>
          if usbdev.Owns endpoint ∧ ((usbdev.configIn endpoint).write value).buffer ≠
              (usbdev.configIn endpoint).buffer then
            [(usbdev.configIn endpoint).buffer]
          else []
      | none => []
  | .read32 _, _ | .write8 _ _, _ => []

/-- The controller, which notes the buffers that are overwritten. -/
abbrev watched : Device (Controller × List (BitVec 5)) := device.noted overwritten

theorem within_transferWords (destination : Nat) (above : bufferRegOffset <= destination)
    (source : List (BitVec 8)) (words : Nat) :
    (transferWords destination source words).Within Harmless := by
  induction words generalizing destination source with
  | zero => trivial
  | succ words ih => exact ⟨.inr above, ih _ (Nat.le_add_right_of_le above) _⟩

theorem within_transferToDevice (destination : Nat) (above : bufferRegOffset <= destination)
    (source : List (BitVec 8)) (size : BitVec 8) :
    (transferToDevice destination source size).Within Harmless := by
  unfold transferToDevice
  refine within_bind (within_transferWords _ above _ _) (fun _ => ?_)
  split
  · trivial
  · exact ⟨.inr (Nat.le_add_right_of_le above), trivial⟩

/-- The first value `packet_send` writes. -/
def offered (bufferId size : BitVec 8) : BitVec 32 :=
  bufferId.setWidth 32 ||| (size.setWidth 32 <<< 8)

theorem offered_buffer (valid : bufferId.toNat < 32) (size : BitVec 8) :
    ((bitfieldField32Read (offered bufferId size) configinBufferField).setWidth 5).toNat =
      bufferId.toNat := by
  have number : bitfieldField32Read (offered bufferId size) configinBufferField =
      bitfieldField32Read (bufferId.setWidth 32) configinBufferField := by
    unfold offered
    rw [bitfieldField32Read_or]
    have high : bitfieldField32Read (size.setWidth 32 <<< 8) configinBufferField = 0#32 := by
      apply BitVec.eq_of_getLsbD_eq
      intro i small
      simp only [bitfieldField32Read, BitVec.getLsbD_and, BitVec.getLsbD_ushiftRight,
        BitVec.getLsbD_shiftLeft]
      by_cases below : i < 8
      · simp [below]
      · have outside : (0x1f#32).getLsbD i = false := by
          have less : (0x1f#32).toNat < 2 ^ i :=
            Nat.lt_of_lt_of_le (show (0x1f#32).toNat < 2 ^ 8 by decide)
              (Nat.pow_le_pow_right (by decide) (Nat.le_of_not_lt below))
          exact Nat.testBit_lt_two_pow less
        simp [outside]
    rw [high, BitVec.or_zero]
  rw [number]
  unfold bitfieldField32Read
  rw [BitVec.ushiftRight_zero, BitVec.toNat_setWidth,
    toNat_and_mask (show configinBufferField.mask.toNat = 2 ^ 5 - 1 from rfl),
    BitVec.toNat_setWidth]
  omega

/-- The bits above the size are clear. -/
theorem offered_bit (bufferId size : BitVec 8) {bit : Nat} (high : 16 <= bit) :
    bitfieldBit32Read (offered bufferId size) bit = false := by
  have below : bufferId.getLsbD bit = false := BitVec.getLsbD_of_ge _ _ (by omega)
  have below' : size.getLsbD (bit - 8) = false := BitVec.getLsbD_of_ge _ _ (by omega)
  rw [bitfieldBit32Read_eq_getLsbD]
  unfold offered
  simp [below, below']

/-- A CONFIGIN register read back for the second write of `packet_send`. -/
theorem configIn_field (configIn : ConfigIn) :
    ((bitfieldField32Read configIn.toWord configinBufferField).setWidth 5).toNat =
      configIn.buffer.toNat := by
  have word := configIn_buffer configIn
  have small := configIn.buffer.isLt
  rw [BitVec.toNat_setWidth] at word ⊢
  omega

theorem ready_bit (configIn : BitVec 32) :
    bitfieldBit32Read (configIn ||| configInReadyBit) configinRdyBit = true := by
  rw [bitfieldBit32Read_eq_getLsbD, BitVec.getLsbD_or]
  simp

theorem ready_buffer (configIn : BitVec 32) :
    bitfieldField32Read (configIn ||| configInReadyBit) configinBufferField =
      bitfieldField32Read configIn configinBufferField := by
  rw [bitfieldField32Read_or, show bitfieldField32Read configInReadyBit configinBufferField = 0#32
    by decide, BitVec.or_zero]

/-- A write to the register of an endpoint that has no buffer. -/
theorem Invariant.configure {configIn : ConfigIn} (invariant : Invariant bufAvail inHand usbdev)
    (free : usbdev.Owns endpoint = false) (notReady : configIn.rdy = false)
    (notPending : configIn.pend = false) :
    Invariant bufAvail inHand
      { usbdev with configIn := update usbdev.configIn endpoint configIn } := by
  have unsent := (Controller.owns_eq_false.mp free).2
  refine ⟨invariant.accounted.congr ?_, invariant.avSetup, invariant.avOut, fun other => ?_⟩
  · intro place _
    cases place with
    | configIn other =>
        by_cases same : other = endpoint
        · subst same
          simp only [held, free]
          simp [Controller.Owns, notReady, notPending, unsent]
        · have config := update_of_ne same configIn usbdev.configIn
          exact held_configIn_congr (by simp only [config]) (by simp only [Controller.Owns, config])
    | bufAvail | availableSetup | availableOut | received => rfl
  · by_cases same : other = endpoint
    · subst same
      simp [Single, notReady, notPending]
    · simpa only [Single, update_of_ne same] using invariant.single other

/-- Make the buffer in hand ready to be sent. -/
theorem Invariant.ready {configIn : ConfigIn}
    (invariant : Invariant bufAvail (away + {configIn.buffer.toNat}) usbdev)
    (inside : endpoint < 12) (free : usbdev.Owns endpoint = false) (isReady : configIn.rdy = true)
    (notPending : configIn.pend = false) :
    Invariant bufAvail away
      { usbdev with configIn := update usbdev.configIn endpoint configIn } := by
  have unsent := (Controller.owns_eq_false.mp free).2
  refine ⟨?_, invariant.avSetup, invariant.avOut, fun other => ?_⟩
  · apply invariant.accounted.put (.configIn endpoint) (by simpa)
    · simp only [held, free]
      simp [Controller.Owns, isReady]
    · intro other apart
      cases other with
      | configIn other =>
          have different : other ≠ endpoint := fun same => apart (congrArg Place.configIn same)
          have config := update_of_ne different configIn usbdev.configIn
          exact held_configIn_congr (by simp only [config]) (by simp only [Controller.Owns, config])
      | bufAvail | availableSetup | availableOut | received => rfl
  · by_cases same : other = endpoint
    · subst same
      simp [Single, isReady, notPending, unsent]
    · simpa only [Single, update_of_ne same] using invariant.single other

/-- A register that has the buffer in hand does not have it for anything. -/
theorem Invariant.free_of_unnoted {size : BitVec 8}
    (invariant : Invariant bufAvail (away + {bufferId.toNat}) usbdev) (inside : endpoint < 12)
    (unnoted : overwritten (.write32 (configin0RegOffset + 4 * endpoint)
      (offered bufferId size)) usbdev = []) : usbdev.Owns endpoint = false := by
  by_contra owns
  have isOwner := Bool.eq_true_of_not_eq_false owns
  have here : bufferId.toNat ∈ away + {bufferId.toNat} :=
    Multiset.mem_add.mpr (Or.inr (Multiset.mem_singleton_self _))
  have notHeld := invariant.accounted.not_held_of_inHand (Multiset.nodup_range _)
    (mem_places_configIn.mpr inside) here
  simp only [held, isOwner, if_true, Multiset.mem_singleton] at notHeld
  simp only [overwritten, configInEndpoint_of_lt inside, isOwner, true_and] at unnoted
  split at unnoted
  · cases unnoted
  · next same =>
      apply notHeld
      rw [<- offered_buffer invariant.valid size]
      exact congrArg BitVec.toNat (not_not.mp same)

/-- `packet_send` copies, if there is anything to copy, and then offers the buffer. -/
theorem packetSend_eq (bufferId endpointId : BitVec 8) (data : List (BitVec 8))
    (size : BitVec 8) : packetSend bufferId endpointId data size =
      (if 0 < size.toNat then transferToDevice (buffers bufferId) data size else pure ()) >>=
        fun _ => .write32 (configin0RegOffset + 4 * endpointId.toNat) (offered bufferId size)
          (.read32 (configin0RegOffset + 4 * endpointId.toNat) fun configIn =>
            .write32 (configin0RegOffset + 4 * endpointId.toNat) (configIn ||| configInReadyBit)
              (.ret 0)) := by
  unfold packetSend
  split <;> rfl

/-- Send the buffer in hand. -/
theorem packetSend_spec {endpointId : BitVec 8} (inside : endpointId.toNat < 12)
    (data : List (BitVec 8)) (size : BitVec 8) :
    Triple watched (Unnoticed Bus) (Unless (Invariant bufAvail (away + {bufferId.toNat})))
      (packetSend bufferId endpointId data size)
      (fun out s => out = 0 ∧ Unless (Invariant bufAvail away) s) := by
  let Offered (usbdev : Controller) : Prop :=
    Invariant bufAvail (away + {bufferId.toNat}) usbdev ∧ usbdev.Owns endpointId.toNat = false ∧
      (usbdev.configIn endpointId.toNat).buffer.toNat = bufferId.toNat
  have stable : Stable Bus Offered := by
    rintro usbdev usbdev' move ⟨invariant, free, buffer⟩
    exact ⟨invariant.bus move, (move.owns _).trans free, by rw [move.configIn_buffer, buffer]⟩
  have copied : (if 0 < size.toNat then transferToDevice (buffers bufferId) data size
      else pure ()).Within Harmless := by
    split
    · exact within_transferToDevice _ (Nat.le_add_right _ _) _ _
    · trivial
  rw [packetSend_eq]
  refine Triple.bind (keeps_harmless copied).unless (fun _ =>
    Triple.write32_unless Offered stable_invariant ?_ ?_)
  · intro usbdev invariant unnoted
    have free := invariant.free_of_unnoted inside unnoted
    simp only [device, writeWord_configIn usbdev _ inside]
    have notReady : ((usbdev.configIn endpointId.toNat).write (offered bufferId size)).rdy =
        false := offered_bit bufferId size (by decide)
    have notPending : ((usbdev.configIn endpointId.toNat).write (offered bufferId size)).pend =
        false := by
      have before := (Controller.owns_eq_false.mp free).1.2
      simp only [ConfigIn.write, before, Bool.false_and]
    refine ⟨invariant.configure free notReady notPending, ?_, ?_⟩
    · have unsent := (Controller.owns_eq_false.mp free).2
      simp only [Controller.Owns, update_self, notReady, notPending, unsent,
        Bool.or_false]
    · simp only [update_self]
      exact offered_buffer invariant.valid size
  · refine Triple.read32 (fun configIn => Unless (fun usbdev => Offered usbdev ∧
      ((bitfieldField32Read configIn configinBufferField).setWidth 5).toNat = bufferId.toNat))
      (stable_unless stable) ?_ (fun configIn => Triple.write32_unless
        (Invariant bufAvail away) ?_ ?_ (Triple.ret (stable_unless stable_invariant)
          (fun _ holds => ⟨rfl, holds⟩)))
    · intro s offered clear
      have kept := offered (List.append_eq_nil_iff.mp clear).1
      have apart : configin0RegOffset + 4 * endpointId.toNat ≠ rxfifoRegOffset := by
        change 0x44 + 4 * endpointId.toNat ≠ 0x28
        omega
      change Offered (device.read32 _ s.1).2 ∧ _
      simp only [Device.noted, read32_of_ne s.1 apart]
      refine ⟨kept, ?_⟩
      rw [readWord_configIn s.1 inside, configIn_field, kept.2.2]
    · rintro usbdev usbdev' move ⟨offered, number⟩
      exact ⟨stable _ _ move offered, number⟩
    · rintro usbdev ⟨⟨invariant, free, buffer⟩, number⟩ -
      simp only [device, writeWord_configIn usbdev _ inside]
      have notPending := (Controller.owns_eq_false.mp free).1.2
      refine Invariant.ready ?_ inside free (ready_bit configIn) ?_
      · change Invariant bufAvail (away + {((bitfieldField32Read (configIn ||| configInReadyBit)
          configinBufferField).setWidth 5).toNat}) usbdev
        rw [ready_buffer, number]
        exact invariant
      · simp only [ConfigIn.write, notPending, Bool.false_and]

end

end UsbdevUtils
end SunburstChip
