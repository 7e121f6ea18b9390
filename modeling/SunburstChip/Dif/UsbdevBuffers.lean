import SunburstChip.Dif.Usbdev
import SunburstChip.Lib.Custody

namespace SunburstChip
namespace Usbdev

open Mmio
open Function (update update_comm update_of_ne update_self)

/-!
# Conservation of packet buffers

Wherever the driver, its callers and the controller move them, the 32 buffer
numbers stay accounted for.  The places that can hold a number are the pool,
the three FIFOs, the buffer objects of the caller and the CONFIGIN registers.
An invariant says that these places together hold every number once; the
controller keeps it by moving numbers between places, and each driver function
keeps it by taking a number from one place and putting it into another.
-/

/-! ## Reading the registers -/

theorem usbstat_avSetupDepth {usbdev : Controller} (short : usbdev.avSetup.length < 8) :
    (bitfieldField32Read usbdev.usbstat usbstatAvSetupDepthField).toNat =
      usbdev.avSetup.length := by
  unfold Controller.usbstat bitfieldBit32Write
  rw [bitfieldField32Read_write_other (by decide), bitfieldField32Read_write_other (by decide),
    bitfieldField32Read_write_other (by decide), bitfieldField32Read_write_other (by decide),
    bitfieldField32Read_write_same (by decide),
    toNat_and_mask (show usbstatAvSetupDepthField.mask.toNat = 2 ^ 3 - 1 from rfl),
    BitVec.toNat_ofNat]
  omega

theorem usbstat_avOutFull (usbdev : Controller) :
    bitfieldBit32Read usbdev.usbstat usbstatAvOutFullBit =
      decide (avOutFifoDepth <= usbdev.avOut.length) := by
  rw [<- bitfieldBit32Read_write_same (show usbstatAvOutFullBit < 32 by decide) _
    (decide (avOutFifoDepth <= usbdev.avOut.length))]
  unfold Controller.usbstat bitfieldBit32Read bitfieldBit32Write
  rw [bitfieldField32Read_write_other (by decide), bitfieldField32Read_write_other (by decide),
    bitfieldField32Read_write_other (by decide)]

theorem usbstat_rxEmpty (usbdev : Controller) :
    bitfieldBit32Read usbdev.usbstat usbstatRxEmptyBit = usbdev.rxFifo.isEmpty :=
  bitfieldBit32Read_write_same (by decide) _ _

theorem rxEntry_buffer (entry : RxEntry) :
    ((bitfieldField32Read entry.toWord rxfifoBufferField).setWidth 8).toNat =
      entry.buffer.toNat := by
  have small := entry.buffer.isLt
  unfold RxEntry.toWord bitfieldBit32Write
  rw [bitfieldField32Read_write_other (by decide), bitfieldField32Read_write_other (by decide),
    bitfieldField32Read_write_other (by decide), bitfieldField32Read_write_same (by decide),
    BitVec.toNat_setWidth,
    toNat_and_mask (show rxfifoBufferField.mask.toNat = 2 ^ 5 - 1 from rfl), BitVec.toNat_setWidth]
  omega

theorem configIn_buffer (configIn : ConfigIn) :
    ((bitfieldField32Read configIn.toWord configinBufferField).setWidth 8).toNat =
      configIn.buffer.toNat := by
  have small := configIn.buffer.isLt
  unfold ConfigIn.toWord bitfieldBit32Write
  rw [bitfieldField32Read_write_other (by decide), bitfieldField32Read_write_other (by decide),
    bitfieldField32Read_write_other (by decide), bitfieldField32Read_write_other (by decide),
    bitfieldField32Read_write_same (by decide), BitVec.toNat_setWidth,
    toNat_and_mask (show configinBufferField.mask.toNat = 2 ^ 5 - 1 from rfl),
    BitVec.toNat_setWidth]
  omega

variable {bufferId : BitVec 8} {pool : BufferPool} {n : Nat}

/-- A buffer number written to an Available FIFO register. -/
theorem available_buffer {field : BitfieldField32} (isBuffer : field = ⟨0x1f, 0⟩)
    (valid : bufferId.toNat < 32) :
    ((bitfieldField32Read (bitfieldField32Write 0 field (bufferId.setWidth 32)) field).setWidth
      5).toNat = bufferId.toNat := by
  subst isBuffer
  rw [bitfieldField32Read_write_same (by decide), BitVec.toNat_setWidth,
    toNat_and_mask (show (0x1f#32).toNat = 2 ^ 5 - 1 from rfl), BitVec.toNat_setWidth]
  omega

/-! ## Accessing the registers -/

section

variable (usbdev : Controller) (value : BitVec 32)

/-- Reading any register but `RXFIFO` changes nothing. -/
theorem read32_of_ne {offset : Nat} (other : offset ≠ rxfifoRegOffset) :
    device.read32 offset usbdev = (usbdev.readWord offset, usbdev) := by
  simp only [device, if_neg other]

theorem configInEndpoint_of_lt {endpoint : Nat} (inside : endpoint < 12) :
    configInEndpoint (configin0RegOffset + 4 * endpoint) = some endpoint := by
  unfold configInEndpoint
  rw [if_pos ⟨Nat.le_add_right _ _, Nat.add_lt_add_left (Nat.mul_lt_mul_of_pos_left inside (by decide)) _⟩,
    Nat.add_sub_cancel_left, Nat.mul_div_cancel_left _ (by decide)]

theorem readWord_configIn {endpoint : Nat} (inside : endpoint < 12) :
    usbdev.readWord (configin0RegOffset + 4 * endpoint) = (usbdev.configIn endpoint).toWord := by
  have apart : forall other, other < 0x44 ∨ 0x74 <= other -> 0x44 + 4 * endpoint ≠ other := by
    omega
  have low : ¬ 0x800 <= 0x44 + 4 * endpoint := by omega
  simp only [Controller.readWord, if_neg (apart usbstatRegOffset (by decide)),
    if_neg (apart rxfifoRegOffset (by decide)), if_neg (apart inSentRegOffset (by decide)),
    if_neg low, configInEndpoint_of_lt inside]

theorem writeWord_avOut (room : usbdev.avOut.length < avOutFifoDepth) :
    usbdev.writeWord avoutbufferRegOffset value = { usbdev with avOut := usbdev.avOut ++
      [(bitfieldField32Read value avoutbufferBufferField).setWidth 5] } := by
  simp only [Controller.writeWord, if_neg (Nat.not_le.mpr room), if_pos]

theorem writeWord_avSetup (room : usbdev.avSetup.length < avSetupFifoDepth) :
    usbdev.writeWord avsetupbufferRegOffset value = { usbdev with avSetup := usbdev.avSetup ++
      [(bitfieldField32Read value avsetupbufferBufferField).setWidth 5] } := by
  have apart : avsetupbufferRegOffset ≠ avoutbufferRegOffset := by decide
  simp only [Controller.writeWord, if_neg apart, if_neg (Nat.not_le.mpr room), if_pos]

theorem writeWord_inSent :
    usbdev.writeWord inSentRegOffset value = { usbdev with
      inSent := fun endpoint =>
        usbdev.inSent endpoint && !bitfieldBit32Read value endpoint } := rfl

theorem writeWord_memory {offset : Nat} (above : 0x800 <= offset) :
    usbdev.writeWord offset value = { usbdev with
      memory := update usbdev.memory ((offset - bufferRegOffset) / 4) value } := by
  have apart : forall other, other < 0x800 -> offset ≠ other := by omega
  have readable : ¬ (offset = usbstatRegOffset ∨ offset = rxfifoRegOffset) := by
    rintro (same | same)
    · exact apart usbstatRegOffset (by decide) same
    · exact apart rxfifoRegOffset (by decide) same
  simp only [Controller.writeWord, if_neg (apart avoutbufferRegOffset (by decide)),
    if_neg (apart avsetupbufferRegOffset (by decide)), if_neg readable,
    if_neg (apart inSentRegOffset (by decide)), if_pos above]

theorem readWord_memory {offset : Nat} (above : 0x800 <= offset) :
    usbdev.readWord offset = usbdev.memory ((offset - bufferRegOffset) / 4) := by
  have apart : forall other, other < 0x800 -> offset ≠ other := by omega
  simp only [Controller.readWord, if_neg (apart usbstatRegOffset (by decide)),
    if_neg (apart rxfifoRegOffset (by decide)), if_neg (apart inSentRegOffset (by decide)),
    if_pos above]

theorem writeWord_configIn {endpoint : Nat} (inside : endpoint < 12) :
    usbdev.writeWord (configin0RegOffset + 4 * endpoint) value = { usbdev with
      configIn := update usbdev.configIn endpoint
        ((usbdev.configIn endpoint).write value) } := by
  have apart : forall other, other < 0x44 ∨ 0x74 <= other -> 0x44 + 4 * endpoint ≠ other := by
    omega
  have readable : ¬ (0x44 + 4 * endpoint = usbstatRegOffset ∨
      0x44 + 4 * endpoint = rxfifoRegOffset) := by
    rintro (same | same)
    · exact apart usbstatRegOffset (by decide) same
    · exact apart rxfifoRegOffset (by decide) same
  have low : ¬ 0x800 <= 0x44 + 4 * endpoint := by omega
  simp only [Controller.writeWord, if_neg (apart avoutbufferRegOffset (by decide)),
    if_neg (apart avsetupbufferRegOffset (by decide)), if_neg readable,
    if_neg (apart inSentRegOffset (by decide)), if_neg low, configInEndpoint_of_lt inside]

end

/-! ## The pool as a stack -/

/-- The free buffers, the one to be handed out next last. -/
def BufferPool.stack (pool : BufferPool) : List (BitVec 8) :=
  pool.buffers.toList.take (pool.top + 1).toNat

/-- The top of the stack is within its bounds, `BUFFER_POOL_EMPTY` to `BUFFER_POOL_FULL`. -/
def BufferPool.InBounds (pool : BufferPool) : Prop := -1 <= pool.top ∧ pool.top <= 31

theorem bufferPoolIsFull_iff (pool : BufferPool) : bufferPoolIsFull pool = true ↔ pool.top = 31 :=
  beq_iff_eq

theorem bufferPoolIsEmpty_iff (pool : BufferPool) : bufferPoolIsEmpty pool = true ↔ pool.top = -1 :=
  beq_iff_eq

theorem BufferPool.length_buffers (pool : BufferPool) : pool.buffers.toList.length = 32 :=
  Vector.length_toList

theorem BufferPool.length_stack (bounds : pool.InBounds) :
    (pool.stack.length : Int) = pool.top + 1 := by
  rcases bounds with ⟨low, high⟩
  unfold stack
  rw [List.length_take, pool.length_buffers]
  omega

/-- Adding a buffer that is not in the pool succeeds. -/
theorem bufferPoolAdd_isSome (bounds : pool.InBounds) (room : pool.stack.length < 32)
    (valid : bufferId.toNat < 32) :
    Exists fun pool' => bufferPoolAdd pool bufferId = some pool' := by
  have length := BufferPool.length_stack bounds
  have notFull : ¬ bufferPoolIsFull pool = true := by
    rw [bufferPoolIsFull_iff]
    omega
  have accepted : bufferPoolIsValidBufferId bufferId = true := decide_eq_true valid
  exact ⟨_, if_neg (by simp [notFull, accepted])⟩

theorem bufferPoolAdd_stack {pool' : BufferPool} (bounds : pool.InBounds)
    (added : bufferPoolAdd pool bufferId = some pool') :
    pool'.stack = pool.stack ++ [bufferId] ∧ pool'.InBounds := by
  unfold bufferPoolAdd at added
  split at added
  · cases added
  · next accepted =>
      cases added
      have notFull : pool.top ≠ 31 := by
        intro full
        simp [(bufferPoolIsFull_iff pool).mpr full] at accepted
      rcases bounds with ⟨low, high⟩
      refine ⟨?_, show -1 <= pool.top + 1 ∧ pool.top + 1 <= 31 by omega⟩
      unfold BufferPool.stack
      have index : (pool.top + 1 + 1).toNat = (pool.top + 1).toNat + 1 := by omega
      simp only [index]
      rw [Vector.toList_setIfInBounds, List.take_add_one, List.take_set_of_le (Nat.le_refl _),
        List.getElem?_set_self (by rw [pool.length_buffers]; omega)]
      rfl

theorem bufferPoolRemove_isSome (nonempty : bufferPoolIsEmpty pool = false) :
    Exists fun bufferId => Exists fun pool' => bufferPoolRemove pool = some (bufferId, pool') :=
  ⟨_, _, if_neg (by simp [nonempty])⟩

theorem bufferPoolRemove_stack {pool' : BufferPool} (bounds : pool.InBounds)
    (removed : bufferPoolRemove pool = some (bufferId, pool')) :
    pool.stack = pool'.stack ++ [bufferId] ∧ pool'.InBounds := by
  unfold bufferPoolRemove at removed
  split at removed
  · cases removed
  · next nonempty =>
      cases removed
      have notEmpty : pool.top ≠ -1 := by
        intro empty
        exact nonempty ((bufferPoolIsEmpty_iff pool).mpr empty)
      rcases bounds with ⟨low, high⟩
      refine ⟨?_, show -1 <= pool.top - 1 ∧ pool.top - 1 <= 31 by omega⟩
      unfold BufferPool.stack
      have index : (pool.top + 1).toNat = pool.top.toNat + 1 := by omega
      have index' : (pool.top - 1 + 1).toNat = pool.top.toNat := by omega
      have inside : pool.top.toNat < 32 := by omega
      simp only [index, index']
      rw [List.take_add_one]
      simp [inside]

/-- Initialising fills the pool with all buffers, whatever it held before. -/
theorem bufferPoolInit_stack (pool : BufferPool) :
    (bufferPoolInit pool).2 = true ∧ (bufferPoolInit pool).1.InBounds ∧
      (bufferPoolInit pool).1.stack = (List.range 32).map (BitVec.ofNat 8) := by
  have all : forall (ids : List Nat) (start : BufferPool), start.InBounds ->
      start.stack.length + ids.length <= 32 -> (forall id, id ∈ ids -> id < 32) ->
      (bufferPoolAddAll start ids).2 = true ∧ (bufferPoolAddAll start ids).1.InBounds ∧
        (bufferPoolAddAll start ids).1.stack = start.stack ++ ids.map (BitVec.ofNat 8) := by
    intro ids
    induction ids with
    | nil => exact fun start bounds _ _ => ⟨rfl, bounds, (List.append_nil _).symm⟩
    | cons id rest ih =>
        intro start bounds room valid
        rw [List.length_cons] at room
        have small : (BitVec.ofNat 8 id).toNat < 32 := by
          have := valid id List.mem_cons_self
          rw [BitVec.toNat_ofNat]
          omega
        rcases bufferPoolAdd_isSome bounds (by omega) small with ⟨next, added⟩
        rcases bufferPoolAdd_stack bounds added with ⟨stack, bounds'⟩
        have later := ih next bounds' (by rw [stack, List.length_append, List.length_singleton]; omega)
          (fun id inside => valid id (List.mem_cons_of_mem _ inside))
        unfold bufferPoolAddAll
        rw [added]
        simp only
        rw [later.2.2, stack, List.append_assoc]
        exact ⟨later.1, later.2.1, rfl⟩
  have empty : ({ pool with top := -1 } : BufferPool).stack = [] := rfl
  have filled := all (List.range 32) { pool with top := -1 } ⟨by simp, by simp⟩
    (by rw [empty]; simp) (fun id inside => List.mem_range.mp inside)
  rw [empty] at filled
  exact filled

/-! ## Who has which buffer -/

/-- The places a buffer number can be at. -/
inductive Place where
  | pool
  | availableSetup
  | availableOut
  | received
  /-- A buffer object of the caller. -/
  | object (index : Nat)
  /-- The CONFIGIN register of an endpoint. -/
  | configIn (endpoint : Nat)
  deriving DecidableEq

/-- The controller, the pool and the buffer objects of the caller. -/
structure System where
  controller : Controller
  pool : BufferPool
  objects : Nat -> Buffer

/-- The caller owns the buffer of the object. -/
def Buffer.Owned (buffer : Buffer) : Bool := buffer.type != .kDifUsbdevBufferTypeStale

/-- The endpoint has a packet that is waiting for the host, or that the host
has collected and the driver has not cleared. -/
def Controller.Pending (usbdev : Controller) (endpoint : Nat) : Bool :=
  (usbdev.configIn endpoint).rdy || usbdev.inSent endpoint

/-- The buffer numbers at a place. -/
def System.held (system : System) : Place -> Multiset Nat
  | .pool => (system.pool.stack.map BitVec.toNat : List Nat)
  | .availableSetup => (system.controller.avSetup.map BitVec.toNat : List Nat)
  | .availableOut => (system.controller.avOut.map BitVec.toNat : List Nat)
  | .received => (system.controller.rxFifo.map (fun entry => entry.buffer.toNat) : List Nat)
  | .object index =>
      if (system.objects index).Owned then {(system.objects index).id.toNat} else 0
  | .configIn endpoint =>
      if system.controller.Pending endpoint then
        {(system.controller.configIn endpoint).buffer.toNat}
      else 0

/-- The places there are, for a caller with `n` buffer objects. -/
def places (n : Nat) : Finset Place :=
  {.pool, .availableSetup, .availableOut, .received} ∪ (Finset.range n).image .object ∪
    (Finset.range numEndpoints).image .configIn

@[simp] theorem mem_places_pool (n : Nat) : Place.pool ∈ places n := by simp [places]

@[simp] theorem mem_places_availableSetup (n : Nat) : Place.availableSetup ∈ places n := by
  simp [places]

@[simp] theorem mem_places_availableOut (n : Nat) : Place.availableOut ∈ places n := by
  simp [places]

@[simp] theorem mem_places_received (n : Nat) : Place.received ∈ places n := by simp [places]

@[simp] theorem mem_places_object {index : Nat} : Place.object index ∈ places n ↔ index < n := by
  simp [places]

@[simp] theorem mem_places_configIn {endpoint : Nat} :
    Place.configIn endpoint ∈ places n ↔ endpoint < 12 := by
  simp [places]

/-- All 32 buffer numbers are at the places, apart from those in hand. -/
structure Invariant (n : Nat) (inHand : Multiset Nat) (system : System) : Prop where
  accounted : Accounted (places n) system.held inHand (Multiset.range numBuffers)
  avSetup : system.controller.avSetup.length <= avSetupFifoDepth
  avOut : system.controller.avOut.length <= avOutFifoDepth
  bounds : system.pool.InBounds
  exclusive : forall endpoint, (system.controller.configIn endpoint).rdy = true ->
    system.controller.inSent endpoint = false

section

variable {n : Nat} {inHand away : Multiset Nat} {controller : Controller} {pool : BufferPool}
  {objects : Nat -> Buffer}

theorem Invariant.valid {id : Nat}
    (invariant : Invariant n (away + {id}) ⟨controller, pool, objects⟩) : id < 32 := by
  have within := invariant.accounted.held_le (mem_places_pool n)
  have here : id ∈ away + {id} := Multiset.mem_add.mpr (Or.inr (Multiset.mem_singleton_self id))
  exact Multiset.mem_range.mp (Multiset.mem_of_le within (Multiset.mem_add.mpr (Or.inr here)))

variable {endpoint index : Nat} {controller' controller : Controller} {bufferId : BitVec 8}
  {buffer : Buffer} {configIn : ConfigIn}

theorem held_configIn_congr
    (buffer : (controller'.configIn endpoint).buffer = (controller.configIn endpoint).buffer)
    (pending : controller'.Pending endpoint = controller.Pending endpoint) :
    (System.mk controller' pool objects).held (.configIn endpoint) =
      (System.mk controller pool objects).held (.configIn endpoint) := by
  simp only [System.held]
  rw [pending, buffer]

/-- A change of one CONFIGIN register that keeps its buffer and whether a
packet is pending changes nothing that is held. -/
theorem held_update_configIn (endpoint : Nat)
    (others : forall other, other ≠ endpoint ->
      controller'.configIn other = controller.configIn other ∧
        controller'.inSent other = controller.inSent other)
    (buffer : (controller'.configIn endpoint).buffer = (controller.configIn endpoint).buffer)
    (pending : controller'.Pending endpoint = controller.Pending endpoint) (other : Nat) :
    (System.mk controller' pool objects).held (.configIn other) =
      (System.mk controller pool objects).held (.configIn other) := by
  by_cases same : other = endpoint
  · rw [same]
    exact held_configIn_congr buffer pending
  · rcases others other same with ⟨config, sent⟩
    exact held_configIn_congr (by rw [config]) (by unfold Controller.Pending; rw [config, sent])

/-- The controller moves numbers between places, and in no other way. -/
theorem Invariant.hardware (invariant : Invariant n inHand ⟨controller, pool, objects⟩)
    (move : Hardware controller controller') :
    Invariant n inHand ⟨controller', pool, objects⟩ := by
  rcases invariant with ⟨accounted, avSetup, avOut, bounds, exclusive⟩
  cases move with
  | @receiveSetup buffer rest ep size packet available room =>
      have short : rest.length <= avSetupFifoDepth := by
        simp only [available, List.length_cons] at avSetup
        omega
      refine ⟨?_, short, avOut, bounds, exclusive⟩
      apply accounted.move .availableSetup .received {buffer.toNat} (by decide) (by simp) (by simp)
      · simp only [System.held, available, List.map_cons, coe_cons_eq]
      · simp only [System.held, List.map_append, List.map_singleton, coe_concat_eq]
      · intro other notSource notTarget
        cases other <;> first | exact absurd rfl notSource | exact absurd rfl notTarget | rfl
  | @receiveOut buffer rest ep size packet available room =>
      have short : rest.length <= avOutFifoDepth := by
        simp only [available, List.length_cons] at avOut
        omega
      refine ⟨?_, avSetup, short, bounds, exclusive⟩
      apply accounted.move .availableOut .received {buffer.toNat} (by decide) (by simp) (by simp)
      · simp only [System.held, available, List.map_cons, coe_cons_eq]
      · simp only [System.held, List.map_append, List.map_singleton, coe_concat_eq]
      · intro other notSource notTarget
        cases other <;> first | exact absurd rfl notSource | exact absurd rfl notTarget | rfl
  | attempt endpoint inside ready =>
      refine ⟨accounted.congr ?_, avSetup, avOut, bounds, ?_⟩
      · intro place _
        cases place with
        | configIn other =>
            apply held_update_configIn endpoint _ _ _ other
            · exact fun other apart => ⟨update_of_ne apart _ _, rfl⟩
            · simp only [update_self]
            · simp only [Controller.Pending, update_self]
        | pool | availableSetup | availableOut | received | object => rfl
      · intro other
        by_cases same : other = endpoint
        · subst same
          simpa only [update_self] using exclusive other
        · simpa only [update_of_ne same] using exclusive other
  | acknowledge endpoint inside ready =>
      refine ⟨accounted.congr ?_, avSetup, avOut, bounds, ?_⟩
      · intro place _
        cases place with
        | configIn other =>
            apply held_update_configIn endpoint _ _ _ other
            · exact fun other apart =>
                ⟨update_of_ne apart _ _, update_of_ne apart _ _⟩
            · simp only [update_self]
            · simp [Controller.Pending, update_self, ready]
        | pool | availableSetup | availableOut | received | object => rfl
      · intro other
        by_cases same : other = endpoint
        · subst same
          simp
        · simpa only [update_of_ne same] using exclusive other
  | link link => exact ⟨accounted, avSetup, avOut, bounds, exclusive⟩

/-! ## Taking buffers out of the pool and out of objects -/

/-- A buffer in hand can always be added to the pool. -/
theorem Invariant.addable
    (invariant : Invariant n (away + {bufferId.toNat}) ⟨controller, pool, objects⟩) :
    Exists fun pool' => bufferPoolAdd pool bufferId = some pool' := by
  have valid : bufferId.toNat < 32 := invariant.valid
  have room : pool.stack.length < 32 := by
    have counted := Multiset.card_le_card (invariant.accounted.held_le (mem_places_pool n))
    simp only [System.held, Multiset.card_add, Multiset.coe_card, List.length_map,
      Multiset.card_singleton, Multiset.card_range] at counted
    exact Nat.lt_of_lt_of_le (by omega) counted
  exact bufferPoolAdd_isSome invariant.bounds room valid

theorem Invariant.add {pool' : BufferPool}
    (invariant : Invariant n (away + {bufferId.toNat}) ⟨controller, pool, objects⟩)
    (added : bufferPoolAdd pool bufferId = some pool') :
    Invariant n away ⟨controller, pool', objects⟩ := by
  rcases bufferPoolAdd_stack invariant.bounds added with ⟨stack, bounds⟩
  refine ⟨?_, invariant.avSetup, invariant.avOut, bounds, invariant.exclusive⟩
  apply invariant.accounted.put .pool (by simp)
  · simp only [System.held, stack, List.map_append, List.map_singleton, coe_concat_eq]
  · intro other apart
    cases other <;> first | exact absurd rfl apart | rfl

theorem Invariant.remove {pool' : BufferPool}
    (invariant : Invariant n away ⟨controller, pool, objects⟩)
    (removed : bufferPoolRemove pool = some (bufferId, pool')) :
    Invariant n (away + {bufferId.toNat}) ⟨controller, pool', objects⟩ := by
  rcases bufferPoolRemove_stack invariant.bounds removed with ⟨stack, bounds⟩
  refine ⟨?_, invariant.avSetup, invariant.avOut, bounds, invariant.exclusive⟩
  apply invariant.accounted.take .pool (by simp)
  · simp only [System.held, stack, List.map_append, List.map_singleton, coe_concat_eq]
  · intro other apart
    cases other <;> first | exact absurd rfl apart | rfl

theorem held_update_object {place : Place} (apart : place ≠ .object index) :
    (System.mk controller pool (update objects index buffer)).held place =
      (System.mk controller pool objects).held place := by
  cases place with
  | object other =>
      have different : other ≠ index := fun same => apart (congrArg Place.object same)
      simp only [System.held, update_of_ne different]
  | pool | availableSetup | availableOut | received | configIn => rfl

/-- Take a buffer away from an object that owns it. -/
theorem Invariant.takeObject (invariant : Invariant n away ⟨controller, pool, objects⟩)
    (buffer : Buffer) (inside : index < n) (owned : (objects index).Owned = true)
    (stale : buffer.Owned = false) :
    Invariant n (away + {(objects index).id.toNat})
      ⟨controller, pool, update objects index buffer⟩ := by
  refine ⟨?_, invariant.avSetup, invariant.avOut, invariant.bounds, invariant.exclusive⟩
  apply invariant.accounted.take (.object index) (by simpa)
  · simp [System.held, owned, stale]
  · exact fun other apart => held_update_object apart

/-- Give a buffer in hand to an object that owns none. -/
theorem Invariant.putObject
    (invariant : Invariant n (away + {buffer.id.toNat}) ⟨controller, pool, objects⟩)
    (inside : index < n) (free : (objects index).Owned = false) (owned : buffer.Owned = true) :
    Invariant n away ⟨controller, pool, update objects index buffer⟩ := by
  refine ⟨?_, invariant.avSetup, invariant.avOut, invariant.bounds, invariant.exclusive⟩
  apply invariant.accounted.put (.object index) (by simpa)
  · simp [System.held, owned, free]
  · exact fun other apart => held_update_object apart

/-- An object may change in all but its buffer and whether it owns it. -/
theorem Invariant.keepObject (invariant : Invariant n inHand ⟨controller, pool, objects⟩)
    (sameId : buffer.id = (objects index).id) (same : buffer.Owned = (objects index).Owned) :
    Invariant n inHand ⟨controller, pool, update objects index buffer⟩ := by
  refine ⟨invariant.accounted.congr ?_, invariant.avSetup, invariant.avOut, invariant.bounds,
    invariant.exclusive⟩
  intro place _
  by_cases here : place = .object index
  · subst here
    simp only [System.held, update_self, sameId, same]
  · exact held_update_object here

/-! ## What each register access does -/

theorem stable_invariant : Stable Hardware (fun usbdev => Invariant n inHand ⟨usbdev, pool, objects⟩) :=
  fun _ _ move invariant => invariant.hardware move

theorem Hardware.avSetup_le (move : Hardware controller controller') :
    controller'.avSetup.length <= controller.avSetup.length := by
  cases move with
  | receiveSetup ep size packet available => simp [available]
  | receiveOut | attempt | acknowledge | link => exact Nat.le_refl _

theorem Hardware.avOut_le (move : Hardware controller controller') :
    controller'.avOut.length <= controller.avOut.length := by
  cases move with
  | receiveOut ep size packet available => simp [available]
  | receiveSetup | attempt | acknowledge | link => exact Nat.le_refl _

/-- Packet memory can be accessed freely. -/
theorem invariant_memory {access : Access} (inMemory : AtOrAbove bufferRegOffset access)
    (invariant : Invariant n inHand ⟨controller, pool, objects⟩) :
    Invariant n inHand ⟨device.after access controller, pool, objects⟩ := by
  cases access with
  | read32 offset =>
      have other : offset ≠ rxfifoRegOffset := by
        rintro rfl
        exact absurd (show bufferRegOffset <= rxfifoRegOffset from inMemory) (by decide)
      rw [Device.after, read32_of_ne controller other]
      exact invariant
  | write32 offset value =>
      change Invariant n inHand ⟨controller.writeWord offset value, pool, objects⟩
      rw [writeWord_memory controller value inMemory]
      exact ⟨invariant.accounted, invariant.avSetup, invariant.avOut, invariant.bounds,
        invariant.exclusive⟩
  | write8 => exact absurd inMemory id

/-- Give a buffer in hand to the Available OUT FIFO. -/
theorem Invariant.writeAvOut
    (invariant : Invariant n (away + {bufferId.toNat}) ⟨controller, pool, objects⟩)
    (room : controller.avOut.length < avOutFifoDepth) :
    Invariant n away ⟨controller.writeWord avoutbufferRegOffset
      (bitfieldField32Write 0 avoutbufferBufferField (bufferId.setWidth 32)), pool, objects⟩ := by
  have valid : bufferId.toNat < 32 := invariant.valid
  rw [writeWord_avOut controller _ room]
  refine ⟨?_, invariant.avSetup, ?_, invariant.bounds, invariant.exclusive⟩
  · apply invariant.accounted.put .availableOut (by simp)
    · simp only [System.held, List.map_append, List.map_singleton, coe_concat_eq,
        available_buffer rfl valid]
    · intro other apart
      cases other <;> first | exact absurd rfl apart | rfl
  · rw [List.length_append]
    exact room

/-- Give a buffer in hand to the Available SETUP FIFO. -/
theorem Invariant.writeAvSetup
    (invariant : Invariant n (away + {bufferId.toNat}) ⟨controller, pool, objects⟩)
    (room : controller.avSetup.length < avSetupFifoDepth) :
    Invariant n away ⟨controller.writeWord avsetupbufferRegOffset
      (bitfieldField32Write 0 avsetupbufferBufferField (bufferId.setWidth 32)), pool, objects⟩ := by
  have valid : bufferId.toNat < 32 := invariant.valid
  rw [writeWord_avSetup controller _ room]
  refine ⟨?_, ?_, invariant.avOut, invariant.bounds, invariant.exclusive⟩
  · apply invariant.accounted.put .availableSetup (by simp)
    · simp only [System.held, List.map_append, List.map_singleton, coe_concat_eq,
        available_buffer rfl valid]
    · intro other apart
      cases other <;> first | exact absurd rfl apart | rfl
  · rw [List.length_append]
    exact room

/-! ## Filling the Available FIFOs -/

/-- What the loop knows after reading `USBSTAT`: the FIFO that it is going to
write to has room, and keeps it since the controller only takes buffers out. -/
def RoomAsRead (status : BitVec 32) (usbdev : Controller) : Prop :=
  (bitfieldField32Read status usbstatAvSetupDepthField < 2 ->
    usbdev.avSetup.length < avSetupFifoDepth) ∧
  (bitfieldBit32Read status usbstatAvOutFullBit = false -> usbdev.avOut.length < avOutFifoDepth)

theorem roomAsRead_usbstat (short : controller.avSetup.length <= avSetupFifoDepth) :
    RoomAsRead controller.usbstat controller := by
  constructor
  · intro below
    have depth := usbstat_avSetupDepth (Nat.lt_of_le_of_lt short (by decide))
    have less := BitVec.lt_def.mp below
    rw [depth] at less
    exact Nat.lt_of_lt_of_le less (by decide)
  · intro notFull
    rw [usbstat_avOutFull] at notFull
    exact Nat.not_le.mp (of_decide_eq_false notFull)

theorem stable_roomAsRead (status : BitVec 32) : Stable Hardware (RoomAsRead status) :=
  fun _ _ move room =>
    ⟨fun below => Nat.lt_of_le_of_lt move.avSetup_le (room.1 below),
      fun notFull => Nat.lt_of_le_of_lt move.avOut_le (room.2 notFull)⟩

theorem fillLoop_spec (rounds : Nat) (pool : BufferPool) :
    Triple device Hardware (fun usbdev => Invariant n away ⟨usbdev, pool, objects⟩)
      (fillLoop rounds pool)
      (fun out usbdev => out.1 = .kDifOk ∧ Invariant n away ⟨usbdev, out.2, objects⟩) := by
  induction rounds generalizing pool with
  | zero => exact Triple.ret stable_invariant (fun _ invariant => ⟨rfl, invariant⟩)
  | succ rounds ih =>
      unfold fillLoop
      split
      · exact Triple.ret stable_invariant (fun _ invariant => ⟨rfl, invariant⟩)
      · next nonempty =>
          rcases bufferPoolRemove_isSome (Bool.eq_false_iff.mpr nonempty) with
            ⟨bufferId, pool', removed⟩
          refine Triple.read32 (fun status usbdev =>
            Invariant n away ⟨usbdev, pool, objects⟩ ∧ RoomAsRead status usbdev)
            stable_invariant ?_ ?_
          · intro usbdev invariant
            rw [read32_of_ne usbdev (by decide)]
            exact ⟨invariant, roomAsRead_usbstat invariant.avSetup⟩
          · intro status
            have stable : Stable Hardware (fun usbdev =>
                Invariant n away ⟨usbdev, pool, objects⟩ ∧ RoomAsRead status usbdev) :=
              fun usbdev usbdev' move both =>
                ⟨both.1.hardware move, stable_roomAsRead status _ _ move both.2⟩
            simp only [bind_ret, removed]
            by_cases supplied : 2 <= bitfieldField32Read status usbstatAvSetupDepthField
            · by_cases full : bitfieldBit32Read status usbstatAvOutFullBit = true
              · simp only [supplied, full, decide_true, Bool.and_self, if_true]
                exact Triple.ret stable (fun _ both => ⟨rfl, both.1⟩)
              · simp only [supplied, full, decide_true, Bool.and_false, if_true]
                refine Triple.write32 _ stable (fun usbdev both => ?_) (ih pool')
                have room := both.2.2 (Bool.eq_false_iff.mpr full)
                exact (both.1.remove removed).writeAvOut room
            · simp only [supplied, decide_false, Bool.false_and, if_false]
              refine Triple.write32 _ stable (fun usbdev both => ?_) (ih pool')
              have room := both.2.1 (BitVec.not_le.mp supplied)
              exact (both.1.remove removed).writeAvSetup room

theorem fillAvailableFifos_spec (usbdev bufferPool : Pointer) :
    Triple device Hardware (fun usbdev => Invariant n away ⟨usbdev, pool, objects⟩)
      (difUsbdevFillAvailableFifos usbdev bufferPool pool)
      (fun out usbdev => out.1 ≠ .kDifError ∧ Invariant n away ⟨usbdev, out.2, objects⟩) := by
  unfold difUsbdevFillAvailableFifos
  split
  · exact Triple.ret stable_invariant (fun _ invariant => ⟨nofun, invariant⟩)
  · refine Triple.consequence (fillLoop_spec _ pool) (fun _ invariant => invariant) ?_
    rintro out usbdev ⟨ok, invariant⟩
    exact ⟨by rw [ok]; decide, invariant⟩

/-! ## Receiving -/

/-- The objects after a function has stored a buffer in one of them, or not. -/
def storeObject (objects : Nat -> Buffer) (index : Nat) : Option Buffer -> Nat -> Buffer
  | none => objects
  | some buffer => update objects index buffer

theorem Hardware.rxFifo_ne_nil (move : Hardware controller controller')
    (nonempty : controller.rxFifo ≠ []) :
    controller'.rxFifo ≠ [] := by
  cases move with
  | receiveSetup | receiveOut => exact List.append_ne_nil_of_left_ne_nil nonempty _
  | attempt | acknowledge | link => exact nonempty

/-- Take the buffer at the head of the RX FIFO. -/
theorem Invariant.readRxFifo (invariant : Invariant n away ⟨controller, pool, objects⟩)
    (nonempty : controller.rxFifo ≠ []) :
    Invariant n
      (away + {((bitfieldField32Read (device.read32 rxfifoRegOffset controller).1
        rxfifoBufferField).setWidth 8).toNat})
      ⟨(device.read32 rxfifoRegOffset controller).2, pool, objects⟩ := by
  rcases List.exists_cons_of_ne_nil nonempty with ⟨entry, rest, fifo⟩
  have word : (device.read32 rxfifoRegOffset controller).1 = entry.toWord := by
    change ((controller.rxFifo.head?.map RxEntry.toWord).getD 0) = _
    rw [fifo]
    rfl
  rw [word, rxEntry_buffer]
  refine ⟨?_, invariant.avSetup, invariant.avOut, invariant.bounds, invariant.exclusive⟩
  apply invariant.accounted.take .received (by simp)
  · change ((controller.rxFifo.map _ : List Nat) : Multiset Nat) =
      ((controller.rxFifo.tail.map _ : List Nat) : Multiset Nat) + _
    rw [fifo, List.map_cons, coe_cons_eq]
    rfl
  · intro other apart
    cases other <;> first | exact absurd rfl apart | rfl

theorem recv_spec (usbdev info buffer : Pointer) (inside : index < n)
    (free : (objects index).Owned = false) :
    Triple device Hardware (fun usbdev => Invariant n away ⟨usbdev, pool, objects⟩)
      (difUsbdevRecv usbdev info buffer)
      (fun out usbdev => out.1 ≠ .kDifError ∧
        Invariant n away ⟨usbdev, pool, storeObject objects index (out.2.map Prod.snd)⟩) := by
  unfold difUsbdevRecv
  split
  · exact Triple.ret stable_invariant (fun _ invariant => ⟨nofun, invariant⟩)
  · refine Triple.read32 (fun status usbdev => Invariant n away ⟨usbdev, pool, objects⟩ ∧
      (bitfieldBit32Read status usbstatRxEmptyBit = false -> usbdev.rxFifo ≠ []))
      stable_invariant ?_ ?_
    · intro usbdev invariant
      rw [read32_of_ne usbdev (by decide)]
      refine ⟨invariant, fun notEmpty => ?_⟩
      change bitfieldBit32Read usbdev.usbstat usbstatRxEmptyBit = false at notEmpty
      rw [usbstat_rxEmpty] at notEmpty
      exact List.isEmpty_eq_false_iff.mp notEmpty
    · intro status
      have stable : Stable Hardware (fun usbdev => Invariant n away ⟨usbdev, pool, objects⟩ ∧
          (bitfieldBit32Read status usbstatRxEmptyBit = false -> usbdev.rxFifo ≠ [])) :=
        fun usbdev usbdev' move both =>
          ⟨both.1.hardware move, fun notEmpty => move.rxFifo_ne_nil (both.2 notEmpty)⟩
      simp only [bind_ret]
      split
      · exact Triple.ret stable (fun _ both => ⟨nofun, both.1⟩)
      · next notEmpty =>
          refine Triple.read32 (fun entry usbdev => Invariant n
            (away + {((bitfieldField32Read entry rxfifoBufferField).setWidth 8).toNat})
            ⟨usbdev, pool, objects⟩) stable ?_ ?_
          · exact fun usbdev both => both.1.readRxFifo (both.2 (Bool.eq_false_iff.mpr notEmpty))
          · intro entry
            refine Triple.ret stable_invariant (fun usbdev invariant => ⟨nofun, ?_⟩)
            exact Invariant.putObject invariant inside free rfl

/-! ## Reading and writing packets -/

/-- A request finds the pool empty, or takes a fresh buffer out of it. -/
theorem bufferRequest_cases (invariant : Invariant n away ⟨controller, pool, objects⟩) :
    difUsbdevBufferRequest .object .object .object pool = (.kDifUnavailable, pool, none) ∨
      Exists fun id => Exists fun pool' =>
        difUsbdevBufferRequest .object .object .object pool =
          (.kDifOk, pool', some ⟨id, 0, .ofNat 8 maxPacketSize, .kDifUsbdevBufferTypeWrite⟩) ∧
        Invariant n (away + {id.toNat}) ⟨controller, pool', objects⟩ := by
  by_cases empty : bufferPoolIsEmpty pool = true
  · exact Or.inl (by simp [difUsbdevBufferRequest, empty])
  · rcases bufferPoolRemove_isSome (Bool.eq_false_iff.mpr empty) with ⟨id, pool', removed⟩
    exact Or.inr ⟨id, pool', by simp [difUsbdevBufferRequest, empty, removed],
      invariant.remove removed⟩

theorem bufferRequest_spec (usbdev bufferPool buffer : Pointer) (inside : index < n)
    (free : (objects index).Owned = false)
    (invariant : Invariant n away ⟨controller, pool, objects⟩) :
    (difUsbdevBufferRequest usbdev bufferPool buffer pool).1 ≠ .kDifError ∧
      Invariant n away ⟨controller, (difUsbdevBufferRequest usbdev bufferPool buffer pool).2.1,
        storeObject objects index (difUsbdevBufferRequest usbdev bufferPool buffer pool).2.2⟩ := by
  by_cases null : usbdev = .null ∨ bufferPool = .null ∨ buffer = .null
  · simp only [difUsbdevBufferRequest, if_pos null]
    exact ⟨nofun, invariant⟩
  · have given : difUsbdevBufferRequest usbdev bufferPool buffer pool =
        difUsbdevBufferRequest .object .object .object pool := by
      simp only [difUsbdevBufferRequest, if_neg null]
      rfl
    rw [given]
    rcases bufferRequest_cases invariant with unavailable | ⟨id, pool', taken, invariant'⟩
    · rw [unavailable]
      exact ⟨nofun, invariant⟩
    · rw [taken]
      exact ⟨nofun, Invariant.putObject invariant' inside free rfl⟩

/-- Return the buffer of an object that owns it to the pool. -/
theorem Invariant.returnObject (invariant : Invariant n away ⟨controller, pool, objects⟩)
    (buffer : Buffer) (inside : index < n) (owned : (objects index).Owned = true)
    (stale : buffer.Owned = false) :
    Exists fun pool' => bufferPoolAdd pool (objects index).id = some pool' ∧
      Invariant n away ⟨controller, pool', update objects index buffer⟩ := by
  have taken := invariant.takeObject buffer inside owned stale
  rcases taken.addable with ⟨pool', added⟩
  exact ⟨pool', added, taken.add added⟩

theorem bufferReturn_spec (usbdev bufferPool buffer : Pointer) (inside : index < n)
    (invariant : Invariant n away ⟨controller, pool, objects⟩) :
    (difUsbdevBufferReturn usbdev bufferPool buffer pool (objects index)).1 ≠ .kDifError ∧
      Invariant n away ⟨controller,
        (difUsbdevBufferReturn usbdev bufferPool buffer pool (objects index)).2.1,
        update objects index
          (difUsbdevBufferReturn usbdev bufferPool buffer pool (objects index)).2.2⟩ := by
  have same : Invariant n away
      ⟨controller, pool, update objects index (objects index)⟩ :=
    Invariant.keepObject invariant rfl rfl
  unfold difUsbdevBufferReturn
  split
  · exact ⟨nofun, same⟩
  · have returned (owned : (objects index).Owned = true) := invariant.returnObject
      { objects index with type := .kDifUsbdevBufferTypeStale } inside owned rfl
    cases type : (objects index).type with
    | kDifUsbdevBufferTypeRead | kDifUsbdevBufferTypeWrite =>
        rcases returned (by simp [Buffer.Owned, type]) with ⟨pool', added, invariant'⟩
        simp only [added]
        exact ⟨nofun, invariant'⟩
    | kDifUsbdevBufferTypeStale => exact ⟨nofun, same⟩

theorem getBufferAddr_above (id offset : BitVec 8) : bufferRegOffset <= getBufferAddr id offset := by
  unfold getBufferAddr
  rw [Nat.add_assoc]
  exact Nat.le_add_right _ _

theorem bufferRead_spec (usbdev bufferPool buffer dst : Pointer) (dstLen : BitVec 32)
    (inside : index < n) :
    Triple device Hardware (fun usbdev => Invariant n away ⟨usbdev, pool, objects⟩)
      (difUsbdevBufferRead usbdev bufferPool buffer dst pool (objects index) dstLen)
      (fun out usbdev => out.1 ≠ .kDifError ∧
        Invariant n away ⟨usbdev, out.2.1, update objects index out.2.2.1⟩) := by
  unfold difUsbdevBufferRead
  split
  · exact Triple.ret stable_invariant
      (fun _ invariant => ⟨nofun, Invariant.keepObject invariant rfl rfl⟩)
  · next accepted =>
      have type : (objects index).type = .kDifUsbdevBufferTypeRead := by
        by_contra other
        exact accepted (by simp [other])
      have owned : (objects index).Owned = true := by simp [Buffer.Owned, type]
      refine Triple.bind (Triple.invariant stable_invariant (fun access usbdev => invariant_memory)
        (within_memcpyFromMmio32 (by decide) (getBufferAddr_above _ _) _)) (fun bytes => ?_)
      dsimp only
      split
      · refine Triple.ret stable_invariant (fun usbdev invariant => ⟨nofun, ?_⟩)
        exact Invariant.keepObject invariant rfl rfl
      · cases added : bufferPoolAdd pool (objects index).id with
        | none =>
            intro usbdev usbdev' out invariant _
            rcases (Invariant.takeObject invariant
              ⟨0, 0, 0, .kDifUsbdevBufferTypeStale⟩ inside owned rfl).addable with ⟨pool', isSome⟩
            rw [added] at isSome
            cases isSome
        | some pool' =>
            refine Triple.ret stable_invariant (fun usbdev invariant => ⟨nofun, ?_⟩)
            exact (Invariant.takeObject invariant _ inside owned rfl).add added

/-- The buffer after `bytes` have been written to it. -/
def Buffer.written (buf : Buffer) (bytes : List (BitVec 8)) : Buffer :=
  { buf with
    offset := buf.offset + .ofNat 8 bytes.length
    remainingBytes := buf.remainingBytes - .ofNat 8 bytes.length }

/-- Bytes that fit are written, and nothing but packet memory changes. -/
theorem bufferWrite_fits {buf : Buffer} {bytes : List (BitVec 8)}
    (type : buf.type = .kDifUsbdevBufferTypeWrite)
    (fits : bytes.length <= buf.remainingBytes.toNat) :
    Triple device Hardware (fun usbdev => Invariant n inHand ⟨usbdev, pool, objects⟩)
      (difUsbdevBufferWrite .object .object .object buf bytes)
      (fun out usbdev => out = (.kDifOk, buf.written bytes, bytes.length) ∧
        Invariant n inHand ⟨usbdev, pool, objects⟩) := by
  unfold difUsbdevBufferWrite
  rw [if_neg (by simp [type])]
  refine Triple.bind (Triple.invariant stable_invariant (fun access usbdev => invariant_memory)
    (within_memcpyToMmio32 (by decide) (getBufferAddr_above _ _) _)) (fun _ => ?_)
  dsimp only
  rw [Nat.min_eq_right fits, if_neg (by omega)]
  exact Triple.ret stable_invariant (fun usbdev invariant => ⟨rfl, invariant⟩)

theorem bufferWrite_spec (usbdev buffer src : Pointer) (bytes : List (BitVec 8)) (index : Nat) :
    Triple device Hardware (fun usbdev => Invariant n away ⟨usbdev, pool, objects⟩)
      (difUsbdevBufferWrite usbdev buffer src (objects index) bytes)
      (fun out usbdev =>
        Invariant n away ⟨usbdev, pool, update objects index out.2.1⟩) := by
  unfold difUsbdevBufferWrite
  split
  · exact Triple.ret stable_invariant (fun _ invariant => Invariant.keepObject invariant rfl rfl)
  · refine Triple.bind (Triple.invariant stable_invariant (fun access usbdev => invariant_memory)
      (within_memcpyToMmio32 (by decide) (getBufferAddr_above _ _) _)) (fun _ => ?_)
    dsimp only
    split <;> exact Triple.ret stable_invariant
      (fun usbdev invariant => Invariant.keepObject invariant rfl rfl)

/-! ## Sending and clearing -/

/-- Write to the CONFIGIN register of an endpoint without a pending packet
anything that does not make one ready. -/
theorem Invariant.configure (invariant : Invariant n inHand ⟨controller, pool, objects⟩)
    (idle : controller.Pending endpoint = false) (notReady : configIn.rdy = false) :
    Invariant n inHand ⟨{ controller with
      configIn := update controller.configIn endpoint configIn }, pool, objects⟩ := by
  have unsent : controller.inSent endpoint = false := (Bool.or_eq_false_iff.mp idle).2
  refine ⟨invariant.accounted.congr ?_, invariant.avSetup, invariant.avOut, invariant.bounds, ?_⟩
  · intro place _
    cases place with
    | configIn other =>
        by_cases same : other = endpoint
        · subst same
          simp only [System.held, idle]
          simp [Controller.Pending, notReady, unsent]
        · have config := update_of_ne same configIn controller.configIn
          exact held_configIn_congr (by simp only [config]) (by simp only [Controller.Pending, config])
    | pool | availableSetup | availableOut | received | object => rfl
  · intro other
    by_cases same : other = endpoint
    · subst same
      simp [notReady]
    · simpa only [update_of_ne same] using invariant.exclusive other

/-- Make the buffer in hand ready to be sent. -/
theorem Invariant.ready
    (invariant : Invariant n (away + {configIn.buffer.toNat}) ⟨controller, pool, objects⟩)
    (inside : endpoint < 12) (idle : controller.Pending endpoint = false)
    (isReady : configIn.rdy = true) :
    Invariant n away ⟨{ controller with
      configIn := update controller.configIn endpoint configIn }, pool, objects⟩ := by
  have unsent : controller.inSent endpoint = false := (Bool.or_eq_false_iff.mp idle).2
  refine ⟨?_, invariant.avSetup, invariant.avOut, invariant.bounds, ?_⟩
  · apply invariant.accounted.put (.configIn endpoint) (by simpa)
    · simp only [System.held, idle]
      simp [Controller.Pending, isReady]
    · intro other apart
      cases other with
      | configIn other =>
          have different : other ≠ endpoint := fun same => apart (congrArg Place.configIn same)
          have config := update_of_ne different configIn controller.configIn
          exact held_configIn_congr (by simp only [config]) (by simp only [Controller.Pending, config])
      | pool | availableSetup | availableOut | received | object => rfl
  · intro other
    by_cases same : other = endpoint
    · subst same
      exact fun _ => unsent
    · simpa only [update_of_ne same] using invariant.exclusive other

theorem stable_idle (endpoint : Nat) :
    Stable Hardware (fun usbdev => usbdev.Pending endpoint = false) := by
  intro usbdev usbdev' move idle
  rcases Bool.or_eq_false_iff.mp idle with ⟨notReady, unsent⟩
  cases move with
  | receiveSetup | receiveOut | link => exact idle
  | attempt other inside ready | acknowledge other inside ready =>
      have different : endpoint ≠ other := by
        rintro rfl
        rw [notReady] at ready
        cases ready
      simp only [Controller.Pending, update_of_ne different]
      exact idle

/-- The first value `dif_usbdev_send` writes. -/
def sendConfig (id offset : BitVec 8) : BitVec 32 :=
  bitfieldField32Write (bitfieldField32Write 0 configinBufferField (id.setWidth 32))
    configinSizeField (offset.setWidth 32)

theorem sendConfig_rdy (configIn : ConfigIn) (id offset : BitVec 8) :
    (configIn.write (sendConfig id offset)).rdy = false := by
  change bitfieldBit32Read (sendConfig id offset) configinRdyBit = false
  unfold sendConfig bitfieldBit32Read
  rw [bitfieldField32Read_write_other (by decide), bitfieldField32Read_write_other (by decide)]
  decide

theorem sendReady_rdy (configIn : ConfigIn) (id offset : BitVec 8) :
    (configIn.write (bitfieldBit32Write (sendConfig id offset) configinRdyBit true)).rdy = true :=
  bitfieldBit32Read_write_same (by decide) _ _

theorem sendReady_buffer (configIn : ConfigIn) {id : BitVec 8} (offset : BitVec 8)
    (valid : id.toNat < 32) :
    (configIn.write (bitfieldBit32Write (sendConfig id offset) configinRdyBit
      true)).buffer.toNat = id.toNat := by
  change ((bitfieldField32Read (bitfieldBit32Write (sendConfig id offset) configinRdyBit true)
    configinBufferField).setWidth 5).toNat = _
  unfold sendConfig bitfieldBit32Write
  rw [bitfieldField32Read_write_other (by decide), bitfieldField32Read_write_other (by decide),
    available_buffer rfl valid]

/-- Send a buffer in hand. -/
theorem send_inHand {usbdev buffer : Pointer} {endpoint : BitVec 8} {buf : Buffer}
    (accepted : ¬ (usbdev = .null ∨ !isValidEndpoint endpoint ∨ buffer = .null ∨
      buf.type ≠ .kDifUsbdevBufferTypeWrite)) :
    Triple device Hardware
      (fun usbdev => Invariant n (away + {buf.id.toNat}) ⟨usbdev, pool, objects⟩ ∧
        usbdev.Pending endpoint.toNat = false)
      (difUsbdevSend usbdev endpoint buffer buf)
      (fun out usbdev => out = (.kDifOk, { buf with type := .kDifUsbdevBufferTypeStale }) ∧
        Invariant n away ⟨usbdev, pool, objects⟩) := by
  have below : endpoint.toNat < 12 :=
    below_of_accepted accepted (fun invalid => .inr (.inl invalid))
  have stable : Stable Hardware (fun usbdev =>
      Invariant n (away + {buf.id.toNat}) ⟨usbdev, pool, objects⟩ ∧
        usbdev.Pending endpoint.toNat = false) := fun usbdev usbdev' move both =>
    ⟨both.1.hardware move, stable_idle _ _ _ move both.2⟩
  unfold difUsbdevSend
  rw [if_neg accepted]
  refine Triple.write32 (fun usbdev =>
    Invariant n (away + {buf.id.toNat}) ⟨usbdev, pool, objects⟩ ∧
      usbdev.Pending endpoint.toNat = false) stable ?_
    (Triple.write32 (fun usbdev => Invariant n away ⟨usbdev, pool, objects⟩) stable ?_
      (Triple.ret stable_invariant (fun _ invariant => ⟨rfl, invariant⟩)))
  · rintro usbdev ⟨invariant, idle⟩
    have unsent : usbdev.inSent endpoint.toNat = false := (Bool.or_eq_false_iff.mp idle).2
    have notReady := sendConfig_rdy (usbdev.configIn endpoint.toNat) buf.id buf.offset
    simp only [device, configInRegOffset, writeWord_configIn usbdev _ below]
    refine ⟨invariant.configure idle notReady, ?_⟩
    simp only [Controller.Pending, update_self, unsent, Bool.or_false]
    exact notReady
  · rintro usbdev ⟨invariant, idle⟩
    simp only [device, configInRegOffset, writeWord_configIn usbdev _ below]
    refine Invariant.ready ?_ below idle (sendReady_rdy _ _ _)
    have same := sendReady_buffer (usbdev.configIn endpoint.toNat) buf.offset invariant.valid
    unfold sendConfig at same
    rw [same]
    exact invariant

theorem send_spec (usbdev : Pointer) (endpoint : BitVec 8) (buffer : Pointer) (inside : index < n) :
    Triple device Hardware (fun usbdev => Invariant n away ⟨usbdev, pool, objects⟩ ∧
        (isValidEndpoint endpoint = true -> usbdev.Pending endpoint.toNat = false))
      (difUsbdevSend usbdev endpoint buffer (objects index))
      (fun out usbdev => out.1 ≠ .kDifError ∧
        Invariant n away ⟨usbdev, pool, update objects index out.2⟩) := by
  by_cases accepted : ¬ (usbdev = .null ∨ !isValidEndpoint endpoint ∨ buffer = .null ∨
      (objects index).type ≠ .kDifUsbdevBufferTypeWrite)
  · have valid : isValidEndpoint endpoint = true := by
      by_contra other
      exact accepted (by simp [other])
    have type : (objects index).type = .kDifUsbdevBufferTypeWrite := by
      by_contra other
      exact accepted (by simp [other])
    have owned : (objects index).Owned = true := by simp [Buffer.Owned, type]
    let sent : Buffer := { objects index with type := .kDifUsbdevBufferTypeStale }
    refine Triple.consequence (send_inHand accepted)
      (fun usbdev both => ⟨Invariant.takeObject both.1 sent inside owned rfl, both.2 valid⟩) ?_
    rintro out usbdev ⟨returned, invariant⟩
    subst returned
    exact ⟨nofun, invariant⟩
  · unfold difUsbdevSend
    rw [if_pos (not_not.mp accepted)]
    exact Triple.consequence (Triple.ret stable_invariant
        (fun _ invariant => ⟨nofun, Invariant.keepObject invariant rfl rfl⟩))
      (fun _ both => both.1) (fun _ _ done => done)

/-- The controller with the sent bit of an endpoint cleared. -/
def Controller.clearSent (usbdev : Controller) (endpoint : Nat) : Controller :=
  { usbdev with inSent := update usbdev.inSent endpoint false }

/-- Clearing the sent bit of an endpoint that has nothing ready commutes with
what the controller does. -/
theorem Hardware.clearSent (move : Hardware controller controller')
    (notReady : (controller.configIn endpoint).rdy = false) :
    Hardware (controller.clearSent endpoint) (controller'.clearSent endpoint) ∧
      (controller'.configIn endpoint).rdy = false := by
  cases move with
  | receiveSetup ep size packet available room =>
      exact ⟨.receiveSetup ep size packet available room, notReady⟩
  | receiveOut ep size packet available room =>
      exact ⟨.receiveOut ep size packet available room, notReady⟩
  | attempt other inside ready =>
      refine ⟨.attempt other inside ready, ?_⟩
      have different : endpoint ≠ other := by
        rintro rfl
        rw [notReady] at ready
        cases ready
      simpa only [update_of_ne different] using notReady
  | acknowledge other inside ready =>
      have different : endpoint ≠ other := by
        rintro rfl
        rw [notReady] at ready
        cases ready
      refine ⟨?_, by simpa only [update_of_ne different] using notReady⟩
      have acknowledged : Hardware (controller.clearSent endpoint) _ :=
        .acknowledge other inside ready
      simp only [Controller.clearSent] at acknowledged ⊢
      rw [update_comm (Ne.symm different)]
      exact acknowledged
  | link link => exact ⟨.link link, notReady⟩

/-- The controller never changes which buffer a CONFIGIN register names. -/
theorem Hardware.configIn_buffer (move : Hardware controller controller') (endpoint : Nat) :
    (controller'.configIn endpoint).buffer = (controller.configIn endpoint).buffer := by
  cases move with
  | receiveSetup | receiveOut | link => rfl
  | attempt other | acknowledge other =>
      by_cases same : endpoint = other
      · subst same
        simp only [update_self]
      · simp only [update_of_ne same]

theorem Hardware.inSent (move : Hardware controller controller')
    (sent : controller.inSent endpoint = true) : controller'.inSent endpoint = true := by
  cases move with
  | receiveSetup | receiveOut | link | attempt => exact sent
  | acknowledge other =>
      by_cases same : endpoint = other
      · subst same
        exact update_self _ _ _
      · simpa only [update_of_ne same] using sent

/-- The first write of clearing takes the buffer out of the CONFIGIN register,
which would show once the sent bit is cleared. -/
theorem Invariant.clearConfigIn (invariant : Invariant n away ⟨controller, pool, objects⟩)
    (inside : endpoint < 12) (sent : controller.inSent endpoint = true)
    (notReady : configIn.rdy = false) :
    Invariant n (away + {(controller.configIn endpoint).buffer.toNat})
      ⟨Controller.clearSent { controller with
        configIn := update controller.configIn endpoint configIn } endpoint,
        pool, objects⟩ := by
  refine ⟨?_, invariant.avSetup, invariant.avOut, invariant.bounds, ?_⟩
  · apply invariant.accounted.take (.configIn endpoint) (by simpa)
    · simp [System.held, Controller.Pending, Controller.clearSent, sent, notReady]
    · intro other apart
      cases other with
      | configIn other =>
          have different : other ≠ endpoint := fun same => apart (congrArg Place.configIn same)
          have config := update_of_ne different configIn controller.configIn
          have sent' := update_of_ne different false controller.inSent
          exact held_configIn_congr (by simp only [Controller.clearSent, config])
            (by simp only [Controller.Pending, Controller.clearSent, config, sent'])
      | pool | availableSetup | availableOut | received | object => rfl
  · intro other
    by_cases same : other = endpoint
    · subst same
      exact fun _ => update_self _ _ _
    · simpa only [Controller.clearSent, update_of_ne same] using invariant.exclusive other

theorem writeWord_clearSent (inside : endpoint < 12) :
    controller.writeWord inSentRegOffset (1#32 <<< endpoint) = controller.clearSent endpoint := by
  rw [writeWord_inSent, Controller.clearSent]
  congr 1
  funext other
  rw [bitfieldBit32Read_one_shiftLeft (by omega)]
  by_cases same : other = endpoint
  · simp [same]
  · simp [same]

/-- Clear the packet that has been sent, which puts its buffer back into the pool. -/
theorem clearTxStatus_sent {usbdev bufferPool : Pointer} {endpoint : BitVec 8}
    (accepted : ¬ (usbdev = .null ∨ bufferPool = .null ∨ !isValidEndpoint endpoint)) :
    Triple device Hardware (fun usbdev => Invariant n away ⟨usbdev, pool, objects⟩ ∧
        usbdev.inSent endpoint.toNat = true)
      (difUsbdevClearTxStatus usbdev bufferPool pool endpoint)
      (fun out usbdev => out.1 = .kDifOk ∧ Invariant n away ⟨usbdev, out.2, objects⟩) := by
  have below : endpoint.toNat < 12 :=
    below_of_accepted accepted (fun invalid => .inr (.inr invalid))
  let Sent (usbdev : Controller) : Prop :=
    Invariant n away ⟨usbdev, pool, objects⟩ ∧ usbdev.inSent endpoint.toNat = true
  have stable : Stable Hardware Sent := fun usbdev usbdev' move both =>
    ⟨both.1.hardware move, move.inSent both.2⟩
  unfold difUsbdevClearTxStatus
  rw [if_neg accepted]
  refine Triple.read32 (fun word usbdev => Sent usbdev ∧
    ((bitfieldField32Read word configinBufferField).setWidth 8).toNat =
      (usbdev.configIn endpoint.toNat).buffer.toNat) stable ?_ ?_
  · intro usbdev sent
    have apart : configInRegOffset endpoint ≠ rxfifoRegOffset := by
      change 0x44 + 4 * endpoint.toNat ≠ 0x28
      omega
    rw [read32_of_ne usbdev apart, configInRegOffset, readWord_configIn usbdev below]
    exact ⟨sent, configIn_buffer _⟩
  · intro word
    simp only [bind_ret]
    generalize (bitfieldField32Read word configinBufferField).setWidth 8 = buffer
    refine Triple.write32 (fun usbdev =>
      Invariant n (away + {buffer.toNat}) ⟨usbdev.clearSent endpoint.toNat, pool, objects⟩ ∧
        (usbdev.configIn endpoint.toNat).rdy = false) ?_ ?_ ?_
    · rintro usbdev usbdev' move ⟨sent, same⟩
      exact ⟨stable _ _ move sent, by rw [same, move.configIn_buffer]⟩
    · rintro usbdev ⟨⟨invariant, sent⟩, same⟩
      simp only [device, configInRegOffset, writeWord_configIn usbdev _ below]
      rw [same]
      refine ⟨invariant.clearConfigIn below sent rfl, ?_⟩
      rw [update_self]
      rfl
    · refine Triple.write32 (fun usbdev =>
        Invariant n (away + {buffer.toNat}) ⟨usbdev, pool, objects⟩) ?_ ?_ ?_
      · rintro usbdev usbdev' move ⟨invariant, notReady⟩
        rcases move.clearSent notReady with ⟨cleared, notReady'⟩
        exact ⟨invariant.hardware cleared, notReady'⟩
      · rintro usbdev ⟨invariant, _⟩
        change Invariant n _ ⟨usbdev.writeWord inSentRegOffset _, pool, objects⟩
        rw [writeWord_clearSent below]
        exact invariant
      · cases added : bufferPoolAdd pool buffer with
        | none =>
            intro usbdev usbdev' out invariant _
            rcases Invariant.addable invariant with ⟨pool', isSome⟩
            rw [added] at isSome
            cases isSome
        | some pool' =>
            exact Triple.ret stable_invariant
              (fun usbdev invariant => ⟨rfl, Invariant.add invariant added⟩)

theorem clearTxStatus_spec (usbdev bufferPool : Pointer) (endpoint : BitVec 8) :
    Triple device Hardware (fun usbdev => Invariant n away ⟨usbdev, pool, objects⟩ ∧
        (isValidEndpoint endpoint = true -> usbdev.inSent endpoint.toNat = true))
      (difUsbdevClearTxStatus usbdev bufferPool pool endpoint)
      (fun out usbdev => out.1 ≠ .kDifError ∧ Invariant n away ⟨usbdev, out.2, objects⟩) := by
  by_cases accepted : ¬ (usbdev = .null ∨ bufferPool = .null ∨ !isValidEndpoint endpoint)
  · have valid : isValidEndpoint endpoint = true := by
      by_contra other
      exact accepted (by simp [other])
    refine Triple.consequence (clearTxStatus_sent accepted)
      (fun usbdev both => ⟨both.1, both.2 valid⟩) ?_
    rintro out usbdev ⟨ok, invariant⟩
    exact ⟨by rw [ok]; decide, invariant⟩
  · unfold difUsbdevClearTxStatus
    rw [if_pos (not_not.mp accepted)]
    exact Triple.consequence (Triple.ret stable_invariant (fun _ invariant => ⟨nofun, invariant⟩))
      (fun _ both => both.1) (fun _ _ done => done)

/-! ## Configuring -/

/-- With all buffers in the pool, nothing is held anywhere else. -/
def Fresh (n : Nat) (objects : Nat -> Buffer) (usbdev : Controller) : Prop :=
  forall pool : BufferPool, pool.InBounds -> pool.stack = (List.range 32).map (BitVec.ofNat 8) ->
    Invariant n 0 ⟨usbdev, pool, objects⟩

theorem fresh_reset (free : forall index, (objects index).Owned = false) :
    Fresh n objects .reset := by
  intro pool bounds stack
  refine ⟨?_, Nat.zero_le _, Nat.zero_le _, bounds, fun _ _ => rfl⟩
  unfold Accounted
  rw [add_zero, Finset.sum_eq_single Place.pool]
  · change ((pool.stack.map BitVec.toNat : List Nat) : Multiset Nat) = _
    rw [stack]
    rfl
  · intro place _ apart
    cases place with
    | pool => exact absurd rfl apart
    | object index => simp only [System.held, free]; rfl
    | availableSetup | availableOut | received | configIn => rfl
  · intro outside
    exact absurd (mem_places_pool n) outside

theorem stable_fresh : Stable Hardware (Fresh n objects) :=
  fun _ _ move fresh pool bounds stack => (fresh pool bounds stack).hardware move

theorem configure_spec (usbdev bufferPool : Pointer) (config : Config) (pool : BufferPool) :
    Triple device Hardware (Fresh n objects) (difUsbdevConfigure usbdev bufferPool pool config)
      (fun out usbdev => out.1 = .kDifOk -> Invariant n 0 ⟨usbdev, out.2, objects⟩) := by
  rcases bufferPoolInit_stack pool with ⟨initialised, bounds, stack⟩
  unfold difUsbdevConfigure
  split
  · exact Triple.ret stable_fresh (fun _ _ => nofun)
  · simp only [initialised, Bool.not_true, if_neg Bool.false_ne_true]
    split
    · exact Triple.ret stable_fresh (fun _ _ => nofun)
    · refine Triple.write32 (Fresh n objects) stable_fresh ?_
        (Triple.ret stable_fresh (fun usbdev fresh _ => fresh _ bounds stack))
      intro usbdev fresh pool bounds stack
      have kept := fresh pool bounds stack
      exact ⟨kept.accounted, kept.avSetup, kept.avOut, kept.bounds, kept.exclusive⟩

end

/-! ## Every run -/

/-- A call of one of the driver's functions.  The number before the last
arguments is that of the caller's buffer object. -/
inductive Call where
  | fillAvailableFifos (usbdev bufferPool : Pointer)
  | recv (usbdev info buffer : Pointer) (object : Nat)
  | bufferRequest (usbdev bufferPool buffer : Pointer) (object : Nat)
  | bufferRead (usbdev bufferPool buffer dst : Pointer) (object : Nat) (dstLen : BitVec 32)
  | bufferWrite (usbdev buffer src : Pointer) (object : Nat) (bytes : List (BitVec 8))
  | bufferReturn (usbdev bufferPool buffer : Pointer) (object : Nat)
  | send (usbdev : Pointer) (endpoint : BitVec 8) (buffer : Pointer) (object : Nat)
  | clearTxStatus (usbdev bufferPool : Pointer) (endpoint : BitVec 8)
  deriving DecidableEq

/-- The result of a call, with the pool and the objects as it leaves them. -/
def Call.perform (call : Call) (pool : BufferPool) (objects : Nat -> Buffer) :
    Mmio (DifResult × BufferPool × (Nat -> Buffer)) := do
  match call with
  | .fillAvailableFifos usbdev bufferPool =>
      let out <- difUsbdevFillAvailableFifos usbdev bufferPool pool
      return (out.1, out.2, objects)
  | .recv usbdev info buffer object =>
      let out <- difUsbdevRecv usbdev info buffer
      return (out.1, pool, storeObject objects object (out.2.map Prod.snd))
  | .bufferRequest usbdev bufferPool buffer object =>
      let out := difUsbdevBufferRequest usbdev bufferPool buffer pool
      return (out.1, out.2.1, storeObject objects object out.2.2)
  | .bufferRead usbdev bufferPool buffer dst object dstLen =>
      let out <- difUsbdevBufferRead usbdev bufferPool buffer dst pool (objects object) dstLen
      return (out.1, out.2.1, update objects object out.2.2.1)
  | .bufferWrite usbdev buffer src object bytes =>
      let out <- difUsbdevBufferWrite usbdev buffer src (objects object) bytes
      return (out.1, pool, update objects object out.2.1)
  | .bufferReturn usbdev bufferPool buffer object =>
      let out := difUsbdevBufferReturn usbdev bufferPool buffer pool (objects object)
      return (out.1, out.2.1, update objects object out.2.2)
  | .send usbdev endpoint buffer object =>
      let out <- difUsbdevSend usbdev endpoint buffer (objects object)
      return (out.1, pool, update objects object out.2)
  | .clearTxStatus usbdev bufferPool endpoint =>
      let out <- difUsbdevClearTxStatus usbdev bufferPool pool endpoint
      return (out.1, out.2, objects)

/-- What the caller has to see to: that a buffer is received or requested into
an object that owns none, that a packet is sent to an endpoint that has none
pending, and that an endpoint is cleared after its packet has been sent. -/
def Call.Allowed (call : Call) (n : Nat) (system : System) : Prop :=
  match call with
  | .fillAvailableFifos .. => True
  | .recv _ _ _ object | .bufferRequest _ _ _ object =>
      object < n ∧ (system.objects object).Owned = false
  | .bufferRead _ _ _ _ object _ | .bufferWrite _ _ _ object _ | .bufferReturn _ _ _ object =>
      object < n
  | .send _ endpoint _ object => object < n ∧
      (isValidEndpoint endpoint = true -> system.controller.Pending endpoint.toNat = false)
  | .clearTxStatus _ _ endpoint =>
      isValidEndpoint endpoint = true -> system.controller.inSent endpoint.toNat = true

/-- The call reports `kDifError` for a packet that does not fit its buffer. -/
def Call.IsWrite : Call -> Bool
  | .bufferWrite .. => true
  | _ => false

/-- What a call has to establish, whatever the controller does meanwhile. -/
def Call.Kept (n : Nat) (away : Multiset Nat) (call : Call) (usbdev : Controller)
    (result : DifResult × BufferPool × (Nat -> Buffer)) : Prop :=
  (call.IsWrite = false -> result.1 ≠ .kDifError) ∧
    Invariant n away ⟨usbdev, result.2.1, result.2.2⟩

/-- Returning a result that did not fail and left all buffers accounted for. -/
theorem ret_kept {away : Multiset Nat} {call : Call}
    (result : DifResult × BufferPool × (Nat -> Buffer)) :
    Triple device Hardware
      (fun usbdev => result.1 ≠ .kDifError ∧ Invariant n away ⟨usbdev, result.2.1, result.2.2⟩)
      (.ret result) (fun result usbdev => call.Kept n away usbdev result) :=
  Triple.ret (fun _ _ move both => ⟨both.1, both.2.hardware move⟩)
    (fun _ both => ⟨fun _ => both.1, both.2⟩)

/-- One call, whatever the controller does meanwhile. -/
theorem perform_spec {away : Multiset Nat} {objects : Nat -> Buffer} (call : Call) :
    Triple device Hardware
      (fun usbdev => Invariant n away ⟨usbdev, pool, objects⟩ ∧
        call.Allowed n ⟨usbdev, pool, objects⟩)
      (call.perform pool objects) (fun result usbdev => call.Kept n away usbdev result) := by
  intro start finish result both execution
  rcases both with ⟨invariant, allowed⟩
  cases call with
  | fillAvailableFifos usbdev bufferPool =>
      exact Triple.bind (fillAvailableFifos_spec usbdev bufferPool)
        (fun out => ret_kept (out.1, out.2, objects)) start finish result invariant execution
  | recv usbdev info buffer object =>
      exact Triple.bind (recv_spec usbdev info buffer allowed.1 allowed.2)
        (fun out => ret_kept (out.1, pool, storeObject objects object (out.2.map Prod.snd)))
        start finish result invariant execution
  | bufferRequest usbdev bufferPool buffer object =>
      exact ret_kept _ start finish result
        (bufferRequest_spec usbdev bufferPool buffer allowed.1 allowed.2 invariant) execution
  | bufferRead usbdev bufferPool buffer dst object dstLen =>
      exact Triple.bind (bufferRead_spec usbdev bufferPool buffer dst dstLen allowed)
        (fun out => ret_kept (out.1, out.2.1, update objects object out.2.2.1))
        start finish result invariant execution
  | bufferWrite usbdev buffer src object bytes =>
      -- This one may fail, because the bytes do not fit; nothing fails on the pool.
      have kept : Triple device Hardware (fun usbdev => Invariant n away ⟨usbdev, pool, objects⟩)
          ((Call.bufferWrite usbdev buffer src object bytes).perform pool objects)
          (fun result controller =>
            Call.Kept n away (.bufferWrite usbdev buffer src object bytes) controller result) :=
        Triple.bind (bufferWrite_spec usbdev buffer src bytes object) (fun _ =>
          Triple.ret stable_invariant (fun _ invariant => ⟨nofun, invariant⟩))
      exact kept start finish result invariant execution
  | bufferReturn usbdev bufferPool buffer object =>
      exact ret_kept _ start finish result
        (bufferReturn_spec usbdev bufferPool buffer allowed invariant) execution
  | send usbdev endpoint buffer object =>
      exact Triple.bind (send_spec usbdev endpoint buffer allowed.1)
        (fun out => ret_kept (out.1, pool, update objects object out.2))
        start finish result ⟨invariant, allowed.2⟩ execution
  | clearTxStatus usbdev bufferPool endpoint =>
      exact Triple.bind (clearTxStatus_spec usbdev bufferPool endpoint)
        (fun out => ret_kept (out.1, out.2, objects)) start finish result ⟨invariant, allowed⟩
        execution

/-- The states of the runs of a caller with `n` buffer objects: the driver is
configured after reset, and then calls that the caller is allowed to make and
steps of the controller follow in any order. -/
inductive Reachable (n : Nat) : System -> Prop where
  | configure {controller : Controller} {pool pool' : BufferPool} {objects : Nat -> Buffer}
      (usbdev bufferPool : Pointer) (config : Config)
      (free : forall index, (objects index).Owned = false)
      (execution : Exec device Hardware .reset (difUsbdevConfigure usbdev bufferPool pool config)
        controller (.kDifOk, pool')) : Reachable n ⟨controller, pool', objects⟩
  | hardware {controller controller' : Controller} {pool : BufferPool} {objects : Nat -> Buffer}
      (before : Reachable n ⟨controller, pool, objects⟩) (move : Hardware controller controller') :
      Reachable n ⟨controller', pool, objects⟩
  | call {system : System} {controller : Controller}
      {result : DifResult × BufferPool × (Nat -> Buffer)} (before : Reachable n system)
      (call : Call) (allowed : call.Allowed n system)
      (execution : Exec device Hardware system.controller
        (call.perform system.pool system.objects) controller result) :
      Reachable n ⟨controller, result.2.1, result.2.2⟩

theorem Reachable.invariant {system : System} (reachable : Reachable n system) :
    Invariant n 0 system := by
  induction reachable with
  | configure usbdev bufferPool config free execution =>
      exact configure_spec usbdev bufferPool config _ _ _ _ (fresh_reset free) execution rfl
  | hardware before move ih => exact ih.hardware move
  | call before call allowed execution ih =>
      exact (perform_spec call _ _ _ ⟨ih, allowed⟩ execution).2

/-- Every buffer number is at exactly one place, once, and the pool is a stack
of distinct numbers with its top in bounds. -/
structure Conserved (n : Nat) (system : System) : Prop where
  exactlyOne : forall id, id < numBuffers -> Exists fun place =>
    (place ∈ places n ∧ id ∈ system.held place) ∧
      forall other, other ∈ places n ∧ id ∈ system.held other -> other = place
  once : forall place, place ∈ places n -> (system.held place).Nodup
  stack : system.pool.stack.Nodup
  bounds : system.pool.InBounds

theorem Invariant.conserved {system : System} (invariant : Invariant n 0 system) :
    Conserved n system := by
  have once : forall place, place ∈ places n -> (system.held place).Nodup := by
    intro place inside
    have counted := invariant.accounted.nodup (Multiset.nodup_range _) inside
    rwa [add_zero] at counted
  have stack : (system.pool.stack.map BitVec.toNat).Nodup := once .pool (mem_places_pool n)
  exact ⟨fun id valid => invariant.accounted.existsUnique (Multiset.nodup_range _)
    (Multiset.mem_range.mpr valid), once, stack.of_map _, invariant.bounds⟩

/-- In every state of every run all buffers are conserved, and no call the
caller is allowed to make from there fails for the pool's sake. -/
theorem buffers_conserved {n : Nat} {system : System} (reachable : Reachable n system) :
    Conserved n system ∧
      forall (call : Call) (controller : Controller)
        (result : DifResult × BufferPool × (Nat -> Buffer)), call.Allowed n system ->
        Exec device Hardware system.controller (call.perform system.pool system.objects)
          controller result ->
        call.IsWrite = false -> result.1 ≠ .kDifError := by
  have invariant := reachable.invariant
  refine ⟨invariant.conserved, ?_⟩
  intro call controller result allowed execution
  exact (perform_spec call _ _ _ ⟨invariant, allowed⟩ execution).1

/-- A driver that has just been configured. -/
def configuredSystem : System where
  controller := Controller.reset.writeWord phyConfigRegOffset 0x41
  pool := (bufferPoolInit ⟨Vector.replicate 32 0, 0⟩).1
  objects _ := ⟨0, 0, 0, .kDifUsbdevBufferTypeStale⟩

theorem reachable_configuredSystem : Reachable 1 configuredSystem :=
  .configure .object .object ⟨1, 0, 0, 0, 0⟩ (fun _ => rfl) (exec_of_run rfl)

/-- An OUT packet of six bytes is received into a buffer. -/
def receivedOut (usbdev : Controller) (buffer : BitVec 5) (rest : List (BitVec 5)) : Controller :=
  { usbdev with
    avOut := rest
    rxFifo := usbdev.rxFifo ++ [⟨1, false, 6, buffer⟩]
    memory := storePacket usbdev.memory buffer (fun word => if word = 0 then 0x44332211 else 0x6655) }

theorem reachable_receivedOut {usbdev : Controller} {pool : BufferPool} {buffer : BitVec 5}
    {rest : List (BitVec 5)}
    (filled : (Call.perform (.fillAvailableFifos .object .object) configuredSystem.pool
      configuredSystem.objects).run device configuredSystem.controller =
        some ((.kDifOk, pool, configuredSystem.objects), usbdev))
    (available : usbdev.avOut = buffer :: rest) (empty : usbdev.rxFifo = []) :
    Reachable 1 ⟨receivedOut usbdev buffer rest, pool, configuredSystem.objects⟩ := by
  have before : Reachable 1 ⟨usbdev, pool, configuredSystem.objects⟩ :=
    @Reachable.call 1 configuredSystem usbdev (.kDifOk, pool, configuredSystem.objects)
      reachable_configuredSystem (.fillAvailableFifos .object .object) trivial (exec_of_run filled)
  have room : usbdev.rxFifo.length < rxFifoDepth := by
    rw [empty]
    decide
  exact before.hardware (.receiveOut 1 6 _ available room)

set_option maxRecDepth 8000 in
/-- The FIFOs are filled and a packet is received: buffers are in the pool and in three FIFOs. -/
theorem buffers_conserved_received : Exists fun system =>
    Reachable 1 system ∧ system.pool.stack.length = 22 ∧
      (system.controller.avSetup.length, system.controller.avOut.length,
        system.controller.rxFifo.length) = (2, 7, 1) ∧ Conserved 1 system := by
  have ran : Exists fun usbdev => Exists fun pool => Exists fun buffer => Exists fun rest =>
      (Call.perform (.fillAvailableFifos .object .object) configuredSystem.pool
        configuredSystem.objects).run device configuredSystem.controller =
          some ((.kDifOk, pool, configuredSystem.objects), usbdev) ∧
      usbdev.avOut = buffer :: rest ∧ usbdev.rxFifo = [] ∧ pool.stack.length = 22 ∧
      usbdev.avSetup.length = 2 ∧ rest.length = 7 :=
    ⟨_, _, _, _, rfl, rfl, rfl, rfl, rfl, rfl⟩
  rcases ran with ⟨usbdev, pool, buffer, rest, filled, available, empty, left, setups, outs⟩
  have reachable := reachable_receivedOut filled available empty
  refine ⟨_, reachable, left, ?_, (buffers_conserved reachable).1⟩
  change (usbdev.avSetup.length, rest.length, (usbdev.rxFifo ++ [_]).length) = _
  rw [setups, outs, empty]
  rfl

end Usbdev
end SunburstChip
