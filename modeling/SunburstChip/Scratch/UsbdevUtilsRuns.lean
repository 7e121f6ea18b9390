import SunburstChip.Scratch.UsbdevUtilsBuffers

namespace SunburstChip
namespace UsbdevUtils

open Mmio Usbdev OpenTitanUsbdev

/-!
# Runs of the scratch software

What each member function does with the buffers, and from it what any run does:
the object is constructed, and then calls and steps of the controller follow in
any order.  Member functions are put together from ones that take a buffer in
hand and ones that leave one there, so that is what is said of each of them.
-/

/-! ## Member functions and the buffer in hand -/

section

variable {α β : Type} {before away : Multiset Nat} {after : α -> Multiset Nat}

/-- What holds when a member function has returned with the buffers in hand. -/
def Left (after : α -> Multiset Nat) :
    Except Stop α × Utils -> Controller × List (BitVec 5) -> Prop
  | (.ok value, utils) => Unless (Invariant utils.bufAvail (after value))
  | (.error _, _) => fun _ => True

/-- With the buffers of `before` in hand, the member function leaves those of
`after` there, and keeps account of all others. -/
def CarriesFrom (utils : Utils) (before : Multiset Nat) (after : α -> Multiset Nat)
    (member : Member α) : Prop :=
  Triple watched (Unnoticed Bus) (Unless (Invariant utils.bufAvail before)) (member utils)
    (Left after)

/-- The same from any object. -/
def Carries (before : Multiset Nat) (after : α -> Multiset Nat) (member : Member α) : Prop :=
  forall utils, CarriesFrom utils before after member

theorem carries_pure {value : α} (same : after value = before) :
    Carries before after (pure value : Member α) := by
  intro utils
  refine Triple.ret (stable_unless stable_invariant) (fun s holds => ?_)
  change Unless (Invariant utils.bufAvail (after value)) s
  rw [same]
  exact holds

theorem carries_raise (reason : Stop) : Carries before after (Code.raise reason : Member α) :=
  fun _ => Triple.ret (stable_unless stable_invariant) (fun _ _ => trivial)

theorem carriesFrom_bind {utils : Utils} {middle : α -> Multiset Nat} {last : β -> Multiset Nat}
    {first : Member α} {next : α -> Member β} (here : CarriesFrom utils before middle first)
    (rest : forall value, Carries (middle value) last (next value)) :
    CarriesFrom utils before last (first >>= next) := by
  refine Code.triple_bind (fun value utils => Unless (Invariant utils.bufAvail (middle value)))
    (fun _ _ _ => True) ?_ (fun _ _ _ _ _ _ => trivial) (fun _ _ _ _ => trivial) rest
  refine Triple.consequence here (fun _ holds => holds) (fun out s left => ?_)
  rcases out with ⟨reason | value, utils'⟩
  · trivial
  · exact left

theorem carries_bind {middle : α -> Multiset Nat} {last : β -> Multiset Nat} {first : Member α}
    {next : α -> Member β} (here : Carries before middle first)
    (rest : forall value, Carries (middle value) last (next value)) :
    Carries before last (first >>= next) :=
  fun utils => carriesFrom_bind (here utils) rest

theorem carries_ite {condition : Prop} [Decidable condition] {member member' : Member α}
    (pos : Carries before after member) (neg : Carries before after member') :
    Carries before after (if condition then member else member') := by
  split
  · exact pos
  · exact neg

/-- Consulting the object. -/
theorem carries_get {next : Utils -> Member α}
    (rest : forall utils, CarriesFrom utils before after (next utils)) :
    Carries before after (Code.get >>= next) :=
  rest

/-- Replacing an object by one with the same bitmap. -/
theorem carriesFrom_set {utils utils' : Utils} (same : utils'.bufAvail = utils.bufAvail) :
    CarriesFrom utils before (fun _ => before) (Code.set utils') := by
  refine Triple.ret (stable_unless stable_invariant) (fun s holds => ?_)
  change Unless (Invariant utils'.bufAvail before) s
  rw [same]
  exact holds

theorem carries_modify {f : Utils -> Utils}
    (same : forall utils, (f utils).bufAvail = utils.bufAvail) :
    Carries before (fun _ => before) (modify f) :=
  carries_get (fun utils => carriesFrom_set (same utils))

theorem modify_bind (f : Utils -> Utils) (next : Unit -> Member α) (utils : Utils) :
    (modify f >>= next) utils = next () (f utils) := rfl

theorem carries_lift {program : Mmio α}
    (triple : forall bufAvail, Triple watched (Unnoticed Bus) (Unless (Invariant bufAvail before))
      program (fun value => Unless (Invariant bufAvail (after value)))) :
    Carries before after (Code.lift program : Member α) :=
  fun utils => Triple.bind (triple utils.bufAvail) (fun _ =>
    Triple.ret (stable_unless stable_invariant) (fun _ holds => holds))

theorem carries_harmless {program : Mmio α} (within : program.Within Harmless) :
    Carries before (fun _ => before) (Code.lift program : Member α) :=
  carries_lift (fun _ => (keeps_harmless within).unless)

theorem carries_assert (condition : Bool) : Carries before (fun _ => before) (assert condition) :=
  carries_ite (carries_pure rfl) (carries_raise _)

/-! ## Buffers -/

theorem lowestBuffer_spec {bufAvail : BitVec 64} {bufNum : Nat}
    (found : lowestBuffer bufAvail = some bufNum) :
    bufNum < 32 ∧ bufAvail.getLsbD bufNum = true := by
  have inside : bufNum < 32 := List.mem_range.mp (List.mem_of_find?_eq_some found)
  refine ⟨inside, ?_⟩
  have bit : bufAvail >>> bufNum &&& 1#64 ≠ 0 := by
    have masked := List.find?_some found
    rw [decide_eq_true_iff, BitVec.and_comm] at masked
    exact masked
  rw [BitVec.and_one_eq_setWidth_ofBool_getLsbD, BitVec.getLsbD_ushiftRight, Nat.add_zero] at bit
  by_contra clear
  rw [Bool.not_eq_true] at clear
  rw [clear] at bit
  exact bit rfl

/-- Allocating takes a buffer out of the bitmap. -/
theorem carries_bufAlloc :
    Carries 0 (fun out => match out with | none => 0 | some bufNum => {bufNum.toNat}) bufAlloc := by
  refine carries_get (fun utils => ?_)
  split
  · exact Triple.ret (stable_unless stable_invariant) (fun _ holds => holds)
  · next bufNum found =>
      rcases lowestBuffer_spec found with ⟨inside, isSet⟩
      refine Triple.ret (stable_unless stable_invariant) (fun s holds clear => ?_)
      have bits (other : Nat) (below : other < 32) :
          (utils.bufAvail &&& ~~~(1#64 <<< bufNum)).getLsbD other =
            (utils.bufAvail.getLsbD other && decide (other ≠ bufNum)) := by
        have small : other < 64 := by omega
        have small' : bufNum < 64 := by omega
        rw [BitVec.getLsbD_and, BitVec.getLsbD_not, <- BitVec.twoPow_eq, BitVec.getLsbD_twoPow]
        simp [small, small', eq_comm]
      have taken := (holds clear).takeBit inside isSet bits
      rw [zero_add] at taken
      have number : (BitVec.ofNat 8 bufNum).toNat = bufNum := by
        rw [BitVec.toNat_ofNat]
        omega
      change Invariant _ {(BitVec.ofNat 8 bufNum).toNat} s.1
      rw [number]
      exact taken

/-- What is handed over to the controller is accounted for, and so is what is kept. -/
theorem supply_spec (utils : Utils) (bufAvail : BitVec 64) :
    Triple watched (Unnoticed Bus) (Unless (Invariant bufAvail away)) (supply bufAvail utils)
      (Left (fun _ => away)) :=
  Code.triple_lift_bind _ (supplyBuffers_spec bufAvail).unless (fun _ =>
    Triple.ret (stable_unless stable_invariant) (fun _ holds => holds))

theorem carries_supplyBuffers : Carries 0 (fun _ => 0) supplyBuffers :=
  carries_get (fun utils => supply_spec utils utils.bufAvail)

/-- Releasing puts the buffer in hand back. -/
theorem carries_bufRelease (bufNum : BitVec 8) :
    Carries {bufNum.toNat} (fun _ => 0) (bufRelease bufNum) := by
  refine carries_get (fun utils => ?_)
  refine Triple.consequence (supply_spec utils _) (fun s holds clear => ?_) (fun _ _ left => left)
  have hand : Invariant utils.bufAvail (0 + {bufNum.toNat}) s.1 := by
    rw [zero_add]
    exact holds clear
  exact hand.putBit

theorem carries_packetSend (bufNum : BitVec 8) {ep : BitVec 8} (inside : ep.toNat < 12)
    (data : List (BitVec 8)) (size : BitVec 8) :
    Carries {bufNum.toNat} (fun rc => if rc = 0 then 0 else {bufNum.toNat})
      (Code.lift (packetSend bufNum ep data size) : Member Int) := by
  refine carries_lift (fun bufAvail => ?_)
  have sent : Triple watched (Unnoticed Bus) (Unless (Invariant bufAvail (0 + {bufNum.toNat})))
      (packetSend bufNum ep data size) (fun out s => out = 0 ∧ Unless (Invariant bufAvail 0) s) :=
    packetSend_spec inside data size
  rw [zero_add] at sent
  refine Triple.consequence sent (fun _ holds => holds) ?_
  rintro rc s ⟨rfl, holds⟩
  exact holds

theorem carries_sendData {ep : BitVec 8} (inside : ep.toNat < 12) (data : List (BitVec 8))
    (pktLen : BitVec 16) : Carries 0 (fun _ => 0) (sendData ep data pktLen) := by
  refine carries_bind (carries_assert _) (fun _ => carries_bind carries_bufAlloc ?_)
  rintro (_ | bufNum)
  · exact carries_pure rfl
  · refine carries_bind (carries_packetSend bufNum inside data _) (fun rc => ?_)
    by_cases failed : rc ≠ 0
    · rw [if_pos failed, if_neg failed]
      exact carries_bind (carries_bufRelease bufNum) (fun _ => carries_pure rfl)
    · rw [if_neg failed, if_pos (not_not.mp failed)]
      exact carries_pure rfl

/-! ## The default control pipe -/

/-- A reply takes the buffer along. -/
theorem carries_reply (bufNum : BitVec 8) (data : List (BitVec 8)) (size : BitVec 8)
    (next : CtrlState) : Carries {bufNum.toNat} (fun _ => 0) (reply bufNum data size next) := by
  refine carries_bind (carries_packetSend bufNum (by decide) data size) (fun rc => ?_)
  by_cases sent : rc = 0
  · rw [if_pos sent]
    exact carries_bind (carries_assert _) (fun _ => carries_modify (fun _ => rfl))
  · have failed : (rc == 0) = false := beq_eq_false_iff_ne.mpr sent
    rw [failed]
    exact carries_bind (carries_raise _) (fun _ => carries_modify (fun _ => rfl))

/-- The register is one of those that only keep what is written to them. -/
theorem within_assignBit {offset : Nat} (plain : PlainRegister offset) (mask : BitVec 32)
    (value : Bool) : (assignBit offset mask value).Within Harmless := by
  have notFifo : offset ≠ rxfifoRegOffset := by
    rintro rfl
    exact plain.2.2 (by decide)
  exact ⟨notFifo, fun _ => ⟨.inl plain, trivial⟩⟩

theorem within_setEndpointStalling (endpointId : BitVec 8) (stalling : Bool) :
    (setEndpointStalling endpointId stalling).Within Harmless := by
  unfold setEndpointStalling
  rw [within_ite]
  refine ⟨fun _ => trivial, fun _ => ?_⟩
  exact within_bind (within_assignBit (by decide) _ _) (fun _ =>
    within_bind (within_assignBit (by decide) _ _) (fun _ => trivial))

theorem within_setDeviceAddress (address : BitVec 8) :
    (setDeviceAddress address).Within Harmless := by
  have plain : PlainRegister usbctrlRegOffset := by decide
  unfold setDeviceAddress
  rw [within_ite]
  have notFifo : usbctrlRegOffset ≠ rxfifoRegOffset := by decide
  exact ⟨fun _ => trivial, fun _ => ⟨notFifo, fun _ => ⟨.inl plain, trivial⟩⟩⟩

/-- The buffer is still in hand exactly if it is to be released. -/
theorem carries_ep0Decode (bufNum : BitVec 8) (setup : Bool) (data : List (BitVec 8))
    (pktLen : BitVec 16) :
    Carries {bufNum.toNat} (fun release => if release then {bufNum.toNat} else 0)
      (ep0Decode bufNum setup data pktLen) := by
  let hand (release : Bool) : Multiset Nat := if release then {bufNum.toNat} else 0
  have replies (data : List (BitVec 8)) (size : BitVec 8) (next : CtrlState) :
      Carries (hand true) hand (do reply bufNum data size next; pure false : Member Bool) :=
    carries_bind (carries_reply bufNum data size next) (fun _ => carries_pure rfl)
  have addressed (wValue : BitVec 16) : Carries (hand true) hand (do
      modify (fun utils => { utils with devAddr := wValue.setWidth 8 })
      reply bufNum [] 0 .ctrlStatusSetAddr
      pure false : Member Bool) :=
    carries_bind (carries_modify (fun _ => rfl)) (fun _ => replies _ _ _)
  have stalls : Carries (hand true) hand (do
      let rc <- Code.lift (setEndpointStalling 0 true)
      assert (rc == 0)
      pure true : Member Bool) :=
    carries_bind (carries_harmless (within_setEndpointStalling _ _))
      (fun _ => carries_bind (carries_assert _) (fun _ => carries_pure rfl))
  have idle : Carries (hand true) hand
      (do modify (fun utils => { utils with ctrlState := .ctrlSetup }); pure true : Member Bool) :=
    carries_bind (carries_modify (fun _ => rfl)) (fun _ => carries_pure rfl)
  have ignored : Carries (hand true) hand (pure true : Member Bool) := carries_pure rfl
  refine carries_get (fun utils => ?_)
  split
  · split
    · split
      · split
        · exact replies _ _ _ utils
        · split
          · exact replies _ _ _ utils
          · exact stalls utils
      · split
        · exact addressed _ utils
        · split
          · exact replies _ _ _ utils
          · split
            · exact replies _ _ _ utils
            · exact idle utils
    · exact ignored utils
  · exact idle utils
  · exact idle utils
  · exact idle utils

theorem carries_ep0Recv (setup : Bool) (data : List (BitVec 8)) (pktLen : BitVec 16) :
    Carries 0 (fun _ => 0) (ep0Recv setup data pktLen) := by
  refine carries_bind carries_bufAlloc ?_
  rintro (_ | bufNum)
  · exact carries_raise _
  · refine carries_bind (carries_ep0Decode bufNum setup data pktLen) ?_
    rintro (_ | _)
    · exact carries_pure rfl
    · exact carries_bufRelease bufNum

theorem carries_ep0Sent : Carries 0 (fun _ => 0) ep0Sent := by
  refine carries_get (fun utils => ?_)
  split
  · refine carries_bind (carries_harmless (within_setDeviceAddress _)) (fun _ =>
      carries_bind (carries_assert _) (fun _ => carries_modify ?_)) utils
    exact fun _ => rfl
  · refine carries_modify ?_ utils
    exact fun _ => rfl
  · refine carries_modify ?_ utils
    exact fun _ => rfl
  · refine carries_modify ?_ utils
    exact fun _ => rfl

/-! ## Servicing -/

/-- The client only sends to endpoints that there are. -/
def Client.Sound (client : Client) : Prop :=
  (forall ep setup data pktLen send, send ∈ client.recvCallback ep setup data pktLen ->
    send.ep.toNat < maxEndpoints) ∧
  (forall ep send, send ∈ client.txDoneCallback ep -> send.ep.toNat < maxEndpoints)

variable {client : Client}

theorem carries_sendAll (sends : List Send)
    (inside : forall send, send ∈ sends -> send.ep.toNat < 12) :
    Carries 0 (fun _ => 0) (sendAll sends) := by
  induction sends with
  | nil => exact carries_pure rfl
  | cons send rest ih =>
      exact carries_bind (carries_sendData (inside send List.mem_cons_self) _ _)
        (fun _ => ih (fun send member => inside send (List.mem_cons_of_mem _ member)))

theorem carries_serviceSent (sound : client.Sound) (rounds : Nat) :
    Carries 0 (fun _ => 0) (serviceSent client rounds) := by
  induction rounds with
  | zero => exact carries_raise _
  | succ rounds ih =>
      refine carries_bind (carries_lift (fun _ => retrieveCollectedPacket_spec.unless)) ?_
      rintro (_ | ⟨ep, bufNum⟩)
      · exact carries_pure rfl
      · refine carries_bind (carries_bufRelease bufNum) (fun _ => carries_bind ?_ (fun _ => ih))
        exact carries_ite carries_ep0Sent (carries_sendAll _ (sound.2 ep))

theorem carries_serviceReceived (sound : client.Sound) (rounds : Nat) :
    Carries 0 (fun _ => 0) (serviceReceived client rounds) := by
  induction rounds with
  | zero => exact carries_raise _
  | succ rounds ih =>
      refine carries_bind (carries_lift (fun _ => packetReceive_spec.unless)) ?_
      rintro (_ | packet)
      · exact carries_pure rfl
      · refine carries_bind (carries_bufRelease packet.bufferId)
          (fun _ => carries_bind ?_ (fun _ => ih))
        exact carries_ite (carries_ep0Recv _ _ _) (carries_sendAll _ (sound.1 _ _ _ _))

theorem carries_service (sound : client.Sound) (rounds : Nat) :
    Carries 0 (fun _ => 0) (service client rounds) :=
  carries_bind (carries_serviceSent sound rounds) (fun _ =>
    carries_bind carries_supplyBuffers (fun _ => carries_serviceReceived sound rounds))

/-! ## Constructing -/

theorem invariant_reset (dscr : Descriptors) :
    Invariant (Utils.initial dscr).bufAvail 0 .reset := by
  refine ⟨?_, Nat.zero_le _, Nat.zero_le _, fun _ => ⟨nofun, nofun⟩⟩
  unfold Accounted
  rw [add_zero, Finset.sum_eq_single Place.bufAvail]
  · change bitNumbers 32 ((1#64 <<< 32) - 1) = Multiset.range 32
    decide
  · intro place _ apart
    cases place with
    | bufAvail => exact absurd rfl apart
    | availableSetup | availableOut | received | configIn => rfl
  · intro outside
    exact absurd mem_places_bufAvail outside

theorem init_spec : Triple device Bus (Invariant ((1#64 <<< bufferCount) - 1) 0) init
    (fun out => Invariant out.2 0) := by
  refine Triple.bind (supplyBuffers_spec _) (fun bufferBitmap => ?_)
  have plain : PlainRegister phyConfigRegOffset := by decide
  refine Triple.write32 (Invariant bufferBitmap 0) stable_invariant (fun usbdev invariant => ?_)
    (Triple.ret stable_invariant (fun _ invariant => invariant))
  exact invariant_harmless (.write32 _ _) usbdev (.inl plain) invariant

theorem within_configureOutEndpoint (endpointId : BitVec 8) (enabled setup isochronous : Bool) :
    (configureOutEndpoint endpointId enabled setup isochronous).Within Harmless := by
  unfold configureOutEndpoint
  rw [within_ite]
  refine ⟨fun _ => trivial, fun _ => ?_⟩
  exact within_bind (within_assignBit (by decide) _ _) (fun _ =>
    within_bind (within_assignBit (by decide) _ _) (fun _ =>
      within_bind (within_assignBit (by decide) _ _) (fun _ =>
        within_bind (within_assignBit (by decide) _ _) (fun _ => trivial))))

theorem within_configureInEndpoint (endpointId : BitVec 8) (enabled isochronous : Bool) :
    (configureInEndpoint endpointId enabled isochronous).Within Harmless := by
  unfold configureInEndpoint
  rw [within_ite]
  refine ⟨fun _ => trivial, fun _ => ?_⟩
  exact within_bind (within_assignBit (by decide) _ _) (fun _ =>
    within_bind (within_assignBit (by decide) _ _) (fun _ => trivial))

theorem carries_setupOutEndpoint (ep : BitVec 8) (enabled setup iso : Bool) :
    Carries 0 (fun _ => 0) (setupOutEndpoint ep enabled setup iso) :=
  carries_bind (carries_harmless (within_configureOutEndpoint _ _ _ _)) (fun _ => carries_pure rfl)

theorem carries_setupInEndpoint (ep : BitVec 8) (enabled iso : Bool) :
    Carries 0 (fun _ => 0) (setupInEndpoint ep enabled iso) :=
  carries_bind (carries_harmless (within_configureInEndpoint _ _ _)) (fun _ => carries_pure rfl)

theorem construct_spec (dscr : Descriptors) :
    CarriesFrom (Utils.initial dscr) 0 (fun _ => 0) construct := by
  have endpoints : Carries 0 (fun _ => 0) (do
      let ok <- setupOutEndpoint 0 true true false
      let ok <- if ok then setupInEndpoint 0 true false else pure false
      assert ok
      supplyBuffers : Member Unit) := by
    have last (ok : Bool) : Carries 0 (fun _ => 0) (do assert ok; supplyBuffers : Member Unit) :=
      carries_bind (carries_assert ok) (fun _ => carries_supplyBuffers)
    refine carries_bind (carries_setupOutEndpoint _ _ _ _) (fun ok => ?_)
    split
    · exact carries_bind (carries_setupInEndpoint _ _ _) last
    · exact carries_bind (carries_pure rfl) last
  refine Code.triple_lift_bind _ init_spec.unless ?_
  rintro ⟨rc, bufAvail⟩
  dsimp only
  rw [modify_bind]
  exact carries_bind (carries_assert (rc == 0)) (fun _ => endpoints)
    { Utils.initial dscr with bufAvail := bufAvail }

/-! ## Every run -/

/-- The object and the controller, which notes the buffers that are overwritten. -/
structure System where
  controller : Controller
  lost : List (BitVec 5)
  utils : Utils

/-- The states of the runs: the object is constructed after reset, and then
calls of `service` and `send_data` and steps of the controller follow in any
order.  `send_data` is called for endpoints without a packet that the host has
not collected. -/
inductive Reachable (client : Client) : System -> Prop where
  | construct {controller : Controller} {lost : List (BitVec 5)} {utils : Utils}
      (dscr : Descriptors)
      (execution : Exec watched (Unnoticed Bus) (.reset, []) (construct (Utils.initial dscr))
        (controller, lost) (.ok (), utils)) :
      Reachable client ⟨controller, lost, utils⟩
  | hardware {controller controller' : Controller} {lost : List (BitVec 5)} {utils : Utils}
      (before : Reachable client ⟨controller, lost, utils⟩) (move : Bus controller controller') :
      Reachable client ⟨controller', lost, utils⟩
  | service {system : System} {controller : Controller} {lost : List (BitVec 5)} {utils : Utils}
      (before : Reachable client system) (rounds : Nat)
      (execution : Exec watched (Unnoticed Bus) (system.controller, system.lost)
        (service client rounds system.utils) (controller, lost) (.ok (), utils)) :
      Reachable client ⟨controller, lost, utils⟩
  | sendData {system : System} {controller : Controller} {lost : List (BitVec 5)} {utils : Utils}
      (before : Reachable client system) (ep : BitVec 8) (data : List (BitVec 8))
      (pktLen : BitVec 16) (sent : Bool) (inside : ep.toNat < maxEndpoints)
      (collected : (system.controller.configIn ep.toNat).rdy = false)
      (execution : Exec watched (Unnoticed Bus) (system.controller, system.lost)
        (sendData ep data pktLen system.utils) (controller, lost) (.ok sent, utils)) :
      Reachable client ⟨controller, lost, utils⟩

theorem Reachable.invariant {system : System} (sound : client.Sound)
    (reachable : Reachable client system) :
    system.lost = [] -> Invariant system.utils.bufAvail 0 system.controller := by
  induction reachable with
  | construct dscr execution =>
      exact construct_spec dscr _ _ _ (fun _ => invariant_reset dscr) execution
  | hardware before move ih => exact fun clear => (ih clear).bus move
  | @service system controller lost utils before rounds execution ih =>
      exact carries_service sound rounds system.utils (system.controller, system.lost) _ _ ih
        execution
  | @sendData system controller lost utils before ep data pktLen sent inside collected execution
      ih =>
      exact carries_sendData inside data pktLen system.utils (system.controller, system.lost) _ _ ih
        execution

/-- Every buffer number is at exactly one place, once. -/
structure Conserved (system : System) : Prop where
  exactlyOne : forall id, id < bufferCount -> Exists fun place =>
    (place ∈ places ∧ id ∈ held system.utils.bufAvail system.controller place) ∧
      forall other, other ∈ places ∧ id ∈ held system.utils.bufAvail system.controller other ->
        other = place
  once : forall place, place ∈ places ->
    (held system.utils.bufAvail system.controller place).Nodup

/-- As long as no register that has a buffer is given another one, all buffers
are conserved. -/
theorem conserved_unless_overwritten {system : System} (sound : client.Sound)
    (reachable : Reachable client system) (clear : system.lost = []) : Conserved system := by
  have accounted := (reachable.invariant sound clear).accounted
  refine ⟨fun id valid => accounted.existsUnique (Multiset.nodup_range _)
    (Multiset.mem_range.mpr valid), fun place inside => ?_⟩
  have counted := accounted.nodup (Multiset.nodup_range _) inside
  rwa [add_zero] at counted

end

/-! ## A transfer that the host starts anew -/

/-- The system after a member function that nothing disturbs. -/
def System.after (system : System) (member : Member Unit) : System :=
  match (member system.utils).run watched (system.controller, system.lost) with
  | some ((_, utils), controller, lost) => ⟨controller, lost, utils⟩
  | none => system

/-- The member function returns. -/
def System.Returns (system : System) (member : Member Unit) : Bool :=
  match (member system.utils).run watched (system.controller, system.lost) with
  | some ((.ok (), _), _) => true
  | _ => false

theorem System.exec_after {system : System} {member : Member Unit}
    (returns : system.Returns member = true) :
    Exec watched (Unnoticed Bus) (system.controller, system.lost) (member system.utils)
      ((system.after member).controller, (system.after member).lost)
      (.ok (), (system.after member).utils) := by
  unfold System.Returns at returns
  unfold System.after
  split at returns
  · next utils s ran =>
      rw [ran]
      exact exec_of_run ran
  · cases returns

theorem silent_sound : Client.silent.Sound :=
  ⟨fun _ _ _ _ _ member => absurd member List.not_mem_nil,
    fun _ _ member => absurd member List.not_mem_nil⟩

/-- A SETUP packet for endpoint zero arrives. -/
def System.setupArrives (system : System) (packet : Nat -> BitVec 32) : System :=
  match system.controller.avSetup with
  | [] => system
  | buffer :: rest =>
      { system with controller := { system.controller with
          avSetup := rest
          rxFifo := system.controller.rxFifo ++ [⟨0, true, 8, buffer⟩]
          memory := storePacket system.controller.memory buffer packet
          configIn := Function.update system.controller.configIn 0
            (system.controller.configIn 0).afterSetup } }

theorem Reachable.setupArrives {client : Client} {system : System}
    (reachable : Reachable client system) (packet : Nat -> BitVec 32)
    (room : system.controller.rxFifo.length < rxFifoDepth) :
    Reachable client (system.setupArrives packet) := by
  unfold System.setupArrives
  split
  · exact reachable
  · next buffer rest available =>
      exact .hardware reachable (.receiveSetup 0 (by decide) 8 packet available room)

theorem reachable_service {client : Client} {system : System}
    (reachable : Reachable client system) (rounds : Nat)
    (returns : system.Returns (service client rounds) = true) :
    Reachable client (system.after (service client rounds)) :=
  .service reachable rounds (System.exec_after returns)

/-- The device descriptor of the USB device check. -/
def sampleDescriptors : Descriptors where
  devDscr := [0x12, 1, 0, 2, 0, 0, 0, 64, 0xd1, 0x18, 0x3a, 0x50, 0, 1, 0, 0, 0, 1]
  devLen := 18
  cfgDscr := []
  cfgLen := 0
  testDscr := []
  testLen := 0

/-- `GET_DESCRIPTOR` of the device descriptor, 18 bytes. -/
def getDeviceDescriptor : List (BitVec 8) := [0x80, 6, 0, 1, 0, 0, 18, 0]

/-- The packet as it is stored. -/
def getDeviceDescriptorPacket : Nat -> BitVec 32 :=
  fun word => if word = 0 then 0x01000680 else 0x00120000

def unconstructed : System := ⟨.reset, [], Utils.initial sampleDescriptors⟩

def constructed : System := unconstructed.after construct

/-- The device descriptor is waiting for the host. -/
def replied : System :=
  (constructed.setupArrives getDeviceDescriptorPacket).after (service .silent 4)

/-- The host, which has not collected it, has asked for it twice more. -/
def askedAgain : System :=
  (replied.setupArrives getDeviceDescriptorPacket).setupArrives getDeviceDescriptorPacket

def repliedAgain : System := askedAgain.after (service .silent 4)

theorem reachable_constructed : Reachable .silent constructed := by
  have returns : unconstructed.Returns construct = true := by decide +kernel
  exact .construct sampleDescriptors (System.exec_after returns)

theorem reachable_replied : Reachable .silent replied := by
  have room : constructed.controller.rxFifo.length < rxFifoDepth := by decide +kernel
  have asked := reachable_constructed.setupArrives getDeviceDescriptorPacket room
  exact reachable_service asked 4 (by decide +kernel)

theorem reachable_askedAgain : Reachable .silent askedAgain := by
  have room : replied.controller.rxFifo.length < rxFifoDepth := by decide +kernel
  have room' : (replied.setupArrives getDeviceDescriptorPacket).controller.rxFifo.length <
      rxFifoDepth := by decide +kernel
  exact (reachable_replied.setupArrives getDeviceDescriptorPacket room).setupArrives
    getDeviceDescriptorPacket room'

theorem reachable_repliedAgain : Reachable .silent repliedAgain :=
  reachable_service reachable_askedAgain 4 (by decide +kernel)

/-- The buffer of the packet that was cancelled is nowhere. -/
theorem cancelled_lost : Reachable .silent repliedAgain ∧ ¬ Conserved repliedAgain := by
  refine ⟨reachable_repliedAgain, fun conserved => ?_⟩
  have nowhere : forall place, place ∈ places ->
      0 ∉ held repliedAgain.utils.bufAvail repliedAgain.controller place := by
    decide +kernel
  rcases conserved.exactlyOne 0 (by decide) with ⟨place, ⟨inside, here⟩, -⟩
  exact nowhere place inside here

/-- One transfer that the host completes. -/
theorem conserved_unless_overwritten_replied : Conserved replied :=
  conserved_unless_overwritten silent_sound reachable_replied (by decide +kernel)

end UsbdevUtils
end SunburstChip
