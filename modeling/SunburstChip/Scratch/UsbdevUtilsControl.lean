import SunburstChip.Scratch.UsbdevUtilsRuns

namespace SunburstChip
namespace UsbdevUtils

open Mmio Usbdev OpenTitanUsbdev

/-!
# How SETUP packets are answered

What a host is to get for a SETUP packet depends on the packet and on the
descriptors, and not on the transfer before it, which a SETUP packet ends.
`ep0_recv` goes by its control state first.  In the states in which a transfer
waits for its status stage it takes whatever comes for the end of it, so a
SETUP packet is dropped there.  And it passes the length of a descriptor on in
one byte, to a function that copies as many bytes into a buffer of 64.
-/

/-- The request of a SETUP packet, `wLength` among its fields. -/
def requestOf (data : List (BitVec 8)) : BitVec 8 := data.getD 1 0

def descriptorTypeOf (data : List (BitVec 8)) : BitVec 8 := data.getD 3 0

def wLengthOf (data : List (BitVec 8)) : BitVec 16 :=
  (data.getD 6 0).setWidth 16 ||| ((data.getD 7 0).setWidth 16 <<< 8)

/-- What the host is to get for a SETUP packet. -/
inductive Answer where
  /-- A packet of so many bytes, and the stage that follows it. -/
  | reply (bytes : List (BitVec 8)) (length : Nat) (next : CtrlState)
  /-- The endpoint stalls. -/
  | stall
  /-- The request is none that is answered. -/
  | none
  deriving DecidableEq

/-- A descriptor is sent as far as the host asks for it. -/
def Descriptors.answer (dscr : Descriptors) (data : List (BitVec 8)) : Answer :=
  if requestOf data = kUsbSetupReqGetDescriptor then
    if descriptorTypeOf data = kUsbDescTypeDevice then
      .reply dscr.devDscr (min (wLengthOf data).toNat dscr.devLen.toNat) .ctrlStatusGetDesc
    else if descriptorTypeOf data = kUsbDescTypeConfiguration then
      .reply dscr.cfgDscr (min (wLengthOf data).toNat dscr.cfgLen.toNat) .ctrlStatusGetDesc
    else .stall
  else if requestOf data = kUsbSetupReqSetAddress then .reply [] 0 .ctrlStatusSetAddr
  else if requestOf data = kUsbSetupReqSetConfiguration then .reply [] 0 .ctrlStatusSetConfig
  else if requestOf data = kVendorSetupReqTestConfig then
    .reply dscr.testDscr (min (wLengthOf data).toNat dscr.testLen.toNat) .ctrlStatusGetDesc
  else .none

/-- The routine has ended, ready for the next SETUP packet. -/
def Ready (out : Except Stop Unit × Utils) : Prop :=
  out.1 = .ok () ∧ out.2.ctrlState = .ctrlSetup

/-- `ep0_recv` does for a SETUP packet what its answer asks for: it sends the
one packet, whole and not too large for a buffer, or it stalls the endpoint. -/
def Answered (utils : Utils) (data : List (BitVec 8)) : Prop :=
  match utils.dscr.answer data with
  | .reply bytes length next => length <= maxPacketLength ∧
      Exists fun bufNum => Exists fun utils' => utils'.ctrlState = next ∧
        ep0Recv true data 8 utils =
          packetSend bufNum 0 bytes (.ofNat 8 length) >>= fun _ => .ret (.ok (), utils')
  | .stall => Exists fun rest : Mmio (Except Stop Unit × Utils) =>
      (ep0Recv true data 8 utils = setEndpointStalling 0 true >>= fun _ => rest) ∧
        rest.Returns Ready
  | .none => (ep0Recv true data 8 utils).Returns Ready

/-- There is a buffer for the reply, no transfer waits for its status stage,
and the reply fits a packet; a request that is not answered needs the first only. -/
def Answerable (utils : Utils) (data : List (BitVec 8)) : Prop :=
  (lowestBuffer utils.bufAvail).isSome = true ∧
    match utils.dscr.answer data with
    | .reply _ length _ => utils.ctrlState = .ctrlSetup ∧ length <= maxPacketLength
    | .stall => utils.ctrlState = .ctrlSetup
    | .none => True

/-! ## What `ep0_recv` comes to -/

section

variable {utils : Utils} {data : List (BitVec 8)}

/-- Without a buffer for the reply an assertion fails. -/
theorem ep0Recv_none (exhausted : lowestBuffer utils.bufAvail = none) :
    ep0Recv true data 8 utils = .ret (.error .assertion, utils) := by
  have allocated : bufAlloc utils = .ret (.ok none, utils) := by
    unfold bufAlloc
    rw [Code.get_bind_apply, exhausted]
    rfl
  unfold ep0Recv
  rw [Code.bind_apply, allocated]
  rfl

/-- The object without the buffer. -/
def Utils.without (utils : Utils) (bufNum : Nat) : Utils :=
  { utils with bufAvail := utils.bufAvail &&& ~~~(1#64 <<< bufNum) }

/-- With a buffer the state decides. -/
theorem ep0Recv_some {bufNum : Nat} (lowest : lowestBuffer utils.bufAvail = some bufNum) :
    ep0Recv true data 8 utils = (ep0Decode (.ofNat 8 bufNum) true data 8 >>= fun release =>
      if release then bufRelease (.ofNat 8 bufNum) else pure ()) (utils.without bufNum) := by
  have allocated : bufAlloc utils =
      .ret (.ok (some (.ofNat 8 bufNum)), utils.without bufNum) := by
    unfold bufAlloc
    rw [Code.get_bind_apply, lowest]
    rfl
  unfold ep0Recv
  rw [Code.bind_apply, allocated]
  rfl

/-- In the states that wait for a status stage the packet is dropped. -/
theorem ep0Recv_waiting {bufNum : Nat} (lowest : lowestBuffer utils.bufAvail = some bufNum)
    (waiting : utils.ctrlState ≠ .ctrlSetup) :
    ep0Recv true data 8 utils = bufRelease (.ofNat 8 bufNum)
      { utils.without bufNum with ctrlState := .ctrlSetup } := by
  rw [ep0Recv_some lowest]
  rcases utils with ⟨devAddr, devState, ctrlState, dscr, bufAvail⟩
  cases ctrlState with
  | ctrlSetup => exact absurd rfl waiting
  | ctrlStatusSetAddr | ctrlStatusGetDesc | ctrlStatusSetConfig => rfl

theorem packetSend_returns (bufferId endpointId : BitVec 8) (bytes : List (BitVec 8))
    (size : BitVec 8) : (packetSend bufferId endpointId bytes size).Returns (fun rc => rc = 0) := by
  rw [packetSend_eq]
  exact Returns.bind (returns_true _) (fun _ _ _ => rfl)

/-- A reply is one call of `packet_send`, which does not fail. -/
theorem reply_bind {α : Type} (bufNum : BitVec 8) (bytes : List (BitVec 8)) (size : BitVec 8)
    (next : CtrlState) (f : Unit -> Member α) (utils : Utils) :
    (reply bufNum bytes size next >>= f) utils =
      packetSend bufNum 0 bytes size >>= fun _ => f () { utils with ctrlState := next } := by
  rw [Code.bind_apply]
  unfold reply
  rw [Code.lift_bind_apply]
  refine (bind_assoc _ _ _).trans ?_
  exact Returns.bind_known _ (packetSend_returns _ _ _ _)

/-- The length that goes into one byte. -/
theorem limited (wLen limit : BitVec 16) :
    (if limit.toNat < wLen.toNat then limit else wLen).setWidth 8 =
      BitVec.ofNat 8 (min wLen.toNat limit.toNat) := by
  split
  · next less => rw [Nat.min_eq_right (Nat.le_of_lt less), BitVec.ofNat_toNat]
  · next most => rw [Nat.min_eq_left (Nat.le_of_not_lt most), BitVec.ofNat_toNat]

theorem toNat_widened (limit : BitVec 8) : (limit.setWidth 16).toNat = limit.toNat := by
  rw [BitVec.toNat_setWidth]
  have small := limit.isLt
  omega

/-- What follows a reply, which takes the buffer along. -/
theorem replied_bind (bufNum : BitVec 8) (bytes : List (BitVec 8)) (size : BitVec 8)
    (next : CtrlState) (utils : Utils) :
    (do reply bufNum bytes size next; pure false : Member Bool) utils >>=
        Code.andThen (fun release => if release then bufRelease bufNum else pure ()) =
      packetSend bufNum 0 bytes size >>=
        fun _ => .ret (.ok (), { utils with ctrlState := next }) := by
  rw [reply_bind]
  exact bind_assoc _ _ _

/-- In the state that waits for a SETUP packet, the packet is decoded. -/
theorem ep0Decode_setup (bufNum : BitVec 8) (state : utils.ctrlState = .ctrlSetup) :
    ep0Decode bufNum true data 8 utils =
      (if requestOf data = kUsbSetupReqGetDescriptor then
        if descriptorTypeOf data = kUsbDescTypeDevice then do
          reply bufNum utils.dscr.devDscr
            ((if (utils.dscr.devLen.setWidth 16).toNat < (wLengthOf data).toNat then
              utils.dscr.devLen.setWidth 16 else wLengthOf data).setWidth 8) .ctrlStatusGetDesc
          pure false
        else if descriptorTypeOf data = kUsbDescTypeConfiguration then do
          reply bufNum utils.dscr.cfgDscr
            ((if utils.dscr.cfgLen.toNat < (wLengthOf data).toNat then
              utils.dscr.cfgLen else wLengthOf data).setWidth 8) .ctrlStatusGetDesc
          pure false
        else do
          let rc <- Code.lift (setEndpointStalling 0 true)
          assert (rc == 0)
          pure true
      else if requestOf data = kUsbSetupReqSetAddress then do
        modify (fun utils => { utils with
          devAddr := ((data.getD 2 0).setWidth 16 ||| ((data.getD 3 0).setWidth 16 <<< 8)).setWidth 8 })
        reply bufNum [] 0 .ctrlStatusSetAddr
        pure false
      else if requestOf data = kUsbSetupReqSetConfiguration then do
        reply bufNum [] 0 .ctrlStatusSetConfig
        pure false
      else if requestOf data = kVendorSetupReqTestConfig then do
        reply bufNum utils.dscr.testDscr
          ((if (utils.dscr.testLen.setWidth 16).toNat < (wLengthOf data).toNat then
            utils.dscr.testLen.setWidth 16 else wLengthOf data).setWidth 8) .ctrlStatusGetDesc
        pure false
      else do
        modify (fun utils => { utils with ctrlState := .ctrlSetup })
        pure true : Member Bool) utils := by
  rcases utils with ⟨devAddr, devState, ctrlState, dscr, bufAvail⟩
  cases state
  rfl

/-- In the state that waits for a SETUP packet a reply is sent as it is to be,
but for its length. -/
theorem ep0Recv_reply {bufNum : Nat} {bytes : List (BitVec 8)} {length : Nat} {next : CtrlState}
    (lowest : lowestBuffer utils.bufAvail = some bufNum) (state : utils.ctrlState = .ctrlSetup)
    (answer : utils.dscr.answer data = .reply bytes length next) :
    Exists fun utils' => utils'.ctrlState = next ∧ ep0Recv true data 8 utils =
      packetSend (.ofNat 8 bufNum) 0 bytes (.ofNat 8 length) >>=
        fun _ => .ret (.ok (), utils') := by
  have same : (utils.without bufNum).ctrlState = .ctrlSetup := state
  have sameDscr : (utils.without bufNum).dscr = utils.dscr := rfl
  rw [ep0Recv_some lowest, Code.bind_apply, ep0Decode_setup _ same, sameDscr]
  unfold Descriptors.answer at answer
  split at answer
  · next isGet =>
      rw [if_pos isGet]
      split at answer
      · next isDevice =>
          rw [if_pos isDevice, replied_bind, limited, toNat_widened]
          cases answer
          exact ⟨_, rfl, rfl⟩
      · next notDevice =>
          rw [if_neg notDevice]
          split at answer
          · next isConfiguration =>
              rw [if_pos isConfiguration, replied_bind, limited]
              cases answer
              exact ⟨_, rfl, rfl⟩
          · cases answer
  · next notGet =>
      rw [if_neg notGet]
      split at answer
      · next isAddress =>
          rw [if_pos isAddress, modify_bind, replied_bind]
          cases answer
          exact ⟨_, rfl, rfl⟩
      · next notAddress =>
          rw [if_neg notAddress]
          split at answer
          · next isConfiguration =>
              rw [if_pos isConfiguration, replied_bind]
              cases answer
              exact ⟨_, rfl, rfl⟩
          · next notConfiguration =>
              rw [if_neg notConfiguration]
              split at answer
              · next isTest =>
                  rw [if_pos isTest, replied_bind, limited, toNat_widened]
                  cases answer
                  exact ⟨_, rfl, rfl⟩
              · cases answer

theorem bufRelease_eq (bufNum : BitVec 8) (utils : Utils) :
    bufRelease bufNum utils =
      OpenTitanUsbdev.supplyBuffers (utils.bufAvail ||| (1#64 <<< bufNum.toNat)) >>=
        fun bufAvail => .ret (.ok (), { utils with bufAvail := bufAvail }) :=
  Code.lift_bind_apply _ _ _

theorem bufRelease_ready (bufNum : BitVec 8) {utils : Utils}
    (state : utils.ctrlState = .ctrlSetup) : (bufRelease bufNum utils).Returns Ready := by
  rw [bufRelease_eq]
  exact Returns.bind (returns_true _) (fun _ _ => ⟨rfl, state⟩)

/-- A request for another descriptor stalls the endpoint. -/
theorem ep0Recv_stall {bufNum : Nat} (lowest : lowestBuffer utils.bufAvail = some bufNum)
    (state : utils.ctrlState = .ctrlSetup) (answer : utils.dscr.answer data = .stall) :
    ep0Recv true data 8 utils = setEndpointStalling 0 true >>= fun _ =>
      bufRelease (.ofNat 8 bufNum) (utils.without bufNum) := by
  have same : (utils.without bufNum).ctrlState = .ctrlSetup := state
  rw [ep0Recv_some lowest, Code.bind_apply, ep0Decode_setup _ same]
  unfold Descriptors.answer at answer
  split at answer
  · next isGet =>
      rw [if_pos isGet]
      split at answer
      · cases answer
      · next notDevice =>
          rw [if_neg notDevice]
          split at answer
          · cases answer
          · next notConfiguration =>
              rw [if_neg notConfiguration]
              rfl
  · split at answer
    · cases answer
    · split at answer
      · cases answer
      · split at answer
        · cases answer
        · cases answer

/-- A request of no known kind is left alone. -/
theorem ep0Recv_unknown {bufNum : Nat} (lowest : lowestBuffer utils.bufAvail = some bufNum)
    (state : utils.ctrlState = .ctrlSetup) (answer : utils.dscr.answer data = .none) :
    ep0Recv true data 8 utils =
      bufRelease (.ofNat 8 bufNum) { utils.without bufNum with ctrlState := .ctrlSetup } := by
  have same : (utils.without bufNum).ctrlState = .ctrlSetup := state
  rw [ep0Recv_some lowest, Code.bind_apply, ep0Decode_setup _ same]
  unfold Descriptors.answer at answer
  split at answer
  · split at answer
    · cases answer
    · split at answer
      · cases answer
      · cases answer
  · next notGet =>
      rw [if_neg notGet]
      split at answer
      · cases answer
      · next notAddress =>
          rw [if_neg notAddress]
          split at answer
          · cases answer
          · next notConfiguration =>
              rw [if_neg notConfiguration]
              split at answer
              · cases answer
              · next notTest =>
                  rw [if_neg notTest]
                  rfl

theorem answered_of_answerable (answerable : Answerable utils data) : Answered utils data := by
  rcases Option.isSome_iff_exists.mp answerable.1 with ⟨bufNum, lowest⟩
  have answered := answerable.2
  unfold Answered
  split at answered
  · next bytes length next answer =>
      rcases ep0Recv_reply lowest answered.1 answer with ⟨utils', stage, sent⟩
      exact ⟨answered.2, _, utils', stage, sent⟩
  · next answer =>
      exact ⟨_, ep0Recv_stall lowest answered answer, bufRelease_ready _ answered⟩
  · next answer =>
      by_cases state : utils.ctrlState = .ctrlSetup
      · simp only [ep0Recv_unknown lowest state answer]
        exact bufRelease_ready _ rfl
      · simp only [ep0Recv_waiting lowest state]
        exact bufRelease_ready _ rfl

/-! ## What cannot be mistaken for an answer -/

/-- An access that only supplies buffers. -/
def Supplies : Access -> Prop
  | .read32 offset => offset = usbstatRegOffset
  | .write32 offset _ => offset = avoutbufferRegOffset ∨ offset = avsetupbufferRegOffset
  | .write8 _ _ => False

theorem within_supplyLoop (indexes : List Nat) (bufferBitmap : BitVec 64) :
    (supplyLoop indexes bufferBitmap).Within Supplies := by
  induction indexes generalizing bufferBitmap with
  | nil => trivial
  | cons index rest ih =>
      unfold supplyLoop
      dsimp only
      rw [within_ite]
      refine ⟨fun _ => ih _, fun _ => ⟨rfl, fun status => ?_⟩⟩
      simp only [bind_ret]
      rw [within_ite]
      refine ⟨fun _ => ⟨rfl, fun status => ?_⟩, fun _ => ⟨.inr rfl, ih _⟩⟩
      simp only [bind_ret]
      rw [within_ite]
      exact ⟨fun _ => trivial, fun _ => ⟨.inl rfl, ih _⟩⟩

theorem within_bufRelease (bufNum : BitVec 8) (utils : Utils) :
    (bufRelease bufNum utils).Within Supplies := by
  rw [bufRelease_eq]
  exact within_bind (within_supplyLoop _ _) (fun _ => trivial)

theorem not_supplies_packetSend {β : Type} {f : Int -> Mmio β} (bufferId : BitVec 8)
    (bytes : List (BitVec 8)) (size : BitVec 8) :
    ¬ (packetSend bufferId 0 bytes size >>= f).Within Supplies := by
  intro within
  rw [packetSend_eq] at within
  change ((Mmio.bind _ _).bind f).Within Supplies at within
  rw [bind_assoc] at within
  rcases Within.rest within with ⟨_, sends⟩
  have first : configin0RegOffset + 4 * (0 : BitVec 8).toNat = avoutbufferRegOffset ∨
      configin0RegOffset + 4 * (0 : BitVec 8).toNat = avsetupbufferRegOffset := sends.1
  revert first
  decide

theorem not_supplies_stalling {β : Type} {rest : Mmio β} :
    ¬ (setEndpointStalling 0 true >>= fun _ => rest).Within Supplies := by
  intro within
  have first : outStallRegOffset = usbstatRegOffset := within.1
  cases first

/-- What neither sends nor stalls is no answer to a request that has one. -/
theorem not_answered (within : (ep0Recv true data 8 utils).Within Supplies)
    (wanted : utils.dscr.answer data ≠ .none) : ¬ Answered utils data := by
  intro answered
  unfold Answered at answered
  split at answered
  · rcases answered with ⟨-, bufNum, utils', -, sent⟩
    rw [sent] at within
    exact not_supplies_packetSend _ _ _ within
  · rcases answered with ⟨rest, stalled, -⟩
    rw [stalled] at within
    exact not_supplies_stalling within
  · next answer => exact wanted answer

theorem answerable_of_answered (answered : Answered utils data) : Answerable utils data := by
  cases lowest : lowestBuffer utils.bufAvail with
  | none =>
      have stopped : ep0Recv true data 8 utils = _ := ep0Recv_none lowest
      exfalso
      by_cases answer : utils.dscr.answer data = .none
      · unfold Answered at answered
        rw [answer, stopped] at answered
        cases answered.1
      · refine not_answered ?_ answer answered
        rw [stopped]
        trivial
  | some bufNum =>
      refine ⟨by rw [lowest]; rfl, ?_⟩
      have decoded (wanted : utils.dscr.answer data ≠ .none) : utils.ctrlState = .ctrlSetup := by
        by_contra waiting
        refine not_answered ?_ wanted answered
        rw [ep0Recv_waiting lowest waiting]
        exact within_bufRelease _ _
      split
      · next bytes length next answer =>
          refine ⟨decoded (by rw [answer]; nofun), ?_⟩
          unfold Answered at answered
          rw [answer] at answered
          exact answered.1
      · next answer => exact decoded (by rw [answer]; nofun)
      · trivial

/-- A SETUP packet is answered exactly if there is a buffer for the reply, no
transfer waits for its status stage, and the reply fits a packet. -/
theorem answered_iff : Answered utils data ↔ Answerable utils data :=
  ⟨answerable_of_answered, answered_of_answerable⟩

/-- A host that has not collected the reply to a request and asks again. -/
theorem not_answered_again :
    Reachable .silent replied ∧ ¬ Answered replied.utils getDeviceDescriptor := by
  refine ⟨reachable_replied, fun answered => ?_⟩
  have answerable := answerable_of_answered answered
  have waiting : replied.utils.ctrlState = .ctrlStatusGetDesc := by decide +kernel
  have dscr : replied.utils.dscr = sampleDescriptors := by decide +kernel
  have answer : sampleDescriptors.answer getDeviceDescriptor =
      .reply sampleDescriptors.devDscr 18 .ctrlStatusGetDesc := by decide
  have state := answerable.2
  rw [dscr, answer, waiting] at state
  cases state.1

end

end UsbdevUtils
end SunburstChip
