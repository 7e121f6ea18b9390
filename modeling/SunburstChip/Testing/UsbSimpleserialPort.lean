import SunburstChip.Testing.UsbEndpointSetup
import SunburstChip.Testing.UsbSimpleserial

namespace SunburstChip
namespace UsbSimpleserial

open Mmio Usbdev UsbTestutils
open Function (update update_eq_self update_of_ne update_self)

/-!
# A serial port in use

A serial port is used by its client, which sends bytes, and by the library,
which tells it of packets that have been collected or received and asks it to
flush.  Each of these keeps account of the bytes: what there is to be sent, on
offer to the host or still gathered, and what has been received.
-/

/-! ## What a port has to send -/

/-- The bytes that have been gathered, and the buffer they are in, apart from
those in `lost`. -/
inductive Gathered (ssctx : SsCtx) (known : Nat -> Packet) (lost : Multiset Nat) :
    Multiset Nat -> Packet -> Prop where
  | nothing (none : ssctx.curCpos = -1) : Gathered ssctx known lost lost []
  | bytes (count : Nat) (front : Packet) (position : ssctx.curCpos = count)
      (filled : Filled ssctx.curBuf front) (words : front.length = 4 * (count / 4))
      (contains : known ssctx.curBuf.id.toNat = front)
      (room : count < 20 ∧ (ssctx.sending = true -> count <= 16)) :
      Gathered ssctx known lost (lost + {ssctx.curBuf.id.toNat})
        (front ++ ssctx.chold.toList.take (count % 4))

/-- What the endpoint holds when it offers some packets, which is one at most. -/
inductive OnOffer (known : Nat -> Packet) : Bool -> Slot -> List Packet -> Prop where
  | idle : OnOffer known false .idle []
  | sending (id : Nat) (packet : Packet) (contains : known id = packet)
      (short : packet.length <= maxPacketSize) :
      OnOffer known true (.holds id packet.length) [packet]

/-- The port has bytes to send: packets on offer, and bytes gathered. -/
structure Port (n : Nat) (objects : Nat -> Buffer) (memory : Memory) (lost : Multiset Nat)
    (offer : List Packet) (held : Packet) (usbdev : Controller) : Prop where
  intro ::
  state : Exists fun known => Exists fun away => Exists fun slot =>
    Gathered memory.client known lost away held ∧
      OnOffer known memory.client.sending slot offer ∧
      Tracked n away (ownSlot memory.client.ep.toNat slot) known
        ⟨usbdev, memory.pool, objects⟩

section

variable {n : Nat} {objects : Nat -> Buffer} {memory : Memory} {lost : Multiset Nat}
  {offer : List Packet} {held : Packet} {usbdev usbdev' : Controller}

theorem Port.hardware (port : Port n objects memory lost offer held usbdev)
    (move : Hardware usbdev usbdev') : Port n objects memory lost offer held usbdev' := by
  rcases port with ⟨known, away, slot, gathered, onOffer, tracked⟩
  exact ⟨known, away, slot, gathered, onOffer, tracked.hardware move⟩

/-- The packet on offer is what the controller has. -/
theorem Port.offered (port : Port n objects memory lost offer held usbdev)
    (below : memory.client.ep.toNat < 12) :
    Usbdev.offered usbdev memory.client.ep.toNat = offer ∧
      usbdev.Pending memory.client.ep.toNat = memory.client.sending := by
  rcases port with ⟨known, away, slot, gathered, onOffer, tracked⟩
  generalize memory.client.sending = sending at onOffer ⊢
  cases onOffer with
  | idle =>
      have described := tracked.endpoints memory.client.ep.toNat
      rw [ownSlot, update_self] at described
      have notPending : usbdev.Pending memory.client.ep.toNat = false := described
      unfold Usbdev.offered
      rw [notPending]
      exact ⟨rfl, rfl⟩
  | sending id packet contains short =>
      have offers := tracked.offers below (update_self _ _ _) contains
      exact ⟨offers.2, offers.1⟩

/-- A packet on offer is not larger than a packet can be. -/
theorem Port.short (port : Port n objects memory lost offer held usbdev) {packet : Packet}
    (inside : packet ∈ offer) : packet.length <= maxPacketSize := by
  rcases port with ⟨known, away, slot, gathered, onOffer, tracked⟩
  generalize memory.client.sending = sending at onOffer
  cases onOffer with
  | idle => cases inside
  | sending id packet' contains short =>
      rw [List.mem_singleton.mp inside]
      exact short

/-- What has been gathered is in memory. -/
theorem Port.heldBytes (port : Port n objects memory lost offer held usbdev) :
    UsbSimpleserial.heldBytes usbdev memory.client = held := by
  rcases port with ⟨known, away, slot, gathered, onOffer, tracked⟩
  unfold UsbSimpleserial.heldBytes
  cases gathered with
  | nothing none => rw [if_pos none]
  | bytes count front position filled words contains room =>
      have some : ¬ memory.client.curCpos = -1 := by omega
      have begins := tracked.contents memory.client.curBuf.id.toNat
        (.inl (Multiset.mem_add.mpr (.inr (Multiset.mem_singleton_self _))))
      rw [contains] at begins
      rw [if_neg some, position, Int.toNat_natCast, <- words, begins.packetBytes]

/-! ## One more byte -/

/-- The first bytes of `chold` after one more has been put there. -/
theorem take_setIfInBounds (chold : Vector (BitVec 8) 4) {i : Nat} (inside : i < 4)
    (c : BitVec 8) :
    (chold.setIfInBounds i c).toList.take (i + 1) = chold.toList.take i ++ [c] := by
  have length : (chold.toList.take i).length = i := by
    rw [List.length_take, Vector.length_toList]
    omega
  rw [Vector.toList_setIfInBounds, List.set_eq_take_append_cons_drop,
    if_pos (by rw [Vector.length_toList]; exact inside), List.take_append, length,
    Nat.add_sub_cancel_left, List.take_of_length_le (by omega)]
  rfl

variable {slot : Slot} {known : Nat -> Packet} {front : Packet} {count : Nat}

/-- What others know of the packet on offer does not depend on a buffer in hand. -/
theorem OnOffer.update {known' : Nat -> Packet} {sending : Bool} {away : Multiset Nat}
    {ep id : Nat} {pool : BufferPool} (onOffer : OnOffer known sending slot offer)
    (tracked : Tracked n away (ownSlot ep slot) known' ⟨usbdev, pool, objects⟩) (below : ep < 12)
    (inHand : id ∈ away) (bytes : Packet) :
    OnOffer (update known id bytes) sending slot offer := by
  cases onOffer with
  | idle => exact .idle
  | sending id' packet contains short =>
      have apart : id' ≠ id := tracked.apart below (update_self _ _ _) inHand
      exact .sending id' packet ((update_of_ne apart _ _).trans contains) short

/-- The call has changed nothing but what it has to send, and what there is to
be sent now are the same bytes followed by others. -/
structure Appended (n : Nat) (objects : Nat -> Buffer) (memory memory' : Memory)
    (lost : Multiset Nat) (offer : List Packet) (held bytes : Packet) (usbdev : Controller) :
    Prop where
  intro ::
  others : Exists fun pool => Exists fun ssctx => memory' =
    { memory with pool := pool, client := ssctx } ∧ ssctx.ep = memory.client.ep ∧
      ssctx.received = memory.client.received
  port : Exists fun offer' => Exists fun held' => Port n objects memory' lost offer' held' usbdev ∧
    offer'.flatten ++ held' = offer.flatten ++ held ++ bytes ∧
    (memory.client.sending = true -> offer' = offer)

theorem stable_appended {memory' : Memory} {bytes : Packet} :
    Stable Hardware (Appended n objects memory memory' lost offer held bytes) := by
  rintro usbdev usbdev' move ⟨others, offer', held', port, same, kept⟩
  exact ⟨others, offer', held', port.hardware move, same, kept⟩

/-- A full `chold` is written to the packet buffer, and this may be sent. -/
theorem gatherWord_spec (memory : Memory) (below : memory.client.ep.toNat < 12)
    (position : memory.client.curCpos = count) (filled : Filled memory.client.curBuf front)
    (words : front.length + 4 = count) (aligned : count % 4 = 0)
    (contains : known memory.client.curBuf.id.toNat = front)
    (room : count <= 20 ∧ (memory.client.sending = true -> count <= 16))
    (onOffer : OnOffer known memory.client.sending slot offer) :
    Triple device Hardware
      (fun usbdev => Tracked n (lost + {memory.client.curBuf.id.toNat})
        (ownSlot memory.client.ep.toNat slot) known ⟨usbdev, memory.pool, objects⟩)
      (gatherWord memory)
      (fun out usbdev => Exists fun memory' => out = (.ok (), memory') ∧
        Appended n objects memory memory' lost offer
          (front ++ memory.client.chold.toList.take 4) [] usbdev) := by
  have four : (memory.client.chold.toList.take 4).length = 4 := by
    rw [List.length_take, Vector.length_toList]
    rfl
  have fits : front.length + 4 <= maxPacketSize := by
    change _ <= 64
    omega
  have filled' := filled.written (show front.length + (memory.client.chold.toList.take 4).length <=
    maxPacketSize by rw [four]; exact fits)
  have same : update known memory.client.curBuf.id.toNat front = known := by
    rw [<- contains, update_eq_self]
  have inHand : memory.client.curBuf.id.toNat ∈ lost + {memory.client.curBuf.id.toNat} :=
    Multiset.mem_add.mpr (.inr (Multiset.mem_singleton_self _))
  generalize bytes : front ++ memory.client.chold.toList.take 4 = packet at filled' ⊢
  have length : packet.length = count := by
    rw [<- bytes, List.length_append, four, words]
  unfold gatherWord
  intro start finish out tracked execution
  have onOffer' := onOffer.update tracked below inHand packet
  rw [Code.bind_apply] at execution
  rcases exec_bind execution with ⟨middle, written, writing, execution⟩
  rw [<- same] at tracked
  rcases writeHold_spec filled fits (Nat.le_refl 4) start middle written tracked writing with
    ⟨rfl, tracked'⟩
  rw [bytes] at tracked'
  change Exec device Hardware middle ((Code.get >>= _) _) finish out at execution
  rw [Code.get_bind_apply, Code.ite_apply] at execution
  by_cases due : maxGather <= memory.client.curCpos ∧ !memory.client.sending
  · rw [if_pos due] at execution
    have notSending : memory.client.sending = false := (Bool.not_eq_true' _).mp due.2
    rw [notSending] at onOffer'
    cases onOffer'
    have sent := sendCurBuf_spec { memory with client := { memory.client with
      curBuf := memory.client.curBuf.written (memory.client.chold.toList.take 4) } } below filled'
      middle finish out tracked' execution
    rcases sent with ⟨rfl, tracked''⟩
    refine ⟨_, rfl, ⟨memory.pool, _, rfl, rfl, rfl⟩, [packet], [], ⟨_, lost, _, .nothing rfl,
      .sending _ packet (update_self _ _ _) filled'.short, tracked''⟩, ?_, ?_⟩
    · simp only [List.flatten_cons, List.flatten_nil, List.append_nil, List.nil_append]
    · intro sending'
      rw [notSending] at sending'
      cases sending'
  · rw [if_neg due] at execution
    rcases tracked'.returned execution with ⟨rfl, tracked''⟩
    have bound : count < 20 := by
      by_contra full
      cases sending : memory.client.sending with
      | true => exact full (Nat.lt_of_le_of_lt (room.2 sending) (by decide))
      | false =>
          have late : maxGather <= memory.client.curCpos := by
            change 16 <= _
            omega
          exact due ⟨late, by rw [sending]; rfl⟩
    have gathered : Gathered { memory.client with
        curBuf := memory.client.curBuf.written (memory.client.chold.toList.take 4) }
        (update known memory.client.curBuf.id.toNat packet) lost
        (lost + {memory.client.curBuf.id.toNat})
        (packet ++ memory.client.chold.toList.take (count % 4)) :=
      .bytes count packet position filled' (by omega) (update_self _ _ _) ⟨bound, room.2⟩
    rw [aligned, List.take_zero, List.append_nil] at gathered
    refine ⟨_, rfl, ⟨memory.pool, _, rfl, rfl, rfl⟩, offer, packet, ⟨_, _, slot, gathered, onOffer',
      tracked''⟩, ?_, fun _ => rfl⟩
    rw [List.append_nil]

theorem gather_spec (memory : Memory) (below : memory.client.ep.toNat < 12)
    (position : memory.client.curCpos = count) (filled : Filled memory.client.curBuf front)
    (words : front.length = 4 * (count / 4))
    (contains : known memory.client.curBuf.id.toNat = front)
    (room : count < 20 ∧ (memory.client.sending = true -> count < 16))
    (onOffer : OnOffer known memory.client.sending slot offer) (c : BitVec 8) :
    Triple device Hardware
      (fun usbdev => Tracked n (lost + {memory.client.curBuf.id.toNat})
        (ownSlot memory.client.ep.toNat slot) known ⟨usbdev, memory.pool, objects⟩)
      (gather c memory)
      (fun out usbdev => Exists fun memory' => out = (.ok true, memory') ∧
        Appended n objects memory memory' lost offer
          (front ++ memory.client.chold.toList.take (count % 4)) [c] usbdev) := by
  have index : (memory.client.curCpos % 4).toNat = count % 4 := by omega
  have taken := take_setIfInBounds memory.client.chold (Nat.mod_lt count (by decide)) c
  unfold gather
  rw [modifyCtx_bind, Code.get_bind_apply, index]
  generalize memory.client.chold.setIfInBounds (count % 4) c = chold' at taken ⊢
  dsimp only
  by_cases full : (memory.client.curCpos + 1) % 4 = 0
  · rw [if_pos full]
    have three : count % 4 = 3 := by omega
    have next : memory.client.curCpos + 1 = (count + 1 : Nat) := by omega
    rw [three] at taken ⊢
    intro start finish out tracked execution
    rw [Code.bind_apply] at execution
    rcases exec_bind execution with ⟨middle, done, gathering, returning⟩
    have word := gatherWord_spec { memory with client := { memory.client with
      chold := chold'
      curCpos := memory.client.curCpos + 1 } } below next filled (by omega) (by omega) contains
      ⟨room.1, room.2⟩ onOffer start middle done tracked gathering
    rcases word with ⟨memory', rfl, appended⟩
    rcases Triple.returned stable_appended appended returning with ⟨rfl, others, offer', held',
      port, same, kept⟩
    refine ⟨memory', rfl, others, offer', held', port, ?_, kept⟩
    rw [same, List.append_nil, taken]
    simp only [List.append_assoc]
  · rw [if_neg full]
    intro start finish out tracked execution
    rcases tracked.returned execution with ⟨rfl, tracked'⟩
    refine ⟨_, rfl, ⟨memory.pool, _, rfl, rfl, rfl⟩, offer, front ++ chold'.toList.take
      ((count + 1) % 4), ⟨known, _, slot, ?_, onOffer, tracked'⟩, ?_, fun _ => rfl⟩
    · exact .bytes (count + 1) front (by dsimp only; omega) filled (by omega) contains
        ⟨by omega, fun sending => room.2 sending⟩
    · rw [show (count + 1) % 4 = count % 4 + 1 by omega, taken]
      simp only [List.append_assoc]

/-- The byte a call has accepted, if it has. -/
def acceptedByte (c : BitVec 8) : Except Failure Bool -> List (BitVec 8)
  | .ok true => [c]
  | _ => []

theorem Port.unchanged (port : Port n objects memory lost offer held usbdev) :
    Appended n objects memory memory lost offer held [] usbdev :=
  ⟨⟨memory.pool, memory.client, rfl, rfl, rfl⟩, offer, held, port, by rw [List.append_nil],
    fun _ => rfl⟩

theorem sendByte_spec (below : memory.client.ep.toNat < 12) (c : BitVec 8) :
    Triple device Hardware (Port n objects memory lost offer held)
      (usbTestutilsSimpleserialSendByte c memory)
      (fun out usbdev => Appended n objects memory out.2 lost offer held
        (acceptedByte c out.1) usbdev) := by
  rintro start finish out ⟨known, away, slot, gathered, onOffer, tracked⟩ execution
  unfold usbTestutilsSimpleserialSendByte at execution
  rw [Code.get_bind_apply] at execution
  cases gathered with
  | nothing none =>
      rw [if_pos none] at execution
      rcases request_tracked tracked with unavailable | ⟨id, pool, taken, valid, fresh, tracked'⟩
      · -- There is no packet buffer, and the byte is not accepted.
        rw [unavailable] at execution
        rcases tracked.returned execution with ⟨rfl, tracked'⟩
        exact Port.unchanged ⟨known, _, slot, .nothing none, onOffer, tracked'⟩
      · rw [taken] at execution
        have inHand : id.toNat ∈ lost + {id.toNat} :=
          Multiset.mem_add.mpr (.inr (Multiset.mem_singleton_self _))
        have onOffer' := onOffer.update tracked' below inHand []
        have gathering := gather_spec { memory with
          pool := pool
          client := { memory.client with curBuf := emptyBuffer id, curCpos := (0 : Nat) } } below
          rfl (filled_nil id) rfl (update_self _ _ _) ⟨by decide, fun _ => by decide⟩
          onOffer' c start finish out tracked' execution
        rcases gathering with ⟨memory', rfl, others, port⟩
        exact ⟨others, port⟩
  | bytes count front position filled words contains room =>
      have some : ¬ memory.client.curCpos = -1 := by omega
      rw [if_neg some] at execution
      by_cases waiting : maxGather <= memory.client.curCpos ∧ memory.client.sending
      · rw [Code.ite_apply, if_pos waiting] at execution
        rcases tracked.returned execution with ⟨rfl, tracked'⟩
        exact Port.unchanged ⟨known, _, slot, .bytes count front position filled words contains room,
          onOffer, tracked'⟩
      · rw [Code.ite_apply, if_neg waiting] at execution
        have early : memory.client.sending = true -> count < 16 := by
          intro sending
          by_contra late
          have reached : maxGather <= memory.client.curCpos := by
            change 16 <= _
            omega
          exact waiting ⟨reached, sending⟩
        rcases gather_spec memory below position filled words contains ⟨room.1, early⟩ onOffer c start
          finish out tracked execution with ⟨memory', rfl, appended⟩
        exact appended

/-! ## Flushing and completions -/

/-- What is in `chold` is written to the packet buffer. -/
theorem flushHold_spec {slots : Nat -> Slot} {away : Multiset Nat}
    (position : memory.client.curCpos = count) (filled : Filled memory.client.curBuf front)
    (contains : known memory.client.curBuf.id.toNat = front)
    (fits : front.length + count % 4 <= maxPacketSize) :
    Triple device Hardware
      (fun usbdev => Tracked n away slots known ⟨usbdev, memory.pool, objects⟩)
      (flushHold memory)
      (fun out usbdev => out = (.ok (), { memory with client := { memory.client with
          curBuf := memory.client.curBuf.written
            (memory.client.chold.toList.take (count % 4)) } }) ∧
        Containing n away slots known memory.pool objects memory.client.curBuf.id.toNat
          (front ++ memory.client.chold.toList.take (count % 4)) usbdev) := by
  have index : (memory.client.curCpos % 4).toNat = count % 4 := by omega
  have same : update known memory.client.curBuf.id.toNat front = known := by
    rw [<- contains, update_eq_self]
  unfold flushHold
  rw [Code.get_bind_apply]
  by_cases some : memory.client.curCpos % 4 ≠ 0
  · rw [if_pos some, index]
    have written : Triple device Hardware (Containing n away slots known memory.pool objects
        memory.client.curBuf.id.toNat front) _ _ := writeHold_spec filled fits (by omega)
    unfold Containing at written
    rw [same] at written
    exact written
  · have none : count % 4 = 0 := by omega
    rw [if_neg some, none, List.take_zero, List.append_nil, written_nil]
    unfold Containing
    rw [same]
    exact Triple.ret stable_tracked (fun _ tracked => ⟨rfl, tracked⟩)

theorem ssFlush_spec (below : memory.client.ep.toNat < 12) :
    Triple device Hardware (Port n objects memory lost offer held) (ssFlush memory)
      (fun out usbdev => out.1 = .ok () ∧
        Appended n objects memory out.2 lost offer held [] usbdev) := by
  rintro start finish out ⟨known, away, slot, gathered, onOffer, tracked⟩ execution
  unfold ssFlush at execution
  rw [Code.get_bind_apply] at execution
  by_cases nothing : memory.client.curCpos <= 0 ∨ memory.client.sending
  · rw [if_pos nothing] at execution
    rcases tracked.returned execution with ⟨rfl, tracked'⟩
    exact ⟨rfl, Port.unchanged ⟨known, _, slot, gathered, onOffer, tracked'⟩⟩
  · rw [if_neg nothing] at execution
    have notSending : memory.client.sending = false :=
      Bool.eq_false_iff.mpr (fun sending => nothing (.inr sending))
    rw [notSending] at onOffer
    cases onOffer
    cases gathered with
    | nothing none => exact absurd (.inl (by omega)) nothing
    | bytes count front position filled words contains room =>
        have length : (memory.client.chold.toList.take (count % 4)).length = count % 4 := by
          rw [List.length_take, Vector.length_toList]
          omega
        have fits : front.length + count % 4 <= maxPacketSize := by
          change _ <= 64
          omega
        have filled' := filled.written (show front.length +
          (memory.client.chold.toList.take (count % 4)).length <= maxPacketSize by
            rw [length]; exact fits)
        rw [Code.bind_apply] at execution
        rcases exec_bind execution with ⟨middle, written, writing, execution⟩
        rcases flushHold_spec position filled contains fits start middle written tracked writing
          with ⟨rfl, tracked'⟩
        have sent := sendCurBuf_spec { memory with client := { memory.client with
          curBuf := memory.client.curBuf.written (memory.client.chold.toList.take (count % 4)) } }
          below filled' middle finish out tracked' execution
        rcases sent with ⟨rfl, tracked''⟩
        refine ⟨rfl, ⟨memory.pool, _, rfl, rfl, rfl⟩, [_], [], ⟨_, lost, _, .nothing rfl,
          .sending _ _ (update_self _ _ _) filled'.short, tracked''⟩, ?_, ?_⟩
        · simp only [List.flatten_cons, List.flatten_nil, List.append_nil, List.nil_append]
        · intro sending
          rw [notSending] at sending
          cases sending

/-! ## While a packet is pending -/

/-- A routine only accesses packet memory, and it leaves `sending` as it is. -/
def Quiet {α : Type} (memory : Memory) (program : Mmio (Except Failure α × Memory)) : Prop :=
  program.Within (AtOrAbove bufferRegOffset) ∧
    program.Returns (fun out => out.2.client.sending = memory.client.sending)

theorem quiet_writeHold (srcLen : Nat) : Quiet memory (writeHold srcLen memory) := by
  unfold writeHold
  rw [Code.get_bind_apply, Code.lift_bind_apply]
  constructor
  · apply within_bind (memory_bufferWrite _ _ _ _ _)
    rintro ⟨result, curBuf, count⟩
    dsimp only
    rw [modifyCtx_bind]
    cases result <;> trivial
  · apply Returns.bind (returns_true _)
    rintro ⟨result, curBuf, count⟩ -
    dsimp only
    rw [modifyCtx_bind]
    cases result <;> rfl

theorem quiet_gatherWord (sending : memory.client.sending = true) :
    Quiet memory (gatherWord memory) := by
  have after (out : Except Failure Unit × Memory)
      (same : out.2.client.sending = memory.client.sending) :
      Quiet memory (Code.andThen (fun _ => do
        let state <- Code.get
        if maxGather <= state.client.curCpos ∧ !state.client.sending then sendCurBuf
        else pure ()) out) := by
    rcases out with ⟨reason | value, memory'⟩
    · exact ⟨trivial, same⟩
    · have notDue : ¬ (maxGather <= memory'.client.curCpos ∧ !memory'.client.sending) := by
        rintro ⟨-, notSending⟩
        rw [same.trans sending] at notSending
        cases notSending
      change Quiet memory ((Code.get >>= _ : Code Memory Failure Unit) memory')
      rw [Code.get_bind_apply, if_neg notDue]
      exact ⟨trivial, same⟩
  unfold gatherWord
  rw [Code.bind_apply]
  constructor
  · exact (quiet_writeHold 4).2.within_bind (quiet_writeHold 4).1
      (fun out same => (after out same).1)
  · exact (quiet_writeHold 4).2.bind (fun out same => (after out same).2)

theorem within_gather (memory : Memory) (sending : memory.client.sending = true) (c : BitVec 8) :
    (gather c memory).Within (AtOrAbove bufferRegOffset) := by
  unfold gather
  rw [modifyCtx_bind, Code.get_bind_apply, Code.ite_apply, within_ite]
  constructor
  · intro full
    rw [Code.bind_apply]
    apply within_bind (quiet_gatherWord (by exact sending)).1
    rintro ⟨reason | value, memory'⟩ <;> trivial
  · exact fun _ => trivial

theorem within_sendByte (sending : memory.client.sending = true) (c : BitVec 8) :
    (usbTestutilsSimpleserialSendByte c memory).Within (AtOrAbove bufferRegOffset) := by
  unfold usbTestutilsSimpleserialSendByte
  rw [Code.get_bind_apply, Code.ite_apply, within_ite]
  constructor
  · intro none
    dsimp only
    rw [Code.set_bind_apply]
    cases (difUsbdevBufferRequest .object .object .object memory.pool).1 with
    | kDifOk => exact within_gather { memory with
        pool := (difUsbdevBufferRequest .object .object .object memory.pool).2.1
        client := { memory.client with
          curBuf := (difUsbdevBufferRequest .object .object .object memory.pool).2.2.getD
            memory.client.curBuf
          curCpos := 0 } } sending c
    | _ => trivial
  · intro some
    rw [Code.ite_apply, within_ite]
    exact ⟨fun _ => trivial, fun _ => within_gather memory sending c⟩

theorem within_ssFlush (sending : memory.client.sending = true) :
    (ssFlush memory).Within (AtOrAbove bufferRegOffset) := by
  unfold ssFlush
  rw [Code.get_bind_apply, if_pos (.inr sending)]
  trivial

/-- The functions of the port are registered as callbacks for an endpoint. -/
structure Registered (memory : Memory) : Prop where
  below : memory.client.ep.toNat < 12
  txDone : (memory.inEndpoints memory.client.ep.toNat).txDoneCallback = some .ssTxDone
  flush : (memory.inEndpoints memory.client.ep.toNat).flush = some .ssFlush
  rx : (memory.outEndpoints memory.client.ep.toNat).rxCallback = some .ssRx
  alone : (memory.inEndpoints memory.client.ep.toNat).transfer.buffer = none

/-- The library tells the port that the packet on offer has been collected. -/
theorem pollSent_spec (registered : Registered memory) :
    Triple device Hardware
      (fun usbdev => Port n objects memory lost offer held usbdev ∧
        usbdev.inSent memory.client.ep.toNat = true)
      (pollSent callTxDone memory.client.ep memory)
      (fun out usbdev => out.1 = .ok () ∧ Exists fun pool =>
        out.2 = { memory with pool := pool, client := { memory.client with sending := false } } ∧
        Port n objects out.2 lost [] held usbdev) := by
  rintro start finish out ⟨⟨known, away, slot, gathered, onOffer, tracked⟩, sent⟩ execution
  unfold pollSent at execution
  rw [Code.get_bind_apply, Code.lift_bind_apply] at execution
  rcases exec_bind execution with ⟨middle, ⟨result, pool⟩, clearing, execution⟩
  rcases clearTxStatus_tracked registered.below start middle _ ⟨tracked, sent⟩ clearing with
    ⟨cleared, tracked'⟩
  dsimp only at cleared tracked' execution
  rw [ownSlot_update] at tracked'
  have alone : (({ memory with pool := pool } : Memory).inEndpoints
      memory.client.ep.toNat).transfer.buffer = none := registered.alone
  rw [cleared, Code.set_bind_apply, tryDif_ok_bind, Code.bind_apply,
    continueTransfer_none alone, ret_bind] at execution
  unfold Code.andThen at execution
  dsimp only at execution
  rw [Code.get_bind_apply] at execution
  dsimp only at execution
  rw [registered.txDone] at execution
  rcases tracked'.returned execution with ⟨rfl, tracked''⟩
  refine ⟨rfl, pool, rfl, known, away, .idle, ?_, .idle, tracked''⟩
  cases gathered with
  | nothing none => exact .nothing none
  | bytes count front position filled words contains room =>
      exact .bytes count front position filled words contains ⟨room.1, nofun⟩

/-! ## Receiving -/

/-- Memory after some bytes have been received. -/
def receivedTo (memory : Memory) (pool : BufferPool) (bytes : Packet) : Memory :=
  { memory with
    pool := pool
    client := { memory.client with received := memory.client.received ++ bytes } }

theorem receivedTo_append (memory : Memory) (pool pool' : BufferPool) (bytes bytes' : Packet) :
    receivedTo (receivedTo memory pool bytes) pool' bytes' =
      receivedTo memory pool' (bytes ++ bytes') := by
  unfold receivedTo
  rw [<- List.append_assoc]

section

variable {slots : Nat -> Slot} {known : Nat -> Packet} {away : Multiset Nat} {packet : Packet}
  {done : Nat}

/-- One byte is read and passed on. -/
theorem ssRxLoop_succ {buf : Buffer} {left : Nat} {start finish : Controller}
    {out : Except Failure Unit × Memory} (contains : known buf.id.toNat = packet)
    (unread : Unread buf packet done) (more : done < packet.length)
    (tracked : Tracked n (away + {buf.id.toNat}) slots known ⟨start, memory.pool, objects⟩)
    (execution : Exec device Hardware start (ssRxLoop (left + 1) buf memory) finish out) :
    Exists fun middle => Exists fun pool => Exists fun pool' => Exists fun buf' =>
      bufferPoolAdd memory.pool buf.id = some pool' ∧
      pool = (if done + 1 < packet.length then memory.pool else pool') ∧
      buf'.id = buf.id ∧ ReadTo packet (done + 1) buf' ∧
      Tracked n (if done + 1 < packet.length then away + {buf.id.toNat} else away) slots known
        ⟨middle, pool, objects⟩ ∧
      Exec device Hardware middle
        (ssRxLoop left buf' (receivedTo memory pool ((packet.drop done).take 1))) finish out := by
  unfold ssRxLoop at execution
  rw [Code.get_bind_apply, Code.lift_bind_apply] at execution
  rcases exec_bind execution with ⟨middle, read, reading, execution⟩
  have one : (1 : BitVec 32).toNat = 1 := rfl
  rw [<- contains] at unread more ⊢
  rcases bufferRead_tracked 1 unread start middle read tracked reading with
    ⟨pool', added, part, sameId, readTo, tracked'⟩
  rw [one] at part readTo tracked'
  dsimp only at execution
  rw [part.result, Code.set_bind_apply, tryDif_ok_bind] at execution
  refine ⟨middle, read.2.1, pool', read.2.2.1, added, part.pool, sameId, readTo, tracked', ?_⟩
  have data : [read.2.2.2.headD 0] = ((known buf.id.toNat).drop done).take 1 := by
    rw [part.bytes, List.drop_eq_getElem_cons more]
    rfl
  unfold receivedTo
  rw [<- data]
  exact execution

/-- The bytes that have not been read are passed on, and with the last of them
the buffer is returned. -/
theorem ssRxLoop_spec (memory : Memory) {buf : Buffer} {left : Nat}
    (contains : known buf.id.toNat = packet) (unread : Unread buf packet done)
    (count : packet.length = done + left) :
    Triple device Hardware
      (fun usbdev => Tracked n (away + {buf.id.toNat}) slots known ⟨usbdev, memory.pool, objects⟩)
      (ssRxLoop left buf memory)
      (fun out usbdev => Exists fun pool => out = (.ok (), receivedTo memory pool
          (packet.drop done)) ∧
        if left = 0 then pool = memory.pool ∧
          Tracked n (away + {buf.id.toNat}) slots known ⟨usbdev, pool, objects⟩
        else bufferPoolAdd memory.pool buf.id = some pool ∧
          Tracked n away slots known ⟨usbdev, pool, objects⟩) := by
  induction left generalizing buf done memory with
  | zero =>
      have all : packet.drop done = [] := List.drop_of_length_le (by omega)
      rw [all]
      refine Triple.ret stable_tracked (fun usbdev tracked => ⟨memory.pool, ?_, ?_⟩)
      · unfold receivedTo
        rw [List.append_nil]
      · rw [if_pos rfl]
        exact ⟨rfl, tracked⟩
  | succ left ih =>
      intro start finish out tracked execution
      rcases ssRxLoop_succ contains unread (by omega) tracked execution with
        ⟨middle, pool, pool', buf', added, isPool, sameId, readTo, tracked', execution⟩
      simp only [if_neg (Nat.succ_ne_zero left)]
      have joined : (packet.drop done).take 1 ++ packet.drop (done + 1) = packet.drop done := by
        rw [<- List.drop_drop, List.take_append_drop]
      by_cases last : left = 0
      · subst last
        rw [if_neg (by omega)] at isPool tracked'
        subst isPool
        have all : (packet.drop done).take 1 = packet.drop done :=
          List.take_of_length_le (by rw [List.length_drop]; omega)
        rw [all] at execution
        rcases tracked'.returned execution with ⟨rfl, tracked''⟩
        exact ⟨pool, rfl, added, tracked''⟩
      · have more : done + 1 < packet.length := by omega
        rw [if_pos more] at isPool tracked'
        rw [ReadTo, if_pos more] at readTo
        subst isPool
        rw [<- sameId] at tracked' contains
        have rest := ih (receivedTo memory memory.pool ((packet.drop done).take 1)) contains readTo
          (by omega) middle finish out tracked' execution
        simp only [receivedTo_append, joined, if_neg last, sameId] at rest
        exact rest

/-- A packet waits, for an endpoint of the port. -/
structure Arriving (n : Nat) (objects : Nat -> Buffer) (memory : Memory) (lost : Multiset Nat)
    (offer : List Packet) (held : Packet) (entry : RxEntry) (packet : Packet)
    (usbdev : Controller) : Prop where
  intro ::
  port : Exists fun known => Exists fun away => Exists fun slot =>
    Gathered memory.client known lost away held ∧
      OnOffer known memory.client.sending slot offer ∧
      Waiting n away (ownSlot memory.client.ep.toNat slot) known memory.pool objects entry packet
        usbdev

variable {entry : RxEntry} {ssctx : SsCtx} {away : Multiset Nat} {known : Nat -> Packet}

/-- The packet that waits next. -/
theorem Port.arriving (port : Port n objects memory lost offer held usbdev)
    (head : usbdev.rxFifo.head? = some entry) (short : entry.size.toNat <= maxPacketSize) :
    Arriving n objects memory lost offer held entry (entry.packet usbdev) usbdev := by
  rcases port with ⟨known, away, slot, gathered, onOffer, tracked⟩
  exact ⟨known, away, slot, gathered, onOffer, tracked, head, beginsWith_packetBytes _ _ short⟩

/-- The buffers that are lost with a packet: the one of a packet without bytes. -/
def lostWith (entry : RxEntry) (packet : Packet) : Multiset Nat :=
  if packet = [] then {entry.received.id.toNat} else 0

/-- A buffer in hand other than that of the bytes gathered. -/
theorem Gathered.update {id : Nat} {pool : BufferPool} {slots : Nat -> Slot}
    {known' : Nat -> Packet} (gathered : Gathered ssctx known lost away held)
    (tracked : Tracked n (away + {id}) slots known' ⟨usbdev, pool, objects⟩) (bytes : Packet) :
    Gathered ssctx (update known id bytes) lost away held := by
  cases gathered with
  | nothing none => exact .nothing none
  | bytes count front position filled words contains room =>
      have apart : ssctx.curBuf.id.toNat ≠ id := tracked.apart_inHand
        (Multiset.mem_add.mpr (.inr (Multiset.mem_singleton_self _)))
      exact .bytes count front position filled words
        ((update_of_ne apart _ _).trans contains) room

theorem Gathered.more (gathered : Gathered ssctx known lost away held) (extra : Multiset Nat) :
    Gathered ssctx known (lost + extra) (away + extra) held := by
  cases gathered with
  | nothing none => exact .nothing none
  | bytes count front position filled words contains room =>
      rw [add_right_comm]
      exact .bytes count front position filled words contains room

theorem Gathered.received (gathered : Gathered ssctx known lost away held) (received : Packet) :
    Gathered { ssctx with received := received } known lost away held := by
  cases gathered with
  | nothing none => exact .nothing none
  | bytes count front position filled words contains room =>
      exact .bytes count front position filled words contains room

/-- What the callback of the port does with a packet in hand. -/
theorem dispatchReceived_spec {slots : Nat -> Slot} (registered : Registered memory)
    (here : entry.ep.toNat = memory.client.ep.toNat) (size : packet.length = entry.size.toNat)
    (short : packet.length <= maxPacketSize) :
    Triple device Hardware
      (fun usbdev => Tracked n (away + {entry.received.id.toNat}) slots
        (update known entry.received.id.toNat packet) ⟨usbdev, memory.pool, objects⟩)
      (dispatchReceived callRx entry.info entry.received memory)
      (fun out usbdev => Exists fun pool => out = (.ok (), receivedTo memory pool packet) ∧
        (entry.received.id ∈ pool.stack ↔ packet ≠ []) ∧
        Tracked n (away + lostWith entry packet) slots
          (update known entry.received.id.toNat packet) ⟨usbdev, pool, objects⟩) := by
  have small := entry.ep.isLt
  have endpoint : entry.info.endpoint.toNat = memory.client.ep.toNat := by
    rw [<- here, RxEntry.info, BitVec.toNat_setWidth]
    omega
  have length : entry.info.length.toNat = packet.length := by
    have small := entry.size.isLt
    rw [size, RxEntry.info, BitVec.toNat_setWidth]
    omega
  unfold dispatchReceived
  rw [Code.get_bind_apply, endpoint, inRange_bind registered.below, registered.rx]
  change Triple _ _ _ (ssRxLoop entry.info.length.toNat entry.received memory) _
  rw [length]
  intro start finish out tracked execution
  have loop := ssRxLoop_spec memory (update_self _ _ _) (entry.unread size short)
    (Nat.zero_add _).symm start finish out tracked execution
  rcases loop with ⟨pool, rfl, result⟩
  unfold lostWith
  by_cases empty : packet = []
  · rw [if_pos empty]
    rw [if_pos (by rw [empty]; rfl)] at result
    rcases result with ⟨rfl, tracked'⟩
    refine ⟨memory.pool, rfl, iff_of_false ?_ (fun some => some empty), tracked'⟩
    intro inside
    exact tracked'.account.accounted.not_held_of_inHand (Multiset.nodup_range _)
      (mem_places_pool n) (Multiset.mem_add.mpr (.inr (Multiset.mem_singleton_self _)))
      (Multiset.mem_coe.mpr (List.mem_map_of_mem inside))
  · rw [if_neg empty, add_zero]
    rw [if_neg (fun none => empty (List.length_eq_zero_iff.mp none))] at result
    rcases result with ⟨added, tracked'⟩
    refine ⟨pool, rfl, iff_of_true ?_ empty, tracked'⟩
    rw [(bufferPoolAdd_stack tracked.account.bounds added).1]
    exact List.mem_append_right _ (List.mem_singleton_self _)

/-- The library passes a packet on that has been received for the port.  Its
bytes are received, and unless there are none its buffer is returned. -/
theorem pollReceived_spec (registered : Registered memory)
    (here : entry.ep.toNat = memory.client.ep.toNat) (size : packet.length = entry.size.toNat)
    (short : packet.length <= maxPacketSize) :
    Triple device Hardware (Arriving n objects memory lost offer held entry packet)
      (pollReceived callRx memory)
      (fun out usbdev => Exists fun pool => out = (.ok true, receivedTo memory pool packet) ∧
        (entry.received.id ∈ pool.stack ↔ packet ≠ []) ∧
        Port n objects out.2 (lost + lostWith entry packet) offer held usbdev) := by
  rintro start finish out ⟨known, away, slot, gathered, onOffer, waiting⟩ execution
  unfold pollReceived at execution
  rw [Code.lift_bind_apply] at execution
  rcases exec_bind execution with ⟨middle, status, reading, execution⟩
  rcases rxFifoEmpty_waiting start middle status waiting reading with ⟨rfl, waiting⟩
  dsimp only at execution
  rw [tryDif_ok_bind, if_neg (by decide), Code.lift_bind_apply] at execution
  rcases exec_bind execution with ⟨later, result, receiving, execution⟩
  rcases recv_tracked middle later result ⟨waiting.tracked, waiting.head, waiting.begins⟩ receiving
    with ⟨rfl, tracked⟩
  dsimp only at execution
  rw [tryDif_ok_bind, Code.bind_apply] at execution
  rcases exec_bind execution with ⟨last, dispatched, dispatching, returning⟩
  have onOffer' := onOffer.update tracked registered.below
    (Multiset.mem_add.mpr (.inr (Multiset.mem_singleton_self _))) packet
  have gathered' := (gathered.update tracked packet).received (memory.client.received ++ packet)
  rcases dispatchReceived_spec registered here size short later last _ tracked dispatching with
    ⟨pool, rfl, isBack, tracked'⟩
  rcases tracked'.returned returning with ⟨rfl, tracked''⟩
  refine ⟨pool, rfl, isBack, _, _, slot, gathered'.more _, onOffer', tracked''⟩

end

end

end UsbSimpleserial
end SunburstChip
