import SunburstChip.Dif.UsbdevPackets
import SunburstChip.Lib.Segments
import SunburstChip.Testing.UsbTestutils

namespace SunburstChip
namespace UsbTestutils

open Mmio Usbdev Segments
open Function (update update_eq_self update_idem update_of_ne update_self)

/-!
# Larger transfers

A transfer is cut into packets as it goes.  With double buffering, the packet
after the one that is being sent is prepared at once if a buffer can be had,
and otherwise when it is due.  Either way it is the next piece of what is left,
so the packets that are collected by the host are the pieces of the data.
-/

/-! ## What is left of a transfer -/

/-- Whether a transfer is to be ended by a packet of length zero. -/
def employZlp (flags : XfrFlags) : Bool := decide (flags &&& kUsbTestutilsXfrEmployZLP ≠ 0)

namespace Transfer

/-- The data no packet has been prepared for. -/
def left (transfer : Transfer) : Packet :=
  ((transfer.buffer.getD []).take transfer.length.toNat).drop transfer.offset.toNat

/-- The packets for it. -/
def pieces (transfer : Transfer) : List Packet :=
  segments (maxPacket transfer.flags).toNat (employZlp transfer.flags) transfer.left

/-- The packets that are still to be prepared. -/
def pending (transfer : Transfer) : List Packet :=
  if transfer.last then [] else transfer.pieces

/-- The next packet to be prepared. -/
def packet (transfer : Transfer) : Packet := transfer.left.take (maxPacket transfer.flags).toNat

/-- The transfer is one of a part of its data, in packets of a possible size. -/
structure Sound (transfer : Transfer) : Prop where
  positive : 0 < (maxPacket transfer.flags).toNat
  bounded : (maxPacket transfer.flags).toNat <= maxPacketSize
  offset_le : transfer.offset.toNat <= transfer.length.toNat
  length_le : transfer.length.toNat <= (transfer.buffer.getD []).length

/-- A packet in this buffer has been prepared for a transfer. -/
structure Prepares (transfer : Transfer) (id : BitVec 8) (transfer' : Transfer) : Prop where
  sound : transfer'.Sound
  buffer : transfer'.buffer = transfer.buffer
  length : transfer'.length = transfer.length
  flags : transfer'.flags = transfer.flags
  id : transfer'.nextPart.id = id
  filled : Filled transfer'.nextPart transfer.packet
  pieces : transfer.pieces = transfer.packet :: transfer'.pending
  /-- Nothing is left to be prepared without data. -/
  last : transfer'.buffer = none -> transfer'.last = true

end Transfer

section

variable {κ γ : Type} {n : Nat} {away : Multiset Nat} {slots : Nat -> Slot} {known : Nat -> Packet}
  {objects : Nat -> Buffer} {transfer : Transfer}

theorem Transfer.Sound.length_left (sound : transfer.Sound) :
    transfer.left.length = transfer.length.toNat - transfer.offset.toNat := by
  unfold Transfer.left
  rw [List.length_drop, List.length_take, Nat.min_eq_left sound.length_le]

theorem Transfer.Sound.toNat_partLen (sound : transfer.Sound) :
    (partLen transfer).toNat = min (maxPacket transfer.flags).toNat transfer.left.length := by
  have difference : (transfer.length - transfer.offset).toNat =
      transfer.length.toNat - transfer.offset.toNat := by
    rw [BitVec.toNat_sub_of_le (BitVec.le_def.mpr sound.offset_le)]
  rw [sound.length_left, <- difference]
  unfold partLen
  split
  · next less => exact (Nat.min_eq_left (Nat.le_of_lt (BitVec.lt_def.mp less))).symm
  · next less => exact (Nat.min_eq_right (Nat.not_lt.mp (fun lt => less (BitVec.lt_def.mpr lt)))).symm

theorem Transfer.Sound.take_packet (sound : transfer.Sound) :
    ((transfer.buffer.getD []).drop transfer.offset.toNat).take (partLen transfer).toNat =
      transfer.packet := by
  rw [sound.toNat_partLen, sound.length_left, Transfer.packet, Transfer.left, List.drop_take,
    List.take_take]

theorem Transfer.Sound.length_packet (sound : transfer.Sound) :
    transfer.packet.length = (partLen transfer).toNat := by
  rw [Transfer.packet, List.length_take, sound.toNat_partLen]

/-- There is data if a part is to be sent. -/
theorem Transfer.Sound.some (sound : transfer.Sound) (part : partLen transfer ≠ 0) :
    transfer.buffer.isSome = true := by
  cases buffer : transfer.buffer with
  | some data => rfl
  | none =>
      have none : transfer.left = [] := by
        rw [Transfer.left, buffer]
        simp
      have zero := sound.toNat_partLen
      rw [none, List.length_nil, Nat.min_zero] at zero
      exact absurd (BitVec.eq_of_toNat_eq zero) part

/-- Filling a buffer that has just been requested. -/
theorem fillPart_spec (sound : transfer.Sound) (id : BitVec 8) (pool : BufferPool)
    (state : State κ γ) :
    Triple device Hardware
      (fun usbdev => Tracked n away slots (update known id.toNat [])
        ⟨usbdev, pool, objects⟩)
      (fillPart transfer (emptyBuffer id) state)
      (fun out usbdev =>
        out = (.ok (partLen transfer, (emptyBuffer id).written transfer.packet), state) ∧
        Tracked n away slots (update known id.toNat transfer.packet)
          ⟨usbdev, pool, objects⟩) := by
  have length := sound.length_packet
  have short : transfer.packet.length <= maxPacketSize := by
    rw [length, sound.toNat_partLen]
    exact Nat.le_trans (Nat.min_le_left _ _) sound.bounded
  unfold fillPart
  by_cases part : partLen transfer ≠ 0
  · rw [if_pos part, sound.take_packet, if_pos (sound.some part)]
    have room : ([] : Packet).length + transfer.packet.length <= maxPacketSize := by
      rw [List.length_nil, Nat.zero_add]
      exact short
    have fits : transfer.packet.length <= (emptyBuffer id).remainingBytes.toNat := short
    have writing : Triple device Hardware
        (fun usbdev => Tracked n away slots (update known id.toNat [])
          ⟨usbdev, pool, objects⟩)
        (difUsbdevBufferWrite .object .object .object (emptyBuffer id) transfer.packet)
        (fun out usbdev => out = (.kDifOk, (emptyBuffer id).written transfer.packet,
            transfer.packet.length) ∧
          Tracked n away slots (update known id.toNat ([] ++ transfer.packet))
            ⟨usbdev, pool, objects⟩) :=
      bufferWrite_tracked rfl rfl room fits
    refine Code.triple_lift_ok _ writing ?_
    have count : BitVec.ofNat 32 transfer.packet.length = partLen transfer := by
      rw [length, BitVec.ofNat_toNat, BitVec.setWidth_eq]
    refine Triple.ret stable_tracked (fun usbdev tracked => ⟨?_, tracked⟩)
    rw [count]
  · have zero := not_not.mp part
    have none : transfer.packet = [] := by
      rw [zero] at length
      exact List.length_eq_zero_iff.mp length
    rw [if_neg part, none, zero, written_nil]
    exact Triple.ret stable_tracked (fun usbdev tracked => ⟨rfl, tracked⟩)

/-- Another packet follows this one. -/
def More (transfer : Transfer) : Prop :=
  partLen transfer = maxPacket transfer.flags ∧
    (transfer.offset + partLen transfer < transfer.length ∨
      transfer.flags &&& kUsbTestutilsXfrEmployZLP ≠ 0)

instance (transfer : Transfer) : Decidable (More transfer) :=
  inferInstanceAs (Decidable (_ ∧ _))

/-- The transfer after its next packet has been prepared. -/
def Transfer.prepared (transfer : Transfer) (id : BitVec 8) : Transfer :=
  { transfer with
    offset := transfer.offset + partLen transfer
    last := !decide (More transfer)
    nextPart := (emptyBuffer id).written transfer.packet }

theorem Transfer.Sound.toNat_offset (sound : transfer.Sound) :
    (transfer.offset + partLen transfer).toNat =
        transfer.offset.toNat + min (maxPacket transfer.flags).toNat transfer.left.length ∧
      (transfer.offset + partLen transfer).toNat <= transfer.length.toNat := by
  have least := Nat.min_le_right (maxPacket transfer.flags).toNat transfer.left.length
  have part := sound.toNat_partLen
  have length := sound.length_left
  have within := sound.offset_le
  have range := transfer.length.isLt
  rw [BitVec.toNat_add, part]
  omega

theorem Transfer.Sound.left_prepared (sound : transfer.Sound) (id : BitVec 8) :
    (transfer.prepared id).left =
      transfer.left.drop (min (maxPacket transfer.flags).toNat transfer.left.length) := by
  change ((transfer.buffer.getD []).take transfer.length.toNat).drop
    (transfer.offset + partLen transfer).toNat = _
  rw [sound.toNat_offset.1, <- List.drop_drop]
  rfl

theorem Transfer.Sound.more_iff (sound : transfer.Sound) :
    More transfer ↔ (maxPacket transfer.flags).toNat < transfer.left.length ∨
      (maxPacket transfer.flags).toNat = transfer.left.length ∧
        employZlp transfer.flags = true := by
  have full : partLen transfer = maxPacket transfer.flags ↔
      (maxPacket transfer.flags).toNat <= transfer.left.length := by
    rw [BitVec.toNat_eq, sound.toNat_partLen]
    exact min_eq_left_iff
  have rest : transfer.offset + partLen transfer < transfer.length ↔
      min (maxPacket transfer.flags).toNat transfer.left.length < transfer.left.length := by
    have length := sound.length_left
    have within := sound.offset_le
    rw [BitVec.lt_def, sound.toNat_offset.1]
    omega
  unfold More employZlp
  rw [full, rest, decide_eq_true_iff]
  constructor
  · rintro ⟨enough, less | zlp⟩
    · exact .inl (by rwa [Nat.min_eq_left enough] at less)
    · exact (Nat.lt_or_eq_of_le enough).imp_right (fun same => ⟨same, zlp⟩)
  · rintro (longer | ⟨same, zlp⟩)
    · have enough := Nat.le_of_lt longer
      exact ⟨enough, .inl (by rwa [Nat.min_eq_left enough])⟩
    · exact ⟨Nat.le_of_eq same, .inr zlp⟩

theorem Transfer.Sound.prepares (sound : transfer.Sound) (id : BitVec 8) :
    transfer.Prepares id (transfer.prepared id) := by
  have left := sound.left_prepared id
  refine ⟨⟨sound.positive, sound.bounded, sound.toNat_offset.2, sound.length_le⟩, rfl, rfl, rfl,
    rfl, ?_, ?_, ?_⟩
  · have short : transfer.packet.length <= maxPacketSize := by
      rw [sound.length_packet, sound.toNat_partLen]
      exact Nat.le_trans (Nat.min_le_left _ _) sound.bounded
    exact (filled_nil id).written (by rw [List.length_nil, Nat.zero_add]; exact short)
  · by_cases more : More transfer
    · have open' := sound.more_iff.mp more
      have enough : (maxPacket transfer.flags).toNat <= transfer.left.length :=
        open'.elim Nat.le_of_lt (fun same => Nat.le_of_eq same.1)
      have unfinished : (transfer.prepared id).pending = (transfer.prepared id).pieces := by
        rw [Transfer.pending, if_neg]
        rw [show (transfer.prepared id).last = !decide (More transfer) from rfl,
          decide_eq_true more]
        exact Bool.false_ne_true
      rw [unfinished, Transfer.pieces, segments_more sound.positive open', Transfer.pieces, left,
        Nat.min_eq_left enough]
      rfl
    · have finished : (transfer.prepared id).pending = [] := by
        rw [Transfer.pending, if_pos]
        rw [show (transfer.prepared id).last = !decide (More transfer) from rfl,
          decide_eq_false more]
        rfl
      have closed := (not_congr sound.more_iff).mp more
      have short : transfer.left.length <= (maxPacket transfer.flags).toNat :=
        Nat.not_lt.mp (fun longer => closed (.inl longer))
      have last : transfer.left.length < (maxPacket transfer.flags).toNat ∨
          transfer.left.length = (maxPacket transfer.flags).toNat ∧
            employZlp transfer.flags = false := by
        rcases Nat.lt_or_eq_of_le short with shorter | same
        · exact .inl shorter
        · exact .inr ⟨same, Bool.eq_false_iff.mpr (fun zlp => closed (.inr ⟨same.symm, zlp⟩))⟩
      rw [finished, Transfer.pieces, segments_last last, Transfer.packet,
        List.take_of_length_le short]
  · intro (missing : transfer.buffer = none)
    have empty : transfer.left = [] := by
      rw [Transfer.left, missing]
      simp
    have less : ¬ More transfer := by
      rw [sound.more_iff, empty, List.length_nil]
      rintro (longer | ⟨same, _⟩)
      · exact absurd longer (Nat.not_lt_zero _)
      · exact absurd sound.positive (Nat.not_lt.mpr (Nat.le_of_eq same))
    rw [show (transfer.prepared id).last = !decide (More transfer) from rfl,
      decide_eq_false less]
    rfl

/-! ## Preparing and sending a packet -/

/-- A packet is prepared, or no buffer can be had. -/
theorem partPrepare_spec (sound : transfer.Sound) (state : State κ γ) :
    Triple device Hardware
      (fun usbdev => Tracked n away slots known ⟨usbdev, state.pool, objects⟩)
      (usbTestutilsPartPrepare transfer state)
      (fun out usbdev =>
        (out = (.ok (false, transfer), state) ∧
          Tracked n away slots known ⟨usbdev, state.pool, objects⟩) ∨
        Exists fun id => Exists fun pool =>
          out = (.ok (true, transfer.prepared id), { state with pool := pool }) ∧
          ¬ Mine away slots id.toNat ∧
          Tracked n (away + {id.toNat}) slots (update known id.toNat transfer.packet)
            ⟨usbdev, pool, objects⟩) := by
  intro start finish out tracked execution
  unfold usbTestutilsPartPrepare at execution
  rw [Code.get_bind_apply] at execution
  rcases request_tracked tracked with unavailable | ⟨id, pool, taken, _, fresh, given⟩
  · rw [unavailable] at execution
    dsimp only at execution
    exact .inl (tracked.returned execution)
  · rw [taken] at execution
    dsimp only at execution
    rw [Code.set_bind_apply] at execution
    have within : decide (partLen transfer <= maxPacket transfer.flags) = true := by
      rw [decide_eq_true_iff, BitVec.le_def, sound.toNat_partLen]
      exact Nat.min_le_left _ _
    have some : Triple device Hardware
        (fun usbdev => Tracked n (away + {id.toNat}) slots (update known id.toNat [])
          ⟨usbdev, pool, objects⟩)
        ((fillPart transfer (emptyBuffer id) >>= fun filled => do
          check (decide (filled.1 <= maxPacket transfer.flags))
          pure (true, { transfer with
            offset := transfer.offset + filled.1
            last := !decide (filled.1 = maxPacket transfer.flags ∧
              (transfer.offset + filled.1 < transfer.length ∨
                transfer.flags &&& kUsbTestutilsXfrEmployZLP ≠ 0))
            nextPart := filled.2 }) : Code (State κ γ) Failure (Bool × Transfer))
          { state with pool := pool })
        (fun out usbdev => out = (.ok (true, transfer.prepared id), { state with pool := pool }) ∧
          Tracked n (away + {id.toNat}) slots (update known id.toNat transfer.packet)
            ⟨usbdev, pool, objects⟩) := by
      refine Code.triple_bind_ok _ (fillPart_spec sound id pool { state with pool := pool }) ?_
      rw [check_bind within]
      exact Triple.ret stable_tracked (fun usbdev tracked => ⟨rfl, tracked⟩)
    rcases some start finish out given execution with ⟨done, after⟩
    exact .inr ⟨id, pool, done, fresh, after⟩

/-- One endpoint in a state of its own; others are not tracked. -/
def ownSlot (ep : Nat) (slot : Slot) : Nat -> Slot :=
  update (fun _ => .untracked) ep slot

theorem ownSlot_update (ep : Nat) (slot slot' : Slot) :
    update (ownSlot ep slot) ep slot' = ownSlot ep slot' :=
  update_idem _ _ _

/-- An endpoint with no packet on offer. -/
theorem tracked_idle {n ep : Nat} {known : Nat -> Packet} {system : System}
    (reachable : Usbdev.Reachable n system) (unused : system.controller.Pending ep = false) :
    Tracked n 0 (ownSlot ep .idle) known system := by
  apply reachable.tracked
  · intro endpoint
    by_cases own : endpoint = ep
    · rw [own, ownSlot, update_self]
      exact unused
    · rw [ownSlot, update_of_ne own]
      trivial
  · intro endpoint buffer size holds
    by_cases own : endpoint = ep
    · rw [own, ownSlot, update_self] at holds
      cases holds
    · rw [ownSlot, update_of_ne own] at holds
      cases holds

theorem elsewhere_ownSlot {ep : Nat} {call : Call} (elsewhere : call.Elsewhere (ownSlot ep .idle))
    (slot : Slot) : call.Elsewhere (ownSlot ep slot) := by
  have other {endpoint : Nat} (untracked : ownSlot ep .idle endpoint = .untracked) :
      ownSlot ep slot endpoint = .untracked := by
    have apart : endpoint ≠ ep := by
      rintro rfl
      rw [ownSlot, update_self] at untracked
      cases untracked
    exact update_of_ne apart _ _
  cases call with
  | send usbdev endpoint buffer object => exact other elsewhere
  | clearTxStatus usbdev bufferPool endpoint => exact other elsewhere
  | _ => trivial

/-- The endpoint offers a packet of a transfer, and these are to follow; the
first of them may have been prepared. -/
structure Offers (n ep : Nat) (objects : Nat -> Buffer) (packet : Packet) (rest : List Packet)
    (transfer : Transfer) (pool : BufferPool) (usbdev : Controller) : Prop where
  sound : transfer.Sound
  alone : transfer.buffer = none -> transfer.nextValid = false ∧ transfer.last = true
  ahead : Exists fun known => Exists fun id => known id = packet ∧
    (transfer.nextValid = false ∧ rest = transfer.pending ∧
        Tracked n 0 (ownSlot ep (.holds id packet.length)) known ⟨usbdev, pool, objects⟩ ∨
      transfer.nextValid = true ∧ Exists fun next =>
        Filled transfer.nextPart next ∧ known transfer.nextPart.id.toNat = next ∧
        rest = next :: transfer.pending ∧
        Tracked n {transfer.nextPart.id.toNat} (ownSlot ep (.holds id packet.length)) known
          ⟨usbdev, pool, objects⟩)

theorem prepareAhead_spec (sound : transfer.Sound) (state : State κ γ) :
    Triple device Hardware
      (fun usbdev => Tracked n away slots known ⟨usbdev, state.pool, objects⟩)
      (prepareAhead transfer state)
      (fun out usbdev =>
        (out = (.ok (false, transfer), state) ∧
          Tracked n away slots known ⟨usbdev, state.pool, objects⟩) ∨
        Exists fun id => Exists fun pool =>
          out = (.ok (true, transfer.prepared id), { state with pool := pool }) ∧
          transfer.last = false ∧ ¬ Mine away slots id.toNat ∧
          Tracked n (away + {id.toNat}) slots (update known id.toNat transfer.packet)
            ⟨usbdev, pool, objects⟩) := by
  unfold prepareAhead
  by_cases ahead : transfer.flags &&& kUsbTestutilsXfrDoubleBuffered ≠ 0 ∧ !transfer.last
  · rw [if_pos ahead]
    refine (partPrepare_spec sound state).consequence (fun _ tracked => tracked) ?_
    rintro out usbdev (none | ⟨id, pool, done, fresh, tracked⟩)
    · exact .inl none
    · exact .inr ⟨id, pool, done, (Bool.not_eq_true' _).mp ahead.2, fresh, tracked⟩
  · rw [if_neg ahead]
    exact Triple.ret stable_tracked (fun usbdev tracked => .inl ⟨rfl, tracked⟩)

variable {ep : BitVec 8} {rest : List Packet} {state : State κ γ}

/-- The second half of `usb_testutils_transfer_next_part` sends the packet that
has been prepared. -/
theorem sendNextPart_spec {packet : Packet} (below : ep.toNat < 12) (sound : transfer.Sound)
    (alone : transfer.buffer = none -> transfer.last = true)
    (filled : Filled transfer.nextPart packet)
    (contains : known transfer.nextPart.id.toNat = packet) (state : State κ γ) :
    Triple device Hardware
      (fun usbdev => Tracked n {transfer.nextPart.id.toNat} (ownSlot ep.toNat .idle) known
        ⟨usbdev, state.pool, objects⟩)
      (sendNextPart ep transfer state)
      (fun out usbdev => Exists fun transfer' => Exists fun pool =>
        out = (.ok (), ({ state with pool := pool }).setTransfer ep.toNat transfer') ∧
        Offers n ep.toNat objects packet transfer.pending transfer' pool usbdev) := by
  have short := filled.short
  have sending : Triple device Hardware
      (fun usbdev => Tracked n {transfer.nextPart.id.toNat} (ownSlot ep.toNat .idle) known
        ⟨usbdev, state.pool, objects⟩)
      (difUsbdevSend .object ep .object transfer.nextPart)
      (fun out usbdev =>
        out = (.kDifOk, { transfer.nextPart with type := .kDifUsbdevBufferTypeStale }) ∧
        Tracked n 0 (ownSlot ep.toNat (.holds transfer.nextPart.id.toNat packet.length)) known
          ⟨usbdev, state.pool, objects⟩) := by
    have offset : transfer.nextPart.offset.toNat < 128 := by
      rw [filled.offset]
      exact Nat.lt_of_le_of_lt short (by decide)
    have idle : ownSlot ep.toNat .idle ep.toNat = .idle := update_self _ _ _
    have sent : Triple device Hardware
        (fun usbdev => Tracked n (0 + {transfer.nextPart.id.toNat}) (ownSlot ep.toNat .idle) known
          ⟨usbdev, state.pool, objects⟩) _ _ := send_tracked below filled.type offset idle
    rw [zero_add, filled.offset, ownSlot_update] at sent
    exact sent
  -- The transfer with the packet gone.
  let gone : Transfer := { transfer with
    nextPart := { transfer.nextPart with type := .kDifUsbdevBufferTypeStale }, nextValid := false }
  have soundGone : gone.Sound := ⟨sound.positive, sound.bounded, sound.offset_le, sound.length_le⟩
  unfold sendNextPart
  refine Code.triple_lift_ok _ sending ?_
  dsimp only
  rw [checkDifOk_ok_bind, Code.bind_apply]
  refine Triple.bind (prepareAhead_spec soundGone state) ?_
  rintro prepared start finish out (⟨rfl, tracked⟩ | ⟨id, pool, rfl, more, fresh, tracked⟩) execution
  · rcases tracked.returned execution with ⟨done, after⟩
    exact ⟨gone, state.pool, done, soundGone, fun none => ⟨rfl, alone none⟩, known, _, contains,
      .inl ⟨rfl, rfl, after⟩⟩
  · rw [zero_add] at tracked
    have prepares := soundGone.prepares id
    have apart : transfer.nextPart.id.toNat ≠ id.toNat := by
      intro same
      refine fresh (.inr ⟨ep.toNat, below, packet.length, ?_⟩)
      rw [<- same]
      exact update_self _ _ _
    rcases tracked.returned execution with ⟨done, after⟩
    refine ⟨{ gone.prepared id with nextValid := true }, pool, done, ?_, ?_, ?_⟩
    · exact ⟨prepares.sound.positive, prepares.sound.bounded, prepares.sound.offset_le,
        prepares.sound.length_le⟩
    · intro none
      exact absurd ((alone none).symm.trans more) (by decide)
    · have pending : transfer.pending = gone.pieces := by
        rw [Transfer.pending, if_neg]
        · rfl
        · rw [show transfer.last = false from more]
          exact Bool.false_ne_true
      refine ⟨_, _, (update_of_ne apart _ _).trans contains, .inr ⟨rfl, gone.packet,
        prepares.filled, update_self _ _ _, ?_, after⟩⟩
      rw [pending, prepares.pieces]
      rfl

theorem Offers.hardware {ep : Nat} {packet : Packet} {pool : BufferPool}
    {usbdev usbdev' : Controller} (offers : Offers n ep objects packet rest transfer pool usbdev)
    (move : Hardware usbdev usbdev') : Offers n ep objects packet rest transfer pool usbdev' := by
  rcases offers.ahead with ⟨known, id, contains, ⟨invalid, last, tracked⟩ |
    ⟨valid, next, filled, holds, more, tracked⟩⟩
  · exact ⟨offers.sound, offers.alone, known, id, contains,
      .inl ⟨invalid, last, tracked.hardware move⟩⟩
  · exact ⟨offers.sound, offers.alone, known, id, contains,
      .inr ⟨valid, next, filled, holds, more, tracked.hardware move⟩⟩

theorem stable_offers {ep : Nat} {packet : Packet} {pool : BufferPool} :
    Stable Hardware (Offers n ep objects packet rest transfer pool) :=
  fun _ _ move offers => offers.hardware move

theorem sendThenTrue_spec {packet : Packet} (below : ep.toNat < 12) (sound : transfer.Sound)
    (alone : transfer.buffer = none -> transfer.last = true)
    (filled : Filled transfer.nextPart packet)
    (contains : known transfer.nextPart.id.toNat = packet) (state : State κ γ) :
    Triple device Hardware
      (fun usbdev => Tracked n {transfer.nextPart.id.toNat} (ownSlot ep.toNat .idle) known
        ⟨usbdev, state.pool, objects⟩)
      ((sendNextPart ep transfer >>= fun _ => pure true) state)
      (fun out usbdev => Exists fun transfer' => Exists fun pool =>
        out = (.ok true, ({ state with pool := pool }).setTransfer ep.toNat transfer') ∧
        Offers n ep.toNat objects packet transfer.pending transfer' pool usbdev) := by
  rw [Code.bind_apply]
  refine Triple.bind (sendNextPart_spec below sound alone filled contains state) ?_
  rintro sent start finish out ⟨transfer', pool, rfl, offers⟩ execution
  exact ⟨transfer', pool, Triple.returned stable_offers offers execution⟩

/-- A packet that has been prepared is sent. -/
theorem nextPart_valid {packet : Packet} (below : ep.toNat < 12)
    (entry : (state.inEndpoints ep.toNat).transfer = transfer) (valid : transfer.nextValid = true)
    (sound : transfer.Sound) (alone : transfer.buffer = none -> transfer.last = true)
    (filled : Filled transfer.nextPart packet)
    (contains : known transfer.nextPart.id.toNat = packet) :
    Triple device Hardware
      (fun usbdev => Tracked n {transfer.nextPart.id.toNat} (ownSlot ep.toNat .idle) known
        ⟨usbdev, state.pool, objects⟩)
      (usbTestutilsTransferNextPart ep state)
      (fun out usbdev => Exists fun transfer' => Exists fun pool =>
        out = (.ok true, ({ state with pool := pool }).setTransfer ep.toNat transfer') ∧
        Offers n ep.toNat objects packet transfer.pending transfer' pool usbdev) := by
  unfold usbTestutilsTransferNextPart
  rw [Code.get_bind_apply, inRange_bind below]
  dsimp only
  rw [entry, if_pos valid, Code.pure_bind_apply, if_pos rfl]
  exact sendThenTrue_spec below sound alone filled contains state

/-- Otherwise the next packet is prepared and sent, if a buffer can be had. -/
theorem nextPart_invalid (below : ep.toNat < 12)
    (entry : (state.inEndpoints ep.toNat).transfer = transfer)
    (invalid : transfer.nextValid = false) (sound : transfer.Sound) :
    Triple device Hardware
      (fun usbdev => Tracked n 0 (ownSlot ep.toNat .idle) known ⟨usbdev, state.pool, objects⟩)
      (usbTestutilsTransferNextPart ep state)
      (fun out usbdev =>
        (out = (.ok false, state) ∧
          Tracked n 0 (ownSlot ep.toNat .idle) known ⟨usbdev, state.pool, objects⟩) ∨
        Exists fun packet => Exists fun rest => Exists fun transfer' => Exists fun pool =>
          transfer.pieces = packet :: rest ∧
          out = (.ok true, ({ state with pool := pool }).setTransfer ep.toNat transfer') ∧
          Offers n ep.toNat objects packet rest transfer' pool usbdev) := by
  unfold usbTestutilsTransferNextPart
  rw [Code.get_bind_apply, inRange_bind below]
  dsimp only
  rw [entry, if_neg (by rw [invalid]; exact Bool.false_ne_true), Code.bind_apply]
  refine Triple.bind (partPrepare_spec sound state) ?_
  rintro prepared start finish out (⟨rfl, tracked⟩ | ⟨id, pool, rfl, fresh, tracked⟩) execution
  · exact .inl (tracked.returned execution)
  · have prepares := sound.prepares id
    rw [zero_add] at tracked
    have sent := sendThenTrue_spec below prepares.sound prepares.last prepares.filled
      (update_self _ _ _) { state with pool := pool } start finish out tracked execution
    rcases sent with ⟨transfer', pool', done, offers⟩
    exact .inr ⟨_, _, transfer', pool', prepares.pieces, done, offers⟩

/-! ## Completions -/

/-- The endpoint is free for another transfer. -/
def Free (n ep : Nat) (objects : Nat -> Buffer) (pool : BufferPool) (usbdev : Controller) : Prop :=
  Exists fun known => Tracked n 0 (ownSlot ep .idle) known ⟨usbdev, pool, objects⟩

/-- What follows the completion of a packet: the last one ends the transfer,
another one is sent, or no buffer can be had for it. -/
inductive Continued (n ep : Nat) (objects : Nat -> Buffer) (state : State κ γ) (usbdev : Controller) :
    List Packet -> Bool -> XfrResult -> State κ γ -> Prop where
  | finished (transfer : Transfer) (forgotten : transfer.buffer = none)
      (free : Free n ep objects state.pool usbdev) :
      Continued n ep objects state usbdev [] true .kUsbTestutilsXfrResultOk
        (state.setTransfer ep transfer)
  | failed (transfer : Transfer) (packet : Packet) (rest : List Packet)
      (forgotten : transfer.buffer = none) (free : Free n ep objects state.pool usbdev) :
      Continued n ep objects state usbdev (packet :: rest) true .kUsbTestutilsXfrResultFailed
        (state.setTransfer ep transfer)
  | underway (transfer : Transfer) (pool : BufferPool) (packet : Packet) (rest : List Packet)
      (offers : Offers n ep objects packet rest transfer pool usbdev) :
      Continued n ep objects state usbdev (packet :: rest) false .kUsbTestutilsXfrResultOk
        (({ state with pool := pool }).setTransfer ep transfer)

theorem State.setTransfer_self (state : State κ γ) (ep : Nat) :
    state.setTransfer ep (state.inEndpoints ep).transfer = state := by
  unfold State.setTransfer State.setIn
  rw [show ({ state.inEndpoints ep with transfer := (state.inEndpoints ep).transfer } :
    InEndpoint κ) = state.inEndpoints ep from rfl, update_eq_self]

/-- The endpoint has nothing on offer, and these packets are still to be sent;
the first of them may have been prepared. -/
def Rests (n ep : Nat) (objects : Nat -> Buffer) (rest : List Packet) (transfer : Transfer)
    (pool : BufferPool) (usbdev : Controller) : Prop :=
  transfer.nextValid = false ∧ rest = transfer.pending ∧ Free n ep objects pool usbdev ∨
  transfer.nextValid = true ∧ Exists fun next => Exists fun known =>
    Filled transfer.nextPart next ∧ known transfer.nextPart.id.toNat = next ∧
    rest = next :: transfer.pending ∧
    Tracked n {transfer.nextPart.id.toNat} (ownSlot ep .idle) known ⟨usbdev, pool, objects⟩

/-- The packet that follows is sent, unless there is none or no buffer can be had. -/
theorem sendFurther_spec (below : ep.toNat < 12)
    (entry : (state.inEndpoints ep.toNat).transfer = transfer) (sound : transfer.Sound)
    (alone : transfer.buffer = none -> transfer.last = true) :
    Triple device Hardware (Rests n ep.toNat objects rest transfer state.pool)
      (sendFurther ep state)
      (fun out usbdev =>
        (out = (.ok (true, .kUsbTestutilsXfrResultOk), state) ∧ rest = [] ∧
          Free n ep.toNat objects state.pool usbdev) ∨
        (out = (.ok (true, .kUsbTestutilsXfrResultFailed), state) ∧ rest ≠ [] ∧
          Free n ep.toNat objects state.pool usbdev) ∨
        Exists fun packet => Exists fun further => Exists fun transfer' => Exists fun pool =>
          rest = packet :: further ∧
          out = (.ok (false, .kUsbTestutilsXfrResultOk),
            ({ state with pool := pool }).setTransfer ep.toNat transfer') ∧
          Offers n ep.toNat objects packet further transfer' pool usbdev) := by
  rintro start finish out (⟨invalid, remains, known, tracked⟩ |
    ⟨valid, next, known, filled, holds, remains, tracked⟩) execution
  · unfold sendFurther at execution
    rw [Code.get_bind_apply] at execution
    rw [entry] at execution
    cases last : transfer.last with
    | true =>
        rw [Transfer.pending, if_pos last] at remains
        rw [if_neg (by rw [invalid, last]; decide)] at execution
        rcases tracked.returned execution with ⟨done, after⟩
        exact .inl ⟨done, remains, known, after⟩
    | false =>
        rw [Transfer.pending, if_neg (by rw [last]; exact Bool.false_ne_true)] at remains
        rw [if_pos (by rw [last]; exact .inr rfl), Code.bind_apply] at execution
        rcases exec_bind execution with ⟨middle, sent, sending, returning⟩
        rcases nextPart_invalid below entry invalid sound start middle sent tracked sending with
          ⟨rfl, tracked⟩ | ⟨packet, further, transfer', pool, pieces, rfl, offers⟩
        · rcases tracked.returned returning with ⟨done, after⟩
          refine .inr (.inl ⟨done, ?_, known, after⟩)
          rw [remains]
          exact segments_ne_nil
        · exact .inr (.inr ⟨packet, further, transfer', pool, remains.trans pieces,
            Triple.returned stable_offers offers returning⟩)
  · unfold sendFurther at execution
    rw [Code.get_bind_apply, entry, if_pos (.inl valid), Code.bind_apply] at execution
    rcases exec_bind execution with ⟨middle, sent, sending, returning⟩
    rcases nextPart_valid below entry valid sound alone filled holds start middle sent tracked
      sending with ⟨transfer', pool, rfl, offers⟩
    exact .inr (.inr ⟨next, transfer.pending, transfer', pool, remains,
      Triple.returned stable_offers offers returning⟩)

/-- After a completion, where `rest` is still to be sent. -/
theorem continueTransfer_spec (below : ep.toNat < 12)
    (entry : (state.inEndpoints ep.toNat).transfer = transfer) (sound : transfer.Sound)
    (alone : transfer.buffer = none -> transfer.nextValid = false ∧ transfer.last = true) :
    Triple device Hardware (Rests n ep.toNat objects rest transfer state.pool)
      (continueTransfer ep state)
      (fun out usbdev => Exists fun done => Exists fun res =>
        out.1 = .ok (done, res) ∧
          Continued n ep.toNat objects state usbdev rest done res out.2) := by
  intro start finish out rests execution
  cases buffer : transfer.buffer with
  | none =>
      rw [continueTransfer_none (by rw [entry, buffer])] at execution
      rcases rests with ⟨_, remains, known, tracked⟩ | ⟨valid, _⟩
      · rw [Transfer.pending, if_pos (alone buffer).2] at remains
        rcases tracked.returned execution with ⟨rfl, after⟩
        have finished : Continued n ep.toNat objects state finish [] true
            .kUsbTestutilsXfrResultOk (state.setTransfer ep.toNat transfer) :=
          .finished transfer buffer ⟨known, after⟩
        rw [<- entry, State.setTransfer_self] at finished
        exact ⟨true, _, rfl, remains ▸ finished⟩
      · rw [(alone buffer).1] at valid
        cases valid
  | some data =>
      unfold continueTransfer at execution
      rw [Code.get_bind_apply, if_neg (by rw [entry, buffer]; exact Bool.false_ne_true),
        Code.bind_apply] at execution
      rcases exec_bind execution with ⟨middle, sent, sending, returning⟩
      rcases sendFurther_spec below entry sound (fun none => (alone none).2) start middle sent rests
        sending with ⟨rfl, remains, known, tracked⟩ | ⟨rfl, remains, known, tracked⟩ |
        ⟨packet, further, transfer', pool, remains, rfl, offers⟩
      · rcases tracked.returned returning with ⟨rfl, after⟩
        exact ⟨true, _, rfl, remains ▸ .finished _ rfl ⟨known, after⟩⟩
      · rcases tracked.returned returning with ⟨rfl, after⟩
        rcases List.exists_cons_of_ne_nil remains with ⟨packet, further, remains⟩
        exact ⟨true, _, rfl, remains ▸ .failed _ packet further rfl ⟨known, after⟩⟩
      · rcases Triple.returned stable_offers offers returning with ⟨rfl, after⟩
        exact ⟨false, _, rfl, remains ▸ .underway _ pool packet further after⟩

/-! ## Beginning a transfer -/

theorem State.transfer_setTransfer (state : State κ γ) (ep : Nat) (transfer : Transfer) :
    ((state.setTransfer ep transfer).inEndpoints ep).transfer = transfer := by
  unfold State.setTransfer State.setIn
  dsimp only
  rw [update_self]

theorem State.setTransfer_setTransfer (state : State κ γ) (ep : Nat) (pool : BufferPool)
    (transfer transfer' : Transfer) :
    ({ state.setTransfer ep transfer with pool := pool }).setTransfer ep transfer' =
      ({ state with pool := pool }).setTransfer ep transfer' := by
  unfold State.setTransfer State.setIn
  dsimp only
  rw [update_self, update_idem]

/-- A transfer of `data` that is about to begin. -/
def Transfer.begun (transfer : Transfer) (data : Option Packet) (length : BitVec 32)
    (flags : XfrFlags) : Transfer :=
  { transfer with buffer := data, offset := 0, length := length, flags := flags, nextValid := false }

/-- Data is accepted with a first packet, unless no buffer can be had for it. -/
theorem transferSend_spec {data : Option Packet} {length : BitVec 32} {flags : XfrFlags}
    (below : ep.toNat < 12) (free : (state.inEndpoints ep.toNat).transfer.buffer = none)
    (positive : 0 < (maxPacket flags).toNat) (bounded : (maxPacket flags).toNat <= maxPacketSize)
    (enough : length.toNat <= (data.getD []).length) :
    Triple device Hardware
      (fun usbdev => Tracked n 0 (ownSlot ep.toNat .idle) known ⟨usbdev, state.pool, objects⟩)
      (usbTestutilsTransferSend ep data length flags state)
      (fun out usbdev =>
        (out.1 = .ok false ∧
          Tracked n 0 (ownSlot ep.toNat .idle) known ⟨usbdev, state.pool, objects⟩) ∨
        Exists fun packet => Exists fun rest => Exists fun transfer => Exists fun pool =>
          segments (maxPacket flags).toNat (employZlp flags)
            ((data.getD []).take length.toNat) = packet :: rest ∧
          out = (.ok true, ({ state with pool := pool }).setTransfer ep.toNat transfer) ∧
          Offers n ep.toNat objects packet rest transfer pool usbdev) := by
  intro start finish out tracked execution
  unfold usbTestutilsTransferSend at execution
  rw [check_bind (decide_eq_true below), Code.get_bind_apply,
    if_neg (by rw [free]; exact Bool.false_ne_true), Code.set_bind_apply, Code.bind_apply]
    at execution
  rcases exec_bind execution with ⟨middle, sent, sending, returning⟩
  let begun := (state.inEndpoints ep.toNat).transfer.begun data length flags
  have sound : begun.Sound := ⟨positive, bounded, Nat.zero_le _, enough⟩
  have entry := state.transfer_setTransfer ep.toNat begun
  rcases nextPart_invalid below entry rfl sound start middle sent tracked sending with
    ⟨rfl, tracked⟩ | ⟨packet, rest, transfer, pool, pieces, rfl, offers⟩
  · rcases tracked.returned returning with ⟨rfl, after⟩
    exact .inl ⟨rfl, after⟩
  · rcases Triple.returned stable_offers offers returning with ⟨rfl, after⟩
    refine .inr ⟨packet, rest, transfer, pool, pieces, ?_, after⟩
    rw [State.setTransfer_setTransfer]

end

end UsbTestutils
end SunburstChip
