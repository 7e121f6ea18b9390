import SunburstChip.Testing.UsbStreamsReceive
import SunburstChip.Testing.UsbStreamsResume

namespace SunburstChip
namespace UsbStreams

open Usbdev UsbTestutils

/-!
# Isochronous streams that lose packets

The device makes the packets of a stream one after the other, the host returns
those that reach it, and a packet may be lost on either way.  The device is to
accept each packet that comes back, however many are missing before it, as long
as the number in its signature tells that they are.

The numbers are compared as they are, in 16 bits.  So this holds as long as the
number of a packet that comes back has not wrapped since the one expected.
-/

/-- What an Isochronous stream that is returned and checked is initialised with. -/
structure CheckedStream where
  id : BitVec 8
  epIn : BitVec 8
  epOut : BitVec 8
  transferBytes : BitVec 32
  flags : StreamFlags
  inside : id.toNat < usbutilsStreamsMax
  retrieve : flags &&& kUsbdevStreamFlagRetrieve ≠ 0
  check : flags &&& kUsbdevStreamFlagCheck ≠ 0
  named : (id ||| flags.setWidth 8) &&& 0xf = id

namespace CheckedStream

/-- The stream as it is initialised. -/
def stream (setup : CheckedStream) : Stream :=
  initialStream setup.id .kUsbTransferTypeIsochronous setup.epIn setup.epOut setup.transferBytes
    setup.flags

/-- Its generators. -/
def generators (setup : CheckedStream) : Generators :=
  (usbtstLfsrSeed setup.id, bufszLfsrSeed setup.id)

end CheckedStream

/-! ## Runs -/

/-- A packet, and how many the device has made before it. -/
structure Numbered where
  number : Nat
  packet : Packet

/-- The device, the host and the packets on their way; and what has been observed, the number of
packets made and that of the packet after the last one accepted. -/
structure Loop where
  stream : Stream
  sent : List Numbered
  dpiLfsr : BitVec 8
  returned : List Numbered
  made : Nat
  expected : Nat

/-- The states of the runs of a stream.  A packet is made; the next packet on its way to the host
is lost, or the host returns it; or the next one on its way to the device is lost, or the device
accepts it, where its number and the one that is expected meet a condition. -/
inductive CheckedStream.Reachable (setup : CheckedStream) (meets : Nat -> Nat -> Prop) :
    Loop -> Prop where
  | start : setup.Reachable meets ⟨setup.stream, [], usbdpiLfsrSeed setup.id, [], 0, 0⟩
  | make {loop : Loop} (before : setup.Reachable meets loop) (stack : Nat -> BitVec 8) :
      setup.Reachable meets { loop with
        stream := (nextPacket stack loop.stream).2
        sent := loop.sent ++ [⟨loop.made, (nextPacket stack loop.stream).1⟩]
        made := loop.made + 1 }
  | loseSent {loop : Loop} {head : Numbered} {rest : List Numbered}
      (before : setup.Reachable meets loop) (next : loop.sent = head :: rest) :
      setup.Reachable meets { loop with sent := rest }
  | echo {loop : Loop} {head : Numbered} {rest : List Numbered}
      (before : setup.Reachable meets loop) (next : loop.sent = head :: rest) :
      setup.Reachable meets { loop with
        sent := rest
        dpiLfsr := (streamDataProcess loop.dpiLfsr head.packet).2
        returned := loop.returned ++
          [⟨head.number, (streamDataProcess loop.dpiLfsr head.packet).1⟩] }
  | loseReturned {loop : Loop} {head : Numbered} {rest : List Numbered}
      (before : setup.Reachable meets loop) (next : loop.returned = head :: rest) :
      setup.Reachable meets { loop with returned := rest }
  | receive {loop : Loop} {head : Numbered} {rest : List Numbered} {after : Stream}
      (before : setup.Reachable meets loop) (next : loop.returned = head :: rest)
      (condition : meets head.number loop.expected) (stack : Nat -> BitVec 8)
      (accepted : bufferCheck stack loop.stream head.packet = some after) :
      setup.Reachable meets { loop with
        stream := after
        returned := rest
        expected := head.number + 1 }

/-- Fewer than half of all numbers are missing. -/
def FewMissing (number expected : Nat) : Prop := number < expected + 2 ^ 15

/-- The counter has not wrapped between two packets. -/
def InRound (number expected : Nat) : Prop := number / 2 ^ 16 = expected / 2 ^ 16

instance (number expected : Nat) : Decidable (FewMissing number expected) :=
  inferInstanceAs (Decidable (number < expected + 2 ^ 15))

instance (number expected : Nat) : Decidable (InRound number expected) :=
  inferInstanceAs (Decidable (number / 2 ^ 16 = expected / 2 ^ 16))

/-- A packet is accepted, with its data, and the device then expects the one behind it and is
where the sender was. -/
def CheckedStream.Resynchronises (setup : CheckedStream) (stack : Nat -> BitVec 8) (loop : Loop)
    (arrived : Numbered) : Prop :=
  Exists fun after => bufferCheck stack loop.stream arrived.packet = some after ∧
    after.rxSeq = .ofNat 16 (arrived.number + 1) ∧
    forall leftovers, after.rxtxLfsr =
      (setup.stream.afterPackets leftovers (arrived.number + 1)).tx.lfsr

/-! ## What holds in every state -/

/-- A packet with a number, as the device makes it. -/
def CheckedStream.Makes (setup : CheckedStream) (number : Nat) (packet : Packet) : Prop :=
  Exists fun s : Stream => s.Sends setup.generators number ∧ s.id = setup.id ∧
    s.flags = setup.flags ∧ Exists fun stack => packet = (nextPacket stack s).1

/-- The packets on their way to the host, which has been offered so many, and none of those that
have been made is missing among them. -/
def CheckedStream.Consecutive (setup : CheckedStream) : Nat -> List Numbered -> Nat -> Prop
  | offered, [], made => offered = made
  | offered, head :: rest, made =>
      head.number = offered ∧ setup.Makes offered head.packet ∧
        setup.Consecutive (offered + 1) rest made

/-- The packets on their way to the device.  Their numbers increase, from the one expected to that
of the packet the host is offered next, and if none is missing before a packet, the state that
the host has put into it is the one behind the packet before it. -/
def CheckedStream.Returned (setup : CheckedStream) :
    Nat -> BitVec 8 -> List Numbered -> Nat -> BitVec 8 -> Prop
  | expected, rxLfsr, [], offered, dpiLfsr =>
      expected <= offered ∧ (expected = offered -> rxLfsr = dpiLfsr)
  | expected, rxLfsr, head :: rest, offered, dpiLfsr =>
      expected <= head.number ∧ Exists fun initLfsr => Exists fun packet =>
        (expected = head.number -> rxLfsr = initLfsr) ∧ setup.Makes head.number packet ∧
          head.packet = (streamDataProcess initLfsr packet).1 ∧
          setup.Returned (head.number + 1) (streamDataProcess initLfsr packet).2 rest offered
            dpiLfsr

/-- What the device makes and what it expects fit to the packets on their way. -/
structure CheckedStream.Kept (setup : CheckedStream) (loop : Loop) : Prop where
  id : loop.stream.id = setup.id
  flags : loop.stream.flags = setup.flags
  sends : loop.stream.Sends setup.generators loop.made
  expects : loop.stream.Expects setup.generators loop.expected
  packets : Exists fun offered => setup.Consecutive offered loop.sent loop.made ∧
    setup.Returned loop.expected loop.stream.rxLfsr loop.returned offered loop.dpiLfsr

namespace CheckedStream

section

variable {setup : CheckedStream} {loop : Loop} {meets : Nat -> Nat -> Prop}
  {packets : List Numbered} {expected offered made : Nat} {rxLfsr dpiLfsr : BitVec 8}
  {packet : Packet}

theorem Consecutive.concat (consecutive : setup.Consecutive offered packets made)
    (makes : setup.Makes made packet) :
    setup.Consecutive offered (packets ++ [⟨made, packet⟩]) (made + 1) := by
  induction packets generalizing offered with
  | nil =>
      have same : offered = made := consecutive
      subst same
      exact ⟨rfl, makes, rfl⟩
  | cons head rest ih => exact ⟨consecutive.1, consecutive.2.1, ih consecutive.2.2⟩

/-- What is returned next is as it was, if a packet is lost before it. -/
theorem Returned.lose {number : Nat} {rxLfsr' : BitVec 8}
    (returned : setup.Returned (number + 1) rxLfsr packets offered dpiLfsr)
    (order : expected <= number) : setup.Returned expected rxLfsr' packets offered dpiLfsr := by
  cases packets with
  | nil => exact ⟨by have := returned.1; omega, fun same => by have := returned.1; omega⟩
  | cons head rest =>
      rcases returned with ⟨later, initLfsr, packet, -, others⟩
      exact ⟨by omega, initLfsr, packet, fun same => by omega, others⟩

/-- So it is if the host misses a packet. -/
theorem Returned.miss (returned : setup.Returned expected rxLfsr packets offered dpiLfsr) :
    setup.Returned expected rxLfsr packets (offered + 1) dpiLfsr := by
  induction packets generalizing expected rxLfsr with
  | nil => exact ⟨Nat.le_succ_of_le returned.1, fun same => by have := returned.1; omega⟩
  | cons head rest ih =>
      rcases returned with ⟨order, initLfsr, packet, known, makes, same, others⟩
      exact ⟨order, initLfsr, packet, known, makes, same, ih others⟩

theorem Returned.concat (returned : setup.Returned expected rxLfsr packets offered dpiLfsr)
    (makes : setup.Makes offered packet) :
    setup.Returned expected rxLfsr
      (packets ++ [⟨offered, (streamDataProcess dpiLfsr packet).1⟩]) (offered + 1)
      (streamDataProcess dpiLfsr packet).2 := by
  induction packets generalizing expected rxLfsr with
  | nil =>
      exact ⟨returned.1, dpiLfsr, packet, returned.2, makes, rfl, Nat.le_refl _, fun _ => rfl⟩
  | cons head rest ih =>
      rcases returned with ⟨order, initLfsr, packet, known, makes', same, others⟩
      exact ⟨order, initLfsr, packet, known, makes', same, ih others⟩

theorem checked_stream (setup : CheckedStream) : setup.stream.Checked :=
  ⟨rfl, decide_eq_true setup.retrieve, decide_eq_true setup.check, rfl, setup.named⟩

theorem kept_start (setup : CheckedStream) :
    setup.Kept ⟨setup.stream, [], usbdpiLfsrSeed setup.id, [], 0, 0⟩ :=
  ⟨rfl, rfl, ⟨setup.checked_stream, rfl, rfl⟩, ⟨setup.checked_stream, rfl, rfl⟩,
    0, rfl, Nat.le_refl 0, fun _ => rfl⟩

theorem Kept.make (kept : setup.Kept loop) (stack : Nat -> BitVec 8) :
    setup.Kept { loop with
      stream := (nextPacket stack loop.stream).2
      sent := loop.sent ++ [⟨loop.made, (nextPacket stack loop.stream).1⟩]
      made := loop.made + 1 } := by
  have whole := nextPacket_stream stack loop.stream
  rcases kept.packets with ⟨offered, consecutive, returned⟩
  refine ⟨?_, ?_, kept.sends.next stack, kept.expects.next stack, offered,
    consecutive.concat ⟨_, kept.sends, kept.id, kept.flags, stack, rfl⟩, ?_⟩
  · rw [<- whole]
    exact kept.id
  · rw [<- whole]
    exact kept.flags
  · rw [<- whole]
    exact returned

variable {rest : List Numbered} {head : Numbered}

theorem Kept.loseSent (kept : setup.Kept loop) (next : loop.sent = head :: rest) :
    setup.Kept { loop with sent := rest } := by
  rcases kept.packets with ⟨offered, consecutive, returned⟩
  rw [next] at consecutive
  exact ⟨kept.id, kept.flags, kept.sends, kept.expects, offered + 1, consecutive.2.2,
    returned.miss⟩

theorem Kept.echo (kept : setup.Kept loop) (next : loop.sent = head :: rest) :
    setup.Kept { loop with
      sent := rest
      dpiLfsr := (streamDataProcess loop.dpiLfsr head.packet).2
      returned := loop.returned ++
        [⟨head.number, (streamDataProcess loop.dpiLfsr head.packet).1⟩] } := by
  rcases kept.packets with ⟨offered, consecutive, returned⟩
  rw [next] at consecutive
  rcases consecutive with ⟨number, makes, others⟩
  refine ⟨kept.id, kept.flags, kept.sends, kept.expects, offered + 1, others, ?_⟩
  dsimp only
  rw [number]
  exact returned.concat makes

theorem Kept.loseReturned (kept : setup.Kept loop) (next : loop.returned = head :: rest) :
    setup.Kept { loop with returned := rest } := by
  rcases kept.packets with ⟨offered, consecutive, returned⟩
  rw [next] at returned
  rcases returned with ⟨order, initLfsr, packet, -, -, -, others⟩
  exact ⟨kept.id, kept.flags, kept.sends, kept.expects, offered, consecutive, others.lose order⟩

/-- The next packet that is returned is accepted, if the counter has not wrapped before it. -/
theorem Kept.accepts (kept : setup.Kept loop) (next : loop.returned = head :: rest)
    (round : InRound head.number loop.expected) (stack : Nat -> BitVec 8) :
    Exists fun after => bufferCheck stack loop.stream head.packet = some after ∧
      after.Expects setup.generators (head.number + 1) ∧
      setup.Kept { loop with
        stream := after
        returned := rest
        expected := head.number + 1 } := by
  rcases kept.packets with ⟨offered, consecutive, returned⟩
  rw [next] at returned
  rcases returned with ⟨order, initLfsr, packet, known, ⟨s, sends, id, flags, stack', made⟩, same,
    others⟩
  subst made
  rcases kept.expects.accepts sends (id.trans kept.id.symm) (flags.trans kept.flags.symm) order
    round.symm known stack stack' with ⟨after, accepted, expects, rxLfsr, sameId, sameFlags, sameTx⟩
  rw [same]
  refine ⟨after, accepted, expects, sameId.trans kept.id, sameFlags.trans kept.flags,
    ⟨expects.checked, ?_, ?_⟩, expects, offered, consecutive, ?_⟩
  · dsimp only
    rw [sameTx]
    exact kept.sends.seq
  · dsimp only
    rw [sameTx, sameFlags]
    exact kept.sends.generators
  · dsimp only
    rw [rxLfsr]
    exact others

/-- In every run in which the counter does not wrap between two packets that are accepted. -/
theorem Reachable.kept (reachable : setup.Reachable InRound loop) : setup.Kept loop := by
  induction reachable with
  | start => exact setup.kept_start
  | make before stack ih => exact ih.make stack
  | loseSent before next ih => exact ih.loseSent next
  | echo before next ih => exact ih.echo next
  | loseReturned before next ih => exact ih.loseReturned next
  | receive before next condition stack accepted ih =>
      rcases ih.accepts next condition stack with ⟨after, accepted', -, kept⟩
      rw [accepted] at accepted'
      cases accepted'
      exact kept

/-! ## What is accepted -/

/-- A number that has wrapped is less than the one expected. -/
theorem lt_of_wrapped {number : Nat} (order : expected <= number)
    (few : FewMissing number expected) (wrapped : ¬ InRound number expected) :
    BitVec.ofNat 16 number < BitVec.ofNat 16 expected := by
  unfold FewMissing InRound at *
  rw [BitVec.lt_def, BitVec.toNat_ofNat, BitVec.toNat_ofNat]
  omega

/-- The next packet that is returned is not accepted, if the counter has wrapped before it. -/
theorem Kept.rejects (kept : setup.Kept loop) (next : loop.returned = head :: rest)
    (few : FewMissing head.number loop.expected) (wrapped : ¬ InRound head.number loop.expected)
    (stack : Nat -> BitVec 8) :
    bufferCheck stack loop.stream head.packet = none := by
  rcases kept.packets with ⟨offered, -, returned⟩
  rw [next] at returned
  rcases returned with ⟨order, initLfsr, packet, -, ⟨s, sends, -, -, stack', made⟩, same, -⟩
  subst made
  rw [same]
  exact kept.expects.rejects sends (lt_of_wrapped order few wrapped) stack stack'

/-- The stream after so many packets sends the next one. -/
theorem sends_afterPackets (setup : CheckedStream) (leftovers : Nat -> Nat -> BitVec 8)
    (number : Nat) :
    (setup.stream.afterPackets leftovers number).Sends setup.generators number ∧
      (setup.stream.afterPackets leftovers number).flags = setup.flags := by
  induction number with
  | zero => exact ⟨⟨setup.checked_stream, rfl, rfl⟩, rfl⟩
  | succ number ih =>
      have whole := nextPacket_stream (leftovers number)
        (setup.stream.afterPackets leftovers number)
      refine ⟨ih.1.next _, ?_⟩
      rw [Stream.afterPackets, <- whole]
      exact ih.2

/-- In every run in which the counter does not wrap between two packets that are accepted, a
packet that comes back with fewer than half of all numbers missing before it is accepted if and
only if the counter has not wrapped there either; and none is that is behind the one expected and
was made since the counter wrapped. -/
theorem resynchronises_iff (reachable : setup.Reachable InRound loop) (stack : Nat -> BitVec 8) :
    (forall arrived rest, loop.returned = arrived :: rest ->
      FewMissing arrived.number loop.expected ->
        (setup.Resynchronises stack loop arrived ↔ InRound arrived.number loop.expected)) ∧
    forall number, number < loop.expected -> InRound number loop.expected ->
      forall leftovers dpiLfsr, bufferCheck stack loop.stream
        (streamDataProcess dpiLfsr (setup.stream.packet leftovers number)).1 = none := by
  have kept := reachable.kept
  refine ⟨fun arrived rest next few => ⟨fun resynchronises => ?_, fun round => ?_⟩,
    fun number behind round leftovers dpiLfsr => ?_⟩
  · rcases resynchronises with ⟨after, accepted, -⟩
    by_contra wrapped
    rw [kept.rejects next few wrapped stack] at accepted
    cases accepted
  · rcases kept.accepts next round stack with ⟨after, accepted, expects, keeps⟩
    refine ⟨after, accepted, expects.seq, fun leftovers => ?_⟩
    rcases setup.sends_afterPackets leftovers (arrived.number + 1) with ⟨sends, flags⟩
    have same := expects.generators.trans ((keeps.flags.trans flags.symm) ▸ sends.generators.symm)
    exact congrArg Prod.fst same
  · rcases setup.sends_afterPackets leftovers number with ⟨sends, -⟩
    exact kept.expects.rejects sends ((seq_lt_iff round).mpr behind) stack (leftovers number)

end

/-- The first stream, with data that is returned and checked. -/
def firstStream : CheckedStream where
  id := 0
  epIn := 1
  epOut := 1
  transferBytes := 64
  flags := kUsbdevStreamFlagRetrieve ||| kUsbdevStreamFlagCheck
  inside := by decide
  retrieve := by decide
  check := by decide
  named := by decide

/-- The second packet of a stream comes back, the first one has been lost. -/
theorem resynchronises_second : Exists fun loop => Exists fun arrived =>
    firstStream.Reachable InRound loop ∧ loop.returned = [arrived] ∧ arrived.number = 1 ∧
      loop.expected = 0 ∧ firstStream.Resynchronises (fun _ => 0) loop arrived := by
  have initial : firstStream.Reachable InRound
      ⟨firstStream.stream, [], usbdpiLfsrSeed 0, [], 0, 0⟩ := .start
  have made := (initial.make (fun _ => 0)).make (fun _ => 0)
  have reachable := (made.loseSent rfl).echo rfl
  have few : FewMissing 1 0 := by decide
  exact ⟨_, _, reachable, rfl, rfl, rfl,
    ((resynchronises_iff reachable (fun _ => 0)).1 _ _ rfl few).mpr rfl⟩

/-! ## A packet behind the wrap -/

section

variable {setup : CheckedStream} {loop : Loop} {meets meets' : Nat -> Nat -> Prop}

theorem Reachable.mono (reachable : setup.Reachable meets loop)
    (weaker : forall number expected, meets number expected -> meets' number expected) :
    setup.Reachable meets' loop := by
  induction reachable with
  | start => exact .start
  | make before stack ih => exact ih.make stack
  | loseSent before next ih => exact ih.loseSent next
  | echo before next ih => exact ih.echo next
  | loseReturned before next ih => exact ih.loseReturned next
  | receive before next condition stack accepted ih =>
      exact ih.receive next (weaker _ _ condition) stack accepted

theorem Reachable.inRound (reachable : setup.Reachable Eq loop) : setup.Reachable InRound loop :=
  reachable.mono (fun _ _ same => congrArg (· / 2 ^ 16) same)

/-- Any number of packets can be accepted with none missing. -/
theorem reachable_lossless (setup : CheckedStream) (number : Nat) : Exists fun loop =>
    setup.Reachable Eq loop ∧ loop.sent = [] ∧ loop.returned = [] ∧ loop.made = number ∧
      loop.expected = number := by
  induction number with
  | zero => exact ⟨_, .start, rfl, rfl, rfl, rfl⟩
  | succ number ih =>
      rcases ih with ⟨loop, reachable, sent, returned, made, expected⟩
      have echoed := (reachable.make (fun _ => 0)).echo (by rw [sent]; rfl)
      have same : loop.made = loop.expected := made.trans expected.symm
      rcases echoed.inRound.kept.accepts (by rw [returned]; rfl) (by rw [same]; rfl) (fun _ => 0)
        with ⟨after, accepted, -⟩
      exact ⟨_, echoed.receive (by rw [returned]; rfl) same (fun _ => 0) accepted, rfl, rfl,
        congrArg (· + 1) made, congrArg (· + 1) made⟩

end

/-- When 65535 packets have been accepted and the next one is lost, the one behind it, which has
the number zero, is not accepted. -/
theorem resynchronises_apart : ¬ (forall (setup : CheckedStream) (loop : Loop),
    setup.Reachable FewMissing loop -> forall stack arrived rest,
      loop.returned = arrived :: rest -> FewMissing arrived.number loop.expected ->
        setup.Resynchronises stack loop arrived) := by
  intro resynchronises
  rcases reachable_lossless firstStream 65535 with
    ⟨loop, reachable, sent, returned, made, expected⟩
  have lost := ((reachable.make (fun _ => 0)).make (fun _ => 0)).loseSent (by rw [sent]; rfl)
  have echoed := lost.echo rfl
  have few : FewMissing (loop.made + 1) loop.expected := by
    rw [made, expected]
    decide
  have wrapped : ¬ InRound (loop.made + 1) loop.expected := by
    rw [made, expected]
    decide
  have rejected := echoed.inRound.kept.rejects (by rw [returned]; rfl) few wrapped (fun _ => 0)
  have weaker (number expected : Nat) (same : number = expected) : FewMissing number expected := by
    rw [same]
    exact Nat.lt_add_of_pos_right (by decide)
  rcases resynchronises firstStream _ (echoed.mono weaker) (fun _ => 0) _ _
    (by rw [returned]; rfl) few with ⟨after, accepted, -⟩
  rw [rejected] at accepted
  cases accepted

end CheckedStream

end UsbStreams
end SunburstChip
