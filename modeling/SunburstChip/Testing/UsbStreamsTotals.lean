import SunburstChip.Testing.UsbStreamsResume

namespace SunburstChip
namespace UsbStreams

open Mmio Usbdev UsbTestutils

/-!
# What streams generate in all

A stream makes packets as long as there is more to transmit.  Their lengths are
chosen at random, and are bounded by the size of a buffer, by what is left of
the transfer, and from below by the signature, where there is one.

A stream that sends stops when all bytes of the transfer have been put into
packets.  One that does not sends its signature and nothing else.
-/

/-! ## Runs of a stream -/

/-- The stream has made some packets, each when there was more to transmit, and is in a
transmission state after them. -/
inductive Stream.Generates (s : Stream) : List Packet -> StreamTx -> Prop where
  | start : s.Generates [] s.tx
  | next {packets : List Packet} {packet : Packet} {before after : StreamTx}
      (generated : s.Generates packets before) (more : Stream.More { s with tx := before })
      (makes : s.Makes before packet after) : s.Generates (packets ++ [packet]) after

section

variable {s : Stream} {before middle after after' : StreamTx} {packets : List Packet}
  {packet : Packet}

/-- What is on the stack does not matter to the transmission state. -/
theorem nextPacket_tx (stack stack' : Nat -> BitVec 8) (s : Stream) :
    (nextPacket stack s).2.tx = (nextPacket stack' s).2.tx := by
  unfold nextPacket payload
  dsimp only
  rw [length_packetData, length_packetData]
  unfold packetData
  split <;> rfl

theorem Stream.Makes.unique (makes : s.Makes before packet after)
    (makes' : s.Makes before packet after') : after = after' := by
  rcases makes with ⟨stack, -, left⟩
  rcases makes' with ⟨stack', -, left'⟩
  rw [<- left, <- left', nextPacket_tx stack stack']

theorem Stream.MakesAll.unique (all : s.MakesAll before packets after)
    (all' : s.MakesAll before packets after') : after = after' := by
  induction packets generalizing before with
  | nil => exact all.symm.trans all'
  | cons packet rest ih =>
      rcases all with ⟨middle, makes, others⟩
      rcases all' with ⟨middle', makes', others'⟩
      cases makes.unique makes'
      exact ih others others'

/-- The packets before the last one. -/
theorem Stream.MakesAll.split (all : s.MakesAll before (packets ++ [packet]) after) :
    Exists fun middle => s.MakesAll before packets middle ∧ s.Makes middle packet after := by
  induction packets generalizing before with
  | nil =>
      rcases all with ⟨middle, makes, last⟩
      have same : middle = after := last
      subst same
      exact ⟨before, rfl, makes⟩
  | cons first rest ih =>
      rcases all with ⟨middle, makes, others⟩
      rcases ih others with ⟨middle', all, last⟩
      exact ⟨middle', ⟨middle, makes, all⟩, last⟩

theorem Stream.Generates.makesAll (generates : s.Generates packets after) :
    s.MakesAll s.tx packets after := by
  induction generates with
  | start => rfl
  | next generated more makes ih => exact ih.concat makes

/-- The transmission state is told by the packets. -/
theorem Stream.Generates.same (generates : s.Generates packets after)
    (all : s.MakesAll s.tx packets after') : s.Generates packets after' := by
  rw [<- generates.makesAll.unique all]
  exact generates

theorem Stream.Generates.concat (generates : s.Generates packets before)
    (more : Stream.More { s with tx := before })
    (all : s.MakesAll s.tx (packets ++ [packet]) after) :
    s.Generates (packets ++ [packet]) after := by
  rcases all.split with ⟨middle, others, last⟩
  cases generates.makesAll.unique others
  exact generates.next more last

end

section

variable {setup : Setup} {m id : Nat} {known known' : Nat -> Packet} {state state' : Streaming}

/-- There is more to transmit by the transmission state of the stream. -/
theorem Running.more_iff (running : Running setup.nstreams.toNat m setup.stream known state)
    (inside : id < setup.nstreams.toNat) :
    (state.memory.client.streams id).More ↔
      Stream.More { setup.stream id with tx := (state.memory.client.streams id).tx } := by
  rw [show state.memory.client.streams id = _ from (running.queues id inside).alike]
  exact Iff.rfl

/-- A stream that is serviced makes a packet only if there is more to transmit. -/
theorem Stream.Generates.step (running : Running setup.nstreams.toNat m setup.stream known state)
    (running' : Running setup.nstreams.toNat m setup.stream known' state')
    (step : Step setup.nstreams.toNat m state state') (inside : id < setup.nstreams.toNat)
    (generates : (setup.stream id).Generates (state.filled id)
      (state.memory.client.streams id).tx) :
    (setup.stream id).Generates (state'.filled id) (state'.memory.client.streams id).tx := by
  have all := running'.continue inside
  cases step with
  | hardware move => exact generates
  | others call inEndpoints outEndpoints allowed elsewhere apart execution => exact generates
  | txDone other stream sent execution => exact generates.same all
  | service stack other stream execution =>
      dsimp only at all ⊢
      by_cases here : id = other.toNat
      · subst here
        rw [Function.update_self] at all ⊢
        rcases service_spec stack inside running.apportioned running.tracked execution with
          ⟨_, ⟨unchanged, -⟩ | ⟨bufferId, pool, more, -, -, roomTotal, memory, -⟩⟩
        · rw [unchanged, List.drop_length] at all ⊢
          unfold contents at all ⊢
          rw [List.map_nil, List.append_nil] at all ⊢
          exact generates
        · have lessTotal : state.memory.client.txQueuedTotal.toNat < 24 :=
            BitVec.lt_def.mp roomTotal
          have queued := running.apportioned.queued_le inside
          have queue := StreamsCtx.queue_serviced stack bufferId
            (running.apportioned.endpoints other.toNat inside)
            (show (state.memory.client.txBufsQueued (other.toNat + 1)).toNat < 24 by omega)
          rw [memory] at all ⊢
          dsimp only at all ⊢
          rw [queue, List.drop_left] at all ⊢
          exact generates.concat ((running.more_iff inside).mp more) all
      · rw [Function.update_of_ne here] at all ⊢
        exact generates.same all

/-- In every run what a stream has filled is what it generates. -/
theorem Reachable.generates (reachable : Reachable setup m state)
    (inside : id < setup.nstreams.toNat) :
    (setup.stream id).Generates (state.filled id) (state.memory.client.streams id).tx := by
  induction reachable with
  | init configured unused execution =>
      have all := (Running.init configured unused execution).continue inside
      exact Stream.Generates.start.same all
  | step before step ih =>
      rcases before.running with ⟨known, running⟩
      rcases running.step step with ⟨known', running'⟩
      exact ih.step running running' step inside

end

/-! ## The data of a packet -/

/-- The length of the signature of the next packet. -/
def signatureLength (s : Stream) : Nat := if s.tx.sigRequired then sizeofStreamSig else 0

/-- The length of its data. -/
def dataCount (s : Stream) : Nat :=
  (packetLength s s.tx.bytes s.tx.bufSize).1.toNat - signatureLength s

section

variable {s : Stream}

theorem length_signature_eq (s : Stream) : (signature s).1.length = signatureLength s := by
  unfold signature signatureLength
  split
  · exact length_streamSig s
  · rfl

theorem length_nextPacket (stack : Nat -> BitVec 8) (s : Stream) :
    (nextPacket stack s).1.length = signatureLength s + dataCount s := by
  unfold nextPacket payload
  dsimp only
  rw [List.length_append, length_packetData, length_signature_eq]
  rfl

/-- What is counted with a signature. -/
theorem noteSignature_bytes (s : Stream) :
    (noteSignature s).tx.bytes = if s.sending = true then s.tx.bytes else s.transferBytes := by
  unfold noteSignature
  by_cases sending : s.sending = true
  · rw [if_pos sending, if_pos sending]
    dsimp only
    split <;> rfl
  · rw [if_neg sending, if_neg sending]
    dsimp only
    split <;> rfl

/-- What a stream that sends counts. -/
theorem nextPacket_bytes (stack : Nat -> BitVec 8) (sending : s.sending = true) :
    (nextPacket stack s).2.tx.bytes = s.tx.bytes + .ofNat 32 (dataCount s) := by
  have counted (bufSize : BitVec 8) :
      (signature { s with tx.bufSize := bufSize }).2.tx.bytes = s.tx.bytes := by
    unfold signature
    by_cases required : s.tx.sigRequired = true
    · rw [if_pos required, noteSignature_bytes]
      exact if_pos sending
    · rw [if_neg required]
  unfold nextPacket payload
  dsimp only
  rw [length_packetData, length_signature_eq, counted]
  rfl

/-- Only the first packet has a signature, unless the stream is Isochronous. -/
theorem nextPacket_sigRequired (stack : Nat -> BitVec 8)
    (other : s.xfrType ≠ .kUsbTransferTypeIsochronous) :
    (nextPacket stack s).2.tx.sigRequired = false := by
  unfold nextPacket payload signature noteSignature
  dsimp only
  split
  · dsimp only
    split
    · rw [if_pos (Or.inr other)]
    · rw [if_pos (Or.inr other)]
  · next absent => exact Bool.eq_false_iff.mpr absent

/-- The length chosen at random leaves room for a signature. -/
theorem sizeofStreamSig_le (random : s.flags &&& kUsbdevStreamFlagMaxPackets = 0)
    (sigRequired : s.tx.sigRequired = true) (bytesDone : BitVec 32) (bufszLfsr : BitVec 8) :
    sizeofStreamSig <= (packetLength s bytesDone bufszLfsr).1.toNat := by
  unfold packetLength
  dsimp only
  rw [if_neg (not_not_intro random), if_pos sigRequired]
  split
  · have small := Nat.mod_lt bufszLfsr.toNat (show 0 < 49 by decide)
    change 16 <= (BitVec.ofNat 8 (16 + bufszLfsr.toNat % 49)).toNat
    rw [BitVec.toNat_ofNat]
    omega
  · exact Nat.le_refl _

/-- A signature that is chosen to be alone leaves no room for data. -/
theorem dataCount_eq_zero (other : s.xfrType ≠ .kUsbTransferTypeIsochronous)
    (random : s.flags &&& kUsbdevStreamFlagMaxPackets = 0) (sigRequired : s.tx.sigRequired = true) :
    dataCount s = 0 := by
  unfold dataCount signatureLength packetLength
  dsimp only
  rw [if_neg (not_not_intro random), if_pos sigRequired, if_neg other, if_pos sigRequired]
  rfl

/-- A stream that does not send counts the whole transfer with its signature. -/
theorem nextPacket_bytes_silent (stack : Nat -> BitVec 8) (silent : s.sending = false)
    (sigRequired : s.tx.sigRequired = true) :
    (nextPacket stack s).2.tx.bytes = s.transferBytes + .ofNat 32 (dataCount s) := by
  have counted (bufSize : BitVec 8) :
      (signature { s with tx.bufSize := bufSize }).2.tx.bytes = s.transferBytes := by
    unfold signature
    rw [if_pos sigRequired, noteSignature_bytes]
    exact if_neg (Bool.eq_false_iff.mp silent)
  unfold nextPacket payload
  dsimp only
  rw [length_packetData, length_signature_eq, counted]
  rfl

/-- There is no more data in a packet with a signature than room behind it. -/
theorem dataCount_le_room (sigRequired : s.tx.sigRequired = true) :
    dataCount s <= maxPacketSize - sizeofStreamSig := by
  unfold dataCount signatureLength
  rw [if_pos sigRequired]
  exact Nat.sub_le_sub_right (packetLength_le s _ _) _

/-- What is left of a transfer, up to the size of a buffer. -/
theorem bytesLeft_le {bytesDone : BitVec 32} (other : s.xfrType ≠ .kUsbTransferTypeIsochronous)
    (more : bytesDone < s.transferBytes) :
    (if s.xfrType ≠ .kUsbTransferTypeIsochronous ∧ bytesDone < s.transferBytes ∧
        s.transferBytes - bytesDone < .ofNat 32 maxPacketSize then
      (s.transferBytes - bytesDone).setWidth 8
    else BitVec.ofNat 8 maxPacketSize).toNat <= s.transferBytes.toNat - bytesDone.toNat := by
  have left : (s.transferBytes - bytesDone).toNat = s.transferBytes.toNat - bytesDone.toNat :=
    BitVec.toNat_sub_of_le (BitVec.le_def.mpr (Nat.le_of_lt (BitVec.lt_def.mp more)))
  split
  · rw [BitVec.toNat_setWidth, left]
    exact Nat.mod_le _ _
  · next many =>
      have enough : ¬ s.transferBytes - bytesDone < .ofNat 32 maxPacketSize :=
        fun few => many ⟨other, more, few⟩
      rw [BitVec.lt_def, left] at enough
      exact Nat.not_lt.mp enough

/-- There is no more data in a packet than what is left of the transfer. -/
theorem dataCount_le (other : s.xfrType ≠ .kUsbTransferTypeIsochronous)
    (more : s.tx.bytes < s.transferBytes) :
    dataCount s <= s.transferBytes.toNat - s.tx.bytes.toNat := by
  by_cases alone : s.flags &&& kUsbdevStreamFlagMaxPackets = 0 ∧ s.tx.sigRequired = true
  · rw [dataCount_eq_zero other alone.1 alone.2]
    exact Nat.zero_le _
  have left := bytesLeft_le other more
  unfold dataCount packetLength
  dsimp only
  generalize (if s.xfrType ≠ .kUsbTransferTypeIsochronous ∧ s.tx.bytes < s.transferBytes ∧
      s.transferBytes - s.tx.bytes < .ofNat 32 maxPacketSize then
    (s.transferBytes - s.tx.bytes).setWidth 8
    else BitVec.ofNat 8 maxPacketSize) = bytesLeft at left ⊢
  refine Nat.le_trans (Nat.sub_le _ _) (Nat.le_trans ?_ left)
  split
  · exact Nat.le_refl _
  · next random =>
      have later : ¬ s.tx.sigRequired = true := fun sigRequired =>
        alone ⟨not_not.mp random, sigRequired⟩
      rw [if_neg later]
      have small := Nat.mod_lt s.tx.bufSize.toNat (Nat.succ_pos bytesLeft.toNat)
      dsimp only
      rw [BitVec.toNat_ofNat]
      exact Nat.le_trans (Nat.mod_le _ _) (Nat.lt_succ_iff.mp small)

end

/-! ## The data of all packets -/

/-- What the packets of a stream that is not Isochronous hold, but for the signature at its
start. -/
def payloads : List Packet -> List Packet
  | [] => []
  | first :: rest => first.drop sizeofStreamSig :: rest

/-- The sum of the lengths. -/
def payloadTotal (packets : List Packet) : Nat := ((payloads packets).map List.length).sum

theorem payloadTotal_concat (packets : List Packet) (packet : Packet) :
    payloadTotal (packets ++ [packet]) = payloadTotal packets +
      (packet.length - if packets = [] then sizeofStreamSig else 0) := by
  cases packets with
  | nil => simp [payloadTotal, payloads]
  | cons first rest =>
      rw [if_neg (List.cons_ne_nil _ _), Nat.sub_zero]
      simp [payloadTotal, payloads, Nat.add_assoc]

section

variable {s : Stream} {packets : List Packet} {after : StreamTx}

/-- Every packet fits into a buffer. -/
theorem Stream.Generates.short (generates : s.Generates packets after) :
    forall packet, packet ∈ packets -> packet.length <= maxPacketSize := by
  induction generates with
  | start => exact nofun
  | next generated more makes ih =>
      intro packet inside
      rcases List.mem_append.mp inside with earlier | last
      · exact ih packet earlier
      · rcases makes with ⟨stack, made, -⟩
        rw [List.mem_singleton.mp last, <- made]
        exact length_nextPacket_le stack _

/-- Of a stream that is not Isochronous only the first packet has a signature. -/
theorem Stream.Generates.sigRequired (generates : s.Generates packets after)
    (other : s.xfrType ≠ .kUsbTransferTypeIsochronous) (initially : s.tx.sigRequired = true) :
    after.sigRequired = decide (packets = []) := by
  cases generates with
  | start => exact initially
  | next generated more makes =>
      rcases makes with ⟨stack, -, left⟩
      rw [<- left, decide_eq_false (List.concat_ne_nil _ _)]
      exact nextPacket_sigRequired stack other

/-- A stream that sends has counted the data of its packets, which is no more than there is to
transfer. -/
theorem Stream.Generates.bytes (generates : s.Generates packets after)
    (other : s.xfrType ≠ .kUsbTransferTypeIsochronous) (sending : s.sending = true)
    (sigRequired : s.tx.sigRequired = true) (nothing : s.tx.bytes = 0) :
    after.bytes.toNat = payloadTotal packets ∧ payloadTotal packets <= s.transferBytes.toNat := by
  induction generates with
  | start =>
      rw [nothing]
      exact ⟨rfl, Nat.zero_le _⟩
  | @next packets packet before after generated more makes ih =>
      rcases makes with ⟨stack, made, left⟩
      have less : before.bytes < s.transferBytes := more.resolve_left other
      have few := @dataCount_le { s with tx := before } other less
      have signature : signatureLength { s with tx := before } =
          if packets = [] then sizeofStreamSig else 0 := by
        unfold signatureLength
        dsimp only
        rw [generated.sigRequired other sigRequired]
        simp only [decide_eq_true_eq]
      have length := length_nextPacket stack { s with tx := before }
      have counted := @nextPacket_bytes { s with tx := before } stack sending
      have total := payloadTotal_concat packets packet
      rw [made, signature] at length
      rw [left] at counted
      rw [length, Nat.add_sub_cancel_left, <- ih.1] at total
      have small := s.transferBytes.isLt
      have order := BitVec.lt_def.mp less
      dsimp only at few counted
      rw [counted, total, BitVec.toNat_add, BitVec.toNat_ofNat]
      omega

/-- A stream that does not send makes one packet, unless the count of bytes wraps with what is in
it. -/
theorem Stream.Generates.once (generates : s.Generates packets after)
    (other : s.xfrType ≠ .kUsbTransferTypeIsochronous) (silent : s.sending = false)
    (sigRequired : s.tx.sigRequired = true)
    (fits : s.transferBytes.toNat + dataCount s < 2 ^ 32) :
    (packets = [] ∧ after = s.tx) ∨
      Exists fun packet => packets = [packet] ∧ s.More ∧
        packet.length = sizeofStreamSig + dataCount s ∧ ¬ Stream.More { s with tx := after } := by
  induction generates with
  | start => exact Or.inl ⟨rfl, rfl⟩
  | @next packets packet before after generated more makes ih =>
      rcases ih with ⟨rfl, rfl⟩ | ⟨earlier, -, -, -, done⟩
      · rcases makes with ⟨stack, made, left⟩
        refine Or.inr ⟨packet, rfl, more, ?_, ?_⟩
        · rw [<- made, length_nextPacket]
          exact congrArg (· + dataCount s) (if_pos sigRequired)
        · rintro (isochronous | less)
          · exact other isochronous
          · rw [<- left, BitVec.lt_def, nextPacket_bytes_silent stack silent sigRequired] at less
            dsimp only at less
            rw [BitVec.toNat_add, BitVec.toNat_ofNat] at less
            change (s.transferBytes.toNat + dataCount s % 2 ^ 32) % 2 ^ 32 < _ at less
            omega
      · exact absurd more done

/-- Before the first packet there is more to transmit unless there is nothing. -/
theorem more_start_iff (other : s.xfrType ≠ .kUsbTransferTypeIsochronous)
    (nothing : s.tx.bytes = 0) : s.More ↔ s.transferBytes ≠ 0 := by
  unfold Stream.More
  rw [or_iff_right other, nothing, BitVec.lt_def]
  exact Nat.pos_iff_ne_zero.trans (not_congr (BitVec.toNat_inj (y := 0)))

/-- A stream that sends goes on until all bytes are in packets. -/
theorem Stream.Generates.sent (generates : s.Generates packets after)
    (other : s.xfrType ≠ .kUsbTransferTypeIsochronous) (sending : s.sending = true)
    (sigRequired : s.tx.sigRequired = true) (nothing : s.tx.bytes = 0) :
    payloadTotal packets <= s.transferBytes.toNat ∧
      (Stream.More { s with tx := after } ↔ payloadTotal packets ≠ s.transferBytes.toNat) := by
  rcases generates.bytes other sending sigRequired nothing with ⟨counted, few⟩
  refine ⟨few, (or_iff_right other).trans ?_⟩
  rw [BitVec.lt_def]
  dsimp only
  omega

/-- One that does not stops after the first packet. -/
theorem Stream.Generates.silent (generates : s.Generates packets after)
    (other : s.xfrType ≠ .kUsbTransferTypeIsochronous) (silent : s.sending = false)
    (sigRequired : s.tx.sigRequired = true) (nothing : s.tx.bytes = 0)
    (fits : s.transferBytes.toNat + dataCount s < 2 ^ 32) :
    payloadTotal packets <= s.transferBytes.toNat ∧
      (Stream.More { s with tx := after } ↔ packets = [] ∧ s.transferBytes ≠ 0) := by
  rcases generates.once other silent sigRequired fits with
    ⟨rfl, rfl⟩ | ⟨packet, rfl, some, length, done⟩
  · refine ⟨Nat.zero_le _, ?_⟩
    rw [and_iff_right rfl]
    exact more_start_iff other nothing
  · refine ⟨?_, fun goes => absurd goes done, nofun⟩
    have few := dataCount_le other (some.resolve_left other)
    have total : payloadTotal [packet] = dataCount s := by
      rw [show [packet] = [] ++ [packet] from rfl, payloadTotal_concat, if_pos rfl, length,
        Nat.add_sub_cancel_left]
      exact Nat.zero_add _
    rw [total]
    exact Nat.le_trans few (Nat.sub_le _ _)

end

/-! ## In every run -/

/-- What is kept of the packets of a stream.  None is longer than a buffer.  If the stream sends,
what the packets hold is no more than there is to transfer, and the stream goes on as long as it
is less.  If it does not, it stops after one packet, the signature, with data behind it only where
packets are to be as long as they can be.  The length chosen at random leaves room for the
signature, and the remainder in it is by a number other than zero. -/
structure TotalsKept (setup : Setup) (id : Nat) (state : Streaming) : Prop where
  short : forall packet, packet ∈ state.filled id -> packet.length <= maxPacketSize
  sent : setup.xfrTypes id ≠ .kUsbTransferTypeIsochronous ->
    setup.flags &&& kUsbdevStreamFlagRetrieve ≠ 0 ->
      payloadTotal (state.filled id) <= setup.numBytes.toNat ∧
        ((state.memory.client.streams id).More ↔
          payloadTotal (state.filled id) ≠ setup.numBytes.toNat)
  silent : setup.xfrTypes id ≠ .kUsbTransferTypeIsochronous ->
    setup.flags &&& kUsbdevStreamFlagRetrieve = 0 ->
      setup.flags &&& kUsbdevStreamFlagMaxPackets = 0 ∨
          setup.numBytes.toNat + (maxPacketSize - sizeofStreamSig) < 2 ^ 32 ->
        payloadTotal (state.filled id) <= setup.numBytes.toNat ∧
          ((state.memory.client.streams id).More ↔ state.filled id = [] ∧ setup.numBytes ≠ 0)
  signatureOnly : setup.xfrTypes id ≠ .kUsbTransferTypeIsochronous ->
    setup.flags &&& kUsbdevStreamFlagRetrieve = 0 ->
      setup.flags &&& kUsbdevStreamFlagMaxPackets = 0 ->
        (state.filled id).map List.length <+: [sizeofStreamSig]
  room : setup.flags &&& kUsbdevStreamFlagMaxPackets = 0 ->
    (state.memory.client.streams id).tx.sigRequired = true ->
      forall bytesDone bufszLfsr, sizeofStreamSig <=
        (packetLength (state.memory.client.streams id) bytesDone bufszLfsr).1.toNat
  divides : setup.xfrTypes id ≠ .kUsbTransferTypeIsochronous ∨ setup.numBytes ≠ 0 ->
    (state.memory.client.streams id).More -> (state.memory.client.streams id).transferBytes ≠ 0
  stops : ¬ (state.memory.client.streams id).More -> forall stack,
    usbTestutilsStreamService stack (.ofNat 8 id) state.memory = .ret (.ok (), state.memory)

section

variable {setup : Setup} {m n id : Nat} {known : Nat -> Packet} {state : Streaming}

/-- A stream with nothing more to transmit is not touched. -/
theorem service_idle {memory : Memory} (apportioned : Apportioned n memory.client)
    (inside : id < n) (done : ¬ (memory.client.streams id).More) (stack : Nat -> BitVec 8) :
    usbTestutilsStreamService stack (.ofNat 8 id) memory = .ret (.ok (), memory) := by
  have few : n <= 11 := apportioned.few
  have endpoint := apportioned.endpoints id inside
  have number : (BitVec.ofNat 8 id).toNat = id := by
    rw [BitVec.toNat_ofNat]
    omega
  unfold usbTestutilsStreamService
  rw [number, tryCheck_bind (decide_eq_true (Nat.lt_of_lt_of_le inside apportioned.few)),
    Code.get_bind_apply]
  dsimp only
  rw [inRange_bind (show _ < numEndpoints by rw [endpoint]; change _ < 12; omega)]
  split
  · next more => exact absurd (of_decide_eq_true more.1) done
  · rfl

/-- In every state of every run with streams the totals are kept. -/
theorem totals_kept (reachable : Reachable setup m state) (inside : id < setup.nstreams.toNat) :
    TotalsKept setup id state := by
  rcases reachable.running with ⟨known, running⟩
  have generates := reachable.generates inside
  have alike : state.memory.client.streams id = _ := (running.queues id inside).alike
  have more := running.more_iff inside
  constructor
  · exact generates.short
  · intro other sending
    rw [more]
    exact generates.sent other (decide_eq_true sending) rfl rfl
  · intro other silent fits
    have wraps : (setup.stream id).transferBytes.toNat + dataCount (setup.stream id) < 2 ^ 32 := by
      rcases fits with random | fits
      · rw [dataCount_eq_zero other random rfl]
        exact (setup.stream id).transferBytes.isLt
      · exact Nat.lt_of_le_of_lt (Nat.add_le_add_left (dataCount_le_room rfl) _) fits
    rw [more]
    exact generates.silent other (decide_eq_false (not_not_intro silent)) rfl rfl wraps
  · intro other silent random
    have quiet : (setup.stream id).sending = false := decide_eq_false (not_not_intro silent)
    have none : dataCount (setup.stream id) = 0 := dataCount_eq_zero other random rfl
    rcases generates.once other quiet rfl
        (by rw [none]; exact (setup.stream id).transferBytes.isLt) with
      ⟨none, -⟩ | ⟨packet, one, -, length, -⟩
    · rw [none]
      exact List.nil_prefix
    · rw [one, List.map_singleton, length, none]
  · intro random sigRequired bytesDone bufszLfsr
    have flags : (state.memory.client.streams id).flags = setup.flags := by rw [alike]; rfl
    exact sizeofStreamSig_le (flags ▸ random) sigRequired bytesDone bufszLfsr
  · intro transfer goes
    have same : (state.memory.client.streams id).transferBytes = setup.numBytes := by
      rw [alike]
      rfl
    rw [same]
    rcases transfer with other | some
    · intro zero
      have less := (more.mp goes).resolve_left other
      change _ < setup.numBytes at less
      rw [zero] at less
      exact absurd less (BitVec.not_lt_zero)
    · exact some
  · exact fun done stack => service_idle running.apportioned inside done stack

end

/-- The stream is serviced until it has nothing more to send. -/
def allFilled : Streaming := serviced (serviced signatureTold)

theorem reachable_allFilled : Reachable oneStream 1 allFilled :=
  (reachable_signatureTold.step (step_serviced (by decide +kernel))).step
    (step_serviced (by decide +kernel))

theorem totals_kept_allFilled : Reachable oneStream 1 allFilled ∧
    (allFilled.filled 0).map List.length = [16, 46, 38, 16] ∧ TotalsKept oneStream 0 allFilled :=
  ⟨reachable_allFilled, by decide +kernel, totals_kept reachable_allFilled Nat.one_pos⟩

/-! ## A stream that does not send -/

/-- One bulk stream whose packets the host is not to retrieve. -/
def quietStream : Setup := ⟨1, fun _ => .kUsbTransferTypeBulk, 100, kUsbdevStreamFlagCheck⟩

/-- It has been initialised and serviced once. -/
def quiet : Streaming :=
  let start := ranFrom (configuredSystem.controller, memoryBefore) quietStream.init
  serviced ⟨start.1, configuredSystem.objects, start.2, fun _ => [], fun _ => []⟩

set_option maxRecDepth 8000 in
theorem reachable_quiet : Reachable quietStream 1 quiet := by
  have start := exec_ranFrom (configuredSystem.controller, memoryBefore) quietStream.init
    (by decide +kernel)
  have initialised : Reachable quietStream 1 _ :=
    .init reachable_configuredSystem (fun _ _ => ⟨rfl, rfl⟩) start
  exact initialised.step (step_serviced (by decide +kernel))

theorem payloadTotal_quiet : payloadTotal (quiet.filled 0) = 0 := by decide +kernel

theorem not_more_quiet : ¬ (quiet.memory.client.streams 0).More := by decide +kernel

/-- With its signature it has stopped, although nothing of the transfer has been put into a
packet. -/
theorem totals_apart : ¬ (forall (setup : Setup) (m : Nat) (state : Streaming),
    Reachable setup m state -> forall id, id < setup.nstreams.toNat ->
      setup.xfrTypes id ≠ .kUsbTransferTypeIsochronous ->
        payloadTotal (state.filled id) <= setup.numBytes.toNat ∧
          ((state.memory.client.streams id).More ↔
            payloadTotal (state.filled id) ≠ setup.numBytes.toNat)) := by
  intro totals
  have goes := (totals quietStream 1 quiet reachable_quiet 0 (by decide) (by decide)).2
  rw [payloadTotal_quiet] at goes
  exact not_more_quiet (goes.mpr (by decide))

end UsbStreams
end SunburstChip
