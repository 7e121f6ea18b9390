import SunburstChip.Testing.UsbStreamsPackets

namespace SunburstChip
namespace UsbStreams

open Usbdev UsbTestutils

/-!
# The receiving side of a stream

The host returns each packet that it collects, with its own pseudo-random
numbers added to the data.  The packets of an Isochronous stream may be lost on
either way, so each begins with a signature.  It has the number of the packet,
by which the device knows how many are missing and runs its generators past
them, and the host puts the state of its own generator into it.
-/

/-! ## The host -/

/-- Bytes with those of a generator added. -/
def xorBytes (lfsr : BitVec 8) : List (BitVec 8) -> List (BitVec 8)
  | [] => []
  | byte :: rest => (byte ^^^ lfsr) :: xorBytes (lfsrAdvance lfsr) rest

/-- `stream_data_process` in `usbdpi_stream.c`, for an Isochronous stream: the packet that the
host returns, and the state of its generator after it. -/
def streamDataProcess (dpiLfsr : BitVec 8) (packet : List (BitVec 8)) :
    List (BitVec 8) × BitVec 8 :=
  ((packet.take sizeofStreamSig).set 4 dpiLfsr ++ xorBytes dpiLfsr (packet.drop sizeofStreamSig),
    lfsrAdvance^[packet.length - sizeofStreamSig] dpiLfsr)

/-! ## The device -/

/-- `usbdev_stream_sig_t` -/
structure StreamSig where
  headSig : BitVec 32
  initLfsr : BitVec 8
  stream : BitVec 8
  seqLo : BitVec 8
  seqHi : BitVec 8
  numBytes : BitVec 32
  tailSig : BitVec 32
  deriving DecidableEq

/-- Four bytes of memory as a word. -/
def wordAt (data : Nat -> BitVec 8) (i : Nat) : BitVec 32 :=
  data (i + 3) ++ data (i + 2) ++ data (i + 1) ++ data i

/-- The array that a packet is read into, which keeps what was on the stack behind it. -/
def readInto (stack : Nat -> BitVec 8) (packet : List (BitVec 8)) (i : Nat) : BitVec 8 :=
  packet.getD i (stack i)

/-- The signature at the start of the array. -/
def signatureOf (data : Nat -> BitVec 8) : StreamSig :=
  ⟨wordAt data 0, data 4, data 5, data 6, data 7, wordAt data 8, wordAt data 12⟩

theorem toNat_succ {a b : BitVec 16} (less : a < b) : (a + 1).toNat = a.toNat + 1 := by
  have below := BitVec.lt_def.mp less
  have inside := b.isLt
  rw [BitVec.toNat_add]
  change (a.toNat + 1) % 2 ^ 16 = _
  omega

/-- The loop of `buffer_sig_check` over the packets that are missing: the stream, the number of
the packet that is not, and the generator of the data after them. -/
def skipMissing (s : Stream) (rxSeq seq : BitVec 16) (rxtxLfsr : BitVec 8) :
    Stream × BitVec 16 × BitVec 8 :=
  if rxSeq < seq then
    let length := packetLength s s.rxBytes s.rxBufSize
    let len := length.1 - .ofNat 8 sizeofStreamSig
    skipMissing { s with rxBufSize := length.2 } (rxSeq + 1) seq (lfsrAdvance^[len.toNat] rxtxLfsr)
  else (s, rxSeq, rxtxLfsr)
termination_by seq.toNat - rxSeq.toNat
decreasing_by
  next missing =>
    rw [toNat_succ missing]
    exact Nat.sub_succ_lt_self _ _ (BitVec.lt_def.mp missing)

/-- `buffer_sig_check`, and the stream after it. -/
def bufferSigCheck (s : Stream) (sig : StreamSig) (len : BitVec 8) : Bool × Stream :=
  if sig.headSig ≠ usbdevStreamSignatureHead ∨ sig.tailSig ≠ usbdevStreamSignatureTail ∨
      sig.stream &&& 0xf ≠ s.id then
    (false, s)
  else
    let seq : BitVec 16 := (sig.seqHi.setWidth 16 <<< 8) ||| sig.seqLo.setWidth 16
    if seq < s.rxSeq then (false, s)
    else
      let rxLfsr := if s.rxSeq < seq then sig.initLfsr else s.rxLfsr
      let (s, rxSeq, rxtxLfsr) := skipMissing s s.rxSeq seq s.rxtxLfsr
      if rxLfsr ≠ sig.initLfsr then (false, s)
      else
        let (expLen, rxBufSize) := packetLength s s.rxBytes s.rxBufSize
        let s := { s with rxBufSize := rxBufSize }
        if len ≠ expLen then (false, s)
        else (true, { s with rxSeq := rxSeq + 1, rxtxLfsr := rxtxLfsr, rxLfsr := rxLfsr })

/-- The loop of `buffer_check` over the data: the two generators after it, if every byte is as
expected. -/
def checkBytes (rxtxLfsr rxLfsr : BitVec 8) : List (BitVec 8) -> Option (BitVec 8 × BitVec 8)
  | [] => some (rxtxLfsr, rxLfsr)
  | byte :: rest =>
      if rxtxLfsr ^^^ rxLfsr = byte then
        checkBytes (lfsrAdvance rxtxLfsr) (lfsrAdvance rxLfsr) rest
      else none

/-- The data of a packet from an offset on is checked and counted. -/
def checkData (s : Stream) (packet : List (BitVec 8)) (offset : Nat) : Option Stream :=
  match checkBytes s.rxtxLfsr s.rxLfsr (packet.drop offset) with
  | none => none
  | some (rxtxLfsr, rxLfsr) => some { s with
      rxtxLfsr := rxtxLfsr
      rxLfsr := rxLfsr
      rxBytes := s.rxBytes + (.ofNat 32 packet.length - .ofNat 32 offset) }

/-- `buffer_check`: the stream after a packet, or `none` if one of the checks fails. -/
def bufferCheck (stack : Nat -> BitVec 8) (s : Stream) (packet : List (BitVec 8)) : Option Stream :=
  if packet.length = 0 then some s
  else if maxPacketSize < packet.length then none
  else
    match s.xfrType with
    | .kUsbTransferTypeIsochronous =>
        let (ok, s) := bufferSigCheck s (signatureOf (readInto stack packet))
          (.ofNat 8 packet.length)
        if ok then checkData s packet sizeofStreamSig else none
    | .kUsbTransferTypeInterrupt | .kUsbTransferTypeBulk => checkData s packet 0
    | .kUsbTransferTypeControl => some s

/-! ## Generators -/

theorem lfsrBytes_snd (lfsr : BitVec 8) (count : Nat) :
    (lfsrBytes lfsr count).2 = lfsrAdvance^[count] lfsr := by
  induction count generalizing lfsr with
  | zero => rfl
  | succ count ih => exact ih (lfsrAdvance lfsr)

theorem length_xorBytes (lfsr : BitVec 8) (bytes : List (BitVec 8)) :
    (xorBytes lfsr bytes).length = bytes.length := by
  induction bytes generalizing lfsr with
  | nil => rfl
  | cons byte rest ih => exact congrArg (· + 1) (ih _)

/-- The data that the host returns is what the device expects, if it knows both generators. -/
theorem checkBytes_xorBytes (rxtxLfsr rxLfsr : BitVec 8) (count : Nat) :
    checkBytes rxtxLfsr rxLfsr (xorBytes rxLfsr (lfsrBytes rxtxLfsr count).1) =
      some (lfsrAdvance^[count] rxtxLfsr, lfsrAdvance^[count] rxLfsr) := by
  induction count generalizing rxtxLfsr rxLfsr with
  | zero => rfl
  | succ count ih =>
      rw [lfsrBytes, xorBytes, checkBytes, if_pos rfl]
      exact ih _ _

/-! ## Signatures -/

theorem wordAt_wordBytes {data : Nat -> BitVec 8} {i : Nat} {word : BitVec 32}
    (same : forall k, k < 4 -> data (i + k) = wordByte word k) : wordAt data i = word := by
  have first := same 0 (by decide)
  have second := same 1 (by decide)
  have third := same 2 (by decide)
  have fourth := same 3 (by decide)
  unfold wordAt
  rw [fourth, third, second, show data i = wordByte word 0 from first]
  apply BitVec.eq_of_getLsbD_eq
  intro j inside
  simp only [BitVec.getLsbD_append, wordByte, BitVec.getLsbD_extractLsb']
  by_cases first : j < 8
  · simp [first]
  by_cases second : j - 8 < 8
  · simp only [if_neg first, second, decide_true, Bool.true_and, if_true,
      show 8 * 1 + (j - 8) = j by omega]
  by_cases third : j - 8 - 8 < 8
  · simp only [if_neg first, if_neg second, third, decide_true, Bool.true_and, if_true,
      show 8 * 2 + (j - 8 - 8) = j by omega]
  · have fourth : j - 8 - 8 - 8 < 8 := by omega
    simp only [if_neg first, if_neg second, if_neg third, fourth, decide_true, Bool.true_and,
      show 8 * 3 + (j - 8 - 8 - 8) = j by omega]

/-- The number of a packet is put together from the two bytes of it. -/
theorem seq_bytes (seq : BitVec 16) :
    (((seq >>> 8).setWidth 8).setWidth 16 <<< 8) ||| (seq.setWidth 8).setWidth 16 = seq := by
  apply BitVec.eq_of_getLsbD_eq
  intro i inside
  simp only [BitVec.getLsbD_or, BitVec.getLsbD_shiftLeft, BitVec.getLsbD_setWidth,
    BitVec.getLsbD_ushiftRight]
  by_cases low : i < 8
  · simp [low, inside]
  · have high : i - 8 < 8 := by omega
    have sum : 8 + (i - 8) = i := by omega
    have some : i - 8 < 16 := by omega
    simp [low, inside, high, sum, some]

/-- The signature of a packet that the host returns. -/
def returnedSig (s : Stream) (dpiLfsr : BitVec 8) : StreamSig where
  headSig := usbdevStreamSignatureHead
  initLfsr := dpiLfsr
  stream := s.id ||| s.flags.setWidth 8
  seqLo := s.tx.seq.setWidth 8
  seqHi := (s.tx.seq >>> 8).setWidth 8
  numBytes := s.transferBytes - s.tx.bytes % s.transferBytes
  tailSig := usbdevStreamSignatureTail

theorem signatureOf_returned (stack : Nat -> BitVec 8) (s : Stream) (dpiLfsr : BitVec 8)
    (data : List (BitVec 8)) :
    signatureOf (readInto stack ((streamSig s).set 4 dpiLfsr ++ data)) = returnedSig s dpiLfsr := by
  have word {i : Nat} {word : BitVec 32}
      (same : forall k, k < 4 -> readInto stack ((streamSig s).set 4 dpiLfsr ++ data) (i + k) =
        wordByte word k) :
      wordAt (readInto stack ((streamSig s).set 4 dpiLfsr ++ data)) i = word :=
    wordAt_wordBytes same
  unfold signatureOf returnedSig
  rw [@word 0 usbdevStreamSignatureHead, @word 8 (s.transferBytes - s.tx.bytes % s.transferBytes),
    @word 12 usbdevStreamSignatureTail]
  · rfl
  · rintro (_ | _ | _ | _ | k) inside <;> first | rfl | omega
  · rintro (_ | _ | _ | _ | k) inside <;> first | rfl | omega
  · rintro (_ | _ | _ | _ | k) inside <;> first | rfl | omega

/-! ## Streams whose packets are returned and checked -/

/-- The length of a packet with a signature in an Isochronous stream, and the generator of lengths
after it. -/
def isochronousLength (flags : StreamFlags) (bufszLfsr : BitVec 8) : BitVec 8 × BitVec 8 :=
  if flags &&& kUsbdevStreamFlagMaxPackets ≠ 0 then (.ofNat 8 maxPacketSize, bufszLfsr)
  else (.ofNat 8 (sizeofStreamSig + bufszLfsr.toNat % (maxPacketSize - sizeofStreamSig + 1)),
    lfsrAdvance bufszLfsr)

/-- An Isochronous stream that sends what it generates, with a signature in each packet by which
it can be told. -/
structure Stream.Checked (s : Stream) : Prop where
  xfrType : s.xfrType = .kUsbTransferTypeIsochronous
  sending : s.sending = true
  generating : s.generating = true
  sigRequired : s.tx.sigRequired = true
  named : (s.id ||| s.flags.setWidth 8) &&& 0xf = s.id

section

variable {s : Stream}

theorem isochronousLength_toNat (flags : StreamFlags) (bufszLfsr : BitVec 8) :
    sizeofStreamSig <= (isochronousLength flags bufszLfsr).1.toNat ∧
      (isochronousLength flags bufszLfsr).1.toNat <= maxPacketSize := by
  unfold isochronousLength
  split
  · change 16 <= 64 ∧ 64 <= 64
    decide
  · have small := Nat.mod_lt bufszLfsr.toNat (show 0 < 49 by decide)
    change 16 <= (BitVec.ofNat 8 (16 + bufszLfsr.toNat % 49)).toNat ∧
      (BitVec.ofNat 8 (16 + bufszLfsr.toNat % 49)).toNat <= 64
    rw [BitVec.toNat_ofNat, Nat.mod_eq_of_lt (by omega)]
    omega

theorem Stream.Checked.packetLength (checked : s.Checked) (bytesDone : BitVec 32)
    (bufszLfsr : BitVec 8) :
    packetLength s bytesDone bufszLfsr = isochronousLength s.flags bufszLfsr := by
  have whole : ¬ (s.xfrType ≠ .kUsbTransferTypeIsochronous ∧ bytesDone < s.transferBytes ∧
      s.transferBytes - bytesDone < .ofNat 32 maxPacketSize) := fun other => other.1 checked.xfrType
  unfold UsbStreams.packetLength isochronousLength
  dsimp only
  rw [if_neg whole, if_pos checked.sigRequired, if_pos checked.xfrType]

theorem Stream.Checked.signature (checked : s.Checked) (bufSize : BitVec 8) :
    signature { s with tx.bufSize := bufSize } =
      (streamSig s, { s with tx.seq := s.tx.seq + 1, tx.bufSize := bufSize }) := by
  have keeps : ¬ ((!s.sending) = true ∨ s.xfrType ≠ .kUsbTransferTypeIsochronous) := by
    simp [checked.sending, checked.xfrType]
  unfold UsbStreams.signature noteSignature
  dsimp only
  rw [if_pos checked.sigRequired, if_pos checked.sending]
  dsimp only
  rw [if_neg keeps]
  rfl

/-- The next packet, and the transmission state after it. -/
theorem Stream.Checked.nextPacket (checked : s.Checked) (stack : Nat -> BitVec 8) :
    nextPacket stack s =
      (streamSig s ++ (lfsrBytes s.tx.lfsr
          ((isochronousLength s.flags s.tx.bufSize).1.toNat - sizeofStreamSig)).1,
        { s with tx := {
            sigRequired := true
            seq := s.tx.seq + 1
            lfsr := lfsrAdvance^[(isochronousLength s.flags s.tx.bufSize).1.toNat - sizeofStreamSig]
              s.tx.lfsr
            bytes := s.tx.bytes + .ofNat 32
              ((isochronousLength s.flags s.tx.bufSize).1.toNat - sizeofStreamSig)
            bufSize := (isochronousLength s.flags s.tx.bufSize).2 } }) := by
  unfold UsbStreams.nextPacket payload packetData
  dsimp only
  rw [checked.packetLength, checked.signature]
  dsimp only
  rw [if_pos checked.generating, length_streamSig, length_lfsrBytes, lfsrBytes_snd,
    checked.sigRequired]

/-- It is as good as the one before. -/
theorem Stream.Checked.next (checked : s.Checked) (stack : Nat -> BitVec 8) :
    (UsbStreams.nextPacket stack s).2.Checked := by
  rw [checked.nextPacket]
  exact ⟨checked.xfrType, checked.sending, checked.generating, rfl, checked.named⟩

/-! ## The generators of the sender -/

/-- The state of the generators of data and of lengths. -/
abbrev Generators := BitVec 8 × BitVec 8

/-- The data bytes of the packet that is made in a state. -/
def dataLength (flags : StreamFlags) (bufszLfsr : BitVec 8) : Nat :=
  (isochronousLength flags bufszLfsr).1.toNat - sizeofStreamSig

/-- It is what the receiver computes. -/
theorem dataLength_eq (flags : StreamFlags) (bufszLfsr : BitVec 8) :
    ((isochronousLength flags bufszLfsr).1 - .ofNat 8 sizeofStreamSig).toNat =
      dataLength flags bufszLfsr := by
  have lengths := isochronousLength_toNat flags bufszLfsr
  have signature : (BitVec.ofNat 8 sizeofStreamSig).toNat <=
    (isochronousLength flags bufszLfsr).1.toNat := lengths.1
  exact BitVec.toNat_sub_of_le (BitVec.le_def.mpr signature)

/-- The generators after a packet. -/
def Generators.next (flags : StreamFlags) (generators : Generators) : Generators :=
  (lfsrAdvance^[dataLength flags generators.2] generators.1,
    (isochronousLength flags generators.2).2)

/-- The numbers of packets in one round of the counter are in the order of the packets. -/
theorem seq_lt_iff {first last : Nat} (round : first / 2 ^ 16 = last / 2 ^ 16) :
    BitVec.ofNat 16 first < BitVec.ofNat 16 last ↔ first < last := by
  rw [BitVec.lt_def, BitVec.toNat_ofNat, BitVec.toNat_ofNat]
  omega

/-! ## A packet that is sent and one that is expected -/

/-- The next packet of a stream has a number, and the generators are where they are from some
start when the packets before it have been made. -/
structure Stream.Sends (s : Stream) (start : Generators) (number : Nat) : Prop where
  checked : s.Checked
  seq : s.tx.seq = .ofNat 16 number
  generators : (s.tx.lfsr, s.tx.bufSize) = (Generators.next s.flags)^[number] start

/-- The packet that a stream is to receive next has a number, and what it knows of the generators
is where they are for that packet. -/
structure Stream.Expects (s : Stream) (start : Generators) (number : Nat) : Prop where
  checked : s.Checked
  seq : s.rxSeq = .ofNat 16 number
  generators : (s.rxtxLfsr, s.rxBufSize) = (Generators.next s.flags)^[number] start

/-- Past the packets that are missing, the generators are where the sender's were, if the
comparison of the numbers says that they are missing. -/
theorem Stream.Checked.skipMissing {first last : Nat} (checked : s.Checked) (start : Generators)
    (order : first <= last) (round : first / 2 ^ 16 = last / 2 ^ 16) :
    skipMissing { s with rxBufSize := ((Generators.next s.flags)^[first] start).2 }
        (.ofNat 16 first) (.ofNat 16 last) ((Generators.next s.flags)^[first] start).1 =
      ({ s with rxBufSize := ((Generators.next s.flags)^[last] start).2 }, .ofNat 16 last,
        ((Generators.next s.flags)^[last] start).1) := by
  -- on the number of packets missing
  induction missing : last - first generalizing first with
  | zero =>
      have same : first = last := by omega
      subst same
      rw [UsbStreams.skipMissing, if_neg (by rw [seq_lt_iff rfl]; omega)]
  | succ count ih =>
      have less : first < last := by omega
      have after : BitVec.ofNat 16 first + 1 = BitVec.ofNat 16 (first + 1) :=
        (BitVec.ofNat_add first 1).symm
      have keeps : Stream.Checked
          { s with rxBufSize := ((Generators.next s.flags)^[first] start).2 } := ⟨checked.xfrType,
        checked.sending, checked.generating, checked.sigRequired, checked.named⟩
      have step := @ih (first + 1) less (by omega) (by omega)
      rw [Function.iterate_succ_apply'] at step
      rw [UsbStreams.skipMissing, if_pos ((seq_lt_iff round).mpr less), after]
      dsimp only
      rw [keeps.packetLength, dataLength_eq]
      exact step

theorem Stream.Expects.skipMissing {start : Generators} {first last : Nat}
    (expects : s.Expects start first) (order : first <= last)
    (round : first / 2 ^ 16 = last / 2 ^ 16) :
    skipMissing s s.rxSeq (.ofNat 16 last) s.rxtxLfsr =
      ({ s with rxBufSize := ((Generators.next s.flags)^[last] start).2 }, .ofNat 16 last,
        ((Generators.next s.flags)^[last] start).1) := by
  have skipped := expects.checked.skipMissing start order round
  rw [<- expects.generators, <- expects.seq] at skipped
  exact skipped

section

variable {t : Stream} {start : Generators} {first last : Nat} {dpiLfsr : BitVec 8}

/-- After a packet the next one is sent. -/
theorem Stream.Sends.next (sends : s.Sends start last) (stack : Nat -> BitVec 8) :
    (UsbStreams.nextPacket stack s).2.Sends start (last + 1) := by
  refine ⟨sends.checked.next stack, ?_, ?_⟩
  · rw [sends.checked.nextPacket]
    dsimp only
    rw [sends.seq]
    exact (BitVec.ofNat_add last 1).symm
  · rw [sends.checked.nextPacket, Function.iterate_succ_apply', <- sends.generators]
    rfl

/-- To make a packet changes nothing of what is expected. -/
theorem Stream.Expects.next (expects : s.Expects start first) (stack : Nat -> BitVec 8) :
    (UsbStreams.nextPacket stack s).2.Expects start first := by
  have checked := expects.checked.next stack
  rw [<- nextPacket_stream] at checked ⊢
  exact ⟨checked, expects.seq, expects.generators⟩

/-- What the host makes of a packet. -/
theorem Stream.Checked.streamDataProcess (checked : t.Checked) (stack : Nat -> BitVec 8)
    (dpiLfsr : BitVec 8) :
    streamDataProcess dpiLfsr (UsbStreams.nextPacket stack t).1 =
      ((streamSig t).set 4 dpiLfsr ++
          xorBytes dpiLfsr (lfsrBytes t.tx.lfsr (dataLength t.flags t.tx.bufSize)).1,
        lfsrAdvance^[dataLength t.flags t.tx.bufSize] dpiLfsr) := by
  have length : (streamSig t).length = sizeofStreamSig := length_streamSig t
  unfold UsbStreams.streamDataProcess
  rw [checked.nextPacket]
  dsimp only
  rw [List.take_left' length, List.drop_left' length, List.length_append, length,
    length_lfsrBytes, Nat.add_sub_cancel_left]
  rfl

/-- The signature is one of the stream. -/
theorem Stream.Checked.returned (checked : s.Checked) (sameId : t.id = s.id)
    (sameFlags : t.flags = s.flags) :
    ¬ ((returnedSig t dpiLfsr).headSig ≠ usbdevStreamSignatureHead ∨
      (returnedSig t dpiLfsr).tailSig ≠ usbdevStreamSignatureTail ∨
      (returnedSig t dpiLfsr).stream &&& 0xf ≠ s.id) := by
  have named : (returnedSig t dpiLfsr).stream &&& 0xf = s.id := by
    unfold returnedSig
    dsimp only
    rw [sameId, sameFlags]
    exact checked.named
  rintro (head | tail | other)
  · exact head rfl
  · exact tail rfl
  · exact other named

/-- A number that is less than the one expected is that of a packet which is not accepted. -/
theorem Stream.Expects.regressed (expects : s.Expects start first) (sends : t.Sends start last)
    (less : BitVec.ofNat 16 last < BitVec.ofNat 16 first) (len : BitVec 8) :
    (bufferSigCheck s (returnedSig t dpiLfsr) len).1 = false := by
  unfold bufferSigCheck
  split
  · rfl
  · dsimp only [returnedSig]
    rw [seq_bytes, sends.seq, expects.seq, if_pos less]

/-- The signature of a packet that is not behind is accepted, and the stream then knows both
generators. -/
theorem Stream.Expects.bufferSigCheck (expects : s.Expects start first)
    (sends : t.Sends start last) (sameId : t.id = s.id) (sameFlags : t.flags = s.flags)
    (order : first <= last) (round : first / 2 ^ 16 = last / 2 ^ 16)
    (known : first = last -> s.rxLfsr = dpiLfsr) :
    UsbStreams.bufferSigCheck s (returnedSig t dpiLfsr)
        (isochronousLength t.flags t.tx.bufSize).1 =
      (true, { s with
        rxSeq := .ofNat 16 (last + 1)
        rxtxLfsr := t.tx.lfsr
        rxLfsr := dpiLfsr
        rxBufSize := (isochronousLength t.flags t.tx.bufSize).2 }) := by
  have same : (t.tx.lfsr, t.tx.bufSize) = (Generators.next s.flags)^[last] start := by
    rw [sends.generators, sameFlags]
  have keeps : Stream.Checked { s with rxBufSize := t.tx.bufSize } := ⟨expects.checked.xfrType,
    expects.checked.sending, expects.checked.generating, expects.checked.sigRequired,
    expects.checked.named⟩
  have lfsr : (if s.rxSeq < BitVec.ofNat 16 last then dpiLfsr else s.rxLfsr) = dpiLfsr := by
    rw [expects.seq]
    split
    · rfl
    · next here =>
        rw [seq_lt_iff round] at here
        exact known (by omega)
  have after : BitVec.ofNat 16 last + 1 = BitVec.ofNat 16 (last + 1) :=
    (BitVec.ofNat_add last 1).symm
  unfold UsbStreams.bufferSigCheck
  rw [if_neg (expects.checked.returned sameId sameFlags)]
  dsimp only [returnedSig]
  rw [seq_bytes, sends.seq, expects.skipMissing order round, <- same, lfsr,
    if_neg (by rw [expects.seq, seq_lt_iff round.symm]; omega)]
  dsimp only
  rw [keeps.packetLength, sameFlags, after]
  simp only [ne_eq, not_true_eq_false, if_false]

/-- A returned packet is checked by its signature first. -/
theorem Stream.Expects.bufferCheck (expects : s.Expects start first) (checked : t.Checked)
    (stack stack' : Nat -> BitVec 8) :
    bufferCheck stack s
        (UsbStreams.streamDataProcess dpiLfsr (UsbStreams.nextPacket stack' t).1).1 =
      if (UsbStreams.bufferSigCheck s (returnedSig t dpiLfsr)
          (isochronousLength t.flags t.tx.bufSize).1).1 = true then
        checkData
          (UsbStreams.bufferSigCheck s (returnedSig t dpiLfsr)
            (isochronousLength t.flags t.tx.bufSize).1).2
          (UsbStreams.streamDataProcess dpiLfsr (UsbStreams.nextPacket stack' t).1).1
          sizeofStreamSig
      else none := by
  have bounds := isochronousLength_toNat t.flags t.tx.bufSize
  have length : ((streamSig t).set 4 dpiLfsr ++
      xorBytes dpiLfsr (lfsrBytes t.tx.lfsr (dataLength t.flags t.tx.bufSize)).1).length =
        (isochronousLength t.flags t.tx.bufSize).1.toNat := by
    rw [List.length_append, List.length_set, length_streamSig, length_xorBytes, length_lfsrBytes]
    exact Nat.add_sub_cancel' bounds.1
  rw [checked.streamDataProcess]
  dsimp only
  unfold UsbStreams.bufferCheck
  rw [length, signatureOf_returned, BitVec.ofNat_toNat, BitVec.setWidth_eq,
    if_neg (by have := bounds.1; change 16 <= _ at this; omega), if_neg (Nat.not_lt.mpr bounds.2),
    expects.checked.xfrType]

/-- A packet that is not behind passes all checks. -/
theorem Stream.Expects.accepts (expects : s.Expects start first) (sends : t.Sends start last)
    (sameId : t.id = s.id) (sameFlags : t.flags = s.flags) (order : first <= last)
    (round : first / 2 ^ 16 = last / 2 ^ 16) (known : first = last -> s.rxLfsr = dpiLfsr)
    (stack stack' : Nat -> BitVec 8) :
    Exists fun after =>
      UsbStreams.bufferCheck stack s
          (UsbStreams.streamDataProcess dpiLfsr (UsbStreams.nextPacket stack' t).1).1 =
        some after ∧
      after.Expects start (last + 1) ∧
      after.rxLfsr =
        (UsbStreams.streamDataProcess dpiLfsr (UsbStreams.nextPacket stack' t).1).2 ∧
      after.id = s.id ∧ after.flags = s.flags ∧ after.tx = s.tx := by
  have length : ((streamSig t).set 4 dpiLfsr).length = sizeofStreamSig := by
    rw [List.length_set, length_streamSig]
  rw [expects.bufferCheck sends.checked,
    expects.bufferSigCheck sends sameId sameFlags order round known,
    sends.checked.streamDataProcess, if_pos rfl]
  unfold checkData
  rw [List.drop_left' length, checkBytes_xorBytes]
  refine ⟨_, rfl, ⟨?_, rfl, ?_⟩, rfl, rfl, rfl, rfl⟩
  · exact ⟨expects.checked.xfrType, expects.checked.sending, expects.checked.generating,
      expects.checked.sigRequired, expects.checked.named⟩
  · dsimp only
    rw [Function.iterate_succ_apply', <- sameFlags, <- sends.generators]
    rfl

/-- A packet with a number that is less than the one expected passes no check. -/
theorem Stream.Expects.rejects (expects : s.Expects start first) (sends : t.Sends start last)
    (less : BitVec.ofNat 16 last < BitVec.ofNat 16 first) (stack stack' : Nat -> BitVec 8) :
    UsbStreams.bufferCheck stack s
        (UsbStreams.streamDataProcess dpiLfsr (UsbStreams.nextPacket stack' t).1).1 = none := by
  rw [expects.bufferCheck sends.checked, expects.regressed sends less]
  rfl

end

end

end UsbStreams
end SunburstChip
