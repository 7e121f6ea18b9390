import SunburstChip.Dif.UsbdevPackets
import SunburstChip.Testing.UsbStreams

namespace SunburstChip
namespace UsbStreams

open Mmio Usbdev UsbTestutils

/-!
# The packets of a stream

What `usb_testutils_stream_service` puts into a packet depends on nothing but
the stream.  `nextPacket` says what it is, and the functions that fill a buffer
are shown to put just that into packet memory.
-/

/-- The signature of the next packet, if it has one, and the stream after it. -/
def signature (s : Stream) : List (BitVec 8) × Stream :=
  if s.tx.sigRequired then (streamSig s, noteSignature { s with tx.seq := s.tx.seq + 1 })
  else ([], s)

/-- Some data of the stream, and the stream after it. -/
def payload (stack : Nat -> BitVec 8) (s : Stream) (count : Nat) : List (BitVec 8) × Stream :=
  let data := packetData stack s count
  (data.1, { s with tx.lfsr := data.2, tx.bytes := s.tx.bytes + .ofNat 32 data.1.length })

/-- The next packet of a stream, and the stream after it. -/
def nextPacket (stack : Nat -> BitVec 8) (s : Stream) : List (BitVec 8) × Stream :=
  let length := packetLength s s.tx.bytes s.tx.bufSize
  let signed := signature { s with tx.bufSize := length.2 }
  let filled := payload stack signed.2 (length.1.toNat - signed.1.length)
  (signed.1 ++ filled.1, filled.2)

theorem length_streamSig (s : Stream) : (streamSig s).length = sizeofStreamSig := rfl

theorem length_lfsrBytes (lfsr : BitVec 8) (count : Nat) :
    (lfsrBytes lfsr count).1.length = count := by
  induction count generalizing lfsr with
  | zero => rfl
  | succ count ih => exact congrArg (· + 1) (ih _)

theorem length_packetData (stack : Nat -> BitVec 8) (s : Stream) (count : Nat) :
    (packetData stack s count).1.length = count := by
  unfold packetData
  split
  · exact length_lfsrBytes _ _
  · rw [List.length_map, List.length_range]

theorem payload_zero (stack : Nat -> BitVec 8) (s : Stream) : payload stack s 0 = ([], s) := by
  unfold payload packetData
  split
  · simp [lfsrBytes]
  · simp

theorem length_signature (s : Stream) :
    (signature s).1.length = 0 ∨ (signature s).1.length = sizeofStreamSig := by
  unfold signature
  split
  · exact Or.inr (length_streamSig s)
  · exact Or.inl rfl

/-- No packet is longer than a buffer. -/
theorem packetLength_le (s : Stream) (bytesDone : BitVec 32) (bufszLfsr : BitVec 8) :
    (packetLength s bytesDone bufszLfsr).1.toNat <= maxPacketSize := by
  have left : (if s.xfrType ≠ .kUsbTransferTypeIsochronous ∧ bytesDone < s.transferBytes ∧
      s.transferBytes - bytesDone < .ofNat 32 maxPacketSize then
        (s.transferBytes - bytesDone).setWidth 8
      else BitVec.ofNat 8 maxPacketSize).toNat <= 64 := by
    split
    · next few =>
        have less : (s.transferBytes - bytesDone).toNat < 64 := BitVec.lt_def.mp few.2.2
        rw [BitVec.toNat_setWidth]
        omega
    · exact Nat.le_refl 64
  unfold packetLength
  dsimp only
  split
  · exact left
  · split
    · split
      · have small := Nat.mod_lt bufszLfsr.toNat (show 0 < 49 by decide)
        change (BitVec.ofNat 8 (16 + bufszLfsr.toNat % 49)).toNat <= 64
        rw [BitVec.toNat_ofNat]
        omega
      · change 16 <= 64
        decide
    · generalize (if s.xfrType ≠ .kUsbTransferTypeIsochronous ∧ bytesDone < s.transferBytes ∧
          s.transferBytes - bytesDone < .ofNat 32 maxPacketSize then
            (s.transferBytes - bytesDone).setWidth 8
          else BitVec.ofNat 8 maxPacketSize) = bytesLeft at left
      have small := Nat.mod_lt bufszLfsr.toNat (show 0 < bytesLeft.toNat + 1 by omega)
      change (BitVec.ofNat 8 (bufszLfsr.toNat % (bytesLeft.toNat + 1))).toNat <= 64
      rw [BitVec.toNat_ofNat]
      omega

theorem length_nextPacket_le (stack : Nat -> BitVec 8) (s : Stream) :
    (nextPacket stack s).1.length <= maxPacketSize := by
  unfold nextPacket payload
  dsimp only
  generalize length : packetLength s s.tx.bytes s.tx.bufSize = pair
  have short := packetLength_le s s.tx.bytes s.tx.bufSize
  rw [length] at short
  change pair.1.toNat <= 64 at short
  rw [List.length_append, length_packetData]
  rcases length_signature { s with tx.bufSize := pair.2 } with none | sixteen
  · rw [none]
    change _ <= 64
    omega
  · rw [sixteen]
    change 16 + (pair.1.toNat - 16) <= 64
    omega

/-- A packet changes nothing of the stream but its transmission state. -/
theorem nextPacket_stream (stack : Nat -> BitVec 8) (s : Stream) :
    { s with tx := (nextPacket stack s).2.tx } = (nextPacket stack s).2 := by
  unfold nextPacket payload signature
  dsimp only
  split
  · unfold noteSignature
    dsimp only
    split <;> split <;> rfl
  · rfl

/-! ## Filling a buffer -/

section

variable {n : Nat} {away : Multiset Nat} {slots : Nat -> Slot} {known : Nat -> List (BitVec 8)}
  {pool : BufferPool} {objects : Nat -> Buffer} {memory : Memory}

theorem bufferSigCreate_spec {s : Stream} {buf : Buffer} (filled : Filled buf []) :
    Triple device Hardware (Containing n away slots known pool objects buf.id.toNat [])
      (bufferSigCreate s buf memory)
      (fun out usbdev => out = (.ok (.ofNat 8 (streamSig s).length,
          { s with tx.seq := s.tx.seq + 1 }, buf.written (streamSig s)), memory) ∧
        Containing n away slots known pool objects buf.id.toNat (streamSig s) usbdev) := by
  unfold bufferSigCreate
  refine Code.triple_lift_ok (Containing n away slots known pool objects buf.id.toNat
    (streamSig s)) (bufferWrite_filled filled (by rw [length_streamSig]; decide)) ?_
  change Triple device Hardware _ ((checkDifOk .kDifOk >>= fun _ => _) memory) _
  rw [checkDifOk_ok_bind, check_bind (by rw [length_streamSig]; rfl)]
  exact Triple.ret stable_tracked (fun _ tracked => ⟨rfl, tracked⟩)

theorem addSignature_spec {s : Stream} {buf : Buffer} (filled : Filled buf []) :
    Triple device Hardware (Containing n away slots known pool objects buf.id.toNat [])
      (addSignature s buf memory)
      (fun out usbdev => out = (.ok (.ofNat 8 (signature s).1.length, (signature s).2,
          buf.written (signature s).1), memory) ∧
        Containing n away slots known pool objects buf.id.toNat (signature s).1 usbdev) := by
  unfold addSignature signature
  by_cases required : s.tx.sigRequired = true
  · rw [if_pos required, if_pos required]
    exact Code.triple_bind_ok _ (bufferSigCreate_spec filled)
      (Triple.ret stable_tracked (fun _ tracked => ⟨rfl, tracked⟩))
  · rw [if_neg required, if_neg required, written_nil]
    exact Triple.ret stable_tracked (fun _ tracked => ⟨rfl, tracked⟩)

theorem addData_spec (stack : Nat -> BitVec 8) {s : Stream} {buf : Buffer}
    {before : List (BitVec 8)} {numBytes : BitVec 8} (filled : Filled buf before)
    (short : numBytes.toNat <= maxPacketSize) :
    Triple device Hardware (Containing n away slots known pool objects buf.id.toNat before)
      (addData stack s buf (.ofNat 8 before.length) numBytes memory)
      (fun out usbdev =>
        out = (.ok ((payload stack s (numBytes.toNat - before.length)).2,
          buf.written (payload stack s (numBytes.toNat - before.length)).1), memory) ∧
        Containing n away slots known pool objects buf.id.toNat
          (before ++ (payload stack s (numBytes.toNat - before.length)).1) usbdev) := by
  have small : before.length <= 64 := filled.short
  have added : (BitVec.ofNat 8 before.length).toNat = before.length := by
    rw [BitVec.toNat_ofNat]
    omega
  change numBytes.toNat <= 64 at short
  unfold addData
  by_cases some : BitVec.ofNat 8 before.length < numBytes
  · have less : before.length < numBytes.toNat := by
      rw [BitVec.lt_def, added] at some
      exact some
    have count : (numBytes - BitVec.ofNat 8 before.length).toNat =
        numBytes.toNat - before.length := by
      rw [BitVec.toNat_sub, added]
      omega
    have length := length_packetData stack s (numBytes.toNat - before.length)
    rw [if_pos some]
    unfold bufferFill
    rw [check_bind, check_bind, count]
    · unfold payload
      dsimp only
      refine Code.triple_lift_ok (Containing n away slots known pool objects buf.id.toNat
        (before ++ (packetData stack s (numBytes.toNat - before.length)).1))
        (bufferWrite_filled filled (by rw [length]; change _ <= 64; omega)) ?_
      change Triple device Hardware _ ((checkDifOk .kDifOk >>= fun _ => _) memory) _
      rw [checkDifOk_ok_bind, check_bind (by simp [length])]
      exact Triple.ret stable_tracked (fun _ tracked => ⟨rfl, tracked⟩)
    · rw [count]
      exact decide_eq_true (by change _ <= 64; omega)
    · have remaining : buf.remainingBytes.toNat = 64 - before.length := filled.remaining
      apply decide_eq_true
      rw [BitVec.le_def, count, remaining]
      omega
  · have none : numBytes.toNat - before.length = 0 := by
      rw [BitVec.lt_def, added] at some
      omega
    rw [if_neg some, none, payload_zero, written_nil, List.append_nil]
    exact Triple.ret stable_tracked (fun _ tracked => ⟨rfl, tracked⟩)

end

end UsbStreams
end SunburstChip
