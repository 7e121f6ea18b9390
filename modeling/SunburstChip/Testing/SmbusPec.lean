import SunburstChip.Lib.Crc
import SunburstChip.Testing.I2cTargetSmbusArp

namespace SunburstChip
namespace SmbusArp

open Polynomial

/-!
# Packet error codes of whole messages

The table of `i2c_target_smbus_arp_test.c` takes eight steps of the shift
register at once.  The packet error code of a message is therefore what a
register holds that took in one bit after the other, which is a remainder of
polynomials.
-/

/-- `x^8 + x^2 + x + 1`, without its highest coefficient. -/
abbrev pecPoly : BitVec 8 := 0x07

/-- The bits of a message, each byte with its highest bit first. -/
def messageBits (message : List (BitVec 8)) : List Bool := message.flatMap Crc.bitsOf

theorem modulus_pecPoly : Crc.modulus pecPoly = X ^ 8 + X ^ 2 + X + 1 := by
  have coefficients : Crc.ofWord pecPoly = X ^ 2 + X + 1 := by
    simp [Crc.ofWord, Crc.coefficient, Finset.sum_range_succ]
    ring
  rw [Crc.modulus, coefficients]
  ring

/-- The bits that wait below the highest one are shifted along with the register. -/
theorem crc8Shift_xor (register bits : BitVec 8) :
    crc8Shift (register ^^^ bits) = Crc.step pecPoly register bits.msb ^^^ (bits <<< 1) := by
  have highest : (register ^^^ bits).getMsbD 0 = (register.msb ^^ bits.msb) := by
    rw [<- BitVec.msb_eq_getMsbD_zero, BitVec.msb_xor]
  unfold crc8Shift Crc.step
  rw [highest, BitVec.shiftLeft_xor_distrib]
  split
  · rw [BitVec.xor_assoc, BitVec.xor_assoc, BitVec.xor_comm (bits <<< 1)]
  · rfl

/-- So are they by a number of shifts, each of which takes in one of them. -/
theorem crc8Shift_iterate_xor (register bits : BitVec 8) (n : Nat) :
    crc8Shift^[n] (register ^^^ bits) =
      Crc.feed pecPoly register ((List.range n).map bits.getMsbD) ^^^ (bits <<< n) := by
  induction n with
  | zero => simp [Crc.feed]
  | succ n ih =>
      have next : (bits <<< n).msb = bits.getMsbD n := by simp [BitVec.msb_shiftLeft]
      rw [Function.iterate_succ_apply', ih, crc8Shift_xor, next, <- BitVec.shiftLeft_add,
        List.range_succ, List.map_append, Crc.feed_append]
      rfl

theorem calcPec_feed (remainder next : BitVec 8) :
    calcPec remainder next = Crc.feed pecPoly remainder (Crc.bitsOf next) := by
  have none : next <<< 8 = 0#8 := BitVec.shiftLeft_eq_zero (Nat.le_refl 8)
  rw [calcPec_eq, crc8Add, crc8Shift_iterate_xor, none, BitVec.xor_zero]
  rfl

theorem foldl_calcPec (remainder : BitVec 8) (message : List (BitVec 8)) :
    message.foldl calcPec remainder = Crc.feed pecPoly remainder (messageBits message) := by
  induction message generalizing remainder with
  | nil => rfl
  | cons byte rest ih =>
      rw [List.foldl_cons, ih, calcPec_feed, <- Crc.feed_append]
      rfl

/-- The packet error code of a message is its CRC-8, bit by bit and as a remainder, and with the
code behind it a message leaves nothing. -/
theorem calcPec_crc8 (message : List (BitVec 8)) :
    message.foldl calcPec 0 = Crc.feed pecPoly 0 (messageBits message) ∧
      Crc.ofWord (message.foldl calcPec 0) =
        (Crc.ofBits (messageBits message) * X ^ 8) %ₘ (X ^ 8 + X ^ 2 + X + 1) ∧
      (message ++ [message.foldl calcPec 0]).foldl calcPec 0 = 0 := by
  refine ⟨foldl_calcPec 0 message, ?_, ?_⟩
  · rw [foldl_calcPec, Crc.ofWord_feed, modulus_pecPoly]
  · rw [List.foldl_append, List.foldl_cons, List.foldl_nil, calcPec_feed]
    exact Crc.feed_residue pecPoly _

example : (ascii "123456789").foldl calcPec 0 = 0xf4 := by decide

end SmbusArp
end SunburstChip
