import Mathlib.Logic.Function.Basic
import SunburstChip.Lib.Mmio

namespace SunburstChip

/-!
# Banks of registers

A device whose registers keep what is written to them is given by their names
and where they lie.  A program that reads and writes them by their offsets is
executed on what each of them holds.
-/

/-- The registers of a device, each at an offset of its own. -/
structure Layout (ρ : Type) where
  offset : ρ -> Nat
  registers : List ρ
  complete : forall register, register ∈ registers
  apart : Function.Injective offset

namespace Layout

open Mmio

variable {ρ α : Type} [DecidableEq ρ] (layout : Layout ρ)

/-- The register at an offset. -/
def decode (offset : Nat) : Option ρ :=
  layout.registers.find? (fun register => layout.offset register = offset)

omit [DecidableEq ρ] in
/-- Each register is found where it lies. -/
theorem decode_offset (register : ρ) : layout.decode (layout.offset register) = some register := by
  unfold decode
  rcases found : layout.registers.find?
    (fun other => decide (layout.offset other = layout.offset register)) with _ | other
  · have missing := List.find?_eq_none.mp found register (layout.complete register)
    exact absurd (decide_eq_true rfl) missing
  · have there := List.find?_some found
    exact congrArg some (layout.apart (of_decide_eq_true there))

/-- The registers keep what is written to them, and nothing lies between them. -/
def device : Device (ρ -> BitVec 32) where
  read32 offset bank :=
    match layout.decode offset with
    | some register => (bank register, bank)
    | none => (0, bank)
  write32 offset value bank :=
    match layout.decode offset with
    | some register => Function.update bank register value
    | none => bank
  write8 _ _ bank := bank

section

variable {bank : ρ -> BitVec 32} {log : List Access}

theorem device_read32 (register : ρ) (bank : ρ -> BitVec 32) :
    layout.device.read32 (layout.offset register) bank = (bank register, bank) := by
  unfold device
  dsimp only
  rw [decode_offset]

theorem device_write32 (register : ρ) (value : BitVec 32) (bank : ρ -> BitVec 32) :
    layout.device.write32 (layout.offset register) value bank =
      Function.update bank register value := by
  unfold device
  dsimp only
  rw [decode_offset]

/-- A register is read by its offset. -/
theorem run_read (register : ρ) (next : BitVec 32 -> Mmio α) :
    (mmioRegionRead32 (layout.offset register) >>= next).run layout.device bank =
      (next (bank register)).run layout.device bank := by
  change (next (layout.device.read32 (layout.offset register) bank).1).run layout.device
    (layout.device.read32 (layout.offset register) bank).2 = _
  rw [device_read32]

/-- A register is written by its offset. -/
theorem run_write (register : ρ) (value : BitVec 32) (next : Unit -> Mmio α) :
    (mmioRegionWrite32 (layout.offset register) value >>= next).run layout.device bank =
      (next ()).run layout.device (Function.update bank register value) := by
  change (next ()).run layout.device
    (layout.device.write32 (layout.offset register) value bank) = _
  rw [device_write32]

/-- A read is noted. -/
theorem run_read_logged (register : ρ) (next : BitVec 32 -> Mmio α) :
    (mmioRegionRead32 (layout.offset register) >>= next).run layout.device.logged (bank, log) =
      (next (bank register)).run layout.device.logged
        (bank, log ++ [.read32 (layout.offset register)]) := by
  change (next (layout.device.read32 (layout.offset register) bank).1).run layout.device.logged
    ((layout.device.read32 (layout.offset register) bank).2, _) = _
  rw [device_read32]

/-- A write is noted. -/
theorem run_write_logged (register : ρ) (value : BitVec 32) (next : Unit -> Mmio α) :
    (mmioRegionWrite32 (layout.offset register) value >>= next).run layout.device.logged
        (bank, log) =
      (next ()).run layout.device.logged
        (Function.update bank register value,
          log ++ [.write32 (layout.offset register) value]) := by
  change (next ()).run layout.device.logged
    (layout.device.write32 (layout.offset register) value bank, _) = _
  rw [device_write32]

end

end Layout

/-- An access that changes nothing. -/
def Access.Reads : Access -> Prop
  | .read32 _ => True
  | _ => False

end SunburstChip
