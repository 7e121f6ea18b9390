import SunburstChip.Base.Bitfield
import SunburstChip.Lib.Mmio

namespace SunburstChip

/-!
# What all device interface functions share

The result and toggle types of `dif_base.h`, and the two things a pointer
argument can be to a function that checks it against `NULL` before use.
-/

/-- `dif_result_t` -/
inductive DifResult where
  | kDifOk
  | kDifError
  | kDifBadArg
  | kDifLocked
  | kDifUnavailable
  | kDifIpFifoFull
  | kDifOutOfRange
  | kDifUnaligned
  deriving DecidableEq

/-- A pointer argument: `NULL`, or a valid pointer to the object it is about. -/
inductive Pointer where
  | null
  | object
  deriving DecidableEq

/-- `dif_toggle_t`, an enumeration whose variables may hold any word. -/
abbrev DifToggle := BitVec 32

def kDifToggleDisabled : DifToggle := 0

def kDifToggleEnabled : DifToggle := 1

/-- `dif_is_valid_toggle` -/
def difIsValidToggle (val : DifToggle) : Bool :=
  val == kDifToggleEnabled || val == kDifToggleDisabled

/-- `dif_toggle_to_bool` -/
def difToggleToBool (val : DifToggle) : Bool := val == kDifToggleEnabled

/-! ## Bits of a register -/

/-- `mmio_region_get_bit32` -/
def mmioRegionGetBit32 (offset bitIndex : Nat) : Mmio Bool := do
  let registerValue <- Mmio.mmioRegionRead32 offset
  return bitfieldBit32Read registerValue bitIndex

/-- `mmio_region_nonatomic_clear_mask32` -/
def mmioRegionNonatomicClearMask32 (offset : Nat) (mask : BitVec 32) (maskIndex : Nat) :
    Mmio Unit := do
  let registerValue <- Mmio.mmioRegionRead32 offset
  Mmio.mmioRegionWrite32 offset (bitfieldField32Write registerValue ⟨mask, maskIndex⟩ 0x0)

/-- `mmio_region_nonatomic_set_mask32` -/
def mmioRegionNonatomicSetMask32 (offset : Nat) (mask : BitVec 32) (maskIndex : Nat) :
    Mmio Unit := do
  let registerValue <- Mmio.mmioRegionRead32 offset
  Mmio.mmioRegionWrite32 offset (bitfieldField32Write registerValue ⟨mask, maskIndex⟩ (~~~0x0))

end SunburstChip
