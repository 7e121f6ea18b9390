import Mathlib.Algebra.Order.Field.Rat
import Mathlib.Data.Rat.Cast.Order
import Mathlib.Tactic.Positivity
import Mathlib.Tactic.Ring
import SunburstChip.Dif.SpiHost
import SunburstChip.Lib.Owned

namespace SunburstChip
namespace SpiHost

open Mmio

/-!
# The clock of the SPI host

What `dif_spi_host_configure` programs.  The requested clock is turned into a
divider by two divisions that both round down, so the divider is never too
large and the clock that it gives is never too slow.  It is the slowest one that
is not, and it is the requested one exactly if the division leaves nothing.
-/

/-! ## The registers -/

/-- The registers that `dif_spi_host_configure` writes. -/
structure Settings where
  control : BitVec 32
  configopts : BitVec 32
  deriving DecidableEq

abbrev controlRegOffset : Nat := 0x10
abbrev controlRxWatermarkField : BitfieldField32 := ⟨0xff, 0⟩
abbrev controlTxWatermarkField : BitfieldField32 := ⟨0xff, 8⟩
abbrev controlSwRstBit : Nat := 30
abbrev controlSpienBit : Nat := 31
abbrev statusActiveBit : Nat := 30
abbrev configoptsRegOffset : Nat := 0x18
abbrev configoptsClkdivMask : BitVec 32 := 0xffff
abbrev configoptsClkdivField : BitfieldField32 := ⟨configoptsClkdivMask, 0⟩
abbrev configoptsCsnidleField : BitfieldField32 := ⟨0xf, 16⟩
abbrev configoptsCsntrailField : BitfieldField32 := ⟨0xf, 20⟩
abbrev configoptsCsnleadField : BitfieldField32 := ⟨0xf, 24⟩
abbrev configoptsFullcycBit : Nat := 29
abbrev configoptsCphaBit : Nat := 30
abbrev configoptsCpolBit : Nat := 31

/-- They keep what is written to them. -/
def settingsDevice : Device Settings where
  read32 offset settings :=
    match offset with
    | 0x10 => (settings.control, settings)
    | 0x18 => (settings.configopts, settings)
    | _ => (0, settings)
  write32 offset value settings :=
    match offset with
    | 0x10 => { settings with control := value }
    | 0x18 => { settings with configopts := value }
    | _ => settings
  write8 _ _ settings := settings

/-- `STATUS` is the hardware's. -/
def seesStatus (offset : Nat) (status : BitVec 32) : Option (BitVec 32) :=
  if offset = statusRegOffset then some status else none

/-! ## The driver -/

/-- `dif_spi_host_config_t` -/
structure Config where
  spiClock : BitVec 32
  peripheralClockFreqHz : BitVec 32
  idle : BitVec 8
  trail : BitVec 8
  lead : BitVec 8
  fullCycle : Bool
  cpha : Bool
  cpol : Bool
  txWatermark : BitVec 32
  rxWatermark : BitVec 32
  deriving DecidableEq

/-- `spi_host_reset` -/
def spiHostReset : Mmio Unit := do
  let reg <- mmioRegionRead32 controlRegOffset
  mmioRegionWrite32 controlRegOffset (bitfieldBit32Write reg controlSwRstBit true)
  let _ <- pollUntil statusRegOffset (fun reg => !bitfieldBit32Read reg statusActiveBit)
  let _ <- pollUntil statusRegOffset (fun reg =>
    bitfieldField32Read reg statusTxqdField == 0 && bitfieldField32Read reg statusRxqdField == 0)
  mmioRegionWrite32 controlRegOffset (bitfieldBit32Write 0 controlSwRstBit false)

/-- `spi_host_enable` -/
def spiHostEnable (enable : Bool) : Mmio Unit := do
  let reg <- mmioRegionRead32 controlRegOffset
  mmioRegionWrite32 controlRegOffset (bitfieldBit32Write reg controlSpienBit enable)

/-- The divider that `dif_spi_host_configure` computes; without a whole period
it wraps around. -/
def Config.divider (config : Config) : BitVec 32 :=
  config.peripheralClockFreqHz / config.spiClock / 2 - 1

/-- What `dif_spi_host_configure` puts together for `CONFIGOPTS`. -/
def Config.configopts (config : Config) : BitVec 32 :=
  let reg := bitfieldField32Write 0 configoptsClkdivField config.divider
  let reg := bitfieldField32Write reg configoptsCsnidleField (config.idle.setWidth 32)
  let reg := bitfieldField32Write reg configoptsCsntrailField (config.trail.setWidth 32)
  let reg := bitfieldField32Write reg configoptsCsnleadField (config.lead.setWidth 32)
  let reg := bitfieldBit32Write reg configoptsFullcycBit config.fullCycle
  let reg := bitfieldBit32Write reg configoptsCphaBit config.cpha
  bitfieldBit32Write reg configoptsCpolBit config.cpol

/-- `dif_spi_host_configure` -/
def difSpiHostConfigure (spiHost : Pointer) (config : Config) : Mmio DifResult := do
  if spiHost = .null then
    return .kDifBadArg
  if config.peripheralClockFreqHz = 0 ∨ config.spiClock = 0 then
    return .kDifBadArg
  if config.divider &&& ~~~configoptsClkdivMask ≠ 0 then
    return .kDifBadArg
  spiHostReset
  mmioRegionWrite32 configoptsRegOffset config.configopts
  let reg <- mmioRegionRead32 controlRegOffset
  let reg := bitfieldField32Write reg controlTxWatermarkField config.txWatermark
  let reg := bitfieldField32Write reg controlRxWatermarkField config.rxWatermark
  mmioRegionWrite32 controlRegOffset reg
  spiHostEnable true
  return .kDifOk

/-! ## What is programmed -/

section

variable {config : Config}

/-- How often the requested clock would fit into half the peripheral clock. -/
def Config.halfPeriods (config : Config) : Nat :=
  config.peripheralClockFreqHz.toNat / (2 * config.spiClock.toNat)

/-- The configuration is refused: there is no handle or no clock, or the requested
clock is above half the peripheral clock or too slow for the divider. -/
def Config.Refused (config : Config) (spiHost : Pointer) : Prop :=
  spiHost = .null ∨ config.peripheralClockFreqHz = 0 ∨ config.spiClock = 0 ∨
    config.halfPeriods = 0 ∨ 2 ^ 16 < config.halfPeriods

theorem divider_toNat (some : config.halfPeriods ≠ 0) :
    config.divider.toNat = config.halfPeriods - 1 := by
  have halves :
      (config.peripheralClockFreqHz / config.spiClock / 2).toNat = config.halfPeriods := by
    rw [BitVec.toNat_udiv, BitVec.toNat_udiv, Nat.div_div_eq_div_mul, Nat.mul_comm]
    rfl
  have small : config.halfPeriods < 2 ^ 32 :=
    Nat.lt_of_le_of_lt (Nat.div_le_self _ _) config.peripheralClockFreqHz.isLt
  unfold Config.divider
  rw [BitVec.toNat_sub, halves]
  change (2 ^ 32 - 1 + config.halfPeriods) % 2 ^ 32 = _
  omega

/-- Without a whole half period the divider has all its bits set. -/
theorem divider_zero (none : config.halfPeriods = 0) : config.divider = 0xffffffff := by
  have halves : config.peripheralClockFreqHz / config.spiClock / 2 = 0 := by
    apply BitVec.eq_of_toNat_eq
    rw [BitVec.toNat_udiv, BitVec.toNat_udiv, Nat.div_div_eq_div_mul, Nat.mul_comm]
    exact none
  unfold Config.divider
  rw [halves]
  rfl

/-- The divider fits its field exactly if there are not too few and not too many half
periods. -/
theorem divider_fits_iff : config.divider &&& ~~~configoptsClkdivMask = 0 ↔
    config.halfPeriods ≠ 0 ∧ config.halfPeriods <= 2 ^ 16 := by
  have run : configoptsClkdivMask.toNat = 2 ^ 16 - 1 := by decide
  refine (and_not_mask_eq_zero_iff run _).trans ?_
  by_cases none : config.halfPeriods = 0
  · rw [divider_zero none]
    exact iff_of_false (by decide) (fun some => some.1 none)
  · rw [divider_toNat none]
    omega

theorem clkdiv_configopts (fits : config.divider.toNat < 2 ^ 16) :
    bitfieldField32Read config.configopts configoptsClkdivField = config.divider := by
  unfold Config.configopts bitfieldBit32Write
  dsimp only
  rw [bitfieldField32Read_write_other (by decide), bitfieldField32Read_write_other (by decide),
    bitfieldField32Read_write_other (by decide), bitfieldField32Read_write_other (by decide),
    bitfieldField32Read_write_other (by decide), bitfieldField32Read_write_other (by decide),
    bitfieldField32Read_write_same (by decide)]
  exact (and_mask_eq_self_iff (by decide) _).mpr fits

/-- After the reset, `CONTROL` is clear. -/
theorem spiHostReset_does (before : Settings) :
    Does settingsDevice seesStatus before spiHostReset () { before with control := 0 } := by
  have seen (status : BitVec 32) : (seesStatus statusRegOffset status).isSome := rfl
  refine .read32 (fun _ => rfl) (.write32 ?_)
  refine .poll32 seen ⟨0, 0, rfl, by decide⟩ (fun _ _ => ?_)
  refine .poll32 seen ⟨0, 0, rfl, by decide⟩ (fun _ _ => ?_)
  exact .write32 (.ret _ _)

/-- `CONTROL` after the configuration. -/
def Config.control (config : Config) : BitVec 32 :=
  bitfieldBit32Write (bitfieldField32Write (bitfieldField32Write 0 controlTxWatermarkField
    config.txWatermark) controlRxWatermarkField config.rxWatermark) controlSpienBit true

theorem configure_accepted (before : Settings) (accepted : ¬ config.Refused .object) :
    Does settingsDevice seesStatus before (difSpiHostConfigure .object config) .kDifOk
      ⟨config.control, config.configopts⟩ := by
  simp only [Config.Refused, not_or] at accepted
  rcases accepted with ⟨object, clock, requested, some, few⟩
  have fits := divider_fits_iff.mpr ⟨some, Nat.le_of_not_lt few⟩
  unfold difSpiHostConfigure
  rw [if_neg object, if_neg (not_or.mpr ⟨clock, requested⟩), if_neg (not_not.mpr fits)]
  refine .bind (spiHostReset_does before) (.write32 (.read32 (fun _ => rfl) (.write32 ?_)))
  exact .read32 (fun _ => rfl) (.write32 (.ret _ _))

theorem configure_refused {spiHost : Pointer} (refused : config.Refused spiHost) :
    difSpiHostConfigure spiHost config = .ret .kDifBadArg := by
  unfold difSpiHostConfigure
  by_cases null : spiHost = .null
  · rw [if_pos null]
    rfl
  rw [if_neg null]
  by_cases clocks : config.peripheralClockFreqHz = 0 ∨ config.spiClock = 0
  · rw [if_pos clocks]
    rfl
  rw [if_neg clocks, if_pos]
  · rfl
  · intro fits
    have inside := divider_fits_iff.mp fits
    rcases refused with none | none | none | none | many
    · exact null none
    · exact clocks (Or.inl none)
    · exact clocks (Or.inr none)
    · exact inside.1 none
    · exact absurd inside.2 (Nat.not_le.mpr many)

/-! ## The clock it gives -/

/-- The clock on `SCK` for a value of the divider field. -/
def sckHz (peripheralClockFreqHz : BitVec 32) (clkdiv : Nat) : ℚ :=
  (peripheralClockFreqHz.toNat : ℚ) / (2 * (clkdiv + 1))

theorem sckHz_le_iff (freq spiClock : BitVec 32) (clkdiv : Nat) :
    sckHz freq clkdiv <= spiClock.toNat ↔ freq.toNat <= spiClock.toNat * (2 * (clkdiv + 1)) := by
  unfold sckHz
  rw [div_le_iff₀ (by positivity)]
  exact_mod_cast Iff.rfl

theorem le_sckHz_iff (freq spiClock : BitVec 32) (clkdiv : Nat) :
    spiClock.toNat <= sckHz freq clkdiv ↔ spiClock.toNat * (2 * (clkdiv + 1)) <= freq.toNat := by
  unfold sckHz
  rw [le_div_iff₀ (by positivity)]
  exact_mod_cast Iff.rfl

/-- The clock for a divider is at most the requested one, and no other value of the field gives a
faster one that is. -/
def Config.FastestWithin (config : Config) (clkdiv : Nat) : Prop :=
  sckHz config.peripheralClockFreqHz clkdiv <= config.spiClock.toNat ∧
  forall other, other < 2 ^ 16 ->
    sckHz config.peripheralClockFreqHz other <= config.spiClock.toNat ->
    sckHz config.peripheralClockFreqHz other <= sckHz config.peripheralClockFreqHz clkdiv

/-- Half periods of the requested clock are no longer than the peripheral clock allows. -/
theorem halfPeriods_le : config.spiClock.toNat * (2 * config.halfPeriods) <=
    config.peripheralClockFreqHz.toNat := by
  have whole : config.halfPeriods * (2 * config.spiClock.toNat) <=
      config.peripheralClockFreqHz.toNat := Nat.div_mul_le_self _ _
  calc config.spiClock.toNat * (2 * config.halfPeriods)
      = config.halfPeriods * (2 * config.spiClock.toNat) := by ring
    _ <= config.peripheralClockFreqHz.toNat := whole

/-- The divider is rounded down, so that the clock is never slower than requested. -/
theorem le_sckHz_divider (some : config.halfPeriods ≠ 0) :
    config.spiClock.toNat <= sckHz config.peripheralClockFreqHz config.divider.toNat := by
  rw [le_sckHz_iff, divider_toNat some, Nat.sub_add_cancel (Nat.pos_of_ne_zero some)]
  exact halfPeriods_le

/-- It is not faster exactly if nothing was rounded. -/
theorem sckHz_divider_le_iff (some : config.halfPeriods ≠ 0) :
    sckHz config.peripheralClockFreqHz config.divider.toNat <= config.spiClock.toNat ↔
      2 * config.spiClock.toNat ∣ config.peripheralClockFreqHz.toNat := by
  rw [sckHz_le_iff, divider_toNat some, Nat.sub_add_cancel (Nat.pos_of_ne_zero some)]
  constructor
  · intro most
    have whole := Nat.le_antisymm most halfPeriods_le
    exact ⟨config.halfPeriods, by rw [whole]; ring⟩
  · intro divides
    have whole : 2 * config.spiClock.toNat * config.halfPeriods =
        config.peripheralClockFreqHz.toNat := Nat.mul_div_cancel' divides
    exact Nat.le_of_eq (by rw [<- whole]; ring)

theorem fastestWithin_iff (some : config.halfPeriods ≠ 0) :
    config.FastestWithin config.divider.toNat ↔
      2 * config.spiClock.toNat ∣ config.peripheralClockFreqHz.toNat := by
  rw [<- sckHz_divider_le_iff some]
  constructor
  · exact fun fastest => fastest.1
  · exact fun within => ⟨within, fun _ _ other => other.trans (le_sckHz_divider some)⟩

end

/-- If the configuration is accepted, the clock that it programs is the fastest one that the
requested clock allows. -/
def ConfiguresClock (spiHost : Pointer) (config : Config) (before : Settings) : Prop :=
  forall out after,
    Does settingsDevice seesStatus before (difSpiHostConfigure spiHost config) out after ->
    out = .kDifOk ->
    config.FastestWithin (bitfieldField32Read after.configopts configoptsClkdivField).toNat

/-- The clock is not above the requested one exactly if the requested one divides half the
peripheral clock, unless the configuration is refused. -/
theorem configuresClock_iff (spiHost : Pointer) (config : Config) (before : Settings) :
    ConfiguresClock spiHost config before ↔
      config.Refused spiHost ∨ 2 * config.spiClock.toNat ∣ config.peripheralClockFreqHz.toNat := by
  by_cases refused : config.Refused spiHost
  · refine iff_of_true (fun out after does ok => ?_) (Or.inl refused)
    rw [configure_refused refused] at does
    have bad := (does.unique (.ret before _)).1
    rw [ok] at bad
    cases bad
  · have object : spiHost = .object := by
      cases spiHost with
      | null => exact absurd (Or.inl rfl) refused
      | object => rfl
    subst object
    have does := configure_accepted before refused
    have inside := refused
    simp only [Config.Refused, not_or] at inside
    rcases inside with ⟨-, -, -, some, few⟩
    have fits : config.divider.toNat < 2 ^ 16 := by
      rw [divider_toNat some]
      omega
    rw [or_iff_right refused, <- fastestWithin_iff some]
    constructor
    · intro configures
      have fastest := configures _ _ does rfl
      rw [clkdiv_configopts fits] at fastest
      exact fastest
    · intro fastest out after does' _
      rw [<- (does.unique does').2, clkdiv_configopts fits]
      exact fastest

/-- With 16 MHz requested from 50 MHz, the clock is 25 MHz, although 12.5 MHz could be had. -/
theorem configuresClock_apart :
    ¬ forall (spiHost : Pointer) (config : Config) (before : Settings),
      ConfiguresClock spiHost config before := by
  intro configures
  let config : Config := ⟨16000000, 50000000, 0, 0, 0, false, false, false, 0, 0⟩
  have accepted : ¬ config.Refused .object := by
    simp only [Config.Refused, Config.halfPeriods, config]
    decide
  have fastest := configures .object config ⟨0, 0⟩ _ _ (configure_accepted _ accepted) rfl
  have divider : (bitfieldField32Read config.configopts configoptsClkdivField).toNat = 0 := by
    decide
  rw [divider] at fastest
  have within := (sckHz_le_iff _ _ _).mp fastest.1
  exact absurd within (by decide)

end SpiHost
end SunburstChip
