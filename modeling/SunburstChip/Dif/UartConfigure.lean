import Mathlib.Algebra.Order.Field.Rat
import Mathlib.Data.Rat.Cast.Order
import Mathlib.Tactic.NormNum
import Mathlib.Tactic.Positivity
import SunburstChip.Base.Math
import SunburstChip.Dif.Uart
import SunburstChip.Lib.Owned

namespace SunburstChip
namespace Uart

open Mmio

/-!
# The baud rate of the UART

What `dif_uart_configure` programs.  The baud rate is what a counter of 20 bits
overflows at, to which `NCO` is added each cycle of the clock.  The value is
rounded down; one that is too large for its field is noticed, one that has been
rounded down to nothing is not.
-/

/-! ## The registers -/

/-- The registers that `dif_uart_configure` writes and the hardware leaves alone. -/
structure Settings where
  intrEnable : BitVec 32
  ctrl : BitVec 32
  fifoCtrl : BitVec 32
  ovrd : BitVec 32
  timeoutCtrl : BitVec 32
  deriving DecidableEq

abbrev ctrlRegOffset : Nat := 0x10
abbrev ctrlTxBit : Nat := 0
abbrev ctrlRxBit : Nat := 1
abbrev ctrlParityEnBit : Nat := 6
abbrev ctrlParityOddBit : Nat := 7
abbrev ctrlRxblvlMask : BitVec 32 := 0x3
abbrev ctrlRxblvlField : BitfieldField32 := ⟨ctrlRxblvlMask, 8⟩
abbrev ctrlNcoMask : BitVec 32 := 0xffff
abbrev ctrlNcoField : BitfieldField32 := ⟨ctrlNcoMask, 16⟩
abbrev fifoCtrlRxrstBit : Nat := 0
abbrev fifoCtrlTxrstBit : Nat := 1
abbrev ovrdRegOffset : Nat := 0x28
abbrev valRegOffset : Nat := 0x2c
abbrev timeoutCtrlRegOffset : Nat := 0x30

/-- `UART_INTR_STATE_MASK` -/
abbrev intrStateMask : BitVec 32 := 0xffffffff

/-- They keep what is written to them, but for the two bits of `FIFO_CTRL` that
reset a FIFO. -/
def settingsDevice : Device Settings where
  read32 offset settings :=
    match offset with
    | 0x4 => (settings.intrEnable, settings)
    | 0x10 => (settings.ctrl, settings)
    | 0x20 => (settings.fifoCtrl, settings)
    | 0x28 => (settings.ovrd, settings)
    | 0x30 => (settings.timeoutCtrl, settings)
    | _ => (0, settings)
  write32 offset value settings :=
    match offset with
    | 0x4 => { settings with intrEnable := value }
    | 0x10 => { settings with ctrl := value }
    | 0x20 => { settings with fifoCtrl := value &&& ~~~0x3 }
    | 0x28 => { settings with ovrd := value }
    | 0x30 => { settings with timeoutCtrl := value }
    | _ => settings
  write8 _ _ settings := settings

/-- The registers of the hardware, by their offsets. -/
def seesHardware (offset : Nat) (hardware : Nat -> BitVec 32) : Option (BitVec 32) :=
  if offset = intrStateRegOffset ∨ offset = statusRegOffset ∨ offset = rdataRegOffset ∨
      offset = fifoStatusRegOffset ∨ offset = valRegOffset then
    some (hardware offset)
  else none

/-! ## The driver -/

/-- `dif_uart_parity_t` -/
inductive DifUartParity where
  | kDifUartParityOdd
  | kDifUartParityEven
  deriving DecidableEq

/-- `dif_uart_config_t` -/
structure Config where
  baudrate : BitVec 32
  clkFreqHz : BitVec 32
  parityEnable : DifToggle
  parity : DifUartParity
  txEnable : DifToggle
  rxEnable : DifToggle
  rxBreakLevel : BitVec 32
  deriving DecidableEq

/-- `uart_reset` -/
def uartReset : Mmio Unit := do
  mmioRegionWrite32 ctrlRegOffset 0
  let reg := bitfieldBit32Write 0 fifoCtrlRxrstBit true
  let reg := bitfieldBit32Write reg fifoCtrlTxrstBit true
  mmioRegionWrite32 fifoCtrlRegOffset reg
  mmioRegionWrite32 ovrdRegOffset 0
  mmioRegionWrite32 timeoutCtrlRegOffset 0
  mmioRegionWrite32 intrEnableRegOffset 0
  mmioRegionWrite32 intrStateRegOffset intrStateMask

/-- The loop of `dif_uart_configure` that counts the bits of the field. -/
def ncoWidth : BitVec 32 :=
  (List.range 32).foldl (fun width i => width + ((ctrlNcoMask >>> i) &&& 1)) 0

/-- The value of `nco` in `dif_uart_configure`. -/
def Config.nco (config : Config) : BitVec 64 :=
  if config.baudrate.setWidth 64 = 1500000 ∧ config.clkFreqHz = 24000000 then 0xffff
  else (udiv64Slow (config.baudrate.setWidth 64 <<< (ncoWidth.toNat + 4))
    (config.clkFreqHz.setWidth 64)).1

/-- The value of `nco_masked` in `dif_uart_configure`. -/
def Config.ncoMasked (config : Config) : BitVec 32 :=
  (config.nco &&& ctrlNcoMask.setWidth 64).setWidth 32

/-- What `dif_uart_configure` puts together for `CTRL`. -/
def Config.ctrl (config : Config) : BitVec 32 :=
  let reg := bitfieldField32Write 0 ctrlNcoField config.ncoMasked
  let reg := bitfieldField32Write reg ctrlRxblvlField config.rxBreakLevel
  let reg := if difToggleToBool config.txEnable then bitfieldBit32Write reg ctrlTxBit true else reg
  let reg := if difToggleToBool config.rxEnable then bitfieldBit32Write reg ctrlRxBit true else reg
  let reg := if config.parityEnable = kDifToggleEnabled then
    bitfieldBit32Write reg ctrlParityEnBit true else reg
  if config.parity = .kDifUartParityOdd then bitfieldBit32Write reg ctrlParityOddBit true else reg

/-- `dif_uart_configure` -/
def difUartConfigure (uart : Pointer) (config : Config) : Mmio DifResult := do
  if uart = .null ∨ config.baudrate = 0 ∨ config.clkFreqHz = 0 ∨
      !difIsValidToggle config.txEnable ∨ !difIsValidToggle config.rxEnable then
    return .kDifBadArg
  if config.nco ≠ config.ncoMasked.setWidth 64 then
    return .kDifBadArg
  if config.rxBreakLevel &&& ctrlRxblvlMask ≠ config.rxBreakLevel then
    return .kDifBadArg
  uartReset
  mmioRegionWrite32 ctrlRegOffset config.ctrl
  mmioRegionWrite32 intrEnableRegOffset 0
  return .kDifOk

/-! ## The value for a baud rate -/

/-- The clock and the baud rate for which the value is not the calculated one. -/
def Config.Special (config : Config) : Prop :=
  config.baudrate = 1500000 ∧ config.clkFreqHz = 24000000

instance (config : Config) : Decidable config.Special := inferInstanceAs (Decidable (_ ∧ _))

/-- The value that the formula gives, rounded down. -/
def Config.quotient (config : Config) : Nat :=
  config.baudrate.toNat * 2 ^ 20 / config.clkFreqHz.toNat

section

variable {config : Config}

theorem nco_special (special : config.Special) : config.nco = 0xffff := by
  unfold Config.nco
  rw [special.1, special.2]
  rfl

theorem nco_toNat (ordinary : ¬ config.Special) (clock : config.clkFreqHz ≠ 0) :
    config.nco.toNat = config.quotient := by
  have shifted : (config.baudrate.setWidth 64 <<< (ncoWidth.toNat + 4)).toNat =
      config.baudrate.toNat * 2 ^ 20 := by
    have small := config.baudrate.isLt
    have width : ncoWidth.toNat + 4 = 20 := by decide
    rw [width, BitVec.toNat_shiftLeft, BitVec.toNat_setWidth, Nat.shiftLeft_eq]
    omega
  have divisor : (config.clkFreqHz.setWidth 64).toNat = config.clkFreqHz.toNat := by
    have small := config.clkFreqHz.isLt
    rw [BitVec.toNat_setWidth]
    omega
  have positive : 0 < config.clkFreqHz.toNat :=
    Nat.pos_of_ne_zero (BitVec.toNat_ne_iff_ne.mpr clock)
  have other : ¬ (config.baudrate.setWidth 64 = 1500000 ∧ config.clkFreqHz = 24000000) := by
    rintro ⟨rate, freq⟩
    apply ordinary
    refine ⟨BitVec.eq_of_toNat_eq ?_, freq⟩
    have value := congrArg BitVec.toNat rate
    have small := config.baudrate.isLt
    rw [BitVec.toNat_setWidth, Nat.mod_eq_of_lt (by omega)] at value
    exact value
  unfold Config.nco
  rw [if_neg other, udiv64Slow_eq (by rw [divisor]; exact positive), BitVec.toNat_udiv, shifted,
    divisor]
  rfl

/-- The masked value is the whole one exactly if that fits the field. -/
theorem ncoMasked_eq_iff :
    config.nco = config.ncoMasked.setWidth 64 ↔ config.nco.toNat < 2 ^ 16 := by
  have run : (ctrlNcoMask.setWidth 64).toNat = 2 ^ 16 - 1 := by decide
  have cut : config.ncoMasked.setWidth 64 = config.nco &&& ctrlNcoMask.setWidth 64 := by
    apply BitVec.eq_of_toNat_eq
    unfold Config.ncoMasked
    rw [BitVec.toNat_setWidth, BitVec.toNat_setWidth, BitVec.toNat_and, run,
      Nat.and_two_pow_sub_one_eq_mod]
    omega
  rw [cut, eq_comm]
  exact and_mask_eq_self_iff run _

theorem ncoMasked_toNat (fits : config.nco.toNat < 2 ^ 16) :
    config.ncoMasked.toNat = config.nco.toNat := by
  have whole := congrArg BitVec.toNat (ncoMasked_eq_iff.mpr fits)
  have small := config.ncoMasked.isLt
  rw [BitVec.toNat_setWidth, Nat.mod_eq_of_lt (by omega)] at whole
  exact whole.symm

theorem nco_ctrl (fits : config.nco.toNat < 2 ^ 16) :
    bitfieldField32Read config.ctrl ctrlNcoField = config.ncoMasked := by
  have bit (reg : BitVec 32) (condition : Prop) [Decidable condition] {bitIndex : Nat}
      (apart : (bitfieldBit32ToField32 bitIndex).Apart ctrlNcoField) :
      bitfieldField32Read (if condition then bitfieldBit32Write reg bitIndex true else reg)
        ctrlNcoField = bitfieldField32Read reg ctrlNcoField := by
    split
    · exact bitfieldField32Read_write_other apart _ _
    · rfl
  unfold Config.ctrl
  dsimp only
  rw [bit _ _ (by decide), bit _ _ (by decide), bit _ _ (by decide), bit _ _ (by decide),
    bitfieldField32Read_write_other (by decide), bitfieldField32Read_write_same (by decide)]
  refine (and_mask_eq_self_iff (show ctrlNcoMask.toNat = 2 ^ 16 - 1 by decide) _).mpr ?_
  rw [ncoMasked_toNat fits]
  exact fits

theorem configure_accepted (before : Settings) {config : Config}
    (valid : ¬ (Pointer.object = .null ∨ config.baudrate = 0 ∨ config.clkFreqHz = 0 ∨
      !difIsValidToggle config.txEnable ∨ !difIsValidToggle config.rxEnable))
    (fits : config.nco.toNat < 2 ^ 16)
    (level : config.rxBreakLevel &&& ctrlRxblvlMask = config.rxBreakLevel) :
    Does settingsDevice seesHardware before (difUartConfigure .object config) .kDifOk
      ⟨0, config.ctrl, 0, 0, 0⟩ := by
  unfold difUartConfigure
  rw [if_neg valid, if_neg (not_not.mpr (ncoMasked_eq_iff.mpr fits)), if_neg (not_not.mpr level)]
  refine .write32 (.write32 (.write32 (.write32 (.write32 (.write32 ?_)))))
  exact .write32 (.write32 (.ret _ _))

/-! ## The rate it gives -/

/-- The baud rate for a value of `NCO`. -/
def baudHz (clkFreqHz : BitVec 32) (nco : Nat) : ℚ := clkFreqHz.toNat * nco / 2 ^ 20

/-- The baud rate for the value is at most the requested one, and less than what one more would
add is missing. -/
structure Config.Approximates (config : Config) (nco : Nat) : Prop where
  atMost : baudHz config.clkFreqHz nco <= config.baudrate.toNat
  within : config.baudrate.toNat < baudHz config.clkFreqHz nco + config.clkFreqHz.toNat / 2 ^ 20

theorem approximates_iff (nco : Nat) : config.Approximates nco ↔
    config.clkFreqHz.toNat * nco <= config.baudrate.toNat * 2 ^ 20 ∧
      config.baudrate.toNat * 2 ^ 20 < config.clkFreqHz.toNat * (nco + 1) := by
  have next : baudHz config.clkFreqHz nco + config.clkFreqHz.toNat / 2 ^ 20 =
      config.clkFreqHz.toNat * (nco + 1) / 2 ^ 20 := by
    unfold baudHz
    ring
  have lower : baudHz config.clkFreqHz nco <= config.baudrate.toNat ↔
      config.clkFreqHz.toNat * nco <= config.baudrate.toNat * 2 ^ 20 := by
    unfold baudHz
    rw [div_le_iff₀ (by positivity)]
    exact_mod_cast Iff.rfl
  have upper : (config.baudrate.toNat : ℚ) < config.clkFreqHz.toNat * (nco + 1) / 2 ^ 20 ↔
      config.baudrate.toNat * 2 ^ 20 < config.clkFreqHz.toNat * (nco + 1) := by
    rw [lt_div_iff₀ (by positivity)]
    exact_mod_cast Iff.rfl
  rw [<- lower, <- upper, <- next]
  exact ⟨fun close => ⟨close.atMost, close.within⟩, fun close => ⟨close.1, close.2⟩⟩

/-- Only the rounded quotient is that close. -/
theorem approximates_quotient_iff (clock : config.clkFreqHz ≠ 0) (nco : Nat) :
    config.Approximates nco ↔ nco = config.quotient := by
  have positive : 0 < config.clkFreqHz.toNat :=
    Nat.pos_of_ne_zero (BitVec.toNat_ne_iff_ne.mpr clock)
  rw [approximates_iff, eq_comm, Config.quotient, Nat.div_eq_iff positive, Nat.mul_comm,
    Nat.mul_comm nco]
  have next : config.clkFreqHz.toNat * (nco + 1) = config.clkFreqHz.toNat * nco +
      config.clkFreqHz.toNat := Nat.mul_succ _ _
  omega

theorem quotient_eq_zero_iff (clock : config.clkFreqHz ≠ 0) :
    config.quotient = 0 ↔ config.baudrate.toNat * 2 ^ 20 < config.clkFreqHz.toNat := by
  have positive : config.clkFreqHz.toNat ≠ 0 := BitVec.toNat_ne_iff_ne.mpr clock
  rw [Config.quotient, Nat.div_eq_zero_iff, or_iff_right positive]

theorem quotient_fits_iff (clock : config.clkFreqHz ≠ 0) :
    config.quotient < 2 ^ 16 ↔ 16 * config.baudrate.toNat < config.clkFreqHz.toNat := by
  have positive : 0 < config.clkFreqHz.toNat :=
    Nat.pos_of_ne_zero (BitVec.toNat_ne_iff_ne.mpr clock)
  rw [Config.quotient, Nat.div_lt_iff_lt_mul positive]
  omega

/-- The configuration is refused: there is no handle, baud rate or clock, a toggle is neither
value, the baud rate is too high for the clock, or the break level does not fit its field. -/
def Config.Refused (config : Config) (uart : Pointer) : Prop :=
  uart = .null ∨ config.baudrate = 0 ∨ config.clkFreqHz = 0 ∨
    difIsValidToggle config.txEnable = false ∨ difIsValidToggle config.rxEnable = false ∨
    (¬ config.Special ∧ config.clkFreqHz.toNat <= 16 * config.baudrate.toNat) ∨
    3 < config.rxBreakLevel.toNat

/-- The value of the field is not zero, fits the field, and gives the baud rate. -/
structure Config.Programs (config : Config) (nco : BitVec 32) : Prop where
  positive : nco ≠ 0
  fits : nco.toNat < 2 ^ 16
  rate : ¬ config.Special -> config.Approximates nco.toNat

theorem nco_fits_iff (clock : config.clkFreqHz ≠ 0) : config.nco.toNat < 2 ^ 16 ↔
    ¬ (¬ config.Special ∧ config.clkFreqHz.toNat <= 16 * config.baudrate.toNat) := by
  by_cases special : config.Special
  · rw [nco_special special]
    exact iff_of_true (by decide) (fun high => high.1 special)
  · rw [nco_toNat special clock, quotient_fits_iff clock, <- Nat.not_le]
    exact not_congr (and_iff_right special).symm

theorem configure_refused {uart : Pointer} (refused : config.Refused uart) :
    difUartConfigure uart config = .ret .kDifBadArg := by
  unfold difUartConfigure
  by_cases invalid : uart = .null ∨ config.baudrate = 0 ∨ config.clkFreqHz = 0 ∨
      !difIsValidToggle config.txEnable ∨ !difIsValidToggle config.rxEnable
  · rw [if_pos invalid]
    rfl
  rw [if_neg invalid]
  simp only [Bool.not_eq_true', not_or] at invalid
  rcases invalid with ⟨handle, rate, clock, tx, rx⟩
  by_cases fits : config.nco.toNat < 2 ^ 16
  · rw [if_neg (not_not.mpr (ncoMasked_eq_iff.mpr fits)), if_pos]
    · rfl
    · intro level
      have small : config.rxBreakLevel.toNat < 2 ^ 2 :=
        (and_mask_eq_self_iff (show ctrlRxblvlMask.toNat = 2 ^ 2 - 1 by decide) _).mp level
      rcases refused with none | none | none | bad | bad | high | high
      · exact handle none
      · exact rate none
      · exact clock none
      · exact tx bad
      · exact rx bad
      · exact (nco_fits_iff clock).mp fits high
      · omega
  · rw [if_pos (fun same => fits (ncoMasked_eq_iff.mp same))]
    rfl

/-- The value programmed is zero exactly if the quotient is. -/
theorem programs_iff (clock : config.clkFreqHz ≠ 0) (fits : config.nco.toNat < 2 ^ 16) :
    config.Programs config.ncoMasked ↔
      config.clkFreqHz.toNat <= config.baudrate.toNat * 2 ^ 20 := by
  have masked := ncoMasked_toNat fits
  by_cases special : config.Special
  · refine iff_of_true ⟨?_, by rw [masked]; exact fits, fun ordinary => absurd special ordinary⟩ ?_
    · rw [<- BitVec.toNat_ne_iff_ne, masked, nco_special special]
      decide
    · rw [special.1, special.2]
      decide
  · have value := masked.trans (nco_toNat special clock)
    rw [<- Nat.not_lt, <- quotient_eq_zero_iff clock]
    constructor
    · intro programs none
      exact programs.positive (BitVec.eq_of_toNat_eq (value.trans none))
    · intro some
      refine ⟨fun none => some ?_, by rw [masked]; exact fits, fun _ => ?_⟩
      · rw [<- value, none]
        rfl
      · rw [value]
        exact (approximates_quotient_iff clock _).mpr rfl

end

/-- An accepted configuration programs the value for its baud rate, and one that is not makes no
access to the registers. -/
def ConfiguresBaud (uart : Pointer) (config : Config) (before : Settings) : Prop :=
  forall out after,
    Does settingsDevice seesHardware before (difUartConfigure uart config) out after ->
    (out = .kDifOk -> config.Programs (bitfieldField32Read after.ctrl ctrlNcoField)) ∧
    (out ≠ .kDifOk -> after = before ∧ (difUartConfigure uart config).Within (fun _ => False))

/-- The function does so exactly if a refused configuration is passed, or the baud rate is not
below the clock divided by `2 ^ 20`. -/
theorem configuresBaud_iff (uart : Pointer) (config : Config) (before : Settings) :
    ConfiguresBaud uart config before ↔
      config.Refused uart ∨ config.clkFreqHz.toNat <= config.baudrate.toNat * 2 ^ 20 := by
  by_cases refused : config.Refused uart
  · refine iff_of_true (fun out after does => ?_) (Or.inl refused)
    rw [configure_refused refused] at does ⊢
    rcases does.unique (.ret before _) with ⟨bad, same⟩
    constructor
    · intro ok
      rw [ok] at bad
      cases bad
    · exact fun _ => ⟨same, trivial⟩
  · have object : uart = .object := by
      cases uart with
      | null => exact absurd (Or.inl rfl) refused
      | object => rfl
    subst object
    have inside := refused
    simp only [Config.Refused, not_or, Bool.not_eq_false] at inside
    rcases inside with ⟨handle, rate, clock, tx, rx, high, level⟩
    have fits := (nco_fits_iff clock).mpr high
    have valid : ¬ (Pointer.object = .null ∨ config.baudrate = 0 ∨ config.clkFreqHz = 0 ∨
        !difIsValidToggle config.txEnable ∨ !difIsValidToggle config.rxEnable) := by
      rintro (none | none | none | bad | bad)
      · exact handle none
      · exact rate none
      · exact clock none
      · rw [tx] at bad
        cases bad
      · rw [rx] at bad
        cases bad
    have does := configure_accepted before valid fits
      ((and_mask_eq_self_iff (show ctrlRxblvlMask.toNat = 2 ^ 2 - 1 by decide) _).mpr (by omega))
    rw [or_iff_right refused, <- programs_iff clock fits]
    constructor
    · intro configures
      have programs := (configures _ _ does).1 rfl
      rw [nco_ctrl fits] at programs
      exact programs
    · intro programs out after does'
      rcases does.unique does' with ⟨ok, same⟩
      rw [<- same, nco_ctrl fits]
      exact ⟨fun _ => programs, fun error => absurd ok.symm error⟩

/-- At a clock of 2 MHz one baud is accepted, and `NCO` is programmed with zero. -/
theorem configuresBaud_apart :
    ¬ forall (uart : Pointer) (config : Config) (before : Settings),
      ConfiguresBaud uart config before := by
  intro configures
  let config : Config := ⟨1, 2000000, kDifToggleDisabled, .kDifUartParityEven, kDifToggleEnabled,
    kDifToggleEnabled, 0⟩
  have zero : config.nco = 0 := by decide +kernel
  have fits : config.nco.toNat < 2 ^ 16 := by
    rw [zero]
    decide
  have does : Does settingsDevice seesHardware ⟨0, 0, 0, 0, 0⟩ (difUartConfigure .object config)
      .kDifOk ⟨0, config.ctrl, 0, 0, 0⟩ := configure_accepted _ (by decide) fits (by decide)
  have programs := (configures .object config ⟨0, 0, 0, 0, 0⟩ _ _ does).1 rfl
  rw [nco_ctrl fits] at programs
  apply programs.positive
  apply BitVec.eq_of_toNat_eq
  rw [ncoMasked_toNat fits, zero]
  rfl

end Uart
end SunburstChip
