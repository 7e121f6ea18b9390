import SunburstChip.Dif.Usbdev

namespace SunburstChip
namespace Usbdev

open Mmio

/-!
# The status of the USB device

One register has it all: the number of the frame, the state of the link, and how
full the FIFOs are.  Each of the functions below reads the register anew and
returns one or two of its fields.
-/

abbrev usbstatFrameField : BitfieldField32 := ⟨0x7ff, 0⟩
abbrev usbstatHostLostBit : Nat := 11
abbrev usbstatLinkStateField : BitfieldField32 := ⟨0x7, 12⟩
abbrev usbstatSenseBit : Nat := 15

/-- `dif_usbdev_link_state_t` -/
inductive DifUsbdevLinkState where
  | disconnected
  | powered
  | poweredSuspended
  | active
  | suspended
  | activeNoSof
  | resuming
  deriving DecidableEq

/-! ## The driver -/

/-- `dif_usbdev_status_get_frame` -/
def difUsbdevStatusGetFrame (usbdev frameIndex : Pointer) :
    Mmio (DifResult × Option (BitVec 16)) := do
  if usbdev = .null ∨ frameIndex = .null then
    return (.kDifBadArg, none)
  let regVal <- mmioRegionRead32 usbstatRegOffset
  -- The field is cast to a byte on its way to the caller's half-word.
  return (.kDifOk, some (((bitfieldField32Read regVal usbstatFrameField).setWidth 8).setWidth 16))

/-- The getters of one bit. -/
def statusGetBit (usbdev out : Pointer) (bitIndex : Nat) : Mmio (DifResult × Option Bool) := do
  if usbdev = .null ∨ out = .null then
    return (.kDifBadArg, none)
  let value <- mmioRegionGetBit32 usbstatRegOffset bitIndex
  return (.kDifOk, some value)

/-- `dif_usbdev_status_get_host_lost` -/
def difUsbdevStatusGetHostLost (usbdev hostLost : Pointer) : Mmio (DifResult × Option Bool) :=
  statusGetBit usbdev hostLost usbstatHostLostBit

/-- The switch in `dif_usbdev_status_get_link_state`. -/
def linkStateOf (val : BitVec 32) : DifResult × Option DifUsbdevLinkState :=
  match val with
  | 0x0 => (.kDifOk, some .disconnected)
  | 0x1 => (.kDifOk, some .powered)
  | 0x2 => (.kDifOk, some .poweredSuspended)
  | 0x3 => (.kDifOk, some .active)
  | 0x4 => (.kDifOk, some .suspended)
  | 0x5 => (.kDifOk, some .activeNoSof)
  | 0x6 => (.kDifOk, some .resuming)
  | _ => (.kDifError, none)

/-- `dif_usbdev_status_get_link_state` -/
def difUsbdevStatusGetLinkState (usbdev linkState : Pointer) :
    Mmio (DifResult × Option DifUsbdevLinkState) := do
  if usbdev = .null ∨ linkState = .null then
    return (.kDifBadArg, none)
  let val <- mmioRegionRead32 usbstatRegOffset
  return linkStateOf (bitfieldField32Read val usbstatLinkStateField)

/-- `dif_usbdev_status_get_sense` -/
def difUsbdevStatusGetSense (usbdev sense : Pointer) : Mmio (DifResult × Option Bool) :=
  statusGetBit usbdev sense usbstatSenseBit

/-- `dif_usbdev_status_get_available_fifo_depths`, with the depth for SETUP packets first. -/
def difUsbdevStatusGetAvailableFifoDepths (usbdev setupDepth outDepth : Pointer) :
    Mmio (DifResult × Option (BitVec 8 × BitVec 8)) := do
  if usbdev = .null ∨ setupDepth = .null ∨ outDepth = .null then
    return (.kDifBadArg, none)
  let regVal <- mmioRegionRead32 usbstatRegOffset
  return (.kDifOk, some ((bitfieldField32Read regVal usbstatAvSetupDepthField).setWidth 8,
    (bitfieldField32Read regVal usbstatAvOutDepthField).setWidth 8))

/-- `dif_usbdev_status_get_available_fifo_full`, with the FIFO for SETUP packets first. -/
def difUsbdevStatusGetAvailableFifoFull (usbdev setupIsFull outIsFull : Pointer) :
    Mmio (DifResult × Option (Bool × Bool)) := do
  if usbdev = .null ∨ setupIsFull = .null ∨ outIsFull = .null then
    return (.kDifBadArg, none)
  let regVal <- mmioRegionRead32 usbstatRegOffset
  return (.kDifOk, some (bitfieldBit32Read regVal usbstatAvSetupFullBit,
    bitfieldBit32Read regVal usbstatAvOutFullBit))

/-- `dif_usbdev_status_get_rx_fifo_depth` -/
def difUsbdevStatusGetRxFifoDepth (usbdev depth : Pointer) :
    Mmio (DifResult × Option (BitVec 8)) := do
  if usbdev = .null ∨ depth = .null then
    return (.kDifBadArg, none)
  let regVal <- mmioRegionRead32 usbstatRegOffset
  return (.kDifOk, some ((bitfieldField32Read regVal usbstatRxDepthField).setWidth 8))

/-! ## The fields and the report -/

/-- The fields of the register. -/
structure StatusFields where
  frame : Nat
  hostLost : Bool
  linkState : Nat
  sense : Bool
  avOutDepth : Nat
  avSetupDepth : Nat
  avOutFull : Bool
  rxDepth : Nat
  avSetupFull : Bool
  rxEmpty : Bool
  deriving DecidableEq

/-- Where they are in it. -/
def statusFields (status : BitVec 32) : StatusFields where
  frame := (status.extractLsb' 0 11).toNat
  hostLost := status.getLsbD 11
  linkState := (status.extractLsb' 12 3).toNat
  sense := status.getLsbD 15
  avOutDepth := (status.extractLsb' 16 4).toNat
  avSetupDepth := (status.extractLsb' 20 3).toNat
  avOutFull := status.getLsbD 23
  rxDepth := (status.extractLsb' 24 4).toNat
  avSetupFull := status.getLsbD 30
  rxEmpty := status.getLsbD 31

/-- What all the functions return. -/
structure StatusReport where
  frame : DifResult × Option (BitVec 16)
  hostLost : DifResult × Option Bool
  linkState : DifResult × Option DifUsbdevLinkState
  sense : DifResult × Option Bool
  availableDepths : DifResult × Option (BitVec 8 × BitVec 8)
  availableFull : DifResult × Option (Bool × Bool)
  rxDepth : DifResult × Option (BitVec 8)
  rxEmpty : DifResult × Bool
  deriving DecidableEq

/-- The functions one after the other. -/
def statusReport : Mmio StatusReport := do
  let frame <- difUsbdevStatusGetFrame .object .object
  let hostLost <- difUsbdevStatusGetHostLost .object .object
  let linkState <- difUsbdevStatusGetLinkState .object .object
  let sense <- difUsbdevStatusGetSense .object .object
  let availableDepths <- difUsbdevStatusGetAvailableFifoDepths .object .object .object
  let availableFull <- difUsbdevStatusGetAvailableFifoFull .object .object .object
  let rxDepth <- difUsbdevStatusGetRxFifoDepth .object .object
  let rxEmpty <- difUsbdevStatusGetRxFifoEmpty .object .object
  return ⟨frame, hostLost, linkState, sense, availableDepths, availableFull, rxDepth, rxEmpty⟩

/-- The register alone, with a value that stays. -/
def statusDevice : Device (BitVec 32) where
  read32 offset status := (if offset = usbstatRegOffset then status else 0, status)
  write32 _ _ status := status
  write8 _ _ status := status

/-- The value of the field for each state of the link. -/
def DifUsbdevLinkState.value : DifUsbdevLinkState -> Nat
  | .disconnected => 0
  | .powered => 1
  | .poweredSuspended => 2
  | .active => 3
  | .suspended => 4
  | .activeNoSof => 5
  | .resuming => 6

/-- A function has stored a value, and told it. -/
def Told {ν μ : Type} (out : DifResult × Option ν) (means : ν -> μ) (value : μ) : Prop :=
  Exists fun stored => out = (.kDifOk, some stored) ∧ means stored = value

theorem Told.unique {ν μ : Type} {out : DifResult × Option ν} {means : ν -> μ} {value value' : μ}
    (told : Told out means value) (told' : Told out means value') : value = value' := by
  rcases told with ⟨stored, rfl, rfl⟩
  rcases told' with ⟨_, same, rfl⟩
  cases same
  rfl

/-- The report has the values of the fields.  A link state without a name is reported
as an error. -/
structure StatusReport.Tells (report : StatusReport) (fields : StatusFields) : Prop where
  frame : Told report.frame BitVec.toNat fields.frame
  hostLost : Told report.hostLost id fields.hostLost
  linkState : Told report.linkState DifUsbdevLinkState.value fields.linkState ∨
    (report.linkState = (.kDifError, none) ∧ fields.linkState = 7)
  sense : Told report.sense id fields.sense
  availableDepths : Told report.availableDepths (fun depths => (depths.1.toNat, depths.2.toNat))
    (fields.avSetupDepth, fields.avOutDepth)
  availableFull : Told report.availableFull id (fields.avSetupFull, fields.avOutFull)
  rxDepth : Told report.rxDepth BitVec.toNat fields.rxDepth
  rxEmpty : report.rxEmpty = (.kDifOk, fields.rxEmpty)

/-! ## What is told -/

section

variable {report : StatusReport} {fields fields' : StatusFields}

/-- A report tells of one value of the fields only. -/
theorem StatusReport.Tells.unique (tells : report.Tells fields) (tells' : report.Tells fields') :
    fields = fields' := by
  have linkState : fields.linkState = fields'.linkState := by
    rcases tells.linkState with told | ⟨error, seven⟩
    · rcases tells'.linkState with told' | ⟨error, -⟩
      · exact told.unique told'
      · rcases told with ⟨_, stored, -⟩
        cases stored.symm.trans error
    · rcases tells'.linkState with ⟨_, stored, -⟩ | ⟨-, seven'⟩
      · cases stored.symm.trans error
      · exact seven.trans seven'.symm
  have depths := tells.availableDepths.unique tells'.availableDepths
  have full := tells.availableFull.unique tells'.availableFull
  have rxEmpty := tells.rxEmpty.symm.trans tells'.rxEmpty
  rcases fields with ⟨_, _, _, _, _, _, _, _, _, _⟩
  rcases fields' with ⟨_, _, _, _, _, _, _, _, _, _⟩
  cases tells.frame.unique tells'.frame
  cases tells.hostLost.unique tells'.hostLost
  cases linkState
  cases tells.sense.unique tells'.sense
  cases depths
  cases full
  cases tells.rxDepth.unique tells'.rxDepth
  cases rxEmpty
  rfl

/-- A field of the register, by its lowest bit and its width. -/
theorem field_toNat {mask : BitVec 32} {index width : Nat} (run : mask.toNat = 2 ^ width - 1)
    (status : BitVec 32) : (bitfieldField32Read status ⟨mask, index⟩).toNat =
      (status.extractLsb' index width).toNat := by
  unfold bitfieldField32Read
  rw [BitVec.extractLsb'_toNat, BitVec.toNat_and, run, Nat.and_two_pow_sub_one_eq_mod]
  rfl

/-- A field that fits a byte. -/
theorem field_byte {mask : BitVec 32} {index width : Nat} (run : mask.toNat = 2 ^ width - 1)
    (narrow : width <= 8) (status : BitVec 32) :
    ((bitfieldField32Read status ⟨mask, index⟩).setWidth 8).toNat =
      (status.extractLsb' index width).toNat := by
  rw [BitVec.toNat_setWidth, field_toNat run]
  exact Nat.mod_eq_of_lt (Nat.lt_of_lt_of_le (BitVec.isLt _)
    (Nat.pow_le_pow_right (by decide) narrow))

/-- The frame as it is stored has lost its highest bits. -/
theorem frame_told {value : Nat} (status : BitVec 32) :
    Told (DifResult.kDifOk, some (((bitfieldField32Read status usbstatFrameField).setWidth 8).setWidth
      16)) BitVec.toNat value ↔ (statusFields status).frame % 2 ^ 8 = value := by
  have stored : (((bitfieldField32Read status usbstatFrameField).setWidth 8).setWidth 16).toNat =
      (statusFields status).frame % 2 ^ 8 := by
    have run : (0x7ff : BitVec 32).toNat = 2 ^ 11 - 1 := by decide
    rw [BitVec.toNat_setWidth, BitVec.toNat_setWidth, field_toNat run]
    exact Nat.mod_eq_of_lt (Nat.lt_trans (Nat.mod_lt _ (by decide)) (by decide))
  rw [<- stored]
  constructor
  · rintro ⟨_, same, rfl⟩
    cases same
    rfl
  · exact fun same => ⟨_, rfl, same⟩

/-- Each state of the link that has a name is told, and the one that has none is an error. -/
theorem linkState_told {val : BitVec 32} (small : val.toNat < 2 ^ 3) :
    Told (linkStateOf val) DifUsbdevLinkState.value val.toNat ∨
      (linkStateOf val = (.kDifError, none) ∧ val.toNat = 7) := by
  have each : forall n : Fin 8,
      (Exists fun state => linkStateOf (BitVec.ofNat 32 n) = (.kDifOk, some state) ∧
        state.value = n) ∨ (linkStateOf (BitVec.ofNat 32 n) = (.kDifError, none) ∧ n.val = 7)
    | 0 | 1 | 2 | 3 | 4 | 5 | 6 => .inl ⟨_, rfl, rfl⟩
    | 7 => .inr ⟨rfl, rfl⟩
  have word : BitVec.ofNat 32 val.toNat = val := by
    rw [BitVec.ofNat_toNat, BitVec.setWidth_eq]
  have told := each ⟨val.toNat, small⟩
  rw [word] at told
  exact told

end

/-! ## Without loss -/

/-- The functions return, and what they report for a value of the register has the values of its
fields. -/
def ReportsStatus (status : BitVec 32) : Prop :=
  Exists fun report => statusReport.run statusDevice status = some (report, status) ∧
    report.Tells (statusFields status)

/-- Two values of the register that differ in a field are reported differently. -/
def ReportsApart (status status' : BitVec 32) : Prop :=
  forall report report', statusReport.run statusDevice status = some (report, status) ->
    statusReport.run statusDevice status' = some (report', status') ->
    statusFields status ≠ statusFields status' -> report ≠ report'

section

variable {status : BitVec 32}

/-- All but the frame is told for every value. -/
theorem statusReport_run (status : BitVec 32) :
    Exists fun report => statusReport.run statusDevice status = some (report, status) ∧
      (report.Tells (statusFields status) ↔ (statusFields status).frame < 2 ^ 8) := by
  refine ⟨_, rfl, ?_⟩
  have bit (bitIndex : Nat) : bitfieldBit32Read status bitIndex = status.getLsbD bitIndex :=
    bitfieldBit32Read_eq_getLsbD status bitIndex
  rw [<- Nat.mod_eq_iff_lt (by decide)]
  constructor
  · intro tells
    exact (frame_told status).mp tells.frame
  · intro small
    have setupDepth : (0x7 : BitVec 32).toNat = 2 ^ 3 - 1 := by decide
    have outDepth : (0xf : BitVec 32).toNat = 2 ^ 4 - 1 := by decide
    have linkState : (bitfieldField32Read status usbstatLinkStateField).toNat =
        (statusFields status).linkState := field_toNat setupDepth status
    have state := linkState_told (linkState.trans_lt (BitVec.isLt _))
    rw [linkState] at state
    constructor
    · exact (frame_told status).mpr small
    · exact ⟨_, rfl, bit _⟩
    · exact state
    · exact ⟨_, rfl, bit _⟩
    · exact ⟨_, rfl, Prod.ext (field_byte setupDepth (by decide) status)
        (field_byte outDepth (by decide) status)⟩
    · exact ⟨_, rfl, Prod.ext (bit _) (bit _)⟩
    · exact ⟨_, rfl, field_byte outDepth (by decide) status⟩
    · exact congrArg (Prod.mk DifResult.kDifOk) (bit _)

theorem reportsStatus_iff_frame : ReportsStatus status ↔ (statusFields status).frame < 2 ^ 8 := by
  rcases statusReport_run status with ⟨report, ran, tells⟩
  rw [<- tells]
  constructor
  · rintro ⟨report', ran', tells'⟩
    cases ran.symm.trans ran'
    exact tells'
  · exact fun told => ⟨report, ran, told⟩

end

/-- The status is reported as it is, so that two values are never confused, exactly for the
values whose frame fits a byte. -/
theorem reportsStatus_iff (status status' : BitVec 32) :
    (ReportsStatus status ∧ ReportsStatus status' ∧ ReportsApart status status') ↔
      (statusFields status).frame < 2 ^ 8 ∧ (statusFields status').frame < 2 ^ 8 := by
  rw [<- reportsStatus_iff_frame, <- reportsStatus_iff_frame]
  constructor
  · exact fun reports => ⟨reports.1, reports.2.1⟩
  · rintro ⟨reports, reports'⟩
    refine ⟨reports, reports', ?_⟩
    rcases reports with ⟨told, ran, tells⟩
    rcases reports' with ⟨told', ran', tells'⟩
    rintro report report' same same' differ rfl
    cases ran.symm.trans same
    cases ran'.symm.trans same'
    exact differ (tells.unique tells')

/-- Frame 256 is reported as frame 0. -/
theorem reportsApart_apart : ¬ ReportsStatus 256 ∧ ¬ ReportsApart 0 256 := by
  have frames (status : BitVec 32) (lost : (statusFields status).frame = 256) :
      ¬ ReportsStatus status := by
    rw [reportsStatus_iff_frame, lost]
    decide
  refine ⟨frames 256 rfl, fun apart => ?_⟩
  exact apart _ _ rfl rfl (by decide) rfl

end Usbdev
end SunburstChip
