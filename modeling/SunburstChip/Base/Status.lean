import Mathlib.Tactic.IntervalCases
import SunburstChip.Base.Bitfield

namespace SunburstChip

/-!
# Statuses

The error categories of `absl_status.h`, which `dif_result_t` and `status_t`
take their values from, and the packed statuses of `status.c`.  A status that
is an error has one of those categories, says in which module it was created,
and has an argument.
-/

/-- `absl_status_t` -/
inductive AbslStatus where
  | kOk
  | kCancelled
  | kUnknown
  | kInvalidArgument
  | kDeadlineExceeded
  | kNotFound
  | kAlreadyExists
  | kPermissionDenied
  | kResourceExhausted
  | kFailedPrecondition
  | kAborted
  | kOutOfRange
  | kUnimplemented
  | kInternal
  | kUnavailable
  | kDataLoss
  | kUnauthenticated
  deriving DecidableEq

/-- A category as a number. -/
def AbslStatus.value (code : AbslStatus) : BitVec 32 := .ofNat 32 code.ctorIdx

/-- The bytes of a string literal. -/
def ascii (literal : String) : List (BitVec 8) :=
  literal.toList.map (fun c => .ofNat 8 c.toNat)

/-! ## Packed statuses -/

/-- `status_t` -/
structure Status where
  value : BitVec 32
  deriving DecidableEq

abbrev statusFieldCode : BitfieldField32 := ⟨0x1f, 0⟩
abbrev statusFieldArg : BitfieldField32 := ⟨0x7ff, 5⟩
abbrev statusFieldModuleId : BitfieldField32 := ⟨0x7fff, 16⟩
abbrev statusBitError : Nat := 31

/-- `ASCII_5BIT` -/
def ascii5Bit (v : BitVec 8) : BitVec 32 :=
  if 0x40 <= v ∧ v <= 0x5f then (v - 0x40).setWidth 32
  else if 0x60 <= v ∧ v <= 0x7a then (v - 0x60).setWidth 32
  else 0x1f

/-- `MAKE_MODULE_ID` -/
def makeModuleId (a b c : BitVec 8) : BitVec 32 :=
  (ascii5Bit a <<< 16) ||| (ascii5Bit b <<< 21) ||| (ascii5Bit c <<< 26)

/-- `basename` -/
def basename (file : List (BitVec 8)) : List (BitVec 8) :=
  (file.reverse.takeWhile (fun c => c ≠ 0x2f ∧ c ≠ 0x5c)).reverse

/-- The name of a source file, whose last component is long enough for three
characters to be taken from it, its end included. -/
structure SourceFile where
  path : List (BitVec 8)
  long : 2 <= (basename path).length
  deriving DecidableEq

/-- The module that a source file stands for. -/
def SourceFile.moduleId (file : SourceFile) : BitVec 32 :=
  makeModuleId ((basename file.path).getD 0 0) ((basename file.path).getD 1 0)
    ((basename file.path).getD 2 0)

/-- The packed bitfield of an error. -/
def packStatus (code moduleId arg : BitVec 32) : Status :=
  ⟨moduleId ||| bitfieldBit32Write 0#32 statusBitError true |||
    bitfieldField32Write 0#32 statusFieldCode code ||| bitfieldField32Write 0#32 statusFieldArg arg⟩

/-- `status_create` -/
def statusCreate (code moduleId : BitVec 32) (file : SourceFile) (arg : BitVec 32) : Status :=
  if code = AbslStatus.kOk.value ∧ !arg.msb then ⟨arg⟩
  else packStatus code (if moduleId = 0 then file.moduleId else moduleId)
    (if code = AbslStatus.kOk.value then 33 else arg)

/-- `status_ok` -/
def statusOk (s : Status) : Bool := !s.value.msb

/-- `status_err` -/
def statusErr (s : Status) : BitVec 32 :=
  if s.value.msb then bitfieldField32Read s.value statusFieldCode else AbslStatus.kOk.value

/-- `status_codes` -/
def statusCodes : List (List (BitVec 8)) :=
  [ascii "Ok", ascii "Cancelled", ascii "Unknown", ascii "InvalidArgument",
    ascii "DeadlineExceeded", ascii "NotFound", ascii "AlreadyExists", ascii "PermissionDenied",
    ascii "ResourceExhausted", ascii "FailedPrecondition", ascii "Aborted", ascii "OutOfRange",
    ascii "Unimplemented", ascii "Internal", ascii "Unavailable", ascii "DataLoss",
    ascii "Unauthenticated",
    ascii "Undefined17", ascii "Undefined18", ascii "Undefined19", ascii "Undefined20",
    ascii "Undefined21", ascii "Undefined22", ascii "Undefined23", ascii "Undefined24",
    ascii "Undefined25", ascii "Undefined26", ascii "Undefined27", ascii "Undefined28",
    ascii "Undefined29", ascii "Undefined30", ascii "Undefined31",
    ascii "ErrorError"]

/-- What `status_extract` finds: the name of the code and the argument, and the
module for an error. -/
structure Extracted where
  code : List (BitVec 8)
  arg : BitVec 32
  modId : Option (List (BitVec 8))
  deriving DecidableEq

/-- The name of a module. -/
def moduleName (moduleId : BitVec 32) : List (BitVec 8) :=
  [0, 5, 10].map (fun shift => 0x40 + ((moduleId >>> shift) &&& 0x1f).setWidth 8)

/-- `status_extract` -/
def statusExtract (s : Status) : Extracted :=
  let err :=
    if s.value.msb ∧ statusErr s = 0 then statusCodes.length - 1 else (statusErr s).toNat
  { code := statusCodes.getD err []
    arg := if err ≠ 0 then bitfieldField32Read s.value statusFieldArg else s.value
    modId :=
      if err ≠ 0 then some (moduleName (bitfieldField32Read s.value statusFieldModuleId))
      else none }

/-! ## Reading back what has been packed -/

/-- The identifier of a module leaves all other bits of a status alone. -/
def Positioned (moduleId : BitVec 32) : Prop := moduleId &&& 0x8000ffff#32 = 0#32

instance (moduleId : BitVec 32) : Decidable (Positioned moduleId) :=
  inferInstanceAs (Decidable (_ = _))

section

variable {moduleId : BitVec 32}

theorem Positioned.bit (positioned : Positioned moduleId) {i : Nat}
    (outside : (0x8000ffff#32).getLsbD i = true) : moduleId.getLsbD i = false := by
  have bits := congrArg (BitVec.getLsbD · i) positioned
  simpa [outside] using bits

theorem Positioned.read (positioned : Positioned moduleId) {field : BitfieldField32}
    (outside : forall i, i < 32 -> field.mask.getLsbD i = true ->
      (0x8000ffff#32).getLsbD (field.index + i) = true) :
    bitfieldField32Read moduleId field = 0#32 := by
  apply BitVec.eq_of_getLsbD_eq
  intro i small
  rw [bitfieldField32Read, BitVec.getLsbD_and, BitVec.getLsbD_ushiftRight]
  cases inside : field.mask.getLsbD i with
  | false => simp
  | true =>
      rw [positioned.bit (outside i small inside)]
      simp

theorem positioned_zero : Positioned 0 := rfl

/-- A character of a module takes five bits. -/
theorem ascii5Bit_lt (v : BitVec 8) : (ascii5Bit v).toNat < 32 := by
  have all : forall v : BitVec 8, (ascii5Bit v).toNat < 32 := by decide
  exact all v

theorem positioned_makeModuleId (a b c : BitVec 8) : Positioned (makeModuleId a b c) := by
  have five (v : BitVec 8) (i : Nat) (beyond : 5 <= i) : (ascii5Bit v).getLsbD i = false := by
    have bound : (ascii5Bit v).toNat < 2 ^ i :=
      Nat.lt_of_lt_of_le (ascii5Bit_lt v) (Nat.pow_le_pow_right Nat.two_pos beyond)
    exact Nat.testBit_lt_two_pow bound
  apply BitVec.eq_of_getLsbD_eq
  intro i inside
  have bits : (makeModuleId a b c).getLsbD i = true -> 16 <= i ∧ i < 31 := by
    intro set
    simp only [makeModuleId, BitVec.getLsbD_or, BitVec.getLsbD_shiftLeft, Bool.or_eq_true,
      Bool.and_eq_true, decide_eq_true_eq, Bool.not_eq_true', decide_eq_false_iff_not] at set
    rcases set with (⟨⟨_, low⟩, bit⟩ | ⟨⟨_, low⟩, bit⟩) | ⟨⟨_, low⟩, bit⟩
    · have high : ¬ 5 <= i - 16 := fun beyond => by rw [five _ _ beyond] at bit; cases bit
      omega
    · have high : ¬ 5 <= i - 21 := fun beyond => by rw [five _ _ beyond] at bit; cases bit
      omega
    · have high : ¬ 5 <= i - 26 := fun beyond => by rw [five _ _ beyond] at bit; cases bit
      omega
  have mask : forall i, i < 32 -> 16 <= i -> i < 31 -> (0x8000ffff#32).getLsbD i = false := by decide
  rw [BitVec.getLsbD_and]
  cases set : (makeModuleId a b c).getLsbD i with
  | false => rw [Bool.false_and, BitVec.getLsbD_zero]
  | true =>
      rw [mask i inside (bits set).1 (bits set).2, BitVec.getLsbD_zero]
      rfl

/-- The parts of a packed status can be read back. -/
structure Packed (code moduleId arg : BitVec 32) (s : Status) : Prop where
  error : s.value.msb = true
  code : bitfieldField32Read s.value statusFieldCode = code &&& 0x1f
  arg : bitfieldField32Read s.value statusFieldArg = arg &&& 0x7ff
  moduleId : bitfieldField32Read s.value statusFieldModuleId =
    bitfieldField32Read moduleId statusFieldModuleId

theorem packStatus_packed (code arg : BitVec 32) (positioned : Positioned moduleId) :
    Packed code moduleId arg (packStatus code moduleId arg) := by
  have codeFits : statusFieldCode.Fits := by decide
  have argFits : statusFieldArg.Fits := by decide
  have bit (field : BitfieldField32) (apart : (bitfieldBit32ToField32 31).Apart field) :
      bitfieldField32Read (bitfieldBit32Write 0#32 statusBitError true) field = 0#32 := by
    rw [bitfieldBit32Write, bitfieldField32Read_write_other apart, bitfieldField32Read_zero]
  have other {written read : BitfieldField32} (apart : written.Apart read) (value : BitVec 32) :
      bitfieldField32Read (bitfieldField32Write 0#32 written value) read = 0#32 := by
    rw [bitfieldField32Read_write_other apart, bitfieldField32Read_zero]
  constructor
  · have sign : (bitfieldBit32Write 0#32 statusBitError true).msb = true := by decide
    unfold packStatus
    rw [BitVec.msb_or, BitVec.msb_or, BitVec.msb_or, sign]
    simp
  · unfold packStatus
    rw [bitfieldField32Read_or, bitfieldField32Read_or, bitfieldField32Read_or,
      bitfieldField32Read_write_same codeFits, bit _ (by decide), other (by decide),
      positioned.read (by decide)]
    simp
  · unfold packStatus
    rw [bitfieldField32Read_or, bitfieldField32Read_or, bitfieldField32Read_or,
      bitfieldField32Read_write_same argFits, bit _ (by decide), other (by decide),
      positioned.read (by decide)]
    simp
  · unfold packStatus
    rw [bitfieldField32Read_or, bitfieldField32Read_or, bitfieldField32Read_or,
      bit _ (by decide), other (by decide), other (by decide)]
    simp

theorem Packed.statusErr {code arg : BitVec 32} {s : Status} (packed : Packed code moduleId arg s) :
    statusErr s = code &&& 0x1f := by
  rw [SunburstChip.statusErr, if_pos packed.error, packed.code]

/-! ## The parts of a status -/

/-- A character of a module is read as the five bits it stands for. -/
theorem ascii5Bit_glyph (word : BitVec 32) :
    ascii5Bit (0x40#8 + (word &&& 0x1f).setWidth 8) = word &&& 0x1f := by
  have all : forall x : BitVec 8, x < 32 -> ascii5Bit (0x40#8 + x) = x.setWidth 32 := by decide
  have small : (word &&& 0x1f).toNat < 32 := by
    rw [BitVec.toNat_and]
    exact Nat.lt_of_le_of_lt Nat.and_le_right (by decide)
  have byte : ((word &&& 0x1f).setWidth 8).toNat = (word &&& 0x1f).toNat := by
    rw [BitVec.toNat_setWidth, Nat.mod_eq_of_lt (by omega)]
  rw [all _ (by rw [BitVec.lt_def, byte]; exact small)]
  apply BitVec.eq_of_toNat_eq
  rw [BitVec.toNat_setWidth, byte, Nat.mod_eq_of_lt (by omega)]

theorem makeModuleId_moduleName (m : BitVec 32) :
    makeModuleId ((moduleName m).getD 0 0) ((moduleName m).getD 1 0) ((moduleName m).getD 2 0) =
      (m &&& 0x7fff) <<< 16 := by
  change makeModuleId (0x40#8 + ((m >>> 0) &&& 0x1f).setWidth 8)
    (0x40#8 + ((m >>> 5) &&& 0x1f).setWidth 8) (0x40#8 + ((m >>> 10) &&& 0x1f).setWidth 8) = _
  unfold makeModuleId
  rw [ascii5Bit_glyph, ascii5Bit_glyph, ascii5Bit_glyph]
  ext i inside
  simp only [BitVec.getElem_or, BitVec.getElem_shiftLeft, BitVec.getElem_and]
  interval_cases i <;> simp

/-- The module of a status in the place where it goes. -/
theorem read_moduleId (m : BitVec 32) :
    bitfieldField32Read ((m &&& 0x7fff) <<< 16) statusFieldModuleId = m &&& 0x7fff := by
  unfold bitfieldField32Read
  ext i inside
  simp only [BitVec.getElem_and, BitVec.getElem_ushiftRight, BitVec.getLsbD_shiftLeft]
  interval_cases i <;> simp

theorem ascii5Bit_mask (ch : BitVec 8) : ascii5Bit ch &&& 0x1f = ascii5Bit ch := by
  have all : forall ch, ascii5Bit ch &&& 0x1f = ascii5Bit ch := by decide
  exact all ch

/-- What a character of a module becomes. -/
def glyph (ch : BitVec 8) : BitVec 8 := 0x40#8 + (ascii5Bit ch).setWidth 8

theorem moduleName_makeModuleId (a b c : BitVec 8) :
    moduleName (bitfieldField32Read (makeModuleId a b c) statusFieldModuleId) =
      [glyph a, glyph b, glyph c] := by
  have bits : forall i, i < 32 ->
      ((bitfieldField32Read (makeModuleId a b c) statusFieldModuleId >>> 0) &&& 0x1f).getLsbD i =
        (ascii5Bit a).getLsbD i ∧
      ((bitfieldField32Read (makeModuleId a b c) statusFieldModuleId >>> 5) &&& 0x1f).getLsbD i =
        (ascii5Bit b).getLsbD i ∧
      ((bitfieldField32Read (makeModuleId a b c) statusFieldModuleId >>> 10) &&& 0x1f).getLsbD i =
        (ascii5Bit c).getLsbD i := by
    rw [makeModuleId, <- ascii5Bit_mask a, <- ascii5Bit_mask b, <- ascii5Bit_mask c,
      bitfieldField32Read]
    intro i inside
    interval_cases i <;> simp
  have first := BitVec.eq_of_getLsbD_eq (fun i inside => (bits i inside).1)
  have second := BitVec.eq_of_getLsbD_eq (fun i inside => (bits i inside).2.1)
  have third := BitVec.eq_of_getLsbD_eq (fun i inside => (bits i inside).2.2)
  change [0x40#8 + BitVec.setWidth 8 _, 0x40#8 + BitVec.setWidth 8 _, 0x40#8 + BitVec.setWidth 8 _] = _
  rw [first, second, third]
  rfl

/-- A status consists of its parts. -/
theorem Status.eq_of_fields {s s' : Status} (error : s.value.msb = s'.value.msb)
    (code : bitfieldField32Read s.value statusFieldCode =
      bitfieldField32Read s'.value statusFieldCode)
    (arg : bitfieldField32Read s.value statusFieldArg = bitfieldField32Read s'.value statusFieldArg)
    (moduleId : bitfieldField32Read s.value statusFieldModuleId =
      bitfieldField32Read s'.value statusFieldModuleId) : s = s' := by
  rcases s with ⟨s⟩
  rcases s' with ⟨s'⟩
  apply congrArg
  ext i inside
  have codeBit := congrArg (BitVec.getLsbD · i) code
  have argBit := congrArg (BitVec.getLsbD · (i - 5)) arg
  have moduleBit := congrArg (BitVec.getLsbD · (i - 16)) moduleId
  simp only [bitfieldField32Read, BitVec.getLsbD_and, BitVec.getLsbD_ushiftRight]
    at codeBit argBit moduleBit
  simp only [BitVec.msb_eq_getLsbD_last] at error
  rw [<- BitVec.getLsbD_eq_getElem, <- BitVec.getLsbD_eq_getElem]
  interval_cases i <;>
    first | simpa using codeBit | simpa using argBit | simpa using moduleBit | simpa using error

/-! ## Errors -/

/-- An error that has a code. -/
structure Error where
  status : Status
  coded : statusErr status ≠ AbslStatus.kOk.value
  deriving DecidableEq

theorem AbslStatus.masked (code : AbslStatus) : code.value &&& 0x1f = code.value := by
  cases code <;> rfl

theorem AbslStatus.value_ne (code : AbslStatus) (isError : code ≠ .kOk) :
    code.value ≠ AbslStatus.kOk.value := by
  cases code <;> first | exact absurd rfl isError | decide

theorem AbslStatus.kInvalidArgument_ne : AbslStatus.kInvalidArgument ≠ .kOk := by decide

theorem AbslStatus.kOutOfRange_ne : AbslStatus.kOutOfRange ≠ .kOk := by decide

theorem statusCreate_packed {code arg : BitVec 32} (isError : code ≠ AbslStatus.kOk.value)
    (positioned : Positioned moduleId) (file : SourceFile) :
    Packed code (if moduleId = 0 then file.moduleId else moduleId) arg
      (statusCreate code moduleId file arg) := by
  have created : statusCreate code moduleId file arg =
      packStatus code (if moduleId = 0 then file.moduleId else moduleId) arg := by
    unfold statusCreate
    rw [if_neg (fun ok => isError ok.1), if_neg isError]
  rw [created]
  apply packStatus_packed
  split
  · exact positioned_makeModuleId _ _ _
  · exact positioned

/-- `STATUS_CREATE` of an error, in a module and at a line. -/
def createError (code : AbslStatus) (moduleId : BitVec 32) (file : SourceFile) (line : Nat)
    (isError : code ≠ .kOk) (positioned : Positioned moduleId) : Error where
  status := statusCreate code.value moduleId file (.ofNat 32 line)
  coded := by
    have packed : Packed code.value _ (.ofNat 32 line) _ :=
      statusCreate_packed (code.value_ne isError) positioned file
    rw [packed.statusErr, code.masked]
    exact code.value_ne isError

end

end SunburstChip
