import SunburstChip.Base.Status
import SunburstChip.Dif.Base
import SunburstChip.Lib.Code

namespace SunburstChip

/-!
# What the test libraries share

The checking macros of `status.h` and `check.h`, as routines.  `TRY` and its
like return an error status to the caller, `CHECK` and its like fail the test,
which aborts it.  An access outside an array is a third way not to go on.
-/

/-- Why a routine of the test libraries ends early. -/
inductive Failure where
  /-- It returns an error status. -/
  | status (code : AbslStatus)
  /-- A check fails the test. -/
  | check
  /-- An array is accessed outside its bounds. -/
  | outOfRange
  deriving DecidableEq

/-- The `dif_result_t` values are status codes. -/
def DifResult.code : DifResult -> AbslStatus
  | .kDifOk => .kOk
  | .kDifError => .kInternal
  | .kDifBadArg => .kInvalidArgument
  | .kDifLocked => .kFailedPrecondition
  | .kDifUnavailable => .kUnavailable
  | .kDifIpFifoFull => .kResourceExhausted
  | .kDifOutOfRange => .kOutOfRange
  | .kDifUnaligned => .kUnimplemented

variable {τ : Type}

/-- `TRY` of the result of a device interface function. -/
def tryDif (result : DifResult) : Code τ Failure Unit :=
  if result = .kDifOk then pure () else .raise (.status result.code)

/-- `TRY_CHECK` -/
def tryCheck (condition : Bool) : Code τ Failure Unit :=
  if condition then pure () else .raise (.status .kInternal)

/-- `CHECK` -/
def check (condition : Bool) : Code τ Failure Unit :=
  if condition then pure () else .raise .check

/-- `CHECK_DIF_OK` -/
def checkDifOk (result : DifResult) : Code τ Failure Unit :=
  if result = .kDifOk then pure () else .raise .check

/-- An index has to be within the bounds of the array it is used for. -/
def inRange (index bound : Nat) : Code τ Failure Unit :=
  if index < bound then pure () else .raise .outOfRange

variable {α : Type}

theorem tryDif_ok_bind (next : Unit -> Code τ Failure α) (state : τ) :
    (tryDif .kDifOk >>= next) state = next () state := rfl

theorem checkDifOk_ok_bind (next : Unit -> Code τ Failure α) (state : τ) :
    (checkDifOk .kDifOk >>= next) state = next () state := rfl

theorem tryCheck_bind {condition : Bool} (holds : condition = true)
    (next : Unit -> Code τ Failure α) (state : τ) :
    (tryCheck condition >>= next) state = next () state := by
  rw [holds]
  rfl

theorem check_bind {condition : Bool} (holds : condition = true)
    (next : Unit -> Code τ Failure α) (state : τ) :
    (check condition >>= next) state = next () state := by
  rw [holds]
  rfl

theorem inRange_bind {index bound : Nat} (inside : index < bound)
    (next : Unit -> Code τ Failure α) (state : τ) :
    (inRange index bound >>= next) state = next () state := by
  unfold inRange
  rw [if_pos inside]
  rfl

/-! ## What the macros keep to -/

section

variable {allowed : Access -> Prop} {inv : τ -> Prop}

theorem confined_tryDif (result : DifResult) :
    (tryDif result : Code τ Failure Unit).Confined allowed inv :=
  Code.confined_ite (fun _ => Code.confined_pure _) (fun _ => Code.confined_raise _)

theorem confined_tryCheck (condition : Bool) :
    (tryCheck condition : Code τ Failure Unit).Confined allowed inv :=
  Code.confined_ite (fun _ => Code.confined_pure _) (fun _ => Code.confined_raise _)

theorem confined_check (condition : Bool) :
    (check condition : Code τ Failure Unit).Confined allowed inv :=
  Code.confined_ite (fun _ => Code.confined_pure _) (fun _ => Code.confined_raise _)

theorem confined_checkDifOk (result : DifResult) :
    (checkDifOk result : Code τ Failure Unit).Confined allowed inv :=
  Code.confined_ite (fun _ => Code.confined_pure _) (fun _ => Code.confined_raise _)

theorem confined_inRange (index bound : Nat) :
    (inRange index bound : Code τ Failure Unit).Confined allowed inv :=
  Code.confined_ite (fun _ => Code.confined_pure _) (fun _ => Code.confined_raise _)

end

end SunburstChip
