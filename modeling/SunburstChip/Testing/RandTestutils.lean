import SunburstChip.Dif.Base
import SunburstChip.Lib.Generator
import SunburstChip.Lib.Routine
import SunburstChip.Testing.Base

namespace SunburstChip
namespace RandTestutils

open Routine Generator

/-!
# Random numbers of tests

The generator of `rand_testutils.c`: a shift register that is reseeded now and
then from the entropy source, which for now is the xorshift behind
`dif_rv_core_ibex_read_rnd_data`.  Neither of them loses a state, so the register
never gets stuck at zero.  A number within bounds is the remainder of a random
number, and there is none to be had for the bounds that leave nothing out.
-/

/-! ## The entropy source -/

/-- What `dif_rv_core_ibex_read_rnd_data` makes of `prngState`. -/
def xorshift (prngState : BitVec 32) : BitVec 32 :=
  let prngState := prngState ^^^ (prngState <<< 13)
  let prngState := prngState ^^^ (prngState >>> 17)
  prngState ^^^ (prngState <<< 5)

/-- `rand_testutils_rng_t`, with the handle that `rand_testutils_init` has checked. -/
structure RandTestutilsRng where
  rvCoreIbex : Pointer
  entropyFetchTimeoutUsec : BitVec 32
  lfsr : BitVec 32
  polynomialCoefficients : BitVec 32
  reseedFrequency : BitVec 32
  opCounter : BitVec 32
  handle : rvCoreIbex ≠ .null
deriving DecidableEq

/-- What the generator works on: `rand_testutils_rng_ctx`, and what its entropy comes from. -/
structure Source (γ : Type) where
  rng : RandTestutilsRng
  entropy : γ

/-- Why a function of the generator does not return. -/
inductive RandFailure where
  /-- A `CHECK` fails the test. -/
  | check
  /-- A number is divided by zero. -/
  | divideByZero
deriving DecidableEq

/-- The entropy is `prngState`. -/
abbrev World := Source (BitVec 32)

/-- `kDifRvCoreIbexRndStatusValid` -/
def kDifRvCoreIbexRndStatusValid : BitVec 32 := 0x1

/-- `dif_rv_core_ibex_get_rnd_status`, with the word it stores. -/
def difRvCoreIbexGetRndStatus (rvCoreIbex status : Pointer) : DifResult × Option (BitVec 32) :=
  if rvCoreIbex = .null ∨ status = .null then (.kDifBadArg, none)
  else (.kDifOk, some kDifRvCoreIbexRndStatusValid)

/-- `rv_core_ibex_testutils_is_rnd_data_valid` -/
def isRndDataValid (rvCoreIbex : Pointer) : Bool :=
  match difRvCoreIbexGetRndStatus rvCoreIbex .object with
  | (.kDifOk, some rndStatus) => rndStatus &&& kDifRvCoreIbexRndStatusValid != 0
  | _ => false

/-- `dif_rv_core_ibex_read_rnd_data`, with the word it stores. -/
def difRvCoreIbexReadRndData (rvCoreIbex data : Pointer) :
    Routine World AbslStatus (DifResult × Option (BitVec 32)) := do
  if rvCoreIbex = .null ∨ data = .null then
    return (.kDifBadArg, none)
  else
    let world <- get
    let prngState := xorshift world.entropy
    set { world with entropy := prngState }
    return (.kDifOk, some prngState)

/-- `TRY_CHECK` -/
def tryCheck (condition : Bool) : Routine World AbslStatus Unit :=
  if condition then pure () else raise .kInternal

/-- `rv_core_ibex_testutils_get_rnd_data`, which stores into the register of the generator. -/
def getRndData (rvCoreIbex : Pointer) : Routine World AbslStatus Unit := do
  -- The answer of the status register does not change: the spin ends at once, or with the timeout.
  if isRndDataValid rvCoreIbex then
    let (result, rndData) <- difRvCoreIbexReadRndData rvCoreIbex .object
    match rndData with
    | none => raise result.code
    | some rndData => do
      let world <- get
      set { world with rng := { world.rng with lfsr := rndData } }
      tryCheck (rndData != 0)
      tryCheck (rndData != 0xffffffff)
  else
    raise .kDeadlineExceeded

/-- `CHECK_STATUS_OK` -/
def checkStatusOk {σ α : Type} (m : Routine σ AbslStatus α) : Routine σ RandFailure α := fun s =>
  match m s with
  | (.ok value, s') => (.ok value, s')
  | (.error _, s') => (.error .check, s')

/-! ## The generator -/

/-- `device_type_t` -/
inductive DeviceType where
  | kDeviceSimDV
  | kDeviceSimVerilator
  | kDeviceFpgaCw310
  | kDeviceFpgaCw305
  | kDeviceFpgaCw340
  | kDeviceSilicon
deriving DecidableEq

/-- `kLfsrPolynomialCoefficients` -/
def kLfsrPolynomialCoefficients : BitVec 32 := 0x80000057

/-- `kEntropyFetchTimeoutMicros` -/
def kEntropyFetchTimeoutMicros : BitVec 32 := 100000

/-- `rand_testutils_init` -/
def randTestutilsInit (kDeviceType : DeviceType) (rvCoreIbex : Pointer) :
    Except RandFailure RandTestutilsRng :=
  if valid : rvCoreIbex ≠ .null then
    .ok {
      rvCoreIbex := rvCoreIbex
      entropyFetchTimeoutUsec := kEntropyFetchTimeoutMicros
      lfsr := 0xdeadbeef
      polynomialCoefficients := kLfsrPolynomialCoefficients
      reseedFrequency :=
        if kDeviceType ≠ .kDeviceSimDV ∧ kDeviceType ≠ .kDeviceSimVerilator then 0 else 256
      opCounter := 0xffffffff
      handle := valid }
  else .error .check

/-- `reseed_lfsr` -/
def reseedLfsr : Routine World RandFailure Unit := do
  let world <- get
  checkStatusOk (getRndData world.rng.rvCoreIbex)
  let world <- get
  set { world with rng := { world.rng with opCounter := 0 } }

/-- `advance_lfsr` -/
def advanceLfsr : Routine World RandFailure Unit := do
  let world <- get
  let lsb := world.rng.lfsr.getLsbD 0
  let lfsr := world.rng.lfsr >>> 1
  let lfsr := if lsb then lfsr ^^^ world.rng.polynomialCoefficients else lfsr
  set { world with rng := { world.rng with lfsr := lfsr, opCounter := world.rng.opCounter + 1 } }

/-- `rand_testutils_reseed` -/
def randTestutilsReseed : Routine World RandFailure Unit := do
  let world <- get
  set { world with rng := { world.rng with opCounter := 0xffffffff } }

/-- `rand_testutils_gen32` -/
def gen32 : Routine World RandFailure (BitVec 32) := do
  let world <- get
  if world.rng.opCounter >= world.rng.reseedFrequency then
    reseedLfsr
  else
    advanceLfsr
  let world <- get
  return world.rng.lfsr

section

variable {γ : Type}

/-- `rand_testutils_gen32_range`, with the generator it draws from. -/
def gen32RangeWith (gen32 : Routine (Source γ) RandFailure (BitVec 32)) (min max : BitVec 32) :
    Routine (Source γ) RandFailure (BitVec 32) := do
  if ¬ max >= min then
    raise .check
  let range := max - min
  if range = 0 then
    return min
  let output <- gen32
  if range + 1 = 0 then
    raise .divideByZero
  let result := min + output % (range + 1)
  if ¬ (result >= min ∧ result <= max) then
    raise .check
  return result

end

/-- `rand_testutils_gen32_range` -/
def gen32Range (min max : BitVec 32) : Routine World RandFailure (BitVec 32) :=
  gen32RangeWith gen32 min max

/-! ## Steps that lose nothing -/

theorem xorshift_injective : Function.Injective xorshift :=
  (addShl_injective (by decide)).comp
    ((addShr_injective (by decide)).comp (addShl_injective (by decide)))

theorem xorshift_zero : xorshift 0 = 0 := by decide

theorem galois_lfsr_injective : Function.Injective (galois kLfsrPolynomialCoefficients) :=
  galois_injective (by decide)

/-! ## What the generator does -/

/-- The register is to be reseeded. -/
def Due (world : World) : Prop := world.rng.opCounter >= world.rng.reseedFrequency

instance (world : World) : Decidable (Due world) := inferInstanceAs (Decidable (_ <= _))

/-- The register is to be reseeded with one of the two words that are not taken for random. -/
def Refuses (world : World) : Prop :=
  Due world ∧ (xorshift world.entropy = 0 ∨ xorshift world.entropy = 0xffffffff)

instance (world : World) : Decidable (Refuses world) := inferInstanceAs (Decidable (_ ∧ _))

/-- After a word from the entropy source. -/
def World.drawn (world : World) : World where
  rng := { world.rng with lfsr := xorshift world.entropy }
  entropy := xorshift world.entropy

/-- After a reseed. -/
def World.reseeded (world : World) : World :=
  { world.drawn with rng := { world.drawn.rng with opCounter := 0 } }

/-- After a step of the register. -/
def World.advanced (world : World) : World where
  rng := { world.rng with
    lfsr := galois world.rng.polynomialCoefficients world.rng.lfsr
    opCounter := world.rng.opCounter + 1 }
  entropy := world.entropy

theorem isRndDataValid_handle {rvCoreIbex : Pointer} (handle : rvCoreIbex ≠ .null) :
    isRndDataValid rvCoreIbex = true := by
  cases rvCoreIbex with
  | null => exact absurd rfl handle
  | object => decide

theorem getRndData_apply (world : World) :
    getRndData world.rng.rvCoreIbex world =
      (if xorshift world.entropy = 0 ∨ xorshift world.entropy = 0xffffffff then
        .error .kInternal else .ok (), world.drawn) := by
  have valid := isRndDataValid_handle world.rng.handle
  have given : ¬ (world.rng.rvCoreIbex = .null ∨ Pointer.object = .null) :=
    fun null => null.elim world.rng.handle Pointer.noConfusion
  unfold getRndData difRvCoreIbexReadRndData
  rw [if_pos valid, if_neg given]
  change (tryCheck (xorshift world.entropy != 0) >>= fun _ =>
    tryCheck (xorshift world.entropy != 0xffffffff)) world.drawn = _
  by_cases zero : xorshift world.entropy = 0
  · rw [if_pos (Or.inl zero), zero]
    rfl
  · have other : (xorshift world.entropy != 0) = true := bne_iff_ne.mpr zero
    rw [other]
    change tryCheck (xorshift world.entropy != 0xffffffff) world.drawn = _
    by_cases most : xorshift world.entropy = 0xffffffff
    · rw [if_pos (Or.inr most), most]
      rfl
    · have fewer : (xorshift world.entropy != 0xffffffff) = true := bne_iff_ne.mpr most
      rw [if_neg (not_or_intro zero most), fewer]
      rfl

theorem checkStatusOk_getRndData (world : World) :
    checkStatusOk (getRndData world.rng.rvCoreIbex) world =
      (if xorshift world.entropy = 0 ∨ xorshift world.entropy = 0xffffffff then
        .error .check else .ok (), world.drawn) := by
  have read := getRndData_apply world
  unfold checkStatusOk
  rw [read]
  by_cases refused : xorshift world.entropy = 0 ∨ xorshift world.entropy = 0xffffffff
  · rw [if_pos refused, if_pos refused]
  · rw [if_neg refused, if_neg refused]

/-- The generator stops the test if it refuses its entropy, and gives what is in the register
otherwise. -/
theorem gen32_apply (world : World) :
    gen32 world =
      if Refuses world then (.error .check, world.drawn)
      else if Due world then (.ok world.reseeded.rng.lfsr, world.reseeded)
      else (.ok world.advanced.rng.lfsr, world.advanced) := by
  unfold gen32
  rw [get_bind_apply]
  by_cases due : Due world
  · have read := checkStatusOk_getRndData world
    have again : world.rng.opCounter >= world.rng.reseedFrequency := due
    rw [if_pos due, if_pos again]
    by_cases refused : xorshift world.entropy = 0 ∨ xorshift world.entropy = 0xffffffff
    · have stopped : reseedLfsr world = (.error .check, world.drawn) := by
        rw [if_pos refused] at read
        unfold reseedLfsr
        rw [get_bind_apply, bind_error read]
      rw [if_pos ⟨due, refused⟩, bind_error stopped]
    · have done : reseedLfsr world = (.ok (), world.reseeded) := by
        rw [if_neg refused] at read
        unfold reseedLfsr
        rw [get_bind_apply, bind_ok read]
        rfl
      rw [if_neg (fun refuses => refused refuses.2), bind_ok done]
      rfl
  · have again : ¬ world.rng.opCounter >= world.rng.reseedFrequency := due
    have takes : ¬ Refuses world := fun refuses => due refuses.1
    rw [if_neg again, if_neg takes, if_neg due]
    rfl

/-! ## Numbers within bounds -/

/-- The number within bounds that a random number stands for. -/
def bounded (min max output : BitVec 32) : BitVec 32 := min + output % (max - min + 1)

section

variable {γ : Type} {min max : BitVec 32}

theorem range_toNat (le : min <= max) : (max - min).toNat = max.toNat - min.toNat :=
  BitVec.toNat_sub_of_le le

/-- The remainders are as many as the numbers within the bounds, unless these leave nothing out. -/
theorem divisor_toNat (le : min <= max) (room : ¬ (min = 0 ∧ max = 0xffffffff)) :
    (max - min + 1).toNat = max.toNat - min.toNat + 1 := by
  have range := range_toNat le
  have small : max.toNat - min.toNat + 1 < 2 ^ 32 := by
    by_contra large
    have top := max.isLt
    apply room
    constructor
    · exact BitVec.eq_of_toNat_eq (show min.toNat = 0 by omega)
    · exact BitVec.eq_of_toNat_eq (show max.toNat = 0xffffffff by omega)
  rw [BitVec.toNat_add, range]
  exact Nat.mod_eq_of_lt small

theorem bounded_toNat (le : min <= max) (room : ¬ (min = 0 ∧ max = 0xffffffff))
    (output : BitVec 32) :
    (bounded min max output).toNat =
      min.toNat + output.toNat % (max.toNat - min.toNat + 1) := by
  have remainder : output.toNat % (max.toNat - min.toNat + 1) < max.toNat - min.toNat + 1 :=
    Nat.mod_lt _ (Nat.succ_pos _)
  have order : min.toNat <= max.toNat := le
  have top := max.isLt
  unfold bounded
  rw [BitVec.toNat_add, BitVec.toNat_umod, divisor_toNat le room]
  exact Nat.mod_eq_of_lt (by omega)

theorem bounded_within (le : min <= max) (room : ¬ (min = 0 ∧ max = 0xffffffff))
    (output : BitVec 32) : min <= bounded min max output ∧ bounded min max output <= max := by
  have value := bounded_toNat le room output
  have remainder : output.toNat % (max.toNat - min.toNat + 1) < max.toNat - min.toNat + 1 :=
    Nat.mod_lt _ (Nat.succ_pos _)
  have order : min.toNat <= max.toNat := le
  constructor
  · change min.toNat <= (bounded min max output).toNat
    omega
  · change (bounded min max output).toNat <= max.toNat
    omega

/-- A number within the bounds is what its distance from the lower one stands for. -/
theorem bounded_sub (le : min <= max) (room : ¬ (min = 0 ∧ max = 0xffffffff)) {value : BitVec 32}
    (above : min <= value) (below : value <= max) : bounded min max (value - min) = value := by
  have lower : min.toNat <= value.toNat := above
  have upper : value.toNat <= max.toNat := below
  apply BitVec.eq_of_toNat_eq
  rw [bounded_toNat le room, BitVec.toNat_sub_of_le above, Nat.mod_eq_of_lt (by omega)]
  omega

theorem gen32RangeWith_check (gen32 : Routine (Source γ) RandFailure (BitVec 32))
    (apart : ¬ max >= min) : gen32RangeWith gen32 min max = raise .check := by
  unfold gen32RangeWith
  rw [if_pos apart]
  rfl

/-- Without a choice no random number is drawn. -/
theorem gen32RangeWith_same (gen32 : Routine (Source γ) RandFailure (BitVec 32)) :
    gen32RangeWith gen32 min min = pure min := by
  have itself : min >= min := BitVec.le_refl min
  have none : min - min = 0 := BitVec.sub_self min
  unfold gen32RangeWith
  rw [if_neg (not_not_intro itself)]
  dsimp only
  rw [if_pos none]

/-- A number that is drawn is reduced to the bounds. -/
theorem gen32RangeWith_drawn (gen32 : Routine (Source γ) RandFailure (BitVec 32))
    (less : min < max) (room : ¬ (min = 0 ∧ max = 0xffffffff)) :
    gen32RangeWith gen32 min max = gen32 >>= fun output => pure (bounded min max output) := by
  have le : max >= min := BitVec.le_of_lt less
  have choice : max - min ≠ 0 := by
    intro none
    have range := range_toNat le
    have order : min.toNat < max.toNat := less
    rw [none] at range
    exact absurd range (by change 0 ≠ _; omega)
  have divisor : max - min + 1 ≠ 0 := by
    intro none
    have remainders := divisor_toNat le room
    rw [none] at remainders
    exact absurd remainders (Nat.succ_ne_zero _).symm
  unfold gen32RangeWith
  rw [if_neg (not_not_intro le)]
  dsimp only
  rw [if_neg choice]
  funext source
  apply congrFun
  apply congrArg
  funext output
  have within := bounded_within le room output
  rw [if_neg divisor]
  exact if_neg (not_not_intro within)

/-- With bounds that leave nothing out the number that is drawn is divided by zero. -/
theorem gen32RangeWith_full (gen32 : Routine (Source γ) RandFailure (BitVec 32)) :
    gen32RangeWith gen32 0 0xffffffff = gen32 >>= fun _ => raise .divideByZero := rfl

/-- Where there is a choice, a number that is not to be had ends it. -/
theorem gen32RangeWith_stopped {gen32 : Routine (Source γ) RandFailure (BitVec 32)}
    (less : min < max) {reason : RandFailure} {source source' : Source γ}
    (stopped : gen32 source = (.error reason, source')) :
    gen32RangeWith gen32 min max source = (.error reason, source') := by
  by_cases full : min = 0 ∧ max = 0xffffffff
  · rw [full.1, full.2, gen32RangeWith_full, bind_error stopped]
  · rw [gen32RangeWith_drawn gen32 less full, bind_error stopped]

end

/-! ## Runs of the generator -/

/-- Neither the register nor the entropy source is stuck at zero. -/
structure Alive (world : World) : Prop where
  lfsr : world.rng.lfsr ≠ 0
  entropy : world.entropy ≠ 0
  polynomial : world.rng.polynomialCoefficients = kLfsrPolynomialCoefficients

theorem xorshift_ne_zero {prngState : BitVec 32} (nonzero : prngState ≠ 0) :
    xorshift prngState ≠ 0 :=
  (eq_zero_iff xorshift_injective xorshift_zero).not.mpr nonzero

theorem alive_gen32 : Keeps Alive gen32 := by
  intro world alive
  have entropy := xorshift_ne_zero alive.entropy
  rw [gen32_apply]
  split
  · exact ⟨entropy, entropy, alive.polynomial⟩
  · split
    · exact ⟨entropy, entropy, alive.polynomial⟩
    · refine ⟨?_, alive.entropy, alive.polynomial⟩
      change galois world.rng.polynomialCoefficients world.rng.lfsr ≠ 0
      rw [alive.polynomial]
      exact (eq_zero_iff galois_lfsr_injective (galois_zero _)).not.mpr alive.lfsr

theorem alive_gen32Range (min max : BitVec 32) : Keeps Alive (gen32Range min max) := by
  unfold gen32Range
  by_cases order : max >= min
  · by_cases same : min = max
    · rw [<- same, gen32RangeWith_same]
      exact keeps_pure min
    · by_cases full : min = 0 ∧ max = 0xffffffff
      · rw [full.1, full.2, gen32RangeWith_full]
        exact keeps_bind alive_gen32 (fun _ => keeps_raise _)
      · rw [gen32RangeWith_drawn gen32 (BitVec.lt_of_le_ne order same) full]
        exact keeps_bind alive_gen32 (fun _ => keeps_pure _)
  · rw [gen32RangeWith_check gen32 order]
    exact keeps_raise _

/-- What a test does with the generator; a shuffle is a row of these. -/
inductive Operation where
  | gen32
  | gen32Range (min max : BitVec 32)
  | reseed
  | setReseedFrequency (frequency : BitVec 32)
  | readRndData

def Operation.run : Operation -> Routine World RandFailure Unit
  | .gen32 => RandTestutils.gen32 >>= fun _ => pure ()
  | .gen32Range min max => RandTestutils.gen32Range min max >>= fun _ => pure ()
  | .reseed => randTestutilsReseed
  | .setReseedFrequency frequency => fun world =>
      (.ok (), { world with rng := { world.rng with reseedFrequency := frequency } })
  | .readRndData => checkStatusOk (difRvCoreIbexReadRndData .object .object) >>= fun _ => pure ()

theorem Operation.alive (operation : Operation) : Keeps Alive operation.run := by
  cases operation with
  | gen32 => exact keeps_bind alive_gen32 (fun _ => keeps_pure _)
  | gen32Range min max => exact keeps_bind (alive_gen32Range min max) (fun _ => keeps_pure _)
  | reseed => exact fun world alive => ⟨alive.lfsr, alive.entropy, alive.polynomial⟩
  | setReseedFrequency frequency =>
      exact fun world alive => ⟨alive.lfsr, alive.entropy, alive.polynomial⟩
  | readRndData =>
      exact fun world alive => ⟨alive.lfsr, xorshift_ne_zero alive.entropy, alive.polynomial⟩

/-- Operations one after the other, up to the first one that fails the test. -/
def runAll : List Operation -> Routine World RandFailure Unit
  | [] => pure ()
  | operation :: rest => operation.run >>= fun _ => runAll rest

theorem alive_runAll (operations : List Operation) : Keeps Alive (runAll operations) := by
  induction operations with
  | nil => exact keeps_pure ()
  | cons operation rest ih => exact keeps_bind operation.alive (fun _ => ih)

theorem iterate_xorshift_ne_zero (n : Nat) {prngState : BitVec 32} (nonzero : prngState ≠ 0) :
    xorshift^[n] prngState ≠ 0 := by
  induction n generalizing prngState with
  | zero => exact nonzero
  | succ n ih => exact ih (xorshift_ne_zero nonzero)

theorem alive_init {kDeviceType : DeviceType} {rvCoreIbex : Pointer} {rng : RandTestutilsRng}
    (init : randTestutilsInit kDeviceType rvCoreIbex = .ok rng) (frequency : BitVec 32) (n : Nat) :
    Alive ⟨{ rng with reseedFrequency := frequency }, xorshift^[n] 123⟩ := by
  unfold randTestutilsInit at init
  split at init
  · cases init
    exact ⟨(by decide : (0xdeadbeef : BitVec 32) ≠ 0), iterate_xorshift_ne_zero n (by decide), rfl⟩
  · cases init

/-! ## What is asked of the generator -/

/-- A number within the bounds is returned, and each of them for some random number. -/
def BoundedRandom (min max : BitVec 32) (world : World) : Prop :=
  (Exists fun value => Exists fun world' =>
    gen32Range min max world = (.ok value, world') ∧ min <= value ∧ value <= max) ∧
  forall value, min <= value -> value <= max -> Exists fun output =>
    (Exists fun source => (gen32 source).1 = .ok output) ∧
      forall source, (gen32 source).1 = .ok output -> (gen32Range min max source).1 = .ok value

/-- The steps of both generators lose nothing, and no run from the start, with any frequency of
reseeding, whatever has been read from the entropy source before, gets the register to zero. -/
structure GeneratorLaws : Prop where
  advance : forall world : World, (advanceLfsr world).2.rng.lfsr =
    galois world.rng.polynomialCoefficients world.rng.lfsr
  advance_bijective : Function.Bijective (galois kLfsrPolynomialCoefficients)
  advance_zero : forall lfsr, galois kLfsrPolynomialCoefficients lfsr = 0 ↔ lfsr = 0
  read : forall world : World,
    (difRvCoreIbexReadRndData .object .object world).2.entropy = xorshift world.entropy
  read_bijective : Function.Bijective xorshift
  read_zero : forall prngState, xorshift prngState = 0 ↔ prngState = 0
  nonzero : forall kDeviceType rvCoreIbex rng, randTestutilsInit kDeviceType rvCoreIbex = .ok rng ->
    forall frequency n operations,
      (runAll operations ⟨{ rng with reseedFrequency := frequency }, xorshift^[n] 123⟩).2.rng.lfsr ≠ 0

theorem generatorLaws : GeneratorLaws where
  advance _ := rfl
  advance_bijective := bijective_of_injective galois_lfsr_injective
  advance_zero _ := eq_zero_iff galois_lfsr_injective (galois_zero _)
  read _ := rfl
  read_bijective := bijective_of_injective xorshift_injective
  read_zero _ := eq_zero_iff xorshift_injective xorshift_zero
  nonzero _ _ _ init frequency n operations :=
    (alive_runAll operations _ (alive_init init frequency n)).lfsr

/-- The generator of a simulated device right after a reseed with some word. -/
def running (lfsr : BitVec 32) : RandTestutilsRng where
  rvCoreIbex := .object
  entropyFetchTimeoutUsec := kEntropyFetchTimeoutMicros
  lfsr := lfsr
  polynomialCoefficients := kLfsrPolynomialCoefficients
  reseedFrequency := 256
  opCounter := 0
  handle := Pointer.noConfusion

/-- Every word is what the register holds after some step. -/
theorem gen32_surjective (output : BitVec 32) :
    Exists fun source => (gen32 source).1 = .ok output := by
  rcases generatorLaws.advance_bijective.2 output with ⟨lfsr, stepped⟩
  have early : ¬ Due ⟨running lfsr, 123⟩ := by
    change ¬ (0 : BitVec 32) >= 256
    decide
  refine ⟨⟨running lfsr, 123⟩, ?_⟩
  rw [gen32_apply, if_neg (fun refuses => early refuses.1), if_neg early]
  exact congrArg Except.ok stepped

theorem gen32_refuses {world : World} (refuses : Refuses world) :
    gen32 world = (.error .check, world.drawn) := by
  rw [gen32_apply, if_pos refuses]

theorem gen32_returns {world : World} (takes : ¬ Refuses world) :
    Exists fun output => Exists fun world' => gen32 world = (.ok output, world') := by
  rw [gen32_apply, if_neg takes]
  split
  · exact ⟨_, _, rfl⟩
  · exact ⟨_, _, rfl⟩

/-- The two states of the entropy source whose next word is refused. -/
theorem refuses_iff (world : World) :
    Refuses world ↔ Due world ∧ (world.entropy = 0 ∨ world.entropy = 0x5e6cfce7) := by
  have most : xorshift world.entropy = 0xffffffff ↔ world.entropy = 0x5e6cfce7 := by
    have reached : xorshift 0x5e6cfce7 = 0xffffffff := by decide
    rw [<- reached]
    exact xorshift_injective.eq_iff
  unfold Refuses
  rw [eq_zero_iff xorshift_injective xorshift_zero, most]

/-- A number within bounds is to be had unless the bounds leave nothing out, or the generator has
to be reseeded with a word that it refuses; with bounds that are the same no number is drawn. -/
theorem boundedRandom_iff {min max : BitVec 32} (order : min <= max) (world : World) :
    BoundedRandom min max world ∧ GeneratorLaws ↔
      min = max ∨ ¬ (min = 0 ∧ max = 0xffffffff) ∧
        ¬ (Due world ∧ (world.entropy = 0 ∨ world.entropy = 0x5e6cfce7)) := by
  rw [<- refuses_iff, and_iff_left generatorLaws]
  by_cases same : min = max
  · refine iff_of_true ⟨⟨min, world, ?_, BitVec.le_refl min, order⟩, ?_⟩ (Or.inl same)
    · rw [<- same, gen32Range, gen32RangeWith_same]
      rfl
    · intro value above below
      refine ⟨0, gen32_surjective 0, fun source _ => ?_⟩
      have equal : value = min := BitVec.le_antisymm (same ▸ below) above
      rw [<- same, gen32Range, gen32RangeWith_same, equal]
      rfl
  · rw [or_iff_right same]
    have less := BitVec.lt_of_le_ne order same
    constructor
    · rintro ⟨⟨value, world', run, _⟩, _⟩
      constructor
      · intro full
        rw [gen32Range, full.1, full.2, gen32RangeWith_full, bind_apply] at run
        generalize gen32 world = drawn at run
        rcases drawn with ⟨reason | output, world''⟩
        · cases run
        · cases run
      · intro refuses
        rw [gen32Range, gen32RangeWith_stopped less (gen32_refuses refuses)] at run
        cases run
    · rintro ⟨room, takes⟩
      have drawn {source source' : World} {output : BitVec 32}
          (gives : gen32 source = (.ok output, source')) :
          gen32Range min max source = (.ok (bounded min max output), source') := by
        rw [gen32Range, gen32RangeWith_drawn gen32 less room, bind_ok gives]
        rfl
      constructor
      · rcases gen32_returns takes with ⟨output, world', gives⟩
        exact ⟨_, world', drawn gives, bounded_within order room output⟩
      · intro value above below
        refine ⟨value - min, gen32_surjective _, fun source gives => ?_⟩
        have stands := drawn (show gen32 source = (.ok (value - min), (gen32 source).2) by
          rw [<- gives])
        rw [stands, bounded_sub order room above below]

/-- The numbers of a nibble. -/
theorem boundedRandom_iff_nibble : BoundedRandom 0 15 ⟨running 1, 123⟩ :=
  ((boundedRandom_iff (show (0 : BitVec 32) <= 15 by decide) ⟨running 1, 123⟩).mpr
    (Or.inr ⟨by decide, by decide⟩)).1

/-- The bounds that leave nothing out. -/
theorem boundedRandom_apart : ¬ forall (min max : BitVec 32) (world : World), min <= max ->
    BoundedRandom min max world ∧ GeneratorLaws := by
  intro all
  rcases (all 0 0xffffffff ⟨running 1, 123⟩ (by decide)).1.1 with ⟨value, world', run, _⟩
  have divides : gen32Range 0 0xffffffff ⟨running 1, 123⟩ =
      (.error .divideByZero, World.advanced ⟨running 1, 123⟩) := rfl
  rw [divides] at run
  cases run

end RandTestutils
end SunburstChip
