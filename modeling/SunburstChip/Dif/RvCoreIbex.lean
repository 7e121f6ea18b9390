import SunburstChip.Dif.Base
import SunburstChip.Lib.Napot

namespace SunburstChip
namespace RvCoreIbex

open Mmio

/-!
# Address translation of the Ibex core

Accesses on each of the two buses are redirected by two slots.  A slot has a
register for the range that it matches, as one word for start and size, a
register for where the range is redirected to, and two flags.  The functions
below are those of `dif_rv_core_ibex.c` that set up a slot and read it back.
-/

/-! ## The register file -/

/-- The registers of one slot of one bus. -/
structure Slot where
  /-- The one bit of its `REGWEN`. -/
  regwen : Bool
  en : Bool
  matching : BitVec 32
  remap : BitVec 32
  deriving DecidableEq

/-- The registers of the address translation. -/
structure Registers where
  ibus0 : Slot
  ibus1 : Slot
  dbus0 : Slot
  dbus1 : Slot
  deriving DecidableEq

/-- A register of one bit. -/
def flag (value : Bool) : BitVec 32 := if value then 1 else 0

/-- A write of the two flags and the two addresses of a slot as their access types have
it: `REGWEN` keeps a bit that is written as one (`rw0c`), and while it is zero the others
ignore the write. -/
def Slot.writeRegwen (slot : Slot) (value : BitVec 32) : Slot :=
  { slot with regwen := slot.regwen && value.getLsbD 0 }

def Slot.writeEn (slot : Slot) (value : BitVec 32) : Slot :=
  if slot.regwen then { slot with en := value.getLsbD 0 } else slot

def Slot.writeMatching (slot : Slot) (value : BitVec 32) : Slot :=
  if slot.regwen then { slot with matching := value } else slot

def Slot.writeRemap (slot : Slot) (value : BitVec 32) : Slot :=
  if slot.regwen then { slot with remap := value } else slot

/-- The register file as a device. -/
def device : Device Registers where
  read32 offset regs :=
    match offset with
    | 0xc => (flag regs.ibus0.regwen, regs)
    | 0x10 => (flag regs.ibus1.regwen, regs)
    | 0x14 => (flag regs.ibus0.en, regs)
    | 0x18 => (flag regs.ibus1.en, regs)
    | 0x1c => (regs.ibus0.matching, regs)
    | 0x20 => (regs.ibus1.matching, regs)
    | 0x24 => (regs.ibus0.remap, regs)
    | 0x28 => (regs.ibus1.remap, regs)
    | 0x2c => (flag regs.dbus0.regwen, regs)
    | 0x30 => (flag regs.dbus1.regwen, regs)
    | 0x34 => (flag regs.dbus0.en, regs)
    | 0x38 => (flag regs.dbus1.en, regs)
    | 0x3c => (regs.dbus0.matching, regs)
    | 0x40 => (regs.dbus1.matching, regs)
    | 0x44 => (regs.dbus0.remap, regs)
    | 0x48 => (regs.dbus1.remap, regs)
    | _ => (0, regs)
  write32 offset value regs :=
    match offset with
    | 0xc => { regs with ibus0 := regs.ibus0.writeRegwen value }
    | 0x10 => { regs with ibus1 := regs.ibus1.writeRegwen value }
    | 0x14 => { regs with ibus0 := regs.ibus0.writeEn value }
    | 0x18 => { regs with ibus1 := regs.ibus1.writeEn value }
    | 0x1c => { regs with ibus0 := regs.ibus0.writeMatching value }
    | 0x20 => { regs with ibus1 := regs.ibus1.writeMatching value }
    | 0x24 => { regs with ibus0 := regs.ibus0.writeRemap value }
    | 0x28 => { regs with ibus1 := regs.ibus1.writeRemap value }
    | 0x2c => { regs with dbus0 := regs.dbus0.writeRegwen value }
    | 0x30 => { regs with dbus1 := regs.dbus1.writeRegwen value }
    | 0x34 => { regs with dbus0 := regs.dbus0.writeEn value }
    | 0x38 => { regs with dbus1 := regs.dbus1.writeEn value }
    | 0x3c => { regs with dbus0 := regs.dbus0.writeMatching value }
    | 0x40 => { regs with dbus1 := regs.dbus1.writeMatching value }
    | 0x44 => { regs with dbus0 := regs.dbus0.writeRemap value }
    | 0x48 => { regs with dbus1 := regs.dbus1.writeRemap value }
    | _ => regs
  write8 _ _ regs := regs

/-! ## The driver -/

/-- `dif_rv_core_ibex_addr_translation_slot_t` -/
abbrev DifRvCoreIbexAddrTranslationSlot := BitVec 32

abbrev slot0 : DifRvCoreIbexAddrTranslationSlot := 0
abbrev slot1 : DifRvCoreIbexAddrTranslationSlot := 1
abbrev slotCount : DifRvCoreIbexAddrTranslationSlot := 2

/-- `dif_rv_core_ibex_addr_translation_bus_t` -/
abbrev DifRvCoreIbexAddrTranslationBus := BitVec 32

abbrev dBus : DifRvCoreIbexAddrTranslationBus := 0
abbrev iBus : DifRvCoreIbexAddrTranslationBus := 1
abbrev busCount : DifRvCoreIbexAddrTranslationBus := 2

/-- `dif_rv_core_ibex_addr_translation_mapping_t` -/
structure Mapping where
  matchingAddr : BitVec 32
  remapAddr : BitVec 32
  size : BitVec 32
  deriving DecidableEq

/-- `ibex_addr_translation_regs_t` -/
structure IbexAddrTranslationRegs where
  matching : Nat
  remap : Nat
  en : Nat
  lock : Nat
  deriving DecidableEq

/-- `kRegsMap` -/
def kRegsMap (slot : DifRvCoreIbexAddrTranslationSlot) (bus : DifRvCoreIbexAddrTranslationBus) :
    IbexAddrTranslationRegs :=
  if slot = slot0 then
    if bus = dBus then ⟨0x3c, 0x44, 0x34, 0x2c⟩ else ⟨0x1c, 0x24, 0x14, 0xc⟩
  else
    if bus = dBus then ⟨0x40, 0x48, 0x38, 0x30⟩ else ⟨0x20, 0x28, 0x18, 0x10⟩

/-- `bitfield_is_power_of_two32` -/
def bitfieldIsPowerOfTwo32 (bitfield : BitVec 32) : Bool :=
  bitfield != 0 && (bitfield &&& (bitfield - 1)) == 0

/-- `to_napot` -/
def toNapot (addr size : BitVec 32) : BitVec 32 := addr ||| ((size - 1) >>> 1)

/-- The test of the loop in `from_napot`. -/
def marksSize (napot : BitVec 32) (i : Nat) : Bool :=
  let ref := (1#32 <<< i) - 1#32
  (napot &&& ref) == (ref >>> 1)

/-- `from_napot`: the start address and `*size`, which keeps its value if the loop
finds none. -/
def fromNapot (napot size : BitVec 32) : BitVec 32 × BitVec 32 :=
  let size : BitVec 32 :=
    match (List.range' 1 31).find? (marksSize napot) with
    | some i => 1#32 <<< i
    | none => size
  (napot &&& ~~~((size - 1) >>> 1), size)

/-- `dif_rv_core_ibex_configure_addr_translation` -/
def difRvCoreIbexConfigureAddrTranslation (rvCoreIbex : Pointer)
    (slot : DifRvCoreIbexAddrTranslationSlot) (bus : DifRvCoreIbexAddrTranslationBus)
    (addrMap : Mapping) : Mmio DifResult := do
  if rvCoreIbex = .null ∨ slotCount <= slot ∨ busCount <= bus ∨
      bitfieldIsPowerOfTwo32 addrMap.size = false then
    return .kDifBadArg
  let regs := kRegsMap slot bus
  if (<- mmioRegionRead32 regs.lock) = 0 then
    return .kDifLocked
  let mask := toNapot addrMap.matchingAddr addrMap.size
  mmioRegionWrite32 regs.matching mask
  mmioRegionWrite32 regs.remap addrMap.remapAddr
  return .kDifOk

/-- `dif_rv_core_ibex_read_addr_translation`: the result, and the mapping as it leaves
it. -/
def difRvCoreIbexReadAddrTranslation (rvCoreIbex : Pointer)
    (slot : DifRvCoreIbexAddrTranslationSlot) (bus : DifRvCoreIbexAddrTranslationBus)
    (addrMap : Option Mapping) : Mmio (DifResult × Option Mapping) := do
  match addrMap with
  | none => return (.kDifBadArg, none)
  | some addrMap =>
      if rvCoreIbex = .null ∨ slotCount <= slot ∨ busCount <= bus then
        return (.kDifBadArg, some addrMap)
      let regs := kRegsMap slot bus
      let reg <- mmioRegionRead32 regs.matching
      let (matchingAddr, size) := fromNapot reg addrMap.size
      let remapAddr <- mmioRegionRead32 regs.remap
      return (.kDifOk, some ⟨matchingAddr, remapAddr, size⟩)

/-! ## Slots -/

/-- The registers that belong to a slot of a bus. -/
def Registers.slot (regs : Registers) (slot : DifRvCoreIbexAddrTranslationSlot)
    (bus : DifRvCoreIbexAddrTranslationBus) : Slot :=
  if slot = slot0 then
    if bus = dBus then regs.dbus0 else regs.ibus0
  else
    if bus = dBus then regs.dbus1 else regs.ibus1

/-- The registers with those of one slot replaced. -/
def Registers.setSlot (regs : Registers) (slot : DifRvCoreIbexAddrTranslationSlot)
    (bus : DifRvCoreIbexAddrTranslationBus) (content : Slot) : Registers :=
  if slot = slot0 then
    if bus = dBus then { regs with dbus0 := content } else { regs with ibus0 := content }
  else
    if bus = dBus then { regs with dbus1 := content } else { regs with ibus1 := content }

section

variable (regs : Registers) (slot : DifRvCoreIbexAddrTranslationSlot)
  (bus : DifRvCoreIbexAddrTranslationBus)

@[simp] theorem slot_setSlot (content : Slot) :
    (regs.setSlot slot bus content).slot slot bus = content := by
  unfold Registers.setSlot Registers.slot
  split <;> split <;> rfl

@[simp] theorem setSlot_setSlot (content content' : Slot) :
    (regs.setSlot slot bus content).setSlot slot bus content' = regs.setSlot slot bus content' := by
  unfold Registers.setSlot
  split <;> split <;> rfl

theorem read32_lock : device.read32 (kRegsMap slot bus).lock regs =
    (flag (regs.slot slot bus).regwen, regs) := by
  unfold kRegsMap Registers.slot
  split <;> split <;> rfl

theorem read32_matching : device.read32 (kRegsMap slot bus).matching regs =
    ((regs.slot slot bus).matching, regs) := by
  unfold kRegsMap Registers.slot
  split <;> split <;> rfl

theorem read32_remap : device.read32 (kRegsMap slot bus).remap regs =
    ((regs.slot slot bus).remap, regs) := by
  unfold kRegsMap Registers.slot
  split <;> split <;> rfl

theorem write32_matching (value : BitVec 32) :
    device.write32 (kRegsMap slot bus).matching value regs =
      regs.setSlot slot bus ((regs.slot slot bus).writeMatching value) := by
  unfold kRegsMap Registers.slot Registers.setSlot
  split <;> split <;> rfl

theorem write32_remap (value : BitVec 32) :
    device.write32 (kRegsMap slot bus).remap value regs =
      regs.setSlot slot bus ((regs.slot slot bus).writeRemap value) := by
  unfold kRegsMap Registers.slot Registers.setSlot
  split <;> split <;> rfl

end

/-! ## Sizes -/

section

variable {napot size addr : BitVec 32} {i : Nat}

/-- The loop stops at the lowest clear bit. -/
theorem marksSize_iff (inside : i + 1 < 32) :
    marksSize napot (i + 1) = true ↔ Napot.LowestClear napot i :=
  beq_iff_eq.trans (Napot.LowestClear.and_ones_iff inside)

theorem fromNapot_lowestClear (inside : i + 1 < 32) (clear : Napot.LowestClear napot i) :
    fromNapot napot size = (napot &&& ~~~(Napot.ones 32 (i + 1) >>> 1), 1#32 <<< (i + 1)) := by
  have found : (List.range' 1 31).find? (marksSize napot) = some (i + 1) := by
    refine List.find?_range'_eq_some.mpr ⟨(marksSize_iff inside).mpr clear, ?_, ?_⟩
    · exact List.mem_range'_1.mpr (by omega)
    · intro j positive earlier
      have small : j - 1 + 1 < 32 := by omega
      rw [Bool.not_eq_true', <- Bool.not_eq_true, <- Nat.sub_add_cancel positive,
        marksSize_iff small]
      intro other
      have same := other.unique clear
      omega
  unfold fromNapot
  rw [found]
  rfl

/-- Without a clear bit below the highest, the size is not stored. -/
theorem fromNapot_set (set : forall j, j < 31 -> napot.getLsbD j = true) :
    fromNapot napot size = (napot &&& ~~~((size - 1) >>> 1), size) := by
  have none : (List.range' 1 31).find? (marksSize napot) = none := by
    refine List.find?_range'_eq_none.mpr fun j positive below => ?_
    have small : j - 1 + 1 < 32 := by omega
    rw [Bool.not_eq_true', <- Bool.not_eq_true, <- Nat.sub_add_cancel positive, marksSize_iff small]
    rintro ⟨-, clear⟩
    rw [set (j - 1) (by omega)] at clear
    cases clear
  unfold fromNapot
  rw [none]

/-- The sizes that are accepted are the powers of two. -/
theorem bitfieldIsPowerOfTwo32_iff :
    bitfieldIsPowerOfTwo32 size = true ↔ Exists fun k => k < 32 ∧ size = 1#32 <<< k := by
  have words : bitfieldIsPowerOfTwo32 size = true ↔
      size.toNat ≠ 0 ∧ size.toNat &&& (size.toNat - 1) = 0 := by
    unfold bitfieldIsPowerOfTwo32
    rw [Bool.and_eq_true, bne_iff_ne, beq_iff_eq]
    rw [show size ≠ 0 ↔ size.toNat ≠ 0 from not_congr BitVec.toNat_inj.symm]
    refine and_congr_right fun some => ?_
    have least : (1 : BitVec 32) <= size := Nat.pos_of_ne_zero some
    rw [<- BitVec.toNat_inj, BitVec.toNat_and, BitVec.toNat_sub_of_le least]
    rfl
  rw [words, Nat.ne_zero_and_sub_one_eq_zero_iff_isPowerOfTwo]
  constructor
  · rintro ⟨k, power⟩
    have small : k < 32 := by
      have inside := size.isLt
      rw [power] at inside
      exact (Nat.pow_lt_pow_iff_right (by decide)).mp inside
    exact ⟨k, small, BitVec.eq_of_toNat_eq (by rw [power, Napot.toNat_shift small])⟩
  · rintro ⟨k, small, rfl⟩
    exact ⟨k, Napot.toNat_shift small⟩

end

/-! ## Setting up a slot and reading it back -/

section

variable {rvCoreIbex : Pointer} {slot : DifRvCoreIbexAddrTranslationSlot}
  {bus : DifRvCoreIbexAddrTranslationBus} {addrMap old : Mapping} {regs : Registers}

/-- The mapping is refused: there is no handle, no such slot or bus, the size is no power of two,
or the slot is locked. -/
def Refused (rvCoreIbex : Pointer) (slot : DifRvCoreIbexAddrTranslationSlot)
    (bus : DifRvCoreIbexAddrTranslationBus) (addrMap : Mapping) (regs : Registers) : Prop :=
  rvCoreIbex = .null ∨ slotCount <= slot ∨ busCount <= bus ∨
    bitfieldIsPowerOfTwo32 addrMap.size = false ∨ (regs.slot slot bus).regwen = false

theorem configure_run (accepted : ¬ Refused rvCoreIbex slot bus addrMap regs) :
    (difRvCoreIbexConfigureAddrTranslation rvCoreIbex slot bus addrMap).run device regs =
      some (.kDifOk, regs.setSlot slot bus { regs.slot slot bus with
        matching := toNapot addrMap.matchingAddr addrMap.size
        remap := addrMap.remapAddr }) := by
  simp only [Refused, not_or, Bool.not_eq_false] at accepted
  rcases accepted with ⟨object, slots, buses, power, unlocked⟩
  unfold difRvCoreIbexConfigureAddrTranslation
  rw [if_neg (by simp only [not_or, Bool.not_eq_false]; exact ⟨object, slots, buses, power⟩)]
  change Mmio.run device (if (device.read32 (kRegsMap slot bus).lock regs).1 = 0 then _ else _)
    (device.read32 (kRegsMap slot bus).lock regs).2 = _
  rw [read32_lock]
  change Mmio.run device (if flag (regs.slot slot bus).regwen = 0 then _ else _) regs = _
  rw [unlocked, if_neg (by decide)]
  change some (_, device.write32 (kRegsMap slot bus).remap _
    (device.write32 (kRegsMap slot bus).matching _ regs)) = _
  rw [write32_matching, write32_remap, slot_setSlot, setSlot_setSlot]
  unfold Slot.writeMatching Slot.writeRemap
  rw [if_pos unlocked, if_pos unlocked]

theorem configure_refused (refused : Refused rvCoreIbex slot bus addrMap regs)
    (after : Registers) :
    (difRvCoreIbexConfigureAddrTranslation rvCoreIbex slot bus addrMap).run device regs ≠
      some (.kDifOk, after) := by
  unfold difRvCoreIbexConfigureAddrTranslation
  split
  · nofun
  · next offered =>
      simp only [not_or] at offered
      rcases offered with ⟨object, slots, buses, power⟩
      simp only [Refused, object, slots, buses, power, Bool.true_eq_false, false_or] at refused
      change Mmio.run device (if (device.read32 (kRegsMap slot bus).lock regs).1 = 0 then _ else _)
        (device.read32 (kRegsMap slot bus).lock regs).2 ≠ _
      rw [read32_lock]
      change Mmio.run device (if flag (regs.slot slot bus).regwen = 0 then _ else _) regs ≠ _
      rw [refused, if_pos (by decide)]
      nofun

theorem read_run (object : rvCoreIbex ≠ .null) (slots : ¬ slotCount <= slot)
    (buses : ¬ busCount <= bus) :
    (difRvCoreIbexReadAddrTranslation rvCoreIbex slot bus (some old)).run device regs =
      some ((.kDifOk, some ⟨(fromNapot (regs.slot slot bus).matching old.size).1,
        (regs.slot slot bus).remap, (fromNapot (regs.slot slot bus).matching old.size).2⟩),
        regs) := by
  unfold difRvCoreIbexReadAddrTranslation
  dsimp only
  rw [if_neg (by simp only [not_or]; exact ⟨object, slots, buses⟩)]
  simp only [mmioRegionRead32, read32_bind, ret_bind, Mmio.run, read32_matching, read32_remap,
    pure_eq]

/-- A mapping that is set up is read back as it is, whatever the caller's mapping was
before. -/
def RoundTrips (rvCoreIbex : Pointer) (slot : DifRvCoreIbexAddrTranslationSlot)
    (bus : DifRvCoreIbexAddrTranslationBus) (addrMap old : Mapping) (regs : Registers) : Prop :=
  forall after,
    (difRvCoreIbexConfigureAddrTranslation rvCoreIbex slot bus addrMap).run device regs =
      some (.kDifOk, after) ->
    (difRvCoreIbexReadAddrTranslation rvCoreIbex slot bus (some old)).run device after =
      some ((.kDifOk, some addrMap), after)

/-- It is what `from_napot` makes of what `to_napot` has made. -/
theorem roundTrips_iff_fromNapot (accepted : ¬ Refused rvCoreIbex slot bus addrMap regs) :
    RoundTrips rvCoreIbex slot bus addrMap old regs ↔
      fromNapot (toNapot addrMap.matchingAddr addrMap.size) old.size =
        (addrMap.matchingAddr, addrMap.size) := by
  have configured := configure_run accepted
  simp only [Refused, not_or] at accepted
  rcases accepted with ⟨object, slots, buses, -, -⟩
  unfold RoundTrips
  rw [configured]
  constructor
  · intro trips
    have read := trips _ rfl
    rw [read_run object slots buses, slot_setSlot] at read
    simp only [Option.some.injEq, Prod.mk.injEq, and_true, true_and] at read
    exact Prod.ext (congrArg Mapping.matchingAddr read) (congrArg Mapping.size read)
  · rintro back after same
    cases same
    rw [read_run object slots buses, slot_setSlot]
    simp only [back]

/-! ## Which mappings survive -/

/-- A size above one is told by the word. -/
theorem fromNapot_toNapot {addr size : BitVec 32} {i : Nat} (inside : i + 1 < 32)
    (aligned : addr.toNat % 2 ^ (i + 1) = 0) :
    fromNapot (toNapot addr (1#32 <<< (i + 1))) size = (addr, 1#32 <<< (i + 1)) := by
  have clear := Napot.LowestClear.encode inside aligned
  change fromNapot (Napot.encode addr i) size = _
  rw [fromNapot_lowestClear inside clear, Napot.encode_start inside aligned]

/-- All the bits that the loop looks at are set. -/
theorem low_set_iff {addr : BitVec 32} : addr &&& 0x7fffffff = 0x7fffffff ↔
    forall j, j < 31 -> addr.getLsbD j = true := by
  have low (j : Nat) : (0x7fffffff : BitVec 32).getLsbD j = decide (j < 31) :=
    Napot.getLsbD_ones (show 31 < 32 by decide) j
  constructor
  · intro ones j below
    have bit : (addr &&& 0x7fffffff).getLsbD j = (0x7fffffff : BitVec 32).getLsbD j := by rw [ones]
    rw [BitVec.getLsbD_and, low, decide_eq_true below, Bool.and_true] at bit
    exact bit
  · intro set
    apply BitVec.eq_of_getLsbD_eq
    intro j _
    rw [BitVec.getLsbD_and, low]
    by_cases below : j < 31
    · rw [set j below, Bool.true_and]
    · rw [decide_eq_false below, Bool.and_false]

/-- A size of one is not: it is taken for a larger one, or is not stored. -/
theorem fromNapot_toNapot_one {addr size : BitVec 32} :
    fromNapot (toNapot addr 1) size = (addr, 1) ↔
      addr &&& 0x7fffffff = 0x7fffffff ∧ size = 1 := by
  have word : toNapot addr 1 = addr := by
    unfold toNapot
    simp
  rw [word, low_set_iff]
  rcases Napot.LowestClear.exists_or addr 31 with ⟨i, below, clear⟩ | set
  · have inside : i + 1 < 32 := Nat.succ_lt_succ below
    rw [fromNapot_lowestClear inside clear]
    refine iff_of_false (fun same => ?_) (fun ones => ?_)
    · have large := congrArg BitVec.toNat (congrArg Prod.snd same)
      dsimp only at large
      rw [Napot.toNat_shift inside] at large
      have two : 2 ^ 1 <= 2 ^ (i + 1) := Nat.pow_le_pow_right (by decide) (by omega)
      rw [large] at two
      exact absurd two (by decide)
    · exact absurd (ones.1 i below) (by rw [clear.2]; decide)
  · rw [fromNapot_set set, and_iff_right set]
    constructor
    · exact fun same => congrArg Prod.snd same
    · rintro rfl
      exact Prod.ext BitVec.and_allOnes rfl

/-- The mappings of accepted sizes with a start that is a multiple of the size survive, except
for the size of one: there the caller's size is left as it is if the start has all its bits set but
the highest, and is wrong otherwise. -/
theorem roundTrips_iff (rvCoreIbex : Pointer) (slot : DifRvCoreIbexAddrTranslationSlot)
    (bus : DifRvCoreIbexAddrTranslationBus) (addrMap old : Mapping) (regs : Registers) :
    (addrMap.matchingAddr.toNat % addrMap.size.toNat = 0 ->
      RoundTrips rvCoreIbex slot bus addrMap old regs) ↔
    Refused rvCoreIbex slot bus addrMap regs ∨
      addrMap.matchingAddr.toNat % addrMap.size.toNat ≠ 0 ∨ addrMap.size ≠ 1 ∨
      (addrMap.matchingAddr &&& 0x7fffffff = 0x7fffffff ∧ old.size = 1) := by
  by_cases refused : Refused rvCoreIbex slot bus addrMap regs
  · exact iff_of_true (fun _ after ran => absurd ran (configure_refused refused after))
      (.inl refused)
  rw [or_iff_right refused, roundTrips_iff_fromNapot refused]
  by_cases aligned : addrMap.matchingAddr.toNat % addrMap.size.toNat = 0
  · rw [imp_iff_right aligned, or_iff_right (not_not.mpr aligned)]
    simp only [Refused, not_or, Bool.not_eq_false] at refused
    rcases bitfieldIsPowerOfTwo32_iff.mp refused.2.2.2.1 with ⟨k, small, power⟩
    cases k with
    | zero =>
        rw [show addrMap.size = 1 from power, or_iff_right (by decide)]
        exact fromNapot_toNapot_one
    | succ i =>
        rw [power, Napot.toNat_shift small] at aligned
        refine iff_of_true ?_ (.inl fun one => ?_)
        · rw [power]
          exact fromNapot_toNapot small aligned
        · have large := congrArg BitVec.toNat (power.symm.trans one)
          rw [Napot.toNat_shift small] at large
          have two : 2 ^ 1 <= 2 ^ (i + 1) := Nat.pow_le_pow_right (by decide) (by omega)
          rw [large] at two
          exact absurd two (by decide)
  · exact iff_of_true (fun multiple => absurd multiple aligned) (.inl aligned)

end

/-- The registers after reset, with nothing locked. -/
def Registers.reset : Registers where
  ibus0 := ⟨true, false, 0, 0⟩
  ibus1 := ⟨true, false, 0, 0⟩
  dbus0 := ⟨true, false, 0, 0⟩
  dbus1 := ⟨true, false, 0, 0⟩

/-- A single address comes back as two. -/
theorem roundTrips_apart : ¬ RoundTrips .object slot0 dBus ⟨0x1000, 0x2000, 1⟩ ⟨0, 0, 0⟩ .reset ∧
    Exists fun after =>
      (difRvCoreIbexConfigureAddrTranslation .object slot0 dBus ⟨0x1000, 0x2000, 1⟩).run device
        .reset = some (.kDifOk, after) ∧
      (difRvCoreIbexReadAddrTranslation .object slot0 dBus (some ⟨0, 0, 0⟩)).run device after =
        some ((.kDifOk, some ⟨0x1000, 0x2000, 2⟩), after) := by
  have read : (difRvCoreIbexReadAddrTranslation .object slot0 dBus (some ⟨0, 0, 0⟩)).run device
      { Registers.reset with dbus0 := ⟨true, false, 0x1000, 0x2000⟩ } =
        some ((.kDifOk, some ⟨0x1000, 0x2000, 2⟩),
          { Registers.reset with dbus0 := ⟨true, false, 0x1000, 0x2000⟩ }) := by
    decide
  refine ⟨fun trips => ?_, _, rfl, read⟩
  have back := trips _ rfl
  cases read.symm.trans back

end RvCoreIbex
end SunburstChip
