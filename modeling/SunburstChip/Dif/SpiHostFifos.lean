import SunburstChip.Dif.SpiHostFraming
import SunburstChip.Lib.Interleaving

namespace SunburstChip
namespace SpiHost

open Mmio

/-!
# A bidirectional transaction and the FIFOs of the controller

A bidirectional segment is sent completely before any of what it receives is
read back.  Meanwhile the controller shifts a byte out for every byte it takes
in, and stops when either FIFO gives out.  What software needs to go on is room
in the transmit FIFO, what the controller needs is room in the receive FIFO,
and nothing but the end of the sending makes that.

Here the controller carries its FIFOs.  An access to `TXDATA` takes one entry,
whether it writes a byte or a word, while received bytes are packed into words.
How many entries are left to write once the receive FIFO is full decides
whether the transaction completes.
-/

/-! ## The controller with its FIFOs -/

/-- `SPI_HOST_PARAM_RX_DEPTH` -/
abbrev paramRxDepth : Nat := 64

/-- The controller as it carries out a bidirectional command. -/
structure Fifos where
  csid : BitVec 32
  /-- What is still to shift out of each entry of the transmit FIFO, oldest first. -/
  tx : List (List (BitVec 8))
  /-- The words of the receive FIFO, oldest first. -/
  rx : List (BitVec 32)
  /-- What was received since the last word entered the receive FIFO. -/
  partialWord : List (BitVec 8)
  /-- The bytes that the command has still to move. -/
  remaining : Nat
  deriving DecidableEq

namespace Fifos

/-- Nothing is queued and no command is under way. -/
def idle (csid : BitVec 32) : Fifos := ⟨csid, [], [], [], 0⟩

def status (fifos : Fifos) : BitVec 32 :=
  let reg := bitfieldField32Write 0 statusTxqdField (BitVec.ofNat 32 fifos.tx.length)
  let reg := bitfieldField32Write reg statusRxqdField (BitVec.ofNat 32 fifos.rx.length)
  bitfieldBit32Write reg statusReadyBit (fifos.remaining = 0)

/-- An entry written to a full transmit FIFO is lost. -/
def push (entry : List (BitVec 8)) (fifos : Fifos) : Fifos :=
  if fifos.tx.length < paramTxDepth.toNat then { fifos with tx := fifos.tx ++ [entry] } else fifos

end Fifos

/-- The bytes of a word, in the order in which they are shifted. -/
def bytesOf (word : BitVec 32) : List (BitVec 8) :=
  [word.setWidth 8, (word >>> 8).setWidth 8, (word >>> 16).setWidth 8, (word >>> 24).setWidth 8]

/-- The word that up to four received bytes form. -/
def wordOf (bytes : List (BitVec 8)) : BitVec 32 :=
  (bytes.getD 3 0) ++ (bytes.getD 2 0) ++ (bytes.getD 1 0) ++ (bytes.getD 0 0)

/-- The registers a transaction uses, over the FIFOs. -/
def fifoDevice : Device Fifos where
  read32 offset fifos :=
    match offset with
    | 0x14 => (fifos.status, fifos)
    | 0x24 => (fifos.rx.headD 0, { fifos with rx := fifos.rx.tail })
    | _ => (0, fifos)
  write32 offset value fifos :=
    match offset with
    | 0x1c => { fifos with csid := value }
    | 0x20 => { fifos with remaining := commandLength value }
    | 0x28 => fifos.push (bytesOf value)
    | _ => fifos
  write8 offset value fifos :=
    match offset with
    | 0x28 => fifos.push [value]
    | _ => fifos

namespace Fifos

/-- The entries left after one byte was shifted out of the oldest. -/
def shiftOut : List (List (BitVec 8)) -> List (List (BitVec 8))
  | (_ :: byte :: entry) :: rest => (byte :: entry) :: rest
  | _ :: rest => rest
  | [] => []

/-- One byte is shifted out and another in.  A word enters the receive FIFO
when it is complete, and with the last byte of the command. -/
def shift (received : BitVec 8) (fifos : Fifos) : Fifos :=
  let bytes := fifos.partialWord ++ [received]
  let remaining := fifos.remaining - 1
  if bytes.length = 4 ∨ remaining = 0 then
    { fifos with
      tx := shiftOut fifos.tx, rx := fifos.rx ++ [wordOf bytes], partialWord := [],
      remaining := remaining }
  else
    { fifos with tx := shiftOut fifos.tx, partialWord := bytes, remaining := remaining }

/-- The command has bytes left, there is one to send, and there is room for
what is received. -/
def CanShift (fifos : Fifos) : Prop :=
  0 < fifos.remaining ∧ fifos.tx ≠ [] ∧ fifos.rx.length < paramRxDepth

/-- The controller shifts whenever it can, and stalls otherwise. -/
def Shifts (fifos fifos' : Fifos) : Prop :=
  fifos.CanShift ∧ Exists fun received => fifos' = fifos.shift received

@[simp] theorem remaining_shift (received : BitVec 8) (fifos : Fifos) :
    (fifos.shift received).remaining = fifos.remaining - 1 := by
  unfold shift
  dsimp only
  split <;> rfl

@[simp] theorem tx_shift (received : BitVec 8) (fifos : Fifos) :
    (fifos.shift received).tx = shiftOut fifos.tx := by
  unfold shift
  dsimp only
  split <;> rfl

/-- A command ends after as many bytes as it asked for. -/
theorem shifts_wellFounded : WellFounded (fun fifos' fifos : Fifos => Shifts fifos fifos') := by
  refine Subrelation.wf ?_ (measure Fifos.remaining).wf
  rintro fifos' fifos ⟨⟨more, _⟩, received, rfl⟩
  change (fifos.shift received).remaining < fifos.remaining
  rw [remaining_shift]
  exact Nat.sub_lt more Nat.one_pos

theorem txqd_status {fifos : Fifos} (fits : fifos.tx.length <= 72) :
    (bitfieldField32Read fifos.status statusTxqdField != paramTxDepth) = true ↔
      fifos.tx.length < 72 := by
  have field : bitfieldField32Read fifos.status statusTxqdField =
      BitVec.ofNat 32 fifos.tx.length &&& statusTxqdField.mask := by
    unfold status bitfieldBit32Write
    rw [bitfieldField32Read_write_other (by decide), bitfieldField32Read_write_other (by decide),
      bitfieldField32Read_write_same (by decide)]
  have value : (bitfieldField32Read fifos.status statusTxqdField).toNat = fifos.tx.length := by
    rw [field, toNat_and_mask (show statusTxqdField.mask.toNat = 2 ^ 8 - 1 from rfl),
      BitVec.toNat_ofNat]
    omega
  rw [bne_iff_ne, Ne, <- BitVec.toNat_inj, value]
  change ¬ fifos.tx.length = 72 ↔ _
  omega

theorem rxqd_status {fifos : Fifos} (fits : fifos.rx.length <= 64) :
    (bitfieldField32Read fifos.status statusRxqdField != 0) = true ↔ fifos.rx ≠ [] := by
  have field : bitfieldField32Read fifos.status statusRxqdField =
      BitVec.ofNat 32 fifos.rx.length &&& statusRxqdField.mask := by
    unfold status bitfieldBit32Write
    rw [bitfieldField32Read_write_other (by decide), bitfieldField32Read_write_same (by decide)]
  have value : (bitfieldField32Read fifos.status statusRxqdField).toNat = fifos.rx.length := by
    rw [field, toNat_and_mask (show statusRxqdField.mask.toNat = 2 ^ 8 - 1 from rfl),
      BitVec.toNat_ofNat]
    omega
  rw [bne_iff_ne, Ne, <- BitVec.toNat_inj, value, Ne, <- List.length_eq_zero_iff]
  rfl

end Fifos

/-! ## The entries a buffer takes -/

/-- The sizes of the entries that `writeWords` and `writeBytes` make of a length. -/
def wordSizes : Nat -> List Nat
  | len + 4 => 4 :: wordSizes len
  | len => List.replicate len 1

/-- The sizes of the entries that `dif_spi_host_fifo_write` makes of a buffer. -/
def entrySizes : BitVec 32 -> Nat -> List Nat
  | _, 0 => []
  | ptr, len + 1 =>
      if misalignment32Of ptr ≠ 0 then 1 :: entrySizes (ptr + 1) len else wordSizes (len + 1)

/-- What is left of entries of these sizes after so many bytes were shifted out. -/
def unsent : Nat -> List Nat -> List Nat
  | _, [] => []
  | shifted, size :: sizes =>
      if shifted < size then (size - shifted) :: sizes else unsent (shifted - size) sizes

theorem sum_wordSizes (len : Nat) : (wordSizes len).sum = len := by
  fun_induction wordSizes len with
  | case1 len ih =>
      rw [List.sum_cons, ih]
      exact Nat.add_comm 4 len
  | case2 len => rw [List.sum_replicate_nat, Nat.mul_one]

theorem sum_entrySizes (ptr : BitVec 32) (len : Nat) : (entrySizes ptr len).sum = len := by
  fun_induction entrySizes ptr len with
  | case1 => rfl
  | case2 ptr len misaligned ih =>
      rw [List.sum_cons, ih]
      exact Nat.add_comm 1 len
  | case3 ptr len aligned => exact sum_wordSizes (len + 1)

theorem wordSizes_pos {size len : Nat} (member : size ∈ wordSizes len) : 0 < size := by
  fun_induction wordSizes len with
  | case1 len ih =>
      rcases List.mem_cons.mp member with same | member
      · omega
      · exact ih member
  | case2 len => exact (List.eq_of_mem_replicate member) ▸ Nat.one_pos

theorem entrySizes_pos {size len : Nat} {ptr : BitVec 32} (member : size ∈ entrySizes ptr len) :
    0 < size := by
  fun_induction entrySizes ptr len with
  | case1 => cases member
  | case2 ptr len misaligned ih =>
      rcases List.mem_cons.mp member with same | member
      · omega
      · exact ih member
  | case3 ptr len aligned => exact wordSizes_pos member

theorem unsent_zero {sizes : List Nat} (positive : forall size, size ∈ sizes -> 0 < size) :
    unsent 0 sizes = sizes := by
  cases sizes with
  | nil => rfl
  | cons size sizes =>
      rw [unsent, if_pos (positive size List.mem_cons_self), Nat.sub_zero]

theorem unsent_add (shifted more : Nat) (sizes : List Nat) :
    unsent (shifted + more) sizes = unsent more (unsent shifted sizes) := by
  induction sizes generalizing shifted with
  | nil => rfl
  | cons size sizes ih =>
      by_cases first : shifted < size
      · rw [unsent, unsent, if_pos first, unsent]
        by_cases second : shifted + more < size
        · rw [if_pos second, if_pos (show more < size - shifted by omega)]
          congr 1
          omega
        · rw [if_neg second, if_neg (show ¬ more < size - shifted by omega)]
          congr 1
          omega
      · rw [unsent, unsent, if_neg first, if_neg (show ¬ shifted + more < size by omega)]
        rw [show shifted + more - size = shifted - size + more by omega]
        exact ih (shifted - size)

theorem unsent_append {shifted : Nat} {sizes later : List Nat} (within : shifted <= sizes.sum)
    (positive : forall size, size ∈ later -> 0 < size) :
    unsent shifted (sizes ++ later) = unsent shifted sizes ++ later := by
  induction sizes generalizing shifted with
  | nil =>
      have none : shifted = 0 := Nat.le_zero.mp within
      rw [none]
      exact unsent_zero positive
  | cons size sizes ih =>
      rw [List.sum_cons] at within
      rw [List.cons_append, unsent, unsent]
      by_cases first : shifted < size
      · rw [if_pos first, if_pos first, List.cons_append]
      · rw [if_neg first, if_neg first]
        exact ih (by omega)

theorem unsent_ne_nil {shifted : Nat} {sizes : List Nat} (within : shifted < sizes.sum) :
    unsent shifted sizes ≠ [] := by
  induction sizes generalizing shifted with
  | nil => exact absurd within (Nat.not_lt_zero shifted)
  | cons size sizes ih =>
      rw [List.sum_cons] at within
      rw [unsent]
      by_cases first : shifted < size
      · rw [if_pos first]
        exact List.cons_ne_nil _ _
      · rw [if_neg first]
        exact ih (by omega)

theorem unsent_eq_nil {shifted : Nat} {sizes : List Nat} (all : sizes.sum <= shifted)
    (positive : forall size, size ∈ sizes -> 0 < size) : unsent shifted sizes = [] := by
  induction sizes generalizing shifted with
  | nil => rfl
  | cons size sizes ih =>
      rw [List.sum_cons] at all
      have one := positive size List.mem_cons_self
      rw [unsent, if_neg (show ¬ shifted < size by omega)]
      exact ih (by omega) (fun size' member => positive size' (List.mem_cons_of_mem size member))

theorem length_unsent_le (shifted : Nat) (sizes : List Nat) :
    (unsent shifted sizes).length <= sizes.length := by
  induction sizes generalizing shifted with
  | nil => exact Nat.le_refl 0
  | cons size sizes ih =>
      rw [unsent]
      split
      · exact Nat.le_refl _
      · exact Nat.le_succ_of_le (ih _)

/-- Shifting more never leaves more entries. -/
theorem length_unsent_anti {shifted shifted' : Nat} (less : shifted <= shifted')
    (sizes : List Nat) : (unsent shifted' sizes).length <= (unsent shifted sizes).length := by
  rcases Nat.exists_eq_add_of_le less with ⟨more, rfl⟩
  rw [unsent_add]
  exact length_unsent_le more _

end SpiHost
end SunburstChip
