import Mathlib.Algebra.Group.Nat.Defs
import Mathlib.Data.BitVec
import Mathlib.Data.Nat.Log
import SunburstChip.Lib.Circuit
import SunburstChip.Lib.RingQueue

namespace SunburstChip

/-- `vbits` -/
def vbits (value : Nat) : Nat := if value = 1 then 1 else Nat.clog 2 value

theorem le_two_pow_vbits {value : Nat} : value <= 2 ^ vbits value := by
  unfold vbits
  split
  · omega
  · exact Nat.le_pow_clog (by decide) value

namespace PrimFifoSync

open RingQueue

/-!
# Synchronous queues

`prim_fifo_sync.sv` and `prim_fifo_sync_cnt.sv`, of any depth from one on and without
the hardened counters.  Two pointers run around the storage, each with a bit that
tells how often it has been around.  What the queue does is what a list of at most
as many words does.
-/

/-! ## The circuit -/

/-- The flops of the queue. -/
structure State (depth : Nat) (α : Type) where
  underRst : Bool
  wptrWrapCntQ : BitVec (vbits depth + 1)
  rptrWrapCntQ : BitVec (vbits depth + 1)
  storage : Nat -> α

/-- The inputs of the queue. -/
structure Input (α : Type) where
  clr : Bool
  wvalid : Bool
  wdata : α
  rready : Bool
deriving DecidableEq

/-- The outputs of the queue. -/
@[ext] structure Output (α : Type) where
  wready : Bool
  rvalid : Bool
  rdata : α
  full : Bool
  depth : Nat
deriving DecidableEq

/-- `Pass` and `OutputZeroIfEmpty` -/
structure Options where
  pass : Bool
  outputZeroIfEmpty : Bool
deriving DecidableEq

section

variable {p : Nat} (depth : Nat) (clr incr : Bool) (cnt : BitVec (p + 1))

/-- `wptr_o` or `rptr_o` -/
def ptr : BitVec p := cnt.setWidth p

/-- `wptr_wrap_set` or `rptr_wrap_set` -/
def wrapSet : Bool := incr && (ptr cnt == .ofNat p (depth - 1))

/-- `wptr_wrap_set_cnt` or `rptr_wrap_set_cnt` -/
def wrapSetCnt : BitVec (p + 1) := .cons (!cnt.msb) 0#p

/-- What a pointer takes at an edge. -/
def nextCnt : BitVec (p + 1) :=
  if clr then 0
  else if wrapSet depth incr cnt then wrapSetCnt cnt
  else if incr then cnt + 1
  else cnt

end

section

variable {depth : Nat} {α : Type} [Zero α] (options : Options) (s : State depth α)
  (input : Input α)

/-- `full_o` -/
def full : Bool := s.wptrWrapCntQ == s.rptrWrapCntQ ^^^ .cons true 0#(vbits depth)

/-- `fifo_empty` -/
def fifoEmpty : Bool := s.wptrWrapCntQ == s.rptrWrapCntQ

/-- `depth_o`, whose width is that of `DepthW` -/
def depthO : BitVec (vbits (depth + 1)) :=
  if full s then .ofNat _ depth
  else if s.wptrWrapCntQ.msb == s.rptrWrapCntQ.msb then
    (ptr s.wptrWrapCntQ).setWidth _ - (ptr s.rptrWrapCntQ).setWidth _
  else .ofNat _ depth - (ptr s.rptrWrapCntQ).setWidth _ + (ptr s.wptrWrapCntQ).setWidth _

/-- `empty` -/
def empty : Bool := if options.pass then fifoEmpty s && !input.wvalid else fifoEmpty s

/-- `wready_o` -/
def wready : Bool := !full s && !s.underRst

/-- `rvalid_o` -/
def rvalid : Bool := !empty options s input && !s.underRst

/-- `storage_rdata` -/
def storageRdata : α := s.storage (ptr s.rptrWrapCntQ).toNat

/-- `rdata_int` -/
def rdataInt : α :=
  if options.pass then if fifoEmpty s && input.wvalid then input.wdata else storageRdata s
  else storageRdata s

/-- `rdata_o` -/
def rdata : α :=
  if options.outputZeroIfEmpty then if empty options s input then 0 else rdataInt options s input
  else rdataInt options s input

/-- `fifo_incr_wptr` -/
def incrWptr : Bool := input.wvalid && wready s && !s.underRst

/-- `fifo_incr_rptr` -/
def incrRptr : Bool := rvalid options s input && input.rready && !s.underRst

/-- What is on the outputs. -/
def output : Output α where
  wready := wready s
  rvalid := rvalid options s input
  rdata := rdata options s input
  full := full s
  depth := (depthO s).toNat

/-- `prim_fifo_sync` -/
def fifo (depth : Nat) (α : Type) [Zero α] : Circuit (State depth α) (Input α) where
  -- The storage has no reset: what it holds at first is not read.
  reset := ⟨true, 0, 0, fun _ => 0⟩
  next s input :=
    { underRst := false
      wptrWrapCntQ := nextCnt depth input.clr (incrWptr s input) s.wptrWrapCntQ
      rptrWrapCntQ := nextCnt depth input.clr (incrRptr options s input) s.rptrWrapCntQ
      storage :=
        if incrWptr s input then
          Function.update s.storage (ptr s.wptrWrapCntQ).toNat input.wdata
        else s.storage }

end

/-! ## What the queue is for -/

/-- A list of words, and whether there has been no edge since reset. -/
structure Queue (α : Type) where
  fresh : Bool
  words : List α
deriving DecidableEq

section

variable {α : Type} [Zero α] (depth : Nat) (options : Options) (q : Queue α) (input : Input α)

/-- The words that may be read: a queue that passes words has the one that is being written. -/
def Queue.offered : List α :=
  if options.pass && input.wvalid then q.words ++ [input.wdata] else q.words

/-- There is room for a word. -/
def Queue.ready : Bool := decide (q.words.length < depth) && !q.fresh

/-- There is a word to read. -/
def Queue.valid : Bool := !(q.offered options input).isEmpty && !q.fresh

/-- The words that are written in a cycle. -/
def Queue.written : List α :=
  if input.wvalid && q.ready depth then [input.wdata] else []

/-- The words that are read in a cycle. -/
def Queue.read : List α :=
  if q.valid options input && input.rready then (q.offered options input).take 1 else []

/-- The list after a cycle. -/
def Queue.next : Queue α where
  fresh := false
  words :=
    if input.clr then []
    else (q.words ++ q.written depth input).drop (q.read options input).length

/-- What a queue has on its outputs. -/
def Queue.Shows (out : Output α) : Prop :=
  out.wready = q.ready depth ∧ out.rvalid = q.valid options input ∧
    out.full = decide (q.words.length = depth) ∧ out.depth = q.words.length ∧
    (forall word rest, q.offered options input = word :: rest -> out.rdata = word) ∧
    (options.outputZeroIfEmpty = true -> q.offered options input = [] -> out.rdata = 0)

/-- A list of words as a queue. -/
def queue (α : Type) (depth : Nat) (options : Options) : Circuit (Queue α) (Input α) where
  reset := ⟨true, []⟩
  next q input := q.next depth options input

end

/-! ## Pointers as positions on the ring -/

section

variable {p depth : Nat} {cnt : BitVec (p + 1)}

/-- The position that a pointer stands for. -/
def position (depth : Nat) (cnt : BitVec (p + 1)) : Nat :=
  (if cnt.msb then depth else 0) + (ptr cnt).toNat

/-- A pointer is to an entry of the storage. -/
def InRing (depth : Nat) (cnt : BitVec (p + 1)) : Prop := (ptr cnt).toNat < depth

/-- A pointer is its leading bit and the others. -/
theorem toNat_eq (cnt : BitVec (p + 1)) :
    cnt.toNat = (if cnt.msb then 2 ^ p else 0) + (ptr cnt).toNat := by
  have below := cnt.isLt
  have power : 2 ^ (p + 1) = 2 ^ p + 2 ^ p := by rw [Nat.pow_succ]; omega
  rw [ptr, BitVec.toNat_setWidth, BitVec.msb_eq_decide, Nat.add_sub_cancel]
  by_cases high : 2 ^ p <= cnt.toNat
  · have rest : cnt.toNat % 2 ^ p = cnt.toNat - 2 ^ p := by
      rw [Nat.mod_eq_sub_mod high, Nat.mod_eq_of_lt (by omega)]
    rw [if_pos (decide_eq_true high), rest]
    omega
  · rw [if_neg (by simpa using high), Nat.mod_eq_of_lt (Nat.lt_of_not_le high), Nat.zero_add]

theorem eq_of_parts {cnt' : BitVec (p + 1)} (msb : cnt.msb = cnt'.msb)
    (low : (ptr cnt).toNat = (ptr cnt').toNat) : cnt = cnt' := by
  refine BitVec.eq_of_toNat_eq ?_
  rw [toNat_eq, toNat_eq cnt', msb, low]

theorem msb_cons (flag : Bool) : (BitVec.cons flag 0#p).msb = flag := BitVec.msb_cons

theorem ptr_cons (flag : Bool) : (ptr (BitVec.cons flag 0#p)).toNat = 0 := by
  rw [ptr, BitVec.setWidth_cons]
  rfl

/-- A pointer whose other bits are not the last that fit is counted on. -/
theorem parts_succ (below : (ptr cnt).toNat + 1 < 2 ^ p) :
    (cnt + 1).msb = cnt.msb ∧ (ptr (cnt + 1)).toNat = (ptr cnt).toNat + 1 := by
  have power : 2 ^ (p + 1) = 2 ^ p + 2 ^ p := by rw [Nat.pow_succ]; omega
  have whole := toNat_eq cnt
  have next : (cnt + 1).toNat = cnt.toNat + 1 := by
    have room : cnt.toNat + 1 < 2 ^ (p + 1) := by
      rw [whole]
      split <;> omega
    have one : (1 : BitVec (p + 1)).toNat = 1 := BitVec.toNat_one (Nat.succ_pos p)
    rw [BitVec.toNat_add, one, Nat.mod_eq_of_lt room]
  have whole' := toNat_eq (cnt + 1)
  have low := (ptr (cnt + 1)).isLt
  have same : (cnt + 1).msb = cnt.msb := by
    rw [BitVec.msb_eq_decide, BitVec.msb_eq_decide, next, whole, Nat.add_sub_cancel]
    by_cases high : cnt.msb = true
    · rw [if_pos high, decide_eq_true (by omega), decide_eq_true (by omega)]
    · rw [if_neg high, decide_eq_false (by omega), decide_eq_false (by omega)]
  refine ⟨same, ?_⟩
  rw [next, whole, same] at whole'
  omega

/-- A pointer that is counted on goes to the next position of the ring. -/
theorem nextCnt_incr (fits : depth <= 2 ^ p) (inRing : InRing depth cnt) :
    InRing depth (nextCnt depth false true cnt) ∧
      position depth (nextCnt depth false true cnt) ≡ position depth cnt + 1 [MOD 2 * depth] := by
  unfold InRing at inRing
  have last : (ptr cnt == BitVec.ofNat p (depth - 1)) = true ↔ (ptr cnt).toNat = depth - 1 := by
    rw [beq_iff_eq, <- BitVec.toNat_inj, BitVec.toNat_ofNat, Nat.mod_eq_of_lt (by omega)]
  by_cases atLast : (ptr cnt).toNat = depth - 1
  · have wraps : nextCnt depth false true cnt = wrapSetCnt cnt := by
      simp [nextCnt, wrapSet, last.mpr atLast]
    rw [wraps, wrapSetCnt]
    refine ⟨by rw [InRing, ptr_cons]; omega, ?_⟩
    rw [position, position, msb_cons, ptr_cons, atLast]
    cases cnt.msb
    · have same : 0 + (depth - 1) + 1 = depth + 0 := by omega
      simp only [Bool.not_false, if_true, Bool.false_eq_true, if_false, same]
      exact Nat.ModEq.refl _
    · have same : depth + (depth - 1) + 1 = 2 * depth := by omega
      simp only [Bool.not_true, if_true, Bool.false_eq_true, if_false, same]
      exact (Nat.modEq_zero_iff_dvd.mpr (Nat.dvd_refl _)).symm
  · have counts : nextCnt depth false true cnt = cnt + 1 := by
      simp [nextCnt, wrapSet, mt last.mp atLast]
    rcases @parts_succ p cnt (by omega) with ⟨msb, low⟩
    rw [counts]
    refine ⟨by rw [InRing, low]; omega, ?_⟩
    rw [position, position, msb, low, Nat.add_assoc]

theorem nextCnt_stays : nextCnt depth false false cnt = cnt := by
  simp [nextCnt, wrapSet]

variable {write read : BitVec (p + 1)} {count : Nat}

/-- How many entries there are, by the leading bits and the others. -/
theorem count_eq (ahead : Ahead depth (position depth write) (position depth read) count)
    (most : count <= depth) (writes : InRing depth write) (reads : InRing depth read) :
    (write.msb = read.msb ∧ (ptr write).toNat = (ptr read).toNat + count) ∨
      (write.msb ≠ read.msb ∧ (ptr write).toNat + depth = (ptr read).toNat + count) := by
  unfold InRing at writes reads
  have writeBelow : position depth write < 2 * depth := by
    unfold position
    split <;> omega
  have readBelow : position depth read < 2 * depth := by
    unfold position
    split <;> omega
  have apart : position depth write = position depth read + count ∨
      position depth write + 2 * depth = position depth read + count := by
    by_cases wraps : position depth read + count < 2 * depth
    · exact .inl (Nat.ModEq.eq_of_lt_of_lt ahead writeBelow wraps)
    · refine .inr ?_
      have back : position depth read + count - 2 * depth ≡ position depth read + count
          [MOD 2 * depth] := by
        have total : position depth read + count =
            position depth read + count - 2 * depth + 2 * depth := by omega
        conv_rhs => rw [total]
        exact (Nat.add_mod_right _ _).symm
      have same := Nat.ModEq.eq_of_lt_of_lt (ahead.trans back.symm) writeBelow (by omega)
      omega
  unfold position at apart
  cases msbW : write.msb <;> cases msbR : read.msb <;>
    simp only [msbW, msbR, if_true, if_false, Bool.false_eq_true, ne_eq, not_true_eq_false,
      not_false_eq_true, true_and, false_and, or_false, false_or, reduceCtorEq] at apart ⊢ <;> omega

/-- A pointer with its leading bit inverted. -/
theorem parts_flip (cnt : BitVec (p + 1)) :
    (cnt ^^^ .cons true 0#p).msb = !cnt.msb ∧ ptr (cnt ^^^ .cons true 0#p) = ptr cnt := by
  refine ⟨?_, ?_⟩
  · rw [BitVec.msb_xor, msb_cons, Bool.xor_true]
  · rw [ptr, BitVec.setWidth_xor, BitVec.setWidth_cons]
    exact BitVec.xor_zero

end

/-! ## The queue keeps to the list -/

/-- The pointers and the storage hold a list of words. -/
structure Holds {p : Nat} {α : Type} (depth : Nat) (storage : Nat -> α)
    (write read : BitVec (p + 1)) (words : List α) : Prop where
  writes : InRing depth write
  reads : InRing depth read
  ahead : Ahead depth (position depth write) (position depth read) words.length
  most : words.length <= depth
  stored : words = entries storage depth (ptr read).toNat words.length

section

variable {p depth : Nat} {α : Type} {storage : Nat -> α} {write read : BitVec (p + 1)}
  {words : List α}

theorem position_ptr (cnt : BitVec (p + 1)) : position depth cnt ≡ (ptr cnt).toNat [MOD depth] := by
  unfold position
  split
  · exact Nat.ModEq.trans (Nat.add_mod_left _ _) (Nat.ModEq.refl _)
  · rw [Nat.zero_add]

/-- Where the next word is written. -/
theorem Holds.place (holds : Holds depth storage write read words) :
    (ptr write).toNat = ((ptr read).toNat + words.length) % depth := by
  have writes := holds.writes
  unfold InRing at writes
  rcases count_eq holds.ahead holds.most holds.writes holds.reads with ⟨_, same⟩ | ⟨_, around⟩
  · rw [<- same, Nat.mod_eq_of_lt writes]
  · rw [<- around, Nat.add_mod_right, Nat.mod_eq_of_lt writes]

theorem Holds.push (fits : depth <= 2 ^ p) (holds : Holds depth storage write read words)
    (room : words.length < depth) (word : α) :
    Holds depth (Function.update storage (ptr write).toNat word)
      (nextCnt depth false true write) read (words ++ [word]) := by
  rcases nextCnt_incr fits holds.writes with ⟨inRing, next⟩
  refine ⟨inRing, holds.reads, ?_, ?_, ?_⟩
  · rw [List.length_append]
    exact holds.ahead.push.congr next (Nat.ModEq.refl _)
  · rw [List.length_append]
    exact room
  · rw [List.length_append, List.length_singleton, holds.place, entries_push _ _ room]
    exact congrArg (· ++ [word]) holds.stored

theorem Holds.pop {word : α} (fits : depth <= 2 ^ p)
    (holds : Holds depth storage write read (word :: words)) :
    word = storage (ptr read).toNat ∧
      Holds depth storage write (nextCnt depth false true read) words := by
  rcases nextCnt_incr fits holds.reads with ⟨inRing, next⟩
  have stored := holds.stored
  rw [List.length_cons, entries_succ, List.cons.injEq, Nat.mod_eq_of_lt holds.reads] at stored
  refine ⟨stored.1, holds.writes, inRing, ?_, Nat.le_of_succ_le holds.most, ?_⟩
  · exact Ahead.congr holds.ahead (Nat.ModEq.refl _) (Nat.ModEq.refl _) |>.pop.congr
      (Nat.ModEq.refl _) next
  · have place : (ptr read).toNat + 1 ≡ (ptr (nextCnt depth false true read)).toNat
        [MOD depth] := by
      have around := (Nat.ModEq.of_mul_left 2 next).symm
      exact ((position_ptr read).symm.add_right 1).trans (around.trans (position_ptr _))
    rw [<- entries_congr place]
    exact stored.2

theorem Holds.empty (inside : 0 < depth) (storage : Nat -> α) :
    Holds depth storage (0 : BitVec (p + 1)) 0 [] := by
  have zero : (ptr (0 : BitVec (p + 1))).toNat = 0 := by simp [ptr]
  refine ⟨by rw [InRing, zero]; exact inside, by rw [InRing, zero]; exact inside, ?_,
    Nat.zero_le _, rfl⟩
  exact Nat.ModEq.refl _

end

section

variable {depth : Nat} {α : Type} {options : Options} {s : State depth α} {q : Queue α}

/-- The flops of the queue hold a list. -/
structure Related (s : State depth α) (q : Queue α) : Prop where
  fresh : s.underRst = q.fresh
  holds : Holds depth s.storage s.wptrWrapCntQ s.rptrWrapCntQ q.words

theorem full_eq (related : Related s q) :
    full s = decide (q.words.length = depth) := by
  rcases parts_flip s.rptrWrapCntQ with ⟨msb, low⟩
  have reads := related.holds.reads
  have writes := related.holds.writes
  unfold InRing at reads writes
  refine (Bool.decide_congr (p := s.wptrWrapCntQ = s.rptrWrapCntQ ^^^ .cons true 0#(vbits depth))
    ⟨fun same => ?_, fun same => ?_⟩)
  · rcases count_eq related.holds.ahead related.holds.most related.holds.writes
      related.holds.reads with ⟨flag, _⟩ | ⟨_, around⟩
    · rw [same, msb] at flag
      exact absurd flag (by cases s.rptrWrapCntQ.msb <;> decide)
    · rw [same, low] at around
      omega
  · rcases count_eq related.holds.ahead related.holds.most related.holds.writes
      related.holds.reads with ⟨_, total⟩ | ⟨flag, around⟩
    · omega
    · refine eq_of_parts ?_ ?_
      · rw [msb]
        exact Bool.eq_not_of_ne flag
      · rw [low]
        omega

theorem fifoEmpty_eq (related : Related s q) : fifoEmpty s = q.words.isEmpty := by
  have reads := related.holds.reads
  have writes := related.holds.writes
  unfold InRing at reads writes
  have lengths : q.words.isEmpty = decide (q.words.length = 0) := by
    cases q.words <;> rfl
  rw [lengths]
  refine (Bool.decide_congr (p := s.wptrWrapCntQ = s.rptrWrapCntQ)
    ⟨fun same => ?_, fun same => ?_⟩)
  · rcases count_eq related.holds.ahead related.holds.most related.holds.writes
      related.holds.reads with ⟨_, total⟩ | ⟨flag, _⟩
    · rw [same] at total
      omega
    · exact absurd (congrArg BitVec.msb same) flag
  · rcases count_eq related.holds.ahead related.holds.most related.holds.writes
      related.holds.reads with ⟨flag, total⟩ | ⟨_, around⟩
    · exact eq_of_parts flag (by omega)
    · omega

theorem depthO_eq (related : Related s q) : (depthO s).toNat = q.words.length := by
  have reads := related.holds.reads
  have writes := related.holds.writes
  have most := related.holds.most
  unfold InRing at reads writes
  have room : depth < 2 ^ vbits (depth + 1) := le_two_pow_vbits
  have small {n : Nat} (below : n <= depth) : n % 2 ^ vbits (depth + 1) = n :=
    Nat.mod_eq_of_lt (Nat.lt_of_le_of_lt below room)
  unfold depthO
  rw [full_eq related]
  by_cases isFull : q.words.length = depth
  · rw [if_pos (decide_eq_true isFull), BitVec.toNat_ofNat, small (Nat.le_refl _), isFull]
  · rw [if_neg (by simpa using isFull)]
    rcases count_eq related.holds.ahead related.holds.most related.holds.writes
      related.holds.reads with ⟨flag, total⟩ | ⟨flag, around⟩
    · rw [if_pos (by simpa using flag), BitVec.toNat_sub, BitVec.toNat_setWidth,
        BitVec.toNat_setWidth, small (Nat.le_of_lt reads), small (Nat.le_of_lt writes)]
      have whole : 2 ^ vbits (depth + 1) - (ptr s.rptrWrapCntQ).toNat +
          (ptr s.wptrWrapCntQ).toNat = q.words.length + 2 ^ vbits (depth + 1) := by omega
      rw [whole, Nat.add_mod_right, small most]
    · rw [if_neg (by simpa using flag), BitVec.toNat_add, BitVec.toNat_sub, BitVec.toNat_setWidth,
        BitVec.toNat_setWidth, BitVec.toNat_ofNat, small (Nat.le_of_lt reads),
        small (Nat.le_of_lt writes), small (Nat.le_refl _)]
      have whole : 2 ^ vbits (depth + 1) - (ptr s.rptrWrapCntQ).toNat + depth =
          depth - (ptr s.rptrWrapCntQ).toNat + 2 ^ vbits (depth + 1) := by omega
      have below : depth - (ptr s.rptrWrapCntQ).toNat + (ptr s.wptrWrapCntQ).toNat <= depth := by
        omega
      rw [whole, Nat.add_mod_right, small (Nat.sub_le _ _), small below]
      omega

theorem wready_eq (related : Related s q) : wready s = q.ready depth := by
  have most := related.holds.most
  rw [wready, full_eq related, related.fresh, Queue.ready]
  refine congrArg (· && !q.fresh) ?_
  by_cases isFull : q.words.length = depth
  · simp [isFull]
  · have below : q.words.length < depth := by omega
    simp [isFull, below]

theorem empty_eq (related : Related s q) (input : Input α) :
    empty options s input = (q.offered options input).isEmpty := by
  rw [empty, fifoEmpty_eq related, Queue.offered]
  cases options.pass <;> cases input.wvalid <;> simp

theorem rvalid_eq (related : Related s q) (input : Input α) :
    rvalid options s input = q.valid options input := by
  rw [rvalid, empty_eq related, related.fresh]
  rfl

theorem incrWptr_eq (related : Related s q) (input : Input α) :
    incrWptr s input = (input.wvalid && q.ready depth) := by
  rw [incrWptr, wready_eq related, related.fresh, Queue.ready]
  cases q.fresh <;> simp

theorem incrRptr_eq (related : Related s q) (input : Input α) :
    incrRptr options s input = (q.valid options input && input.rready) := by
  rw [incrRptr, rvalid_eq related, related.fresh, Queue.valid]
  cases q.fresh <;> simp

/-- What may be read is held when it has been written, if it had to be. -/
theorem offered_written (positive : 0 < depth) (q : Queue α) (input : Input α)
    (valid : q.valid options input = true) :
    Exists fun word => Exists fun rest => q.words ++ q.written depth input = word :: rest ∧
      q.read options input = if input.rready then [word] else [] := by
  have reads {word : α} {rest : List α}
      (offered : q.offered options input = word :: rest) :
      q.read options input = if input.rready then [word] else [] := by
    rw [Queue.read, valid, Bool.true_and, offered]
    rfl
  rw [Queue.valid, Bool.and_eq_true, Bool.not_eq_true', Bool.not_eq_true'] at valid
  rcases words : q.words with _ | ⟨first, others⟩
  · rcases valid with ⟨some, awake⟩
    rw [Queue.offered, words] at some
    have passing : (options.pass && input.wvalid) = true := by
      by_contra not
      rw [if_neg not] at some
      exact absurd some (by simp)
    have offered : q.offered options input = [input.wdata] := by
      rw [Queue.offered, words, if_pos passing]
      rfl
    rw [Bool.and_eq_true] at passing
    have written : q.written depth input = [input.wdata] := by
      rw [Queue.written, Queue.ready, words, passing.2, awake]
      simp [positive]
    exact ⟨input.wdata, [], by rw [written]; rfl, reads offered⟩
  · have offered : Exists fun rest => q.offered options input = first :: rest := by
      rw [Queue.offered, words]
      split
      · exact ⟨others ++ [input.wdata], rfl⟩
      · exact ⟨others, rfl⟩
    rcases offered with ⟨rest, offered⟩
    exact ⟨first, others ++ q.written depth input, rfl, reads offered⟩

variable [Zero α]

/-- What is read is the first word that is offered. -/
theorem rdata_eq (related : Related s q) {input : Input α} {word : α}
    {rest : List α} (offered : q.offered options input = word :: rest) :
    rdata options s input = word := by
  have found : rdataInt options s input = word := by
    rw [rdataInt, fifoEmpty_eq related]
    rcases words : q.words with _ | ⟨first, others⟩
    · rw [Queue.offered, words] at offered
      cases pass : options.pass <;> cases valid : input.wvalid <;>
        simp [pass, valid] at offered ⊢
      exact offered.1
    · have same : first = word := by
        rw [Queue.offered, words] at offered
        split at offered
        · exact (List.cons.inj offered).1
        · exact (List.cons.inj offered).1
      have holds := related.holds
      rw [words] at holds
      have stored := (holds.pop le_two_pow_vbits).1
      have here : storageRdata s = word := stored.symm.trans same
      simp [here]
  rw [rdata, empty_eq related, offered, found]
  simp

theorem shows_of_related (related : Related s q) (input : Input α) :
    q.Shows depth options input (output options s input) := by
  refine ⟨wready_eq related, rvalid_eq related input, full_eq related, depthO_eq related, ?_, ?_⟩
  · exact fun word rest offered => rdata_eq related offered
  · intro zero none
    change rdata options s input = 0
    rw [rdata, empty_eq related, none, zero]
    rfl

/-- The word that is written is held behind the others. -/
theorem holds_written (related : Related s q) (input : Input α) :
    Holds depth ((fifo options depth α).next s input).storage
      (nextCnt depth false (incrWptr s input) s.wptrWrapCntQ) s.rptrWrapCntQ
      (q.words ++ q.written depth input) := by
  have storage : ((fifo options depth α).next s input).storage =
      if incrWptr s input then Function.update s.storage (ptr s.wptrWrapCntQ).toNat input.wdata
      else s.storage := rfl
  rw [storage, incrWptr_eq related, Queue.written]
  by_cases writes : (input.wvalid && q.ready depth) = true
  · rw [writes, if_pos rfl, if_pos rfl]
    rw [Bool.and_eq_true, Queue.ready, Bool.and_eq_true, decide_eq_true_eq] at writes
    exact related.holds.push le_two_pow_vbits writes.2.1 input.wdata
  · rw [Bool.not_eq_true] at writes
    rw [writes, if_neg Bool.false_ne_true, if_neg Bool.false_ne_true, nextCnt_stays,
      List.append_nil]
    exact related.holds

theorem related_next (positive : 0 < depth) (related : Related s q) (input : Input α) :
    Related ((fifo options depth α).next s input) (q.next depth options input) := by
  refine ⟨rfl, ?_⟩
  have write : ((fifo options depth α).next s input).wptrWrapCntQ =
      nextCnt depth input.clr (incrWptr s input) s.wptrWrapCntQ := rfl
  have read : ((fifo options depth α).next s input).rptrWrapCntQ =
      nextCnt depth input.clr (incrRptr options s input) s.rptrWrapCntQ := rfl
  rw [write, read, Queue.next]
  cases input.clr
  · have written := @holds_written _ _ options _ _ _ related input
    rw [if_neg Bool.false_ne_true, incrRptr_eq related]
    by_cases reads : (q.valid options input && input.rready) = true
    · rw [reads]
      rw [Bool.and_eq_true] at reads
      rcases offered_written positive q input reads.1 with ⟨word, rest, words, read⟩
      rw [words] at written ⊢
      rw [read, reads.2]
      exact (written.pop le_two_pow_vbits).2
    · rw [Bool.not_eq_true] at reads
      have none : q.read options input = [] := by
        rw [Queue.read, reads]
        rfl
      rw [reads, nextCnt_stays, none]
      exact written
  · exact Holds.empty positive _

/-- In every run the flops hold the list that the words of the run make. -/
theorem related_state (positive : 0 < depth) (inputs : Nat -> Input α) (t : Nat) :
    Related ((fifo options depth α).state inputs t)
      ((queue α depth options).state inputs t) := by
  induction t with
  | zero => exact ⟨rfl, Holds.empty positive _⟩
  | succ t ih => exact related_next positive ih (inputs t)

/-- In every run, and whatever its depth and its options `Pass` and `OutputZeroIfEmpty`, the queue
has on its outputs in each cycle what the list has that the words of the run make. -/
theorem fifo_refines (positive : 0 < depth) (inputs : Nat -> Input α) (t : Nat) :
    ((queue α depth options).state inputs t).Shows depth options (inputs t)
      (output options ((fifo options depth α).state inputs t) (inputs t)) :=
  shows_of_related (related_state positive inputs t) (inputs t)

/-- A word is written in every cycle, and none is read. -/
def filling (t : Nat) : Input (BitVec 8) := ⟨false, true, .ofNat 8 t, false⟩

theorem fifo_refines_filling :
    (output ⟨false, true⟩ ((fifo ⟨false, true⟩ 4 (BitVec 8)).state filling 6) (filling 6)).depth = 4 := by
  have shows := @fifo_refines 4 (BitVec 8) ⟨false, true⟩ _ (by decide) filling 6
  exact shows.2.2.2.1.trans (by decide)

end

end PrimFifoSync
end SunburstChip
