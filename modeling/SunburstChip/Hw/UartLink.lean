import SunburstChip.Hw.UartRx
import SunburstChip.Lib.Ticks

namespace SunburstChip
namespace UartLink

/-!
# Bytes over a line

A transmitter and a receiver on a line that passes each level on after some cycles.
Each has its own ticks.  As long as the line is not too slow, and the ticks do not
drift apart too far while a byte goes over, the bytes that the transmitter takes are
the bytes that the receiver gives, in their order and without an error.
-/

/-- A transmitter that is offered bytes, a line, and a receiver. -/
structure Link where
  parityEnable : Bool
  parityOdd : Bool
  txTicks : Nat -> Bool
  rxTicks : Nat -> Bool
  delay : Nat
  offers : Nat -> Option (BitVec 8)
  txStart : UartTx.State
  rxStart : UartRx.State

namespace Link

variable (link : Link)

/-- What the transmitter is given in a cycle. -/
def txInput (s : UartTx.State) (t : Nat) : UartTx.Input where
  txEnable := true
  tickBaudX16 := link.txTicks t
  parityEnable := link.parityEnable
  wr := s.bitCntQ == 0 && (link.offers t).isSome
  wrParity := xorReduce ((link.offers t).getD 0) ^^ link.parityOdd
  wrData := (link.offers t).getD 0

/-- The transmitter in a cycle. -/
def tx : Nat -> UartTx.State
  | 0 => link.txStart
  | t + 1 => UartTx.transmitter.next (tx t) (link.txInput (tx t) t)

/-- The level at the receiver's end of the line. -/
def level (t : Nat) : Bool := if t < link.delay then true else (link.tx (t - link.delay)).txQ

/-- What the receiver is given in a cycle. -/
def rxInput (t : Nat) : UartRx.Input where
  rxEnable := true
  tickBaudX16 := link.rxTicks t
  parityEnable := link.parityEnable
  parityOdd := link.parityOdd
  rx := link.level t

/-- The receiver in a cycle. -/
def rx : Nat -> UartRx.State
  | 0 => link.rxStart
  | t + 1 => UartRx.receiver.next (rx t) (link.rxInput t)

/-- The byte that the transmitter takes in a cycle. -/
def takes (t : Nat) : List (BitVec 8) :=
  if (link.tx t).bitCntQ == 0 then (link.offers t).toList else []

/-- The byte that the receiver gives in a cycle, with its errors. -/
def gives (t : Nat) : List (BitVec 8 × Bool × Bool) :=
  if (link.rx t).rxValidQ then
    [(UartRx.rxData (link.rx t) link.parityEnable, UartRx.frameErr (link.rx t),
      UartRx.rxParityErr (link.rx t) link.parityEnable link.parityOdd)]
  else []

/-! ## What goes over the line -/

/-- How many bits go over the line for a byte. -/
def total : Nat := if link.parityEnable then 11 else 10

/-- The bits of a byte. -/
def frame (byte : BitVec 8) : BitVec 11 :=
  UartTx.frame link.parityEnable (xorReduce byte ^^ link.parityOdd) byte

/-- The level of the line after some bits of a byte have been put on it. -/
def bitOf (byte : BitVec 8) (k : Nat) : Bool :=
  if k = 0 then true else (link.frame byte).getLsbD (k - 1)

variable {link} {byte : BitVec 8} {t : Nat}

theorem total_le : link.total <= 11 := by
  unfold total
  split <;> decide

theorem total_pos : 10 <= link.total := by
  unfold total
  split <;> decide

theorem bits_toNat : (UartTx.bits link.parityEnable).toNat = link.total := by
  unfold UartTx.bits total
  cases link.parityEnable <;> rfl

/-- The bits of a frame: a low one, those of the byte, the parity if there is one, a high one. -/
theorem frame_getLsbD (i : Nat) (inside : i < 11) :
    (link.frame byte).getLsbD i =
      if i = 0 then false
      else if i < 9 then byte.getLsbD (i - 1)
      else if i = 9 ∧ link.parityEnable = true then xorReduce byte ^^ link.parityOdd
      else true := by
  unfold frame UartTx.frame
  rw [BitVec.getLsbD_append, BitVec.getLsbD_append, BitVec.getLsbD_append]
  by_cases first : i = 0
  · rw [if_pos first, first]
    rfl
  · rw [if_neg first, if_neg (show ¬ i < 1 by omega)]
    by_cases data : i < 9
    · rw [if_pos data, if_pos (show i - 1 < 8 by omega)]
    · rw [if_neg data, if_neg (show ¬ i - 1 < 8 by omega)]
      by_cases nine : i = 9
      · rw [nine]
        cases link.parityEnable <;> simp
      · have ten : i = 10 := by omega
        rw [ten]
        simp

theorem bitOf_first : link.bitOf byte 1 = false := frame_getLsbD 0 (by decide)

theorem bitOf_last : link.bitOf byte link.total = true := by
  have pos := @total_pos link
  rw [bitOf, if_neg (by omega), frame_getLsbD _ (by have := @total_le link; omega)]
  unfold total
  cases link.parityEnable <;> simp

/-! ## The transmitter -/

/-- What the shift register and its counter take, and the level of the line. -/
theorem tx_succ (link : Link) (t : Nat) :
    ((link.tx (t + 1)).bitCntQ, (link.tx (t + 1)).sregQ, (link.tx (t + 1)).txQ) =
      UartTx.shift (link.tx t) (link.txInput (link.tx t) t) := rfl

/-- The transmitter has put `k` bits of a byte on the line, and has the others. -/
structure TxAt (link : Link) (byte : BitVec 8) (k t : Nat) : Prop where
  inside : k <= link.total
  count : (link.tx t).bitCntQ.toNat = link.total - k
  left : forall i, i < 11 ->
    (link.tx t).sregQ.getLsbD i = if i + k < 11 then (link.frame byte).getLsbD (i + k) else true

theorem pred_toNat {x : BitVec 4} (positive : 0 < x.toNat) : (x - 1).toNat = x.toNat - 1 := by
  have below := x.isLt
  rw [BitVec.toNat_sub]
  change (2 ^ 4 - 1 + x.toNat) % 2 ^ 4 = _
  have whole : 2 ^ 4 - 1 + x.toNat = x.toNat - 1 + 2 ^ 4 := by omega
  rw [whole, Nat.add_mod_right, Nat.mod_eq_of_lt (by omega)]

theorem zero_iff {x : BitVec 4} : (x == 0) = true ↔ x.toNat = 0 := by
  rw [beq_iff_eq, <- BitVec.toNat_inj]
  exact Iff.rfl

/-- The shift register moves on by one bit. -/
theorem shifted_getLsbD (flag : Bool) (x : BitVec 11) {i : Nat} (inside : i < 11) :
    (BitVec.ofBool flag ++ x.extractLsb' 1 10).getLsbD i =
      if i < 10 then x.getLsbD (i + 1) else flag := by
  rw [BitVec.getLsbD_append]
  by_cases low : i < 10
  · rw [if_pos low, if_pos low, BitVec.getLsbD_extractLsb', decide_eq_true low, Nat.add_comm 1 i]
    rfl
  · have last : i = 10 := by omega
    rw [if_neg low, if_neg low, last]
    cases flag <;> rfl

/-- A byte is taken. -/
theorem tx_takes (idle : (link.tx t).bitCntQ.toNat = 0) (offered : link.offers t = some byte) :
    link.takes t = [byte] ∧ TxAt link byte 0 (t + 1) ∧
      (link.tx (t + 1)).txQ = (link.tx t).txQ := by
  have zero : ((link.tx t).bitCntQ == 0) = true := zero_iff.mpr idle
  have shift : UartTx.shift (link.tx t) (link.txInput (link.tx t) t) =
      (UartTx.bits link.parityEnable, link.frame byte, (link.tx t).txQ) := by
    unfold UartTx.shift txInput
    simp only [zero, offered, Bool.not_true, Bool.false_eq_true, if_false, Option.isSome_some,
      Bool.and_true, if_true]
    rfl
  have next := tx_succ link t
  rw [shift, Prod.mk.injEq, Prod.mk.injEq] at next
  rcases next with ⟨count, sreg, txQ⟩
  refine ⟨?_, ⟨Nat.zero_le _, ?_, ?_⟩, ?_⟩
  · rw [takes, zero, offered]
    rfl
  · rw [count]
    exact bits_toNat
  · intro i inside
    rw [sreg, Nat.add_zero, if_pos inside]
  · exact txQ

/-- The next bit is put on the line. -/
theorem tx_shifts {k : Nat} (tick : (link.tx t).tickBaudQ = true) (held : TxAt link byte k t)
    (more : k < link.total) :
    link.takes t = [] ∧ TxAt link byte (k + 1) (t + 1) ∧
      (link.tx (t + 1)).txQ = link.bitOf byte (k + 1) := by
  have busy : ((link.tx t).bitCntQ == 0) = false := by
    rw [Bool.eq_false_iff]
    intro zero
    have none := zero_iff.mp zero
    rw [held.count] at none
    omega
  have most := @total_le link
  have shift : UartTx.shift (link.tx t) (link.txInput (link.tx t) t) =
      ((link.tx t).bitCntQ - 1, BitVec.ofBool true ++ (link.tx t).sregQ.extractLsb' 1 10,
        (link.tx t).sregQ.getLsbD 0) := by
    unfold UartTx.shift txInput
    simp only [busy, Bool.false_and, tick, bne, Bool.not_false, Bool.not_true, Bool.and_true,
      Bool.false_eq_true, if_false, if_true]
    rfl
  have next := tx_succ link t
  rw [shift, Prod.mk.injEq, Prod.mk.injEq] at next
  rcases next with ⟨count, sreg, txQ⟩
  refine ⟨?_, ⟨more, ?_, ?_⟩, ?_⟩
  · rw [takes, busy]
    rfl
  · rw [count, pred_toNat (by rw [held.count]; omega), held.count]
    omega
  · intro i inside
    rw [sreg, shifted_getLsbD _ _ inside]
    by_cases low : i < 10
    · have step : i + 1 + k = i + (k + 1) := by omega
      rw [if_pos low, held.left (i + 1) (by omega), step]
    · rw [if_neg low, if_neg (by omega)]
  · rw [txQ, held.left 0 (by decide), Nat.zero_add, if_pos (by omega), bitOf, if_neg (by omega),
      Nat.add_sub_cancel]

/-- Nothing is taken and no bit is put on the line. -/
theorem tx_holds (quiet : link.takes t = [])
    (same : (link.tx t).tickBaudQ = false ∨ (link.tx t).bitCntQ.toNat = 0) :
    (link.tx (t + 1)).bitCntQ = (link.tx t).bitCntQ ∧
      (link.tx (t + 1)).sregQ = (link.tx t).sregQ ∧ (link.tx (t + 1)).txQ = (link.tx t).txQ := by
  have unwritten : ((link.tx t).bitCntQ == 0 && (link.offers t).isSome) = false := by
    rw [takes] at quiet
    rcases idle : ((link.tx t).bitCntQ == 0) with _ | _
    · rfl
    · rw [idle, if_pos rfl] at quiet
      rcases offered : link.offers t with _ | byte
      · rfl
      · rw [offered] at quiet
        exact absurd quiet (by simp)
  have still : ((link.tx t).tickBaudQ && (link.tx t).bitCntQ != 0) = false := by
    rcases same with none | zero
    · rw [none]
      rfl
    · rw [bne, zero_iff.mpr zero]
      simp
  have shift : UartTx.shift (link.tx t) (link.txInput (link.tx t) t) =
      ((link.tx t).bitCntQ, (link.tx t).sregQ, (link.tx t).txQ) := by
    unfold UartTx.shift txInput
    simp only [unwritten, still, Bool.not_true, Bool.false_eq_true, if_false]
  have next := tx_succ link t
  rw [shift, Prod.mk.injEq, Prod.mk.injEq] at next
  rcases next with ⟨count, sreg, txQ⟩
  exact ⟨count, sreg, txQ⟩

theorem TxAt.hold {k : Nat} (held : TxAt link byte k t) (quiet : link.takes t = [])
    (same : (link.tx t).tickBaudQ = false ∨ (link.tx t).bitCntQ.toNat = 0) :
    TxAt link byte k (t + 1) := by
  rcases tx_holds quiet same with ⟨count, sreg, _⟩
  exact ⟨held.inside, by rw [count]; exact held.count, by rw [sreg]; exact held.left⟩

/-! ## The receiver -/

/-- The receiver has found `j` bits of a byte, and looks for the others. -/
structure RxAt (link : Link) (byte : BitVec 8) (j t : Nat) : Prop where
  busy : (link.rx t).idleQ = false
  inside : j < link.total
  count : (link.rx t).bitCntQ.toNat = link.total - j
  found : forall i, i < 11 ->
    (link.rx t).sregQ.getLsbD i =
      if 11 <= i + j then (link.frame byte).getLsbD (i + j - 11) else false

/-- The receiver waits for a byte. -/
structure RxIdle (link : Link) (t : Nat) : Prop where
  idle : (link.rx t).idleQ = true
  count : (link.rx t).bitCntQ.toNat = 0

theorem rx_succ (link : Link) (t : Nat) :
    link.rx (t + 1) =
      { UartRx.sample (link.rx t) (link.rxInput t) with
        rxValidQ := (link.rx t).tickBaudQ && (link.rx t).bitCntQ == 1 } := rfl

theorem gives_of_invalid (invalid : (link.rx t).rxValidQ = false) : link.gives t = [] := by
  rw [gives, invalid]
  rfl

theorem one_iff {x : BitVec 4} : (x == 1) = true ↔ x.toNat = 1 := by
  rw [beq_iff_eq, <- BitVec.toNat_inj]
  exact Iff.rfl

theorem bits_iff {x : BitVec 4} :
    (x == UartTx.bits link.parityEnable) = true ↔ x.toNat = link.total := by
  rw [beq_iff_eq, <- BitVec.toNat_inj, bits_toNat]

theorem invalid_of_count (more : (link.rx t).bitCntQ.toNat ≠ 1) :
    (link.rx (t + 1)).rxValidQ = false := by
  change ((link.rx t).tickBaudQ && (link.rx t).bitCntQ == 1) = false
  rw [Bool.eq_false_iff.mpr (mt one_iff.mp more), Bool.and_false]

/-- A receiver that waits goes on waiting while the line is high. -/
theorem rx_waits (waits : RxIdle link t) (high : link.level t = true) :
    RxIdle link (t + 1) ∧ link.gives (t + 1) = [] := by
  have count := waits.count
  have sample : UartRx.sample (link.rx t) (link.rxInput t) =
      ⟨(link.rx t).rxValidQ, (link.rx t).sregQ, (link.rx t).bitCntQ,
        (baudNext (link.rxTicks t) (link.rx t).baudDivQ).2,
        (baudNext (link.rxTicks t) (link.rx t).baudDivQ).1, (link.rx t).idleQ⟩ := by
    unfold UartRx.sample rxInput
    simp only [waits.idle, high, Bool.not_true, Bool.and_false, Bool.false_and, Bool.false_eq_true,
      if_false]
  refine ⟨⟨?_, ?_⟩, gives_of_invalid (invalid_of_count (by omega))⟩
  · rw [rx_succ, sample]
    exact waits.idle
  · rw [rx_succ, sample]
    exact waits.count

/-- A line that is low begins a byte: the receiver is in the middle of the first bit when eight more
ticks have come. -/
theorem rx_begins (waits : RxIdle link t) (low : link.level t = false) (byte : BitVec 8) :
    RxAt link byte 0 (t + 1) ∧ link.gives (t + 1) = [] ∧
      (link.rx (t + 1)).baudDivQ = 8 ∧ (link.rx (t + 1)).tickBaudQ = false := by
  have count := waits.count
  have pos := @total_pos link
  have sample : UartRx.sample (link.rx t) (link.rxInput t) =
      ⟨(link.rx t).rxValidQ, 0, UartTx.bits link.parityEnable, 8, false, false⟩ := by
    unfold UartRx.sample rxInput
    simp only [waits.idle, low, Bool.not_true, Bool.not_false, Bool.and_true, Bool.false_eq_true,
      if_false, if_true]
  refine ⟨⟨?_, by omega, ?_, ?_⟩, gives_of_invalid (invalid_of_count (by omega)), ?_, ?_⟩
  · rw [rx_succ, sample]
  · rw [rx_succ, sample]
    exact bits_toNat
  · intro i inside
    rw [rx_succ, sample, if_neg (by omega)]
    exact BitVec.getLsbD_zero
  · rw [rx_succ, sample]
  · rw [rx_succ, sample]

/-- Between the middles of two bits the receiver counts ticks. -/
theorem rx_holds {j : Nat} (held : RxAt link byte j t) (between : (link.rx t).tickBaudQ = false) :
    RxAt link byte j (t + 1) ∧ link.gives (t + 1) = [] ∧
      ((link.rx (t + 1)).tickBaudQ, (link.rx (t + 1)).baudDivQ) =
        baudNext (link.rxTicks t) (link.rx t).baudDivQ := by
  have sample : UartRx.sample (link.rx t) (link.rxInput t) =
      ⟨(link.rx t).rxValidQ, (link.rx t).sregQ, (link.rx t).bitCntQ,
        (baudNext (link.rxTicks t) (link.rx t).baudDivQ).2,
        (baudNext (link.rxTicks t) (link.rx t).baudDivQ).1, (link.rx t).idleQ⟩ := by
    unfold UartRx.sample rxInput
    simp only [held.busy, between, Bool.not_true, Bool.and_false, Bool.false_and,
      Bool.false_eq_true, if_false]
  have invalid : (link.rx (t + 1)).rxValidQ = false := by
    change ((link.rx t).tickBaudQ && _) = false
    rw [between, Bool.false_and]
  refine ⟨⟨?_, held.inside, ?_, ?_⟩, gives_of_invalid invalid, ?_⟩
  · rw [rx_succ, sample]
    exact held.busy
  · rw [rx_succ, sample]
    exact held.count
  · rw [rx_succ, sample]
    exact held.found
  · rw [rx_succ, sample]

/-- What the receiver makes of the line in the middle of a bit. -/
theorem sample_bit {j : Nat} (held : RxAt link byte j t) (middle : (link.rx t).tickBaudQ = true)
    (right : link.level t = link.bitOf byte (j + 1)) :
    UartRx.sample (link.rx t) (link.rxInput t) =
      ⟨(link.rx t).rxValidQ,
        BitVec.ofBool ((link.frame byte).getLsbD j) ++ (link.rx t).sregQ.extractLsb' 1 10,
        (link.rx t).bitCntQ - 1, (baudNext (link.rxTicks t) (link.rx t).baudDivQ).2,
        (baudNext (link.rxTicks t) (link.rx t).baudDivQ).1, (link.rx t).bitCntQ == 1⟩ := by
  have bit : link.level t = (link.frame byte).getLsbD j := right
  have noGlitch : ((link.rx t).bitCntQ == UartTx.bits link.parityEnable && link.level t) = false := by
    by_cases first : j = 0
    · rw [bit, first, frame_getLsbD 0 (by decide)]
      exact Bool.and_false _
    · have inside := held.inside
      have other : ¬ (link.rx t).bitCntQ.toNat = link.total := by
        rw [held.count]
        omega
      rw [Bool.eq_false_iff.mpr (mt bits_iff.mp other), Bool.false_and]
  unfold UartRx.sample rxInput
  simp only [held.busy, middle, noGlitch, Bool.not_true, Bool.not_false, Bool.and_true,
    Bool.false_and, Bool.false_eq_true, if_false, if_true]
  rw [bit]

theorem found_next {j : Nat} (held : RxAt link byte j t) {i : Nat} (inside : i < 11) :
    (BitVec.ofBool ((link.frame byte).getLsbD j) ++
        (link.rx t).sregQ.extractLsb' 1 10).getLsbD i =
      if 11 <= i + (j + 1) then (link.frame byte).getLsbD (i + (j + 1) - 11) else false := by
  rw [shifted_getLsbD _ _ inside]
  by_cases low : i < 10
  · have step : i + 1 + j = i + (j + 1) := by omega
    rw [if_pos low, held.found (i + 1) (by omega), step]
  · have last : i + (j + 1) - 11 = j := by omega
    rw [if_neg low, if_pos (by omega), last]

/-- In the middle of a bit that is not the last one, the receiver takes it. -/
theorem rx_takes {j : Nat} (held : RxAt link byte j t) (middle : (link.rx t).tickBaudQ = true)
    (right : link.level t = link.bitOf byte (j + 1)) (more : j + 1 < link.total) :
    RxAt link byte (j + 1) (t + 1) ∧ link.gives (t + 1) = [] ∧
      ((link.rx (t + 1)).tickBaudQ, (link.rx (t + 1)).baudDivQ) =
        baudNext (link.rxTicks t) (link.rx t).baudDivQ := by
  have count := held.count
  have several : (link.rx t).bitCntQ.toNat ≠ 1 := by omega
  refine ⟨⟨?_, more, ?_, ?_⟩, gives_of_invalid (invalid_of_count several), ?_⟩
  · rw [rx_succ, sample_bit held middle right]
    exact Bool.eq_false_iff.mpr (mt one_iff.mp several)
  · rw [rx_succ, sample_bit held middle right]
    change ((link.rx t).bitCntQ - 1).toNat = _
    rw [pred_toNat (by omega), count]
    omega
  · intro i inside
    rw [rx_succ, sample_bit held middle right]
    exact found_next held inside
  · rw [rx_succ, sample_bit held middle right]

/-- What the receiver gives once it has the last bit. -/
theorem gives_byte (valid : (link.rx t).rxValidQ = true)
    (found : forall i, i < 11 -> (link.rx t).sregQ.getLsbD i =
      if 11 <= i + link.total then (link.frame byte).getLsbD (i + link.total - 11) else false) :
    link.gives t = [(byte, false, false)] := by
  have stop : (link.rx t).sregQ.getLsbD 10 = true := by
    rw [found 10 (by decide), if_pos (by have := @total_pos link; omega)]
    have last := @bitOf_last link byte
    have pos := @total_pos link
    rw [bitOf, if_neg (by omega)] at last
    rw [show 10 + link.total - 11 = link.total - 1 by omega]
    exact last
  have data : UartRx.rxData (link.rx t) link.parityEnable = byte := by
    refine BitVec.eq_of_getLsbD_eq fun i inside => ?_
    unfold UartRx.rxData
    rcases parity : link.parityEnable with _ | _
    · have ten : link.total = 10 := by rw [total, parity]; rfl
      rw [if_neg Bool.false_ne_true, BitVec.getLsbD_extractLsb', decide_eq_true inside,
        Bool.true_and, found _ (by omega), ten, if_pos (by omega),
        show 2 + i + 10 - 11 = i + 1 by omega, frame_getLsbD _ (by omega), if_neg (by omega),
        if_pos (by omega), Nat.add_sub_cancel]
    · have eleven : link.total = 11 := by rw [total, parity]; rfl
      rw [if_pos rfl, BitVec.getLsbD_extractLsb', decide_eq_true inside, Bool.true_and,
        found _ (by omega), eleven, if_pos (by omega), Nat.add_sub_cancel,
        frame_getLsbD _ (by omega), if_neg (by omega), if_pos (by omega), Nat.add_sub_cancel_left]
  have noFrameErr : UartRx.frameErr (link.rx t) = false := by
    rw [UartRx.frameErr, stop]
    exact Bool.and_false _
  have noParityErr :
      UartRx.rxParityErr (link.rx t) link.parityEnable link.parityOdd = false := by
    unfold UartRx.rxParityErr
    rcases parity : link.parityEnable with _ | _
    · rfl
    · have eleven : link.total = 11 := by rw [total, parity]; rfl
      have bits : (link.rx t).sregQ.extractLsb' 1 9 =
          BitVec.cons (xorReduce byte ^^ link.parityOdd) byte := by
        refine BitVec.eq_of_getLsbD_eq fun i inside => ?_
        rw [BitVec.getLsbD_extractLsb', decide_eq_true inside, Bool.true_and, found _ (by omega),
          eleven, if_pos (by omega), Nat.add_sub_cancel, frame_getLsbD _ (by omega),
          if_neg (by omega), Nat.add_sub_cancel_left, BitVec.getLsbD_cons]
        by_cases last : i = 8
        · rw [if_neg (by omega), if_pos ⟨by omega, parity⟩, if_pos last]
        · rw [if_pos (by omega), if_neg last]
      rw [bits, xorReduce_append, xorReduce_cons]
      cases xorReduce byte <;> cases link.parityOdd <;> simp
  rw [gives, valid, if_pos rfl, data, noFrameErr, noParityErr]

/-- In the middle of the last bit the receiver has the byte, and waits for the next one. -/
theorem rx_ends {j : Nat} (held : RxAt link byte j t) (middle : (link.rx t).tickBaudQ = true)
    (right : link.level t = link.bitOf byte (j + 1)) (last : j + 1 = link.total) :
    RxIdle link (t + 1) ∧ link.gives (t + 1) = [(byte, false, false)] := by
  have count := held.count
  have one : ((link.rx t).bitCntQ == 1) = true := one_iff.mpr (by omega)
  refine ⟨⟨?_, ?_⟩, gives_byte ?_ ?_⟩
  · rw [rx_succ, sample_bit held middle right]
    exact one
  · rw [rx_succ, sample_bit held middle right]
    change ((link.rx t).bitCntQ - 1).toNat = _
    rw [pred_toNat (by omega), count]
    omega
  · change ((link.rx t).tickBaudQ && (link.rx t).bitCntQ == 1) = true
    rw [middle, one]
    rfl
  · intro i inside
    rw [rx_succ, sample_bit held middle right, <- last]
    exact found_next held inside

end Link
end UartLink
end SunburstChip
