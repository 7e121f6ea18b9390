import SunburstChip.Hw.UartLink

namespace SunburstChip
namespace UartLink

/-!
# The bytes that go over

Where a byte is on its way is told by how many of its bits are on the line and how
many the receiver has found.  The receiver looks at a bit when eight of its ticks and
a few cycles have gone by since the bit was put on the line, so that it is one bit
behind at most and never ahead.
-/

/-! ## Sixteen ticks -/

/-- A divider that tells when `due` ticks have come. -/
def Counted (ticks : Nat -> Bool) (due : Nat) (tick : Bool) (divider : BitVec 4) (t : Nat) : Prop :=
  (tick = true ∧ divider.toNat = 0 ∧ ticksBefore ticks t = due) ∨
    (tick = false ∧ ticksBefore ticks t + 16 = due + divider.toNat)

section

variable {ticks : Nat -> Bool} {due t : Nat} {tick : Bool} {divider : BitVec 4}

/-- What a divider does in a cycle. -/
theorem baudNext_cases (tick : Bool) (divider : BitVec 4) :
    ((baudNext tick divider).1 = true ∧ (baudNext tick divider).2.toNat = 0 ∧
      divider.toNat + (if tick then 1 else 0) = 16) ∨
    ((baudNext tick divider).1 = false ∧
      (baudNext tick divider).2.toNat = divider.toNat + if tick then 1 else 0) := by
  have below := divider.isLt
  cases tick with
  | false => exact Or.inr ⟨rfl, rfl⟩
  | true =>
      unfold baudNext
      rw [if_pos rfl, if_pos rfl]
      by_cases last : divider = 15
      · rw [last]
        exact Or.inl ⟨rfl, rfl, rfl⟩
      · have less : divider.toNat ≠ 15 := fun same => last (BitVec.eq_of_toNat_eq same)
        refine Or.inr ⟨beq_false_of_ne last, ?_⟩
        rw [BitVec.toNat_add]
        exact Nat.mod_eq_of_lt (show divider.toNat + 1 < 2 ^ 4 by omega)

/-- A divider that tells counts on from there. -/
theorem Counted.again (zero : divider.toNat = 0) :
    Counted ticks (ticksBefore ticks t + 16) (baudNext (ticks t) divider).1
      (baudNext (ticks t) divider).2 (t + 1) := by
  unfold Counted
  rw [ticksBefore_succ]
  rcases baudNext_cases (ticks t) divider with ⟨_, _, whole⟩ | ⟨none, count⟩
  · split at whole <;> omega
  · exact Or.inr ⟨none, by omega⟩

/-- A divider that has ticks to come counts on. -/
theorem Counted.next (counted : Counted ticks due false divider t) :
    Counted ticks due (baudNext (ticks t) divider).1 (baudNext (ticks t) divider).2 (t + 1) := by
  rcases counted with ⟨never, _⟩ | ⟨_, ticked⟩
  · exact absurd never Bool.false_ne_true
  · unfold Counted
    rw [ticksBefore_succ]
    rcases baudNext_cases (ticks t) divider with ⟨tick, zero, whole⟩ | ⟨none, count⟩
    · exact Or.inl ⟨tick, zero, by omega⟩
    · exact Or.inr ⟨none, by omega⟩

theorem Counted.bounds (counted : Counted ticks due tick divider t) :
    ticksBefore ticks t <= due ∧ due <= ticksBefore ticks t + 16 ∧
      (tick = true -> ticksBefore ticks t = due ∧ divider.toNat = 0) := by
  have below := divider.isLt
  rcases counted with ⟨_, zero, ticked⟩ | ⟨none, ticked⟩
  · exact ⟨by omega, by omega, fun _ => ⟨ticked, zero⟩⟩
  · exact ⟨by omega, by omega, fun tick => absurd (none.symm.trans tick) Bool.false_ne_true⟩

/-- A divider that is at its beginning when it tells is to tell some time. -/
theorem Counted.exists (zero : tick = true -> divider.toNat = 0) (t : Nat) :
    Exists fun due => Counted ticks due tick divider t := by
  have below := divider.isLt
  cases tick with
  | true => exact ⟨_, Or.inl ⟨rfl, zero rfl, rfl⟩⟩
  | false => exact ⟨ticksBefore ticks t + 16 - divider.toNat, Or.inr ⟨rfl, by omega⟩⟩

end

namespace Link

variable {link : Link} {byte : BitVec 8} {t : Nat}

/-- The transmitter's divider is at its beginning if it tells at first. -/
def AtStart (link : Link) : Prop :=
  link.txStart.tickBaudQ = true -> link.txStart.baudDivQ.toNat = 0

/-- What is the same in every cycle: the transmitter's divider is at its beginning when it has
told sixteen ticks. -/
theorem tx_divider (start : AtStart link)
    (t : Nat) : (link.tx t).tickBaudQ = true -> (link.tx t).baudDivQ.toNat = 0 := by
  cases t with
  | zero => exact start
  | succ t =>
      intro tick
      change (baudNext (link.txTicks t) (link.tx t).baudDivQ).1 = true at tick
      rcases baudNext_cases (link.txTicks t) (link.tx t).baudDivQ with ⟨_, zero, _⟩ | ⟨none, _⟩
      · exact zero
      · exact absurd (none.symm.trans tick) Bool.false_ne_true

/-- The line has been high for as long as it takes to pass a level on. -/
def High (link : Link) (t : Nat) : Prop :=
  forall u, u <= t -> t <= u + link.delay -> (link.tx u).txQ = true

theorem High.level (high : High link t) : link.level t = true := by
  unfold Link.level
  split
  · rfl
  · exact high _ (Nat.sub_le _ _) (by omega)

theorem High.next (high : High link t) (stays : (link.tx (t + 1)).txQ = (link.tx t).txQ) :
    High link (t + 1) := by
  intro u before recent
  rcases Nat.lt_or_eq_of_le before with earlier | now
  · exact high u (Nat.le_of_lt_succ earlier) (by omega)
  · rw [now, stays]
    exact high t (Nat.le_refl t) (Nat.le_add_right _ _)

/-! ## Where a byte is -/

/-- The transmitter's divider tells when `due` ticks have come. -/
def TxDue (link : Link) (due t : Nat) : Prop :=
  Counted link.txTicks due (link.tx t).tickBaudQ (link.tx t).baudDivQ t

/-- The bit that has been put on the line at `onset` is on it. -/
def Bit (link : Link) (onset t : Nat) : Prop :=
  onset < t ∧ TxDue link (ticksBefore link.txTicks onset + 16) t

theorem TxDue.next {due : Nat} (begins : TxDue link due t)
    (between : (link.tx t).tickBaudQ = false) : TxDue link due (t + 1) := by
  unfold TxDue at begins
  rw [between] at begins
  exact Counted.next begins

theorem TxDue.bounds {due : Nat} (begins : TxDue link due t) :
    ticksBefore link.txTicks t <= due ∧ due <= ticksBefore link.txTicks t + 16 ∧
      ((link.tx t).tickBaudQ = true ->
        ticksBefore link.txTicks t = due ∧ (link.tx t).baudDivQ.toNat = 0) :=
  Counted.bounds begins

/-- A level has been on the line since `onset`. -/
def Since (link : Link) (level : Bool) (onset t : Nat) : Prop :=
  forall u, onset < u -> u <= t -> (link.tx u).txQ = level

/-- The first bit of a byte is on the line, and has not come to the receiver. -/
structure Begun (link : Link) (byte : BitVec 8) (onset t : Nat) : Prop where
  sends : TxAt link byte 1 t
  waits : RxIdle link t
  bit : Bit link onset t
  coming : t <= onset + link.delay + 1
  low : Since link false onset t
  high : forall u, u <= onset -> onset <= u + link.delay -> (link.tx u).txQ = true

/-- The bit `k` of a byte is on the line since `onset`, the receiver has found `j` bits, and the first
one was put on the line at `first`. -/
structure Underway (link : Link) (byte : BitVec 8) (k j first onset t : Nat) : Prop where
  finds : RxAt link byte j t
  one : 1 <= k
  inside : k <= link.total
  bit : Bit link onset t
  level : Since link (link.bitOf byte k) onset t
  bits : ticksBefore link.txTicks onset + 16 = ticksBefore link.txTicks first + 16 * k
  began : first + link.delay + 2 <= t
  middle : Counted link.rxTicks (ticksBefore link.rxTicks (first + link.delay + 2) + 8 + 16 * j)
    (link.rx t).tickBaudQ (link.rx t).baudDivQ t

/-- Where the bytes are that have been taken and not been given, and how many ticks will have come
when the first of them is given at the latest. -/
inductive Stage (link : Link) (t : Nat) : Nat -> List (BitVec 8) -> Prop
  | rest (due : Nat) (sends : (link.tx t).bitCntQ.toNat = 0) (waits : RxIdle link t)
      (high : High link t) : Stage link t due []
  | ready (byte : BitVec 8) (due : Nat) (sends : TxAt link byte 0 t) (begins : TxDue link due t)
      (waits : RxIdle link t) (high : High link t) : Stage link t (due + 16 * link.total) [byte]
  | begun (byte : BitVec 8) (onset : Nat) (begun : Begun link byte onset t) :
      Stage link t (ticksBefore link.txTicks onset + 16 * link.total) [byte]
  | moving (byte : BitVec 8) (k j first onset : Nat) (near : k = j + 1 ∨ k = j)
      (sends : TxAt link byte k t) (underway : Underway link byte k j first onset t) :
      Stage link t (ticksBefore link.txTicks first + 16 * link.total) [byte]
  | next (byte after : BitVec 8) (j first onset : Nat) (last : link.total = j + 1)
      (sends : TxAt link after 0 t)
      (underway : Underway link byte link.total j first onset t) :
      Stage link t (ticksBefore link.txTicks first + 16 * link.total) [byte, after]

/-! ## What a cycle does -/

/-- A byte as the receiver is to give it. -/
def received (byte : BitVec 8) : BitVec 8 × Bool × Bool := (byte, false, false)

/-- A cycle takes bytes and gives bytes, and leaves the others pending.  What is due is not put
off. -/
def Moves (link : Link) (t due : Nat) (pending : List (BitVec 8)) : Prop :=
  Exists fun due' => Exists fun left : List (BitVec 8) => Stage link (t + 1) due' left ∧
    (pending ++ link.takes t).map received = link.gives (t + 1) ++ left.map received ∧
    (pending = [] ∨ link.gives (t + 1) ≠ [] ∨ due' = due)

/-- No byte is given. -/
theorem Moves.waits {due : Nat} {pending taken : List (BitVec 8)} (takes : link.takes t = taken)
    (nothing : link.gives (t + 1) = []) (stage : Stage link (t + 1) due (pending ++ taken)) :
    Moves link t due pending :=
  ⟨due, _, stage, by rw [takes, nothing]; rfl, Or.inr (Or.inr rfl)⟩

/-- The first byte is given. -/
theorem Moves.given {due due' : Nat} {pending taken left : List (BitVec 8)}
    (takes : link.takes t = taken) (given : link.gives (t + 1) = [received byte])
    (stage : Stage link (t + 1) due' left) (first : pending ++ taken = byte :: left) :
    Moves link t due pending := by
  refine ⟨due', left, stage, ?_, Or.inr (Or.inl ?_)⟩
  · rw [takes, given, first]
    rfl
  · rw [given]
    exact List.cons_ne_nil _ _

theorem takes_of_busy (busy : 0 < (link.tx t).bitCntQ.toNat) : link.takes t = [] := by
  have other : ((link.tx t).bitCntQ == 0) = false :=
    Bool.eq_false_iff.mpr fun zero => absurd (zero_iff.mp zero) (by omega)
  rw [takes, other]
  rfl

theorem TxAt.busy {k : Nat} (sends : TxAt link byte k t) (more : k < link.total) :
    0 < (link.tx t).bitCntQ.toNat := by
  rw [sends.count]
  omega

theorem TxAt.idle (sends : TxAt link byte link.total t) : (link.tx t).bitCntQ.toNat = 0 := by
  rw [sends.count, Nat.sub_self]

/-- A byte is offered, or none is taken. -/
theorem takes_cases (link : Link) (t : Nat) :
    link.takes t = [] ∨ Exists fun byte => link.offers t = some byte := by
  rcases offered : link.offers t with _ | byte
  · left
    rw [takes, offered]
    exact ite_self _
  · exact Or.inr ⟨byte, rfl⟩

section

variable (start : AtStart link)
include start

/-- Nothing is on its way. -/
theorem Moves.rest {due : Nat} (idle : (link.tx t).bitCntQ.toNat = 0) (waits : RxIdle link t)
    (high : High link t) : Moves link t due [] := by
  rcases rx_waits waits high.level with ⟨still, nothing⟩
  rcases takes_cases link t with none | ⟨byte, offered⟩
  · rcases tx_holds none (Or.inr idle) with ⟨count, _, same⟩
    exact Moves.waits none nothing
      (Stage.rest due (by rw [count]; exact idle) still (high.next same))
  · rcases tx_takes idle offered with ⟨taken, sends, same⟩
    rcases Counted.exists (tx_divider start (t + 1)) (t + 1) with ⟨due', begins⟩
    refine ⟨_, [byte], Stage.ready byte due' sends begins still (high.next same), ?_, Or.inl rfl⟩
    rw [taken, nothing]
    rfl

theorem Bit.begin (tick : (link.tx t).tickBaudQ = true) : Bit link t (t + 1) :=
  ⟨Nat.lt_succ_self t, Counted.again (tx_divider start t tick)⟩

/-- A byte waits in the shift register for the next bit to begin. -/
theorem Moves.ready {due : Nat} (sends : TxAt link byte 0 t) (begins : TxDue link due t)
    (waits : RxIdle link t) (high : High link t) :
    Moves link t (due + 16 * link.total) [byte] := by
  have pos := @total_pos link
  rcases rx_waits waits high.level with ⟨still, nothing⟩
  rcases tick : (link.tx t).tickBaudQ with _ | _
  · have none := takes_of_busy (sends.busy (by omega))
    rcases tx_holds none (Or.inl tick) with ⟨_, _, same⟩
    exact Moves.waits none nothing
      (Stage.ready byte due (sends.hold none (Or.inl tick)) (begins.next tick) still (high.next
       same))
  · rcases tx_shifts tick sends (by omega) with ⟨none, sends', low⟩
    rw [Nat.zero_add] at sends' low
    have now := (begins.bounds.2.2 tick).1
    have begun : Begun link byte t (t + 1) := by
      refine ⟨sends', still, Bit.begin start tick, by omega, ?_, high⟩
      intro u first last
      rw [show u = t + 1 by omega, low, bitOf_first]
    rw [<- now]
    exact Moves.waits none nothing (Stage.begun byte t begun)

end

theorem Bit.next {onset : Nat} (bit : Bit link onset t) (between : (link.tx t).tickBaudQ = false) :
    Bit link onset (t + 1) := by
  exact ⟨Nat.lt_succ_of_lt bit.1, bit.2.next between⟩

theorem Since.next {level : Bool} {onset : Nat} (since : Since link level onset t)
    (later : onset < t) (same : (link.tx (t + 1)).txQ = (link.tx t).txQ) :
    Since link level onset (t + 1) := by
  intro u first last
  rcases Nat.lt_or_eq_of_le last with earlier | now
  · exact since u first (Nat.le_of_lt_succ earlier)
  · rw [now, same]
    exact since t later (Nat.le_refl t)

/-- The first bit is on the line and comes to the receiver. -/
theorem Moves.begun {onset : Nat} (slow : link.delay <= 5) (begun : Begun link byte onset t) :
    Moves link t (ticksBefore link.txTicks onset + 16 * link.total) [byte] := by
  have pos := @total_pos link
  have later := begun.bit.1
  have between : (link.tx t).tickBaudQ = false := by
    have ticks := ticksBefore_le link.txTicks (Nat.le_of_lt later)
    have coming := begun.coming
    refine Bool.eq_false_iff.mpr fun tick => ?_
    have whole := (begun.bit.2.bounds.2.2 tick).1
    omega
  have none := takes_of_busy (begun.sends.busy (by omega))
  rcases tx_holds none (Or.inl between) with ⟨_, _, same⟩
  have sends := begun.sends.hold none (Or.inl between)
  by_cases here : t = onset + link.delay + 1
  · have low : link.level t = false := by
      rw [Link.level, if_neg (by omega)]
      exact begun.low _ (by omega) (by omega)
    rcases rx_begins begun.waits low byte with ⟨finds, nothing, eight, quiet⟩
    refine Moves.waits none nothing (Stage.moving byte 1 0 onset onset (Or.inl rfl) sends ?_)
    refine ⟨finds, Nat.le_refl 1, by omega, begun.bit.next between, ?_, rfl, by omega, ?_⟩
    · rw [bitOf_first]
      exact begun.low.next later same
    · refine Or.inr ⟨quiet, ?_⟩
      rw [eight, here]
      rfl
  · have coming := begun.coming
    have high : link.level t = true := by
      unfold Link.level
      split
      · rfl
      · exact begun.high _ (by omega) (by omega)
    rcases rx_waits begun.waits high with ⟨still, nothing⟩
    exact Moves.waits none nothing (Stage.begun byte onset ⟨sends, still, begun.bit.next between,
      by omega, begun.low.next later same, begun.high⟩)

/-! ## The receiver is behind, but not far -/

section

variable {k j first onset skew : Nat} (keeps : KeepsUp link.txTicks link.rxTicks 176 skew)
  (slow : link.delay + skew <= 5)

namespace Underway

variable (underway : Underway link byte k j first onset t)
include underway

include keeps in
/-- The ticks on both sides since the byte began. -/
theorem ticks :
    ticksBefore link.rxTicks t + ticksBefore link.txTicks first <= ticksBefore link.txTicks t +
        ticksBefore link.rxTicks (first + link.delay + 2) + skew ∧
      ticksBefore link.txTicks t + ticksBefore link.rxTicks (first + link.delay + 2) <=
        ticksBefore link.rxTicks t + ticksBefore link.txTicks first + skew + link.delay + 2 := by
  have most := @total_le link
  have inside := underway.inside
  have bits := underway.bits
  have bounds := underway.bit.2.bounds
  have mono := ticksBefore_mono link.txTicks
    (show first <= first + link.delay + 2 by omega)
  have few := ticksBefore_le link.txTicks
    (show first <= first + link.delay + 2 by omega)
  have close := keeps (first + link.delay + 2) t underway.began (by omega)
  omega

include keeps slow in
/-- The receiver has a bit before the next one is put on the line. -/
theorem no_tick (behind : k = j + 1) : (link.tx t).tickBaudQ = false := by
  refine Bool.eq_false_iff.mpr fun tick => ?_
  have ticks := underway.ticks keeps
  have bits := underway.bits
  have whole := (underway.bit.2.bounds.2.2 tick).1
  have middle := underway.middle.bounds
  omega

include keeps slow in
/-- The receiver does not look at a bit that is not there. -/
theorem no_sample (level : k = j) : (link.rx t).tickBaudQ = false := by
  refine Bool.eq_false_iff.mpr fun tick => ?_
  have ticks := underway.ticks keeps
  have bits := underway.bits
  have bounds := underway.bit.2.bounds
  have middle := (underway.middle.bounds.2.2 tick).1
  omega

include keeps slow in
/-- When the receiver looks at a bit, it has come over the line. -/
theorem seen (behind : k = j + 1) (tick : (link.rx t).tickBaudQ = true) :
    onset + link.delay < t ∧ link.level t = link.bitOf byte (j + 1) := by
  have ticks := underway.ticks keeps
  have bits := underway.bits
  have middle := (underway.middle.bounds.2.2 tick).1
  have passed := ticksBefore_le link.txTicks (Nat.le_of_lt underway.bit.1)
  have come : onset + link.delay < t := by omega
  refine ⟨come, ?_⟩
  rw [Link.level, if_neg (by omega), <- behind]
  exact underway.level _ (by omega) (by omega)

/-- The last bit of a byte is over when sixteen ticks for each bit have come. -/
theorem soon : ticksBefore link.txTicks t <= ticksBefore link.txTicks first + 16 * link.total ∧
    ticksBefore link.txTicks first + 16 * link.total <=
      ticksBefore link.txTicks t + 16 * (link.total + 1) := by
  have inside := underway.inside
  have bits := underway.bits
  have bounds := underway.bit.2.bounds
  have mono := ticksBefore_mono link.txTicks
    (show first <= t by have := underway.began; omega)
  omega

/-- Between the middles of two bits nothing changes for the receiver. -/
theorem hold (between : (link.tx t).tickBaudQ = false)
    (same : (link.tx (t + 1)).txQ = (link.tx t).txQ) (wait : (link.rx t).tickBaudQ = false) :
    Underway link byte k j first onset (t + 1) ∧ link.gives (t + 1) = [] := by
  rcases rx_holds underway.finds wait with ⟨finds, nothing, counts⟩
  rw [Prod.mk.injEq] at counts
  have middle := underway.middle
  rw [wait] at middle
  refine ⟨⟨finds, underway.one, underway.inside, underway.bit.next between,
    underway.level.next underway.bit.1 same, underway.bits,
    Nat.le_succ_of_le underway.began, ?_⟩, nothing⟩
  rw [counts.1, counts.2]
  exact middle.next

include keeps slow in
/-- The receiver takes a bit that is not the last one. -/
theorem take (behind : k = j + 1) (more : j + 1 < link.total)
    (same : (link.tx (t + 1)).txQ = (link.tx t).txQ) (tick : (link.rx t).tickBaudQ = true) :
    Underway link byte k (j + 1) first onset (t + 1) ∧ link.gives (t + 1) = [] := by
  have between := underway.no_tick keeps slow behind
  rcases rx_takes underway.finds tick (underway.seen keeps slow behind tick).2 more with
    ⟨finds, nothing, counts⟩
  rw [Prod.mk.injEq] at counts
  rcases underway.middle.bounds.2.2 tick with ⟨now, zero⟩
  refine ⟨⟨finds, underway.one, underway.inside, underway.bit.next between,
    underway.level.next underway.bit.1 same, underway.bits,
    Nat.le_succ_of_le underway.began, ?_⟩, nothing⟩
  rw [counts.1, counts.2, Nat.mul_succ, <- Nat.add_assoc, <- now]
  exact Counted.again zero

include keeps slow in
/-- The receiver takes the last bit, and the line is still high then. -/
theorem finish (behind : k = j + 1) (last : link.total = j + 1)
    (same : (link.tx (t + 1)).txQ = (link.tx t).txQ) (tick : (link.rx t).tickBaudQ = true) :
    RxIdle link (t + 1) ∧ High link (t + 1) ∧ link.gives (t + 1) = [received byte] := by
  rcases underway.seen keeps slow behind tick with ⟨come, right⟩
  rcases rx_ends underway.finds tick right last.symm with ⟨waits, given⟩
  refine ⟨waits, ?_, given⟩
  intro u before recent
  rw [underway.level.next underway.bit.1 same u (by omega) before, behind, <- last]
  exact bitOf_last

/-- The next bit is put on the line. -/
theorem shift (start : AtStart link)
    (more : k < link.total) (tick : (link.tx t).tickBaudQ = true)
    (right : (link.tx (t + 1)).txQ = link.bitOf byte (k + 1))
    (wait : (link.rx t).tickBaudQ = false) :
    Underway link byte (k + 1) j first t (t + 1) ∧ link.gives (t + 1) = [] := by
  rcases rx_holds underway.finds wait with ⟨finds, nothing, counts⟩
  rw [Prod.mk.injEq] at counts
  have middle := underway.middle
  rw [wait] at middle
  have whole := (underway.bit.2.bounds.2.2 tick).1
  have bits := underway.bits
  refine ⟨⟨finds, by omega, more, Bit.begin start tick, ?_, by omega,
    Nat.le_succ_of_le underway.began, ?_⟩, nothing⟩
  · intro u first last
    rw [show u = t + 1 by omega, right]
  · rw [counts.1, counts.2]
    exact middle.next

end Underway

include keeps slow

/-- A byte of which some bits are to be put on the line yet, or whose last bit is on it. -/
theorem Moves.moving (start : AtStart link) (near : k = j + 1 ∨ k = j)
    (sends : TxAt link byte k t) (underway : Underway link byte k j first onset t) :
    Moves link t (ticksBefore link.txTicks first + 16 * link.total) [byte] := by
  have inside := underway.finds.inside
  rcases near with behind | level
  · have between := underway.no_tick keeps slow behind
    by_cases more : k < link.total
    · have none := takes_of_busy (sends.busy more)
      rcases tx_holds none (Or.inl between) with ⟨_, _, same⟩
      have sends' := sends.hold none (Or.inl between)
      rcases tick : (link.rx t).tickBaudQ with _ | _
      · rcases underway.hold between same tick with ⟨underway', nothing⟩
        exact Moves.waits none nothing
          (Stage.moving byte k j first onset (Or.inl behind) sends' underway')
      · rcases underway.take keeps slow behind (by omega) same tick with ⟨underway', nothing⟩
        exact Moves.waits none nothing
          (Stage.moving byte k (j + 1) first onset (Or.inr behind) sends' underway')
    · -- The last bit is on the line: the transmitter may take the next byte.
      have atEnd : k = link.total := by
        have := underway.inside
        omega
      have last : link.total = j + 1 := by omega
      subst atEnd
      rcases takes_cases link t with none | ⟨after, offered⟩
      · rcases tx_holds none (Or.inl between) with ⟨count, _, same⟩
        rcases tick : (link.rx t).tickBaudQ with _ | _
        · rcases underway.hold between same tick with ⟨underway', nothing⟩
          have sends' := sends.hold none (Or.inl between)
          exact Moves.waits none nothing
            (Stage.moving byte link.total j first onset (Or.inl behind) sends' underway')
        · rcases underway.finish keeps slow behind last same tick with ⟨waits, high, given⟩
          exact Moves.given none given
            (Stage.rest 0 (by rw [count]; exact sends.idle) waits high) rfl
      · rcases tx_takes sends.idle offered with ⟨taken, sends', same⟩
        rcases tick : (link.rx t).tickBaudQ with _ | _
        · rcases underway.hold between same tick with ⟨underway', nothing⟩
          exact Moves.waits taken nothing
            (Stage.next byte after j first onset last sends' underway')
        · rcases underway.finish keeps slow behind last same tick with ⟨waits, high, given⟩
          exact Moves.given taken given
            (Stage.ready after _ sends' (underway.bit.2.next between) waits high) rfl
  · have wait := underway.no_sample keeps slow level
    have more : k < link.total := by omega
    rcases tick : (link.tx t).tickBaudQ with _ | _
    · have none := takes_of_busy (sends.busy more)
      rcases tx_holds none (Or.inl tick) with ⟨_, _, same⟩
      rcases underway.hold tick same wait with ⟨underway', nothing⟩
      exact Moves.waits none nothing
        (Stage.moving byte k j first onset (Or.inr level) (sends.hold none (Or.inl tick)) underway')
    · rcases tx_shifts tick sends more with ⟨none, sends', right⟩
      rcases underway.shift start more tick right wait with ⟨underway', nothing⟩
      exact Moves.waits none nothing
        (Stage.moving byte (k + 1) j first t (Or.inl (by omega)) sends' underway')

/-- The last bit of a byte is on the line, and the next byte waits for its end. -/
theorem Moves.next {after : BitVec 8} (last : link.total = j + 1) (sends : TxAt link after 0 t)
    (underway : Underway link byte link.total j first onset t) :
    Moves link t (ticksBefore link.txTicks first + 16 * link.total) [byte, after] := by
  have between := underway.no_tick keeps slow last
  have pos := @total_pos link
  have none := takes_of_busy (sends.busy (by omega))
  rcases tx_holds none (Or.inl between) with ⟨_, _, same⟩
  have sends' := sends.hold none (Or.inl between)
  rcases tick : (link.rx t).tickBaudQ with _ | _
  · rcases underway.hold between same tick with ⟨underway', nothing⟩
    exact Moves.waits none nothing (Stage.next byte after j first onset last sends' underway')
  · rcases underway.finish keeps slow last last same tick with ⟨waits, high, given⟩
    exact Moves.given none given
      (Stage.ready after _ sends' (underway.bit.2.next between) waits high) rfl

end

/-! ## Whole runs -/

/-- Neither end has anything on its way, and the line is high. -/
structure Starts (link : Link) : Prop where
  sends : link.txStart.bitCntQ = 0
  high : link.txStart.txQ = true
  divider : AtStart link
  waits : link.rxStart.idleQ = true
  count : link.rxStart.bitCntQ = 0
  none : link.rxStart.rxValidQ = false

theorem Stage.start (starts : Starts link) : Stage link 0 0 [] := by
  refine Stage.rest 0 ?_ ⟨starts.waits, ?_⟩ ?_
  · change link.txStart.bitCntQ.toNat = 0
    rw [starts.sends]
    rfl
  · change link.rxStart.bitCntQ.toNat = 0
    rw [starts.count]
    rfl
  · intro u before _
    rw [Nat.le_zero.mp before]
    exact starts.high

theorem Stage.few {due : Nat} {pending : List (BitVec 8)} (stage : Stage link t due pending) :
    pending.length <= 2 := by
  cases stage <;> simp

/-- What is due is due soon, and not overdue. -/
theorem Stage.due {due : Nat} {pending : List (BitVec 8)} (stage : Stage link t due pending)
    (some : pending ≠ []) : ticksBefore link.txTicks t <= due ∧
      due <= ticksBefore link.txTicks t + 16 * (link.total + 1) := by
  have pos := @total_pos link
  cases stage with
  | rest due sends waits high => exact absurd rfl some
  | ready byte due sends begins waits high =>
      have bounds := begins.bounds
      omega
  | begun byte onset begun =>
      have bounds := begun.bit.2.bounds
      have mono := ticksBefore_mono link.txTicks (Nat.le_of_lt begun.bit.1)
      omega
  | moving byte k j first onset near sends underway => exact underway.soon
  | next byte after j first onset last sends underway => exact underway.soon

section

variable {skew : Nat} (starts : Starts link) (keeps : KeepsUp link.txTicks link.rxTicks 176 skew)
  (slow : link.delay + skew <= 5)
include starts keeps slow

theorem Stage.moves {due : Nat} {pending : List (BitVec 8)} (stage : Stage link t due pending) :
    Moves link t due pending := by
  cases stage with
  | rest due sends waits high => exact Moves.rest starts.divider sends waits high
  | ready byte due sends begins waits high =>
      exact Moves.ready starts.divider sends begins waits high
  | begun byte onset begun => exact Moves.begun (by omega) begun
  | moving byte k j first onset near sends underway =>
      exact Moves.moving keeps slow starts.divider near sends underway
  | next byte after j first onset last sends underway =>
      exact Moves.next keeps slow last sends underway

/-- What has been given is what has been taken but for what is on its way. -/
theorem staged (t : Nat) :
    Exists fun due => Exists fun pending : List (BitVec 8) => Stage link t due pending ∧
      (before link.takes t).map received = before link.gives (t + 1) ++ pending.map received := by
  induction t with
  | zero =>
      have nothing : link.gives 0 = [] := gives_of_invalid starts.none
      refine ⟨0, [], Stage.start starts, ?_⟩
      rw [before_succ, nothing]
      rfl
  | succ t ih =>
      rcases ih with ⟨due, pending, stage, balance⟩
      rcases stage.moves starts keeps slow with ⟨due', left, stage', moved, _⟩
      refine ⟨due', left, stage', ?_⟩
      rw [before_succ, List.map_append, balance, List.append_assoc, <- List.map_append, moved,
        before_succ (t + 1), List.append_assoc]

/-- A byte that is on its way is given when it is due. -/
theorem given_when_due {due : Nat} {pending : List (BitVec 8)} (stage : Stage link t due pending)
    (some : pending ≠ []) {t' : Nat} (later : t <= t') (past : due < ticksBefore link.txTicks t') :
    (before link.gives (t + 1)).length < (before link.gives (t' + 1)).length := by
  by_contra none
  -- As long as none is given, what was due stays due.
  have waiting (u : Nat) (first : t <= u) (last : u <= t') :
      Exists fun pending : List (BitVec 8) => Stage link u due pending ∧ pending ≠ [] := by
    induction u, first using Nat.le_induction with
    | base => exact ⟨pending, stage, some⟩
    | succ u first ih =>
        rcases ih (Nat.le_of_succ_le last) with ⟨pending, stage, some⟩
        rcases stage.moves starts keeps slow with ⟨due', left, stage', moved, kept⟩
        have nothing : link.gives (u + 1) = [] := by
          by_contra gives
          have one := List.length_pos_iff.mpr gives
          have grows := (@before_mono _ link.gives _ _
            (show t + 1 <= u + 1 by omega)).length_le
          have grows' := (@before_mono _ link.gives _ _
            (show u + 1 + 1 <= t' + 1 by omega)).length_le
          rw [before_succ (u + 1), List.length_append] at grows'
          omega
        rcases kept with empty | gives | same
        · exact absurd empty some
        · exact absurd nothing gives
        · rw [same] at stage'
          refine ⟨left, stage', ?_⟩
          rw [nothing, List.nil_append] at moved
          intro empty
          rw [empty, List.map_nil, List.map_eq_nil_iff] at moved
          exact some (List.append_eq_nil_iff.mp moved).1
  rcases waiting t' later (Nat.le_refl t') with ⟨left, stage', some'⟩
  have bound := (stage'.due some').1
  omega

theorem staged_length (t : Nat) : Exists fun due => Exists fun pending : List (BitVec 8) =>
    Stage link t due pending ∧
      (before link.takes t).length = (before link.gives (t + 1)).length + pending.length := by
  rcases staged starts keeps slow t with ⟨due, pending, stage, balance⟩
  have lengths := congrArg List.length balance
  rw [List.length_map, List.length_append, List.length_map] at lengths
  exact ⟨due, pending, stage, lengths⟩

/-- If some bytes have been taken, and all but `n` of them been given, the others are given in the
time that `n` bytes take. -/
theorem given_soon {n count t' : Nat} (later : t <= t')
    (taken : count <= (before link.takes t).length)
    (missing : count <= (before link.gives (t + 1)).length + n)
    (ticks : ticksBefore link.txTicks t + n * (16 * (link.total + 1) + 1) <=
      ticksBefore link.txTicks t') :
    count <= (before link.gives (t' + 1)).length := by
  induction n generalizing t with
  | zero =>
      exact Nat.le_trans missing (before_mono (Nat.succ_le_succ later)).length_le
  | succ n ih =>
      by_cases all : count <= (before link.gives (t + 1)).length
      · exact Nat.le_trans all (before_mono (Nat.succ_le_succ later)).length_le
      · rcases staged_length starts keeps slow t with ⟨due, pending, stage, lengths⟩
        have some : pending ≠ [] := by
          intro empty
          rw [empty, List.length_nil] at lengths
          omega
        rw [Nat.succ_mul] at ticks
        rcases ticksBefore_reaches link.txTicks (t := t')
          (n := ticksBefore link.txTicks t + (16 * (link.total + 1) + 1)) (by omega) with
          ⟨u, before', reached⟩
        have between : t <= u := by
          by_contra earlier
          have mono := ticksBefore_mono link.txTicks (show u <= t by omega)
          omega
        have soon := (stage.due some).2
        have given := given_when_due starts keeps slow stage some between (by omega)
        exact ih before' (Nat.le_trans taken (before_mono between).length_le) (by omega)
          (by omega)

/-- What has been taken has been given, in its order and without an error, but for two bytes. -/
theorem bytes_balance (t : Nat) :
    Exists fun pending : List (BitVec 8) => pending.length <= 2 ∧
      (before link.takes t).map received = before link.gives (t + 1) ++ pending.map received := by
  rcases staged starts keeps slow t with ⟨_, pending, stage, balance⟩
  exact ⟨pending, stage.few, balance⟩

/-- What has been taken is given in the order in which it was taken and without an error.  Two bytes
are on their way at most, and none is for longer than two bytes take. -/
theorem bytes_in_order (t : Nat) :
    (Exists fun pending : List (BitVec 8) => pending.length <= 2 ∧
      (before link.takes t).map received = before link.gives (t + 1) ++ pending.map received) ∧
    forall t', ticksBefore link.txTicks t + 2 * (16 * (link.total + 1) + 1) <=
        ticksBefore link.txTicks t' ->
      (before link.takes t).map received <+: before link.gives (t' + 1) := by
  rcases bytes_balance starts keeps slow t with ⟨pending, few, balance⟩
  refine ⟨⟨pending, few, balance⟩, ?_⟩
  intro t' ticks
  have later : t <= t' := by
    by_contra earlier
    have mono := ticksBefore_mono link.txTicks (show t' <= t by omega)
    omega
  have lengths := congrArg List.length balance
  rw [List.length_map, List.length_append, List.length_map] at lengths
  have all := given_soon starts keeps slow (n := 2) later (Nat.le_refl _) (by omega) ticks
  rcases bytes_balance starts keeps slow t' with ⟨pending', _, balance'⟩
  have taken : (before link.takes t).map received <+: (before link.takes t').map received :=
    (before_mono later).map received
  refine List.prefix_of_prefix_length_le taken ?_ (by rw [List.length_map]; exact all)
  rw [balance']
  exact List.prefix_append _ _

end

/-- A byte is always there to be sent, and there is a tick in every cycle. -/
def eager : Link where
  parityEnable := false
  parityOdd := false
  txTicks := fun _ => true
  rxTicks := fun _ => true
  delay := 3
  offers := fun t => some (BitVec.ofNat 8 t)
  txStart := UartTx.transmitter.reset
  rxStart := UartRx.receiver.reset

theorem bytes_in_order_eager :
    (before eager.takes 20).map received <+: before eager.gives (400 + 1) := by
  have starts : Starts eager :=
    ⟨rfl, rfl, fun never => absurd never (by decide), rfl, rfl, rfl⟩
  have keeps : KeepsUp eager.txTicks eager.rxTicks 176 0 := KeepsUp.same _ _ _
  exact (bytes_in_order starts keeps (by decide) 20).2 400 (by decide +kernel)

end Link
end UartLink
end SunburstChip
