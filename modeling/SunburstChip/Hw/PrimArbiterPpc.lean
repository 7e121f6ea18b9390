import Mathlib.Data.Nat.Find
import SunburstChip.Lib.Circuit

namespace SunburstChip
namespace PrimArbiterPpc

/-!
# The arbiter

`prim_arbiter_ppc.sv`, for several ports.  A mask keeps the ports from where the
last grant has been, and a port before them is only granted when none of them
requests.  So the ports have their turns around a circle, and what matters of a
mask is where it begins.
-/

variable {n : Nat}

/-- `ppc_out[i]` -/
def ppcBit (arbReq : BitVec n) : Nat -> Bool
  | 0 => arbReq.getLsbD 0
  | i + 1 => ppcBit arbReq i || arbReq.getLsbD (i + 1)

/-- `ppc_out` -/
def ppcOut (arbReq : BitVec n) : BitVec n := wires n (ppcBit arbReq)

/-- `arb_req` -/
def arbReq (mask reqI : BitVec n) : BitVec n :=
  let maskedReq := mask &&& reqI
  if maskedReq != 0 then maskedReq else reqI

/-- `winner` -/
def winner (mask reqI : BitVec n) : BitVec n :=
  ppcOut (arbReq mask reqI) ^^^ (ppcOut (arbReq mask reqI) <<< 1)

/-- `gnt_o` -/
def gntO (mask reqI : BitVec n) (readyI : Bool) : BitVec n :=
  if readyI then winner mask reqI else 0

/-- `valid_o` -/
def validO (reqI : BitVec n) : Bool := reqI != 0

/-- `req_i` and `ready_i` -/
structure Input (n : Nat) where
  reqI : BitVec n
  readyI : Bool

/-- What `mask` takes at an edge. -/
def maskNext (mask reqI : BitVec n) (readyI : Bool) : BitVec n :=
  if validO reqI && readyI then ppcOut (arbReq mask reqI) <<< 1
  else if validO reqI && !readyI then ppcOut (arbReq mask reqI)
  else mask

/-- `prim_arbiter_ppc` -/
def arbiter (n : Nat) : Circuit (BitVec n) (Input n) where
  reset := 0
  next mask input := maskNext mask input.reqI input.readyI

/-! ## Turns -/

/-- How far a port is from where the mask begins, around the circle of the ports. -/
def distance (n start port : Nat) : Nat := if start <= port then port - start else n - start + port

/-- The port whose turn it is: the nearest one that requests. -/
structure Turn (start : Nat) (reqI : BitVec n) (port : Nat) : Prop where
  requests : reqI.getLsbD port = true
  nearest : forall other, reqI.getLsbD other = true ->
    distance n start port <= distance n start other

/-- The mask has the ports from `start` on. -/
def From (start : Nat) (mask : BitVec n) : Prop :=
  start <= n ∧ forall port, port < n -> mask.getLsbD port = decide (start <= port)

variable {start port : Nat} {mask reqI : BitVec n}

theorem ppcBit_iff (arbReq : BitVec n) (i : Nat) :
    ppcBit arbReq i = true ↔ Exists fun j => j <= i ∧ arbReq.getLsbD j = true := by
  induction i with
  | zero =>
      constructor
      · exact fun here => ⟨0, Nat.le_refl 0, here⟩
      · rintro ⟨j, first, here⟩
        rw [Nat.le_zero.mp first] at here
        exact here
  | succ i ih =>
      rw [ppcBit, Bool.or_eq_true, ih]
      constructor
      · rintro (⟨j, before, here⟩ | here)
        · exact ⟨j, Nat.le_succ_of_le before, here⟩
        · exact ⟨i + 1, Nat.le_refl _, here⟩
      · rintro ⟨j, before, here⟩
        rcases Nat.le_succ_iff.mp before with early | last
        · exact .inl ⟨j, early, here⟩
        · rw [show j = i + 1 from last] at here
          exact .inr here

theorem ppcOut_getLsbD (arbReq : BitVec n) {i : Nat} (inside : i < n) :
    (ppcOut arbReq).getLsbD i = ppcBit arbReq i := getLsbD_wires _ inside

/-- The least of the ports that are considered. -/
structure Least (arbReq : BitVec n) (port : Nat) : Prop where
  requests : arbReq.getLsbD port = true
  least : forall other, arbReq.getLsbD other = true -> port <= other

theorem Least.inside {arbReq : BitVec n} (least : Least arbReq port) : port < n :=
  BitVec.lt_of_getLsbD least.requests

theorem ppcBit_of_least {arbReq : BitVec n} (least : Least arbReq port) (i : Nat) :
    ppcBit arbReq i = decide (port <= i) := by
  rw [Bool.eq_iff_iff, ppcBit_iff, decide_eq_true_iff]
  constructor
  · rintro ⟨j, before, here⟩
    exact Nat.le_trans (least.least j here) before
  · exact fun after => ⟨port, after, least.requests⟩

/-- Some port is the least, where one requests. -/
theorem exists_least {arbReq : BitVec n} (some : arbReq ≠ 0) :
    Exists fun port => Least arbReq port := by
  have exists_port : Exists fun port => arbReq.getLsbD port = true := by
    by_contra never
    refine some (BitVec.eq_of_getLsbD_eq fun i _ => ?_)
    refine Eq.trans ?_ BitVec.getLsbD_zero.symm
    exact Bool.eq_false_iff.mpr (fun here => never ⟨i, here⟩)
  classical
  exact ⟨Nat.find exists_port, Nat.find_spec exists_port, fun other here =>
    Nat.find_min' exists_port here⟩

/-- The port that is considered first is the nearest one. -/
theorem turn_of_least (starts : From start mask) (least : Least (arbReq mask reqI) port) :
    Turn start reqI port := by
  have inside := least.inside
  have masked : forall other, (mask &&& reqI).getLsbD other = true ↔
      start <= other ∧ reqI.getLsbD other = true := by
    intro other
    rw [BitVec.getLsbD_and, Bool.and_eq_true]
    constructor
    · rintro ⟨allowed, here⟩
      rw [starts.2 other (BitVec.lt_of_getLsbD here), decide_eq_true_iff] at allowed
      exact ⟨allowed, here⟩
    · rintro ⟨allowed, here⟩
      rw [starts.2 other (BitVec.lt_of_getLsbD here)]
      exact ⟨decide_eq_true allowed, here⟩
  rcases least with ⟨requests, least⟩
  unfold arbReq at requests least
  by_cases some : (mask &&& reqI) != 0
  · simp only [some, if_true] at requests least
    rcases (masked port).mp requests with ⟨after, here⟩
    refine ⟨here, fun other here' => ?_⟩
    have start_le := starts.1
    unfold distance
    rw [if_pos after]
    split
    · have order := least other ((masked other).mpr ⟨‹_›, here'⟩)
      omega
    · omega
  · simp only [some, if_false, Bool.false_eq_true] at requests least
    have none : mask &&& reqI = 0 := by simpa using some
    have before : forall other, reqI.getLsbD other = true -> ¬ start <= other := by
      intro other here after
      have both := (masked other).mpr ⟨after, here⟩
      rw [none] at both
      exact absurd both (by simp)
    refine ⟨requests, fun other here => ?_⟩
    unfold distance
    rw [if_neg (before port requests), if_neg (before other here)]
    exact Nat.add_le_add_left (least other here) _

/-- No two ports are as far. -/
theorem distance_injective {other : Nat} (start_le : start <= n) (inside : port < n)
    (inside' : other < n) (same : distance n start port = distance n start other) :
    port = other := by
  unfold distance at same
  split at same <;> split at same <;> omega

theorem Turn.unique {other : Nat} (start_le : start <= n) (one : Turn start reqI port)
    (another : Turn start reqI other) : port = other :=
  distance_injective start_le (BitVec.lt_of_getLsbD one.requests)
    (BitVec.lt_of_getLsbD another.requests)
    (Nat.le_antisymm (one.nearest other another.requests) (another.nearest port one.requests))

theorem arbReq_ne_zero (some : reqI ≠ 0) : arbReq mask reqI ≠ 0 := by
  unfold arbReq
  by_cases masked : (mask &&& reqI) != 0
  · simp only [masked, if_true]
    exact bne_iff_ne.mp masked
  · simp only [masked, if_false, Bool.false_eq_true]
    exact some

/-- The winner is the port whose turn it is. -/
theorem winner_getLsbD (starts : From start mask) (port : Nat) :
    (winner mask reqI).getLsbD port = true ↔ Turn start reqI port := by
  by_cases none : reqI = 0
  · subst none
    have nothing : arbReq mask (0 : BitVec n) = 0 := by simp [arbReq]
    have noBit : forall i, ppcBit (0 : BitVec n) i = false := by
      intro i
      refine Bool.eq_false_iff.mpr (fun here => ?_)
      rcases (ppcBit_iff _ i).mp here with ⟨j, _, bit⟩
      exact absurd bit (by simp)
    have noPort : ppcOut (0 : BitVec n) = 0 := by
      refine BitVec.eq_of_getLsbD_eq fun i inside => ?_
      rw [ppcOut_getLsbD _ inside, noBit]
      exact BitVec.getLsbD_zero.symm
    constructor
    · intro wins
      rw [winner, nothing, noPort] at wins
      exact absurd wins (by simp)
    · intro turn
      exact absurd turn.requests (by simp)
  · rcases exists_least (@arbReq_ne_zero _ mask _ none) with ⟨first, least⟩
    have turn := turn_of_least starts least
    have only : (winner mask reqI).getLsbD port = true ↔ port = first := by
      by_cases inside : port < n
      · rw [winner, BitVec.getLsbD_xor, BitVec.getLsbD_shiftLeft, ppcOut_getLsbD _ inside,
          ppcBit_of_least least]
        cases port with
        | zero => simp; omega
        | succ port =>
            have early : port < n := Nat.lt_of_succ_lt inside
            have shifted : (ppcOut (arbReq mask reqI)).getLsbD (port + 1 - 1) =
                decide (first <= port) := by
              rw [Nat.add_sub_cancel, ppcOut_getLsbD _ early, ppcBit_of_least least]
            rw [shifted]
            simp [inside]
            by_cases before : first <= port <;> simp [before] <;> omega
      · have outside : (winner mask reqI).getLsbD port = false :=
          BitVec.getLsbD_of_ge _ _ (Nat.not_lt.mp inside)
        rw [outside]
        refine ⟨fun wins => Bool.noConfusion wins, fun same => ?_⟩
        exact absurd (same ▸ least.inside) inside
    rw [only]
    constructor
    · rintro rfl
      exact turn
    · exact fun other => other.unique starts.1 turn

/-! ## Where the mask begins -/

/-- Where the mask begins after a cycle: where it began if no port requests, at the port whose turn
it is if it is not granted, and after this port if it is. -/
theorem from_next (starts : From start mask) (reqI : BitVec n) (readyI : Bool) :
    (reqI = 0 ∧ From start (maskNext mask reqI readyI)) ∨
      Exists fun port => Turn start reqI port ∧
        From (if readyI then port + 1 else port) (maskNext mask reqI readyI) := by
  by_cases none : reqI = 0
  · refine .inl ⟨none, ?_⟩
    have same : maskNext mask reqI readyI = mask := by simp [maskNext, validO, none]
    rw [same]
    exact starts
  · rcases exists_least (@arbReq_ne_zero _ mask _ none) with ⟨port, least⟩
    refine .inr ⟨port, turn_of_least starts least, ?_⟩
    have valid : validO reqI = true := bne_iff_ne.mpr none
    have inside := least.inside
    cases readyI
    · refine ⟨Nat.le_of_lt inside, fun other below => ?_⟩
      simp only [maskNext, valid, Bool.true_and, Bool.false_eq_true, if_false, Bool.not_false,
        if_true]
      rw [ppcOut_getLsbD _ below, ppcBit_of_least least]
    · refine ⟨inside, fun other below => ?_⟩
      simp only [maskNext, valid, Bool.true_and, if_true]
      rw [BitVec.getLsbD_shiftLeft]
      cases other with
      | zero => simp
      | succ other =>
          have early : other < n := Nat.lt_of_succ_lt below
          rw [Nat.add_sub_cancel, ppcOut_getLsbD _ early, ppcBit_of_least least]
          simp [below]

/-- The mask always begins somewhere. -/
theorem from_state (inputs : Nat -> Input n) (t : Nat) :
    Exists fun start => From start ((arbiter n).state inputs t) := by
  refine @Circuit.invariant _ _ (arbiter n) inputs (fun mask => Exists fun start => From start mask)
    ⟨n, Nat.le_refl n, fun port inside => ?_⟩ ?_ t
  · have outside : ¬ n <= port := Nat.not_le.mpr inside
    rw [decide_eq_false outside]
    exact BitVec.getLsbD_zero
  · rintro mask input ⟨start, starts⟩
    rcases from_next starts input.reqI input.readyI with ⟨_, same⟩ | ⟨port, _, next⟩
    · exact ⟨start, same⟩
    · exact ⟨_, next⟩

/-! ## Waiting -/

/-- A port that requests and is not granted comes nearer with each grant, and never gets farther. -/
theorem distance_next {w k : Nat} (starts : start <= n) (turn : Turn start reqI w)
    (requests : reqI.getLsbD k = true) (readyI : Bool) (ungranted : readyI = true -> w ≠ k) :
    distance n (if readyI then w + 1 else w) k + (if readyI then 1 else 0) <=
      distance n start k := by
  have inside : w < n := BitVec.lt_of_getLsbD turn.requests
  have inside' : k < n := BitVec.lt_of_getLsbD requests
  have nearest := turn.nearest k requests
  cases readyI
  · simp only [Bool.false_eq_true, if_false, Nat.add_zero]
    unfold distance at nearest ⊢
    split at nearest <;> split at nearest <;> split <;> omega
  · have other := ungranted rfl
    simp only [if_true]
    unfold distance at nearest ⊢
    split at nearest <;> split at nearest <;> split <;> omega

/-- The port is granted in a cycle. -/
def granted (inputs : Nat -> Input n) (t port : Nat) : Bool :=
  (gntO ((arbiter n).state inputs t) (inputs t).reqI (inputs t).readyI).getLsbD port

theorem granted_iff {inputs : Nat -> Input n} {t : Nat}
    (starts : From start ((arbiter n).state inputs t)) (port : Nat) :
    granted inputs t port = true ↔
      (inputs t).readyI = true ∧ Turn start (inputs t).reqI port := by
  unfold granted gntO
  cases (inputs t).readyI
  · simp
  · rw [if_pos rfl, winner_getLsbD starts]
    simp

/-- While a port requests and is not granted, the cycles in which the sink is ready are no more than
the ports that are nearer. -/
theorem ready_count {inputs : Nat -> Input n} {t m k : Nat}
    (starts : From start ((arbiter n).state inputs t))
    (requests : forall j, j < m -> (inputs (t + j)).reqI.getLsbD k = true)
    (ungranted : forall j, j < m -> granted inputs (t + j) k = false) :
    Exists fun start' => From start' ((arbiter n).state inputs (t + m)) ∧
      distance n start' k + (List.range m).countP (fun j => (inputs (t + j)).readyI) <=
        distance n start k := by
  induction m with
  | zero => exact ⟨start, starts, Nat.le_refl _⟩
  | succ m ih =>
      rcases ih (fun j inside => requests j (Nat.lt_succ_of_lt inside))
        (fun j inside => ungranted j (Nat.lt_succ_of_lt inside)) with ⟨before, here, bound⟩
      have request := requests m (Nat.lt_succ_self m)
      have waits := ungranted m (Nat.lt_succ_self m)
      rcases from_next here (inputs (t + m)).reqI (inputs (t + m)).readyI with
        ⟨none, _⟩ | ⟨w, turn, next⟩
      · rw [none] at request
        exact absurd request (by simp)
      · refine ⟨_, next, ?_⟩
        have step := distance_next here.1 turn request (inputs (t + m)).readyI (fun ready same => by
          have wins := (granted_iff here k).mpr ⟨ready, same ▸ turn⟩
          rw [waits] at wins
          exact Bool.noConfusion wins)
        rw [List.range_succ, List.countP_append, List.countP_singleton]
        omega

/-- In every cycle in which the sink is ready and some port requests, exactly one port is granted,
and it requests.  A port that keeps requesting is granted at the latest in the `n`th of these cycles,
whatever the other ports request. -/
theorem grants_fair (n : Nat) (inputs : Nat -> Input n) (t : Nat) :
    ((inputs t).readyI = true -> (inputs t).reqI ≠ 0 -> Exists fun port =>
      (inputs t).reqI.getLsbD port = true ∧
        forall other, granted inputs t other = true ↔ other = port) ∧
    ((inputs t).readyI = false -> forall port, granted inputs t port = false) ∧
    forall k, k < n -> forall m,
      (forall j, j < m -> (inputs (t + j)).reqI.getLsbD k = true) ->
      (List.range m).countP (fun j => (inputs (t + j)).readyI) = n ->
      Exists fun j => j < m ∧ granted inputs (t + j) k = true := by
  rcases from_state inputs t with ⟨start, starts⟩
  refine ⟨fun ready some => ?_, fun unready port => ?_, fun k inside m requests ready => ?_⟩
  · rcases exists_least (@arbReq_ne_zero _ ((arbiter n).state inputs t) _ some) with ⟨port, least⟩
    have turn := turn_of_least starts least
    refine ⟨port, turn.requests, fun other => ?_⟩
    rw [granted_iff starts]
    constructor
    · exact fun wins => wins.2.unique starts.1 turn
    · rintro rfl
      exact ⟨ready, turn⟩
  · refine Bool.eq_false_iff.mpr (fun wins => ?_)
    rw [((granted_iff starts port).mp wins).1] at unready
    exact Bool.noConfusion unready
  · by_contra never
    have ungranted : forall j, j < m -> granted inputs (t + j) k = false :=
      fun j below => Bool.eq_false_iff.mpr (fun wins => never ⟨j, below, wins⟩)
    rcases ready_count starts requests ungranted with ⟨start', _, bound⟩
    rw [ready] at bound
    have near : distance n start k < n := by
      have start_le := starts.1
      unfold distance
      split <;> omega
    omega

end PrimArbiterPpc
end SunburstChip
