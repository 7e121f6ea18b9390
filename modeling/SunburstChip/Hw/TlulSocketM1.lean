import Mathlib.Algebra.Group.Nat.Defs
import SunburstChip.Hw.PrimArbiterPpc
import SunburstChip.Hw.Tlul

namespace SunburstChip
namespace TlulSocketM1

open Tlul

/-!
# Several hosts, one device

`tlul_socket_m1.sv`, with queues of no entries as the crossbars have it.  The
arbiter chooses one of the hosts that request.  The number of the host goes into
the low bits of the source of the request, and the response, which carries the
same source, is led back by these bits.  So each host sees the device as if it
had it for itself.
-/

variable (m stIdW : Nat)

/-- A request with `shifted_id` for its source. -/
def shift (i : Nat) (a : Request) : Request :=
  { a with source := (a.source <<< stIdW) ||| BitVec.ofNat 8 i }

/-- The host that the source of a response stands for. -/
def steer (source : BitVec 8) : Nat := source.toNat % 2 ^ stIdW

/-- `hfifo_rspid` -/
def rspId (source : BitVec 8) : BitVec 8 := source >>> stIdW

/-- A response with `hfifo_rspid` for its source, after it has passed both queues. -/
def unshift (r : Response) : Response := fifoRsp { fifoRsp r with source := rspId stIdW r.source }

/-- The inputs of the socket: the hosts' side of their links, and the device's side of its link. -/
structure Input where
  tlHI : Nat -> H2d
  tlDI : D2h

/-- `hrequest` -/
def hrequest (tlHI : Nat -> H2d) : BitVec m := wires m (fun i => (tlHI i).a.isSome)

/-- The host that wins the arbitration. -/
def winner (mask : BitVec m) (tlHI : Nat -> H2d) : Option Nat :=
  (List.range m).find? (fun i => (PrimArbiterPpc.winner mask (hrequest m tlHI)).getLsbD i)

/-- `tl_d_o` -/
def tlDO (mask : BitVec m) (input : Input) : H2d where
  a :=
    (winner m mask input.tlHI).bind (fun i => (input.tlHI i).a.map (shift stIdW i))
  dReady :=
    match input.tlDI.d with
    | some r => (List.range m).any (fun i => (input.tlHI i).dReady && steer stIdW r.source == i)
    | none => false

/-- `tl_h_o[i]` -/
def tlHO (mask : BitVec m) (input : Input) (i : Nat) : D2h where
  d := (input.tlDI.d.filter (fun r => steer stIdW r.source == i)).map (unshift stIdW)
  aReady :=
    (PrimArbiterPpc.gntO mask (hrequest m input.tlHI) input.tlDI.aReady).getLsbD i

/-- What the flops, which are those of the arbiter, take at an edge. -/
def step (mask : BitVec m) (input : Input) : BitVec m :=
  PrimArbiterPpc.maskNext mask (hrequest m input.tlHI) input.tlDI.aReady

/-- A run of the socket, with the links of the hosts and of the device. -/
structure Run where
  host : Nat -> Link
  device : Link
  mask : Nat -> BitVec m
  start : mask 0 = 0
  next : forall t, mask (t + 1) = step m (mask t) ⟨fun i => (host i).h2d t, device.d2h t⟩
  up : forall i, i < m -> forall t, (host i).d2h t =
    tlHO m stIdW (mask t) ⟨fun i => (host i).h2d t, device.d2h t⟩ i
  down : forall t, device.h2d t = tlDO m stIdW (mask t) ⟨fun i => (host i).h2d t, device.d2h t⟩

namespace Run

variable {m stIdW} (run : Run m stIdW)

/-- What the hosts request in a cycle. -/
def requested (t : Nat) : BitVec m := hrequest m (fun i => (run.host i).h2d t)

theorem from_mask (t : Nat) : Exists fun start => PrimArbiterPpc.From start (run.mask t) := by
  have same : run.mask t = (PrimArbiterPpc.arbiter m).state
      (fun k => ⟨run.requested k, (run.device.d2h k).aReady⟩) t := by
    induction t with
    | zero => exact run.start
    | succ t ih => rw [run.next, ih, Circuit.state_succ]; rfl
  rw [same]
  exact PrimArbiterPpc.from_state _ t

theorem requested_getLsbD (t : Nat) {i : Nat} (inside : i < m) :
    (run.requested t).getLsbD i = ((run.host i).h2d t).a.isSome := getLsbD_wires _ inside

/-- The winner of a cycle is a host that requests, and nobody wins where nobody requests. -/
theorem winner_spec (t : Nat) :
    (Exists fun w => w < m ∧ winner m (run.mask t) (fun i => (run.host i).h2d t) = some w ∧
      ((run.host w).h2d t).a.isSome = true ∧
      forall i, (PrimArbiterPpc.winner (run.mask t) (run.requested t)).getLsbD i = true ↔ i = w) ∨
    (winner m (run.mask t) (fun i => (run.host i).h2d t) = none ∧
      forall i, i < m -> ((run.host i).h2d t).a = none) := by
  rcases run.from_mask t with ⟨start, starts⟩
  by_cases none : run.requested t = 0
  · refine .inr ⟨?_, fun i inside => ?_⟩
    · refine List.find?_eq_none.mpr (fun i _ wins => ?_)
      have turn := (PrimArbiterPpc.winner_getLsbD starts i).mp wins
      have requests := turn.requests
      change (run.requested t).getLsbD i = true at requests
      rw [none] at requests
      exact absurd requests (by simp)
    · have silent := run.requested_getLsbD t inside
      rw [none] at silent
      cases request : ((run.host i).h2d t).a with
      | none => rfl
      | some a =>
          rw [request] at silent
          exact absurd silent (by simp)
  · rcases PrimArbiterPpc.exists_least (@PrimArbiterPpc.arbReq_ne_zero _ (run.mask t) _ none) with
      ⟨w, least⟩
    have turn := PrimArbiterPpc.turn_of_least starts least
    have inside := least.inside
    have only : forall i,
        (PrimArbiterPpc.winner (run.mask t) (run.requested t)).getLsbD i = true ↔ i = w := by
      intro i
      rw [PrimArbiterPpc.winner_getLsbD starts]
      constructor
      · exact fun other => other.unique starts.1 turn
      · rintro rfl
        exact turn
    refine .inl ⟨w, inside, ?_, ?_, only⟩
    · rcases found : winner m (run.mask t) (fun i => (run.host i).h2d t) with _ | i
      · have loses := List.find?_eq_none.mp found w (List.mem_range.mpr inside)
        exact absurd ((only w).mpr rfl) loses
      · exact congrArg some ((only i).mp (List.find?_some found))
    · rw [<- run.requested_getLsbD t inside]
      exact turn.requests

end Run

/-! ## Sources -/

section

variable {stIdW}

theorem steer_shift {i : Nat} (inside : i < 2 ^ stIdW) (fits : stIdW <= 8) (a : Request) :
    steer stIdW (shift stIdW i a).source = i := by
  have small : i < 2 ^ 8 := Nat.lt_of_lt_of_le inside (Nat.pow_le_pow_right (by decide) fits)
  have divides : 2 ^ stIdW ∣ 2 ^ 8 := Nat.pow_dvd_pow 2 fits
  simp only [steer, shift, BitVec.toNat_or, BitVec.toNat_shiftLeft, BitVec.toNat_ofNat]
  rw [Nat.or_mod_two_pow, Nat.mod_eq_of_lt small, Nat.mod_mod_of_dvd _ divides,
    Nat.shiftLeft_eq, Nat.mul_mod_left, Nat.zero_or, Nat.mod_eq_of_lt inside]

/-- The source of a request is found again behind the number of the host. -/
theorem source_shift {i : Nat} (inside : i < 2 ^ stIdW) (a : Request)
    (inRange : a.source.toNat < 2 ^ (8 - stIdW)) :
    rspId stIdW (shift stIdW i a).source = a.source := by
  refine BitVec.eq_of_getLsbD_eq fun j below => ?_
  have number : (BitVec.ofNat 8 i).getLsbD (stIdW + j) = false := by
    rw [BitVec.getLsbD_ofNat, Nat.testBit_lt_two_pow, Bool.and_false]
    exact Nat.lt_of_lt_of_le inside (Nat.pow_le_pow_right (by decide) (Nat.le_add_right _ _))
  rw [rspId, shift, BitVec.getLsbD_ushiftRight, BitVec.getLsbD_or, BitVec.getLsbD_shiftLeft, number,
    Nat.add_sub_cancel_left]
  by_cases room : stIdW + j < 8
  · simp [room]
  · have high : a.source.getLsbD j = false := by
      rw [BitVec.getLsbD, Nat.testBit_lt_two_pow]
      exact Nat.lt_of_lt_of_le inRange (Nat.pow_le_pow_right (by decide) (by omega))
    simp [room, high]

end

namespace Run

variable {m stIdW} {run : Run m stIdW}

/-! ## What the hosts see -/

/-- The device takes the request of the host that is granted. -/
theorem accepted_host (fits : stIdW <= 8) (enough : m <= 2 ^ stIdW) (t : Nat) {i : Nat}
    (inside : i < m) :
    (accepted (run.device.h2d t) (run.device.d2h t)).filter
        (fun a => steer stIdW a.source == i) =
      (accepted ((run.host i).h2d t) ((run.host i).d2h t)).map (shift stIdW i) := by
  have up := run.up i inside t
  have down := run.down t
  rw [up, down]
  unfold accepted tlHO tlDO
  dsimp only
  rcases ready : (run.device.d2h t).aReady with _ | _
  · simp [PrimArbiterPpc.gntO]
  · rcases run.winner_spec t with ⟨w, real, wins, requests, only⟩ | ⟨nobody, silent⟩
    · change forall k, (PrimArbiterPpc.winner (run.mask t)
        (hrequest m fun i => (run.host i).h2d t)).getLsbD k = true ↔ k = w at only
      rcases Option.isSome_iff_exists.mp requests with ⟨a, request⟩
      have steered := steer_shift (Nat.lt_of_lt_of_le real enough) fits a
      rw [wins, Option.bind_some, request, Option.map_some]
      simp only [PrimArbiterPpc.gntO, if_true]
      by_cases here : i = w
      · subst here
        rw [if_pos ((only i).mpr rfl), request]
        simp [Option.filter, steered]
      · rw [if_neg (fun same => here ((only i).mp same))]
        simp [Option.filter, steered, Ne.symm here]
    · rw [nobody, silent i inside]
      simp

/-- A host is given the responses whose sources stand for it. -/
theorem delivered_host (t : Nat) {i : Nat} (inside : i < m) :
    delivered ((run.host i).h2d t) ((run.host i).d2h t) =
      ((delivered (run.device.h2d t) (run.device.d2h t)).filter
        (fun r => steer stIdW r.source == i)).map (unshift stIdW) := by
  have up := run.up i inside t
  have down := run.down t
  rw [up, down]
  unfold delivered tlHO tlDO
  dsimp only
  rcases run.device.d2h t with ⟨_ | r, aReady⟩
  · simp
  · by_cases here : steer stIdW r.source = i
    · have ready : (List.range m).any (fun k => ((run.host k).h2d t).dReady &&
          steer stIdW r.source == k) = ((run.host i).h2d t).dReady := by
        rw [Bool.eq_iff_iff, List.any_eq_true]
        constructor
        · rintro ⟨k, _, both⟩
          rw [Bool.and_eq_true, beq_iff_eq, here] at both
          rw [both.2]
          exact both.1
        · intro isReady
          refine ⟨i, List.mem_range.mpr inside, ?_⟩
          rw [isReady, here]
          exact beq_self_eq_true i
      simp only [ready]
      cases ((run.host i).h2d t).dReady <;> simp [Option.filter, here]
    · have nothing : forall ready : Bool, (if ready = true then some r else none).filter
          (fun r => steer stIdW r.source == i) = none := by
        intro ready
        cases ready <;> simp [here]
      have unseen : (some r).filter (fun r => steer stIdW r.source == i) = none := nothing true
      rw [unseen]
      refine Eq.trans ?_ (congrArg (Option.map (unshift stIdW)) (nothing _)).symm
      cases ((run.host i).h2d t).dReady <;> rfl

/-- The requests of a host are those that the device has with its number. -/
theorem requests_host (fits : stIdW <= 8) (enough : m <= 2 ^ stIdW) {i : Nat} (inside : i < m)
    (t : Nat) : (run.device.requests t).filter (fun a => steer stIdW a.source == i) =
      ((run.host i).requests t).map (shift stIdW i) := by
  induction t with
  | zero => rfl
  | succ t ih =>
      rw [Link.requests_succ, Link.requests_succ, List.filter_append, ih, List.map_append,
        <- Option.toList_filter, accepted_host fits enough t inside, Option.toList_map]

/-- The responses of a host are those that the device has given with its number. -/
theorem responses_host {i : Nat} (inside : i < m) (t : Nat) : (run.host i).responses t =
    ((run.device.responses t).filter (fun r => steer stIdW r.source == i)).map
      (unshift stIdW) := by
  induction t with
  | zero => rfl
  | succ t ih =>
      rw [Link.responses_succ, Link.responses_succ, ih, delivered_host t inside,
        List.filter_append, List.map_append, Option.toList_map, Option.toList_filter]

/-- The sources of the requests of a host, as the device has them. -/
theorem sources_host (fits : stIdW <= 8) (enough : m <= 2 ^ stIdW) {i : Nat} (inside : i < m)
    {t : Nat}
    (inRange : forall a, a ∈ (run.host i).requests t -> a.source.toNat < 2 ^ (8 - stIdW)) :
    (((run.device.requests t).map Request.source).filter (fun s => steer stIdW s == i)).map
        (rspId stIdW) = ((run.host i).requests t).map Request.source := by
  rw [List.filter_map]
  change ((((run.device.requests t).filter (fun a => steer stIdW a.source == i)).map
    Request.source).map (rspId stIdW)) = _
  rw [requests_host fits enough inside, List.map_map, List.map_map]
  refine List.map_congr_left fun a among => ?_
  exact source_shift (Nat.lt_of_lt_of_le inside enough) a (inRange a among)

/-- As long as the device answers its requests in order and the hosts leave the high bits of the
sources zero, each host has its requests answered in order, and the device has exactly the requests
of the hosts. -/
theorem host_serves (run : Run m stIdW) (fits : stIdW <= 8) (enough : m <= 2 ^ stIdW)
    (serves : run.device.Serves) {i : Nat} (inside : i < m)
    (inRange : forall t a, a ∈ (run.host i).requests t -> a.source.toNat < 2 ^ (8 - stIdW)) :
    (run.host i).Serves := by
  intro t r offered
  rw [run.up i inside] at offered
  unfold tlHO at offered
  dsimp only at offered
  rcases found : (run.device.d2h t).d with _ | r'
  · rw [found] at offered
    exact absurd offered (by simp)
  · rw [found] at offered
    have here : steer stIdW r'.source = i := by
      by_contra other
      rw [Option.filter_some, if_neg (by simpa using other)] at offered
      exact absurd offered (by simp)
    rw [Option.filter_some, if_pos (beq_iff_eq.mpr here)] at offered
    have source : r.source = rspId stIdW r'.source := by
      rw [<- Option.some.inj offered]
      rfl
    have begins := ((serves t r' found).filter (fun s => steer stIdW s == i)).map (rspId stIdW)
    have one : [r'.source].filter (fun s => steer stIdW s == i) = [r'.source] :=
      List.filter_cons_of_pos (beq_iff_eq.mpr here)
    rw [sources_host fits enough inside (inRange t), List.filter_append, List.map_append,
      one] at begins
    rw [responses_host inside, List.map_map, source]
    rw [List.filter_map, List.map_map] at begins
    exact begins

/-- What a host has outstanding, the device has. -/
theorem host_bounded (run : Run m stIdW) (fits : stIdW <= 8) (enough : m <= 2 ^ stIdW)
    (serves : run.device.Serves) {i : Nat} (inside : i < m) {t bound : Nat}
    (bounded : (run.device.requests t).length <= (run.device.responses t).length + bound) :
    ((run.host i).requests t).length <= ((run.host i).responses t).length + bound := by
  rcases serves.inOrder t with ⟨rest, whole⟩
  have lengths := congrArg List.length whole
  rw [List.length_append, List.length_map, List.length_map] at lengths
  have parts := congrArg (fun l => (l.filter (fun s => steer stIdW s == i)).length) whole
  simp only [List.filter_append, List.length_append, List.filter_map, List.length_map] at parts
  have few : (rest.filter (fun s => steer stIdW s == i)).length <= rest.length :=
    List.length_filter_le _ _
  have requests := congrArg List.length (@requests_host _ _ run fits enough _ inside t)
  rw [List.length_map] at requests
  rw [responses_host inside, List.length_map, <- requests]
  change _ + _ = ((run.device.requests t).filter (fun a => steer stIdW a.source == i)).length
    at parts
  change _ <= ((run.device.responses t).filter (fun r => steer stIdW r.source == i)).length + _
  change ((run.device.responses t).filter (fun r => steer stIdW r.source == i)).length + _ = _
    at parts
  omega

end Run
end TlulSocketM1
end SunburstChip
