import SunburstChip.Lib.Circuit

namespace SunburstChip
namespace Tlul

/-!
# The bus

`tlul_pkg.sv`.  A host sends requests to a device on one channel and the device
sends responses on the other one.  What is on a channel is taken in a cycle in
which the other side is ready.  A channel on which nothing is valid carries
nothing here.

What has crossed a link before a cycle is two lists, and what the bus asks of a
device is a relation between them.
-/

/-- `tl_a_op_e`, whose signals may carry any three bits. -/
abbrev TlAOp := BitVec 3

def putFullData : TlAOp := 0

def putPartialData : TlAOp := 1

def get : TlAOp := 4

/-- `tl_d_op_e` -/
inductive TlDOp where
  | accessAck
  | accessAckData
deriving DecidableEq

/-- `mubi4_t` -/
abbrev Mubi4 := BitVec 4

def muBi4True : Mubi4 := 0x6

def muBi4False : Mubi4 := 0x9

/-- `mubi4_test_invalid` -/
def mubi4TestInvalid (val : Mubi4) : Bool := !(val == muBi4True || val == muBi4False)

/-- `mubi4_test_true_strict` -/
def mubi4TestTrueStrict (val : Mubi4) : Bool := muBi4True == val

/-- `mubi4_test_false_loose` -/
def mubi4TestFalseLoose (val : Mubi4) : Bool := muBi4True != val

/-- `tl_a_user_t` -/
structure TlAUser where
  rsvd : BitVec 5
  instrType : Mubi4
  cmdIntg : BitVec 7
  dataIntg : BitVec 7
  capability : Bool
deriving DecidableEq

/-- `tl_d_user_t` -/
structure TlDUser where
  rspIntg : BitVec 7
  dataIntg : BitVec 7
  capability : Bool
deriving DecidableEq

/-- What is on the request channel when `a_valid` is up. -/
structure Request where
  opcode : TlAOp
  param : BitVec 3
  size : BitVec 2
  source : BitVec 8
  address : BitVec 32
  mask : BitVec 4
  data : BitVec 32
  user : TlAUser
deriving DecidableEq

/-- What is on the response channel when `d_valid` is up. -/
structure Response where
  opcode : TlDOp
  param : BitVec 3
  size : BitVec 2
  source : BitVec 8
  sink : BitVec 1
  data : BitVec 32
  user : TlDUser
  error : Bool
deriving DecidableEq

/-- `tl_h2d_t` -/
structure H2d where
  a : Option Request
  dReady : Bool
deriving DecidableEq

/-- `tl_d2h_t` -/
structure D2h where
  d : Option Response
  aReady : Bool
deriving DecidableEq

/-- `tl_a_user_chk` -/
def tlAUserChk (user : TlAUser) : Bool := mubi4TestInvalid user.instrType

/-! ## What crosses a link -/

/-- The request that is taken in a cycle. -/
def accepted (h2d : H2d) (d2h : D2h) : Option Request := if d2h.aReady then h2d.a else none

/-- The response that is taken in a cycle. -/
def delivered (h2d : H2d) (d2h : D2h) : Option Response := if h2d.dReady then d2h.d else none

theorem offered_of_delivered {h2d : H2d} {d2h : D2h} {r : Response}
    (response : delivered h2d d2h = some r) : d2h.d = some r := by
  unfold delivered at response
  split at response
  · exact response
  · exact absurd response (by simp)

/-- The two directions of a link, in every cycle. -/
structure Link where
  h2d : Nat -> H2d
  d2h : Nat -> D2h

namespace Link

variable (link : Link)

/-- The requests that have been taken before a cycle. -/
def requests : Nat -> List Request :=
  before (fun t => (accepted (link.h2d t) (link.d2h t)).toList)

/-- The responses that have been taken before a cycle. -/
def responses : Nat -> List Response :=
  before (fun t => (delivered (link.h2d t) (link.d2h t)).toList)

theorem requests_succ (t : Nat) : link.requests (t + 1) =
    link.requests t ++ (accepted (link.h2d t) (link.d2h t)).toList := rfl

theorem responses_succ (t : Nat) : link.responses (t + 1) =
    link.responses t ++ (delivered (link.h2d t) (link.d2h t)).toList := rfl

variable {link} in
/-- A request that has been taken has been on the channel. -/
theorem mem_requests {t : Nat} {a : Request} (among : a ∈ link.requests t) :
    Exists fun k => (link.h2d k).a = some a := by
  induction t with
  | zero => exact absurd among List.not_mem_nil
  | succ t ih =>
      rw [requests_succ] at among
      rcases List.mem_append.mp among with before | now
      · exact ih before
      · have request := Option.mem_toList.mp now
        unfold accepted at request
        split at request
        · exact ⟨t, request⟩
        · exact absurd request (by simp)

/-- No more requests are taken than there are cycles before the channel is quiet. -/
theorem length_requests_le {k : Nat} (quiet : forall t, k <= t -> (link.h2d t).a = none) (t : Nat) :
    (link.requests t).length <= min t k := by
  induction t with
  | zero => exact Nat.zero_le _
  | succ t ih =>
      rw [requests_succ, List.length_append]
      by_cases late : k <= t
      · rw [accepted, quiet t late, ite_self]
        exact Nat.le_trans ih (by omega)
      · have one : (accepted (link.h2d t) (link.d2h t)).toList.length <= 1 := Option.length_toList_le
        omega

/-- What the bus asks of a device: a response that it has on the channel is for the oldest request
that it has taken in an earlier cycle and not answered, and carries the source of this request.  So
no request is answered twice, and no response is made up. -/
def Serves : Prop :=
  forall t r, (link.d2h t).d = some r ->
    (link.responses t).map Response.source ++ [r.source] <+:
      (link.requests t).map Request.source

variable {link}

/-- A device that owes a response for each request it takes, and owes what it has not delivered,
oldest first: the sources of the requests are those of what it has delivered and of what it owes. -/
theorem sources_of_owed (owed : Nat -> List Response) (start : owed 0 = [])
    (step : forall t, Exists fun new : List Response =>
      new.map Response.source =
          (accepted (link.h2d t) (link.d2h t)).toList.map Request.source ∧
        owed t ++ new = (delivered (link.h2d t) (link.d2h t)).toList ++ owed (t + 1)) (t : Nat) :
    (link.requests t).map Request.source =
      (link.responses t ++ owed t).map Response.source := by
  induction t with
  | zero =>
      rw [start]
      rfl
  | succ t ih =>
      rcases step t with ⟨new, same, balance⟩
      rw [requests_succ, responses_succ, List.map_append, ih, <- same, <- List.map_append,
        List.append_assoc, balance, List.append_assoc]

/-- A device that has a response on the channel only if it is the first that it owes does what the
bus asks. -/
theorem serves_of_owed (owed : Nat -> List Response)
    (sources : forall t, (link.requests t).map Request.source =
      (link.responses t ++ owed t).map Response.source)
    (offers : forall t r, (link.d2h t).d = some r -> Exists fun rest => owed t = r :: rest) :
    link.Serves := by
  intro t r offered
  rcases offers t r offered with ⟨rest, first⟩
  rw [sources, first, List.map_append]
  exact (List.prefix_append_right_inj _).mpr (List.prefix_append [r.source] _)

/-- Responses carry the sources of the requests, in the order of these. -/
theorem Serves.inOrder (serves : link.Serves) (t : Nat) :
    (link.responses t).map Response.source <+: (link.requests t).map Request.source := by
  induction t with
  | zero => exact List.prefix_rfl
  | succ t ih =>
      have grows : (link.requests t).map Request.source <+:
          (link.requests (t + 1)).map Request.source := by
        rw [requests_succ, List.map_append]
        exact List.prefix_append _ _
      rw [responses_succ, List.map_append]
      rcases response : delivered (link.h2d t) (link.d2h t) with _ | r
      · rw [Option.toList_none, List.map_nil, List.append_nil]
        exact ih.trans grows
      · exact (serves t r (offered_of_delivered response)).trans grows

end Link

/-! ## Queues without entries -/

/-- What `tlul_fifo_sync` makes of a response: it passes data only where there are data. -/
def fifoRsp (response : Response) : Response :=
  { response with data := if response.opcode = .accessAckData then response.data else 0 }

/-- `tlul_fifo_sync`, whose queues have no entries, towards the host. -/
def fifoD2h (d2h : D2h) : D2h := ⟨d2h.d.map fifoRsp, d2h.aReady⟩

theorem fifoRsp_twice (r : Response) : fifoRsp (fifoRsp r) = fifoRsp r := by
  unfold fifoRsp
  split <;> simp_all

/-! ## The checks of a request -/

/-- `tlul_err`, for a request that is valid. -/
def tlulErr (a : Request) : Bool :=
  let opFull := a.opcode == putFullData
  let opPartial := a.opcode == putPartialData
  let opGet := a.opcode == get
  let instrWrErr := mubi4TestTrueStrict a.user.instrType && (opFull || opPartial)
  let instrTypeErr := mubi4TestInvalid a.user.instrType
  let opcodeAllowed := opFull || opPartial || opGet
  let mask : BitVec 4 := 1 <<< (a.address.extractLsb' 0 2).toNat
  let checks : Bool × Bool × Bool :=
    match a.size with
    | 0 => (true, (a.mask &&& ~~~mask) == 0, (a.mask &&& mask) != 0)
    | 1 =>
        (!a.address.getLsbD 0,
          if a.address.getLsbD 1 then (a.mask &&& 0b0011) == 0 else (a.mask &&& 0b1100) == 0,
          if a.address.getLsbD 1 then a.mask.extractLsb' 2 2 == 0b11
          else a.mask.extractLsb' 0 2 == 0b11)
    | 2 => (a.address.extractLsb' 0 2 == 0, true, a.mask == 0b1111)
    | _ => (false, false, false)
  let aConfigAllowed := checks.1 && checks.2.1 && (opGet || opPartial || checks.2.2)
  !(opcodeAllowed && aConfigAllowed) || instrWrErr || instrTypeErr

end Tlul
end SunburstChip
