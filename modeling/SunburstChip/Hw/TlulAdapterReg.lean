import SunburstChip.Hw.Tlul

namespace SunburstChip
namespace TlulAdapterReg

open Tlul

/-!
# The register adapter

`tlul_adapter_reg.sv` with its default parameters: the registers answer in the
cycle of the access (`AccessLatency` 0), and integrity is neither checked nor
generated.  The adapter turns a request into a read or a write of a register, holds
what the register answered, and has it on the response channel until it is taken.
Meanwhile it takes no other request.
-/

/-- The flops of the adapter. -/
structure State where
  outstanding : Bool
  reqid : BitVec 8
  reqsz : BitVec 2
  rspop : TlDOp
  rdata : BitVec 32
  error : Bool
deriving DecidableEq

/-- The inputs: the host's side of the link, `en_ifetch_i`, and what comes from the registers. -/
structure Input where
  tl : H2d
  enIfetch : Mubi4
  busy : Bool
  rdata : BitVec 32
  error : Bool
deriving DecidableEq

/-- The access to the registers: `re_o`, `we_o`, `addr_o`, `wdata_o` and `be_o`. -/
structure RegAccess where
  re : Bool
  we : Bool
  addr : BitVec 32
  wdata : BitVec 32
  be : BitVec 4
deriving DecidableEq

/-- `a_ready` -/
def aReady (s : State) (tl : H2d) (busy : Bool) : Bool :=
  !(s.outstanding || (tl.a.isSome && busy))

/-- The response channel. -/
def response (s : State) : Option Response :=
  if s.outstanding then
    some
      { opcode := s.rspop
        param := 0
        size := s.reqsz
        source := s.reqid
        sink := 0
        data := s.rdata
        user := ⟨0, 0, false⟩
        error := s.error }
  else none

/-- `tl_o` -/
def tlO (s : State) (tl : H2d) (busy : Bool) : D2h := ⟨response s, aReady s tl busy⟩

/-- `wr_req`, for a request that is taken. -/
def wrReq (a : Request) : Bool := a.opcode == putFullData || a.opcode == putPartialData

/-- `rd_req`, for a request that is taken. -/
def rdReq (a : Request) : Bool := a.opcode == get

/-- `err_internal`, for a request that is taken.  There is no check of the command's integrity. -/
def errInternal (enIfetch : Mubi4) (a : Request) : Bool :=
  let addrAlignErr := wrReq a && a.address.extractLsb' 0 2 != 0
  let malformedMetaErr := tlAUserChk a.user
  let instrError := mubi4TestInvalid a.user.instrType ||
    (mubi4TestTrueStrict a.user.instrType && mubi4TestFalseLoose enIfetch)
  addrAlignErr || malformedMetaErr || tlulErr a || instrError

/-- The access that a request makes, where the registers have addresses of `regAw` bits. -/
def accessOf (regAw : Nat) (enIfetch : Mubi4) (a : Request) : RegAccess where
  re := rdReq a && !errInternal enIfetch a
  we := wrReq a && !errInternal enIfetch a
  addr := if regAw <= 2 then 0 else (a.address.extractLsb' 2 (regAw - 2) ++ 0#2).setWidth 32
  wdata := a.data
  be := a.mask

variable {a : Request} {regAw : Nat} {enIfetch : Mubi4} {s : State} {tl : H2d} {busy : Bool}

/-- The registers are only read for a request that passes the checks. -/
theorem errInternal_of_re (re : (accessOf regAw enIfetch a).re = true) :
    errInternal enIfetch a = false := by
  have both : (rdReq a && !errInternal enIfetch a) = true := re
  rw [Bool.and_eq_true, Bool.not_eq_true'] at both
  exact both.2

/-- The access to the registers in a cycle. -/
def regAccess (regAw : Nat) (s : State) (tl : H2d) (busy : Bool) (enIfetch : Mubi4) : RegAccess :=
  match accepted tl (tlO s tl busy) with
  | none => ⟨false, false, 0, 0, 0⟩
  | some a => accessOf regAw enIfetch a

theorem regAccess_quiet (request : accepted tl (tlO s tl busy) = none) :
    regAccess regAw s tl busy enIfetch = ⟨false, false, 0, 0, 0⟩ := by
  rw [regAccess, request]

theorem regAccess_accepted (request : accepted tl (tlO s tl busy) = some a) :
    regAccess regAw s tl busy enIfetch = accessOf regAw enIfetch a := by
  rw [regAccess, request]

/-- What the flops take with a request. -/
def taken (input : Input) (a : Request) : State where
  outstanding := true
  reqid := a.source
  reqsz := a.size
  rspop := if rdReq a then .accessAckData else .accessAck
  rdata :=
    if input.error || errInternal input.enIfetch a || wrReq a then .allOnes 32 else input.rdata
  error := input.error || errInternal input.enIfetch a

/-- What the flops take at an edge. -/
def step (s : State) (input : Input) : State :=
  match accepted input.tl (tlO s input.tl input.busy) with
  | some a => taken input a
  | none => if s.outstanding && input.tl.dReady then { s with outstanding := false } else s

/-- `tlul_adapter_reg` -/
def adapter : Circuit State Input where
  reset := ⟨false, 0, 0, .accessAck, 0, false⟩
  next := step

theorem step_accepted {input : Input}
    (request : accepted input.tl (tlO s input.tl input.busy) = some a) :
    step s input = taken input a := by
  rw [step, request]

theorem step_quiet {input : Input}
    (request : accepted input.tl (tlO s input.tl input.busy) = none) :
    step s input =
      if s.outstanding && input.tl.dReady then { s with outstanding := false } else s := by
  rw [step, request]

/-! ## One response a request -/

/-- The response that a request is owed, from what comes from the registers when it is taken. -/
def owed (input : Input) (a : Request) : Response where
  opcode := if rdReq a then .accessAckData else .accessAck
  param := 0
  size := a.size
  source := a.source
  sink := 0
  data := if input.error || errInternal input.enIfetch a || wrReq a then .allOnes 32 else input.rdata
  user := ⟨0, 0, false⟩
  error := input.error || errInternal input.enIfetch a

/-- The responses that are owed for the request of a cycle. -/
def owes (s : State) (input : Input) : List Response :=
  ((accepted input.tl (tlO s input.tl input.busy)).map (owed input)).toList

/-- The response that is taken in a cycle. -/
def delivers (s : State) (input : Input) : List Response :=
  (delivered input.tl (tlO s input.tl input.busy)).toList

theorem response_taken (input : Input) (a : Request) :
    response (taken input a) = some (owed input a) := rfl

/-- A request is only taken while no response is outstanding. -/
theorem accepted_idle (taken : accepted tl (tlO s tl busy) = some a) : s.outstanding = false := by
  rcases outstanding : s.outstanding with _ | _
  · rfl
  · simp [accepted, tlO, aReady, outstanding] at taken

/-- In a cycle, what has been owed and is owed now is what is delivered and what is then owed. -/
theorem owed_next (s : State) (input : Input) :
    (response s).toList ++ owes s input =
      delivers s input ++ (response (step s input)).toList := by
  rcases request : accepted input.tl (tlO s input.tl input.busy) with _ | a
  · have nothing : owes s input = [] := by
      rw [owes, request]
      rfl
    rw [step_quiet request, nothing]
    rcases outstanding : s.outstanding with _ | _ <;> rcases ready : input.tl.dReady with _ | _ <;>
      simp [delivers, delivered, tlO, response, outstanding, ready]
  · have idle := accepted_idle request
    have one : owes s input = [owed input a] := by
      rw [owes, request]
      rfl
    rw [step_accepted request, response_taken, one]
    simp [delivers, delivered, tlO, response, idle]

/-- Each request is answered by one response, in the order of the requests, with what the registers
answered it.  At most the response of the last request has not been delivered. -/
theorem responses_of_requests (inputs : Nat -> Input) (t : Nat) :
    before (fun k => owes (adapter.state inputs k) (inputs k)) t =
      before (fun k => delivers (adapter.state inputs k) (inputs k)) t ++
        (response (adapter.state inputs t)).toList := by
  induction t with
  | zero => rfl
  | succ t ih =>
      rw [before_succ, before_succ, ih, List.append_assoc, owed_next, List.append_assoc]
      rfl

/-! ## The adapter on a link -/

/-- The link of an adapter. -/
def link (inputs : Nat -> Input) : Link where
  h2d t := (inputs t).tl
  d2h t := tlO (adapter.state inputs t) (inputs t).tl (inputs t).busy

/-- The adapter does what the bus asks of a device. -/
theorem link_serves (inputs : Nat -> Input) : (link inputs).Serves := by
  refine Link.serves_of_owed (fun t => (response (adapter.state inputs t)).toList)
    (Link.sources_of_owed _ rfl ?_) ?_
  · intro t
    refine ⟨owes (adapter.state inputs t) (inputs t), ?_, owed_next _ _⟩
    change _ = (accepted (inputs t).tl (tlO _ (inputs t).tl (inputs t).busy)).toList.map _
    rw [owes]
    cases accepted (inputs t).tl (tlO (adapter.state inputs t) (inputs t).tl (inputs t).busy) <;> rfl
  · intro t r offered
    change response (adapter.state inputs t) = some r at offered
    rw [offered]
    exact ⟨[], rfl⟩

end TlulAdapterReg
end SunburstChip
