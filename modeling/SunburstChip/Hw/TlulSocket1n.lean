import SunburstChip.Hw.Tlul

namespace SunburstChip

open Tlul

/-!
# One host, several devices

`tlul_socket_1n.sv`, with queues of no entries as the crossbars have it, and
`tlul_err_resp.sv`.  A request goes to the device that is selected for it, or to
the error responder where there is no such device.  It is held back while a
response of another device is outstanding, so that the host has the responses in
the order of its requests although they come from different devices.
-/

namespace TlulErrResp

/-- The flops of the error responder. -/
structure State where
  errRspPending : Bool
  errSource : BitVec 8
  errOpcode : TlAOp
  errSize : BitVec 2
  errInstrType : Mubi4
deriving DecidableEq

/-- The response channel. -/
def response (s : State) : Option Response :=
  if s.errRspPending then
    some
      { opcode := if s.errOpcode == get then .accessAckData else .accessAck
        param := 0
        size := s.errSize
        source := s.errSource
        sink := 0
        data := if mubi4TestTrueStrict s.errInstrType then 0 else .allOnes 32
        user := ⟨0, 0, false⟩
        error := true }
  else none

/-- `tl_h_o` -/
def tlHO (s : State) : D2h := ⟨response s, !s.errRspPending⟩

/-- What the flops take with a request. -/
def taken (a : Request) : State := ⟨true, a.source, a.opcode, a.size, a.user.instrType⟩

/-- What the flops take at an edge. -/
def step (s : State) (tlHI : H2d) : State :=
  if s.errRspPending && tlHI.dReady then { s with errRspPending := false }
  else
    match accepted tlHI (tlHO s) with
    | some a => taken a
    | none => s

/-- In a cycle, what has been owed and is owed now is what is delivered and what is then owed. -/
theorem owed_next (s : State) (tlHI : H2d) :
    Exists fun new : List Response =>
      new.map Response.source = (accepted tlHI (tlHO s)).toList.map Request.source ∧
        (response s).toList ++ new =
          (delivered tlHI (tlHO s)).toList ++ (response (step s tlHI)).toList := by
  rcases request : accepted tlHI (tlHO s) with _ | a
  · refine ⟨[], rfl, ?_⟩
    rw [step, request]
    rcases outstanding : s.errRspPending with _ | _ <;> rcases ready : tlHI.dReady with _ | _ <;>
      simp [delivered, tlHO, response, outstanding, ready]
  · have idle : s.errRspPending = false := by
      rcases pending : s.errRspPending with _ | _
      · rfl
      · simp [accepted, tlHO, pending] at request
    refine ⟨(response (taken a)).toList, rfl, ?_⟩
    have next : step s tlHI = taken a := by
      simp only [step, request, idle, Bool.false_and, Bool.false_eq_true, if_false]
    rw [next]
    simp [delivered, tlHO, response, idle]

end TlulErrResp

namespace TlulSocket1n

/-- The flops of the socket, with those of the error responder. -/
structure State where
  numReqOutstanding : BitVec 9
  devSelectOutstanding : Nat
  errResp : TlulErrResp.State
deriving DecidableEq

/-- What the flops hold after reset. -/
def reset : State := ⟨0, 0, ⟨false, 0, get, 0, muBi4False⟩⟩

variable (n : Nat) (devSelect : Request -> Nat)

/-- The port of a request: the selected device, or `n` for the error responder. -/
def port (a : Request) : Nat := if devSelect a < n then devSelect a else n

/-- `hold_all_requests`, for the request of the host. -/
def holdAllRequests (s : State) (a : Request) : Bool :=
  s.numReqOutstanding != 0 && devSelect a != s.devSelectOutstanding

/-- `tl_u_o[i]` -/
def tlUO (s : State) (tlHI : H2d) (i : Nat) : H2d where
  a := tlHI.a.filter (fun a => port n devSelect a == i && !holdAllRequests devSelect s a)
  dReady := tlHI.dReady

/-- `tl_u_i[i]`, where the devices have `tlDI` on their links. -/
def tlUI (s : State) (tlDI : Nat -> D2h) (i : Nat) : D2h :=
  if i < n then fifoD2h (tlDI i) else TlulErrResp.tlHO s.errResp

/-- `tl_t_i` -/
def tlTI (s : State) (tlHI : H2d) (tlDI : Nat -> D2h) : D2h where
  d := (tlUI n s tlDI (if s.devSelectOutstanding < n then s.devSelectOutstanding else n)).d
  aReady :=
    match tlHI.a with
    | some a => !holdAllRequests devSelect s a && (tlUI n s tlDI (port n devSelect a)).aReady
    | none => false

/-- `tl_h_o` -/
def tlHO (s : State) (tlHI : H2d) (tlDI : Nat -> D2h) : D2h :=
  fifoD2h (tlTI n devSelect s tlHI tlDI)

/-- What the flops take at an edge. -/
def step (s : State) (tlHI : H2d) (tlDI : Nat -> D2h) : State :=
  let acceptTReq := accepted tlHI (tlTI n devSelect s tlHI tlDI)
  let acceptTRsp := delivered tlHI (tlTI n devSelect s tlHI tlDI)
  { numReqOutstanding :=
      match acceptTReq, acceptTRsp with
      | some _, none => s.numReqOutstanding + 1
      | none, some _ => s.numReqOutstanding - 1
      | some _, some _ => s.numReqOutstanding
      | none, none => s.numReqOutstanding
    devSelectOutstanding :=
      match acceptTReq with
      | some a => devSelect a
      | none => s.devSelectOutstanding
    errResp := TlulErrResp.step s.errResp (tlUO n devSelect s tlHI n) }

/-- The inputs of the socket: the host's side of its link, and the devices' side of theirs. -/
structure Input where
  tlHI : H2d
  tlDI : Nat -> D2h

/-- `tlul_socket_1n` -/
def socket : Circuit State Input where
  reset := reset
  next s input := step n devSelect s input.tlHI input.tlDI

/-- A run of the socket, with the links of the host and of the ports.  The last port is that of the
error responder. -/
structure Run where
  host : Link
  device : Nat -> Link
  state : Nat -> State
  start : state 0 = reset
  next : forall t, state (t + 1) =
    step n devSelect (state t) (host.h2d t) (fun i => (device i).d2h t)
  up : forall t, host.d2h t =
    tlHO n devSelect (state t) (host.h2d t) (fun i => (device i).d2h t)
  down : forall i, i <= n -> forall t, (device i).h2d t =
    tlUO n devSelect (state t) (host.h2d t) i
  err : forall t, (device n).d2h t = TlulErrResp.tlHO (state t).errResp

/-- Only the links of the devices matter. -/
theorem tlTI_congr (s : State) (tlHI : H2d) {tlDI tlDI' : Nat -> D2h}
    (same : forall i, i < n -> tlDI i = tlDI' i) :
    tlTI n devSelect s tlHI tlDI = tlTI n devSelect s tlHI tlDI' := by
  have ports : tlUI n s tlDI = tlUI n s tlDI' := by
    funext i
    unfold tlUI
    split
    · rw [same i ‹_›]
    · rfl
  unfold tlTI
  rw [ports]

theorem step_congr (s : State) (tlHI : H2d) {tlDI tlDI' : Nat -> D2h}
    (same : forall i, i < n -> tlDI i = tlDI' i) :
    step n devSelect s tlHI tlDI = step n devSelect s tlHI tlDI' := by
  unfold step
  rw [tlTI_congr n devSelect s tlHI same]

theorem tlHO_congr (s : State) (tlHI : H2d) {tlDI tlDI' : Nat -> D2h}
    (same : forall i, i < n -> tlDI i = tlDI' i) :
    tlHO n devSelect s tlHI tlDI = tlHO n devSelect s tlHI tlDI' := by
  unfold tlHO
  rw [tlTI_congr n devSelect s tlHI same]

/-- The run of the socket with the given inputs. -/
def runOf (inputs : Nat -> Input) : Run n devSelect where
  host :=
    { h2d := fun t => (inputs t).tlHI
      d2h := fun t => tlHO n devSelect ((socket n devSelect).state inputs t) (inputs t).tlHI
        (inputs t).tlDI }
  device i :=
    { h2d := fun t => tlUO n devSelect ((socket n devSelect).state inputs t) (inputs t).tlHI i
      d2h := fun t =>
        if i < n then (inputs t).tlDI i
        else TlulErrResp.tlHO ((socket n devSelect).state inputs t).errResp }
  state := (socket n devSelect).state inputs
  start := rfl
  next _ := step_congr n devSelect _ _ (fun _ device => (if_pos device).symm)
  up _ := tlHO_congr n devSelect _ _ (fun _ device => (if_pos device).symm)
  down _ _ _ := rfl
  err _ := if_neg (Nat.lt_irrefl n)

namespace Run

variable {n : Nat} {devSelect : Request -> Nat} (run : Run n devSelect)

/-- The request that the socket takes in a cycle. -/
def taken (t : Nat) : Option Request := accepted (run.host.h2d t) (run.host.d2h t)

/-- The response that the socket passes on in a cycle, as it comes from the port. -/
def passed (t : Nat) : Option Response :=
  delivered (run.host.h2d t)
    (tlTI n devSelect (run.state t) (run.host.h2d t) (fun i => (run.device i).d2h t))

/-- The port that responses are taken from. -/
def responder (t : Nat) : Nat :=
  if (run.state t).devSelectOutstanding < n then (run.state t).devSelectOutstanding else n

theorem responder_le (t : Nat) : run.responder t <= n := by
  unfold responder
  split
  · exact Nat.le_of_lt ‹_›
  · exact Nat.le_refl n

theorem port_le (a : Request) : port n devSelect a <= n := by
  unfold port
  split
  · exact Nat.le_of_lt ‹_›
  · exact Nat.le_refl n

theorem taken_eq (t : Nat) : run.taken t = accepted (run.host.h2d t)
    (tlTI n devSelect (run.state t) (run.host.h2d t) (fun i => (run.device i).d2h t)) := by
  rw [taken, run.up]
  rfl

theorem delivered_eq (t : Nat) :
    delivered (run.host.h2d t) (run.host.d2h t) = (run.passed t).map fifoRsp := by
  rw [passed, run.up]
  unfold delivered
  split <;> rfl

/-- What the socket sees of a port. -/
theorem tlUI_eq (t : Nat) {i : Nat} (inside : i <= n) :
    (tlUI n (run.state t) (fun i => (run.device i).d2h t) i).aReady =
        ((run.device i).d2h t).aReady ∧
      (tlUI n (run.state t) (fun i => (run.device i).d2h t) i).d =
        if i < n then ((run.device i).d2h t).d.map fifoRsp else ((run.device i).d2h t).d := by
  unfold tlUI
  by_cases device : i < n
  · rw [if_pos device, if_pos device]
    exact ⟨rfl, rfl⟩
  · have last : i = n := Nat.le_antisymm inside (Nat.not_lt.mp device)
    rw [if_neg device, if_neg device, last, run.err]
    exact ⟨rfl, rfl⟩

/-- A port takes the requests that are for it. -/
theorem accepted_port (t : Nat) {i : Nat} (inside : i <= n) :
    accepted ((run.device i).h2d t) ((run.device i).d2h t) =
      (run.taken t).filter (fun a => port n devSelect a == i) := by
  rw [taken_eq, run.down i inside]
  unfold accepted tlUO tlTI
  rcases run.host.h2d t with ⟨_ | a, dReady⟩
  · simp
  · simp only [(run.tlUI_eq t (port_le a)).1]
    rcases hold : holdAllRequests devSelect (run.state t) a with _ | _
    · by_cases here : port n devSelect a = i
      · subst here
        cases ((run.device (port n devSelect a)).d2h t).aReady <;> simp [Option.filter, hold]
      · cases ((run.device (port n devSelect a)).d2h t).aReady <;> simp [Option.filter, here]
    · simp [Option.filter, hold]

/-- A port whose responses are not passed on delivers none, if it has none on the channel. -/
theorem delivered_port (t : Nat) {i : Nat} (inside : i <= n)
    (silent : i ≠ run.responder t -> ((run.device i).d2h t).d = none) :
    delivered ((run.device i).h2d t) ((run.device i).d2h t) =
      if i = run.responder t then delivered (run.host.h2d t) ((run.device i).d2h t) else none := by
  by_cases here : i = run.responder t
  · rw [if_pos here, run.down i inside]
    rfl
  · rw [if_neg here, delivered, silent here]
    exact ite_self none

/-- The response that is passed on, but for the data it has no use for. -/
theorem passed_eq (t : Nat) : (run.passed t).map fifoRsp =
    (delivered (run.host.h2d t) ((run.device (run.responder t)).d2h t)).map fifoRsp := by
  have same := (run.tlUI_eq t (run.responder_le t)).2
  unfold passed delivered tlTI
  change (if _ then (tlUI n (run.state t) (fun i => (run.device i).d2h t) (run.responder t)).d
    else none).map fifoRsp = _
  rw [same]
  split
  · split
    · rw [Option.map_map]
      congr 1
      exact funext fifoRsp_twice
    · rfl
  · rfl

theorem passed_isSome (t : Nat) : (run.passed t).isSome =
    (delivered (run.host.h2d t) ((run.device (run.responder t)).d2h t)).isSome := by
  have same := congrArg Option.isSome (run.passed_eq t)
  rw [Option.isSome_map, Option.isSome_map] at same
  exact same

/-- Of two lists of which one begins the other, the elements at one place are the same. -/
theorem eq_of_prefix {β : Type} {left right rest : List β} {x y : β}
    (same : left.length = right.length) (begins : left ++ [x] <+: right ++ y :: rest) : x = y := by
  rcases begins with ⟨tail, whole⟩
  rw [List.append_assoc] at whole
  exact (List.cons.inj (List.append_inj whole same).2).1

/-- A port has the requests that are for it. -/
theorem requests_port {i : Nat} (inside : i <= n) (t : Nat) : (run.device i).requests t =
    (run.host.requests t).filter (fun a => port n devSelect a == i) := by
  induction t with
  | zero => rfl
  | succ t ih =>
      have now : (accepted (run.host.h2d t) (run.host.d2h t)) = run.taken t := rfl
      rw [Link.requests_succ, Link.requests_succ, run.accepted_port t inside, List.filter_append,
        ih, Option.toList_filter, now]

/-! ## What has been answered -/

/-- What the requests and responses of the host and of the ports are made of: the requests that have
been answered, each with its response, and those that have not. -/
structure Balance (t : Nat) (answered : List (Request × Response)) (pending : List Request) :
    Prop where
  requests : run.host.requests t = answered.map Prod.fst ++ pending
  responses : run.host.responses t = answered.map (fun pair => fifoRsp pair.2)
  fromPort : forall i, i <= n -> (run.device i).responses t =
    (answered.filter (fun pair => port n devSelect pair.1 == i)).map Prod.snd
  sources : forall pair, pair ∈ answered -> pair.2.source = pair.1.source
  together : forall a, a ∈ pending -> devSelect a = (run.state t).devSelectOutstanding
  count : (run.state t).numReqOutstanding.toNat = pending.length

/-- A request is taken while no response of another device is outstanding. -/
theorem free_of_taken {t : Nat} {a : Request} (request : run.taken t = some a) :
    (run.state t).numReqOutstanding = 0 ∨
      devSelect a = (run.state t).devSelectOutstanding := by
  rw [taken_eq, accepted] at request
  by_cases ready : (tlTI n devSelect (run.state t) (run.host.h2d t)
      (fun i => (run.device i).d2h t)).aReady = true
  · rw [if_pos ready] at request
    rw [tlTI, request] at ready
    simp only [Bool.and_eq_true, Bool.not_eq_true', holdAllRequests, Bool.and_eq_false_iff,
      bne_eq_false_iff_eq] at ready
    exact ready.1
  · rw [if_neg ready] at request
    exact absurd request (by simp)

theorem devSelectOutstanding_next (t : Nat) : (run.state (t + 1)).devSelectOutstanding =
    match run.taken t with
    | some a => devSelect a
    | none => (run.state t).devSelectOutstanding := by
  rw [run.next, taken_eq]
  rfl

theorem numReqOutstanding_next (t : Nat) : (run.state (t + 1)).numReqOutstanding =
    if (run.taken t).isSome = (run.passed t).isSome then (run.state t).numReqOutstanding
    else if (run.taken t).isSome then (run.state t).numReqOutstanding + 1
    else (run.state t).numReqOutstanding - 1 := by
  rw [run.next, taken_eq, passed]
  unfold step
  dsimp only
  cases accepted (run.host.h2d t) (tlTI n devSelect (run.state t) (run.host.h2d t)
      (fun i => (run.device i).d2h t)) <;>
    cases delivered (run.host.h2d t) (tlTI n devSelect (run.state t) (run.host.h2d t)
      (fun i => (run.device i).d2h t)) <;> simp

namespace Balance

variable {run} {t : Nat} {answered : List (Request × Response)} {pending : List Request}

theorem port_pending (balance : run.Balance t answered pending) {a : Request}
    (isPending : a ∈ pending) : port n devSelect a = run.responder t := by
  rw [port, responder, balance.together a isPending]

/-- What a port has taken and not answered: all that is pending, or nothing. -/
theorem outstanding (balance : run.Balance t answered pending) {i : Nat} (inside : i <= n) :
    ((run.device i).requests t).length = ((run.device i).responses t).length +
      if i = run.responder t then pending.length else 0 := by
  rw [run.requests_port inside, balance.fromPort i inside, balance.requests, List.filter_append,
    List.length_append, List.filter_map, List.length_map, List.length_map]
  congr 1
  by_cases here : i = run.responder t
  · rw [if_pos here]
    refine congrArg List.length (List.filter_eq_self.mpr fun a isPending => ?_)
    rw [balance.port_pending isPending, here]
    exact beq_self_eq_true _
  · rw [if_neg here]
    refine List.length_eq_zero_iff.mpr (List.filter_eq_nil_iff.mpr fun a isPending same => here ?_)
    rw [<- balance.port_pending isPending]
    exact (eq_of_beq same).symm

/-- Only the port that responses are taken from has one on the channel. -/
theorem silent (balance : run.Balance t answered pending)
    (serve : forall i, i <= n -> (run.device i).Serves) {i : Nat} (inside : i <= n)
    (other : i ≠ run.responder t) : ((run.device i).d2h t).d = none := by
  rcases offered : ((run.device i).d2h t).d with _ | r
  · rfl
  · have more := (serve i inside t r offered).length_le
    rw [List.length_append, List.length_map, List.length_map, balance.outstanding inside,
      if_neg other] at more
    exact absurd more (Nat.not_succ_le_self _)

/-- A response on its channel answers the request that has been pending for longest. -/
theorem first_pending (balance : run.Balance t answered pending)
    (serve : forall i, i <= n -> (run.device i).Serves) {r : Response}
    (offered : ((run.device (run.responder t)).d2h t).d = some r) :
    Exists fun p => Exists fun rest => pending = p :: rest ∧ r.source = p.source := by
  have begins := serve _ (run.responder_le t) t r offered
  have more := begins.length_le
  rw [List.length_append, List.length_map, List.length_map,
    balance.outstanding (run.responder_le t), if_pos rfl] at more
  cases pending with
  | nil => exact absurd more (Nat.not_succ_le_self _)
  | cons p rest =>
      refine ⟨p, rest, rfl, ?_⟩
      -- The port has its requests in the order of the host.
      have isFor : (port n devSelect p == run.responder t) = true := by
        rw [balance.port_pending List.mem_cons_self]
        exact beq_self_eq_true _
      have kept : (p :: rest).filter (fun a => port n devSelect a == run.responder t) =
          p :: rest.filter (fun a => port n devSelect a == run.responder t) :=
        List.filter_cons_of_pos isFor
      rw [run.requests_port (run.responder_le t), balance.fromPort _ (run.responder_le t),
        balance.requests, List.filter_append, kept, List.map_append, List.filter_map,
        List.map_cons] at begins
      refine eq_of_prefix ?_ begins
      simp only [List.length_map]
      rfl

theorem together_next (balance : run.Balance t answered pending) {rest : List Request}
    (part : forall a, a ∈ rest -> a ∈ pending) {a : Request}
    (isPending : a ∈ rest ++ (run.taken t).toList) :
    devSelect a = (run.state (t + 1)).devSelectOutstanding := by
  rw [devSelectOutstanding_next]
  rcases request : run.taken t with _ | b
  · rw [request, Option.toList_none, List.append_nil] at isPending
    exact balance.together a (part a isPending)
  · rw [request, Option.toList_some] at isPending
    rcases List.mem_append.mp isPending with before | now
    · -- Something is pending, so that the request was only taken because it is for the same device.
      rcases run.free_of_taken request with none | same
      · have empty : pending = [] := by
          rw [<- List.length_eq_zero_iff, <- balance.count, none]
          rfl
        rw [empty] at part
        exact absurd (part a before) List.not_mem_nil
      · exact (balance.together a (part a before)).trans same.symm
    · exact congrArg devSelect (List.mem_singleton.mp now)

/-- No response is delivered: the request of the cycle is pending besides the others. -/
theorem next_quiet (balance : run.Balance t answered pending)
    (serve : forall i, i <= n -> (run.device i).Serves) (bounded : pending.length <= 256)
    (response : delivered (run.host.h2d t) ((run.device (run.responder t)).d2h t) = none) :
    run.Balance (t + 1) answered (pending ++ (run.taken t).toList) where
  requests := by
    rw [Link.requests_succ, balance.requests, List.append_assoc]
    rfl
  responses := by
    rw [Link.responses_succ, delivered_eq, passed_eq, response, balance.responses]
    exact List.append_nil _
  fromPort i inside := by
    have nothing : delivered ((run.device i).h2d t) ((run.device i).d2h t) = none := by
      rw [run.delivered_port t inside (balance.silent serve inside)]
      split
      · rw [‹i = _›, response]
      · rfl
    rw [Link.responses_succ, nothing, balance.fromPort i inside]
    exact List.append_nil _
  sources := balance.sources
  together a isPending := balance.together_next (fun _ before => before) isPending
  count := by
    have unpassed : (run.passed t).isSome = false := by
      rw [passed_isSome, response]
      rfl
    rw [numReqOutstanding_next, unpassed, List.length_append, Option.length_toList,
      <- balance.count]
    have bound : (run.state t).numReqOutstanding.toNat <= 256 := balance.count ▸ bounded
    cases (run.taken t).isSome
    · rfl
    · change ((run.state t).numReqOutstanding + 1).toNat = _
      rw [BitVec.toNat_add]
      exact Nat.mod_eq_of_lt (Nat.lt_of_le_of_lt (Nat.succ_le_succ bound) (by decide))

/-- A response is delivered: it answers the request that has been pending for longest. -/
theorem next_answer {p : Request} {rest : List Request} {r : Response}
    (balance : run.Balance t answered (p :: rest))
    (serve : forall i, i <= n -> (run.device i).Serves)
    (response : delivered (run.host.h2d t) ((run.device (run.responder t)).d2h t) = some r)
    (source : r.source = p.source) :
    run.Balance (t + 1) (answered ++ [(p, r)]) (rest ++ (run.taken t).toList) := by
  have here : port n devSelect p = run.responder t := balance.port_pending List.mem_cons_self
  have fromPort : forall i, i <= n -> (run.device i).responses (t + 1) =
      ((answered ++ [(p, r)]).filter (fun pair => port n devSelect pair.1 == i)).map Prod.snd := by
    intro i inside
    rw [Link.responses_succ, run.delivered_port t inside (balance.silent serve inside),
      balance.fromPort i inside, List.filter_append, List.map_append]
    congr 1
    by_cases same : i = run.responder t
    · rw [if_pos same, same, response]
      simp [here]
    · rw [if_neg same]
      simp [here, Ne.symm same]
  refine
    { requests := ?_
      responses := ?_
      fromPort := fromPort
      sources := ?_
      together := fun a isPending =>
        balance.together_next (fun _ before => List.mem_cons_of_mem p before) isPending
      count := ?_ }
  · rw [Link.requests_succ, balance.requests, List.map_append, List.append_assoc,
      List.append_assoc]
    rfl
  · rw [Link.responses_succ, delivered_eq, passed_eq, response, balance.responses, List.map_append]
    rfl
  · intro pair among
    rcases List.mem_append.mp among with before | now
    · exact balance.sources pair before
    · rw [List.mem_singleton.mp now]
      exact source
  · have passed : (run.passed t).isSome = true := by
      rw [passed_isSome, response]
      rfl
    have count := balance.count
    rw [List.length_cons] at count
    rw [numReqOutstanding_next, passed, List.length_append, Option.length_toList]
    cases (run.taken t).isSome
    · change ((run.state t).numReqOutstanding - 1).toNat = _
      have one : (1 : BitVec 9) <= (run.state t).numReqOutstanding := by
        rw [BitVec.le_def, count]
        exact Nat.succ_le_succ (Nat.zero_le _)
      rw [BitVec.toNat_sub_of_le one, count]
      rfl
    · exact count

end Balance

variable {run}

/-! ## The error responder -/

theorem err_sources (t : Nat) : ((run.device n).requests t).map Request.source =
    ((run.device n).responses t ++ (TlulErrResp.response (run.state t).errResp).toList).map
      Response.source := by
  refine Link.sources_of_owed (fun t => (TlulErrResp.response (run.state t).errResp).toList) ?_ ?_ t
  · rw [run.start]
    rfl
  · intro t
    rw [run.down n (Nat.le_refl n), run.err, run.next]
    exact TlulErrResp.owed_next _ _

theorem err_serves : (run.device n).Serves := by
  refine Link.serves_of_owed _ err_sources ?_
  intro t r offered
  rw [run.err] at offered
  change TlulErrResp.response (run.state t).errResp = some r at offered
  rw [offered]
  exact ⟨[], rfl⟩

theorem err_bounded (t : Nat) :
    ((run.device n).requests t).length <= ((run.device n).responses t).length + 256 := by
  have lengths := congrArg List.length (@err_sources _ _ run t)
  rw [List.length_map, List.length_map, List.length_append, Option.length_toList] at lengths
  split at lengths <;> omega

/-! ## What the host sees -/

/-- All ports do what the bus asks of a device. -/
theorem ports_serve (serve : forall i, i < n -> (run.device i).Serves) {i : Nat}
    (inside : i <= n) : (run.device i).Serves := by
  rcases Nat.lt_or_eq_of_le inside with device | last
  · exact serve i device
  · rw [last]
    exact err_serves

/-- What has crossed the links before any cycle balances. -/
theorem balanced (serve : forall i, i < n -> (run.device i).Serves)
    (bounded : forall i, i < n -> forall t,
      ((run.device i).requests t).length <= ((run.device i).responses t).length + 256) (t : Nat) :
    Exists fun answered => Exists fun pending => run.Balance t answered pending := by
  have boundedAll : forall i, i <= n -> forall t,
      ((run.device i).requests t).length <= ((run.device i).responses t).length + 256 := by
    intro i inside t
    rcases Nat.lt_or_eq_of_le inside with device | last
    · exact bounded i device t
    · rw [last]
      exact err_bounded t
  induction t with
  | zero =>
      refine ⟨[], [], rfl, rfl, fun i _ => rfl, ?_, ?_, ?_⟩
      · exact fun pair among => absurd among List.not_mem_nil
      · exact fun a among => absurd among List.not_mem_nil
      · rw [run.start]
        rfl
  | succ t ih =>
      rcases ih with ⟨answered, pending, balance⟩
      have bound := boundedAll _ (run.responder_le t) t
      rw [balance.outstanding (run.responder_le t), if_pos rfl] at bound
      rcases response : delivered (run.host.h2d t) ((run.device (run.responder t)).d2h t) with _ | r
      · exact ⟨_, _, balance.next_quiet (fun i => ports_serve serve) (by omega) response⟩
      · rcases balance.first_pending (fun i => ports_serve serve) (offered_of_delivered response)
          with ⟨p, rest, rfl, source⟩
        exact ⟨_, _, balance.next_answer (fun i => ports_serve serve) response source⟩

/-- A response on the channel of the host is one on the channel of the port, but for its data. -/
theorem offered_by_responder {t : Nat} {r : Response} (offered : (run.host.d2h t).d = some r) :
    Exists fun r' => ((run.device (run.responder t)).d2h t).d = some r' ∧ r'.source = r.source := by
  have same := (run.tlUI_eq t (run.responder_le t)).2
  rw [run.up] at offered
  change (tlUI n (run.state t) (fun i => (run.device i).d2h t) (run.responder t)).d.map fifoRsp =
    some r at offered
  rw [same] at offered
  rcases found : ((run.device (run.responder t)).d2h t).d with _ | r'
  · rw [found] at offered
    split at offered <;> exact absurd offered (by simp)
  · refine ⟨r', rfl, ?_⟩
    rw [found] at offered
    split at offered
    · have twice : some (fifoRsp (fifoRsp r')) = some r := offered
      rw [<- Option.some.inj twice]
      rfl
    · have once : some (fifoRsp r') = some r := offered
      rw [<- Option.some.inj once]
      rfl

/-- What the error responder answers is an error. -/
theorem err_error (t : Nat) : forall r, r ∈ (run.device n).responses t -> r.error = true := by
  induction t with
  | zero => exact fun r among => absurd among List.not_mem_nil
  | succ t ih =>
      intro r among
      rw [Link.responses_succ] at among
      rcases List.mem_append.mp among with before | now
      · exact ih r before
      · have offered := offered_of_delivered (Option.mem_toList.mp now)
        rw [run.err] at offered
        unfold TlulErrResp.tlHO TlulErrResp.response at offered
        dsimp only at offered
        split at offered
        · rw [<- Option.some.inj offered]
        · exact absurd offered (by simp)

/-- The host is served in order if the devices answer their own requests in order. -/
theorem host_serves (serve : forall i, i < n -> (run.device i).Serves)
    (bounded : forall i, i < n -> forall t,
      ((run.device i).requests t).length <= ((run.device i).responses t).length + 256) :
    run.host.Serves := by
  intro t r offered
  rcases run.balanced serve bounded t with ⟨answered, pending, balance⟩
  rcases offered_by_responder offered with ⟨r', offered', same⟩
  rcases balance.first_pending (fun i => ports_serve serve) offered' with ⟨p, rest, rfl, source⟩
  have sources : (answered.map (fun pair => fifoRsp pair.2)).map Response.source =
      (answered.map Prod.fst).map Request.source := by
    rw [List.map_map, List.map_map]
    exact List.map_congr_left balance.sources
  rw [balance.responses, balance.requests, sources, List.map_append, <- same, source]
  exact (List.prefix_append_right_inj _).mpr (List.prefix_append [p.source] _)

/-- However the host and the devices behave on their links, as long as each device answers its own
requests in order: the socket answers the requests of the host in order, each with the response that
the selected device has given to it, and each device has exactly the requests that are for it. -/
theorem responses_in_order (run : Run n devSelect)
    (serve : forall i, i < n -> (run.device i).Serves)
    (bounded : forall i, i < n -> forall t,
      ((run.device i).requests t).length <= ((run.device i).responses t).length + 256) :
    run.host.Serves ∧ forall t, Exists fun answered : List (Request × Response) =>
      (Exists fun pending => run.host.requests t = answered.map Prod.fst ++ pending) ∧
      run.host.responses t = answered.map (fun pair => fifoRsp pair.2) ∧
      (forall pair, pair ∈ answered -> pair.2.source = pair.1.source) ∧
      forall i, i <= n ->
        (run.device i).requests t =
          (run.host.requests t).filter (fun a => port n devSelect a == i) ∧
        (run.device i).responses t =
          (answered.filter (fun pair => port n devSelect pair.1 == i)).map Prod.snd := by
  refine ⟨host_serves serve bounded, fun t => ?_⟩
  rcases run.balanced serve bounded t with ⟨answered, pending, balance⟩
  exact ⟨answered, ⟨pending, balance.requests⟩, balance.responses, balance.sources,
    fun i inside => ⟨run.requests_port inside t, balance.fromPort i inside⟩⟩

/-- The host reads from one device and from another one, and has to wait with the second request for
the response to the first one. -/
def twoReads (t : Nat) : Input where
  tlHI :=
    { a :=
        if t = 0 then some ⟨get, 0, 2, 7, 0, 0xf, 0, ⟨0, muBi4False, 0, 0, false⟩⟩
        else if t <= 2 then some ⟨get, 0, 2, 8, 4, 0xf, 0, ⟨0, muBi4False, 0, 0, false⟩⟩
        else none
      dReady := true }
  tlDI i :=
    { d :=
        if i = 0 ∧ t = 1 then some ⟨.accessAckData, 0, 2, 7, 0, 0xaa, ⟨0, 0, false⟩, false⟩
        else if i = 1 ∧ t = 3 then some ⟨.accessAckData, 0, 2, 8, 0, 0xbb, ⟨0, 0, false⟩, false⟩
        else none
      aReady := true }

/-- Its run on a socket that selects the device by an address bit. -/
def twoReadsRun : Run 2 (fun a => (a.address >>> 2).toNat) :=
  runOf 2 (fun a => (a.address >>> 2).toNat) twoReads

theorem responses_in_order_twoReads : twoReadsRun.host.Serves ∧
    (twoReadsRun.host.responses 4).map Response.data = [0xaa, 0xbb] := by
  refine ⟨(responses_in_order twoReadsRun ?_ ?_).1, by decide +kernel⟩
  · intro i device t r offered
    have answers : (twoReadsRun.device i).d2h t = (twoReads t).tlDI i := if_pos device
    rw [answers] at offered
    unfold twoReads at offered
    dsimp only at offered
    split at offered
    · next first =>
        rcases first with ⟨rfl, rfl⟩
        rw [<- Option.some.inj offered]
        decide +kernel
    · split at offered
      · next second =>
          rcases second with ⟨rfl, rfl⟩
          rw [<- Option.some.inj offered]
          decide +kernel
      · cases offered
  · intro i _ t
    have quiet (t : Nat) (late : 3 <= t) : ((twoReadsRun.device i).h2d t).a = none := by
      have none : (twoReads t).tlHI.a = none := by
        unfold twoReads
        rw [if_neg (by omega), if_neg (by omega)]
      change (tlUO _ _ _ (twoReads t).tlHI i).a = _
      unfold tlUO
      rw [none]
      rfl
    exact Nat.le_trans ((twoReadsRun.device i).length_requests_le quiet t) (by omega)

end Run
end TlulSocket1n
end SunburstChip
