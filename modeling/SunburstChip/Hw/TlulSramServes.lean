import SunburstChip.Hw.TlulAdapterSram

namespace SunburstChip
namespace TlulAdapterSram

open Tlul PrimFifoSync

/-!
# A memory behind the adapter

A memory that grants each access in its cycle, and has what is read a cycle later.
Whatever is stored in it, and however many requests may be outstanding, the adapter
answers the requests as the memory would that did them one by one.
-/

/-- What a memory does with an access: what is read at an address, and what a write leaves. -/
structure Memory (sramAw : Nat) (σ : Type) where
  look : σ -> BitVec sramAw -> BitVec 32 × Bool
  put : σ -> ToSram sramAw -> σ

/-- The flops of the adapter and of the memory. -/
@[ext] structure Joined (params : Params) (σ : Type) where
  adapter : State params
  mem : σ
  rdata : BitVec 32
  rdataCap : Bool
  rvalid : Bool

section

variable {params : Params} {σ : Type} (memory : Memory params.sramAw σ) (enIfetch : Mubi4)

/-- What the adapter has from the memory. -/
def Joined.fromSram (s : Joined params σ) (tl : H2d) : FromSram :=
  ⟨reqO s.adapter tl enIfetch, s.rdata, s.rdataCap, s.rvalid, false⟩

/-- `tl_o` -/
def Joined.tlO (s : Joined params σ) (tl : H2d) : D2h :=
  TlulAdapterSram.tlO s.adapter (s.fromSram enIfetch tl)

/-- The adapter and the memory. -/
def joined (m : σ) : Circuit (Joined params σ) H2d where
  reset := ⟨(adapter params).reset, m, 0, false, false⟩
  next s tl :=
    let access := toSram s.adapter tl enIfetch
    { adapter := (adapter params).next s.adapter ⟨tl, enIfetch, s.fromSram enIfetch tl⟩
      mem := if access.req && access.we then memory.put s.mem access else s.mem
      rdata := if access.req && !access.we then (memory.look s.mem access.addr).1 else s.rdata
      rdataCap := if access.req && !access.we then (memory.look s.mem access.addr).2 else s.rdataCap
      rvalid := access.req && !access.we }

/-! ## One request after the other -/

/-- The access that a request makes if it is not refused. -/
def accessOf (params : Params) (a : Request) : ToSram params.sramAw where
  req := true
  we := weO a
  addr := a.address.extractLsb' 2 params.sramAw
  wdata := if weO a then a.data &&& bitMask a.mask else 0
  wdataCap := if weO a then a.user.capability else false
  wmask := bitMask a.mask

/-- What the memory is after a request. -/
def Memory.serve (m : σ) (a : Request) : σ :=
  if !errorInternal params enIfetch a && weO a then memory.put m (accessOf params a) else m

/-- The answer to a request. -/
def Memory.answer (m : σ) (a : Request) : Response :=
  let reads := !errorInternal params enIfetch a && a.opcode == get
  tlulRspIntgGen
    { opcode := if a.opcode == get then .accessAckData else .accessAck
      param := 0
      size := a.size
      source := a.source
      sink := 0
      data :=
        if reads then (memory.look m (accessOf params a).addr).1 &&& bitMask a.mask
        else errorBlankingData a.user.instrType
      user := ⟨0, if reads then 0 else secdedInv3932ZeroEcc,
        reads && (memory.look m (accessOf params a).addr).2⟩
      error := errorInternal params enIfetch a }

/-- What the memory is after some requests. -/
def Memory.after (m : σ) : List Request -> σ
  | [] => m
  | a :: rest => Memory.after (memory.serve enIfetch m a) rest

/-- The answers to some requests. -/
def Memory.answers (m : σ) : List Request -> List Response
  | [] => []
  | a :: rest => memory.answer enIfetch m a :: Memory.answers (memory.serve enIfetch m a) rest

theorem Memory.after_append (m : σ) (before rest : List Request) :
    memory.after enIfetch m (before ++ rest) =
      memory.after enIfetch (memory.after enIfetch m before) rest := by
  induction before generalizing m with
  | nil => rfl
  | cons a before ih => exact ih _

theorem Memory.answers_append (m : σ) (before rest : List Request) :
    memory.answers enIfetch m (before ++ rest) =
      memory.answers enIfetch m before ++
        memory.answers enIfetch (memory.after enIfetch m before) rest := by
  induction before generalizing m with
  | nil => rfl
  | cons a before ih => exact congrArg (memory.answer enIfetch m a :: ·) (ih _)

end

/-! ## What is owed -/

/-- A request that waits for what is read. -/
def Req.reads (r : Req) : Bool := r.op = .opRead && !r.error

/-- The answer to a request, with what has been read. -/
def Req.answer (r : Req) (d : Rsp) : Response :=
  tlulRspIntgGen
    { opcode := if r.op != .opRead then .accessAck else .accessAckData
      param := 0
      size := r.size
      source := r.source
      sink := 0
      data := if r.reads then d.data else errorBlankingData r.instrType
      user := ⟨0, if r.reads then 0 else secdedInv3932ZeroEcc, r.reads && d.dataCap⟩
      error := r.error }

/-- The answers to the requests that wait, with what has been read for them. -/
def owed : List Req -> List Rsp -> List Response
  | [], _ => []
  | r :: reqs, rsps =>
      r.answer (rsps.headD 0) :: owed reqs (if r.reads then rsps.tail else rsps)

/-- How many requests wait for what is read. -/
def readers (reqs : List Req) : Nat := reqs.countP Req.reads

theorem owed_append {reqs : List Req} {rsps : List Rsp} (enough : readers reqs = rsps.length)
    (more : List Req) (others : List Rsp) :
    owed (reqs ++ more) (rsps ++ others) = owed reqs rsps ++ owed more others := by
  induction reqs generalizing rsps with
  | nil =>
      rw [List.length_eq_zero_iff.mp enough.symm]
      rfl
  | cons r reqs ih =>
      unfold readers at enough ih
      rw [List.countP_cons] at enough
      cases reads : r.reads with
      | false =>
          rw [reads, if_neg Bool.false_ne_true, Nat.add_zero] at enough
          have head : r.answer ((rsps ++ others).headD 0) = r.answer (rsps.headD 0) := by
            unfold Req.answer
            rw [reads]
            rfl
          change _ :: owed (reqs ++ more) _ = _ :: (owed reqs _ ++ _)
          rw [head, if_neg (by simp [reads]), if_neg (by simp [reads]), ih enough]
      | true =>
          rw [reads, if_pos rfl] at enough
          rcases rsps with _ | ⟨d, rsps⟩
          · exact absurd enough (by simp)
          · change _ :: owed (reqs ++ more) _ = _ :: (owed reqs _ ++ _)
            rw [if_pos reads, if_pos reads]
            exact congrArg (r.answer d :: ·) (ih (Nat.succ.inj enough))

/-- The first answer that is owed, and the others. -/
theorem owed_cons (r : Req) (reqs : List Req) (rsps : List Rsp) :
    owed (r :: reqs) rsps =
      r.answer (rsps.headD 0) :: owed reqs (if r.reads then rsps.tail else rsps) := rfl

theorem length_owed (reqs : List Req) (rsps : List Rsp) :
    (owed reqs rsps).length = reqs.length := by
  induction reqs generalizing rsps with
  | nil => rfl
  | cons r reqs ih => exact congrArg (· + 1) (ih _)

/-- The oldest request waits for what is read. -/
def firstReads (reqs : List Req) : Bool := (reqs.head?.map Req.reads).getD false

/-- What is owed after the first answer has been taken, or not. -/
theorem owed_popped {reqs : List Req} {rsps : List Rsp} (enough : readers reqs = rsps.length)
    (ready : Bool) :
    readers (reqs.drop (if ready && !reqs.isEmpty then 1 else 0)) =
        (rsps.drop (if ready && !reqs.isEmpty && firstReads reqs then 1 else 0)).length ∧
      owed reqs rsps = (if ready then (owed reqs rsps).head? else none).toList ++
        owed (reqs.drop (if ready && !reqs.isEmpty then 1 else 0))
          (rsps.drop (if ready && !reqs.isEmpty && firstReads reqs then 1 else 0)) := by
  cases ready with
  | false => exact ⟨enough, rfl⟩
  | true =>
      rcases reqs with _ | ⟨r, rest⟩
      · exact ⟨enough, rfl⟩
      · change readers rest = (rsps.drop (if r.reads then 1 else 0)).length ∧
          _ = [_] ++ owed rest (rsps.drop (if r.reads then 1 else 0))
        unfold readers at enough ⊢
        rw [List.countP_cons] at enough
        rw [owed_cons]
        cases reads : r.reads with
        | false =>
            rw [reads] at enough
            exact ⟨enough, rfl⟩
        | true =>
            rw [reads, if_pos rfl] at enough
            rw [if_pos rfl, if_pos rfl, List.drop_one, List.length_tail]
            exact ⟨by omega, rfl⟩

/-! ## What the queues hold -/

/-- The lists that the queues of the adapter hold. -/
structure Queues {params : Params} (s : State params) (fresh : Bool) (reqs : List Req)
    (masks : List SramReq) (rsps : List Rsp) : Prop where
  reqfifo : Related s.reqfifo ⟨fresh, reqs⟩
  sramreqfifo : Related s.sramreqfifo ⟨fresh, masks⟩
  rspfifo : Related s.rspfifo ⟨fresh, rsps⟩

/-- What is read for a request. -/
def arrival (rdata : BitVec 32) (rdataCap : Bool) (m : SramReq) : Rsp :=
  ⟨rdata &&& bitMask m.mask, rdataCap, false⟩

/-- What has been read, with what comes from the memory now. -/
def arrived {params : Params} {σ : Type} (s : Joined params σ) (masks : List SramReq)
    (rsps : List Rsp) : List Rsp :=
  rsps ++ masks.map (arrival s.rdata s.rdataCap)

/-- Each request that has been read for has its data, and no more than can be held is owed. -/
structure Inv {params : Params} {σ : Type} (s : Joined params σ) (fresh : Bool) (reqs : List Req)
    (masks : List SramReq) (rsps : List Rsp) : Prop where
  queues : Queues s.adapter fresh reqs masks rsps
  empty : fresh = true -> reqs = []
  few : reqs.length <= params.outstanding
  asked : masks.length = if s.rvalid then 1 else 0
  enough : readers reqs = (arrived s masks rsps).length
  right : forall d, d ∈ rsps -> d.error = false

section

variable {params : Params} {σ : Type} {s : Joined params σ} {fresh : Bool} {reqs : List Req}
  {masks : List SramReq} {rsps : List Rsp} {enIfetch : Mubi4} {tl : H2d}

/-- The masks of what is read in a cycle. -/
def asks (s : Joined params σ) (enIfetch : Mubi4) (tl : H2d) : List SramReq :=
  match tl.a with
  | some a => if reqO s.adapter tl enIfetch && !weO a then [⟨a.mask⟩] else []
  | none => []

namespace Inv

variable (inv : Inv s fresh reqs masks rsps)
include inv

theorem reqfifoWready_eq :
    reqfifoWready s.adapter = (decide (reqs.length < params.outstanding) && !fresh) :=
  wready_eq inv.queues.reqfifo

theorem sramreqfifoWready_eq :
    sramreqfifoWready s.adapter = (decide (masks.length < params.outstanding) && !fresh) :=
  wready_eq inv.queues.sramreqfifo

theorem reqfifoRvalid_eq : reqfifoRvalid s.adapter = !reqs.isEmpty := by
  unfold reqfifoRvalid
  rw [rvalid_eq inv.queues.reqfifo]
  change (!reqs.isEmpty && !fresh) = _
  cases started : fresh with
  | false => rw [Bool.not_false, Bool.and_true]
  | true =>
      rw [inv.empty started]
      rfl

theorem reqfifoRdata_eq {r : Req} {rest : List Req} (first : reqs = r :: rest) :
    reqfifoRdata s.adapter = r := by
  have offered : (Queue.mk fresh reqs).offered holding nothing = r :: rest := first
  exact rdata_eq inv.queues.reqfifo offered

/-- There is a request for what comes from the memory. -/
theorem rspfifoWvalid_eq : rspfifoWvalid s.adapter (s.fromSram enIfetch tl) = s.rvalid := by
  unfold rspfifoWvalid Joined.fromSram
  rw [inv.reqfifoRvalid_eq]
  cases valid : s.rvalid with
  | false => rfl
  | true =>
      have asked := inv.asked
      have enough := inv.enough
      have most : readers reqs <= reqs.length := List.countP_le_length
      rw [valid, if_pos rfl] at asked
      rw [arrived, List.length_append, List.length_map] at enough
      rw [Bool.true_and, Bool.not_eq_true', List.isEmpty_eq_false_iff]
      intro none
      rw [none] at most enough
      rw [List.length_nil] at most
      omega

theorem rspfifoWdata_eq {m : SramReq} (asks : masks = [m]) :
    rspfifoWdata s.adapter (s.fromSram enIfetch tl) = arrival s.rdata s.rdataCap m := by
  have offered : (Queue.mk fresh masks).offered holding nothing = [m] := asks
  have mask : sramreqfifoRdata s.adapter = m := rdata_eq inv.queues.sramreqfifo offered
  unfold rspfifoWdata arrival Joined.fromSram
  rw [mask]

/-- What the third queue offers is what has been read. -/
theorem offered_eq (rready : Bool) : (Queue.mk fresh rsps).offered passing
      { rspfifoWrite s.adapter (s.fromSram enIfetch tl) with rready := rready } =
    arrived s masks rsps := by
  have asked := inv.asked
  unfold Queue.offered
  change (if (true && rspfifoWvalid s.adapter (s.fromSram enIfetch tl)) = true then
    rsps ++ [rspfifoWdata s.adapter (s.fromSram enIfetch tl)] else rsps) = _
  rw [inv.rspfifoWvalid_eq, Bool.true_and, arrived]
  cases valid : s.rvalid with
  | false =>
      rw [valid, if_neg Bool.false_ne_true] at asked
      rw [if_neg Bool.false_ne_true, List.length_eq_zero_iff.mp asked, List.map_nil,
        List.append_nil]
  | true =>
      rw [valid, if_pos rfl] at asked
      rcases List.length_eq_one_iff.mp asked with ⟨m, asks⟩
      rw [if_pos rfl, inv.rspfifoWdata_eq asks, asks]
      rfl

/-- Nothing has been read for no request. -/
theorem started {d : Rsp} (some : d ∈ arrived s masks rsps) : fresh = false := by
  rcases begun : fresh with _ | _
  · rfl
  · have enough := inv.enough
    rw [inv.empty begun] at enough
    have none : arrived s masks rsps = [] := List.length_eq_zero_iff.mp enough.symm
    rw [none] at some
    exact absurd some List.not_mem_nil

theorem rspfifoRvalid_eq :
    rspfifoRvalid s.adapter (s.fromSram enIfetch tl) = !(arrived s masks rsps).isEmpty := by
  unfold rspfifoRvalid
  rw [rvalid_eq inv.queues.rspfifo]
  unfold Queue.valid
  rw [show rspfifoWrite s.adapter (s.fromSram enIfetch tl) =
    { rspfifoWrite s.adapter (s.fromSram enIfetch tl) with rready := false } from rfl,
    inv.offered_eq]
  rcases has : arrived s masks rsps with _ | ⟨d, rest⟩
  · rfl
  · have begun := inv.started (show d ∈ arrived s masks rsps by rw [has]; exact List.mem_cons_self)
    rw [begun]
    rfl

theorem rspfifoRdata_eq {d : Rsp} {rest : List Rsp} (has : arrived s masks rsps = d :: rest) :
    rspfifoRdata s.adapter (s.fromSram enIfetch tl) = d :=
  rdata_eq inv.queues.rspfifo ((inv.offered_eq false).trans has)

theorem arrived_right {d : Rsp} (among : d ∈ arrived s masks rsps) : d.error = false := by
  rw [arrived, List.mem_append] at among
  rcases among with held | comes
  · exact inv.right d held
  · rcases List.mem_map.mp comes with ⟨m, _, same⟩
    rw [<- same]
    rfl

/-- If the oldest request waits for what is read, it is there. -/
theorem has_first {r : Req} {rest : List Req} (first : reqs = r :: rest) (reads : r.reads = true) :
    Exists fun d => Exists fun others => arrived s masks rsps = d :: others := by
  have enough := inv.enough
  rw [first, readers, List.countP_cons, reads, if_pos rfl] at enough
  rcases has : arrived s masks rsps with _ | ⟨d, others⟩
  · rw [has, List.length_nil] at enough
    omega
  · exact ⟨d, others, rfl⟩

/-- A response is on the channel as soon as one is owed. -/
theorem dValid_eq : dValid s.adapter (s.fromSram enIfetch tl) = !reqs.isEmpty := by
  unfold dValid
  rw [inv.reqfifoRvalid_eq]
  rcases first : reqs with _ | ⟨r, rest⟩
  · rfl
  · rw [inv.reqfifoRdata_eq first]
    rcases reads : r.reads with _ | _
    · unfold Req.reads at reads
      rcases r with ⟨op, error, instrType, size, source⟩
      cases op <;> cases error <;> simp at reads ⊢
    · rcases inv.has_first first reads with ⟨d, others, has⟩
      rw [inv.rspfifoRvalid_eq, has]
      rcases r with ⟨op, error, instrType, size, source⟩
      cases op <;> cases error <;> rfl

/-- The response on the channel is the first one that is owed.  With one request at a time, nothing
that has been read waits behind a request that is refused. -/
theorem offers (single : params.outstanding = 1) :
    (s.tlO enIfetch tl).d = (owed reqs (arrived s masks rsps)).head? := by
  change (if dValid s.adapter (s.fromSram enIfetch tl) then
    some (tlulRspIntgGen (response s.adapter (s.fromSram enIfetch tl))) else none) = _
  rw [inv.dValid_eq]
  rcases first : reqs with _ | ⟨r, rest⟩
  · rfl
  · have valid : reqfifoRvalid s.adapter = true := by
      rw [inv.reqfifoRvalid_eq, first]
      rfl
    have head := inv.reqfifoRdata_eq first
    have validRsp := @dValid_eq _ _ _ _ _ _ _ enIfetch tl inv
    rw [first] at validRsp
    rw [owed_cons, List.head?_cons]
    refine congrArg (some ∘ tlulRspIntgGen) ?_
    rcases reads : r.reads with _ | _
    · -- A request that waits for nothing.
      have come : rspfifoRvalid s.adapter (s.fromSram enIfetch tl) = false := by
        have few := inv.few
        have enough := inv.enough
        rw [first, single, List.length_cons] at few
        rw [first, List.eq_nil_of_length_eq_zero (show rest.length = 0 by omega), readers,
          List.countP_singleton, reads] at enough
        rw [inv.rspfifoRvalid_eq, List.eq_nil_of_length_eq_zero enough.symm]
        rfl
      unfold Req.reads at reads
      unfold response dataIntg vldRdRsp dError
      rw [validRsp, valid, head, come]
      rcases r with ⟨op, error, instrType, size, source⟩
      cases op <;> cases error <;> simp at reads ⊢
    · rcases inv.has_first first reads with ⟨d, others, has⟩
      have come : rspfifoRvalid s.adapter (s.fromSram enIfetch tl) = true := by
        rw [inv.rspfifoRvalid_eq, has]
        rfl
      have data : rspfifoRdata s.adapter (s.fromSram enIfetch tl) = d := inv.rspfifoRdata_eq has
      have right := inv.arrived_right (show d ∈ arrived s masks rsps by
        rw [has]; exact List.mem_cons_self)
      unfold Req.reads at reads
      unfold response dataIntg vldRdRsp dError
      rw [validRsp, valid, head, come, data, has, right]
      rcases r with ⟨op, error, instrType, size, source⟩
      cases op <;> cases error <;> simp at reads ⊢

/-- A response is taken if the host is ready and one is owed. -/
theorem dAck_eq : dAck s.adapter tl (s.fromSram enIfetch tl) = (tl.dReady && !reqs.isEmpty) := by
  rw [dAck, inv.dValid_eq, Bool.and_comm]

/-- A request that goes to the memory is taken. -/
theorem room (req : reqO s.adapter tl enIfetch = true) :
    fresh = false ∧ reqs.length < params.outstanding ∧ sramreqfifoWready s.adapter = true := by
  have ready : reqfifoWready s.adapter = true := by
    unfold reqO at req
    rcases offered : tl.a with _ | a
    · rw [offered] at req
      exact absurd req Bool.false_ne_true
    · rw [offered, Bool.and_eq_true] at req
      exact req.1
  rw [inv.reqfifoWready_eq, Bool.and_eq_true, decide_eq_true_eq, Bool.not_eq_true'] at ready
  have few : masks.length <= reqs.length := by
    have enough := inv.enough
    have most : readers reqs <= reqs.length := List.countP_le_length
    rw [arrived, List.length_append, List.length_map] at enough
    omega
  refine ⟨ready.2, ready.1, ?_⟩
  rw [inv.sramreqfifoWready_eq, ready.2, decide_eq_true (by omega)]
  rfl

/-- A request that is taken goes to the memory if it is not refused; one that is not taken does not
go there. -/
theorem taken_cases :
    (Exists fun a => aAck s.adapter tl (s.fromSram enIfetch tl) = some a ∧ tl.a = some a ∧
      reqs.length < params.outstanding ∧ fresh = false ∧
      reqO s.adapter tl enIfetch = !errorInternal params enIfetch a) ∨
    (aAck s.adapter tl (s.fromSram enIfetch tl) = none ∧ reqO s.adapter tl enIfetch = false) := by
  rcases offered : tl.a with _ | a
  · right
    unfold aAck reqO
    rw [offered]
    exact ⟨ite_self _, rfl⟩
  · have req : reqO s.adapter tl enIfetch =
        (reqfifoWready s.adapter && !errorInternal params enIfetch a) := by
      rw [reqO, offered]
    rcases ready : aReady s.adapter (s.fromSram enIfetch tl) with _ | _
    · right
      refine ⟨by rw [aAck, ready]; rfl, ?_⟩
      by_contra goes
      rw [Bool.not_eq_false] at goes
      rcases inv.room goes with ⟨_, _, masksReady⟩
      have both := goes
      rw [req, Bool.and_eq_true] at both
      unfold aReady Joined.fromSram at ready
      rw [goes, both.1, masksReady] at ready
      exact Bool.noConfusion ready
    · left
      unfold aReady at ready
      rw [Bool.and_eq_true, Bool.and_eq_true] at ready
      have room := ready.1.2
      rw [inv.reqfifoWready_eq, Bool.and_eq_true, decide_eq_true_eq, Bool.not_eq_true'] at room
      refine ⟨a, ?_, rfl, room.1, room.2, ?_⟩
      · rw [aAck, aReady, ready.1.1, ready.1.2, ready.2]
        exact offered
      · rw [req, ready.1.2, Bool.true_and]

/-! ## What a cycle does to the queues -/

/-- The requests that wait after a cycle. -/
theorem reqs_next : (Queue.mk fresh reqs).next params.outstanding holding
      (reqfifoInput s.adapter tl enIfetch (s.fromSram enIfetch tl)) =
    ⟨false, (reqs ++ ((aAck s.adapter tl (s.fromSram enIfetch tl)).map
      (reqfifoWdata params enIfetch)).toList).drop (if tl.dReady && !reqs.isEmpty then 1 else 0)⟩ := by
  have acks := @dAck_eq _ _ _ _ _ _ _ enIfetch tl inv
  have ready := inv.reqfifoWready_eq
  have pops (input : PrimFifoSync.Input Req) (rready : input.rready =
        dAck s.adapter tl (s.fromSram enIfetch tl)) :
      ((Queue.mk fresh reqs).read holding input).length =
        if tl.dReady && !reqs.isEmpty then 1 else 0 := by
    unfold Queue.read Queue.valid
    rw [rready, acks]
    change (if (!reqs.isEmpty && !fresh && _) = true then reqs.take 1 else []).length = _
    rcases first : reqs with _ | ⟨r, rest⟩
    · simp
    · have begun : fresh = false := by
        rcases begun : fresh with _ | _
        · rfl
        · rw [inv.empty begun] at first
          exact absurd first (by simp)
      rw [begun]
      cases tl.dReady <;> rfl
  unfold Queue.next
  rcases @taken_cases _ _ _ _ _ _ _ enIfetch tl inv with
    ⟨a, taken, offered, room, begun, _⟩ | ⟨taken, _⟩
  · have input : reqfifoInput s.adapter tl enIfetch (s.fromSram enIfetch tl) =
        ⟨false, true, reqfifoWdata params enIfetch a, dAck s.adapter tl (s.fromSram enIfetch tl)⟩ := by
      rw [reqfifoInput, taken]
    have written : (Queue.mk fresh reqs).written params.outstanding
        (reqfifoInput s.adapter tl enIfetch (s.fromSram enIfetch tl)) =
          [reqfifoWdata params enIfetch a] := by
      rw [input, Queue.written, Queue.ready, begun, decide_eq_true room]
      rfl
    rw [pops _ (by rw [input]), written, taken, input]
    rfl
  · have input : reqfifoInput s.adapter tl enIfetch (s.fromSram enIfetch tl) =
        ⟨false, false, 0, dAck s.adapter tl (s.fromSram enIfetch tl)⟩ := by
      rw [reqfifoInput, taken]
    have written : (Queue.mk fresh reqs).written params.outstanding
        (reqfifoInput s.adapter tl enIfetch (s.fromSram enIfetch tl)) = [] := by
      rw [input]
      rfl
    rw [pops _ (by rw [input]), written, taken, input]
    rfl

/-- The masks that are held after a cycle: what comes from the memory is taken at once. -/
theorem masks_next : (Queue.mk fresh masks).next params.outstanding holding
      (sramreqfifoInput s.adapter tl enIfetch (s.fromSram enIfetch tl)) =
    ⟨false, asks s enIfetch tl⟩ := by
  have asked := inv.asked
  have pops : ((Queue.mk fresh masks).read holding
      (sramreqfifoInput s.adapter tl enIfetch (s.fromSram enIfetch tl))).length = masks.length := by
    have rready : (sramreqfifoInput s.adapter tl enIfetch (s.fromSram enIfetch tl)).rready =
        s.rvalid := by
      rw [<- @rspfifoWvalid_eq _ _ _ _ _ _ _ enIfetch tl inv]
      unfold sramreqfifoInput
      split <;> rfl
    unfold Queue.read Queue.valid
    rw [rready]
    change (if (!masks.isEmpty && !fresh && _) = true then masks.take 1 else []).length = _
    cases valid : s.rvalid with
    | false =>
        rw [valid, if_neg Bool.false_ne_true] at asked
        rw [asked, Bool.and_false]
        rfl
    | true =>
        rw [valid, if_pos rfl] at asked
        rcases List.length_eq_one_iff.mp asked with ⟨m, asks⟩
        have comes : arrival s.rdata s.rdataCap m ∈ arrived s masks rsps := by
          rw [arrived, asks]
          exact List.mem_append_right _ (List.mem_singleton_self _)
        rw [inv.started comes, asks]
        rfl
  have written : (Queue.mk fresh masks).written params.outstanding
      (sramreqfifoInput s.adapter tl enIfetch (s.fromSram enIfetch tl)) = asks s enIfetch tl := by
    unfold Queue.written sramreqfifoInput asks
    rcases tl.a with _ | a
    · rfl
    · change (if (reqO s.adapter tl enIfetch && reqO s.adapter tl enIfetch && !weO a && _) = true
        then [SramReq.mk a.mask] else []) = _
      rw [Bool.and_self]
      rcases goes : reqO s.adapter tl enIfetch with _ | _
      · rfl
      · have ready := (inv.room goes).2.2
        rw [inv.sramreqfifoWready_eq] at ready
        change (if (true && !weO a && (decide (masks.length < params.outstanding) && !fresh)) = true
          then _ else _) = _
        rw [ready, Bool.and_true]
  unfold Queue.next
  rw [pops, written]
  have clr : (sramreqfifoInput s.adapter tl enIfetch (s.fromSram enIfetch tl)).clr = false := by
    unfold sramreqfifoInput
    split <;> rfl
  rw [clr, if_neg Bool.false_ne_true, List.drop_left]

/-- What comes from the memory finds room. -/
theorem rsps_written (rready : Bool) : rsps ++ (Queue.mk fresh rsps).written params.outstanding
      { rspfifoWrite s.adapter (s.fromSram enIfetch tl) with rready := rready } =
    arrived s masks rsps := by
  have offered := @offered_eq _ _ _ _ _ _ _ enIfetch tl inv rready
  have asked := inv.asked
  have enough := inv.enough
  have few := inv.few
  have most : readers reqs <= reqs.length := List.countP_le_length
  rw [<- offered]
  unfold Queue.written Queue.offered Queue.ready
  change rsps ++ (if (rspfifoWvalid s.adapter (s.fromSram enIfetch tl) && _) = true then _ else _) =
    if (true && rspfifoWvalid s.adapter (s.fromSram enIfetch tl)) = true then _ else _
  rw [inv.rspfifoWvalid_eq]
  cases valid : s.rvalid with
  | false => exact List.append_nil rsps
  | true =>
      rw [valid, if_pos rfl] at asked
      rcases List.length_eq_one_iff.mp asked with ⟨m, asks⟩
      have comes : arrival s.rdata s.rdataCap m ∈ arrived s masks rsps := by
        rw [arrived, asks]
        exact List.mem_append_right _ (List.mem_singleton_self _)
      rw [arrived, List.length_append, List.length_map, asked] at enough
      have room : rsps.length < params.outstanding := by omega
      rw [inv.started comes, decide_eq_true room]
      rfl

/-- The queue of what has been read is read with the response for it. -/
theorem rspfifo_rready : (rspfifoInput s.adapter tl (s.fromSram enIfetch tl)).rready =
    (tl.dReady && !reqs.isEmpty && firstReads reqs) := by
  change (if _ then dAck s.adapter tl (s.fromSram enIfetch tl) else false) = _
  rw [inv.dAck_eq]
  rcases first : reqs with _ | ⟨r, rest⟩
  · simp
  · rw [inv.reqfifoRdata_eq first]
    unfold firstReads Req.reads
    by_cases reads : r.op = .opRead ∧ r.error = false
    · rw [if_pos reads]
      simp [reads.1, reads.2]
    · rw [if_neg reads]
      rcases r with ⟨op, error, instrType, size, source⟩
      cases op <;> cases error <;> simp at reads ⊢

/-- What has been read and waits after a cycle. -/
theorem rsps_next : (Queue.mk fresh rsps).next params.outstanding passing
      (rspfifoInput s.adapter tl (s.fromSram enIfetch tl)) =
    ⟨false, (arrived s masks rsps).drop
      (if tl.dReady && !reqs.isEmpty && firstReads reqs then 1 else 0)⟩ := by
  have rready := @rspfifo_rready _ _ _ _ _ _ _ enIfetch tl inv
  have input : rspfifoInput s.adapter tl (s.fromSram enIfetch tl) =
      { rspfifoWrite s.adapter (s.fromSram enIfetch tl) with
        rready := tl.dReady && !reqs.isEmpty && firstReads reqs } := by
    rw [<- rready]
    rfl
  have pops : ((Queue.mk fresh rsps).read passing
      (rspfifoInput s.adapter tl (s.fromSram enIfetch tl))).length =
        if tl.dReady && !reqs.isEmpty && firstReads reqs then 1 else 0 := by
    unfold Queue.read Queue.valid
    rw [input, inv.offered_eq]
    rcases reads : (tl.dReady && !reqs.isEmpty && firstReads reqs) with _ | _
    · simp
    · rw [Bool.and_eq_true] at reads
      rcases first : reqs with _ | ⟨r, rest⟩
      · rw [first] at reads
        exact absurd reads.2 Bool.false_ne_true
      · rw [first] at reads
        rcases inv.has_first first reads.2 with ⟨d, others, has⟩
        have begun := inv.started (show d ∈ arrived s masks rsps by
          rw [has]; exact List.mem_cons_self)
        rw [has, begun]
        rfl
  unfold Queue.next
  rw [pops]
  change Queue.mk false (if false = true then [] else _) = _
  rw [if_neg Bool.false_ne_true, input]
  change Queue.mk false ((rsps ++ _).drop _) = _
  rw [inv.rsps_written]

end Inv

/-! ## What a cycle does -/

/-- A request that is not refused and is not a read is a write. -/
theorem weO_eq {a : Request} (fine : errorInternal params enIfetch a = false) :
    weO a = !(a.opcode == get) := by
  unfold errorInternal at fine
  rw [Bool.or_eq_false_iff] at fine
  have allowed := fine.2
  unfold tlulErr at allowed
  rw [Bool.or_eq_false_iff, Bool.or_eq_false_iff, Bool.not_eq_false', Bool.and_eq_true] at allowed
  have opcode := allowed.1.1.1
  unfold weO
  by_cases reads : a.opcode = get
  · rw [reads]
    rfl
  · have other : (a.opcode == get) = false := beq_false_of_ne reads
    rw [other, Bool.or_false] at opcode
    rw [other]
    exact opcode

variable (memory : Memory params.sramAw σ)

/-- The requests that wait and what is read for them, for a request that is taken. -/
theorem owed_taken (m : σ) (a : Request) {rdata : BitVec 32} {rdataCap : Bool}
    (reads : errorInternal params enIfetch a = false -> a.opcode = get ->
      (rdata, rdataCap) = memory.look m (accessOf params a).addr) :
    let asked : List SramReq :=
      if !errorInternal params enIfetch a && !weO a then [⟨a.mask⟩] else []
    readers [reqfifoWdata params enIfetch a] = (asked.map (arrival rdata rdataCap)).length ∧
      owed [reqfifoWdata params enIfetch a] (asked.map (arrival rdata rdataCap)) =
        [memory.answer enIfetch m a] := by
  intro asked
  rcases refused : errorInternal params enIfetch a with _ | _
  · have we := weO_eq refused
    by_cases gets : a.opcode = get
    · have look := reads refused gets
      have one : asked = [⟨a.mask⟩] := by
        change (if _ then _ else _) = _
        rw [refused, we, gets]
        rfl
      rw [one]
      unfold reqfifoWdata Memory.answer owed Req.answer readers Req.reads
      rw [refused, gets, <- look]
      exact ⟨rfl, rfl⟩
    · have other : (a.opcode == get) = false := beq_false_of_ne gets
      have none : asked = [] := by
        change (if _ then _ else _) = _
        rw [refused, we, other]
        rfl
      rw [none]
      unfold reqfifoWdata Memory.answer owed Req.answer readers Req.reads
      rw [refused, bne, other]
      exact ⟨rfl, rfl⟩
  · have none : asked = [] := by
      change (if _ then _ else _) = _
      rw [refused]
      rfl
    rw [none]
    unfold reqfifoWdata Memory.answer owed Req.answer readers Req.reads
    rw [refused, bne]
    cases a.opcode == get <;> exact ⟨rfl, rfl⟩

/-- What a cycle takes and gives, and what it leaves in the memory. -/
structure Steps (enIfetch : Mubi4) (s : Joined params σ) (tl : H2d)
    (owes owes' : List Response) : Prop where
  balance : owes ++ ((accepted tl (s.tlO enIfetch tl)).map (memory.answer enIfetch s.mem)).toList =
    (delivered tl (s.tlO enIfetch tl)).toList ++ owes'
  serves : ((joined memory enIfetch s.mem).next s tl).mem =
    memory.after enIfetch s.mem (accepted tl (s.tlO enIfetch tl)).toList

theorem toSram_some {s : State params} {a : Request} (offered : tl.a = some a) :
    toSram s tl enIfetch = { accessOf params a with req := reqO s tl enIfetch } := by
  rw [toSram, offered]
  rfl

theorem toSram_none {s : State params} (offered : tl.a = none) :
    toSram s tl enIfetch = ⟨false, false, 0, 0, false, 0⟩ := by
  rw [toSram, offered]

/-- What is stored after a cycle. -/
theorem next_mem (m : σ) (s : Joined params σ) (tl : H2d) :
    ((joined memory enIfetch m).next s tl).mem =
      match tl.a with
      | some a =>
          if reqO s.adapter tl enIfetch && weO a then
            memory.put s.mem { accessOf params a with req := reqO s.adapter tl enIfetch }
          else s.mem
      | none => s.mem := by
  change (if ((toSram s.adapter tl enIfetch).req && (toSram s.adapter tl enIfetch).we) = true then
    memory.put s.mem (toSram s.adapter tl enIfetch) else s.mem) = _
  rcases offered : tl.a with _ | a
  · rw [toSram_none offered]
    rfl
  · rw [toSram_some offered]
    rfl

theorem next_rvalid (m : σ) (s : Joined params σ) (tl : H2d) :
    ((joined memory enIfetch m).next s tl).rvalid = !(asks s enIfetch tl).isEmpty := by
  change ((toSram s.adapter tl enIfetch).req && !(toSram s.adapter tl enIfetch).we) = _
  unfold asks
  rcases offered : tl.a with _ | a
  · rw [toSram_none offered]
    rfl
  · rw [toSram_some offered]
    change (reqO s.adapter tl enIfetch && !weO a) = !(if _ then _ else _ : List SramReq).isEmpty
    cases reqO s.adapter tl enIfetch && !weO a <;> rfl

theorem next_read (m : σ) {s : Joined params σ} {tl : H2d} {a : Request} (offered : tl.a = some a)
    (reads : (reqO s.adapter tl enIfetch && !weO a) = true) :
    (((joined memory enIfetch m).next s tl).rdata, ((joined memory enIfetch m).next s tl).rdataCap) =
      memory.look s.mem (accessOf params a).addr := by
  have goes : ((toSram s.adapter tl enIfetch).req && !(toSram s.adapter tl enIfetch).we) = true := by
    rw [toSram_some offered]
    exact reads
  have addr : (toSram s.adapter tl enIfetch).addr = (accessOf params a).addr := by
    rw [toSram_some offered]
  change (if _ then (memory.look s.mem (toSram s.adapter tl enIfetch).addr).1 else _,
    if _ then (memory.look s.mem (toSram s.adapter tl enIfetch).addr).2 else _) = _
  rw [if_pos goes, if_pos goes, addr]

variable (enIfetch tl)

/-- What a cycle leaves in the queues. -/
theorem Inv.queues_next (positive : 0 < params.outstanding) (inv : Inv s fresh reqs masks rsps)
    (m : σ) : Queues ((joined memory enIfetch m).next s tl).adapter false
      ((reqs ++ ((aAck s.adapter tl (s.fromSram enIfetch tl)).map
        (reqfifoWdata params enIfetch)).toList).drop (if tl.dReady && !reqs.isEmpty then 1 else 0))
      (asks s enIfetch tl)
      ((arrived s masks rsps).drop
        (if tl.dReady && !reqs.isEmpty && firstReads reqs then 1 else 0)) := by
  refine ⟨?_, ?_, ?_⟩
  · rw [<- inv.reqs_next]
    exact related_next positive inv.queues.reqfifo _
  · rw [<- inv.masks_next]
    exact related_next positive inv.queues.sramreqfifo _
  · rw [<- inv.rsps_next]
    exact related_next positive inv.queues.rspfifo _

/-- What is asked of the memory in a cycle is what the request that is taken waits for. -/
theorem Inv.taken_next (inv : Inv s fresh reqs masks rsps) (m : σ) :
    let s' := (joined memory enIfetch m).next s tl
    let new := ((aAck s.adapter tl (s.fromSram enIfetch tl)).map (reqfifoWdata params enIfetch)).toList
    let comes := (asks s enIfetch tl).map (arrival s'.rdata s'.rdataCap)
    readers new = comes.length ∧
      owed new comes = ((accepted tl (s.tlO enIfetch tl)).map (memory.answer enIfetch s.mem)).toList ∧
      s'.mem = memory.after enIfetch s.mem (accepted tl (s.tlO enIfetch tl)).toList := by
  intro s' new comes
  have ack : accepted tl (s.tlO enIfetch tl) = aAck s.adapter tl (s.fromSram enIfetch tl) := rfl
  have mem : s'.mem = _ := next_mem memory m s tl
  rcases @taken_cases _ _ _ _ _ _ _ enIfetch tl inv with
    ⟨a, taken, offered, _, _, goes⟩ | ⟨taken, stays⟩
  · have asked : asks s enIfetch tl =
        if !errorInternal params enIfetch a && !weO a then [⟨a.mask⟩] else [] := by
      rw [asks, offered, goes]
    have reads (fine : errorInternal params enIfetch a = false) (gets : a.opcode = get) :
        (s'.rdata, s'.rdataCap) = memory.look s.mem (accessOf params a).addr := by
      refine next_read memory m offered ?_
      rw [goes, fine, weO_eq fine, gets]
      rfl
    rcases owed_taken memory s.mem a reads with ⟨count, answer⟩
    rw [<- asked] at count answer
    refine ⟨?_, ?_, ?_⟩
    · change readers (Option.map _ _).toList = _
      rw [taken]
      exact count
    · change owed (Option.map _ _).toList _ = _
      rw [ack, taken]
      exact answer
    · rw [mem, ack, taken, offered, goes]
      change _ = memory.serve enIfetch s.mem a
      unfold Memory.serve
      cases errorInternal params enIfetch a <;> rfl
  · have none : asks s enIfetch tl = [] := by
      unfold asks
      rw [stays]
      rcases tl.a with _ | a <;> rfl
    refine ⟨?_, ?_, ?_⟩
    · change readers (Option.map _ _).toList = ((asks s enIfetch tl).map _).length
      rw [taken, none]
      rfl
    · change owed (Option.map _ _).toList _ = _
      rw [ack, taken]
      rfl
    · rw [mem, ack, taken, stays]
      rcases tl.a with _ | a <;> rfl

/-- Every cycle preserves that each request has what has been read for it. -/
theorem Inv.next (single : params.outstanding = 1) (inv : Inv s fresh reqs masks rsps) (m : σ) :
    Exists fun reqs' => Exists fun masks' => Exists fun rsps' =>
      Inv ((joined memory enIfetch m).next s tl) false reqs' masks' rsps' ∧
        Steps memory enIfetch s tl (owed reqs (arrived s masks rsps))
          (owed reqs' (arrived ((joined memory enIfetch m).next s tl) masks' rsps')) := by
  rcases inv.taken_next enIfetch tl memory m with ⟨asked, answers, mem⟩
  rcases owed_popped inv.enough tl.dReady with ⟨enough, balance⟩
  have whole : (reqs ++ ((aAck s.adapter tl (s.fromSram enIfetch tl)).map
        (reqfifoWdata params enIfetch)).toList).drop (if tl.dReady && !reqs.isEmpty then 1 else 0) =
      reqs.drop (if tl.dReady && !reqs.isEmpty then 1 else 0) ++
        ((aAck s.adapter tl (s.fromSram enIfetch tl)).map (reqfifoWdata params enIfetch)).toList := by
    rw [List.drop_append_of_le_length]
    cases reqs <;> cases tl.dReady <;> simp
  have queues := inv.queues_next enIfetch tl memory (single ▸ Nat.one_pos) m
  rw [whole] at queues
  refine ⟨_, _, _, ⟨queues, fun never => Bool.noConfusion never, ?_, ?_, ?_, ?_⟩, ⟨?_, mem⟩⟩
  · rw [List.length_append, List.length_drop]
    have few := inv.few
    rcases @taken_cases _ _ _ _ _ _ _ enIfetch tl inv with ⟨a, taken, _, room, _⟩ | ⟨taken, _⟩
    · rw [taken]
      change _ + 1 <= _
      omega
    · rw [taken]
      change _ + 0 <= _
      omega
  · rw [next_rvalid]
    unfold asks
    split
    · split <;> rfl
    · rfl
  · rw [arrived, List.length_append, <- asked, <- enough]
    exact List.countP_append
  · exact fun d among => inv.arrived_right (List.mem_of_mem_drop among)
  · have offers : (s.tlO enIfetch tl).d = (owed reqs (arrived s masks rsps)).head? :=
      inv.offers single
    change owed reqs (arrived s masks rsps) ++ _ =
      _ ++ owed _ (List.drop _ (arrived s masks rsps) ++ List.map _ _)
    rw [owed_append enough, answers, delivered, offers, <- List.append_assoc]
    exact congrArg (· ++ _) balance

/-! ## Whole runs -/

variable {enIfetch tl}

/-- The link of the adapter and the memory. -/
def link (enIfetch : Mubi4) (m : σ) (tls : Nat -> H2d) : Link where
  h2d := tls
  d2h t := ((joined memory enIfetch m).state tls t).tlO enIfetch (tls t)

/-- What is owed is what the memory would have answered but for what has been delivered. -/
theorem served (single : params.outstanding = 1) (m : σ) (tls : Nat -> H2d) (t : Nat) :
    Exists fun fresh => Exists fun reqs => Exists fun masks => Exists fun rsps =>
      Inv ((joined memory enIfetch m).state tls t) fresh reqs masks rsps ∧
      memory.answers enIfetch m ((link memory enIfetch m tls).requests t) =
        (link memory enIfetch m tls).responses t ++
          owed reqs (arrived ((joined memory enIfetch m).state tls t) masks rsps) ∧
      ((joined memory enIfetch m).state tls t).mem =
        memory.after enIfetch m ((link memory enIfetch m tls).requests t) := by
  induction t with
  | zero =>
      have positive : 0 < params.outstanding := single ▸ Nat.one_pos
      have queues : Queues ((joined memory enIfetch m).state tls 0).adapter true [] [] [] :=
        ⟨⟨rfl, Holds.empty positive _⟩, ⟨rfl, Holds.empty positive _⟩, ⟨rfl, Holds.empty positive _⟩⟩
      exact ⟨true, [], [], [], ⟨queues, fun _ => rfl, Nat.zero_le _, rfl, rfl,
        fun d among => absurd among List.not_mem_nil⟩, rfl, rfl⟩
  | succ t ih =>
      rcases ih with ⟨fresh, reqs, masks, rsps, inv, balance, mem⟩
      rcases inv.next enIfetch (tls t) memory single m with ⟨reqs', masks', rsps', inv', steps⟩
      refine ⟨false, reqs', masks', rsps', inv', ?_, ?_⟩
      · rw [Link.requests_succ, Link.responses_succ, Memory.answers_append, balance, <- mem,
          List.append_assoc, List.append_assoc]
        refine congrArg (_ ++ ·) ?_
        refine Eq.trans ?_ steps.balance
        refine congrArg (_ ++ ·) ?_
        change memory.answers enIfetch _ (accepted (tls t)
          (((joined memory enIfetch m).state tls t).tlO enIfetch (tls t))).toList = _
        cases accepted (tls t) (((joined memory enIfetch m).state tls t).tlO enIfetch (tls t)) <;> rfl
      · rw [Link.requests_succ, Memory.after_append, <- mem]
        exact steps.serves

/-- Whatever a memory stores, the responses to the requests that have been taken are those of a
memory that does one request after the other, in their order.  A response is on the channel in every
cycle in which one is owed, and no more than one is. -/
theorem answered (single : params.outstanding = 1) (m : σ) (tls : Nat -> H2d) (t : Nat) :
    Exists fun owes : List Response => owes.length <= 1 ∧
      memory.answers enIfetch m ((link memory enIfetch m tls).requests t) =
        (link memory enIfetch m tls).responses t ++ owes ∧
      ((link memory enIfetch m tls).d2h t).d = owes.head? ∧
      ((joined memory enIfetch m).state tls t).mem =
        memory.after enIfetch m ((link memory enIfetch m tls).requests t) := by
  rcases served memory single m tls t with ⟨fresh, reqs, masks, rsps, inv, balance, mem⟩
  refine ⟨_, ?_, balance, inv.offers single, mem⟩
  rw [length_owed, <- single]
  exact inv.few

end

end TlulAdapterSram
end SunburstChip
