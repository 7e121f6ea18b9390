import SunburstChip.Hw.TlulAdapterHost

namespace SunburstChip

open Tlul TlulAdapterHost

/-!
# Registers behind an adapter

The `*_reg_top.sv` of a peripheral has its registers behind the register adapter.
To software on the bus, such a peripheral is a device: an access to a register takes
one cycle, at least one cycle without an access follows it, and any number of further
ones may.  Whatever makes the requests on the link, a program that they are those of
is executed on this device.
-/

namespace Mmio

/-- The environment may move before a program is executed. -/
theorem exec_of_moves {σ α : Type} {device : Device σ} {env : σ -> σ -> Prop} {s s' t : σ}
    {m : Mmio α} {a : α} (moves : Relation.ReflTransGen env s s')
    (execution : Exec device env s' m t a) : Exec device env s m t a := by
  induction moves using Relation.ReflTransGen.head_induction_on with
  | refl => exact execution
  | head move _ ih => exact .env move ih

end Mmio

/-- A cycle without an access to the registers. -/
def TlulAdapterReg.noAccess : TlulAdapterReg.RegAccess := ⟨false, false, 0, 0, 0⟩

/-- A peripheral, but for its adapter: what its registers answer to an access, and what its flops
take, from the access and what is on the other inputs.  What is on the wires of the data is looked
at only for a write. -/
structure RegTop (ρ ι : Type) where
  regAw : Nat
  reset : ρ
  rdata : ρ -> TlulAdapterReg.RegAccess -> BitVec 32
  error : ρ -> TlulAdapterReg.RegAccess -> Bool
  next : ρ -> ι -> TlulAdapterReg.RegAccess -> ρ
  unread : forall s i (acc : TlulAdapterReg.RegAccess) wdata, acc.we = false ->
    next s i { acc with wdata := wdata } = next s i acc ∧
      rdata s { acc with wdata := wdata } = rdata s acc ∧
      error s { acc with wdata := wdata } = error s acc

namespace RegTop

variable {ρ ι α : Type} (top : RegTop ρ ι)

/-! ## The circuit -/

/-- The flops of the peripheral. -/
structure State (ρ : Type) where
  regIf : TlulAdapterReg.State
  core : ρ

/-- The inputs of the peripheral. -/
structure Input (ι : Type) where
  tl : H2d
  rest : ι

/-- The access to the registers in a cycle. -/
def access (s : State ρ) (tl : H2d) : TlulAdapterReg.RegAccess :=
  TlulAdapterReg.regAccess top.regAw s.regIf tl false muBi4False

/-- What the adapter is given in a cycle. -/
def regIfInput (s : State ρ) (tl : H2d) : TlulAdapterReg.Input where
  tl := tl
  enIfetch := muBi4False
  busy := false
  rdata := top.rdata s.core (top.access s tl)
  error := top.error s.core (top.access s tl)

/-- The peripheral. -/
def circuit : Circuit (State ρ) (Input ι) where
  reset := ⟨TlulAdapterReg.adapter.reset, top.reset⟩
  next s input :=
    { regIf := TlulAdapterReg.step s.regIf (top.regIfInput s input.tl)
      core := top.next s.core input.rest (top.access s input.tl) }

/-- Its link to the bus. -/
def link (inputs : Nat -> Input ι) : Link where
  h2d t := (inputs t).tl
  d2h t := TlulAdapterReg.tlO (top.circuit.state inputs t).regIf (inputs t).tl false

/-! ## The device -/

/-- What software is about: the flops of the peripheral, and what will be on its other inputs. -/
structure View (ρ ι : Type) where
  core : ρ
  ahead : Nat -> ι

/-- A cycle. -/
def cycle (acc : TlulAdapterReg.RegAccess) (v : View ρ ι) : View ρ ι where
  core := top.next v.core (v.ahead 0) acc
  ahead k := v.ahead (k + 1)

/-- A cycle without an access. -/
def Idle (v v' : View ρ ι) : Prop := v' = top.cycle TlulAdapterReg.noAccess v

/-- The data of the response to a request. -/
def answer (v : View ρ ι) (a : Request) : BitVec 32 :=
  (TlulAdapterReg.owed
    { tl := ⟨some a, true⟩
      enIfetch := muBi4False
      busy := false
      rdata := top.rdata v.core (TlulAdapterReg.accessOf top.regAw muBi4False a)
      error := top.error v.core (TlulAdapterReg.accessOf top.regAw muBi4False a) } a).data

/-- The cycle of a request and the one after it. -/
def perform (v : View ρ ι) (a : Request) : View ρ ι :=
  top.cycle TlulAdapterReg.noAccess
    (top.cycle (TlulAdapterReg.accessOf top.regAw muBi4False a) v)

/-- The peripheral as a device whose registers lie from `base` on.  Programs for it access words. -/
def device (base : BitVec 32) : Device (View ρ ι) where
  read32 offset v :=
    (top.answer v (load (base + .ofNat 32 offset) 0 0 0),
      top.perform v (load (base + .ofNat 32 offset) 0 0 0))
  write32 offset value v := top.perform v (store (base + .ofNat 32 offset) value 0)
  write8 _ _ v := v

/-! ## What the wires that are not used carry -/

variable {top} {base addr wdata : BitVec 32} {be : BitVec 4} {tlSource : BitVec 8} {v : View ρ ι}

theorem accessOf_load (regAw : Nat) :
    TlulAdapterReg.accessOf regAw muBi4False (load addr wdata be tlSource) =
      { TlulAdapterReg.accessOf regAw muBi4False (load addr 0 0 0) with wdata := wdata } := rfl

theorem we_load (regAw : Nat) :
    (TlulAdapterReg.accessOf regAw muBi4False (load addr 0 0 0)).we = false := rfl

theorem perform_load :
    top.perform v (load addr wdata be tlSource) = top.perform v (load addr 0 0 0) := by
  unfold perform cycle
  rw [accessOf_load, (top.unread _ _ _ _ (we_load _)).1]

theorem answer_load :
    top.answer v (load addr wdata be tlSource) = top.answer v (load addr 0 0 0) := by
  unfold answer
  rcases top.unread v.core (v.ahead 0) _ wdata (@we_load addr top.regAw) with ⟨_, rdata, error⟩
  rw [accessOf_load, rdata, error]
  rfl

/-! ## What is on the link is an execution on the device -/

variable {inputs : Nat -> Input ι} {t d : Nat}

/-- What software is about in a cycle of a run. -/
def view (top : RegTop ρ ι) (inputs : Nat -> Input ι) (t : Nat) : View ρ ι where
  core := (top.circuit.state inputs t).core
  ahead k := (inputs (t + k)).rest

theorem view_succ : top.view inputs (t + 1) =
    top.cycle (top.access (top.circuit.state inputs t) (inputs t).tl) (top.view inputs t) := by
  have ahead (k : Nat) : t + 1 + k = t + (k + 1) := by omega
  simp only [view, cycle, ahead]
  rfl

theorem view_quiet
    (quiet : accepted ((top.link inputs).h2d t) ((top.link inputs).d2h t) = none) :
    top.view inputs (t + 1) = top.cycle TlulAdapterReg.noAccess (top.view inputs t) := by
  have none : top.access (top.circuit.state inputs t) (inputs t).tl = TlulAdapterReg.noAccess :=
    TlulAdapterReg.regAccess_quiet quiet
  rw [view_succ, none]

/-- No response is outstanding. -/
abbrev Free (top : RegTop ρ ι) (inputs : Nat -> Input ι) (t : Nat) : Prop :=
  (top.circuit.state inputs t).regIf.outstanding = false

theorem free_quiet (free : top.Free inputs t)
    (quiet : accepted ((top.link inputs).h2d t) ((top.link inputs).d2h t) = none) :
    top.Free inputs (t + 1) := by
  change (TlulAdapterReg.step _ (top.regIfInput _ _)).outstanding = false
  rw [TlulAdapterReg.step_quiet quiet, free]
  exact free

/-- The response to a request: what the device answers, after the cycles that the device takes and
any number of idle ones. -/
theorem answered {a : Request} {r : Response}
    (request : accepted ((top.link inputs).h2d t) ((top.link inputs).d2h t) = some a)
    (answers : Answers (top.link inputs) t d r) :
    r.data = top.answer (top.view inputs t) a ∧
      Relation.ReflTransGen top.Idle (top.perform (top.view inputs t) a)
        (top.view inputs (d + 1)) ∧ top.Free inputs (d + 1) := by
  have taken : top.access (top.circuit.state inputs t) (inputs t).tl =
      TlulAdapterReg.accessOf top.regAw muBi4False a := TlulAdapterReg.regAccess_accepted request
  have start : (top.circuit.state inputs (t + 1)).regIf =
      TlulAdapterReg.taken (top.regIfInput (top.circuit.state inputs t) (inputs t).tl) a :=
    TlulAdapterReg.step_accepted request
  have viewed : top.view inputs (t + 1) =
      top.cycle (TlulAdapterReg.accessOf top.regAw muBi4False a) (top.view inputs t) := by
    rw [view_succ, taken]
  -- The adapter holds the response until it is taken, and takes no request meanwhile.
  have held (k : Nat) (first : t + 1 <= k) (last : k <= d) :
      (top.circuit.state inputs k).regIf = (top.circuit.state inputs (t + 1)).regIf ∧
        Relation.ReflTransGen top.Idle (top.perform (top.view inputs t) a)
          (top.view inputs (k + 1)) := by
    have silent {k : Nat} (same : (top.circuit.state inputs k).regIf =
        (top.circuit.state inputs (t + 1)).regIf) :
        accepted ((top.link inputs).h2d k) ((top.link inputs).d2h k) = none := by
      rcases other : accepted ((top.link inputs).h2d k) ((top.link inputs).d2h k) with _ | b
      · rfl
      · have idle := TlulAdapterReg.accepted_idle other
        rw [same, start] at idle
        exact Bool.noConfusion idle
    induction k, first using Nat.le_induction with
    | base =>
        refine ⟨rfl, ?_⟩
        rw [view_quiet (silent rfl), viewed]
        exact .refl
    | succ k first ih =>
        rcases ih (Nat.le_of_succ_le last) with ⟨same, moves⟩
        have next : (top.circuit.state inputs (k + 1)).regIf =
            (top.circuit.state inputs k).regIf := by
          have quiet := silent same
          have kept := answers.first k (Nat.lt_of_succ_le first) (Nat.lt_of_succ_le last)
          have busy : (inputs k).tl.dReady = false := by
            rcases ready : (inputs k).tl.dReady with _ | _
            · rfl
            · change (if (inputs k).tl.dReady then
                TlulAdapterReg.response (top.circuit.state inputs k).regIf else none) = none at kept
              rw [ready, if_pos rfl, same, start, TlulAdapterReg.response_taken] at kept
              exact absurd kept (by simp)
          change TlulAdapterReg.step _ (top.regIfInput _ _) = _
          rw [TlulAdapterReg.step_quiet quiet]
          refine if_neg ?_
          change ¬ (_ && (inputs k).tl.dReady) = true
          rw [busy, Bool.and_false]
          exact Bool.false_ne_true
        have same' := next.trans same
        exact ⟨same', moves.tail (view_quiet (silent same'))⟩
  rcases held d answers.later (Nat.le_refl d) with ⟨same, moves⟩
  have given := answers.response
  have offered := offered_of_delivered given
  change TlulAdapterReg.response (top.circuit.state inputs d).regIf = some r at offered
  rw [same, start, TlulAdapterReg.response_taken] at offered
  refine ⟨?_, moves, ?_⟩
  · have same := congrArg Response.data (Option.some.inj offered)
    rw [<- same, answer]
    simp only [TlulAdapterReg.owed, regIfInput, taken, view]
    rfl
  · have ready : (inputs d).tl.dReady = true := by
      rcases ready : (inputs d).tl.dReady with _ | _
      · change (if (inputs d).tl.dReady then _ else none) = some r at given
        rw [ready] at given
        exact absurd given (by simp)
      · rfl
    have quiet : accepted ((top.link inputs).h2d d) ((top.link inputs).d2h d) = none := by
      rcases other : accepted ((top.link inputs).h2d d) ((top.link inputs).d2h d) with _ | b
      · rfl
      · have idle := TlulAdapterReg.accepted_idle other
        rw [same, start] at idle
        exact Bool.noConfusion idle
    have outstanding : (top.circuit.state inputs d).regIf.outstanding = true := by
      rw [same, start]
      rfl
    change (TlulAdapterReg.step _ (top.regIfInput _ _)).outstanding = false
    rw [TlulAdapterReg.step_quiet quiet, outstanding]
    change (if (true && (inputs d).tl.dReady) = true then _ else _ : TlulAdapterReg.State).outstanding
      = false
    rw [ready]
    rfl

/-- A program that the requests on the link are those of is executed on the device. -/
theorem exec_of_performs {m : Mmio α} {t t' : Nat} {a : α} (free : top.Free inputs t)
    (performs : Performs (top.link inputs) base t m t' a) :
    Mmio.Exec (top.device base) top.Idle (top.view inputs t) m (top.view inputs t') a ∧
      top.Free inputs t' := by
  induction performs with
  | ret t value => exact ⟨.ret _ _, free⟩
  | wait quiet rest ih =>
      rcases ih (free_quiet free quiet) with ⟨execution, free'⟩
      exact ⟨.env (view_quiet quiet) execution, free'⟩
  | read32 offset next wires request answer rest ih =>
      rcases answered request answer with ⟨data, moves, free'⟩
      rw [answer_load] at data
      rw [perform_load] at moves
      rcases ih free' with ⟨execution, done⟩
      rw [data] at execution
      exact ⟨.read32 _ _ (Mmio.exec_of_moves moves execution), done⟩
  | write32 offset value next tlSource request answer rest ih =>
      rcases answered request answer with ⟨_, moves, free'⟩
      rcases ih free' with ⟨execution, done⟩
      exact ⟨.write32 _ _ _ (Mmio.exec_of_moves moves execution), done⟩
  | pollDone offset passes next wires request answer passed rest ih =>
      rcases answered request answer with ⟨data, moves, free'⟩
      rw [answer_load] at data
      rw [perform_load] at moves
      rcases ih free' with ⟨execution, done⟩
      rw [data] at execution passed
      exact ⟨.pollDone _ _ _ passed (Mmio.exec_of_moves moves execution), done⟩
  | pollAgain offset passes next wires request answer failed rest ih =>
      rcases answered request answer with ⟨data, moves, free'⟩
      rw [answer_load] at data
      rw [perform_load] at moves
      rcases ih free' with ⟨execution, done⟩
      rw [data] at failed
      exact ⟨.pollAgain _ _ _ failed (Mmio.exec_of_moves moves execution), done⟩

end RegTop
end SunburstChip
