import SunburstChip.Hw.RegTop
import SunburstChip.Hw.RvPlicClaims

namespace SunburstChip
namespace RvPlic

open Tlul TlulAdapterHost

/-!
# The interrupt controller as software finds it

The controller is a device behind an adapter.  Software that loads and stores words
sets what it is configured to, claims interrupts and completes them; in between, and
while it does, the lines do as they like.
-/

/-! ## The controller behind its adapter -/

/-- The flops of the controller, but for those of the adapter. -/
structure Core where
  regs : Regs
  intq : BitVec 32
  intrSrcSynced : BitVec 32
  gateway : RvPlicGateway.State 32
  target : Target.State

/-- `claim_id`, where the access claims. -/
def Core.claimed (core : Core) (acc : TlulAdapterReg.RegAccess) : Option Nat :=
  if reads .cc0 acc then some core.target.irqIdQ else none

/-- `complete_id`, where the access completes. -/
def completed (acc : TlulAdapterReg.RegAccess) : Option Nat :=
  if writes .cc0 acc then some (acc.wdata.setWidth 5).toNat else none

/-- What the gateways are given by an access. -/
def Core.gatewayInput (core : Core) (acc : TlulAdapterReg.RegAccess) : RvPlicGateway.Input 32 where
  src := core.intrSrcSynced
  claim := oneHot0 (core.claimed acc)
  complete := oneHot0 (completed acc)

/-- What the flops take, from the lines and an access. -/
def Core.next (levelEdgeTrig : BitVec 32) (core : Core) (intrSrc : BitVec 32)
    (acc : TlulAdapterReg.RegAccess) : Core where
  regs := core.regs.next core.gateway.ip acc
  intq := intrSrc
  intrSrcSynced := core.intq
  gateway := (RvPlicGateway.gateway levelEdgeTrig).next core.gateway (core.gatewayInput acc)
  target := Target.next core.gateway.ip core.regs.ie core.regs.prio core.regs.threshold

variable {acc : TlulAdapterReg.RegAccess} {register : Register}

theorem writes_of_read (read : acc.we = false) : writes register acc = false := by
  simp [writes, read]

/-- The controller, but for its adapter. -/
def top (levelEdgeTrig : BitVec 32) : RegTop Core (BitVec 32) where
  regAw := 27
  reset := ⟨⟨fun _ => 0, 0, 0, 0, false⟩, 0, 0, (RvPlicGateway.gateway levelEdgeTrig).reset,
    ⟨false, 0⟩⟩
  rdata core acc := regRdataNext core.regs core.target.irqIdQ acc
  error _ acc := regError acc
  next core intrSrc acc := core.next levelEdgeTrig intrSrc acc
  unread core intrSrc acc wdata read := by
    refine ⟨?_, rfl, rfl⟩
    have quiet (register : Register) : writes register { acc with wdata := wdata } = false :=
      writes_of_read read
    simp only [Core.next, Core.gatewayInput, completed, Regs.next, quiet, writes_of_read read]
    rfl

/-- The flops of the controller, apart. -/
def State.view (s : State) : RegTop.State Core :=
  ⟨s.regIf, ⟨s.regs, s.intq, s.intrSrcSynced, s.gateway, s.target⟩⟩

/-- The inputs of the controller, apart. -/
def Input.view (input : Input) : RegTop.Input (BitVec 32) := ⟨input.tl, input.intrSrc⟩

variable {levelEdgeTrig : BitVec 32} {inputs : Nat -> Input} {t t' : Nat}

theorem view_state (inputs : Nat -> Input) (t : Nat) :
    ((rvPlic levelEdgeTrig).state inputs t).view =
      (top levelEdgeTrig).circuit.state (fun k => (inputs k).view) t :=
  @Circuit.state_map _ _ _ _ (rvPlic levelEdgeTrig) inputs (top levelEdgeTrig).circuit
    State.view (fun _ input => input.view) rfl (fun _ _ => rfl) t

/-- The link of the controller. -/
def link (levelEdgeTrig : BitVec 32) (inputs : Nat -> Input) : Link where
  h2d t := (inputs t).tl
  d2h t := tlO ((rvPlic levelEdgeTrig).state inputs t) (inputs t)

theorem link_view : link levelEdgeTrig inputs =
    (top levelEdgeTrig).link (fun k => (inputs k).view) := by
  have same (t : Nat) : tlO ((rvPlic levelEdgeTrig).state inputs t) (inputs t) =
      TlulAdapterReg.tlO ((top levelEdgeTrig).circuit.state (fun k => (inputs k).view) t).regIf
        (inputs t).tl false := by
    rw [<- view_state]
    rfl
  simp only [link, RegTop.link, same]
  rfl

/-- `ADDR_SPACE_RV_PLIC` -/
def addrSpaceRvPlic : BitVec 32 := 0x88000000

/-- The controller as software finds it. -/
abbrev device (levelEdgeTrig : BitVec 32) : Device (RegTop.View Core (BitVec 32)) :=
  (top levelEdgeTrig).device addrSpaceRvPlic

/-- A cycle that software does nothing in. -/
abbrev Idle (levelEdgeTrig : BitVec 32) :
    RegTop.View Core (BitVec 32) -> RegTop.View Core (BitVec 32) -> Prop :=
  (top levelEdgeTrig).Idle

/-- What software is about in a cycle of a run. -/
def viewed (levelEdgeTrig : BitVec 32) (inputs : Nat -> Input) (t : Nat) :
    RegTop.View Core (BitVec 32) where
  core := ((rvPlic levelEdgeTrig).state inputs t).view.core
  ahead k := (inputs (t + k)).intrSrc

/-- A program that makes the requests on the link since reset is executed on the device. -/
theorem exec_of_performs {α : Type} {m : Mmio α} {a : α}
    (performs : Performs (link levelEdgeTrig inputs) addrSpaceRvPlic 0 m t a) :
    Mmio.Exec (device levelEdgeTrig) (Idle levelEdgeTrig) (viewed levelEdgeTrig inputs 0) m
      (viewed levelEdgeTrig inputs t) a := by
  have same (k : Nat) : viewed levelEdgeTrig inputs k =
      (top levelEdgeTrig).view (fun k => (inputs k).view) k := by
    rw [viewed, view_state]
    rfl
  rw [link_view] at performs
  rw [same, same]
  exact (RegTop.exec_of_performs (show (top levelEdgeTrig).Free _ 0 from rfl) performs).1

/-! ## The registers by their offsets -/

/-- A load of the word of a register. -/
def loads (register : Register) : TlulAdapterReg.RegAccess :=
  ⟨true, false, .ofNat 32 register.offset, 0, 0b1111⟩

/-- A store to the word of a register. -/
def stores (register : Register) (value : BitVec 32) : TlulAdapterReg.RegAccess :=
  ⟨false, true, .ofNat 32 register.offset, value, 0b1111⟩

theorem accessOf_load (register : Register) :
    TlulAdapterReg.accessOf 27 muBi4False
      (load (addrSpaceRvPlic + .ofNat 32 register.offset) 0 0 0) = loads register := by
  have each : forall register, register ∈ layout.registers ->
      TlulAdapterReg.accessOf 27 muBi4False
        (load (addrSpaceRvPlic + .ofNat 32 register.offset) 0 0 0) = loads register := by
    decide +kernel
  exact each register (layout.complete register)

theorem accessOf_store (register : Register) (value : BitVec 32) :
    TlulAdapterReg.accessOf 27 muBi4False
      (store (addrSpaceRvPlic + .ofNat 32 register.offset) value 0) = stores register value := by
  have each : forall register, register ∈ layout.registers ->
      TlulAdapterReg.accessOf 27 muBi4False
        (store (addrSpaceRvPlic + .ofNat 32 register.offset) 0 0) = stores register 0 := by
    decide +kernel
  have zero := each register (layout.complete register)
  have data (value : BitVec 32) : TlulAdapterReg.accessOf 27 muBi4False
      (store (addrSpaceRvPlic + .ofNat 32 register.offset) value 0) =
        { TlulAdapterReg.accessOf 27 muBi4False
            (store (addrSpaceRvPlic + .ofNat 32 register.offset) 0 0) with wdata := value } := rfl
  rw [data, zero]
  rfl

theorem offset_toNat (register : Register) :
    (BitVec.ofNat 32 register.offset).toNat = register.offset := by
  have below : register.offset < 2 ^ 32 := by
    cases register with
    | prio n => exact Nat.lt_trans (show 4 * n.val < 128 by omega) (by decide)
    | ip | ie0 | threshold0 | cc0 | msip0 => decide
  rw [BitVec.toNat_ofNat, Nat.mod_eq_of_lt below]

theorem addrHit_of_addr (addr : acc.addr = .ofNat 32 register.offset) :
    addrHit acc = some register := by
  rw [addrHit, addr, offset_toNat]
  exact layout.decode_offset register

theorem regError_of_word (addr : acc.addr = .ofNat 32 register.offset) (be : acc.be = 0b1111) :
    regError acc = false := by
  simp [regError, addrHit_of_addr addr, be]

theorem reads_loads (register other : Register) :
    reads other (loads register) = decide (register = other) := by
  have good : regError (loads register) = false := regError_of_word rfl rfl
  have hit : addrHit (loads register) = some register := addrHit_of_addr rfl
  rw [reads, hit, good, loads]
  simp only [Option.some_beq_some, Bool.and_true, Bool.not_false]
  rfl

theorem writes_loads (register other : Register) : writes other (loads register) = false :=
  writes_of_read rfl

theorem writes_stores (register other : Register) (value : BitVec 32) :
    writes other (stores register value) = decide (register = other) := by
  have good : regError (stores register value) = false := regError_of_word rfl rfl
  have hit : addrHit (stores register value) = some register := addrHit_of_addr rfl
  rw [writes, hit, good, stores]
  simp only [Option.some_beq_some, Bool.and_true, Bool.not_false]
  rfl

/-- What a load of a register gives. -/
theorem read32_value (register : Register) (v : RegTop.View Core (BitVec 32)) :
    ((device levelEdgeTrig).read32 register.offset v).1 =
      regRdataNext v.core.regs v.core.target.irqIdQ (loads register) := by
  have good : regError (loads register) = false := regError_of_word rfl rfl
  change (top levelEdgeTrig).answer v _ = _
  unfold RegTop.answer
  change (TlulAdapterReg.owed ⟨_, _, _, (top levelEdgeTrig).rdata _ (TlulAdapterReg.accessOf 27 _ _),
    (top levelEdgeTrig).error _ (TlulAdapterReg.accessOf 27 _ _)⟩ _).data = _
  have sound := TlulAdapterReg.errInternal_of_re
    (congrArg TlulAdapterReg.RegAccess.re (accessOf_load register))
  rw [accessOf_load]
  change (if (regError (loads register) || TlulAdapterReg.errInternal muBi4False
    (load (addrSpaceRvPlic + .ofNat 32 register.offset) 0 0 0) || false) = true then _ else _) = _
  rw [good, sound]
  rfl

/-- What a load of a register does. -/
theorem read32_view (register : Register) (v : RegTop.View Core (BitVec 32)) :
    ((device levelEdgeTrig).read32 register.offset v).2 =
      (top levelEdgeTrig).cycle TlulAdapterReg.noAccess
        ((top levelEdgeTrig).cycle (loads register) v) := by
  change (top levelEdgeTrig).cycle _ ((top levelEdgeTrig).cycle (TlulAdapterReg.accessOf 27 _ _) v)
    = _
  rw [accessOf_load]

/-- What a store to a register does. -/
theorem write32_view (register : Register) (value : BitVec 32)
    (v : RegTop.View Core (BitVec 32)) :
    (device levelEdgeTrig).write32 register.offset value v =
      (top levelEdgeTrig).cycle TlulAdapterReg.noAccess
        ((top levelEdgeTrig).cycle (stores register value) v) := by
  change (top levelEdgeTrig).cycle _ ((top levelEdgeTrig).cycle (TlulAdapterReg.accessOf 27 _ _) v)
    = _
  rw [accessOf_store]

end RvPlic
end SunburstChip
