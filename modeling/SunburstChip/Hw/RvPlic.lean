import SunburstChip.Hw.PrimMaxTree
import SunburstChip.Hw.RvPlicGateway
import SunburstChip.Hw.TlulAdapterReg
import SunburstChip.Lib.RegisterBank

namespace SunburstChip
namespace RvPlic

open Tlul

/-!
# The interrupt controller

`rv_plic.sv`, `rv_plic_target.sv` and `rv_plic_reg_top.sv`, cycle by cycle.  The
interrupt lines pass two flops and the gateways.  The pending interrupts that
are enabled go to the tree that finds the one of the greatest priority, and
flops hold what it finds.  The bus reads and writes the registers through the
adapter; reading one of them claims the interrupt that the flops hold, and
writing it completes one.
-/

/-! ## The target -/

namespace Target

/-- The flops of `rv_plic_target`. -/
structure State where
  irqQ : Bool
  irqIdQ : Nat
deriving DecidableEq

/-- What `rv_plic_target` finds: `irq_d` and `irq_id_d`. -/
def next {nSource prioWidth : Nat} (ip ie : BitVec nSource) (prio : Fin nSource -> BitVec prioWidth)
    (threshold : BitVec prioWidth) : State :=
  let max := (PrimMaxTree.Inputs.mk prio (ip &&& ie)).root
  { irqQ := if max.max > threshold then max.vld else false
    irqIdQ := if max.vld then max.idx else 0 }

end Target

/-! ## The registers -/

/-- `RV_PLIC_PARAM_NUM_SRC` -/
abbrev numSrc : Nat := 32

/-- The registers of the controller. -/
inductive Register where
  | prio (n : Fin 32)
  | ip
  | ie0
  | threshold0
  | cc0
  | msip0
deriving DecidableEq

/-- Where the registers lie. -/
def Register.offset : Register -> Nat
  | .prio n => 4 * n.val
  | .ip => 0x1000
  | .ie0 => 0x2000
  | .threshold0 => 0x200000
  | .cc0 => 0x200004
  | .msip0 => 0x4000000

/-- The registers of the controller, with their offsets. -/
def layout : Layout Register where
  offset := Register.offset
  registers := (List.finRange 32).map .prio ++ [.ip, .ie0, .threshold0, .cc0, .msip0]
  complete register := by
    cases register with
    | prio n => exact List.mem_append_left _ (List.mem_map_of_mem (List.mem_finRange n))
    | ip | ie0 | threshold0 | cc0 | msip0 => simp
  apart := by
    intro left right same
    cases left <;> cases right <;> simp only [Register.offset] at same <;>
      first
        | rfl
        | exact congrArg _ (Fin.ext (by omega))
        | omega

/-- `RV_PLIC_PERMIT`: the bytes that a write of the register has to have. -/
def Register.permit : Register -> BitVec 4
  | .ip | .ie0 => 0b1111
  | .prio _ | .threshold0 | .cc0 | .msip0 => 0b0001

/-- The flops of the registers. -/
structure Regs where
  prio : Fin 32 -> BitVec 2
  ip : BitVec 32
  ie : BitVec 32
  threshold : BitVec 2
  msip : Bool

/-- `addr_hit` -/
def addrHit (access : TlulAdapterReg.RegAccess) : Option Register := layout.decode access.addr.toNat

/-- `reg_error` -/
def regError (access : TlulAdapterReg.RegAccess) : Bool :=
  let addrmiss := (access.re || access.we) && (addrHit access).isNone
  let wrErr := access.we &&
    match addrHit access with
    | some register => register.permit &&& ~~~access.be != 0
    | none => false
  addrmiss || wrErr

/-- `reg_rdata_next` -/
def regRdataNext (regs : Regs) (ccId : Nat) (access : TlulAdapterReg.RegAccess) : BitVec 32 :=
  match addrHit access with
  | some (.prio n) => (regs.prio n).setWidth 32
  | some .ip => regs.ip
  | some .ie0 => regs.ie
  | some .threshold0 => regs.threshold.setWidth 32
  | some .cc0 => (BitVec.ofNat 5 ccId).setWidth 32
  | some .msip0 => (BitVec.ofBool regs.msip).setWidth 32
  | none => .allOnes 32

/-- `re`: the register is read. -/
def reads (register : Register) (access : TlulAdapterReg.RegAccess) : Bool :=
  addrHit access == some register && access.re && !regError access

/-- `we`: the register is written. -/
def writes (register : Register) (access : TlulAdapterReg.RegAccess) : Bool :=
  addrHit access == some register && access.we && !regError access

/-- What the flops of the registers take.  Those of `ip` always take what is pending. -/
def Regs.next (regs : Regs) (ip : BitVec 32) (access : TlulAdapterReg.RegAccess) : Regs where
  prio n := if writes (.prio n) access then access.wdata.setWidth 2 else regs.prio n
  ip := ip
  ie := if writes .ie0 access then access.wdata else regs.ie
  threshold := if writes .threshold0 access then access.wdata.setWidth 2 else regs.threshold
  msip := if writes .msip0 access then access.wdata.getLsbD 0 else regs.msip

/-! ## The controller -/

/-- The flops of the controller. -/
structure State where
  regIf : TlulAdapterReg.State
  regs : Regs
  intq : BitVec 32
  intrSrcSynced : BitVec 32
  gateway : RvPlicGateway.State 32
  target : Target.State

/-- The inputs of the controller. -/
structure Input where
  tl : H2d
  intrSrc : BitVec 32

variable (levelEdgeTrig : BitVec 32) (s : State) (input : Input)

/-- The access to the registers in a cycle. -/
def access : TlulAdapterReg.RegAccess :=
  TlulAdapterReg.regAccess 27 s.regIf input.tl false muBi4False

/-- What the adapter is given in a cycle. -/
def regIfInput : TlulAdapterReg.Input where
  tl := input.tl
  enIfetch := muBi4False
  busy := false
  rdata := regRdataNext s.regs s.target.irqIdQ (access s input)
  error := regError (access s input)

/-- `claim_re` and `claim_id` -/
def claims : Option Nat := if reads .cc0 (access s input) then some s.target.irqIdQ else none

/-- `complete_we` and `complete_id` -/
def completes : Option Nat :=
  if writes .cc0 (access s input) then some ((access s input).wdata.setWidth 5).toNat else none

/-- `claim` or `complete`: the bit of the source. -/
def oneHot0 : Option Nat -> BitVec 32
  | some id => .twoPow 32 id
  | none => 0

/-- What the gateways are given in a cycle. -/
def gatewayInput : RvPlicGateway.Input 32 where
  src := s.intrSrcSynced
  claim := oneHot0 (claims s input)
  complete := oneHot0 (completes s input)

/-- What the flops take at an edge. -/
def step : State where
  regIf := TlulAdapterReg.step s.regIf (regIfInput s input)
  regs := s.regs.next s.gateway.ip (access s input)
  intq := input.intrSrc
  intrSrcSynced := s.intq
  gateway := (RvPlicGateway.gateway levelEdgeTrig).next s.gateway (gatewayInput s input)
  target := Target.next s.gateway.ip s.regs.ie s.regs.prio s.regs.threshold

/-- `rv_plic` -/
def rvPlic : Circuit State Input where
  reset :=
    { regIf := TlulAdapterReg.adapter.reset
      regs := ⟨fun _ => 0, 0, 0, 0, false⟩
      intq := 0
      intrSrcSynced := 0
      gateway := (RvPlicGateway.gateway levelEdgeTrig).reset
      target := ⟨false, 0⟩ }
  next := step levelEdgeTrig

/-- `tl_o` -/
def tlO : D2h := TlulAdapterReg.tlO s.regIf input.tl false

/-- `irq_o` -/
def irqO : Bool := s.target.irqQ

/-- `msip_o` -/
def msipO : Bool := s.regs.msip

end RvPlic
end SunburstChip
