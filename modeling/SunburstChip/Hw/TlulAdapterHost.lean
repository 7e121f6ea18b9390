import SunburstChip.Hw.TlulAdapterReg
import SunburstChip.Lib.Mmio

namespace SunburstChip
namespace TlulAdapterHost

open Tlul

/-!
# Programs on the bus

`tlul_adapter_host.sv`, between the core and the bus, and what a program of loads
and stores is on a link: a request for each access, the response to it, and the
next access after that.  Any number of cycles may pass in between, and it may take
any number of cycles for a response to come.
-/

/-- `tl_out`, for a request of the core. -/
def tlOut (we : Bool) (addr wdata : BitVec 32) (wdataCap : Bool) (wdataIntg : BitVec 7)
    (be : BitVec 4) (instrType : Mubi4) (tlSource : BitVec 8) : Request where
  opcode := if !we then get else if be = 0b1111 then putFullData else putPartialData
  param := 0
  size := 2
  source := tlSource
  address := addr.extractLsb' 2 30 ++ 0#2
  mask := if !we then 0b1111 else be
  data := wdata
  user := ⟨0, instrType, 0, wdataIntg, wdataCap⟩

/-- The request of a load of a word, with whatever is on the wires that a load does not use. -/
def load (addr wdata : BitVec 32) (be : BitVec 4) (tlSource : BitVec 8) : Request :=
  tlOut false addr wdata false 0 be muBi4False tlSource

/-- The request of a store of a word. -/
def store (addr wdata : BitVec 32) (tlSource : BitVec 8) : Request :=
  tlOut true addr wdata false 0 0b1111 muBi4False tlSource

/-- The response that is taken in cycle `d` is the one to the request of cycle `t`: it is the first
response after it, and there is no other request before it. -/
structure Answers (link : Link) (t d : Nat) (r : Response) : Prop where
  later : t < d
  response : delivered (link.h2d d) (link.d2h d) = some r
  first : forall k, t < k -> k < d -> delivered (link.h2d k) (link.d2h k) = none
  alone : forall k, t < k -> k < d -> accepted (link.h2d k) (link.d2h k) = none

/-- `Performs link base t m t' a`: the program `m`, whose registers lie from `base` on, can be what
makes the requests on the link from cycle `t` on, until it has returned `a` before cycle `t'`. -/
inductive Performs {α : Type} (link : Link) (base : BitVec 32) : Nat -> Mmio α -> Nat -> α -> Prop where
  | ret (t : Nat) (value : α) : Performs link base t (.ret value) t value
  | wait {t t' : Nat} {m : Mmio α} {a : α}
      (quiet : accepted (link.h2d t) (link.d2h t) = none)
      (rest : Performs link base (t + 1) m t' a) : Performs link base t m t' a
  | read32 {t d t' : Nat} {a : α} {r : Response} (offset : Nat) (next : BitVec 32 -> Mmio α)
      (wires : BitVec 32 × BitVec 4 × BitVec 8)
      (request : accepted (link.h2d t) (link.d2h t) =
        some (load (base + .ofNat 32 offset) wires.1 wires.2.1 wires.2.2))
      (answer : Answers link t d r) (rest : Performs link base (d + 1) (next r.data) t' a) :
      Performs link base t (.read32 offset next) t' a
  | write32 {t d t' : Nat} {a : α} {r : Response} (offset : Nat) (value : BitVec 32)
      (next : Mmio α) (tlSource : BitVec 8)
      (request : accepted (link.h2d t) (link.d2h t) =
        some (store (base + .ofNat 32 offset) value tlSource))
      (answer : Answers link t d r) (rest : Performs link base (d + 1) next t' a) :
      Performs link base t (.write32 offset value next) t' a
  | pollDone {t d t' : Nat} {a : α} {r : Response} (offset : Nat) (passes : BitVec 32 -> Bool)
      (next : BitVec 32 -> Mmio α) (wires : BitVec 32 × BitVec 4 × BitVec 8)
      (request : accepted (link.h2d t) (link.d2h t) =
        some (load (base + .ofNat 32 offset) wires.1 wires.2.1 wires.2.2))
      (answer : Answers link t d r) (passed : passes r.data = true)
      (rest : Performs link base (d + 1) (next r.data) t' a) :
      Performs link base t (.poll32 offset passes next) t' a
  | pollAgain {t d t' : Nat} {a : α} {r : Response} (offset : Nat) (passes : BitVec 32 -> Bool)
      (next : BitVec 32 -> Mmio α) (wires : BitVec 32 × BitVec 4 × BitVec 8)
      (request : accepted (link.h2d t) (link.d2h t) =
        some (load (base + .ofNat 32 offset) wires.1 wires.2.1 wires.2.2))
      (answer : Answers link t d r) (failed : passes r.data = false)
      (rest : Performs link base (d + 1) (.poll32 offset passes next) t' a) :
      Performs link base t (.poll32 offset passes next) t' a

end TlulAdapterHost
end SunburstChip
