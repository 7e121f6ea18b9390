import SunburstChip.Hw.PrimFifoSync
import SunburstChip.Hw.Tlul

namespace SunburstChip
namespace TlulAdapterSram

open Tlul PrimFifoSync

/-!
# The memory adapter

`tlul_adapter_sram.sv`, for a memory whose words are those of the bus and which
stores no integrity, and with a code for the responses.  Requests wait in one queue until they are answered.  What is
read comes a cycle after it has been asked for, and is put into another queue until
its request is the oldest one.
-/

/-- The parameters that instances set. -/
structure Params where
  sramAw : Nat
  outstanding : Nat
  byteAccess : Bool
  errOnWrite : Bool
  errOnRead : Bool
deriving DecidableEq

/-- `req_op_e` -/
inductive ReqOp
  | opWrite
  | opRead
  | opUnknown
deriving DecidableEq

/-- `req_t` -/
structure Req where
  op : ReqOp
  error : Bool
  instrType : Mubi4
  size : BitVec 2
  source : BitVec 8
deriving DecidableEq

instance : Zero Req := ⟨⟨.opWrite, false, 0, 0, 0⟩⟩

/-- `sram_req_t`: an offset in the memory's word would always be zero. -/
structure SramReq where
  mask : BitVec 4
deriving DecidableEq

instance : Zero SramReq := ⟨⟨0⟩⟩

/-- `rsp_t` -/
structure Rsp where
  data : BitVec 32
  dataCap : Bool
  error : Bool
deriving DecidableEq

instance : Zero Rsp := ⟨⟨0, false, false⟩⟩

/-- The flops of the adapter. -/
structure State (params : Params) where
  reqfifo : PrimFifoSync.State params.outstanding Req
  sramreqfifo : PrimFifoSync.State params.outstanding SramReq
  rspfifo : PrimFifoSync.State params.outstanding Rsp
  missedErrGntQ : Bool

/-- What comes from the memory: `gnt_i`, `rdata_i`, `rdata_cap_i`, `rvalid_i` and `rerror_i[1]`. -/
structure FromSram where
  gnt : Bool
  rdata : BitVec 32
  rdataCap : Bool
  rvalid : Bool
  rerror : Bool
deriving DecidableEq

/-- The access to the memory: `req_o`, `we_o`, `addr_o`, `wdata_o`, `wdata_cap_o` and `wmask_o`. -/
structure ToSram (sramAw : Nat) where
  req : Bool
  we : Bool
  addr : BitVec sramAw
  wdata : BitVec 32
  wdataCap : Bool
  wmask : BitVec 32
deriving DecidableEq

/-- `u_reqfifo` and `u_sramreqfifo` do not pass words, `u_rspfifo` does. -/
def holding : Options := ⟨false, true⟩

def passing : Options := ⟨true, true⟩

/-- What a queue is given in a cycle in which nothing is done: a queue that does not pass words has
the same outputs whatever it is given. -/
def nothing {α : Type} [Zero α] : PrimFifoSync.Input α := ⟨false, false, 0, false⟩

/-- `mask` for each bit, as in `wmask_int` and `rmask`. -/
def bitMask (mask : BitVec 4) : BitVec 32 := wires 32 (fun i => mask.getLsbD (i / 8))

/-! ## Codes -/

/-- The seven bits that an encoder of `prim_secded_pkg` has for some data: parities, of which every
other one is inverted. -/
def secdedInv {n : Nat} (masks : List (BitVec n)) (data : BitVec n) : BitVec 7 :=
  wires 7 (fun i => xorReduce (data &&& masks.getD i 0)) ^^^ 0x2a

/-- `prim_secded_inv_64_57_enc` -/
def primSecdedInv6457Enc : BitVec 57 -> BitVec 7 :=
  secdedInv [0x103FFF800007FFF, 0x17C1FF801FF801F, 0x1BDE1F87E0781E1, 0x1DEEE3B8E388E22,
    0x1EF76CDB2C93244, 0x1F7BB56D5525488, 0x1FBDDA769A46910]

/-- `prim_secded_inv_39_32_enc` -/
def primSecdedInv3932Enc : BitVec 32 -> BitVec 7 :=
  secdedInv [0x2606BD25, 0xDEBA8050, 0x413D89AA, 0x31234ED1, 0xC2C1323B, 0x2DCC624C, 0x98505586]

/-- `SecdedInv3932ZeroEcc` -/
def secdedInv3932ZeroEcc : BitVec 7 := 0x2a

example : primSecdedInv3932Enc 0 = secdedInv3932ZeroEcc := by decide +kernel

/-- The bits of `tl_d_op_e`. -/
def opcodeBits : TlDOp -> BitVec 3
  | .accessAck => 0
  | .accessAckData => 1

/-- `tlul_rsp_intg_gen`, with a code for the response and the one for the data as it is. -/
def tlulRspIntgGen (r : Response) : Response :=
  { r with
    user.rspIntg :=
      primSecdedInv6457Enc ((opcodeBits r.opcode ++ r.size ++ BitVec.ofBool r.error).setWidth 57) }

variable {params : Params}

/-! ## Requests -/

/-- `wr_attr_error` -/
def wrAttrError (params : Params) (a : Request) : Bool :=
  if a.opcode == putFullData || a.opcode == putPartialData then
    if !params.byteAccess then a.mask != 0xf || a.size != 2 else false
  else false

/-- `instr_error` -/
def instrError (enIfetch : Mubi4) (a : Request) : Bool :=
  mubi4TestInvalid a.user.instrType ||
    (mubi4TestTrueStrict a.user.instrType && mubi4TestFalseLoose enIfetch)

/-- `error_det`, which is `error_internal`.  There is no check of the command's integrity. -/
def errorInternal (params : Params) (enIfetch : Mubi4) (a : Request) : Bool :=
  wrAttrError params a || (params.errOnWrite && a.opcode != get) ||
    (params.errOnRead && a.opcode == get) || instrError enIfetch a || tlulErr a

/-- `we_o`, for a request that is valid. -/
def weO (a : Request) : Bool := a.opcode == putFullData || a.opcode == putPartialData

/-- `reqfifo_wdata` -/
def reqfifoWdata (params : Params) (enIfetch : Mubi4) (a : Request) : Req where
  op := if a.opcode != get then .opWrite else .opRead
  error := errorInternal params enIfetch a
  instrType := a.user.instrType
  size := a.size
  source := a.source

section

variable (s : State params) (tl : H2d) (enIfetch : Mubi4) (sram : FromSram)

/-- `reqfifo_wready` -/
def reqfifoWready : Bool := PrimFifoSync.wready s.reqfifo

/-- `reqfifo_rvalid` -/
def reqfifoRvalid : Bool := PrimFifoSync.rvalid holding s.reqfifo nothing

/-- `reqfifo_rdata` -/
def reqfifoRdata : Req := PrimFifoSync.rdata holding s.reqfifo nothing

/-- `sramreqfifo_wready` -/
def sramreqfifoWready : Bool := PrimFifoSync.wready s.sramreqfifo

/-- `sramreqfifo_rdata` -/
def sramreqfifoRdata : SramReq := PrimFifoSync.rdata holding s.sramreqfifo nothing

/-- `req_o` -/
def reqO : Bool :=
  match tl.a with
  | some a => reqfifoWready s && !errorInternal params enIfetch a
  | none => false

/-- The access to the memory in a cycle. -/
def toSram : ToSram params.sramAw :=
  match tl.a with
  | some a =>
      { req := reqO s tl enIfetch
        we := weO a
        addr := a.address.extractLsb' 2 params.sramAw
        wdata := if weO a then a.data &&& bitMask a.mask else 0
        wdataCap := if weO a then a.user.capability else false
        wmask := bitMask a.mask }
  | none => ⟨false, false, 0, 0, false, 0⟩

/-- `a_ready` -/
def aReady : Bool :=
  (sram.gnt || s.missedErrGntQ) && reqfifoWready s && sramreqfifoWready s

/-- The request that is acknowledged, `a_ack`. -/
def aAck : Option Request := if aReady s sram then tl.a else none

/-! ## Responses -/

/-- `rspfifo_wvalid` -/
def rspfifoWvalid : Bool := sram.rvalid && reqfifoRvalid s

/-- `rspfifo_wdata` -/
def rspfifoWdata : Rsp where
  data := sram.rdata &&& bitMask (sramreqfifoRdata s).mask
  dataCap := sram.rdataCap
  error := sram.rerror

/-- What `u_rspfifo` is given but for `rready_i`. -/
def rspfifoWrite : PrimFifoSync.Input Rsp := ⟨false, rspfifoWvalid s sram, rspfifoWdata s sram, false⟩

/-- `rspfifo_rvalid` -/
def rspfifoRvalid : Bool := PrimFifoSync.rvalid passing s.rspfifo (rspfifoWrite s sram)

/-- `rspfifo_rdata` -/
def rspfifoRdata : Rsp := PrimFifoSync.rdata passing s.rspfifo (rspfifoWrite s sram)

/-- `d_valid` -/
def dValid : Bool :=
  if reqfifoRvalid s then
    if (reqfifoRdata s).error then true
    else if (reqfifoRdata s).op = .opRead then rspfifoRvalid s sram
    else true
  else false

/-- `d_error` -/
def dError : Bool :=
  if reqfifoRvalid s then
    if (reqfifoRdata s).op = .opRead then (rspfifoRdata s sram).error || (reqfifoRdata s).error
    else (reqfifoRdata s).error
  else false

/-- `vld_rd_rsp` -/
def vldRdRsp : Bool :=
  dValid s sram && reqfifoRvalid s && rspfifoRvalid s sram && (reqfifoRdata s).op = .opRead

/-- `error_blanking_data`: `DataWhenInstrError` or `DataWhenError` -/
def errorBlankingData (instrType : Mubi4) : BitVec 32 :=
  if mubi4TestTrueStrict instrType then 0 else .allOnes 32

/-- `data_intg`: what has been read has no code. -/
def dataIntg : BitVec 7 :=
  if vldRdRsp s sram && (reqfifoRdata s).error then
    primSecdedInv3932Enc (errorBlankingData (reqfifoRdata s).instrType)
  else if vldRdRsp s sram then 0
  else secdedInv3932ZeroEcc

/-- What is on the response channel when `d_valid` is up. -/
def response : Response where
  opcode := if (reqfifoRdata s).op != .opRead then .accessAck else .accessAckData
  param := 0
  size := (reqfifoRdata s).size
  source := (reqfifoRdata s).source
  sink := 0
  data :=
    if vldRdRsp s sram && !dError s sram then (rspfifoRdata s sram).data
    else errorBlankingData (reqfifoRdata s).instrType
  user := ⟨0, dataIntg s sram,
    if vldRdRsp s sram && !dError s sram then (rspfifoRdata s sram).dataCap else false⟩
  error := dError s sram

/-- `tl_o` -/
def tlO : D2h :=
  ⟨if dValid s sram then some (tlulRspIntgGen (response s sram)) else none, aReady s sram⟩

/-- `d_ack` -/
def dAck : Bool := dValid s sram && tl.dReady

/-! ## The adapter -/

/-- What `u_reqfifo` is given. -/
def reqfifoInput : PrimFifoSync.Input Req :=
  match aAck s tl sram with
  | some a => ⟨false, true, reqfifoWdata params enIfetch a, dAck s tl sram⟩
  | none => ⟨false, false, 0, dAck s tl sram⟩

/-- What `u_sramreqfifo` is given: `sram_ack & ~we_o` writes it. -/
def sramreqfifoInput : PrimFifoSync.Input SramReq :=
  match tl.a with
  | some a =>
      ⟨false, reqO s tl enIfetch && sram.gnt && !weO a, ⟨a.mask⟩, rspfifoWvalid s sram⟩
  | none => ⟨false, false, 0, rspfifoWvalid s sram⟩

/-- What `u_rspfifo` is given. -/
def rspfifoInput : PrimFifoSync.Input Rsp :=
  { rspfifoWrite s sram with
    rready :=
      if (reqfifoRdata s).op = .opRead ∧ (reqfifoRdata s).error = false then dAck s tl sram
      else false }

/-- `missed_err_gnt_d` -/
def missedErrGntD : Bool :=
  match tl.a with
  | some a => errorInternal params enIfetch a && !aReady s sram
  | none => false

end

/-- What the adapter is given in a cycle. -/
structure Input where
  tl : H2d
  enIfetch : Mubi4
  sram : FromSram
deriving DecidableEq

/-- `tlul_adapter_sram` -/
def adapter (params : Params) : Circuit (State params) Input where
  reset := ⟨(fifo holding params.outstanding Req).reset, (fifo holding params.outstanding SramReq).reset,
    (fifo passing params.outstanding Rsp).reset, false⟩
  next s input :=
    { reqfifo := (fifo holding params.outstanding Req).next s.reqfifo
        (reqfifoInput s input.tl input.enIfetch input.sram)
      sramreqfifo := (fifo holding params.outstanding SramReq).next s.sramreqfifo
        (sramreqfifoInput s input.tl input.enIfetch input.sram)
      rspfifo := (fifo passing params.outstanding Rsp).next s.rspfifo
        (rspfifoInput s input.tl input.sram)
      missedErrGntQ := missedErrGntD s input.tl input.enIfetch input.sram }

end TlulAdapterSram
end SunburstChip
