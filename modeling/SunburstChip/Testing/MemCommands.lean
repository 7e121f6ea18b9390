import SunburstChip.Base.Memory
import SunburstChip.Testing.UjsonOttf

namespace SunburstChip
namespace MemCommands

open Routine
open Ujson
open UjsonOttf

/-!
# Memory commands

The commands of `mem.c`, with which a host reads and writes the memory of the
device, and `ujson_ottf_dispatch`, which runs them and answers for those that
fail.

The local objects of a command contain what is on the stack before it runs.
They are not in the memory that the host can address.  `memcpy` copies between
this memory and a local object; of its accesses, those to this memory are noted,
byte by byte.
-/

/-! ## Messages -/

/-- A place of `UJSON_SERDE_STRUCT` in `mem.h`. -/
def memH (line : Nat) : Site where
  moduleId := makeModuleId 0x6a 0x6d 0x68
  positioned := positioned_makeModuleId _ _ _
  file := ⟨ascii "mem.h", by decide⟩
  line := line

/-- A place in `mem.c`. -/
def memC (line : Nat) : Site := { UjsonOttf.memC with line := line }

/-- The error that the generated function for a struct returns. -/
def serdeError (line : Nat) : Error :=
  (memH line).error .kInvalidArgument AbslStatus.kInvalidArgument_ne

/-- `STRUCT_MEM_READ32_REQ` -/
def structMemRead32Req : Fields := .field (ascii "address") (.scalar .uint32T) [] .nil

/-- `STRUCT_MEM_READ32_RESP` -/
def structMemRead32Resp : Fields := .field (ascii "value") (.scalar .uint32T) [] .nil

/-- `STRUCT_MEM_READ_REQ` -/
def structMemReadReq : Fields :=
  .field (ascii "address") (.scalar .uint32T) []
    (.field (ascii "data_len") (.scalar .uint16T) [] .nil)

/-- `STRUCT_MEM_READ_RESP` -/
def structMemReadResp : Fields :=
  .field (ascii "data") (.scalar .uint8T) [256]
    (.field (ascii "data_len") (.scalar .uint16T) [] .nil)

/-- `STRUCT_MEM_WRITE32_REQ` -/
def structMemWrite32Req : Fields :=
  .field (ascii "address") (.scalar .uint32T) []
    (.field (ascii "value") (.scalar .uint32T) [] .nil)

/-- `STRUCT_MEM_WRITE_REQ` -/
def structMemWriteReq : Fields :=
  .field (ascii "address") (.scalar .uint32T) []
    (.field (ascii "data") (.scalar .uint8T) [256]
      (.field (ascii "data_len") (.scalar .uint16T) [] .nil))

/-- `mem_read32_req_t` -/
def memRead32Req : Ty := .struct (serdeError 18) structMemRead32Req

/-- `mem_read32_resp_t` -/
def memRead32Resp : Ty := .struct (serdeError 22) structMemRead32Resp

/-- `mem_read_req_t` -/
def memReadReq : Ty := .struct (serdeError 27) structMemReadReq

/-- `mem_read_resp_t` -/
def memReadResp : Ty := .struct (serdeError 32) structMemReadResp

/-- `mem_write32_req_t` -/
def memWrite32Req : Ty := .struct (serdeError 37) structMemWrite32Req

/-- `mem_write_req_t` -/
def memWriteReq : Ty := .struct (serdeError 43) structMemWriteReq

theorem extent_nil : 0 < extent [] := Nat.one_pos

/-- A field that is no array. -/
def single {τ : Type} (array : Fin (extent []) -> τ) : τ := array ⟨0, extent_nil⟩

def MemRead32Req.address (op : memRead32Req.Val) : BitVec 32 := single op.1

def MemReadReq.address (op : memReadReq.Val) : BitVec 32 := single op.1
def MemReadReq.dataLen (op : memReadReq.Val) : BitVec 16 := single op.2.1

def MemWrite32Req.address (op : memWrite32Req.Val) : BitVec 32 := single op.1
def MemWrite32Req.value (op : memWrite32Req.Val) : BitVec 32 := single op.2.1

def MemWriteReq.address (op : memWriteReq.Val) : BitVec 32 := single op.1
def MemWriteReq.data (op : memWriteReq.Val) : Fin 256 -> BitVec 8 := op.2.1
def MemWriteReq.dataLen (op : memWriteReq.Val) : BitVec 16 := single op.2.2.1

def MemRead32Resp.mk (value : BitVec 32) : memRead32Resp.Val := (fun _ => value, ())

def MemReadResp.data (resp : memReadResp.Val) : Fin 256 -> BitVec 8 := resp.1

def MemReadResp.mk (data : Fin 256 -> BitVec 8) (dataLen : BitVec 16) : memReadResp.Val :=
  (data, fun _ => dataLen, ())

/-! ## Copying -/

/-- The bytes that `memcpy` reads. -/
def readBytes (src : Nat) : Nat -> Base.Code Stop (List (BitVec 8))
  | 0 => pure []
  | len + 1 => do
      let byte <- Base.byteAt src
      let bytes <- readBytes (src + 1) len
      pure (byte :: bytes)

/-- The bytes that `memcpy` writes. -/
def writeBytes (dest : Nat) : List (BitVec 8) -> Base.Code Stop Unit
  | [] => pure ()
  | byte :: bytes => do
      Base.setByteAt dest byte
      writeBytes (dest + 1) bytes

/-- `memcpy`, from memory into a local array -/
def memcpyFrom {size : Nat} (dest : Fin size -> BitVec 8) (src len : Nat) :
    Base.Code Stop (Fin size -> BitVec 8) :=
  if src = 0 then pure dest
  else do
    let bytes <- readBytes src len
    pure (fun i => bytes.getD i (dest i))

/-- `memcpy`, from a local array into memory -/
def memcpyTo {size : Nat} (dest : Nat) (src : Fin size -> BitVec 8) (len : Nat) :
    Base.Code Stop Unit :=
  if dest = 0 then pure () else writeBytes dest ((List.ofFn src).take len)

/-! ## Commands -/

/-- A command has a context and the memory. -/
abbrev Command (α : Type) : Type := Routine (Ujson × MainMemory) Stop α

/-- A routine on the memory of a command. -/
def onMemory {α : Type} (m : Base.Code Stop α) : Command α := fun s =>
  let (out, memory) := m s.2
  (out, s.1, memory)

/-- A local object, filled by a request with its CRC. -/
def requested (frame : Frame) (site : Site) (type : Ty) (object : type.Val) :
    Command type.Val :=
  onFirst (onLocal object (ujsonWithCrc frame site (type.deserialize frame.stack)))

/-- `INVALID_ARGUMENT()` in `mem.c` -/
def invalidArgument {α : Type} (line : Nat) : Command α :=
  raise (.status ((memC line).error .kInvalidArgument AbslStatus.kInvalidArgument_ne))

/-- `ujcmd_mem_read32` -/
def ujcmdMemRead32 (frame : Frame) (op : memRead32Req.Val) : Command Unit := do
  let op <- requested frame (memC 16) memRead32Req op
  if (MemRead32Req.address op).toNat % 4 ≠ 0 then invalidArgument 18
  else do
    let value <- onMemory (Base.read32 (MemRead32Req.address op).toNat)
    onFirst (respOk (memRead32Resp.serialize (MemRead32Resp.mk value)))

/-- `ujcmd_mem_read` -/
def ujcmdMemRead (frame : Frame) (op : memReadReq.Val) (resp : memReadResp.Val) :
    Command Unit := do
  let op <- requested frame (memC 27) memReadReq op
  if (MemReadReq.dataLen op).toNat > 256 then invalidArgument 29
  else do
    let data <- onMemory (memcpyFrom (MemReadResp.data resp) (MemReadReq.address op).toNat
      (MemReadReq.dataLen op).toNat)
    onFirst (respOk (memReadResp.serialize (MemReadResp.mk data (MemReadReq.dataLen op))))

/-- `ujcmd_mem_write32` -/
def ujcmdMemWrite32 (frame : Frame) (op : memWrite32Req.Val) : Command Unit := do
  let op <- requested frame (memC 38) memWrite32Req op
  if (MemWrite32Req.address op).toNat % 4 ≠ 0 then invalidArgument 40
  else do
    onMemory (Base.write32 (MemWrite32Req.value op) (MemWrite32Req.address op).toNat)
    onFirst respOkStatus

/-- `ujcmd_mem_write` -/
def ujcmdMemWrite (frame : Frame) (op : memWriteReq.Val) : Command Unit := do
  let op <- requested frame (memC 48) memWriteReq op
  if (MemWriteReq.dataLen op).toNat > 256 then invalidArgument 50
  else do
    onMemory (memcpyTo (MemWriteReq.address op).toNat (MemWriteReq.data op)
      (MemWriteReq.dataLen op).toNat)
    onFirst respOkStatus

/-- The commands that `ujson_ottf_dispatch` knows, and all others. -/
inductive TestCommand where
  | kTestCommandMemRead32
  | kTestCommandMemRead
  | kTestCommandMemWrite32
  | kTestCommandMemWrite
  | other
  deriving DecidableEq

/-- What is on the stack where the local objects of the commands come to lie. -/
structure Locals where
  frame : Frame
  memRead32Req : memRead32Req.Val
  memReadReq : memReadReq.Val
  memReadResp : memReadResp.Val
  memWrite32Req : memWrite32Req.Val
  memWriteReq : memWriteReq.Val

/-- The function for a command. -/
def ujcmd (locals : Locals) : TestCommand -> Option (Command Unit)
  | .kTestCommandMemRead32 => some (ujcmdMemRead32 locals.frame locals.memRead32Req)
  | .kTestCommandMemRead => some (ujcmdMemRead locals.frame locals.memReadReq locals.memReadResp)
  | .kTestCommandMemWrite32 => some (ujcmdMemWrite32 locals.frame locals.memWrite32Req)
  | .kTestCommandMemWrite => some (ujcmdMemWrite locals.frame locals.memWriteReq)
  | .other => none

/-- `RESP_ERR` of an expression, which is a command -/
def respErrOf (expr : Command Unit) : Command Unit := do
  let sts <- attempt expr
  match sts with
  | .ok _ => pure ()
  | .error (.status sts) => onFirst (respErr sts)
  | .error stop => raise stop

/-- The place of `UNIMPLEMENTED()` in `ujson_ottf_commands.c`. -/
def ujsonOttfCommandsC : Site where
  moduleId := 0
  positioned := positioned_zero
  file := ⟨ascii "ujson_ottf_commands.c", by decide⟩
  line := 28

/-- `ujson_ottf_dispatch`, for a context that is there -/
def ujsonOttfDispatch (locals : Locals) (command : TestCommand) : Command Unit :=
  match ujcmd locals command with
  | some expr => respErrOf expr
  | none => raise (.status (ujsonOttfCommandsC.error .kUnimplemented (by decide)))

end MemCommands
end SunburstChip
