import SunburstChip.Testing.MemCommands
import SunburstChip.Ujson.Stores

namespace SunburstChip
namespace MemCommands

open Routine
open Ujson
open UjsonOttf

/-!
# Responses to memory commands

A response is a line with the CRC of the object that it contains.  `RESP_OK`
resets the CRC in front of the object.  `RESP_ERR` does not: the CRC it writes is
also the one of what has been fetched of the request and of the word `RESP_ERR:`.

That makes no difference only if the CRC happens to be back where it started.
-/

/-! ## Lines -/

/-- A response with an object and a CRC. -/
def responseLine (head body : List (BitVec 8)) (crc : BitVec 32) : List (BitVec 8) :=
  head ++ (body ++ (ascii " CRC" ++ (colon :: (unsignedText crc ++ ascii "\n"))))

variable {α : Type} {body : List (BitVec 8)} {uj : Ujson}

/-- What stands in front of the last occurrence of something is determined. -/
theorem last_unique {x : α} {a a' t t' : List α} (last : x ∉ t) (last' : x ∉ t')
    (same : a ++ x :: t = a' ++ x :: t') : a = a' ∧ t = t' := by
  induction a generalizing a' with
  | nil =>
      cases a' with
      | nil => exact ⟨rfl, List.tail_eq_of_cons_eq same⟩
      | cons y a' =>
          have inside : x ∈ t := by
            rw [List.tail_eq_of_cons_eq same]
            exact List.mem_append_right _ List.mem_cons_self
          exact absurd inside last
  | cons y a ih =>
      cases a' with
      | nil =>
          have inside : x ∈ t' := by
            rw [<- List.tail_eq_of_cons_eq same]
            exact List.mem_append_right _ List.mem_cons_self
          exact absurd inside last'
      | cons y' a' =>
          rcases List.cons.inj same with ⟨rfl, rest⟩
          rcases ih rest with ⟨rfl, rfl⟩
          exact ⟨rfl, rfl⟩

theorem colon_notMem (crc : BitVec 32) : colon ∉ unsignedText crc ++ ascii "\n" := by
  intro inside
  rcases List.mem_append.mp inside with digits | newline
  · exact absurd (decimal_isDigit crc.toNat colon digits) (by decide)
  · exact absurd newline (by decide)

theorem decimal_injective {crc crc' : BitVec 32} (same : unsignedText crc = unsignedText crc') :
    crc = crc' := by
  have values := congrArg (List.foldl parseDigit 0) same
  unfold unsignedText at values
  rw [foldl_parseDigit_decimal, foldl_parseDigit_decimal] at values
  apply BitVec.eq_of_toNat_eq
  have numbers := congrArg BitVec.toNat values
  rw [BitVec.toNat_ofNat, BitVec.toNat_ofNat] at numbers
  have small := crc.isLt
  have small' := crc'.isLt
  omega

theorem responseLine_injective {head body' : List (BitVec 8)} {crc crc' : BitVec 32}
    (same : responseLine head body crc = responseLine head body' crc') : body = body' ∧ crc = crc' := by
  have rest := List.append_cancel_left same
  rw [<- List.append_assoc, <- List.append_assoc] at rest
  rcases last_unique (colon_notMem crc) (colon_notMem crc') rest with ⟨bodies, numbers⟩
  exact ⟨List.append_cancel_right bodies, decimal_injective (List.append_cancel_right numbers)⟩

/-- An object that is written as JSON. -/
def Json (body : List (BitVec 8)) : Prop := Exists fun type : Ty => Exists fun value => body = type.text value

/-- At most one response, which has the CRC of its object. -/
def Framed (text : List (BitVec 8)) : Prop :=
  text = [] ∨ Exists fun body => Json body ∧
    (text = responseLine (ascii "RESP_OK:") body (SunburstChip.crc32 body) ∨
      text = responseLine (ascii "RESP_ERR:") body (SunburstChip.crc32 body))

/-- A response to a request that is refused needs the CRC of its object. -/
theorem framed_refused (json : Json body) (crc : BitVec 32) :
    Framed (responseLine (ascii "RESP_ERR:") body crc) ↔ crc = SunburstChip.crc32 body := by
  constructor
  · rintro (none | ⟨body', _, ok | refused⟩)
    · cases none
    · have fifth := congrArg (fun text => text.getD 5 0) ok
      exact absurd fifth (by change ¬ (0x45#8 = 0x4f#8); decide)
    · rcases responseLine_injective refused with ⟨rfl, is⟩
      exact is
  · rintro rfl
    exact Or.inr ⟨body, json, Or.inr rfl⟩

/-! ## Writing a response -/

/-- Behind an object comes the CRC of the context. -/
theorem respCrc_accepting (accepting : Accepting uj) :
    Exists fun pieces : List (List (BitVec 8)) => respCrc uj = (.ok (), wrote uj pieces) ∧
      pieces.flatten = ascii " CRC" ++ (colon :: (unsignedText (crc32Finish uj.crc32) ++ ascii "\n")) := by
  have number : Renders (ujsonSerializeUint32T (crc32Finish uj.crc32)) True
      (unsignedText (crc32Finish uj.crc32)) () := renders_scalar .uint32T (crc32Finish uj.crc32)
  have renders : Renders (ujsonPutbuf (ascii " CRC:") >>= fun _ =>
      ujsonSerializeUint32T (crc32Finish uj.crc32) >>= fun _ => ujsonPutbuf (ascii "\n")) True
      (ascii " CRC:" ++ (unsignedText (crc32Finish uj.crc32) ++ ascii "\n")) () :=
    (renders_putbuf _).before (number.before (renders_putbuf _))
  rcases renders uj accepting with ⟨-, pieces, flat, done⟩ | ⟨fails, -⟩
  · exact ⟨pieces, done, flat⟩
  · exact absurd trivial fails

theorem finish_foldl (text : List (BitVec 8)) :
    crc32Finish (text.foldl crc32Add8 crc32Init) = SunburstChip.crc32 text := by
  rw [SunburstChip.crc32, crc32Add_eq_foldl]

/-- `RESP_OK` resets the CRC in front of the object. -/
theorem respOk_accepting (accepting : Accepting uj) {responder : Uj Unit} {text : List (BitVec 8)}
    (renders : Renders responder True text ()) :
    Exists fun uj' : Ujson => Exists fun pieces : List (List (BitVec 8)) =>
      respOk responder uj = (.ok (), uj') ∧
      uj'.ioContext.traffic = uj.ioContext.traffic ++ pieces.map .put ∧
      pieces.flatten = responseLine (ascii "RESP_OK:") text (SunburstChip.crc32 text) := by
  have head := putbuf_accepting accepting (ascii "RESP_OK:")
  have reset : Accepting (ujsonCrc32Reset (wrote uj [ascii "RESP_OK:"])).2 := accepting
  rcases renders _ reset with ⟨-, pieces, flat, done⟩ | ⟨fails, -⟩
  · rcases respCrc_accepting (reset.wrote pieces) with ⟨pieces', ended, flat'⟩
    refine ⟨wrote (wrote (ujsonCrc32Reset (wrote uj [ascii "RESP_OK:"])).2 pieces) pieces',
      ascii "RESP_OK:" :: (pieces ++ pieces'), ?_, ?_, ?_⟩
    · unfold respOk
      rw [bind_ok head]
      change (responder >>= fun _ => respCrc) (ujsonCrc32Reset (wrote uj [ascii "RESP_OK:"])).2 = _
      rw [bind_ok done]
      exact ended
    · simp [wrote, ujsonCrc32Reset]
    · have crc : (wrote (ujsonCrc32Reset (wrote uj [ascii "RESP_OK:"])).2 pieces).crc32 =
          text.foldl crc32Add8 crc32Init := by
        rw [<- flat]
        rfl
      rw [List.flatten_cons, List.flatten_append, flat, flat', crc, finish_foldl]
      rfl
  · exact absurd trivial fails

/-- The text of an error. -/
abbrev errorText (error : Error) : List (BitVec 8) := statusText error.status

/-- `RESP_ERR` goes on with the CRC of the context. -/
theorem respErr_accepting (accepting : Accepting uj) (error : Error) :
    Exists fun uj' : Ujson => Exists fun pieces : List (List (BitVec 8)) =>
      respErr error uj = (.ok (), uj') ∧
      uj'.ioContext.traffic = uj.ioContext.traffic ++ pieces.map .put ∧
      pieces.flatten = responseLine (ascii "RESP_ERR:") (errorText error)
        (crc32Finish ((errorText error).foldl crc32Add8
          ((ascii "RESP_ERR:").foldl crc32Add8 uj.crc32))) := by
  have head := putbuf_accepting accepting (ascii "RESP_ERR:")
  have writes : Accepting (wrote uj [ascii "RESP_ERR:"]) := accepting
  rcases renders_status error.status _ writes with ⟨-, pieces, flat, done⟩ | ⟨fails, -⟩
  · rcases respCrc_accepting (writes.wrote pieces) with ⟨pieces', ended, flat'⟩
    refine ⟨wrote (wrote (wrote uj [ascii "RESP_ERR:"]) pieces) pieces',
      ascii "RESP_ERR:" :: (pieces ++ pieces'), ?_, ?_, ?_⟩
    · unfold respErr
      rw [bind_ok head, bind_ok done]
      exact ended
    · simp [wrote]
    · have crc : (wrote (wrote uj [ascii "RESP_ERR:"]) pieces).crc32 =
          (errorText error).foldl crc32Add8 ((ascii "RESP_ERR:").foldl crc32Add8 uj.crc32) := by
        rw [errorText, <- flat]
        rfl
      rw [List.flatten_cons, List.flatten_append, flat, flat', crc]
      rfl
  · exact absurd trivial fails

/-! ## Requests -/

/-- Since a context was like this, characters have been fetched, and the CRC is theirs. -/
def Fetched (start uj : Ujson) : Prop :=
  Exists fun request : List (BitVec 8) =>
    uj.ioContext.traffic = start.ioContext.traffic ++ request.map .fetched ∧
    uj.crc32 = request.foldl crc32Add8 crc32Init

theorem map_fetched {traffic : List Traffic} (silent : puts traffic = []) :
    traffic = (fetched traffic).map .fetched := by
  induction traffic with
  | nil => rfl
  | cons entry traffic ih =>
      cases entry with
      | put buf => cases silent
      | fetched ch => exact congrArg (fun rest => Traffic.fetched ch :: rest) (ih silent)

theorem fetched_of_since {start : Ujson} (since : Since start [] uj) : Fetched start uj := by
  rcases since with ⟨traffic, _, log, crc, -, -, silent⟩
  refine ⟨fetched traffic, ?_, ?_⟩
  · rw [log, <- map_fetched silent]
  · rw [crc, bytes_of_silent silent]

/-- Nothing has been put since, and the sink takes everything. -/
def Silent (start uj : Ujson) : Prop := Since start [] uj ∧ Accepting uj

theorem getc_silent (start : Ujson) : Keeps (Silent start) ujsonGetc := by
  rintro uj ⟨since, accepting⟩
  refine ⟨getc_since uj since, ?_⟩
  rcases uj with ⟨⟨incoming, ended, refusals, traffic⟩, buffer, crc⟩
  cases buffer with
  | some ch => exact accepting
  | none =>
      rcases incoming with _ | ⟨error | ch, rest⟩
      · exact accepting
      · exact accepting
      · exact accepting

theorem ungetc_silent (start : Ujson) (ch : BitVec 8) : Keeps (Silent start) (ujsonUngetc ch) := by
  rintro uj ⟨since, accepting⟩
  refine ⟨ungetc_since ch uj since, ?_⟩
  unfold ujsonUngetc
  split
  · exact accepting
  · exact accepting

theorem onLocal_state {τ : Type} (contents : τ) (m : UjOn τ α) (uj : Ujson) :
    (onLocal contents m uj).2 = (m (uj, some contents)).2.1 := by
  unfold onLocal
  rcases m (uj, some contents) with ⟨reason | value, uj', object⟩
  · rfl
  · rfl

/-- A request puts nothing, and resets the CRC before it is parsed. -/
theorem requested_silent (accepting : Accepting uj) (frame : Frame) (site : Site) (type : Ty)
    (object : type.Val) (main : MainMemory) :
    Silent uj (requested frame site type object (uj, main)).2.1 := by
  have getc := getc_silent uj
  have ungetc := ungetc_silent uj
  have check (msgCrc : BitVec 32) : Keeps (Silent uj) (checkCrc frame site msgCrc) := by
    apply keeps_bind (keeps_onLocal _ (keeps_deserialize getc ungetc frame.stack ottfCrc))
    intro crc
    exact keeps_ite (fun _ => keeps_raise _) (fun _ => keeps_pure _)
  have finish : Keeps (Silent uj) ujsonCrc32Finish := fun _ holds => holds
  have reset : Silent uj (ujsonCrc32Reset uj).2 :=
    ⟨⟨[], 0, (List.append_nil _).symm, rfl, rfl, rfl, rfl⟩, accepting⟩
  have resets : (onFirst ujsonCrc32Reset : UjOn type.Val Unit) (uj, some object) =
      (.ok (), (ujsonCrc32Reset uj).2, some object) := rfl
  have parsed {m : UjOn type.Val Unit} (keeps : Keeps (OnUjson (Silent uj)) m) :
      Silent uj (m ((ujsonCrc32Reset uj).2, some object)).2.1 := keeps _ reset
  have state := onLocal_state object (ujsonWithCrc frame site (type.deserialize frame.stack)) uj
  change Silent uj (onLocal object (ujsonWithCrc frame site (type.deserialize frame.stack)) uj).2
  rw [state, ujsonWithCrc, bind_ok resets]
  apply parsed
  apply keeps_bind (keeps_attempt (keeps_deserialize getc ungetc frame.stack type))
  intro err
  apply keeps_bind (keeps_onFirst finish)
  intro msgCrc
  cases err with
  | error stop => exact keeps_raise _
  | ok _ => exact keeps_onFirst (check msgCrc)

/-! ## Commands -/

/-- A request is refused: it cannot be read, or what it asks for is wrong.  These characters have
been fetched for it. -/
def RefusedRequest {type : Ty} (frame : Frame) (site : Site) (object : type.Val)
    (bad : type.Val -> Prop) (s : Ujson × MainMemory) (request : List (BitVec 8)) : Prop :=
  let (out, s') := requested frame site type object s
  s'.1.ioContext.traffic = s.1.ioContext.traffic ++ request.map .fetched ∧
    match out with
    | .ok op => bad op
    | .error stop => Exists fun error => stop = .status error

/-- A request that is read and asks for what it may is not refused. -/
theorem accepted_of_read (type : Ty) (frame : Frame) (site : Site) (object : type.Val)
    {bad : type.Val -> Prop} (s : Ujson × MainMemory) (good : type.Val -> Prop) [DecidablePred good]
    (reads : (requested frame site type object s).1.toOption.any (fun op => decide (good op)) = true)
    (right : forall op, good op -> ¬ bad op) (request : List (BitVec 8)) :
    ¬ RefusedRequest frame site object bad s request := by
  unfold RefusedRequest
  generalize requested frame site type object s = ended at reads ⊢
  rcases ended with ⟨_ | op, s'⟩
  · cases reads
  · exact fun refused => right op (of_decide_eq_true reads) refused.2

/-- How a command has ended: with a response that is right, or without one.  It has an error
for the requests that are refused. -/
def Outcome (start : Ujson) (refuses : List (BitVec 8) -> Prop) : Except Stop Unit -> Ujson -> Prop
  | .ok _, uj => (forall request, ¬ refuses request) ∧
      Exists fun traffic => Exists fun body => Json body ∧
        uj.ioContext.traffic = start.ioContext.traffic ++ traffic ∧
        (puts traffic).flatten = responseLine (ascii "RESP_OK:") body (SunburstChip.crc32 body)
  | .error stop, uj => Silent start uj ∧ forall request, refuses request ↔
      uj.ioContext.traffic = start.ioContext.traffic ++ request.map .fetched ∧
        Exists fun error => stop = .status error

/-- An access to memory succeeds. -/
def Succeeds {α : Type} (access : Base.Code Stop α) : Prop :=
  forall main, Exists fun value => Exists fun main' => access main = (.ok value, main')

theorem Succeeds.bind {β : Type} {access : Base.Code Stop α} {next : α -> Base.Code Stop β}
    (first : Succeeds access) (rest : forall value, Succeeds (next value)) :
    Succeeds (access >>= next) := by
  intro main
  rcases first main with ⟨value, main', done⟩
  rw [bind_ok done]
  exact rest value main'

theorem readBytes_succeeds (src len : Nat) : Succeeds (readBytes src len) := by
  induction len generalizing src with
  | zero => exact fun main => ⟨_, main, rfl⟩
  | succ len ih =>
      have byte : Succeeds (Base.byteAt src : Base.Code Stop _) := fun _ => ⟨_, _, rfl⟩
      exact byte.bind (fun _ => (ih (src + 1)).bind (fun _ main => ⟨_, main, rfl⟩))

theorem writeBytes_succeeds (dest : Nat) (bytes : List (BitVec 8)) :
    Succeeds (writeBytes dest bytes) := by
  induction bytes generalizing dest with
  | nil => exact fun main => ⟨_, main, rfl⟩
  | cons byte bytes ih =>
      have set : Succeeds (Base.setByteAt dest byte : Base.Code Stop Unit) := fun _ => ⟨_, _, rfl⟩
      exact set.bind (fun _ => ih (dest + 1))

theorem memcpyFrom_succeeds {size : Nat} (dest : Fin size -> BitVec 8) (src len : Nat) :
    Succeeds (memcpyFrom dest src len) := by
  unfold memcpyFrom
  split
  · exact fun main => ⟨_, main, rfl⟩
  · exact (readBytes_succeeds src len).bind (fun _ main => ⟨_, main, rfl⟩)

theorem memcpyTo_succeeds {size : Nat} (dest : Nat) (src : Fin size -> BitVec 8) (len : Nat) :
    Succeeds (memcpyTo dest src len) := by
  unfold memcpyTo
  split
  · exact fun main => ⟨_, main, rfl⟩
  · exact writeBytes_succeeds dest _

/-- A command that reads a request, accesses memory and responds. -/
def process {type : Ty} {α : Type} (frame : Frame) (site : Site) (object : type.Val)
    (bad : type.Val -> Prop) [DecidablePred bad] (line : Nat) (access : type.Val -> Base.Code Stop α)
    (responder : type.Val -> α -> Uj Unit) : Command Unit := do
  let op <- requested frame site type object
  if bad op then invalidArgument line
  else do
    let value <- onMemory (access op)
    onFirst (respOk (responder op value))

/-- What has been put with a response. -/
theorem outcome_answered {start uj' : Ujson} (silent : Silent start uj)
    {refuses : List (BitVec 8) -> Prop} (accepted : forall request, ¬ refuses request)
    (json : Json body) {pieces : List (List (BitVec 8))}
    (log : uj'.ioContext.traffic = uj.ioContext.traffic ++ pieces.map .put)
    (flat : pieces.flatten = responseLine (ascii "RESP_OK:") body (SunburstChip.crc32 body)) :
    Outcome start refuses (.ok ()) uj' := by
  rcases silent.1 with ⟨traffic, _, before, -, -, -, nothing⟩
  refine ⟨accepted, traffic ++ pieces.map .put, body, json, ?_, ?_⟩
  · rw [log, before, List.append_assoc]
  · have put := puts_map_put pieces
    unfold puts at nothing put ⊢
    rw [List.flatMap_append, nothing, put]
    exact flat

theorem outcome_process {type : Ty} (frame : Frame) (site : Site) (object : type.Val)
    (bad : type.Val -> Prop) [DecidablePred bad] (line : Nat)
    (access : type.Val -> Base.Code Stop α) (succeeds : forall op, Succeeds (access op))
    (responder : type.Val -> α -> Uj Unit)
    (renders : forall op value, Exists fun body => Json body ∧
      Renders (responder op value) True body ()) (accepting : Accepting uj) (main : MainMemory) :
    Outcome uj (RefusedRequest frame site object bad (uj, main))
      (process frame site object bad line access responder (uj, main)).1
      (process frame site object bad line access responder (uj, main)).2.1 := by
  have silent := requested_silent accepting frame site type object main
  unfold process RefusedRequest
  rw [bind_apply]
  generalize requested frame site type object (uj, main) = ended at silent ⊢
  rcases ended with ⟨stop | op, uj', main'⟩
  · exact ⟨silent, fun _ => Iff.rfl⟩
  · change Outcome uj _ ((if bad op then invalidArgument line else _ : Command Unit) (uj', main')).1
      ((if bad op then invalidArgument line else _ : Command Unit) (uj', main')).2.1
    by_cases isBad : bad op
    · rw [if_pos isBad]
      refine ⟨silent, fun _ => ⟨fun refused => ⟨refused.1, _, rfl⟩, ?_⟩⟩
      exact fun refused => ⟨refused.1, isBad⟩
    · rw [if_neg isBad, bind_apply]
      unfold onMemory
      rcases succeeds op main' with ⟨value, main'', accessed⟩
      rcases renders op value with ⟨body, json, renders⟩
      rcases respOk_accepting silent.2 renders with ⟨uj'', pieces, done, log, flat⟩
      rw [accessed]
      change Outcome uj _ (respOk (responder op value) uj').1 (respOk (responder op value) uj').2
      rw [done]
      exact outcome_answered silent (fun _ refused => isBad refused.2) json log flat

/-- An object without strings can always be written. -/
theorem renders_object (type : Ty) (value : type.Val) (writable : type.Writable value) :
    Exists fun body => Json body ∧ Renders (type.serialize value) True body () :=
  ⟨type.text value, ⟨type, value, rfl⟩,
    (renders_type type value).congr (iff_of_true writable trivial) (fun _ => rfl)⟩

theorem renders_okStatus :
    Exists fun body => Json body ∧ Renders (ujsonSerializeStatusT ⟨0⟩) True body () :=
  renders_object (.scalar .statusT) ⟨0⟩ trivial

/-- A command refuses a request: it cannot be read, its CRC is wrong, or so are its arguments. -/
def Refuses (locals : Locals) : TestCommand -> Ujson × MainMemory -> List (BitVec 8) -> Prop
  | .kTestCommandMemRead32 => RefusedRequest locals.frame (memC 16) locals.memRead32Req
      (fun op => (MemRead32Req.address op).toNat % 4 ≠ 0)
  | .kTestCommandMemRead => RefusedRequest locals.frame (memC 27) locals.memReadReq
      (fun op => (MemReadReq.dataLen op).toNat > 256)
  | .kTestCommandMemWrite32 => RefusedRequest locals.frame (memC 38) locals.memWrite32Req
      (fun op => (MemWrite32Req.address op).toNat % 4 ≠ 0)
  | .kTestCommandMemWrite => RefusedRequest locals.frame (memC 48) locals.memWriteReq
      (fun op => (MemWriteReq.dataLen op).toNat > 256)
  | .other => fun _ _ => False

/-- Every command puts a right response or none. -/
theorem outcome_ujcmd (locals : Locals) (command : TestCommand) {expr : Command Unit}
    (known : ujcmd locals command = some expr) (accepting : Accepting uj) (main : MainMemory) :
    Outcome uj (Refuses locals command (uj, main)) (expr (uj, main)).1 (expr (uj, main)).2.1 := by
  cases command with
  | other => cases known
  | kTestCommandMemRead32 =>
      cases known
      exact outcome_process locals.frame (memC 16) locals.memRead32Req
        (fun op => (MemRead32Req.address op).toNat % 4 ≠ 0) 18
        (fun op => Base.read32 (MemRead32Req.address op).toNat) (fun _ _ => ⟨_, _, rfl⟩)
        (fun _ value => memRead32Resp.serialize (MemRead32Resp.mk value))
        (fun _ value => renders_object memRead32Resp _ ⟨fun _ => trivial, trivial⟩) accepting main
  | kTestCommandMemRead =>
      cases known
      exact outcome_process locals.frame (memC 27) locals.memReadReq
        (fun op => (MemReadReq.dataLen op).toNat > 256) 29
        (fun op => memcpyFrom (MemReadResp.data locals.memReadResp) (MemReadReq.address op).toNat
          (MemReadReq.dataLen op).toNat) (fun _ => memcpyFrom_succeeds _ _ _)
        (fun op data => memReadResp.serialize (MemReadResp.mk data (MemReadReq.dataLen op)))
        (fun _ _ => renders_object memReadResp _ ⟨fun _ => trivial, fun _ => trivial, trivial⟩)
        accepting main
  | kTestCommandMemWrite32 =>
      cases known
      exact outcome_process locals.frame (memC 38) locals.memWrite32Req
        (fun op => (MemWrite32Req.address op).toNat % 4 ≠ 0) 40
        (fun op => Base.write32 (MemWrite32Req.value op) (MemWrite32Req.address op).toNat)
        (fun _ _ => ⟨_, _, rfl⟩)
        (fun _ _ => ujsonSerializeStatusT ⟨0⟩) (fun _ _ => renders_okStatus) accepting main
  | kTestCommandMemWrite =>
      cases known
      exact outcome_process locals.frame (memC 48) locals.memWriteReq
        (fun op => (MemWriteReq.dataLen op).toNat > 256) 50
        (fun op => memcpyTo (MemWriteReq.address op).toNat (MemWriteReq.data op)
          (MemWriteReq.dataLen op).toNat) (fun _ => memcpyTo_succeeds _ _ _)
        (fun _ _ => ujsonSerializeStatusT ⟨0⟩) (fun _ _ => renders_okStatus) accepting main

/-! ## Dispatching -/

/-- What is put for a command is at most one response, with the CRC of its object. -/
def FramedResponse (locals : Locals) (command : TestCommand) (uj : Ujson) (main : MainMemory) :
    Prop :=
  Exists fun traffic : List Traffic =>
    (ujsonOttfDispatch locals command (uj, main)).2.1.ioContext.traffic =
      uj.ioContext.traffic ++ traffic ∧ Framed (puts traffic).flatten

/-- The CRC has come back to where it starts. -/
def Returned (request : List (BitVec 8)) : Prop :=
  (request ++ ascii "RESP_ERR:").foldl crc32Add8 crc32Init = crc32Init

theorem puts_fetched (request : List (BitVec 8)) : puts (request.map .fetched) = [] := by
  induction request with
  | nil => rfl
  | cons ch request ih => exact ih

/-- The CRC of a response to an error is right if the CRC was back where it starts. -/
theorem framed_err (request : List (BitVec 8)) (error : Error) :
    Framed (responseLine (ascii "RESP_ERR:") (errorText error)
      (crc32Finish ((errorText error).foldl crc32Add8
        ((ascii "RESP_ERR:").foldl crc32Add8 (request.foldl crc32Add8 crc32Init))))) ↔
      Returned request := by
  have json : Json (errorText error) := ⟨.scalar .statusT, error.status, rfl⟩
  have joined : (ascii "RESP_ERR:").foldl crc32Add8 (request.foldl crc32Add8 crc32Init) =
      (request ++ ascii "RESP_ERR:").foldl crc32Add8 crc32Init := List.foldl_append.symm
  rw [framed_refused json, <- finish_foldl, joined]
  unfold Returned
  constructor
  · intro same
    exact foldl_crc32Add8_injective _ (crc32Finish_injective same)
  · intro same
    rw [same]

theorem fetched_injective {request request' : List (BitVec 8)}
    (same : request.map Traffic.fetched = request'.map Traffic.fetched) : request = request' :=
  (List.map_inj_right (fun _ _ same => Traffic.fetched.inj same)).mp same

/-- The response to a command that has failed. -/
theorem failed_framed {locals : Locals} {command : TestCommand} {expr : Command Unit}
    (known : ujcmd locals command = some expr) (accepting : Accepting uj) {main : MainMemory}
    {error : Error} {s' : Ujson × MainMemory}
    (failed : expr (uj, main) = (.error (.status error), s')) {request : List (BitVec 8)}
    (log : s'.1.ioContext.traffic = uj.ioContext.traffic ++ request.map .fetched) :
    FramedResponse locals command uj main ↔ Returned request := by
  have outcome := outcome_ujcmd locals command known accepting main
  rw [failed] at outcome
  have silent := outcome.1
  rcases s' with ⟨uj', main'⟩
  rcases fetched_of_since silent.1 with ⟨request', log', crc⟩
  have same : request = request' :=
    fetched_injective (List.append_cancel_left (log.symm.trans log'))
  rcases respErr_accepting silent.2 error with ⟨uj'', pieces, done, after, flat⟩
  have after' : uj''.ioContext.traffic =
      uj.ioContext.traffic ++ (request'.map .fetched ++ pieces.map .put) := by
    rw [after, log', List.append_assoc]
  have put : (puts (request'.map .fetched ++ pieces.map .put)).flatten = pieces.flatten := by
    have nothing := puts_fetched request'
    have all := puts_map_put pieces
    unfold puts at nothing all ⊢
    rw [List.flatMap_append, nothing, all]
    rfl
  have ended : ujsonOttfDispatch locals command (uj, main) = (.ok (), uj'', main') := by
    unfold ujsonOttfDispatch respErrOf
    rw [known]
    dsimp only
    rw [attempt_bind_apply, failed]
    change onFirst (respErr error) (uj', main') = _
    rw [onFirst_apply, done]
  rw [same, <- framed_err request' error, <- crc, <- flat, <- put]
  unfold FramedResponse
  rw [ended, after']
  constructor
  · rintro ⟨traffic, is, framed⟩
    rw [List.append_cancel_left is]
    exact framed
  · exact fun framed => ⟨_, rfl, framed⟩

/-- Every request is answered with the right CRC, or not at all, if no request is
refused, but for those with which the CRC comes back to where it starts. -/
theorem framedResponse_iff (locals : Locals) (command : TestCommand) {uj : Ujson}
    (accepting : Accepting uj) (main : MainMemory) :
    FramedResponse locals command uj main ↔
      forall request, Refuses locals command (uj, main) request -> Returned request := by
  cases known : ujcmd locals command with
  | none =>
      have other : command = .other := by
        cases command with
        | other => rfl
        | _ => cases known
      subst other
      refine iff_of_true ⟨[], ?_, Or.inl rfl⟩ (fun _ refuses => False.elim refuses)
      exact (List.append_nil _).symm
  | some expr =>
      have outcome := outcome_ujcmd locals command known accepting main
      cases ended : expr (uj, main) with
      | mk out s' =>
          rw [ended] at outcome
          have dispatched : ujsonOttfDispatch locals command = respErrOf expr := by
            unfold ujsonOttfDispatch
            rw [known]
          cases out with
          | error stop =>
              rcases outcome with ⟨since, refuses⟩
              rcases fetched_of_since since.1 with ⟨request, log, _⟩
              -- Only an error is answered.
              have silent (other : forall error, stop ≠ .status error) :
                  FramedResponse locals command uj main := by
                refine ⟨request.map .fetched, ?_, Or.inl ?_⟩
                · rw [dispatched, respErrOf, attempt_bind_apply, ended]
                  cases stop with
                  | status error => exact absurd rfl (other error)
                  | outOfRange | endless => exact log
                · rw [puts_fetched]
                  rfl
              by_cases isError : Exists fun error => stop = .status error
              · rcases isError with ⟨error, rfl⟩
                constructor
                · intro framed request refused
                  have log := ((refuses request).mp refused).1
                  exact (failed_framed known accepting ended log).mp framed
                · intro returned
                  exact (failed_framed known accepting ended log).mpr
                    (returned request ((refuses request).mpr ⟨log, error, rfl⟩))
              · exact iff_of_true (silent (fun error is => isError ⟨error, is⟩))
                  (fun request refused => absurd ((refuses request).mp refused).2 isError)
          | ok _ =>
              rcases outcome with ⟨accepted, traffic, body, json, log, flat⟩
              refine iff_of_true ⟨traffic, ?_, Or.inr ⟨body, json, Or.inl flat⟩⟩
                (fun request refused => absurd refused (accepted request))
              rw [dispatched, respErrOf, attempt_bind_apply, ended]
              exact log

/-- Local objects on an empty stack. -/
def emptyLocals : Locals where
  frame := emptyFrame
  memRead32Req := memRead32Req.zero
  memReadReq := memReadReq.zero
  memReadResp := memReadResp.zero
  memWrite32Req := memWrite32Req.zero
  memWriteReq := memWriteReq.zero

/-- An empty memory. -/
def emptyMemory : MainMemory := ⟨fun _ => 0, []⟩

/-- A request for the word at address 256, with its CRC. -/
def wordRequest : List (BitVec 8) :=
  ascii "\x7b\"address\":256\x7d\x7b\"crc\":1585787106\x7d"

/-- The request is read and not refused, so the response has the CRC of the word. -/
theorem framedResponse_word :
    FramedResponse emptyLocals .kTestCommandMemRead32 (delivering wordRequest) emptyMemory := by
  have accepting : Accepting (delivering wordRequest) := Eq.refl ([] : List (Option Error))
  refine (framedResponse_iff emptyLocals .kTestCommandMemRead32 accepting emptyMemory).mpr ?_
  have reads : (requested emptyFrame (memC 16) memRead32Req memRead32Req.zero
      (delivering wordRequest, emptyMemory)).1.toOption.any
        (fun op => decide ((MemRead32Req.address op).toNat = 256)) = true := by
    decide +kernel
  intro request refused
  unfold Refuses at refused
  exact absurd refused (accepted_of_read memRead32Req emptyFrame (memC 16) memRead32Req.zero
    (delivering wordRequest, emptyMemory) (fun op => (MemRead32Req.address op).toNat = 256) reads
    (fun op is misaligned => misaligned (by rw [is])) request)

/-- The character that is no brace is in the CRC of the response. -/
theorem framedResponse_apart :
    ¬ FramedResponse emptyLocals .kTestCommandMemRead32 (delivering (ascii "x")) emptyMemory := by
  have stopped : (ujcmdMemRead32 emptyFrame memRead32Req.zero
      (delivering (ascii "x"), emptyMemory)).1 =
      .error (.status (createError .kNotFound 0#32 ujsonC 95 (by decide) positioned_zero)) := by
    decide +kernel
  have log : (ujcmdMemRead32 emptyFrame memRead32Req.zero
      (delivering (ascii "x"), emptyMemory)).2.1.ioContext.traffic =
      [] ++ (ascii "x").map .fetched := by
    decide +kernel
  have apart : ¬ Returned (ascii "x") := by
    unfold Returned
    decide +kernel
  have accepting : Accepting (delivering (ascii "x")) := Eq.refl []
  have framed := failed_framed (Eq.refl (ujcmd emptyLocals .kTestCommandMemRead32)) accepting
    (Prod.ext stopped rfl) log
  exact fun right => apart (framed.mp right)

end MemCommands
end SunburstChip
