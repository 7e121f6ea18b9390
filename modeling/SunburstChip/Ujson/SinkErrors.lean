import SunburstChip.Ujson.RunningCrc
import Mathlib.Data.Nat.Find

namespace SunburstChip
namespace Ujson

open Routine

/-!
# Serialisers and sinks that fail

A sink may refuse a write.  What a serialiser writes, up to the first write that
is refused, does not depend on the sink, so it is planned here in advance: a list
of writes, which say whether they belong to a `status_t`, and whether an object
turns out not to be writable behind them.

A write that is refused ends the plan, but for those of a `status_t`.  They go
through a sink of `base_fprintf`, which is not told of an error, and
`ujson_serialize_status_t` returns OK whatever has become of them.
-/

/-! ## Plans -/

/-- A piece of text to be written. -/
structure Write where
  /-- It is written by `ujson_serialize_status_t`. -/
  ofStatus : Bool
  text : List (BitVec 8)

/-- Writes, and whether an array is left or a string has no end behind them. -/
structure Plan where
  writes : List Write
  outOfRange : Bool

namespace Plan

/-- One write. -/
def put (text : List (BitVec 8)) : Plan := ⟨[⟨false, text⟩], false⟩

/-- No writes. -/
def nothing : Plan := ⟨[], false⟩

/-- An object that cannot be written. -/
def unwritable : Plan := ⟨[], true⟩

/-- A plan and another one behind it. -/
def andThen (first second : Plan) : Plan :=
  if first.outOfRange then first else ⟨first.writes ++ second.writes, second.outOfRange⟩

/-- Writing one piece. -/
def runWrite (write : Write) : Uj Unit :=
  if write.ofStatus then attempt (ujsonPutbuf write.text) >>= fun _ => pure ()
  else ujsonPutbuf write.text

/-- Writing one piece after the other. -/
def runWrites : List Write -> Uj Unit
  | [] => pure ()
  | write :: writes => runWrite write >>= fun _ => runWrites writes

/-- What a plan does. -/
def run (plan : Plan) : Uj Unit :=
  runWrites plan.writes >>= fun _ => if plan.outOfRange then raise .outOfRange else pure ()

theorem runWrites_append (writes writes' : List Write) :
    runWrites (writes ++ writes') = (runWrites writes >>= fun _ => runWrites writes') := by
  induction writes with
  | nil => rfl
  | cons write writes ih =>
      rw [List.cons_append, runWrites, ih, runWrites, Routine.bind_assoc]

theorem run_nothing : nothing.run = pure () := rfl

theorem run_unwritable : unwritable.run = raise .outOfRange := rfl

theorem bind_unit (m : Uj Unit) : (m >>= fun _ => pure ()) = m := by
  funext uj
  rw [bind_apply]
  rcases m uj with ⟨reason | value, uj'⟩
  · rfl
  · rfl

theorem run_put (text : List (BitVec 8)) : (put text).run = ujsonPutbuf text := by
  change ((ujsonPutbuf text >>= fun _ => pure ()) >>= fun _ => pure ()) = _
  rw [bind_unit, bind_unit]

theorem run_andThen (first second : Plan) :
    (first.andThen second).run = (first.run >>= fun _ => second.run) := by
  rcases first with ⟨writes, outOfRange⟩
  cases outOfRange with
  | true =>
      change (runWrites writes >>= fun _ => raise .outOfRange) =
        ((runWrites writes >>= fun _ => raise .outOfRange) >>= fun _ => second.run)
      rw [Routine.bind_assoc]
      rfl
  | false =>
      change (runWrites (writes ++ second.writes) >>= fun _ => _) =
        ((runWrites writes >>= fun _ => pure ()) >>= fun _ => second.run)
      rw [runWrites_append, Routine.bind_assoc, Routine.bind_assoc]
      rfl

end Plan

/-! ## What the serialisers write -/

/-- The loop of `ujson_serialize_string`. -/
def charsPlan : List (BitVec 8) -> Plan
  | [] => .nothing
  | ch :: chars => (Plan.put (escape ch)).andThen (charsPlan chars)

/-- `ujson_serialize_string` -/
def stringPlan (chars : List (BitVec 8)) : Plan :=
  (Plan.put [quote]).andThen ((charsPlan chars).andThen (.put [quote]))

/-- `ujson_serialize_integer64` and `ujson_serialize_integer32` -/
def integerPlan {width : Nat} (divide : BitVec width -> BitVec width × BitVec width)
    (value : BitVec width) (neg : Bool) : Plan :=
  match writeDecimal divide 23 (if neg then ~~~value + 1 else value) [] with
  | none => .unwritable
  | some text =>
      if neg then
        if text.length < 23 then .put (minus :: text) else .unwritable
      else .put text

/-- `ujson_serialize_integer64` -/
def integer64Plan (value : BitVec 64) (neg : Bool) : Plan :=
  integerPlan (fun value => udiv64Slow value 10) value neg

/-- `ujson_serialize_integer32` -/
def integer32Plan (value : BitVec 32) (neg : Bool) : Plan :=
  integerPlan (fun value => (value / 10, value % 10)) value neg

/-- `ujson_serialize_status_t` -/
def statusPlan (value : Status) : Plan :=
  match Print.writeStatus value true with
  | some pieces => ⟨pieces.map (Write.mk true), false⟩
  | none => .unwritable

/-- The serialisers of the types that need no description. -/
def Scalar.plan : (type : Scalar) -> type.Val -> Plan
  | uint64T, value => integer64Plan value false
  | uint32T, value => integer32Plan value false
  | uint16T, value => integer32Plan (value.setWidth 32) false
  | uint8T, value => integer32Plan (value.setWidth 32) false
  | sizeT, value => integer32Plan value false
  | int64T, value => integer64Plan value value.msb
  | int32T, value => integer32Plan value value.msb
  | int16T, value => integer32Plan (value.signExtend 32) value.msb
  | int8T, value => integer32Plan (value.signExtend 32) value.msb
  | bool, value => .put (if value then ascii "true" else ascii "false")
  | statusT, value => statusPlan value

/-- `UJSON_IMPL_SERIALIZE_ENUM` -/
def EnumDecl.plan (decl : EnumDecl) (value : BitVec 32) : Plan :=
  match decl.constants.find? (fun constant => constant.2 = value) with
  | some constant => stringPlan constant.1
  | none =>
      if decl.withUnknown then integer32Plan value false
      else
        (Plan.put ([openBrace, quote] ++ rustEnumIntvalueStr ++ [quote, colon])).andThen
          ((integer32Plan value false).andThen (.put [closeBrace]))

/-- The loop of `ujson_ser_loop`, over items of `extent` elements. -/
def roundsPlan (item : Nat -> Plan) (extent : Nat) : (left x p : Nat) -> Plan
  | 0, _, _ => .nothing
  | left + 1, x, p =>
      (if x ≠ 0 then Plan.put [comma] else .nothing).andThen
        ((item p).andThen (roundsPlan item extent left (x + 1) (p + extent)))

/-- `ujson_ser_loop` -/
def loopPlan (expr : Nat -> Plan) : List Nat -> Nat -> Plan
  | [], p => expr p
  | count :: dims, p =>
      (Plan.put [openBracket]).andThen
        ((roundsPlan (loopPlan expr dims) (extent dims) count 0 p).andThen (.put [closeBracket]))

/-- An element of an array. -/
def elementPlan {size : Nat} {τ : Type} (array : Fin size -> τ) (item : τ -> Plan) (p : Nat) : Plan :=
  if inside : p < size then item (array ⟨p, inside⟩) else .unwritable

/-- `ujson_ser_field` and `ujson_ser_string` -/
def fieldPlan (name : List (BitVec 8)) (dims : List Nat) (nfield : Nat) (expr : Nat -> Plan) :
    Plan :=
  (stringPlan name).andThen ((Plan.put [colon]).andThen ((loopPlan expr dims 0).andThen
    (if nfield - 1 ≠ 0 then .put [comma] else .nothing)))

/-- A string in an array. -/
def arrayStringPlan {size : Nat} (array : Fin size -> BitVec 8) : Plan :=
  match cString array with
  | some string => stringPlan string
  | none => .unwritable

mutual

/-- What the serialiser of a type writes. -/
def Ty.plan : (type : Ty) -> type.Val -> Plan
  | .scalar type, value => type.plan value
  | .enum decl, value => decl.plan value
  | .struct _ fields, value =>
      (Plan.put [openBrace]).andThen ((fields.plan fields.count value).andThen (.put [closeBrace]))

/-- What is written for the fields of a struct. -/
def Fields.plan : (fields : Fields) -> (nfield : Nat) -> fields.Val -> Plan
  | .nil, _, _ => .nothing
  | .field name type dims rest, nfield, value =>
      (fieldPlan name dims nfield (elementPlan value.1 type.plan)).andThen
        (rest.plan (nfield - 1) value.2)
  | .string name _ dims rest, nfield, value =>
      (fieldPlan name dims nfield (elementPlan value.1 arrayStringPlan)).andThen
        (rest.plan (nfield - 1) value.2)

end

/-! ## Serialisers follow their plans -/

theorem run_charsPlan (chars : List (BitVec 8)) : (charsPlan chars).run = serializeChars chars := by
  induction chars with
  | nil => rfl
  | cons ch chars ih => rw [charsPlan, Plan.run_andThen, Plan.run_put, ih, serializeChars]

theorem run_stringPlan (chars : List (BitVec 8)) :
    (stringPlan chars).run = ujsonSerializeString chars := by
  unfold stringPlan ujsonSerializeString
  rw [Plan.run_andThen, Plan.run_andThen, Plan.run_put, run_charsPlan]

theorem run_integerPlan {width : Nat} (divide : BitVec width -> BitVec width × BitVec width)
    (value : BitVec width) (neg : Bool) :
    (integerPlan divide value neg).run = serializeInteger divide value neg := by
  unfold integerPlan serializeInteger
  cases writeDecimal divide 23 (if neg then ~~~value + 1 else value) [] with
  | none => rfl
  | some text =>
      cases neg with
      | false => exact Plan.run_put _
      | true =>
          by_cases short : text.length < 23
          · simp only [if_true, if_pos short]
            exact Plan.run_put _
          · simp only [if_true, if_neg short]
            exact Plan.run_unwritable

theorem run_integer32Plan (value : BitVec 32) (neg : Bool) :
    (integer32Plan value neg).run = ujsonSerializeInteger32 value neg := run_integerPlan _ value neg

theorem run_integer64Plan (value : BitVec 64) (neg : Bool) :
    (integer64Plan value neg).run = ujsonSerializeInteger64 value neg := run_integerPlan _ value neg

theorem runWrites_ofStatus (pieces : List (List (BitVec 8))) :
    Plan.runWrites (pieces.map (Write.mk true)) = putPieces pieces := by
  induction pieces with
  | nil => rfl
  | cons piece pieces ih =>
      rw [List.map_cons, Plan.runWrites, ih]
      change ((attempt (ujsonPutbuf piece) >>= fun _ => pure ()) >>= fun _ => putPieces pieces) = _
      rw [Routine.bind_assoc]
      rfl

theorem run_statusPlan (value : Status) : (statusPlan value).run = ujsonSerializeStatusT value := by
  unfold statusPlan ujsonSerializeStatusT
  cases Print.writeStatus value true with
  | none => rfl
  | some pieces => exact (Plan.bind_unit _).trans (runWrites_ofStatus pieces)

theorem Scalar.run_plan (type : Scalar) (value : type.Val) :
    (type.plan value).run = type.serialize value := by
  cases type with
  | uint64T | int64T => exact run_integer64Plan _ _
  | uint32T | uint16T | uint8T | sizeT | int32T | int16T | int8T => exact run_integer32Plan _ _
  | bool =>
      cases value with
      | false => exact Plan.run_put _
      | true => exact Plan.run_put _
  | statusT => exact run_statusPlan value

theorem EnumDecl.run_plan (decl : EnumDecl) (value : BitVec 32) :
    (decl.plan value).run = decl.serialize value := by
  unfold EnumDecl.plan EnumDecl.serialize
  cases decl.constants.find? (fun constant => constant.2 = value) with
  | some constant => exact run_stringPlan constant.1
  | none =>
      cases decl.withUnknown with
      | true => exact run_integer32Plan value false
      | false =>
          change ((Plan.put _).andThen (Plan.andThen _ (Plan.put _))).run = _
          rw [Plan.run_andThen, Plan.run_andThen, Plan.run_put, Plan.run_put, run_integer32Plan]
          rfl

theorem run_roundsPlan {item : Nat -> Plan} {extent : Nat} {write : Nat -> Uj Nat}
    (items : forall p, write p = ((item p).run >>= fun _ => pure (p + extent)))
    (left x p : Nat) :
    serRounds write left x p =
      ((roundsPlan item extent left x p).run >>= fun _ => pure (p + left * extent)) := by
  induction left generalizing x p with
  | zero =>
      rw [Nat.zero_mul]
      rfl
  | succ left ih =>
      have position : p + extent + left * extent = p + (left + 1) * extent := by
        rw [Nat.succ_mul]
        omega
      have behind : (write p >>= fun next => serRounds write left (x + 1) next) =
          (((item p).andThen (roundsPlan item extent left (x + 1) (p + extent))).run >>=
            fun _ => pure (p + (left + 1) * extent)) := by
        rw [items, Plan.run_andThen, Routine.bind_assoc, Routine.bind_assoc]
        apply congrArg
        funext _
        rw [Routine.pure_bind, ih, position]
      rw [serRounds, roundsPlan]
      by_cases first : x ≠ 0
      · rw [if_pos first, if_pos first, behind, Plan.run_andThen (Plan.put [comma]), Plan.run_put,
          Routine.bind_assoc]
      · rw [if_neg first, if_neg first, behind, Plan.run_andThen .nothing, Plan.run_nothing,
          Routine.pure_bind]

theorem run_loopPlan {expr : Nat -> Plan} {write : Nat -> Uj Unit}
    (elements : forall p, write p = (expr p).run) (dims : List Nat) (p : Nat) :
    serLoop write dims p = ((loopPlan expr dims p).run >>= fun _ => pure (p + extent dims)) := by
  induction dims generalizing p with
  | nil =>
      rw [serLoop, elements]
      rfl
  | cons count dims ih =>
      rw [serLoop, loopPlan, Plan.run_andThen, Plan.run_andThen, Plan.run_put, Plan.run_put,
        run_roundsPlan ih, Routine.bind_assoc, Routine.bind_assoc, Routine.bind_assoc]
      rfl

theorem run_elementPlan {size : Nat} {τ : Type} {array : Fin size -> τ} {item : τ -> Plan}
    {serialize : τ -> Uj Unit} (items : forall value, (item value).run = serialize value) (p : Nat) :
    serElement array serialize p = (elementPlan array item p).run := by
  unfold serElement elementPlan
  by_cases inside : p < size
  · rw [dif_pos inside, dif_pos inside, items]
  · rw [dif_neg inside, dif_neg inside, Plan.run_unwritable]

theorem run_fieldPlan (name : List (BitVec 8)) (dims : List Nat) (nfield : Nat) {expr : Nat -> Plan}
    {write : Nat -> Uj Unit} (elements : forall p, write p = (expr p).run) :
    (fieldPlan name dims nfield expr).run = serField name dims nfield write := by
  have separator : (if nfield - 1 ≠ 0 then Plan.put [comma] else .nothing).run =
      (if nfield - 1 ≠ 0 then ujsonPutbuf [comma] else pure ()) := by
    split
    · exact Plan.run_put _
    · rfl
  unfold fieldPlan serField
  rw [Plan.run_andThen, Plan.run_andThen, Plan.run_andThen, Plan.run_put, run_stringPlan,
    run_loopPlan elements, separator, Routine.bind_assoc]
  rfl

theorem run_arrayStringPlan {size : Nat} (array : Fin size -> BitVec 8) :
    (arrayStringPlan array).run = serString array := by
  unfold arrayStringPlan serString stringIn
  cases cString array with
  | none => rfl
  | some string => exact run_stringPlan string

mutual

/-- Serialising a value is carrying out its plan. -/
theorem Ty.run_plan : (type : Ty) -> (value : type.Val) ->
    (type.plan value).run = type.serialize value
  | .scalar type, value => type.run_plan value
  | .enum decl, value => decl.run_plan value
  | .struct error fields, value => by
      rw [Ty.plan, Ty.serialize, Plan.run_andThen, Plan.run_andThen, Plan.run_put, Plan.run_put]
      exact congrArg (fun inner => ujsonPutbuf [openBrace] >>= fun _ => inner >>= fun _ =>
        ujsonPutbuf [closeBrace]) (fields.run_plan fields.count value)

theorem Fields.run_plan : (fields : Fields) -> (nfield : Nat) -> (value : fields.Val) ->
    (fields.plan nfield value).run = fields.serialize nfield value
  | .nil, _, _ => rfl
  | .field name type dims rest, nfield, value => by
      rw [Fields.plan, Fields.serialize, Plan.run_andThen, rest.run_plan,
        run_fieldPlan name dims nfield (run_elementPlan type.run_plan)]
  | .string name size dims rest, nfield, value => by
      rw [Fields.plan, Fields.serialize, Plan.run_andThen, rest.run_plan,
        run_fieldPlan name dims nfield (run_elementPlan run_arrayStringPlan)]

end

/-! ## Refused writes -/

/-- How many pieces of text the sink has been given. -/
def sinkCount (uj : Ujson) : Nat := (puts uj.ioContext.traffic).length

/-- How many pieces of text a routine gives to the sink. -/
def issued (m : Uj Unit) (uj : Ujson) : Nat := sinkCount (m uj).2 - sinkCount uj

/-- The sink refuses one of the writes to come. -/
def Refuses (uj : Ujson) (i : Nat) : Prop :=
  Exists fun error => uj.ioContext.refusals[i]? = some (some error)

/-- A routine ends with an error exactly when one of its writes has been
refused, and this is its last write. -/
def PropagatesErrors (m : Uj Unit) (uj : Ujson) : Prop :=
  ((Exists fun error => (m uj).1 = .error (.status error)) ↔
      Exists fun i => i < issued m uj ∧ Refuses uj i) ∧
    forall i, i < issued m uj -> Refuses uj i -> issued m uj = i + 1

/-- The first write to be refused belongs to a status. -/
def RefusedInStatus (writes : List Write) (uj : Ujson) : Prop :=
  Exists fun i => Exists fun write =>
    writes[i]? = some write ∧ write.ofStatus = true ∧ Refuses uj i ∧
      forall j, j < i -> ¬Refuses uj j

/-- A write has been issued. -/
structure Issued (uj uj' : Ujson) : Prop where
  refusals : uj'.ioContext.refusals = uj.ioContext.refusals.drop 1
  count : sinkCount uj' = sinkCount uj + 1

theorem putbuf_issued (buf : List (BitVec 8)) (uj : Ujson) :
    Issued uj (ujsonPutbuf buf uj).2 := by
  have one : (puts (uj.ioContext.traffic ++ [.put buf])).length =
      (puts uj.ioContext.traffic).length + 1 := by
    rw [puts, List.flatMap_append, List.length_append]
    rfl
  unfold ujsonPutbuf Channel.putbuf
  dsimp only
  cases refusals : uj.ioContext.refusals with
  | nil => exact ⟨(congrArg (List.drop 1) refusals).symm, one⟩
  | cons refusal rest =>
      cases refusal with
      | none => exact ⟨(congrArg (List.drop 1) refusals).symm, one⟩
      | some error => exact ⟨(congrArg (List.drop 1) refusals).symm, one⟩

variable {uj : Ujson} {write : Write}

theorem putbuf_accepted (accepts : ¬Refuses uj 0) (buf : List (BitVec 8)) :
    (ujsonPutbuf buf uj).1 = .ok () := by
  unfold ujsonPutbuf Channel.putbuf
  dsimp only
  cases refusals : uj.ioContext.refusals with
  | nil => rfl
  | cons refusal rest =>
      cases refusal with
      | none => rfl
      | some error =>
          refine absurd ⟨error, ?_⟩ accepts
          rw [refusals]
          rfl

theorem putbuf_refused (refuses : Refuses uj 0) (buf : List (BitVec 8)) :
    Exists fun error => (ujsonPutbuf buf uj).1 = .error (.status error) := by
  rcases refuses with ⟨error, refused⟩
  unfold ujsonPutbuf Channel.putbuf
  dsimp only
  cases refusals : uj.ioContext.refusals with
  | nil =>
      rw [refusals] at refused
      cases refused
  | cons refusal rest =>
      rw [refusals] at refused
      cases refused
      exact ⟨error, rfl⟩

namespace Plan

theorem runWrite_issued (write : Write) (uj : Ujson) : Issued uj (runWrite write uj).2 := by
  rcases write with ⟨ofStatus, text⟩
  cases ofStatus with
  | false => exact putbuf_issued text uj
  | true => exact putbuf_issued text uj

variable {uj : Ujson} {write : Write} {writes : List Write} {outOfRange : Bool}

theorem runWrite_ok (passes : ¬Refuses uj 0 ∨ write.ofStatus = true) :
    (runWrite write uj).1 = .ok () := by
  rcases write with ⟨ofStatus, text⟩
  cases ofStatus with
  | true => rfl
  | false =>
      rcases passes with accepts | status
      · exact putbuf_accepted accepts text
      · cases status

theorem runWrite_refused (strict : write.ofStatus = false) (refuses : Refuses uj 0) :
    Exists fun error => (runWrite write uj).1 = .error (.status error) := by
  rcases write with ⟨ofStatus, text⟩
  cases strict
  exact putbuf_refused refuses text

/-- After a write that has not ended the plan, the rest of it is carried out. -/
theorem run_cons_ok (done : (runWrite write uj).1 = .ok ()) (writes : List Write)
    (outOfRange : Bool) :
    run ⟨write :: writes, outOfRange⟩ uj = run ⟨writes, outOfRange⟩ (runWrite write uj).2 := by
  change ((runWrite write >>= fun _ => runWrites writes) >>= fun _ => _) uj = _
  rw [Routine.bind_assoc]
  exact bind_ok (Prod.ext done rfl) _

theorem run_cons_error {error : Error} (failed : (runWrite write uj).1 = .error (.status error))
    (writes : List Write) (outOfRange : Bool) :
    run ⟨write :: writes, outOfRange⟩ uj = (.error (.status error), (runWrite write uj).2) := by
  change ((runWrite write >>= fun _ => runWrites writes) >>= fun _ => _) uj = _
  rw [Routine.bind_assoc]
  exact bind_error (Prod.ext failed rfl) _

theorem run_nil (outOfRange : Bool) (uj : Ujson) :
    run ⟨[], outOfRange⟩ uj = (if outOfRange then .error .outOfRange else .ok (), uj) := by
  cases outOfRange with
  | false => rfl
  | true => rfl

theorem runWrite_cases (write : Write) (uj : Ujson) :
    (runWrite write uj).1 = .ok () ∨
      Exists fun error => (runWrite write uj).1 = .error (.status error) := by
  by_cases accepts : Refuses uj 0
  · cases status : write.ofStatus with
    | true => exact Or.inl (runWrite_ok (Or.inr status))
    | false => exact Or.inr (runWrite_refused status accepts)
  · exact Or.inl (runWrite_ok (Or.inl accepts))

theorem sinkCount_lt_run_cons (write : Write)
    (rest : forall uj, sinkCount uj <= sinkCount (run ⟨writes, outOfRange⟩ uj).2) (uj : Ujson) :
    sinkCount uj < sinkCount (run ⟨write :: writes, outOfRange⟩ uj).2 := by
  have one : sinkCount uj < sinkCount (runWrite write uj).2 := by
    rw [(runWrite_issued write uj).count]
    exact Nat.lt_succ_self _
  rcases runWrite_cases write uj with done | ⟨error, failed⟩
  · rw [run_cons_ok done]
    exact Nat.lt_of_lt_of_le one (rest _)
  · rw [run_cons_error failed]
    exact one

theorem sinkCount_le_run (writes : List Write) (outOfRange : Bool) (uj : Ujson) :
    sinkCount uj <= sinkCount (run ⟨writes, outOfRange⟩ uj).2 := by
  induction writes generalizing uj with
  | nil =>
      rw [run_nil]
  | cons write writes ih => exact Nat.le_of_lt (sinkCount_lt_run_cons write ih uj)

/-- The writes that are accepted. -/
theorem run_drop {i : Nat} (inside : i <= writes.length)
    (accepted : forall j, j < i -> ¬Refuses uj j) :
    Exists fun uj' =>
      run ⟨writes, outOfRange⟩ uj = run ⟨writes.drop i, outOfRange⟩ uj' ∧
        uj'.ioContext.refusals = uj.ioContext.refusals.drop i ∧
          sinkCount uj' = sinkCount uj + i := by
  induction i generalizing writes uj with
  | zero => exact ⟨uj, rfl, rfl, rfl⟩
  | succ i ih =>
      cases writes with
      | nil => cases inside
      | cons write writes =>
          have done : (runWrite write uj).1 = .ok () :=
            runWrite_ok (Or.inl (accepted 0 (Nat.succ_pos i)))
          have one := runWrite_issued write uj
          have later (j : Nat) (below : j < i) : ¬Refuses (runWrite write uj).2 j := by
            rintro ⟨error, refused⟩
            rw [one.refusals, List.getElem?_drop, Nat.add_comm] at refused
            exact accepted (j + 1) (Nat.succ_lt_succ below) ⟨error, refused⟩
          rcases ih (Nat.le_of_succ_le_succ inside) later with ⟨uj', runs, refusals, count⟩
          refine ⟨uj', ?_, ?_, ?_⟩
          · rw [run_cons_ok done, runs, List.drop_succ_cons]
          · rw [refusals, one.refusals, List.drop_drop, Nat.add_comm]
          · rw [count, one.count]
            omega

/-- A plan that ends with an error of the sink has given something to it. -/
theorem issued_of_error {error : Error}
    (failed : (run ⟨writes, outOfRange⟩ uj).1 = .error (.status error)) :
    0 < issued (run ⟨writes, outOfRange⟩) uj := by
  cases writes with
  | nil =>
      rw [run_nil] at failed
      cases outOfRange with
      | false => cases failed
      | true => cases failed
  | cons write writes =>
      exact Nat.sub_pos_of_lt (sinkCount_lt_run_cons write (sinkCount_le_run writes outOfRange) uj)

end Plan

/-! ## Propagation -/

theorem Plan.propagates_of_accepted {writes : List Write} {outOfRange : Bool}
    (accepted : forall j, j < writes.length -> ¬Refuses uj j) :
    PropagatesErrors (run ⟨writes, outOfRange⟩) uj := by
  rcases @run_drop uj writes outOfRange _ (Nat.le_refl _) accepted with ⟨uj', runs, -, count⟩
  rw [List.drop_length, run_nil] at runs
  have all : issued (run ⟨writes, outOfRange⟩) uj = writes.length := by
    rw [issued, runs, count, Nat.add_sub_cancel_left]
  refine ⟨⟨?_, ?_⟩, ?_⟩
  · rintro ⟨error, failed⟩
    rw [runs] at failed
    cases outOfRange with
    | false => cases failed
    | true => cases failed
  · rintro ⟨i, inside, refused⟩
    exact absurd refused (accepted i (all ▸ inside))
  · intro i inside refused
    exact absurd refused (accepted i (all ▸ inside))

/-- The first write to be refused is the last one, and its error is returned,
but for a write of a status. -/
theorem Plan.propagates_iff_strict {writes : List Write} {outOfRange : Bool} {i : Nat}
    (here : writes[i]? = some write) (refused : Refuses uj i)
    (before : forall j, j < i -> ¬Refuses uj j) :
    PropagatesErrors (run ⟨writes, outOfRange⟩) uj ↔ write.ofStatus = false := by
  rcases List.getElem?_eq_some_iff.mp here with ⟨inside, found⟩
  rcases @run_drop uj writes outOfRange i (Nat.le_of_lt inside) before with
    ⟨uj', runs, refusals, count⟩
  rw [List.drop_eq_getElem_cons inside, found] at runs
  have refuses : Refuses uj' 0 := by
    rcases refused with ⟨error, refused⟩
    refine ⟨error, ?_⟩
    rw [refusals, List.getElem?_drop]
    exact refused
  have one := (runWrite_issued write uj').count
  constructor
  · rintro ⟨errors, last⟩
    by_contra status
    have done := runWrite_ok (Or.inr (Bool.eq_true_of_not_eq_false status) :
      ¬Refuses uj' 0 ∨ write.ofStatus = true)
    rw [run_cons_ok done] at runs
    have more := sinkCount_le_run (writes.drop (i + 1)) outOfRange (runWrite write uj').2
    have reached : i < issued (run ⟨writes, outOfRange⟩) uj := by
      rw [issued, runs]
      omega
    rcases errors.mpr ⟨i, reached, refused⟩ with ⟨error, failed⟩
    rw [runs] at failed
    have another := issued_of_error failed
    have only := last i reached refused
    rw [issued, runs] at only
    rw [issued] at another
    omega
  · intro strict
    rcases runWrite_refused strict refuses with ⟨error, failed⟩
    rw [run_cons_error failed] at runs
    have all : issued (run ⟨writes, outOfRange⟩) uj = i + 1 := by
      rw [issued, runs]
      change sinkCount (runWrite write uj').2 - sinkCount uj = i + 1
      omega
    refine ⟨⟨fun _ => ⟨i, all ▸ Nat.lt_succ_self i, refused⟩, fun _ => ⟨error, ?_⟩⟩, ?_⟩
    · rw [runs]
    · intro j reached later
      rw [all] at reached ⊢
      rcases Nat.lt_succ_iff_lt_or_eq.mp reached with below | same
      · exact absurd later (before j below)
      · rw [same]

/-- Errors of the sink are propagated unless the first one meets a status. -/
theorem Plan.propagates_iff (plan : Plan) (uj : Ujson) :
    PropagatesErrors plan.run uj ↔ ¬RefusedInStatus plan.writes uj := by
  classical
  rcases plan with ⟨writes, outOfRange⟩
  by_cases some : Exists fun i => i < writes.length ∧ Refuses uj i
  · rcases Nat.find_spec some with ⟨inside, refused⟩
    have before (j : Nat) (below : j < Nat.find some) : ¬Refuses uj j := fun refused =>
      Nat.find_min some below ⟨Nat.lt_trans below inside, refused⟩
    generalize Nat.find some = i at inside refused before
    rw [propagates_iff_strict (List.getElem?_eq_getElem inside) refused before]
    constructor
    · rintro strict ⟨j, write, here, status, also, first⟩
      rcases Nat.lt_trichotomy i j with below | same | above
      · exact first i below refused
      · rw [<- same, List.getElem?_eq_getElem inside] at here
        rw [<- Option.some.inj here, strict] at status
        cases status
      · exact before j above also
    · intro elsewhere
      by_contra status
      exact elsewhere ⟨i, writes[i], List.getElem?_eq_getElem inside,
        Bool.eq_true_of_not_eq_false status, refused, before⟩
  · refine iff_of_true (propagates_of_accepted fun j inside refused => some ⟨j, inside, refused⟩) ?_
    rintro ⟨i, write, here, -, refused, -⟩
    exact some ⟨i, (List.getElem?_eq_some_iff.mp here).1, refused⟩

theorem andThen_writes {first second : Plan} (inside : write ∈ (first.andThen second).writes) :
    write ∈ first.writes ∨ write ∈ second.writes := by
  unfold Plan.andThen at inside
  split at inside
  · exact Or.inl inside
  · exact List.mem_append.mp inside

theorem put_strict {text : List (BitVec 8)} (inside : write ∈ (Plan.put text).writes) :
    write.ofStatus = false := by
  rw [List.mem_singleton.mp inside]

theorem charsPlan_strict {chars : List (BitVec 8)} (inside : write ∈ (charsPlan chars).writes) :
    write.ofStatus = false := by
  induction chars with
  | nil => cases inside
  | cons ch chars ih =>
      rcases andThen_writes inside with first | later
      · exact put_strict first
      · exact ih later

theorem stringPlan_strict {chars : List (BitVec 8)} (inside : write ∈ (stringPlan chars).writes) :
    write.ofStatus = false := by
  rcases andThen_writes inside with first | inside
  · exact put_strict first
  · rcases andThen_writes inside with between | last
    · exact charsPlan_strict between
    · exact put_strict last

/-- The serialiser of a type propagates the errors of a sink unless the first
write that it refuses belongs to a status; the one of a string always does. -/
theorem serialize_propagates_iff (uj : Ujson) :
    (forall (type : Ty) (value : type.Val),
      PropagatesErrors (type.serialize value) uj ↔
        ¬RefusedInStatus (type.plan value).writes uj) ∧
    forall chars : List (BitVec 8), PropagatesErrors (ujsonSerializeString chars) uj := by
  constructor
  · intro type value
    rw [<- type.run_plan value]
    exact Plan.propagates_iff _ uj
  · intro chars
    rw [<- run_stringPlan chars]
    refine (Plan.propagates_iff _ uj).mpr ?_
    rintro ⟨i, write, here, status, -⟩
    rw [stringPlan_strict (List.mem_of_getElem? here)] at status
    cases status

/-- A context whose sink refuses the first write. -/
def refusing (error : Error) : Ujson := ⟨⟨[], error, [some error], []⟩, none, crc32Init⟩

/-- The OK status is taken to have been written when nothing has. -/
theorem serialize_propagates_apart :
    ¬PropagatesErrors ((Ty.scalar .statusT).serialize ⟨0⟩)
      (refusing (createError .kUnavailable 0#32 ujsonC 1 (by decide) positioned_zero)) := by
  rintro ⟨errors, -⟩
  rcases errors.mpr ⟨0, by decide +kernel, _, rfl⟩ with ⟨error, failed⟩
  have done : ((Ty.scalar .statusT).serialize ⟨0⟩
      (refusing (createError .kUnavailable 0#32 ujsonC 1 (by decide) positioned_zero))).1 =
        .ok () := by
    decide +kernel
  rw [done] at failed
  cases failed

end Ujson
end SunburstChip
