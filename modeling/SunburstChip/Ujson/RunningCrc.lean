import SunburstChip.Ujson.Keeps

namespace SunburstChip
namespace Ujson

open Routine

/-!
# The running CRC

The CRC of a context is the one of what has gone through its routines since it
was reset: of the characters that have been fetched, which are those that the
source has delivered, and of the pieces of text that have been put.  Pushing a
character back and reading it again does not go through these routines.
-/

/-- The bytes that have gone through. -/
def bytes (traffic : List Traffic) : List (BitVec 8) :=
  traffic.flatMap (fun traffic =>
    match traffic with
    | .fetched ch => [ch]
    | .put buf => buf)

/-- The characters that have been fetched. -/
def fetched (traffic : List Traffic) : List (BitVec 8) :=
  traffic.flatMap (fun traffic =>
    match traffic with
    | .fetched ch => [ch]
    | .put _ => [])

/-- The pieces of text that have been put. -/
def puts (traffic : List Traffic) : List (List (BitVec 8)) :=
  traffic.flatMap (fun traffic =>
    match traffic with
    | .fetched _ => []
    | .put buf => [buf])

/-- The characters among what a source returns. -/
def delivered (results : List (Except Error (BitVec 8))) : List (BitVec 8) :=
  results.flatMap (fun result =>
    match result with
    | .ok ch => [ch]
    | .error _ => [])

/-- Since the CRC was reset at `start`, these pieces of text have been put. -/
def Since (start : Ujson) (written : List (List (BitVec 8))) (uj : Ujson) : Prop :=
  Exists fun traffic => Exists fun n =>
    uj.ioContext.traffic = start.ioContext.traffic ++ traffic ∧
    uj.crc32 = (bytes traffic).foldl crc32Add8 crc32Init ∧
    uj.ioContext.incoming = start.ioContext.incoming.drop n ∧
    fetched traffic = delivered (start.ioContext.incoming.take n) ∧
    puts traffic = written

section

variable {start : Ujson} {written : List (List (BitVec 8))}

/-- One more result of the source. -/
theorem take_succ_of_drop {α : Type} {results rest : List α} {n : Nat} {result : α}
    (drop : results.drop n = result :: rest) :
    results.drop (n + 1) = rest ∧ results.take (n + 1) = results.take n ++ [result] := by
  have inside : n < results.length := by
    by_contra outside
    rw [List.drop_eq_nil_of_le (Nat.not_lt.mp outside)] at drop
    cases drop
  rw [List.drop_eq_getElem_cons inside, List.cons.injEq] at drop
  refine ⟨drop.2, ?_⟩
  rw [List.take_succ_eq_append_getElem inside, drop.1]

theorem getc_since : Keeps (Since start written) ujsonGetc := by
  rintro uj ⟨traffic, n, log, crc, incoming, source, sink⟩
  unfold ujsonGetc
  split
  · exact ⟨traffic, n, log, crc, incoming, source, sink⟩
  · unfold Channel.getc
    cases left : uj.ioContext.incoming with
    | nil => exact ⟨traffic, n, log, crc, incoming, source, sink⟩
    | cons result rest =>
        rw [left] at incoming
        rcases take_succ_of_drop incoming.symm with ⟨drop, take⟩
        cases result with
        | error error =>
            refine ⟨traffic, n + 1, log, crc, drop.symm, ?_, sink⟩
            rw [take, source, delivered, delivered, List.flatMap_append]
            simp
        | ok ch =>
            refine ⟨traffic ++ [.fetched ch], n + 1, ?_, ?_, drop.symm, ?_, ?_⟩
            · change uj.ioContext.traffic ++ [Traffic.fetched ch] = _
              rw [log, List.append_assoc]
            · change crc32Add8 uj.crc32 ch = _
              rw [crc, bytes, bytes, List.flatMap_append, List.foldl_append]
              rfl
            · rw [take, fetched, List.flatMap_append, delivered, List.flatMap_append]
              exact congrArg (fun chars => chars ++ [ch]) source
            · rw [puts, List.flatMap_append]
              exact (List.append_nil _).trans sink

theorem ungetc_since (ch : BitVec 8) : Keeps (Since start written) (ujsonUngetc ch) := by
  intro uj since
  unfold ujsonUngetc
  split
  · exact since
  · exact since

theorem putbuf_since (buf : List (BitVec 8)) (uj : Ujson) (since : Since start written uj) :
    Since start (written ++ [buf]) (ujsonPutbuf buf uj).2 := by
  rcases since with ⟨traffic, n, log, crc, incoming, source, sink⟩
  have after (channel : Channel)
      (traffic' : channel.traffic = uj.ioContext.traffic ++ [.put buf])
      (incoming' : channel.incoming = uj.ioContext.incoming) :
      Since start (written ++ [buf])
        { uj with ioContext := channel, crc32 := crc32Add uj.crc32 0 buf } := by
    refine ⟨traffic ++ [.put buf], n, ?_, ?_, incoming'.trans incoming, ?_, ?_⟩
    · dsimp only
      rw [traffic', log, List.append_assoc]
    · dsimp only
      rw [crc32Add_eq_foldl, crc, bytes, bytes, List.flatMap_append, List.foldl_append]
      exact congrArg (fun text => List.foldl crc32Add8 _ text) (List.append_nil buf).symm
    · rw [fetched, List.flatMap_append]
      exact (List.append_nil _).trans source
    · rw [puts, List.flatMap_append]
      exact congrArg (fun texts => texts ++ [buf]) sink
  unfold ujsonPutbuf Channel.putbuf
  dsimp only
  cases uj.ioContext.refusals with
  | nil => exact after _ rfl rfl
  | cons refusal rest =>
      cases refusal with
      | none => exact after _ rfl rfl
      | some error => exact after _ rfl rfl

/-! ## Sequences of operations -/

/-- What can be done with a context: reading, pushing back, parsing into an
object and putting text. -/
inductive Operation where
  | getc
  | ungetc (ch : BitVec 8)
  | consume (ch : BitVec 8)
  | consumeMaybe (ch : BitVec 8)
  | parseQs (size : Nat) (len : BitVec 32) (array : Fin size -> BitVec 8)
  | parseInteger
  | deserialize (stack : Stack) (type : Ty) (object : type.Val)
  | putbuf (buf : List (BitVec 8))

/-- The context afterwards, however the operation ends. -/
def Operation.run : Operation -> Ujson -> Ujson
  | .getc, uj => (ujsonGetc uj).2
  | .ungetc ch, uj => (ujsonUngetc ch uj).2
  | .consume ch, uj => (ujsonConsume ch uj).2
  | .consumeMaybe ch, uj => (ujsonConsumeMaybe ch uj).2
  | .parseQs _ len array, uj => (ujsonParseQs len (uj, some array)).2.1
  | .parseInteger, uj => (ujsonParseInteger uj).2
  | .deserialize stack type object, uj => (type.deserialize stack (uj, some object)).2.1
  | .putbuf buf, uj => (ujsonPutbuf buf uj).2

/-- The text that an operation puts. -/
def Operation.text : Operation -> List (List (BitVec 8))
  | .putbuf buf => [buf]
  | _ => []

theorem Operation.run_since (operation : Operation) (uj : Ujson) (since : Since start written uj) :
    Since start (written ++ operation.text) (operation.run uj) := by
  -- Only `putbuf` puts text.
  have silent (uj' : Ujson) (kept : Since start written uj') : Since start (written ++ []) uj' := by
    rw [List.append_nil]
    exact kept
  cases operation with
  | putbuf buf => exact putbuf_since buf uj since
  | getc => exact silent _ (getc_since uj since)
  | ungetc ch => exact silent _ (ungetc_since ch uj since)
  | consume ch => exact silent _ (keeps_consume getc_since ch uj since)
  | consumeMaybe ch => exact silent _ (keeps_consumeMaybe getc_since ungetc_since ch uj since)
  | parseQs size len array =>
      exact silent _ (keeps_parseQs getc_since len (uj, some array) since)
  | parseInteger => exact silent _ (keeps_parseInteger getc_since ungetc_since uj since)
  | deserialize stack type object =>
      exact silent _ (keeps_deserialize getc_since ungetc_since stack type (uj, some object) since)

/-- A sequence of operations, one after the other. -/
def runAll (operations : List Operation) (uj : Ujson) : Ujson :=
  operations.foldl (fun uj operation => operation.run uj) uj

theorem runAll_since (operations : List Operation) (uj : Ujson) (since : Since start written uj) :
    Since start (written ++ operations.flatMap Operation.text) (runAll operations uj) := by
  induction operations generalizing written uj with
  | nil =>
      rw [List.flatMap_nil, List.append_nil]
      exact since
  | cons operation operations ih =>
      rw [List.flatMap_cons, <- List.append_assoc]
      exact ih _ (operation.run_since uj since)

/-- After every sequence of operations from a reset on, `ujson_crc32_finish`
gives the CRC of what has gone through: the characters fetched are those that
the source has delivered, each once, and the texts are those that were put. -/
theorem crc_of_traffic (operations : List Operation) (uj : Ujson) :
    Exists fun traffic => Exists fun n =>
      (runAll operations (ujsonCrc32Reset uj).2).ioContext.traffic =
        uj.ioContext.traffic ++ traffic ∧
      (ujsonCrc32Finish (runAll operations (ujsonCrc32Reset uj).2)).1 =
        .ok (SunburstChip.crc32 (bytes traffic)) ∧
      (runAll operations (ujsonCrc32Reset uj).2).ioContext.incoming =
        uj.ioContext.incoming.drop n ∧
      fetched traffic = delivered (uj.ioContext.incoming.take n) ∧
      puts traffic = operations.flatMap Operation.text := by
  have reset : Since uj [] (ujsonCrc32Reset uj).2 :=
    ⟨[], 0, (List.append_nil _).symm, rfl, rfl, rfl, rfl⟩
  rcases runAll_since operations _ reset with ⟨traffic, n, log, crc, incoming, source, sink⟩
  refine ⟨traffic, n, log, ?_, incoming, source, sink⟩
  unfold ujsonCrc32Finish
  rw [crc, SunburstChip.crc32, crc32Add_eq_foldl]

end

end Ujson
end SunburstChip
