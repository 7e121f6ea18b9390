import SunburstChip.Ujson.RoundTrip

namespace SunburstChip
namespace UjsonOttf

open Routine
open Ujson

/-!
# Messages with a CRC

The macros of `ujson_ottf.h`.  A request is parsed and then the CRC that follows
it, which has to be the one of the request.  A response is written with its CRC
behind it.

The CRC of a request is taken from the context when its parser has returned.
It is the right one because the parser of a struct fetches its text and nothing
behind it.
-/

/-- Where an error is created. -/
structure Site where
  moduleId : BitVec 32
  positioned : Positioned moduleId
  file : SourceFile
  line : Nat

/-- An error that is created there. -/
def Site.error (site : Site) (code : AbslStatus) (isError : code ≠ .kOk) : Error :=
  createError code site.moduleId site.file site.line isError site.positioned

/-- The place of `UJSON_SERDE_STRUCT` in `ottf.h`. -/
def ottfH : Site where
  moduleId := makeModuleId 0x6a 0x6f 0x74
  positioned := positioned_makeModuleId _ _ _
  file := ⟨ascii "ottf.h", by decide⟩
  line := 17

/-- `STRUCT_OTTF_CRC` -/
def structOttfCrc : Fields := .field (ascii "crc") (.scalar .uint32T) [] .nil

/-- `ottf_crc_t` -/
def ottfCrc : Ty :=
  .struct (ottfH.error .kInvalidArgument AbslStatus.kInvalidArgument_ne) structOttfCrc

/-- The `crc` of an `ottf_crc_t`. -/
def OttfCrc.crc (object : ottfCrc.Val) : BitVec 32 := object.1 ⟨0, by decide⟩

/-- A `ottf_crc_t` with a `crc`. -/
def OttfCrc.mk (crc : BitVec 32) : ottfCrc.Val := (fun _ => crc, ())

/-- What is on the stack of a function: what its local arrays contain, and its
local `ottf_crc_t`. -/
structure Frame where
  stack : Stack
  crc : ottfCrc.Val

/-- What `UJSON_WITH_CRC` does behind a message. -/
def checkCrc (frame : Frame) (site : Site) (msgCrc : BitVec 32) : Uj Unit := do
  let crc <- onLocal frame.crc (ottfCrc.deserialize frame.stack)
  if msgCrc ≠ OttfCrc.crc crc then raise (.status (site.error .kDataLoss (by decide))) else pure ()

/-- `UJSON_WITH_CRC` -/
def ujsonWithCrc {τ : Type} (frame : Frame) (site : Site) (deserFn : UjOn τ Unit) : UjOn τ Unit := do
  onFirst ujsonCrc32Reset
  let err <- attempt deserFn
  let msgCrc <- onFirst ujsonCrc32Finish
  match err with
  | .error stop => raise stop
  | .ok _ => onFirst (checkCrc frame site msgCrc)

/-- `RESP_CRC` -/
def respCrc : Uj Unit := do
  let crc <- ujsonCrc32Finish
  ujsonPutbuf (ascii " CRC:")
  ujsonSerializeUint32T crc
  ujsonPutbuf (ascii "\n")

/-- `RESP_OK`, with the responder applied to its data -/
def respOk (responder : Uj Unit) : Uj Unit := do
  ujsonPutbuf (ascii "RESP_OK:")
  ujsonCrc32Reset
  responder
  respCrc

/-- `RESP_OK_STATUS`, with `OK_STATUS()` -/
def respOkStatus : Uj Unit := respOk (ujsonSerializeStatusT ⟨0⟩)

/-- `RESP_ERR` of an expression that returns an error -/
def respErr (sts : Error) : Uj Unit := do
  ujsonPutbuf (ascii "RESP_ERR:")
  ujsonSerializeStatusT sts.status
  respCrc

/-! ## The text of a CRC -/

/-- A CRC behind a message. -/
def crcText (crc : BitVec 32) : List (BitVec 8) :=
  ascii "\x7b\"crc\":" ++ (unsignedText crc ++ [closeBrace])

theorem text_ottfCrc (crc : BitVec 32) : ottfCrc.text (OttfCrc.mk crc) = crcText crc := by
  have quoted' : quoted (ascii "crc") = ascii "\"crc\"" := by decide
  have members : membersText 0 (structOttfCrc.members (OttfCrc.mk crc)) =
      quoted (ascii "crc") ++ (colon :: (unsignedText crc ++ [])) := rfl
  change openBrace :: (membersText 0 (structOttfCrc.members (OttfCrc.mk crc)) ++ [closeBrace]) = _
  rw [members, quoted', List.append_nil]
  rfl

/-- The CRC behind a message is read, and nothing behind it. -/
theorem scans_crc (frame : Frame) (crc : BitVec 32) :
    Scans false (onLocal frame.crc (ottfCrc.deserialize frame.stack)) (crcText crc) (OttfCrc.mk crc) := by
  have proper : ottfCrc.Proper := ⟨by decide, by decide, trivial, trivial⟩
  have short : ottfCrc.Short := ⟨by decide, trivial, trivial⟩
  have reads := (reads_type frame.stack ottfCrc proper short (OttfCrc.mk crc) ⟨fun _ => trivial, trivial⟩
    ⟨fun _ => trivial, trivial⟩).2
  rw [text_ottfCrc] at reads
  exact scans_onLocal frame.crc reads

/-! ## Accepting a message -/

theorem delivered_chars (text : List (BitVec 8)) : delivered (chars text) = text := by
  unfold delivered chars
  rw [List.flatMap_map]
  exact List.flatMap_singleton' text

/-- Where nothing has been put, what has gone through is what has been fetched. -/
theorem bytes_of_silent {traffic : List Traffic} (silent : puts traffic = []) :
    bytes traffic = fetched traffic := by
  induction traffic with
  | nil => rfl
  | cons entry traffic ih =>
      cases entry with
      | put buf => cases silent
      | fetched ch => exact congrArg (fun text => ch :: text) (ih silent)

/-- The CRC after a text that has been fetched to its end and no further. -/
theorem crc_of_fetched {start uj : Ujson} {text : List (BitVec 8)}
    {rest : List (Except Error (BitVec 8))} (since : Since start [] uj)
    (before : start.ioContext.incoming = chars text ++ rest) (after : uj.ioContext.incoming = rest) :
    crc32Finish uj.crc32 = SunburstChip.crc32 text := by
  rcases since with ⟨traffic, n, -, crc, incoming, source, sink⟩
  have whole := List.take_append_drop n start.ioContext.incoming
  rw [<- incoming, after, before] at whole
  have taken := List.append_cancel_right whole
  rw [before, taken, delivered_chars] at source
  rw [crc, bytes_of_silent sink, source, SunburstChip.crc32, crc32Add_eq_foldl]

/-- Nothing has been pushed back, and the source delivers this. -/
structure Feeds (uj : Ujson) (results : List (Except Error (BitVec 8))) : Prop where
  buffer : uj.buffer = none
  incoming : uj.ioContext.incoming = results

theorem Feeds.pending {uj : Ujson} {results : List (Except Error (BitVec 8))}
    (feeds : Feeds uj results) : Ujson.pending uj = results := by
  unfold Ujson.pending
  rw [feeds.buffer, feeds.incoming]
  rfl

theorem feeds_of_pending {uj : Ujson} {results : List (Except Error (BitVec 8))}
    (empty : uj.buffer = none) (pending : Ujson.pending uj = results) : Feeds uj results := by
  unfold Ujson.pending at pending
  rw [empty] at pending
  exact ⟨empty, pending⟩

section

variable {type : Ty} {uj : Ujson} {text : List (BitVec 8)} {crc : BitVec 32}
variable {rest : List (Except Error (BitVec 8))}

/-- A message whose parser stops at its last character is accepted exactly with
its CRC behind it. -/
theorem withCrc_apply {object : type.Val} {fill : type.Val -> type.Val} (frame : Frame) (site : Site)
    (reads : Reads false (type.deserialize frame.stack) text () fill)
    (feeds : Feeds uj (chars (text ++ crcText crc) ++ rest)) :
    Exists fun uj' => Feeds uj' rest ∧
      ujsonWithCrc frame site (type.deserialize frame.stack) (uj, some object) =
        (if crc = SunburstChip.crc32 text then .ok ()
          else .error (.status (site.error .kDataLoss (by decide))), uj', some (fill object)) := by
  have left : Ujson.pending (ujsonCrc32Reset uj).2 = chars text ++ (chars (crcText crc) ++ rest) := by
    rw [<- List.append_assoc, <- chars_append]
    exact feeds.pending
  rcases reads (ujsonCrc32Reset uj).2 object _ left nofun with ⟨uj₁, parsed, middle, empty⟩
  have feeds₁ := feeds_of_pending (empty rfl) middle
  rcases scans_crc frame crc uj₁ rest middle nofun with ⟨uj', checked, after, empty'⟩
  have reset : Since (ujsonCrc32Reset uj).2 [] (ujsonCrc32Reset uj).2 :=
    ⟨[], 0, (List.append_nil _).symm, rfl, rfl, rfl, rfl⟩
  have since := keeps_deserialize getc_since ungetc_since frame.stack type
    ((ujsonCrc32Reset uj).2, some object) reset
  rw [parsed] at since
  have incoming : (ujsonCrc32Reset uj).2.ioContext.incoming =
      chars text ++ (chars (crcText crc) ++ rest) := by
    rw [<- List.append_assoc, <- chars_append]
    exact feeds.incoming
  have msgCrc := crc_of_fetched since incoming feeds₁.incoming
  refine ⟨uj', feeds_of_pending (empty' rfl) after, ?_⟩
  have reset' : (onFirst ujsonCrc32Reset : UjOn type.Val Unit) (uj, some object) =
      (.ok (), (ujsonCrc32Reset uj).2, some object) := rfl
  have finish : (onFirst ujsonCrc32Finish : UjOn type.Val (BitVec 32)) (uj₁, some (fill object)) =
      (.ok (SunburstChip.crc32 text), uj₁, some (fill object)) := by
    rw [<- msgCrc]
    rfl
  have decided : checkCrc frame site (SunburstChip.crc32 text) uj₁ =
      (if crc = SunburstChip.crc32 text then .ok ()
        else .error (.status (site.error .kDataLoss (by decide))), uj') := by
    have here : OttfCrc.crc (OttfCrc.mk crc) = crc := rfl
    unfold checkCrc
    rw [bind_ok checked, here]
    by_cases same : crc = SunburstChip.crc32 text
    · rw [if_pos same, if_neg (fun other => other same.symm)]
      rfl
    · rw [if_neg same, if_pos (fun other => same other.symm)]
      rfl
  unfold ujsonWithCrc
  rw [bind_ok reset', attempt_bind_apply, parsed, bind_ok finish]
  change onFirst (checkCrc frame site (SunburstChip.crc32 text)) (uj₁, some (fill object)) = _
  rw [onFirst_apply, decided]

/-- The types of messages: structs, and enums that are declared without `WITH_UNKNOWN`. -/
def Delimited : Ty -> Prop
  | .scalar _ => False
  | .enum decl => decl.withUnknown = false
  | .struct _ _ => True

theorem looks_delimited (delimited : Delimited type) (value : type.Val) :
    type.looks value = false := by
  cases type with
  | scalar type => exact False.elim delimited
  | enum decl =>
      have known : decl.withUnknown = false := delimited
      change (decl.withUnknown && _) = false
      rw [known, Bool.false_and]
  | struct invalidArgument fields => rfl

/-- What has been written is accepted with its own CRC behind it and with no
other one, whatever the state of the CRC was, and is then in the object. -/
theorem withCrc_roundTrip (delimited : Delimited type) (proper : type.Proper) (short : type.Short)
    (value object : type.Val) (survives : type.Survives value) (frame : Frame) (site : Site)
    (put : written (type.serialize value) = some text)
    (feeds : Feeds uj (chars (text ++ crcText crc) ++ rest)) :
    Exists fun uj' => Exists fun object' => Feeds uj' rest ∧ type.Same value object' ∧
      ujsonWithCrc frame site (type.deserialize frame.stack) (uj, some object) =
        (if crc = SunburstChip.crc32 text then .ok ()
          else .error (.status (site.error .kDataLoss (by decide))), uj', some object') := by
  rcases ((renders_type type value).written).mp put with ⟨writable, same⟩
  have reads := (reads_type frame.stack type proper short value writable survives).2
  rw [looks_delimited delimited, same] at reads
  rcases withCrc_apply frame site reads feeds with ⟨uj', feeds', accepted⟩
  exact ⟨uj', type.fill value object, feeds', same_fill type value object writable, accepted⟩

end

/-- A frame on an empty stack. -/
def emptyFrame : Frame := ⟨fun _ _ => 0, OttfCrc.mk 0⟩

/-- The place of the first command in `mem.c`. -/
def memC : Site where
  moduleId := makeModuleId 0x6a 0x73 0x6d
  positioned := positioned_makeModuleId _ _ _
  file := ⟨ascii "mem.c", by decide⟩
  line := 16

set_option maxRecDepth 10000 in
/-- Refused with the right CRC, because of a name. -/
theorem longNamed_unchecked :
    Delimited longNamed ∧ longNamed.Proper ∧
    written (longNamed.serialize longNamedValue) = some (longNamed.text longNamedValue) ∧
    SunburstChip.crc32 (longNamed.text longNamedValue) = 0xc5bcecec ∧
    (ujsonWithCrc emptyFrame memC (longNamed.deserialize emptyFrame.stack)
      (delivering (longNamed.text longNamedValue ++ crcText 0xc5bcecec), some longNamedValue)).1 ≠
      .ok () := by
  have refused : (ujsonWithCrc emptyFrame memC (longNamed.deserialize emptyFrame.stack)
      (delivering (longNamed.text longNamedValue ++ crcText 0xc5bcecec), some longNamedValue)).1 =
      .error (.status (createError .kInvalidArgument 0#32 ujsonC 1 (by decide) positioned_zero)) := by
    decide +kernel
  refine ⟨trivial, ⟨by decide, by decide, trivial, trivial⟩, by decide +kernel, by decide +kernel, ?_⟩
  rw [refused]
  exact nofun

theorem withCrc_roundTrip_crc :
    Exists fun uj' => Exists fun object' => Feeds uj' [] ∧ ottfCrc.Same (OttfCrc.mk 7) object' ∧
      ujsonWithCrc emptyFrame memC (ottfCrc.deserialize emptyFrame.stack)
        (delivering (crcText 7 ++ crcText 8), some (OttfCrc.mk 0)) =
        (if (8#32) = SunburstChip.crc32 (crcText 7) then .ok ()
          else .error (.status (memC.error .kDataLoss (by decide))), uj', some object') := by
  have proper : ottfCrc.Proper := ⟨by decide, by decide, trivial, trivial⟩
  have short : ottfCrc.Short := ⟨by decide, trivial, trivial⟩
  have delimited : Delimited ottfCrc := trivial
  exact withCrc_roundTrip delimited proper short (OttfCrc.mk 7) (OttfCrc.mk 0) ⟨fun _ => trivial, trivial⟩
    emptyFrame memC (by decide +kernel) ⟨rfl, (List.append_nil _).symm⟩

end UjsonOttf
end SunburstChip
