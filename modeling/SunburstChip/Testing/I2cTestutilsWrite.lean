import SunburstChip.Dif.I2cFmtFifo
import SunburstChip.Testing.I2cTestutils

namespace SunburstChip
namespace I2c

open Mmio

/-!
# Writes to a target

`i2c_testutils_write` pushes an address, all bytes but the last, and the last
byte, which may carry a stop.  Only between the bytes in the middle does
anything wait for room: the address and the byte after it have to find some.
-/

variable {τ : Type} {addr : BitVec 8} {skipStop : Bool}

/-- The entry of the address byte. -/
def addressEntry (addr direction : BitVec 8) : Entry :=
  ⟨addr <<< 1 ||| direction, { kDefaultFlags with start := true }⟩

/-- The entry of the last byte. -/
def lastEntry (byte : BitVec 8) (skipStop : Bool) : Entry :=
  ⟨byte, { kDefaultFlags with stop := !skipStop }⟩

/-- What a write asks for: the address, and each byte of the data, with a stop
at the last one unless it is skipped. -/
def writeEntries (addr : BitVec 8) (data : List (BitVec 8)) (skipStop : Bool) : List Entry :=
  addressEntry addr kI2cWrite :: data.mapIdx (fun i byte =>
    ⟨byte, { kDefaultFlags with stop := decide (i + 1 = data.length) && !skipStop }⟩)

/-- The bytes before the last one. -/
abbrev initOf (data : List (BitVec 8)) : List (BitVec 8) := data.take (data.length - 1)

theorem writeEntries_eq {data : List (BitVec 8)} (some : 0 < data.length) :
    writeEntries addr data skipStop =
      [addressEntry addr kI2cWrite] ++ (initOf data).map (⟨·, kDefaultFlags⟩) ++
        [lastEntry (data.getD (data.length - 1) 0) skipStop] := by
  unfold writeEntries
  rw [List.append_assoc, List.singleton_append, List.cons.injEq]
  refine ⟨rfl, List.ext_getElem ?_ ?_⟩
  · simp only [List.length_mapIdx, List.length_append, List.length_map, List.length_take,
      List.length_singleton]
    omega
  · intro i inside _
    rw [List.length_mapIdx] at inside
    rw [List.getElem_mapIdx]
    by_cases last : i + 1 = data.length
    · have index : i = data.length - 1 := by omega
      subst index
      rw [decide_eq_true last, List.getElem_append_right (by simp), List.getElem_singleton,
        List.getD_eq_getElem _ _ inside]
      rfl
    · have before : i < (initOf data).length := by
        rw [List.length_take]
        omega
      rw [decide_eq_false last, List.getElem_append_left (by rwa [List.length_map]),
        List.getElem_map, List.getElem_take]
      rfl

/-- The number of entries that a write reports as pushed. -/
def entriesWritten (entries : List Entry) (out : Except Failure Unit × τ) : Nat :=
  match out.1 with
  | .ok _ => entries.length
  | .error _ => 0

section Live

variable {entries done : List Entry}

/-- Several bytes have some before the last one. -/
theorem accepted_initOf {data : List (BitVec 8)} (several : 1 < data.length) :
    ¬ Refused .object .object (initOf data) kDefaultFlags := by
  rintro (null | null | none | disagree)
  · cases null
  · cases null
  · have length := congrArg List.length none
    rw [List.length_take, List.length_nil] at length
    omega
  · exact absurd rfl disagree

/-- The bytes before the last one, of which there may be none. -/
theorem live_writeInit (data : List (BitVec 8)) (state : τ)
    {next : Code τ Failure Unit} {post : Except Failure Unit × τ -> Host × HostLog -> Prop}
    (asked : done ++ (initOf data).map (⟨·, kDefaultFlags⟩) <+: entries)
    (after : WriteLive entries (Filled (done ++ (initOf data).map (⟨·, kDefaultFlags⟩)) 1)
      (next state) post) :
    WriteLive entries (Filled done 1) ((do
      if 1 < data.length then
        let result <- Code.lift (difI2cWriteBytesRaw .object .object (initOf data) kDefaultFlags)
        tryDif result
      next) state) post := by
  refine Code.live_ite (fun several => ?_) (fun one => ?_)
  · refine Code.live_lift_bind _
      (live_difI2cWriteBytesRaw done (accepted_initOf several) asked) (fun result => ?_)
    refine Live.assume (fun ok => ?_)
    rw [ok]
    exact after
  · have empty : initOf data = [] :=
      List.length_eq_zero_iff.mp (by rw [List.length_take]; omega)
    rw [empty, List.map_nil, List.append_nil] at after
    exact after

/-- With room for two entries, all of them are pushed. -/
theorem live_i2cTestutilsWrite {data : List (BitVec 8)} (some : 0 < data.length) (state : τ) :
    WriteLive (writeEntries addr data skipStop) (Filled [] 2)
      (i2cTestutilsWrite .object addr data skipStop state)
      (fun out s => out.1 = .ok () ∧ Filled (writeEntries addr data skipStop) 0 s) := by
  rw [i2cTestutilsWrite, tryCheck_bind (decide_eq_true some), writeEntries_eq some]
  have agree : (parseFlags { kDefaultFlags with stop := !skipStop } 0).1 = .kDifOk := by
    cases skipStop <;> rfl
  refine Code.live_lift_bind _ (live_difI2cWriteByteRaw [] rfl
    (List.append_assoc _ _ _ ▸ List.prefix_append _ _)) (fun result => ?_)
  refine Live.assume (fun ok => ?_)
  rw [ok, tryDif_ok_bind]
  refine live_writeInit data state (List.prefix_append _ _) ?_
  refine Code.live_lift_bind _ (live_difI2cWriteByteRaw _ agree List.prefix_rfl) (fun result => ?_)
  refine Live.assume (fun ok => ?_)
  rw [ok]
  exact Live.ret (keeps_filled List.prefix_rfl _) (fun s filled => ⟨rfl, filled⟩)

end Live

/-! ## Without room -/

/-- A write of some data pushes twice before anything else. -/
theorem i2cTestutilsWrite_pushes {data : List (BitVec 8)} (some : 0 < data.length) (state : τ) :
    Exists fun word => Exists fun next => PushesNext next ∧
      i2cTestutilsWrite .object addr data skipStop state =
        .write32 fdataRegOffset word next := by
  have agree : (parseFlags { kDefaultFlags with stop := !skipStop } 0).1 = .kDifOk := by
    cases skipStop <;> rfl
  rcases @difI2cWriteByteRaw_accepted { kDefaultFlags with start := true }
    (addr <<< 1 ||| kI2cWrite) rfl with ⟨word, -, address⟩
  rw [i2cTestutilsWrite, tryCheck_bind (decide_eq_true some), Code.lift_bind_apply, address]
  refine ⟨word, _, ?_, rfl⟩
  change PushesNext ((ite (1 < data.length) _ _ : Code τ Failure Unit) state)
  by_cases several : 1 < data.length
  · rw [if_pos several, Code.lift_bind_apply]
    exact (pushesNext_difI2cWriteBytesRaw (accepted_initOf several)).bind _
  · rw [if_neg several, Code.lift_bind_apply]
    exact (pushesNext_difI2cWriteByteRaw _ agree).bind _

/-- A write that is refused has pushed nothing. -/
theorem i2cTestutilsWrite_refused {i2c : Pointer} {data : List (BitVec 8)}
    (refused : i2c = .null ∨ data = []) (state : τ) :
    Exists fun reason => i2cTestutilsWrite i2c addr data skipStop state =
      .ret (.error reason, state) := by
  by_cases some : 0 < data.length
  · rcases refused with null | none
    · rw [i2cTestutilsWrite, tryCheck_bind (decide_eq_true some), null]
      exact ⟨_, rfl⟩
    · exact absurd (congrArg List.length none) (Nat.ne_of_gt some)
  · rw [i2cTestutilsWrite, decide_eq_false some]
    exact ⟨_, rfl⟩

/-- The address and the data reach the FIFO exactly if the call is refused or
the FIFO has room for two entries to begin with. -/
theorem writesOut_i2cTestutilsWrite (i2c : Pointer) (addr : BitVec 8) (data : List (BitVec 8))
    (skipStop : Bool) (host : Host) (state : τ) :
    (forall config, Reaches (Remembering hostDevice Drains)
        (i2cTestutilsWrite i2c addr data skipStop state, host, []) config ->
        WritesOut (writeEntries addr data skipStop)
          (entriesWritten (writeEntries addr data skipStop)) config) ↔
      (i2c = .null ∨ data = []) ∨ host.fmt.length + 2 <= paramFifoDepth.toNat := by
  by_cases refused : i2c = .null ∨ data = []
  · refine ⟨fun _ => .inl refused, fun _ => writesOut_of_live (Nat.zero_le _) ?_⟩
    rcases @i2cTestutilsWrite_refused τ addr skipStop i2c data refused state with
      ⟨reason, program⟩
    rw [program]
    refine Live.ret (keeps_filled List.nil_prefix _) (fun s filled => ?_)
    rw [filled.entered]
    rfl
  · have some : 0 < data.length := List.length_pos_iff.mpr (fun none => refused (.inr none))
    have handle : i2c = .object := by
      cases i2c with
      | null => exact absurd (.inl rfl) refused
      | object => rfl
    rw [handle]
    by_cases room : host.fmt.length + 2 <= paramFifoDepth.toNat
    · refine ⟨fun _ => .inr room, fun _ => writesOut_of_live (Nat.le_sub_of_add_le' room) ?_⟩
      refine (live_i2cTestutilsWrite some state).consequence (fun _ filled => filled) ?_
      rintro ⟨out, state'⟩ s ⟨ok, filled⟩
      cases ok
      rw [filled.entered]
      rfl
    · refine ⟨fun written => ?_, fun either => (either.elim (handle ▸ refused) room).elim⟩
      rcases @i2cTestutilsWrite_pushes τ addr skipStop data some state with
        ⟨word, next, pushes, program⟩
      by_cases first : host.HasRoom
      · -- The address takes the last place.
        have filled : Filled [] 1 ((host, []) : Host × HostLog) :=
          ⟨rfl, rfl, Nat.sub_pos_of_lt first⟩
        have after := filled.push word
        have full : ¬ ((traced hostDevice).write32 fdataRegOffset word (host, [])).1.HasRoom := by
          have longer : ((traced hostDevice).write32 fdataRegOffset word (host, [])).1.fmt =
              host.fmt ++ [.ofWord word] := congrArg Host.fmt (if_pos first)
          unfold Host.HasRoom
          rw [longer, List.length_append, List.length_singleton]
          omega
        rcases pushes.lost full (after.entered.trans after.pushed.symm) with ⟨config, step, wrong⟩
        refine absurd (written config (.head ?_ (.single step))) wrong
        rw [program]
        exact .write32 _ _ _ _ trivial
      · have pushesFirst : PushesNext (i2cTestutilsWrite .object addr data skipStop state) :=
          ⟨word, next, program⟩
        rcases pushesFirst.lost (s := (host, [])) first rfl with ⟨config, step, wrong⟩
        exact absurd (written config (.single step)) wrong

/-- Entries reach the FIFO as they are asked for exactly where the call is
refused or the FIFO has room: for one entry if `dif_i2c_write_bytes_raw` is called
by itself, for the address too if `i2c_testutils_write` calls it. -/
theorem writesOut_iff (i2c bytes : Pointer) (content : List (BitVec 8)) (flags : DifI2cFmtFlags)
    (addr : BitVec 8) (skipStop : Bool) (host : Host) (state : τ) :
    ((forall config, Reaches (Remembering hostDevice Drains)
        (difI2cWriteBytesRaw i2c bytes content flags, host, []) config ->
        WritesOut (content.map (⟨·, flags⟩)) (bytesWritten content) config) ↔
      Refused i2c bytes content flags ∨ host.HasRoom) ∧
    ((forall config, Reaches (Remembering hostDevice Drains)
        (i2cTestutilsWrite i2c addr content skipStop state, host, []) config ->
        WritesOut (writeEntries addr content skipStop)
          (entriesWritten (writeEntries addr content skipStop)) config) ↔
      (i2c = .null ∨ content = []) ∨ host.fmt.length + 2 <= paramFifoDepth.toNat) :=
  ⟨writesOut_difI2cWriteBytesRaw i2c bytes content flags host,
    writesOut_i2cTestutilsWrite i2c addr content skipStop host state⟩

/-- A full FIFO loses the first byte. -/
theorem writesOut_apart :
    ¬ forall (content : List (BitVec 8)) (flags : DifI2cFmtFlags) (host : Host) (config),
      host.fmt.length <= paramFifoDepth.toNat ->
      Reaches (Remembering hostDevice Drains)
        (difI2cWriteBytesRaw .object .object content flags, host, []) config ->
      WritesOut (content.map (⟨·, flags⟩)) (bytesWritten content) config := by
  intro claim
  let host : Host := ⟨List.replicate 64 ⟨0, kDefaultFlags⟩, [], 0, 0, 0, 0⟩
  have full : ¬ host.HasRoom := by decide
  have accepted : ¬ Refused .object .object [0x55] kDefaultFlags := by
    rintro (null | null | none | disagree)
    · cases null
    · cases null
    · cases none
    · exact absurd rfl disagree
  rcases (pushesNext_difI2cWriteBytesRaw accepted).lost (s := (host, [])) full rfl with
    ⟨config, step, wrong⟩
  exact wrong (claim [0x55] kDefaultFlags host config (by decide) (.single step))

end I2c
end SunburstChip
