import SunburstChip.Dif.I2cHost
import SunburstChip.Lib.Interleaving

namespace SunburstChip
namespace I2c

open Mmio

/-!
# What reaches the FMT FIFO

`dif_i2c_write_bytes_raw` pushes an entry first and waits for room afterwards.
So it leaves room behind for the next entry, but it relies on finding some: with
a full FIFO, its first entry is lost.

The controller may take entries from the FIFO at any moment and as many as it
likes, and may change anything else.
-/

variable {α : Type}

/-- The accesses made to the controller, with the states they met. -/
abbrev HostLog := List (Access × Host)

/-- The controller takes entries from the FMT FIFO, oldest first. -/
def Drains (host host' : Host) : Prop := host'.fmt <:+ host.fmt

/-- The entry that an access pushes. -/
def pushOf : Access -> Option Entry
  | .write32 offset value => if offset = fdataRegOffset then some (.ofWord value) else none
  | _ => none

/-- The entries pushed, in order. -/
def pushed (log : HostLog) : List Entry := log.filterMap (fun access => pushOf access.1)

/-- The entries that entered the FIFO, which are those pushed while it had room. -/
def entered (log : HostLog) : List Entry :=
  log.filterMap (fun access => if access.2.HasRoom then pushOf access.1 else none)

theorem entered_push {log : HostLog} {host : Host} (room : host.HasRoom) (word : BitVec 32) :
    entered (log ++ [(.write32 fdataRegOffset word, host)]) = entered log ++ [.ofWord word] := by
  rw [entered, List.filterMap_append]
  exact congrArg (entered log ++ ·) (congrArg Option.toList (if_pos room))

theorem entered_full {log : HostLog} {host : Host} (full : ¬ host.HasRoom) (word : BitVec 32) :
    entered (log ++ [(.write32 fdataRegOffset word, host)]) = entered log := by
  rw [entered, List.filterMap_append]
  exact (congrArg (entered log ++ ·) (congrArg Option.toList (if_neg full))).trans
    (List.append_nil _)

theorem pushed_push (log : HostLog) (host : Host) (word : BitVec 32) :
    pushed (log ++ [(.write32 fdataRegOffset word, host)]) = pushed log ++ [.ofWord word] :=
  List.filterMap_append

/-- What has been pushed so far are the first of the entries asked for, each once
and in order, none of them was pushed while the FIFO was full, and a program that
has returned reports how many entered the FIFO. -/
def WritesOut (entries : List Entry) (reported : α -> Nat) (config : Mmio α × Host × HostLog) :
    Prop :=
  pushed config.2.2 <+: entries ∧ entered config.2.2 = pushed config.2.2 ∧
    forall value, config.1 = .ret value -> (entered config.2.2).length = reported value

/-! ## Pushing with room -/

/-- What has been pushed has entered the FIFO, which has room for more. -/
structure Filled (done : List Entry) (free : Nat) (s : Host × HostLog) : Prop where
  pushed : pushed s.2 = done
  entered : entered s.2 = done
  room : free <= paramFifoDepth.toNat - s.1.fmt.length

namespace Filled

variable {done : List Entry} {free : Nat} {s s' : Host × HostLog}

theorem drains (filled : Filled done free s) (move : Onwards Drains s s') :
    Filled done free s' := by
  refine ⟨?_, ?_, Nat.le_trans filled.room (Nat.sub_le_sub_left move.1.length_le _)⟩
  · rw [move.2]
    exact filled.pushed
  · rw [move.2]
    exact filled.entered

theorem hasRoom (filled : Filled done (free + 1) s) : s.1.HasRoom :=
  Nat.lt_of_sub_pos (Nat.lt_of_lt_of_le (Nat.succ_pos free) filled.room)

/-- Reading `STATUS` changes nothing. -/
theorem read_status (filled : Filled done free s) :
    Filled done free ((traced hostDevice).read32 statusRegOffset s).2 := by
  refine ⟨?_, ?_, filled.room⟩
  · refine (List.filterMap_append.trans ?_).trans filled.pushed
    exact List.append_nil _
  · refine (List.filterMap_append.trans ?_).trans filled.entered
    exact (congrArg (I2c.entered s.2 ++ ·) (congrArg Option.toList (ite_self _))).trans
      (List.append_nil _)

/-- A push that finds room. -/
theorem push (filled : Filled done (free + 1) s) (word : BitVec 32) :
    Filled (done ++ [.ofWord word]) free ((traced hostDevice).write32 fdataRegOffset word s) := by
  refine ⟨?_, ?_, ?_⟩
  · exact (pushed_push _ _ _).trans (congrArg (· ++ [Entry.ofWord word]) filled.pushed)
  · exact (entered_push filled.hasRoom _).trans
      (congrArg (· ++ [Entry.ofWord word]) filled.entered)
  · have longer : ((traced hostDevice).write32 fdataRegOffset word s).1.fmt =
        s.1.fmt ++ [.ofWord word] := congrArg Host.fmt (if_pos filled.hasRoom)
    have room := filled.room
    rw [longer, List.length_append, List.length_singleton]
    omega

end Filled

section Live

variable {entries done : List Entry} {free : Nat}

/-- What holds at every moment of a write that finds room. -/
abbrev WriteLive (entries : List Entry) (pre : Host × HostLog -> Prop) (program : Mmio α)
    (post : α -> Host × HostLog -> Prop) : Prop :=
  Live (Remembering hostDevice Drains)
    (fun _ s => pushed s.2 <+: entries ∧ entered s.2 = pushed s.2) False pre program post

theorem keeps_filled (asked : done <+: entries) (place : Position) :
    Keeps (Remembering hostDevice Drains)
      (fun _ s => pushed s.2 <+: entries ∧ entered s.2 = pushed s.2) place (Filled done free) := by
  refine ⟨fun s filled => ⟨?_, filled.entered.trans filled.pushed.symm⟩,
    fun s s' move filled => filled.drains move⟩
  rw [filled.pushed]
  exact asked

/-- One entry is pushed. -/
theorem live_push {word : BitVec 32} {next : Mmio α} {post : α -> Host × HostLog -> Prop}
    (asked : done <+: entries)
    (after : WriteLive entries (Filled (done ++ [.ofWord word]) free) next post) :
    WriteLive entries (Filled done (free + 1)) (.write32 fdataRegOffset word next) post :=
  Live.write32 _ (keeps_filled asked _) (fun never => never.elim)
    (fun _ filled _ => filled.push word) after

/-- After the wait there is room for one more entry at least. -/
theorem live_spinWhileStatusBit {next : Unit -> Mmio α} {post : α -> Host × HostLog -> Prop}
    (asked : done <+: entries) (after : WriteLive entries (Filled done 1) (next ()) post) :
    WriteLive entries (Filled done 0) (spinWhileStatusBit statusFmtfullBit true >>= next) post := by
  refine Live.poll32 (fun _ => Filled done 1) (keeps_filled asked _) (fun never => never.elim)
    (fun never => never.elim) ?_ (fun _ => after)
  intro s filled _ passed
  have roomy : s.1.HasRoom := by
    have bit := fmtfull_status s.1
    change (bitfieldBit32Read s.1.status statusFmtfullBit != true) = true at passed
    rw [bit] at passed
    by_contra full
    rw [decide_eq_false full] at passed
    cases passed
  exact ⟨filled.read_status.pushed, filled.read_status.entered, Nat.sub_pos_of_lt roomy⟩

/-- The loop pushes one entry after the other, and leaves room behind. -/
theorem live_writeBytesRaw {fmtByte : BitVec 32} (content : List (BitVec 8))
    (asked : done ++ content.map (⟨·, (Entry.ofWord fmtByte).flags⟩) <+: entries) :
    WriteLive entries (Filled done 1) (writeBytesRaw fmtByte content) (fun _ =>
      Filled (done ++ content.map (⟨·, (Entry.ofWord fmtByte).flags⟩)) 1) := by
  induction content generalizing done with
  | nil =>
      rw [List.map_nil, List.append_nil] at asked ⊢
      exact Live.ret (keeps_filled asked _) (fun _ filled => filled)
  | cons byte content ih =>
      have word := entry_fbyte fmtByte byte
      rw [List.map_cons, List.append_cons, <- word] at asked ⊢
      have here := (List.prefix_append (done ++ [Entry.ofWord _]) _).trans asked
      refine live_push ((List.prefix_append done _).trans here) ?_
      exact live_spinWhileStatusBit here (ih asked)

end Live

/-! ## One call -/

/-- The call returns before it pushes anything. -/
def Refused (i2c bytes : Pointer) (content : List (BitVec 8)) (flags : DifI2cFmtFlags) : Prop :=
  i2c = .null ∨ bytes = .null ∨ content = [] ∨ (parseFlags flags 0).1 ≠ .kDifOk

section Call

variable {i2c bytes : Pointer} {content : List (BitVec 8)} {flags : DifI2cFmtFlags}
  {entries : List Entry} {free : Nat}

theorem difI2cWriteBytesRaw_refused (refused : Refused i2c bytes content flags) :
    Exists fun result => result ≠ .kDifOk ∧
      difI2cWriteBytesRaw i2c bytes content flags = .ret result := by
  unfold difI2cWriteBytesRaw
  by_cases arguments : i2c = .null ∨ bytes = .null ∨ content.length = 0
  · exact ⟨.kDifBadArg, by decide, if_pos arguments⟩
  · rw [if_neg arguments]
    rcases refused with null | null | none | disagree
    · exact absurd (.inl null) arguments
    · exact absurd (.inr (.inl null)) arguments
    · exact absurd (.inr (.inr (congrArg List.length none))) arguments
    · exact ⟨_, disagree, if_pos disagree⟩

theorem difI2cWriteBytesRaw_accepted (accepted : ¬ Refused i2c bytes content flags) :
    Exists fun fmtByte => (Entry.ofWord fmtByte).flags = flags ∧
      difI2cWriteBytesRaw i2c bytes content flags =
        (writeBytesRaw fmtByte content >>= fun _ => .ret .kDifOk) := by
  unfold Refused at accepted
  push Not at accepted
  rcases accepted with ⟨handle, buffer, some, agree⟩
  have arguments : ¬ (i2c = .null ∨ bytes = .null ∨ content.length = 0) := by
    rintro (null | null | none)
    · exact handle null
    · exact buffer null
    · exact some (List.length_eq_zero_iff.mp none)
  have parsed : parseFlags flags 0 = (.kDifOk, (parseFlags flags 0).2) := Prod.ext agree rfl
  refine ⟨_, entry_parseFlags parsed, ?_⟩
  unfold difI2cWriteBytesRaw
  rw [if_neg arguments, parsed]
  rfl

/-- With room for one entry, all of them are pushed. -/
theorem live_difI2cWriteBytesRaw (done : List Entry) (accepted : ¬ Refused i2c bytes content flags)
    (asked : done ++ content.map (⟨·, flags⟩) <+: entries) :
    WriteLive entries (Filled done 1) (difI2cWriteBytesRaw i2c bytes content flags)
      (fun result s => result = .kDifOk ∧ Filled (done ++ content.map (⟨·, flags⟩)) 1 s) := by
  rcases difI2cWriteBytesRaw_accepted accepted with ⟨fmtByte, rfl, program⟩
  rw [program]
  exact Live.bind (live_writeBytesRaw content asked)
    (fun _ => Live.ret (keeps_filled asked _) (fun _ filled => ⟨rfl, filled⟩))

theorem difI2cWriteByteRaw_accepted (byte : BitVec 8) (agree : (parseFlags flags 0).1 = .kDifOk) :
    Exists fun word => Entry.ofWord word = ⟨byte, flags⟩ ∧
      difI2cWriteByteRaw .object byte flags = .write32 fdataRegOffset word (.ret .kDifOk) := by
  have parsed : parseFlags flags 0 = (.kDifOk, (parseFlags flags 0).2) := Prod.ext agree rfl
  refine ⟨_, (entry_fbyte _ byte).trans (congrArg (Entry.mk byte) (entry_parseFlags parsed)), ?_⟩
  unfold difI2cWriteByteRaw
  rw [parsed]
  rfl

/-- A single entry finds room if there is some. -/
theorem live_difI2cWriteByteRaw (done : List Entry) {byte : BitVec 8}
    (agree : (parseFlags flags 0).1 = .kDifOk)
    (asked : done ++ [⟨byte, flags⟩] <+: entries) :
    WriteLive entries (Filled done (free + 1)) (difI2cWriteByteRaw .object byte flags)
      (fun result s => result = .kDifOk ∧ Filled (done ++ [⟨byte, flags⟩]) free s) := by
  rcases difI2cWriteByteRaw_accepted byte agree with ⟨word, entry, program⟩
  rw [program]
  refine live_push ((List.prefix_append done _).trans asked) ?_
  rw [entry]
  exact Live.ret (keeps_filled asked _) (fun _ filled => ⟨rfl, filled⟩)

end Call

/-! ## Whole calls -/

/-- A write that finds room, from the beginning. -/
theorem writesOut_of_live {entries : List Entry} {reported : α -> Nat} {program : Mmio α}
    {host : Host} {free : Nat} (room : free <= paramFifoDepth.toNat - host.fmt.length)
    (live : WriteLive entries (Filled [] free) program
      (fun value s => (entered s.2).length = reported value)) :
    forall config, Reaches (Remembering hostDevice Drains) (program, host, []) config ->
      WritesOut entries reported config := by
  intro config reaches
  have all := live (host, []) ⟨rfl, rfl, room⟩ config reaches
  exact ⟨all.1.1, all.1.2, all.2.1⟩

/-- The next access pushes an entry. -/
def PushesNext (program : Mmio α) : Prop :=
  Exists fun word => Exists fun next => program = .write32 fdataRegOffset word next

theorem PushesNext.bind {β : Type} {first : Mmio α} (pushes : PushesNext first)
    (next : α -> Mmio β) : PushesNext (first >>= next) := by
  rcases pushes with ⟨word, rest, rfl⟩
  exact ⟨word, _, rfl⟩

theorem pushesNext_difI2cWriteByteRaw {flags : DifI2cFmtFlags} (byte : BitVec 8)
    (agree : (parseFlags flags 0).1 = .kDifOk) :
    PushesNext (difI2cWriteByteRaw .object byte flags) := by
  rcases difI2cWriteByteRaw_accepted byte agree with ⟨word, -, program⟩
  exact ⟨word, _, program⟩

theorem pushesNext_difI2cWriteBytesRaw {i2c bytes : Pointer} {content : List (BitVec 8)}
    {flags : DifI2cFmtFlags} (accepted : ¬ Refused i2c bytes content flags) :
    PushesNext (difI2cWriteBytesRaw i2c bytes content flags) := by
  rcases difI2cWriteBytesRaw_accepted accepted with ⟨fmtByte, -, program⟩
  rw [program]
  cases content with
  | nil => exact absurd (.inr (.inr (.inl rfl))) accepted
  | cons byte content => exact ⟨_, _, rfl⟩

/-- An entry pushed onto a full FIFO is lost. -/
theorem PushesNext.lost {entries : List Entry} {reported : α -> Nat} {program : Mmio α}
    {s : Host × HostLog} (pushes : PushesNext program) (full : ¬ s.1.HasRoom)
    (sofar : entered s.2 = pushed s.2) :
    Exists fun config => Step (Remembering hostDevice Drains) (program, s) config ∧
      ¬ WritesOut entries reported config := by
  rcases pushes with ⟨word, next, rfl⟩
  refine ⟨_, .write32 _ _ _ _ trivial, fun written => ?_⟩
  have same : entered (s.2 ++ [(.write32 fdataRegOffset word, s.1)]) =
      pushed (s.2 ++ [(.write32 fdataRegOffset word, s.1)]) := written.2.1
  have lengths := congrArg List.length same
  rw [entered_full full, pushed_push, sofar, List.length_append, List.length_singleton] at lengths
  omega

/-- The number of bytes that `dif_i2c_write_bytes_raw` reports as written. -/
def bytesWritten (content : List (BitVec 8)) (result : DifResult) : Nat :=
  if result = .kDifOk then content.length else 0

/-- The bytes reach the FIFO exactly if the call is refused or the FIFO is not
full to begin with. -/
theorem writesOut_difI2cWriteBytesRaw (i2c bytes : Pointer) (content : List (BitVec 8))
    (flags : DifI2cFmtFlags) (host : Host) :
    (forall config, Reaches (Remembering hostDevice Drains)
        (difI2cWriteBytesRaw i2c bytes content flags, host, []) config ->
        WritesOut (content.map (⟨·, flags⟩)) (bytesWritten content) config) ↔
      Refused i2c bytes content flags ∨ host.HasRoom := by
  by_cases refused : Refused i2c bytes content flags
  · refine ⟨fun _ => .inl refused, fun _ => writesOut_of_live (Nat.zero_le _) ?_⟩
    rcases difI2cWriteBytesRaw_refused refused with ⟨result, bad, program⟩
    rw [program]
    refine Live.ret (keeps_filled List.nil_prefix _) (fun s filled => ?_)
    rw [filled.entered, bytesWritten, if_neg bad]
    rfl
  · by_cases room : host.HasRoom
    · refine ⟨fun _ => .inr room, fun _ => writesOut_of_live (Nat.sub_pos_of_lt room) ?_⟩
      refine (live_difI2cWriteBytesRaw [] refused List.prefix_rfl).consequence
        (fun _ filled => filled) ?_
      rintro result s ⟨rfl, filled⟩
      rw [filled.entered, List.nil_append, List.length_map]
      exact (if_pos rfl).symm
    · refine ⟨fun written => ?_, fun either => (either.elim refused room).elim⟩
      rcases (pushesNext_difI2cWriteBytesRaw refused).lost (s := (host, [])) room rfl with
        ⟨config, step, wrong⟩
      exact absurd (written config (.single step)) wrong

end I2c
end SunburstChip
