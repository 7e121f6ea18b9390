import SunburstChip.Dif.SpiHost
import Mathlib.Data.List.Forall2

namespace SunburstChip
namespace SpiHost

open Mmio

/-!
# The commands of a transaction

Which words a transaction writes to `COMMAND` depends on its segments alone:
every other access is a wait or moves data.  So the commands can be attributed
to the segments that issued them, and whether they frame the transaction as
its caller asked for can be read off the lengths in the segment list.
-/

/-! ## What a command asks for -/

/-- The bytes, or dummy cycles, that a command asks for. -/
def commandLength (command : BitVec 32) : Nat :=
  (bitfieldField32Read command commandLenField).toNat + 1

def commandSpeed (command : BitVec 32) : BitVec 32 :=
  bitfieldField32Read command commandSpeedField

def commandDirection (command : BitVec 32) : BitVec 32 :=
  bitfieldField32Read command commandDirectionField

/-- Chip select stays asserted after the command. -/
def commandCsaat (command : BitVec 32) : Bool := bitfieldBit32Read command commandCsaatBit

theorem commandCsaat_commandReg (length : BitVec 16) (speed : Width) (direction : Direction)
    (lastSegment : Bool) :
    commandCsaat (commandReg length speed direction lastSegment) = !lastSegment :=
  bitfieldBit32Read_write_same (by decide) _ _

theorem commandDirection_commandReg (length : BitVec 16) (speed : Width) (direction : Direction)
    (lastSegment : Bool) :
    commandDirection (commandReg length speed direction lastSegment) = direction.toWord := by
  unfold commandDirection commandReg bitfieldBit32Write
  rw [bitfieldField32Read_write_other (by decide), bitfieldField32Read_write_same (by decide)]
  cases direction <;> decide

theorem commandSpeed_commandReg (length : BitVec 16) (speed : Width) (direction : Direction)
    (lastSegment : Bool) :
    commandSpeed (commandReg length speed direction lastSegment) = speed.toWord := by
  unfold commandSpeed commandReg bitfieldBit32Write
  rw [bitfieldField32Read_write_other (by decide), bitfieldField32Read_write_other (by decide),
    bitfieldField32Read_write_same (by decide)]
  cases speed <;> decide

/-- The minus-one encoding is exact on every length but zero, which becomes
the longest command there is. -/
theorem commandLength_commandReg (length : BitVec 16) (speed : Width) (direction : Direction)
    (lastSegment : Bool) :
    commandLength (commandReg length speed direction lastSegment) =
      if length = 0 then 2 ^ 20 else length.toNat := by
  unfold commandLength commandReg bitfieldBit32Write
  rw [bitfieldField32Read_write_other (by decide), bitfieldField32Read_write_other (by decide),
    bitfieldField32Read_write_other (by decide), bitfieldField32Read_write_same (by decide),
    toNat_and_mask (show commandLenField.mask.toNat = 2 ^ 20 - 1 from rfl)]
  have small := length.isLt
  have promoted : (length.setWidth 32 - 1).toNat = (2 ^ 32 - 1 + length.toNat) % 2 ^ 32 := by
    rw [BitVec.toNat_sub, BitVec.toNat_setWidth,
      Nat.mod_eq_of_lt (show length.toNat < 2 ^ 32 by omega)]
    rfl
  rw [promoted]
  by_cases zero : length = 0
  · rw [if_pos zero, zero]
    rfl
  · have positive : length.toNat ≠ 0 := fun none => zero (BitVec.eq_of_toNat_eq none)
    rw [if_neg zero]
    omega

/-! ## Programs and the commands they issue -/

/-- Started anywhere, the program adds exactly these commands. -/
def Issues {α : Type} (m : Mmio α) (group : List (BitVec 32)) : Prop :=
  forall issued, Triple device Hardware (fun controller => controller.commands = issued) m
    (fun _ controller => controller.commands = issued ++ group)

/-- Any access but a write to `COMMAND`. -/
def NoCommand : Access -> Prop
  | .write32 offset _ => offset ≠ commandRegOffset
  | .read32 _ | .write8 _ _ => True

theorem stable_commands (issued : List (BitVec 32)) :
    Stable Hardware (fun controller => controller.commands = issued) := by
  rintro controller controller' ⟨status, rxData, rfl⟩ same
  exact same

variable {α β : Type} {group : List (BitVec 32)} {t s : Controller} {segments : List Segment}
  {memory : Memory}

theorem issues_nil {m : Mmio α} (quiet : m.Within NoCommand) : Issues m [] := by
  intro issued
  rw [List.append_nil]
  refine Triple.invariant (stable_commands issued) ?_ quiet
  intro access controller allowed same
  cases access with
  | read32 offset =>
      simp only [Device.after, device]
      split <;> exact same
  | write32 offset value =>
      simp only [Device.after, device]
      split
      · exact same
      · exact absurd rfl allowed
      · exact same
      · exact same
  | write8 offset value =>
      simp only [Device.after, device]
      split <;> exact same

theorem issues_bind {m : Mmio α} {f : α -> Mmio β} {group' : List (BitVec 32)}
    (first : Issues m group) (rest : forall a, Issues (f a) group') :
    Issues (m >>= f) (group ++ group') := by
  intro issued
  rw [<- List.append_assoc]
  exact Triple.bind (first issued) (fun a => rest a (issued ++ group))

theorem issues_bind_quiet {m : Mmio α} {f : α -> Mmio β} (first : Issues m group)
    (rest : forall a, (f a).Within NoCommand) :
    Issues (m >>= f) group := by
  rw [<- List.append_nil group]
  exact issues_bind first (fun a => issues_nil (rest a))

theorem issues_quiet_bind {m : Mmio α} {f : α -> Mmio β} (first : m.Within NoCommand)
    (rest : forall a, Issues (f a) group) :
    Issues (m >>= f) group :=
  issues_bind (issues_nil first) rest

theorem issues_writeCommandReg (length : BitVec 16) (speed : Width) (direction : Direction)
    (lastSegment : Bool) :
    Issues (writeCommandReg length speed direction lastSegment)
      [commandReg length speed direction lastSegment] := by
  intro issued
  refine Triple.write32 (fun controller => controller.commands =
    issued ++ [commandReg length speed direction lastSegment]) (stable_commands issued) ?_ ?_
  · intro controller same
    exact congrArg (· ++ [_]) same
  · exact Triple.ret (stable_commands _) (fun _ same => same)

/-! ## The data phase issues no command -/

theorem quiet_txFifoWrite8 (memory : Memory) (ptr : BitVec 32) :
    (txFifoWrite8 memory ptr).Within NoCommand :=
  ⟨trivial, fun _ => ⟨trivial, trivial⟩⟩

theorem quiet_txFifoWrite32 (memory : Memory) (ptr : BitVec 32) :
    (txFifoWrite32 memory ptr).Within NoCommand :=
  ⟨trivial, fun _ => ⟨show txdataRegOffset ≠ commandRegOffset by decide, trivial⟩⟩

theorem quiet_writeUntilAligned (memory : Memory) (ptr : BitVec 32) (len : Nat) :
    (writeUntilAligned memory ptr len).Within NoCommand := by
  induction len generalizing ptr with
  | zero => trivial
  | succ len ih =>
      unfold writeUntilAligned
      split
      · exact within_bind (quiet_txFifoWrite8 memory ptr) (fun _ => ih _)
      · trivial

theorem quiet_writeWords (memory : Memory) (ptr : BitVec 32) (len : Nat) :
    (writeWords memory ptr len).Within NoCommand := by
  induction ptr, len using writeWords.induct with
  | case1 ptr len ih =>
      exact within_bind (quiet_txFifoWrite32 memory ptr) (fun _ => ih)
  | case2 ptr len short =>
      unfold writeWords
      split
      · exact absurd rfl (short _)
      · trivial

theorem quiet_writeBytes (memory : Memory) (ptr : BitVec 32) (len : Nat) :
    (writeBytes memory ptr len).Within NoCommand := by
  induction len generalizing ptr with
  | zero => trivial
  | succ len ih =>
      exact within_bind (quiet_txFifoWrite8 memory ptr) (fun _ => ih _)

theorem quiet_fifoWrite (spiHost : Pointer) (memory : Memory) (src : BitVec 32)
    (len : BitVec 16) : (difSpiHostFifoWrite spiHost memory src len).Within NoCommand := by
  unfold difSpiHostFifoWrite
  split
  · trivial
  · refine within_bind (quiet_writeUntilAligned _ _ _) (fun aligned => ?_)
    refine within_bind (quiet_writeWords _ _ _) (fun words => ?_)
    exact within_bind (quiet_writeBytes _ _ _) (fun _ => trivial)

theorem quiet_refill (needed : Nat) (queue : Queue) :
    (refill needed queue).Within NoCommand := by
  unfold refill
  split
  · exact ⟨trivial, fun _ => ⟨trivial, fun _ => trivial⟩⟩
  · trivial

theorem quiet_readUntilAligned (queue : Queue) (ptr : BitVec 32) (len : Nat) (stores : Stores) :
    (readUntilAligned queue ptr len stores).Within NoCommand := by
  induction len generalizing queue ptr stores with
  | zero => trivial
  | succ len ih =>
      unfold readUntilAligned
      split
      · exact within_bind (quiet_refill 1 queue) (fun _ => ih _ _ _)
      · trivial

theorem quiet_readWords (queue : Queue) (ptr : BitVec 32) (len : Nat) (stores : Stores) :
    (readWords queue ptr len stores).Within NoCommand := by
  induction queue, ptr, len, stores using readWords.induct with
  | case1 queue ptr len stores ih =>
      exact within_bind (quiet_refill 4 queue) (fun queue => ih _ _)
  | case2 queue ptr len stores short =>
      unfold readWords
      split
      · exact absurd rfl (short _)
      · trivial

theorem quiet_readBytes (queue : Queue) (ptr : BitVec 32) (len : Nat) (stores : Stores) :
    (readBytes queue ptr len stores).Within NoCommand := by
  induction len generalizing queue ptr stores with
  | zero => trivial
  | succ len ih =>
      exact within_bind (quiet_refill 1 queue) (fun _ => ih _ _ _)

theorem quiet_fifoRead (spiHost : Pointer) (dst : BitVec 32) (len : BitVec 16) :
    (difSpiHostFifoRead spiHost dst len).Within NoCommand := by
  unfold difSpiHostFifoRead
  split
  · trivial
  · refine within_bind (quiet_readUntilAligned _ _ _ _) (fun aligned => ?_)
    refine within_bind (quiet_readWords _ _ _ _) (fun words => ?_)
    exact within_bind (quiet_readBytes _ _ _ _) (fun _ => trivial)

theorem quiet_receiveSegments (segments : List Segment) :
    (receiveSegments segments).Within NoCommand := by
  induction segments with
  | nil => trivial
  | cons segment rest ih =>
      refine within_bind ?_ (fun _ => within_bind ih (fun _ => trivial))
      cases segment with
      | rx | bidir => exact within_bind (quiet_fifoRead _ _ _) (fun _ => trivial)
      | opcode | address | dummy | tx | other => trivial

/-! ## The commands of one segment -/

/-- The words a segment writes to `COMMAND`. -/
def commandsOf (segment : Segment) (lastSegment : Bool) : List (BitVec 32) :=
  match segment with
  | .opcode width _ => [commandReg 1 width .kDifSpiHostDirectionTx lastSegment]
  | .address width .kDifSpiHostAddrMode4b _ =>
      [commandReg 4 width .kDifSpiHostDirectionTx lastSegment]
  | .address width .kDifSpiHostAddrMode3b _ =>
      [commandReg 3 width .kDifSpiHostDirectionTx lastSegment]
  | .dummy width length =>
      if 0 < length then
        [commandReg (length.setWidth 16) width .kDifSpiHostDirectionDummy lastSegment]
      else []
  | .tx width _ length =>
      [commandReg (length.setWidth 16) width .kDifSpiHostDirectionTx lastSegment]
  | .rx width _ length =>
      [commandReg (length.setWidth 16) width .kDifSpiHostDirectionRx lastSegment]
  | .bidir width _ _ length =>
      [commandReg (length.setWidth 16) width .kDifSpiHostDirectionBidirectional lastSegment]
  | .other => []

theorem issues_issueSegment (memory : Memory) (segment : Segment) (lastSegment : Bool) :
    Issues (issueSegment memory segment lastSegment) (commandsOf segment lastSegment) := by
  have quiet_waitReady : waitReady.Within NoCommand := ⟨trivial, fun _ => trivial⟩
  have quiet_waitTxFifo : waitTxFifo.Within NoCommand := ⟨trivial, fun _ => trivial⟩
  have quiet_word : forall value, (mmioRegionWrite32 txdataRegOffset value).Within NoCommand :=
    fun _ => ⟨show txdataRegOffset ≠ commandRegOffset by decide, trivial⟩
  refine issues_quiet_bind quiet_waitReady (fun _ => ?_)
  cases segment with
  | opcode width opcode =>
      refine issues_bind_quiet (issues_quiet_bind quiet_waitTxFifo fun _ => ?_) (fun _ => trivial)
      exact issues_quiet_bind ⟨trivial, trivial⟩ (fun _ => issues_writeCommandReg _ _ _ _)
  | address width mode address =>
      refine issues_bind_quiet (issues_quiet_bind quiet_waitTxFifo fun _ => ?_) (fun _ => trivial)
      cases mode with
      | kDifSpiHostAddrMode4b | kDifSpiHostAddrMode3b =>
          exact issues_quiet_bind (quiet_word _) (fun _ => issues_writeCommandReg _ _ _ _)
  | dummy width length =>
      refine issues_bind_quiet ?_ (fun _ => trivial)
      by_cases positive : 0 < length
      · simp only [issueDummy, commandsOf, if_pos positive]
        exact issues_writeCommandReg _ _ _ _
      · simp only [issueDummy, commandsOf, if_neg positive]
        exact issues_nil trivial
  | tx | bidir =>
      exact issues_bind_quiet (issues_writeCommandReg _ _ _ _)
        (fun _ => within_bind (quiet_fifoWrite _ _ _ _) (fun _ => trivial))
  | rx => exact issues_bind_quiet (issues_writeCommandReg _ _ _ _) (fun _ => trivial)
  | other => exact issues_nil trivial

/-! ## Attributing the commands of a transaction -/

/-- `Issued memory length i s segments groups t`: from `s` the loop issued the
segments from index `i` on, all successfully, and the iteration of each of
them added the commands of its group. -/
inductive Issued (memory : Memory) (length : Nat) :
    Nat -> Controller -> List Segment -> List (List (BitVec 32)) -> Controller -> Prop where
  | nil (i : Nat) (s : Controller) : Issued memory length i s [] [] s
  | cons {i : Nat} {s s' t : Controller} {segment : Segment} {segments : List Segment}
      {group : List (BitVec 32)} {groups : List (List (BitVec 32))}
      (execution :
        Exec device Hardware s (issueSegment memory segment (i == length - 1)) s' .kDifOk)
      (added : s'.commands = s.commands ++ group)
      (rest : Issued memory length (i + 1) s' segments groups t) :
      Issued memory length i s (segment :: segments) (group :: groups) t

/-- Every successful run of the loop attributes its commands. -/
theorem exists_issued {length i : Nat}
    (execution : Exec device Hardware s (issueSegments memory length i segments) t .kDifOk) :
    Exists fun groups => Exists fun t' => Issued memory length i s segments groups t' ∧
      t.commands = s.commands ++ groups.flatten := by
  induction segments generalizing i s with
  | nil =>
      have quiet : (issueSegments memory length i []).Within NoCommand := trivial
      exact ⟨[], s, .nil i s, issues_nil quiet s.commands s t _ rfl execution⟩
  | cons segment rest ih =>
      rcases exec_bind execution with ⟨s', error, first, later⟩
      by_cases success : error = .kDifOk
      · subst success
        rcases ih later with ⟨groups, t', issued, total⟩
        have added : s'.commands = s.commands ++ commandsOf segment (i == length - 1) :=
          issues_issueSegment memory segment _ s.commands s s' _ rfl first
        refine ⟨_ :: groups, t', .cons first added issued, ?_⟩
        rw [total, added, List.flatten_cons, List.append_assoc]
      · rw [if_pos success] at later
        exact absurd (exec_ret later).1.symm success

/-- The commands of the segments, in order. -/
def commandsOfAll : List Segment -> List (List (BitVec 32))
  | [] => []
  | segment :: rest => commandsOf segment rest.isEmpty :: commandsOfAll rest

theorem Issued.groups_eq {length i : Nat} {groups : List (List (BitVec 32))}
    (issued : Issued memory length i s segments groups t) (position : i + segments.length = length) :
    groups = commandsOfAll segments := by
  induction issued with
  | nil => rfl
  | @cons i s s' t segment segments group groups execution added rest ih =>
      have last : (i == length - 1) = segments.isEmpty := by
        cases segments with
        | nil => simp [<- position]
        | cons next later =>
            have before : i ≠ length - 1 := by
              rw [<- position, List.length_cons, List.length_cons]
              omega
            simp [before]
      have issues : s'.commands = s.commands ++ commandsOf segment (i == length - 1) :=
        issues_issueSegment memory segment _ s.commands s s' _ rfl execution
      rw [added, last] at issues
      rw [commandsOfAll, List.append_cancel_left issues, ih]
      rw [<- position, List.length_cons]
      omega

/-! ## Framing -/

namespace Segment

/-- The bytes or dummy cycles the caller asks for. -/
def length : Segment -> Nat
  | .opcode .. => 1
  | .address _ .kDifSpiHostAddrMode4b _ => 4
  | .address _ .kDifSpiHostAddrMode3b _ => 3
  | .dummy _ length | .tx _ _ length | .rx _ _ length | .bidir _ _ _ length => length.toNat
  | .other => 0

def width : Segment -> Width
  | .opcode width _ | .address width _ _ | .dummy width _ | .tx width _ _ | .rx width _ _
  | .bidir width _ _ _ => width
  | .other => .kDifSpiHostWidthStandard

def direction : Segment -> Direction
  | .opcode .. | .address .. | .tx .. => .kDifSpiHostDirectionTx
  | .rx .. => .kDifSpiHostDirectionRx
  | .bidir .. => .kDifSpiHostDirectionBidirectional
  | .dummy .. | .other => .kDifSpiHostDirectionDummy

/-- The commands are of the segment's direction and width, and ask for its
length in all. -/
def Carries (segment : Segment) (group : List (BitVec 32)) : Prop :=
  (forall command, command ∈ group -> commandDirection command = segment.direction.toWord ∧
    commandSpeed command = segment.width.toWord) ∧
  (group.map commandLength).sum = segment.length

/-- The segment is a dummy of no cycles, which issues no command. -/
def Skipped : Segment -> Bool
  | .dummy _ length => length == 0
  | .other => true
  | _ => false

/-- A length that the sixteen bits and the minus-one encoding carry: one of
1 to 65535, or 2^20, which the wrapped encoding of zero happens to mean. -/
def EncodableLength (length : BitVec 32) : Prop :=
  (0 < length.toNat ∧ length.toNat < 2 ^ 16) ∨ length.toNat = 2 ^ 20

/-- The commands of the segment ask for its length. -/
def Fits : Segment -> Prop
  | .opcode .. | .address .. | .other => True
  | .dummy _ length => length = 0 ∨ EncodableLength length
  | .tx _ _ length | .rx _ _ length | .bidir _ _ _ length => EncodableLength length

end Segment

/-- Only the last command lets go of chip select. -/
def Released (commands : List (BitVec 32)) : Prop :=
  forall before command after, commands = before ++ command :: after ->
    (commandCsaat command = false ↔ after = [])

/-- The groups of commands that the segments issued frame the transaction. -/
structure Framed (segments : List Segment) (groups : List (List (BitVec 32))) : Prop where
  carries : List.Forall₂ Segment.Carries segments groups
  released : Released groups.flatten

/-- The list ends in a segment that issues a command, or no segment does. -/
def EndsIssuing (segments : List Segment) : Prop :=
  forall last, segments.getLast? = some last -> last.Skipped = true ->
    forall segment, segment ∈ segments -> segment.Skipped = true

/-- What the lengths in the list have to be like: each is carried by the
encoding, and the list does not end in a dummy of no cycles after a segment
that issues a command. -/
structure FramingCondition (segments : List Segment) : Prop where
  fits : forall segment, segment ∈ segments -> segment.Fits
  ends : EndsIssuing segments

theorem commandLength_setWidth_iff (length : BitVec 32) (speed : Width) (direction : Direction)
    (lastSegment : Bool) :
    commandLength (commandReg (length.setWidth 16) speed direction lastSegment) = length.toNat ↔
      Segment.EncodableLength length := by
  rw [commandLength_commandReg]
  have truncated : (length.setWidth 16).toNat = length.toNat % 2 ^ 16 := BitVec.toNat_setWidth _ _
  have zero : length.setWidth 16 = 0 ↔ length.toNat % 2 ^ 16 = 0 := by
    rw [<- truncated]
    exact ⟨fun same => congrArg BitVec.toNat same, fun none => BitVec.eq_of_toNat_eq none⟩
  unfold Segment.EncodableLength
  rw [truncated]
  by_cases wraps : length.toNat % 2 ^ 16 = 0
  · rw [if_pos (zero.mpr wraps)]
    omega
  · rw [if_neg (fun none => wraps (zero.mp none))]
    omega

/-- A single command carries a segment exactly if it asks for the length. -/
theorem carries_single {segment : Segment} {length : BitVec 16} (lastSegment : Bool) :
    segment.Carries [commandReg length segment.width segment.direction lastSegment] ↔
      commandLength (commandReg length segment.width segment.direction lastSegment) =
        segment.length := by
  constructor
  · intro carries
    have total := carries.2
    rwa [List.map_singleton, List.sum_singleton] at total
  · intro same
    refine ⟨?_, by rwa [List.map_singleton, List.sum_singleton]⟩
    intro command inside
    rw [List.mem_singleton.mp inside]
    exact ⟨commandDirection_commandReg _ _ _ _, commandSpeed_commandReg _ _ _ _⟩

theorem carries_commandsOf_iff (segment : Segment) (lastSegment : Bool) :
    segment.Carries (commandsOf segment lastSegment) ↔ segment.Fits := by
  cases segment with
  | opcode width opcode =>
      exact (carries_single lastSegment).trans
        ⟨fun _ => trivial, fun _ => commandLength_commandReg _ _ _ _⟩
  | address width mode address =>
      cases mode with
      | kDifSpiHostAddrMode4b | kDifSpiHostAddrMode3b =>
          exact (carries_single lastSegment).trans
            ⟨fun _ => trivial, fun _ => commandLength_commandReg _ _ _ _⟩
  | dummy width length =>
      by_cases positive : 0 < length
      · have nonzero : length ≠ 0 := by
          rintro rfl
          exact absurd positive (by decide)
        simp only [commandsOf, if_pos positive, Segment.Fits]
        rw [or_iff_right nonzero]
        exact (carries_single lastSegment).trans (commandLength_setWidth_iff length _ _ _)
      · have zero : length = 0 := by
          apply BitVec.eq_of_toNat_eq
          simpa [BitVec.lt_def] using positive
        subst zero
        exact ⟨fun _ => Or.inl rfl, fun _ => ⟨fun _ inside => absurd inside (by simp [commandsOf]), rfl⟩⟩
  | tx | rx | bidir =>
      exact (carries_single lastSegment).trans (commandLength_setWidth_iff _ _ _ _)
  | other => exact ⟨fun _ => trivial, fun _ => ⟨fun _ inside => absurd inside (by simp [commandsOf]), rfl⟩⟩

theorem forall₂_commandsOfAll_iff (segments : List Segment) :
    List.Forall₂ Segment.Carries segments (commandsOfAll segments) ↔
      forall segment, segment ∈ segments -> segment.Fits := by
  induction segments with
  | nil => exact ⟨fun _ segment inside => absurd inside (by simp), fun _ => .nil⟩
  | cons segment rest ih =>
      rw [commandsOfAll, List.forall₂_cons, carries_commandsOf_iff, ih, List.forall_mem_cons]

/-! ## Releasing chip select -/

theorem released_nil : Released [] := by
  intro before command after split
  cases before <;> cases split

theorem released_cons_iff (command : BitVec 32) (rest : List (BitVec 32)) :
    Released (command :: rest) ↔ (commandCsaat command = false ↔ rest = []) ∧ Released rest := by
  constructor
  · intro released
    refine ⟨released [] command rest rfl, fun before later after split => ?_⟩
    exact released (command :: before) later after (by rw [split, List.cons_append])
  · rintro ⟨first, later⟩ before command' after split
    cases before with
    | nil =>
        cases split
        exact first
    | cons head before =>
        cases split
        exact later before command' after rfl

/-- A segment that is not skipped issues one command, which releases chip
select if the segment is the last of the list. -/
theorem commandsOf_cases (segment : Segment) (lastSegment : Bool) :
    (segment.Skipped = true ∧ commandsOf segment lastSegment = []) ∨
      (segment.Skipped = false ∧ Exists fun command =>
        commandsOf segment lastSegment = [command] ∧ commandCsaat command = !lastSegment) := by
  cases segment with
  | address width mode address =>
      cases mode <;> exact Or.inr ⟨rfl, _, rfl, commandCsaat_commandReg _ _ _ _⟩
  | dummy width length =>
      by_cases positive : 0 < length
      · refine Or.inr ⟨?_, _, if_pos positive, commandCsaat_commandReg _ _ _ _⟩
        have nonzero : length ≠ 0 := by
          rintro rfl
          exact absurd positive (by decide)
        simpa [Segment.Skipped] using nonzero
      · refine Or.inl ⟨?_, if_neg positive⟩
        have zero : length = 0 := by
          apply BitVec.eq_of_toNat_eq
          simpa [BitVec.lt_def] using positive
        simp [Segment.Skipped, zero]
  | opcode | tx | rx | bidir => exact Or.inr ⟨rfl, _, rfl, commandCsaat_commandReg _ _ _ _⟩
  | other => exact Or.inl ⟨rfl, rfl⟩

theorem flatten_commandsOfAll_eq_nil_iff (segments : List Segment) :
    (commandsOfAll segments).flatten = [] ↔
      forall segment, segment ∈ segments -> segment.Skipped = true := by
  induction segments with
  | nil => simp [commandsOfAll]
  | cons segment rest ih =>
      rw [commandsOfAll, List.flatten_cons, List.append_eq_nil_iff, ih, List.forall_mem_cons]
      rcases commandsOf_cases segment rest.isEmpty with ⟨skipped, none⟩ | ⟨issued, command, one, _⟩
      · rw [skipped, none]
        simp
      · rw [issued, one]
        simp

theorem endsIssuing_cons_iff (segment next : Segment) (rest : List Segment) :
    EndsIssuing (segment :: next :: rest) ↔
      if segment.Skipped = true then EndsIssuing (next :: rest)
      else (commandsOfAll (next :: rest)).flatten ≠ [] ∧ EndsIssuing (next :: rest) := by
  rw [ne_eq, flatten_commandsOfAll_eq_nil_iff]
  unfold EndsIssuing
  rw [List.getLast?_cons_cons]
  split
  · next skipped =>
      constructor
      · intro ends last isLast empty present inside
        exact ends last isLast empty present (List.mem_cons_of_mem _ inside)
      · intro ends last isLast empty
        exact List.forall_mem_cons.mpr ⟨skipped, ends last isLast empty⟩
  · next issued =>
      have some' : (next :: rest).getLast? = some ((next :: rest).getLast (by simp)) :=
        List.getLast?_eq_some_getLast _
      have inside : (next :: rest).getLast (by simp) ∈ next :: rest := List.getLast_mem _
      constructor
      · intro ends
        refine ⟨fun all => issued ?_, fun last isLast empty => ?_⟩
        · exact ends _ some' (all _ inside) segment List.mem_cons_self
        · exact absurd (ends last isLast empty segment List.mem_cons_self) issued
      · rintro ⟨notAll, ends⟩ last isLast empty
        exact absurd (ends last isLast empty) notAll

theorem released_commandsOfAll_iff (segments : List Segment) :
    Released (commandsOfAll segments).flatten ↔ EndsIssuing segments := by
  induction segments with
  | nil => exact ⟨fun _ last none => absurd none (by simp), fun _ => released_nil⟩
  | cons segment rest ih =>
      cases rest with
      | nil =>
          refine ⟨fun _ last single skipped => ?_, fun _ => ?_⟩
          · cases single
            exact fun present inside => List.mem_singleton.mp inside ▸ skipped
          · change Released (commandsOf segment true ++ [])
            rcases commandsOf_cases segment true with ⟨_, none⟩ | ⟨_, command, one, csaat⟩
            · rw [none]
              exact released_nil
            · rw [one]
              exact (released_cons_iff command []).mpr ⟨⟨fun _ => rfl, fun _ => csaat⟩, released_nil⟩
      | cons next rest =>
          rw [endsIssuing_cons_iff, <- ih]
          change Released (commandsOf segment false ++ (commandsOfAll (next :: rest)).flatten) ↔ _
          rcases commandsOf_cases segment false with ⟨skipped, none⟩ | ⟨issued, command, one, csaat⟩
          · rw [none, if_pos skipped, List.nil_append]
          · rw [one, if_neg (by simp [issued]), List.singleton_append, released_cons_iff, csaat]
            simp

/-! ## Exactly when a transaction is framed -/

/-- The first loop of an execution of a transaction, with what it attributes
to the segments: `groups` are the commands each segment of the list issued. -/
def Attributes (memory : Memory) (csid : BitVec 32) (segments : List Segment) (s t : Controller)
    (groups : List (List (BitVec 32))) : Prop :=
  Exists fun s' => Exists fun t' =>
    Exec device Hardware s (mmioRegionWrite32 csidRegOffset csid) s' () ∧
      Issued memory segments.length 0 s' segments groups t' ∧
      t.commands = s.commands ++ groups.flatten

theorem Attributes.framed_iff {csid : BitVec 32} {groups : List (List (BitVec 32))}
    (attributes : Attributes memory csid segments s t groups) :
    Framed segments groups ↔ FramingCondition segments := by
  rcases attributes with ⟨s', t', _, issued, _⟩
  rw [issued.groups_eq (Nat.zero_add _)]
  constructor
  · intro framed
    exact ⟨(forall₂_commandsOfAll_iff segments).mp framed.carries,
      (released_commandsOfAll_iff segments).mp framed.released⟩
  · intro condition
    exact ⟨(forall₂_commandsOfAll_iff segments).mpr condition.fits,
      (released_commandsOfAll_iff segments).mpr condition.ends⟩

theorem exists_attributes {csid : BitVec 32} {stores : Stores}
    (execution : Exec device Hardware s (difSpiHostTransaction memory csid segments) t
      (.kDifOk, stores)) :
    Exists fun groups => Attributes memory csid segments s t groups := by
  rcases exec_bind execution with ⟨s', _, select, later⟩
  rcases exec_bind later with ⟨t', error, loop, last⟩
  by_cases success : error = .kDifOk
  · subst success
    rcases exists_issued loop with ⟨groups, end', issued, total⟩
    have selected : s'.commands = s.commands := by
      have quiet : (mmioRegionWrite32 csidRegOffset csid).Within NoCommand :=
        ⟨show csidRegOffset ≠ commandRegOffset by decide, trivial⟩
      simpa using issues_nil quiet s.commands s s' _ rfl select
    have received : t.commands = t'.commands := by
      rcases exec_bind last with ⟨middle, values, read, finish⟩
      have quiet := quiet_receiveSegments segments
      have kept : (Mmio.ret (DifResult.kDifOk, values)).Within NoCommand := trivial
      have reading : middle.commands = t'.commands := by
        simpa using issues_nil quiet t'.commands t' middle _ rfl read
      simpa [reading] using issues_nil kept middle.commands middle t _ rfl finish
    exact ⟨groups, s', end', select, issued, by rw [received, total, selected]⟩
  · rw [if_pos success] at last
    have returned := (exec_ret last).1
    exact absurd (congrArg Prod.fst returned).symm success

/-- In every execution of a transaction that returns `kDifOk`, the commands
can be attributed to the segments, and they frame the transaction if and only
if the lengths in the segment list allow it. -/
theorem transaction_framed_iff {memory : Memory} {csid : BitVec 32} {segments : List Segment}
    {s t : Controller} {stores : Stores}
    (execution : Exec device Hardware s (difSpiHostTransaction memory csid segments) t
      (.kDifOk, stores)) :
    (Exists fun groups => Attributes memory csid segments s t groups) ∧
      forall groups, Attributes memory csid segments s t groups ->
        (Framed segments groups ↔ FramingCondition segments) :=
  ⟨exists_attributes execution, fun _ attributes => attributes.framed_iff⟩

/-- A controller that is always ready. -/
def readyController : Controller := ⟨0x80000000, 0, 0, [], []⟩

/-- Transmitting nothing, from any buffer. -/
def emptyTransmit : List Segment := [.tx .kDifSpiHostWidthStandard 0x1000 0]

theorem exec_emptyTransmit :
    Exec device Hardware readyController (difSpiHostTransaction (fun _ => 0) 0 emptyTransmit)
      { readyController with commands := [0x01fffff0] } (.kDifOk, []) :=
  exec_of_run rfl

/-- The transaction that transmits nothing returns `kDifOk` and asks the
controller for 2^20 bytes. -/
theorem emptyTransmit_not_framed :
    Exec device Hardware readyController (difSpiHostTransaction (fun _ => 0) 0 emptyTransmit)
      { readyController with commands := [0x01fffff0] } (.kDifOk, []) ∧
    Exists fun groups => Attributes (fun _ => 0) 0 emptyTransmit readyController
        { readyController with commands := [0x01fffff0] } groups ∧
      ¬ Framed emptyTransmit groups := by
  rcases exists_attributes exec_emptyTransmit with ⟨groups, attributes⟩
  refine ⟨exec_emptyTransmit, groups, attributes, fun framed => ?_⟩
  have fits := (attributes.framed_iff.mp framed).fits _ (List.mem_singleton_self _)
  exact absurd fits (by simp [Segment.Fits, Segment.EncodableLength])

theorem transaction_framed_iff_emptyTransmit :
    (Exists fun groups => Attributes (fun _ => 0) 0 emptyTransmit readyController
        { readyController with commands := [0x01fffff0] } groups) ∧
      forall groups, Attributes (fun _ => 0) 0 emptyTransmit readyController
        { readyController with commands := [0x01fffff0] } groups ->
        (Framed emptyTransmit groups ↔ FramingCondition emptyTransmit) :=
  transaction_framed_iff exec_emptyTransmit

end SpiHost
end SunburstChip
