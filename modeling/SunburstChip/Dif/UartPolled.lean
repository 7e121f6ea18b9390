import SunburstChip.Dif.Uart
import SunburstChip.Lib.Interleaving

namespace SunburstChip
namespace Uart

open Mmio

/-!
# Polled output and an interrupt handler

`dif_uart_byte_send_polled` waits for room in the transmit FIFO, and then sends
through a function that looks for room again, and gives up silently if there is
none.  An interrupt handler that writes to the same UART can take the last
place in between, or between the second look and the write.  The call reports
success in either case.

Output is complete in every run in which the second look and the write still
find room.
-/

/-! ## Sending a byte -/

/-- The bytes of the output that the transmit FIFO accepted, in order. -/
def outputs (uart : State) : List (BitVec 8) :=
  uart.accepted.filterMap (fun write => if write.1 = .output then some write.2 else none)

theorem outputs_output {uart : State} (room : uart.HasRoom) (byte : BitVec 8) :
    outputs (uart.send .output byte) = outputs uart ++ [byte] := by
  rw [send_accepted room]
  exact List.filterMap_append

theorem outputs_flowControl {uart : State} (room : uart.HasRoom) (byte : BitVec 8) :
    outputs (uart.send .flowControl byte) = outputs uart := by
  rw [send_accepted room]
  unfold outputs
  rw [List.filterMap_append]
  exact List.append_nil _

section Sending

variable {world : World State} {inv : Position -> State -> Prop} {writer : Writer}

/-- Sending one byte looks for room once and writes if it found some. -/
theorem live_uartBytesSend {pre : State -> Prop} {post : Nat -> State -> Prop}
    (roomy : State -> Prop) (drives : world.device = device writer) (byte : BitVec 8)
    (keptPre : Keeps world inv (.read32 statusRegOffset) pre)
    (keptRoomy : Keeps world inv (.write32 wdataRegOffset (wdata byte)) roomy)
    (keptPost : forall count, Keeps world inv .returned (post count))
    (found : forall uart, pre uart -> world.meets (.read32 statusRegOffset) uart ->
      uart.HasRoom -> roomy uart)
    (missed : forall uart, pre uart -> world.meets (.read32 statusRegOffset) uart ->
      ¬ uart.HasRoom -> post 0 uart)
    (written : forall uart, roomy uart ->
      world.meets (.write32 wdataRegOffset (wdata byte)) uart ->
      post 1 (uart.send writer byte)) :
    Live world inv False pre (uartBytesSend [byte]) post := by
  refine Live.read32 (fun reg uart => if bitfieldBit32Read reg statusTxfullBit = true
    then post 0 uart else roomy uart) keptPre (fun never => never.elim) ?_ ?_
  · intro uart holds met
    rw [drives]
    change if bitfieldBit32Read uart.status statusTxfullBit = true then post 0 uart else roomy uart
    by_cases room : uart.HasRoom
    · rw [if_neg ((txfull_status uart).not.mpr (not_not_intro room))]
      exact found uart holds met room
    · rw [if_pos ((txfull_status uart).mpr room)]
      exact missed uart holds met room
  · intro reg
    change Live world inv False _ (if bitfieldBit32Read reg statusTxfullBit = true then _ else _) _
    by_cases full : bitfieldBit32Read reg statusTxfullBit = true
    · simp only [if_pos full]
      exact Live.ret (keptPost 0) (fun _ holds => holds)
    · simp only [if_neg full]
      refine Live.write32 (post 1) keptRoomy (fun never => never.elim) ?_ ?_
      · intro uart holds met
        rw [drives]
        have after := written uart holds met
        rw [<- wdata_byte byte] at after
        exact after
      · exact Live.ret (keptPost 1) (fun _ holds => holds)

end Sending

/-! ## The handler -/

/-- Nothing was lost, and this is the output so far. -/
def Sent (output : List (BitVec 8)) (uart : State) : Prop :=
  uart.lost = [] ∧ outputs uart = output

theorem Sent.hardware {output : List (BitVec 8)} {uart uart' : State} (sent : Sent output uart)
    (move : Hardware uart uart') : Sent output uart' := by
  refine ⟨move.lost_eq.trans sent.1, ?_⟩
  unfold outputs
  rw [move.accepted_eq]
  exact sent.2

/-- The handler writes one byte to the UART, if there is room for it. -/
def Interrupted (uart uart' : State) : Prop :=
  Exists fun byte => Exists fun outcome =>
    Reaches (.of (device .flowControl) Hardware) (difUartBytesSend .object [byte], uart)
      (.ret outcome, uart')

/-- No part of the output is lost by a handler, which runs to its end: only
hardware moves between its look for room and its write. -/
theorem live_handler (output : List (BitVec 8)) (byte : BitVec 8) :
    Live (.of (device .flowControl) Hardware) (fun _ _ => True) False (Sent output)
      (difUartBytesSend .object [byte]) (fun _ => Sent output) := by
  have kept : forall place,
      Keeps (.of (device .flowControl) Hardware) (fun _ _ => True) place (Sent output) :=
    fun place => ⟨fun _ _ => trivial, fun _ _ move sent => sent.hardware move⟩
  have one : Live (.of (device .flowControl) Hardware) (fun _ _ => True) False (Sent output)
      (uartBytesSend [byte]) (fun _ => Sent output) := by
    refine live_uartBytesSend (fun uart => Sent output uart ∧ uart.HasRoom) rfl byte
      (kept _) ?_ (fun _ => kept _) ?_ ?_ ?_
    · exact ⟨fun _ _ => trivial, fun _ _ move both => ⟨both.1.hardware move, move.hasRoom both.2⟩⟩
    · exact fun uart sent _ room => ⟨sent, room⟩
    · exact fun uart sent _ _ => sent
    · rintro uart ⟨sent, room⟩ _
      refine ⟨?_, (outputs_flowControl room byte).trans sent.2⟩
      rw [send_accepted room]
      exact sent.1
  exact Live.bind one (fun _ => Live.ret (kept _) (fun _ sent => sent))

theorem Sent.interrupted {output : List (BitVec 8)} {uart uart' : State}
    (sent : Sent output uart) (interrupted : Interrupted uart uart') : Sent output uart' := by
  rcases interrupted with ⟨byte, outcome, reaches⟩
  exact (live_handler output byte uart sent _ reaches).2.1 outcome rfl

/-! ## Polled output -/

/-- Consecutive calls of `dif_uart_byte_send_polled`, with their results. -/
def sendPolled (uart : Pointer) : List (BitVec 8) -> Mmio (List DifResult)
  | [] => return []
  | byte :: rest => do
      let result <- difUartByteSendPolled uart byte
      let results <- sendPolled uart rest
      return result :: results

/-- The bytes for which the call returned `kDifOk`. -/
def succeeded : List (BitVec 8) -> List DifResult -> List (BitVec 8)
  | byte :: bytes, result :: results =>
      if result = .kDifOk then byte :: succeeded bytes results else succeeded bytes results
  | _, _ => []

/-- Output with hardware and the handler moving before each access. -/
def polledWorld (meets : Position -> State -> Prop) : World State where
  device := device .output
  env _ uart uart' := Hardware uart uart' ∨ Interrupted uart uart'
  meets := meets

/-- The second look for room, and the write, find some. -/
def FindsRoom (place : Position) (uart : State) : Prop :=
  place = .read32 statusRegOffset ∨ (Exists fun value => place = .write32 wdataRegOffset value) ->
    uart.HasRoom

theorem kept_sent (place : Position) (output : List (BitVec 8)) :
    Keeps (polledWorld FindsRoom) (fun _ uart => uart.lost = []) place (Sent output) := by
  refine ⟨fun uart sent => sent.1, ?_⟩
  rintro uart uart' (move | interrupted) sent
  · exact sent.hardware move
  · exact sent.interrupted interrupted

/-- Where room is found, one call outputs its byte. -/
theorem live_difUartByteSendPolled (output : List (BitVec 8)) (byte : BitVec 8) :
    Live (polledWorld FindsRoom) (fun _ uart => uart.lost = []) False (Sent output)
      (difUartByteSendPolled .object byte)
      (fun result uart => result = .kDifOk ∧ Sent (output ++ [byte]) uart) := by
  have one : Live (polledWorld FindsRoom) (fun _ uart => uart.lost = []) False (Sent output)
      (uartBytesSend [byte]) (fun _ => Sent (output ++ [byte])) := by
    refine live_uartBytesSend (Sent output) rfl byte (kept_sent _ output) (kept_sent _ output)
      (fun _ => kept_sent _ _) ?_ ?_ ?_
    · exact fun uart sent _ _ => sent
    · exact fun uart sent met full => absurd (met (.inl rfl)) full
    · intro uart sent met
      have room := met (.inr ⟨_, rfl⟩)
      refine ⟨?_, (outputs_output room byte).trans (congrArg (· ++ [byte]) sent.2)⟩
      rw [send_accepted room]
      exact sent.1
  refine Live.poll32 (fun _ => Sent output) (kept_sent _ output) (fun never => never.elim)
    (fun never => never.elim) (fun uart sent _ _ => sent) (fun _ => ?_)
  rw [bind_ret]
  refine Live.bind one (fun _ => ?_)
  refine Live.poll32 (fun _ => Sent (output ++ [byte])) (kept_sent _ _) (fun never => never.elim)
    (fun never => never.elim) (fun uart sent _ _ => sent) (fun _ => ?_)
  exact Live.ret (kept_sent _ _) (fun uart sent => ⟨rfl, sent⟩)

theorem live_sendPolled (uart : Pointer) (output bytes : List (BitVec 8)) :
    Live (polledWorld FindsRoom) (fun _ uart => uart.lost = []) False (Sent output)
      (sendPolled uart bytes)
      (fun results => Sent (output ++ succeeded bytes results)) := by
  induction bytes generalizing output with
  | nil =>
      refine Live.ret (kept_sent _ _) (fun uart sent => ?_)
      rw [succeeded, List.append_nil]
      · exact sent
      · intro byte bytes result results none
        cases none
  | cons byte bytes ih =>
      cases uart with
      | null =>
          -- Without a UART every call fails, and nothing is written.
          have one : Live (polledWorld FindsRoom) (fun _ uart => uart.lost = []) False
              (Sent output) (difUartByteSendPolled .null byte)
              (fun result uart => result = .kDifBadArg ∧ Sent output uart) :=
            Live.ret (kept_sent _ _) (fun uart sent => ⟨rfl, sent⟩)
          refine Live.bind one (fun result => Live.assume ?_)
          rintro rfl
          refine Live.bind (ih output) (fun results => ?_)
          exact Live.ret (kept_sent _ _) (fun uart sent => sent)
      | object =>
          refine Live.bind (live_difUartByteSendPolled output byte) (fun result => Live.assume ?_)
          rintro rfl
          refine Live.bind (ih (output ++ [byte])) (fun results => ?_)
          refine Live.ret (kept_sent _ _) (fun uart sent => ?_)
          rw [succeeded, if_pos rfl, <- List.singleton_append, <- List.append_assoc]
          exact sent

/-- In every run in which each call still finds room when it looks for it the
second time and when it writes, no byte is written to a full transmit FIFO,
and those of the output that are accepted are the ones whose call succeeded,
each once and in order. -/
theorem sendPolled_complete (uart : Pointer) (bytes : List (BitVec 8)) (s : State)
    (fresh : s.lost = []) (config : Mmio (List DifResult) × State)
    (reaches : Reaches (polledWorld FindsRoom) (sendPolled uart bytes, s) config) :
    config.2.lost = [] ∧ forall results, config.1 = .ret results ->
      outputs config.2 = outputs s ++ succeeded bytes results := by
  have live := live_sendPolled uart (outputs s) bytes s ⟨fresh, rfl⟩ config reaches
  exact ⟨live.1, fun results returned => (live.2.1 results returned).2⟩

/-- Left alone, the UART sends all it holds. -/
theorem hardware_drains (tx : List (BitVec 8)) (uart : State) (queued : uart.tx = tx) :
    Relation.ReflTransGen Hardware uart { uart with tx := [], sending := false } := by
  induction tx generalizing uart with
  | nil =>
      have done := Hardware.sent uart
      rw [<- queued]
      exact .single done
  | cons byte rest ih =>
      exact .head (.transmit uart byte rest queued) (ih { uart with tx := rest, sending := true } rfl)

theorem reaches_drained {α : Type} (meets : Position -> State -> Prop) (m : Mmio α) (uart : State) :
    Reaches (polledWorld meets) (m, uart) (m, { uart with tx := [], sending := false }) :=
  reaches_env ((hardware_drains uart.tx uart rfl).lift id (fun _ _ move => .inl move))

/-- A UART with these bytes in the transmit FIFO and these accepted. -/
def filled (tx : List (BitVec 8)) (accepted : List (Writer × BitVec 8)) : State :=
  ⟨0, 0, 0, tx, false, [], accepted, []⟩

/-- The handler writes a byte before the first byte of the output. -/
theorem interrupted_empty : Interrupted (filled [] []) (filled [0x13] [(.flowControl, 0x13)]) :=
  ⟨0x13, (.kDifOk, 1), reaches_of_run (fun _ _ => trivial) rfl⟩

/-- A run of two calls, with the handler between the second look and the write of the first one. -/
theorem sends_two : Reaches (polledWorld FindsRoom) (sendPolled .object [0x41, 0x42], filled [] [])
    (.ret [.kDifOk, .kDifOk],
      filled [] [(.flowControl, 0x13), (.output, 0x41), (.output, 0x42)]) := by
  have idle (uart : State) : FindsRoom (.poll32 statusRegOffset) uart := by
    rintro (read | ⟨value, write⟩)
    · cases read
    · cases write
  have room : (filled [] []).HasRoom := by decide
  have second (accepted : List (Writer × BitVec 8)) :
      FindsRoom (.read32 statusRegOffset) (filled [] accepted) := fun _ => room
  have first : FindsRoom (.write32 wdataRegOffset (wdata 0x41))
      (filled [0x13] [(.flowControl, 0x13)]) := fun _ => by decide
  have last : FindsRoom (.write32 wdataRegOffset (wdata 0x42))
      (filled [] [(.flowControl, 0x13), (.output, 0x41)]) := fun _ => by decide
  refine .head (.poll32 _ _ _ _ (idle _) rfl) (.head (.read32 _ _ _ (second [])) ?_)
  refine .head (.env _ (.inr interrupted_empty)) (.head (.write32 _ _ _ _ first) ?_)
  refine .trans (reaches_drained _ _ _) (.head (.poll32 _ _ _ _ (idle _) rfl) ?_)
  refine .head (.poll32 _ _ _ _ (idle _) rfl) (.head (.read32 _ _ _ (second _)) ?_)
  refine .head (.write32 _ _ _ _ last) (.trans (reaches_drained _ _ _) ?_)
  exact .head (.poll32 _ _ _ _ (idle _) rfl) .refl

theorem sendPolled_complete_two :
    outputs (filled [] [(.flowControl, 0x13), (.output, 0x41), (.output, 0x42)]) =
      [] ++ succeeded [0x41, 0x42] [.kDifOk, .kDifOk] :=
  (sendPolled_complete .object [0x41, 0x42] (filled [] []) rfl _ sends_two).2 _ rfl

/-! ## A handler in between -/

/-- All but one place of the transmit FIFO are taken. -/
def nearlyFull : State := filled (List.replicate 31 0x2e) []

/-- The handler has taken the last place. -/
def takenFull : State := nearlyFull.send .flowControl 0x13

set_option maxRecDepth 4000 in
theorem interrupted_nearlyFull : Interrupted nearlyFull takenFull := by
  refine ⟨0x13, (.kDifOk, 1), reaches_of_run (fun _ _ => trivial) ?_⟩
  rfl

/-- The first look finds room, the handler fills the FIFO, and the second look
finds none: the call waits for the FIFO to drain and reports success. -/
theorem reaches_dropped :
    Reaches (polledWorld (fun _ _ => True)) (sendPolled .object [0x41], nearlyFull)
      (.ret [.kDifOk], filled [] [(.flowControl, 0x13)]) := by
  refine .head (.poll32 _ _ _ _ trivial rfl) ?_
  refine .head (.env _ (.inr interrupted_nearlyFull)) ?_
  refine .head (.read32 _ _ _ trivial) ?_
  refine .trans (reaches_drained _ _ _) ?_
  exact .head (.poll32 _ _ _ _ trivial rfl) .refl

theorem sendPolled_dropped :
    ¬ forall (uart : Pointer) (bytes : List (BitVec 8)) (s : State), s.lost = [] ->
      forall config, Reaches (polledWorld (fun _ _ => True)) (sendPolled uart bytes, s) config ->
        config.2.lost = [] ∧ forall results, config.1 = .ret results ->
          outputs config.2 = outputs s ++ succeeded bytes results := by
  intro complete
  have all := (complete .object [0x41] nearlyFull rfl _ reaches_dropped).2 _ rfl
  cases all

end Uart
end SunburstChip
