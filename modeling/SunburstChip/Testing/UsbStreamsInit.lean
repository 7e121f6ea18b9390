import SunburstChip.Testing.UsbEndpointSetup
import SunburstChip.Testing.UsbStreamsQueue

namespace SunburstChip
namespace UsbStreams

open Mmio Usbdev UsbTestutils ArrayQueue
open Function (update update_of_ne update_self)

/-!
# Initialising streams

What `usb_testutils_streams_init` leaves behind: a stream at each of the first
endpoints, with its callback registered and its queue empty, on a controller
that is otherwise as it was.
-/

/-- The arguments of `usb_testutils_streams_init`. -/
structure Setup where
  nstreams : BitVec 32
  xfrTypes : Nat -> TransferType
  numBytes : BitVec 32
  flags : StreamFlags

/-- A stream as it is initialised. -/
def Setup.stream (setup : Setup) (id : Nat) : Stream :=
  initialStream (.ofNat 8 id) (setup.xfrTypes id) (.ofNat 8 id + 1) (.ofNat 8 id + 1)
    setup.numBytes setup.flags

section

variable {m : Nat} {away : Multiset Nat} {slots : Nat -> Slot} {known : Nat -> Packet}
  {pool : BufferPool} {objects : Nat -> Buffer} {memory : Memory}

theorem checkStatusOk_spec {code : Code Memory Failure Unit} {memory' : Memory}
    {pre middle : Controller -> Prop}
    (here : Triple device Hardware pre (code memory)
      (fun out usbdev => out = (.ok (), memory') ∧ middle usbdev))
    (stable : Stable Hardware middle) :
    Triple device Hardware pre (checkStatusOk code memory)
      (fun out usbdev => out = (.ok (), memory') ∧ middle usbdev) := by
  have returned : Triple device Hardware middle
      (.ret ((.ok (), memory') : Except Failure Unit × Memory))
      (fun out usbdev => out = (.ok (), memory') ∧ middle usbdev) :=
    Triple.ret stable (fun _ holds => ⟨rfl, holds⟩)
  refine Triple.bind here (fun out start finish final both execution => ?_)
  rcases both with ⟨rfl, holds⟩
  exact returned start finish final holds execution

/-! ## Streams -/

/-- The memory after a stream has been initialised. -/
def Setup.streamInit (setup : Setup) (memory : Memory) (id : Nat) : Memory :=
  let inEndpoint := inEndpointSet (memory.inEndpoints (id + 1)) (setup.xfrTypes id)
    (some (.strmTxDone id)) none none
  let outEndpoint : OutEndpoint Callback := ⟨setup.xfrTypes id, some (.strmRx id), none⟩
  { memory with
    inEndpoints := update memory.inEndpoints (id + 1) inEndpoint
    outEndpoints := update memory.outEndpoints (id + 1) outEndpoint
    client := memory.client.setStream id (setup.stream id) }

variable {id : Nat} {setup : Setup} {done : List Nat} {nstreams : BitVec 32}

theorem streamInit_spec (setup : Setup) (inside : id < usbutilsStreamsMax) :
    Triple device Hardware
      (fun usbdev => Tracked m away slots known ⟨usbdev, pool, objects⟩)
      (usbTestutilsStreamInit (.ofNat 8 id) (setup.xfrTypes id) (.ofNat 8 id + 1)
        (.ofNat 8 id + 1) setup.numBytes setup.flags memory)
      (fun out usbdev => out = (.ok (), setup.streamInit memory id) ∧
        Tracked m away slots known ⟨usbdev, pool, objects⟩) := by
  have below : id < 11 := inside
  have number : (BitVec.ofNat 8 id).toNat = id := by
    rw [BitVec.toNat_ofNat]
    omega
  have next : (BitVec.ofNat 8 id + 1).toNat = id + 1 := by
    rw [BitVec.toNat_add, number]
    change (id + 1) % 256 = _
    omega
  have endpoint : (BitVec.ofNat 8 id + 1).toNat < 12 := by
    rw [next]
    omega
  unfold usbTestutilsStreamInit
  rw [tryCheck_bind (decide_eq_true (show _ < usbutilsStreamsMax by rw [number]; exact inside)),
    Code.get_bind_apply]
  have stream : initialStream (.ofNat 8 id) (setup.xfrTypes id) (.ofNat 8 id + 1)
      (.ofNat 8 id + 1) setup.numBytes setup.flags = setup.stream id := rfl
  have final : setup.streamInit memory id =
      let inEndpoint := inEndpointSet (memory.inEndpoints (BitVec.ofNat 8 id + 1).toNat)
        (setup.xfrTypes id) (some (.strmTxDone id)) none none
      let memory : Memory := State.setIn
        { memory with client := memory.client.setStream id (setup.stream id) }
        (BitVec.ofNat 8 id + 1).toNat inEndpoint
      let outEndpoints := update memory.outEndpoints (BitVec.ofNat 8 id + 1).toNat
        ⟨setup.xfrTypes id, some (.strmRx id), none⟩
      { memory with outEndpoints := outEndpoints } := by
    rw [next]
    rfl
  rw [Code.set_bind_apply, number, stream, final]
  refine Code.triple_bind_ok _ (checkStatusOk_spec
    (inEndpointSetup_spec endpoint _ _ _ _) stable_tracked) ?_
  exact checkStatusOk_spec (outEndpointSetup_spec endpoint _ _ _ _) stable_tracked

theorem initStreams_spec (setup : Setup) (ids : List Nat)
    (inside : forall id, id ∈ ids -> id < usbutilsStreamsMax) :
    Triple device Hardware
      (fun usbdev => Tracked m away slots known ⟨usbdev, pool, objects⟩)
      (initStreams setup.xfrTypes setup.numBytes setup.flags ids memory)
      (fun out usbdev => out = (.ok (), ids.foldl setup.streamInit memory) ∧
        Tracked m away slots known ⟨usbdev, pool, objects⟩) := by
  induction ids generalizing memory with
  | nil => exact Triple.ret stable_tracked (fun _ tracked => ⟨rfl, tracked⟩)
  | cons id rest ih =>
      unfold initStreams
      refine Code.triple_bind_ok _ (streamInit_spec setup (inside id List.mem_cons_self)) ?_
      exact ih (fun other later => inside other (List.mem_cons_of_mem _ later))

/-- Some streams have been initialised. -/
structure Initialised (setup : Setup) (done : List Nat) (before after : Memory) : Prop where
  pool : after.pool = before.pool
  streams : forall id, id ∈ done -> after.client.streams id = setup.stream id
  callbacks : forall id, id ∈ done ->
    (after.inEndpoints (id + 1)).txDoneCallback = some (.strmTxDone id)
  transfers : forall endpoint,
    (after.inEndpoints endpoint).transfer = (before.inEndpoints endpoint).transfer

theorem Initialised.next {before after : Memory}
    (initialised : Initialised setup done before after) (id : Nat) :
    Initialised setup (id :: done) before (setup.streamInit after id) := by
  constructor
  · exact initialised.pool
  · intro other inside
    by_cases here : other = id
    · subst here
      exact update_self _ _ _
    · rcases List.mem_cons.mp inside with same | earlier
      · exact absurd same here
      · exact (update_of_ne here _ _).trans (initialised.streams other earlier)
  · intro other inside
    simp only [Setup.streamInit]
    by_cases here : other = id
    · subst here
      rw [update_self]
      rfl
    · rcases List.mem_cons.mp inside with same | earlier
      · exact absurd same here
      · rw [update_of_ne (fun same => here (Nat.succ_injective same))]
        exact initialised.callbacks other earlier
  · intro endpoint
    simp only [Setup.streamInit]
    by_cases here : endpoint = id + 1
    · subst here
      rw [update_self]
      exact initialised.transfers (id + 1)
    · rw [update_of_ne here]
      exact initialised.transfers endpoint

theorem Initialised.foldl {before after : Memory}
    (initialised : Initialised setup done before after) (ids : List Nat) :
    Initialised setup (ids.reverse ++ done) before (ids.foldl setup.streamInit after) := by
  induction ids generalizing done after with
  | nil => exact initialised
  | cons id rest ih =>
      rw [List.reverse_cons, List.append_assoc]
      exact ih (initialised.next id)

/-! ## Counters -/

/-- How many buffers each of some streams may have queued. -/
def limitOf (nstreams : BitVec 32) : BitVec 8 :=
  ((.ofNat 32 usbutilsStreamsTxbufMax + nstreams - 1) / nstreams).setWidth 8

/-- The context after the buffers of one stream have been apportioned. -/
def StreamsCtx.apportion (nstreams : BitVec 32) (ctx : StreamsCtx) (id : Nat) : StreamsCtx :=
  let ep := (ctx.streams id).txEp.toNat
  { ctx.setQueued ep 0 with
    txBufsLimit := update ctx.txBufsLimit ep (limitOf nstreams) }

theorem apportionTxBufs_eq (nstreams : BitVec 32) (ids : List Nat) {memory : Memory}
    (below : forall id, id ∈ ids -> (memory.client.streams id).txEp.toNat < numEndpoints) :
    apportionTxBufs nstreams ids memory = .ret (.ok (), { memory with
      client := ids.foldl (StreamsCtx.apportion nstreams) memory.client }) := by
  induction ids generalizing memory with
  | nil => rfl
  | cons id rest ih =>
      unfold apportionTxBufs
      rw [Code.get_bind_apply]
      dsimp only
      rw [inRange_bind (below id List.mem_cons_self), Code.set_bind_apply]
      exact ih (fun other later => below other (List.mem_cons_of_mem _ later))

/-- The buffers of some streams have been apportioned. -/
structure Emptied (nstreams : BitVec 32) (done : List Nat) (before after : StreamsCtx) : Prop where
  streams : after.streams = before.streams
  queued : forall id, id ∈ done -> after.txBufsQueued (id + 1) = 0
  limits : forall id, id ∈ done -> after.txBufsLimit (id + 1) = limitOf nstreams

theorem Emptied.next {before after : StreamsCtx} (emptied : Emptied nstreams done before after)
    (endpoint : (before.streams id).txEp.toNat = id + 1) :
    Emptied nstreams (id :: done) before (after.apportion nstreams id) := by
  rw [<- emptied.streams] at endpoint
  constructor
  · exact emptied.streams
  · intro other inside
    simp only [StreamsCtx.apportion, StreamsCtx.setQueued, endpoint]
    by_cases here : other = id
    · subst here
      exact update_self _ _ _
    · rcases List.mem_cons.mp inside with same | earlier
      · exact absurd same here
      · rw [update_of_ne (fun same => here (Nat.succ_injective same))]
        exact emptied.queued other earlier
  · intro other inside
    simp only [StreamsCtx.apportion, endpoint]
    by_cases here : other = id
    · subst here
      exact update_self _ _ _
    · rcases List.mem_cons.mp inside with same | earlier
      · exact absurd same here
      · rw [update_of_ne (fun same => here (Nat.succ_injective same))]
        exact emptied.limits other earlier

theorem Emptied.foldl {before after : StreamsCtx} (emptied : Emptied nstreams done before after)
    (ids : List Nat) (endpoints : forall id, id ∈ ids -> (before.streams id).txEp.toNat = id + 1) :
    Emptied nstreams (ids.reverse ++ done) before
      (ids.foldl (StreamsCtx.apportion nstreams) after) := by
  induction ids generalizing done after with
  | nil => exact emptied
  | cons id rest ih =>
      rw [List.reverse_cons, List.append_assoc]
      exact ih (emptied.next (endpoints id List.mem_cons_self))
        (fun other later => endpoints other (List.mem_cons_of_mem _ later))

theorem toNat_limitOf (some : 0 < nstreams.toNat) (few : nstreams.toNat <= 11) :
    (limitOf nstreams).toNat = (usbutilsStreamsTxbufMax + nstreams.toNat - 1) / nstreams.toNat := by
  have sum : (BitVec.ofNat 32 usbutilsStreamsTxbufMax + nstreams - 1).toNat =
      24 + nstreams.toNat - 1 := by
    rw [BitVec.toNat_sub, BitVec.toNat_add, BitVec.toNat_ofNat]
    change (2 ^ 32 - 1 + (24 + nstreams.toNat) % 2 ^ 32) % 2 ^ 32 = _
    omega
  have small : (24 + nstreams.toNat - 1) / nstreams.toNat <= 34 :=
    Nat.le_trans (Nat.div_le_self _ _) (by omega)
  rw [limitOf, BitVec.toNat_setWidth, BitVec.toNat_udiv, sum]
  exact Nat.mod_eq_of_lt (Nat.lt_of_le_of_lt small (by decide))

/-- The streams that there are begin with empty queues. -/
theorem streamsCountSet_spec (memory : Memory) (few : nstreams.toNat <= usbutilsStreamsMax)
    (endpoints : forall id, id < nstreams.toNat -> (memory.client.streams id).txEp.toNat = id + 1) :
    Exists fun ctx =>
      usbTestutilsStreamsCountSet nstreams memory =
        .ret (.ok true, { memory with client := ctx }) ∧
      ctx.streams = memory.client.streams ∧ Apportioned nstreams.toNat ctx ∧
      forall id, id < nstreams.toNat -> ctx.queue id = [] := by
  have small : nstreams.toNat <= 11 := few
  have start : Emptied nstreams [] memory.client memory.client := ⟨rfl, nofun, nofun⟩
  have emptied := start.foldl (List.range nstreams.toNat)
    (fun id inside => endpoints id (List.mem_range.mp inside))
  have member (id : Nat) (inside : id < nstreams.toNat) :
      id ∈ (List.range nstreams.toNat).reverse ++ [] := by
    rw [List.append_nil, List.mem_reverse]
    exact List.mem_range.mpr inside
  generalize folded : (List.range nstreams.toNat).foldl (StreamsCtx.apportion nstreams)
    memory.client = ctx at emptied
  have queued (id : Nat) (inside : id < nstreams.toNat) : ctx.txBufsQueued (id + 1) = 0 :=
    emptied.queued id (member id inside)
  refine ⟨{ ctx with txQueuedTotal := 0, nstreams := nstreams.setWidth 8 }, ?_, emptied.streams,
    ?_, ?_⟩
  · unfold usbTestutilsStreamsCountSet
    rw [if_neg (Nat.not_lt.mpr few), Code.bind_apply, apportionTxBufs_eq, folded]
    · rfl
    · intro id inside
      have below := List.mem_range.mp inside
      rw [endpoints id below]
      change _ < 12
      omega
  · constructor
    · exact few
    · rw [BitVec.toNat_setWidth]
      exact Nat.mod_eq_of_lt (by omega)
    · intro id inside
      rw [<- endpoints id inside, <- emptied.streams]
    · intro id inside
      rw [<- toNat_limitOf (by omega) few]
      exact congrArg BitVec.toNat (emptied.limits id (member id inside))
    · intro id inside
      rw [show ({ ctx with txQueuedTotal := 0, nstreams := nstreams.setWidth 8 } :
        StreamsCtx).txBufsQueued (id + 1) = 0 from queued id inside]
      exact Nat.zero_le _
    · symm
      apply Finset.sum_eq_zero
      intro id inside
      exact congrArg BitVec.toNat (queued id (Finset.mem_range.mp inside))
    · exact Nat.zero_le _
  · intro id inside
    change entries (ctx.txBufs (id + 1)) (ctx.txBufsQueued (id + 1)).toNat = []
    rw [queued id inside]
    rfl

/-! ## The whole initialisation -/

/-- The call of `usb_testutils_streams_init`. -/
def Setup.init (setup : Setup) : Code Memory Failure Unit :=
  usbTestutilsStreamsInit setup.nstreams setup.xfrTypes setup.numBytes setup.flags

/-- Streams as they are after initialisation. -/
structure StreamsInitialised (setup : Setup) (before after : Memory) : Prop where
  pool : after.pool = before.pool
  apportioned : Apportioned setup.nstreams.toNat after.client
  streams : forall id, id < setup.nstreams.toNat -> after.client.streams id = setup.stream id
  queues : forall id, id < setup.nstreams.toNat -> after.client.queue id = []
  callbacks : forall id, id < setup.nstreams.toNat ->
    (after.inEndpoints (id + 1)).txDoneCallback = some (.strmTxDone id)
  transfers : forall endpoint,
    (after.inEndpoints endpoint).transfer = (before.inEndpoints endpoint).transfer

theorem txEp_stream (setup : Setup) (inside : id < usbutilsStreamsMax) :
    (setup.stream id).txEp.toNat = id + 1 := by
  have below : id < 11 := inside
  change (BitVec.ofNat 8 id + 1).toNat = _
  rw [BitVec.toNat_add, BitVec.toNat_ofNat]
  change (id % 256 + 1) % 256 = _
  omega

theorem init_spec (setup : Setup) (few : setup.nstreams.toNat <= usbutilsStreamsMax) :
    Triple device Hardware
      (fun usbdev => Tracked m away slots known ⟨usbdev, memory.pool, objects⟩)
      (setup.init memory)
      (fun out usbdev => out.1 = .ok () ∧ StreamsInitialised setup memory out.2 ∧
        Tracked m away slots known ⟨usbdev, memory.pool, objects⟩) := by
  have small : setup.nstreams.toNat <= 11 := few
  have nothing : Initialised setup [] memory memory := ⟨rfl, nofun, nofun, fun _ => rfl⟩
  have initialised := nothing.foldl (List.range setup.nstreams.toNat)
  have member (id : Nat) (inside : id < setup.nstreams.toNat) :
      id ∈ (List.range setup.nstreams.toNat).reverse ++ [] := by
    rw [List.append_nil, List.mem_reverse]
    exact List.mem_range.mpr inside
  have all : Triple device Hardware
      (fun usbdev => Tracked m away slots known ⟨usbdev, memory.pool, objects⟩)
      (initStreams setup.xfrTypes setup.numBytes setup.flags (List.range setup.nstreams.toNat)
        memory) _ :=
    initStreams_spec setup _ (fun id inside => Nat.lt_of_lt_of_le (List.mem_range.mp inside) few)
  generalize (List.range setup.nstreams.toNat).foldl setup.streamInit memory = memory' at *
  have endpoints (id : Nat) (inside : id < setup.nstreams.toNat) :
      (memory'.client.streams id).txEp.toNat = id + 1 := by
    rw [initialised.streams id (member id inside)]
    exact txEp_stream setup (Nat.lt_of_lt_of_le inside few)
  rcases streamsCountSet_spec memory' few endpoints with ⟨ctx, counted, streams, apportioned, queues⟩
  unfold Setup.init usbTestutilsStreamsInit
  rw [tryCheck_bind (decide_eq_true few), tryCheck_bind (decide_eq_true (by omega))]
  refine Code.triple_bind_ok _ all ?_
  rw [Code.bind_apply, counted]
  refine Triple.ret stable_tracked (fun usbdev tracked => ⟨rfl, ?_, tracked⟩)
  constructor
  · exact initialised.pool
  · exact apportioned
  · intro id inside
    exact (congrFun streams id).trans (initialised.streams id (member id inside))
  · exact queues
  · exact fun id inside => initialised.callbacks id (member id inside)
  · exact initialised.transfers

/-- Initialisation only succeeds for as many streams as there may be. -/
theorem few_of_init {memory' : Memory} {usbdev usbdev' : Controller}
    (execution : Exec device Hardware usbdev (setup.init memory) usbdev' (.ok (), memory')) :
    setup.nstreams.toNat <= usbutilsStreamsMax := by
  by_contra many
  unfold Setup.init usbTestutilsStreamsInit tryCheck at execution
  rw [decide_eq_false many] at execution
  have failed := (exec_ret execution).1
  cases failed

end

end UsbStreams
end SunburstChip
