import SunburstChip.Testing.UsbTestutils

namespace SunburstChip
namespace UsbStreams

open Usbdev UsbTestutils

/-!
# USB streams

The transmitting side of `usb_testutils_streams.c`.  Each stream generates
packets ahead of the host: a packet is filled as soon as there is a buffer for
it, queued with the state of its generator after it, and sent when it is at the
head of the queue of its endpoint.  The state saved with the last packet that
has been sent is the committed one, from which a stream resumes.
-/

abbrev usbutilsStreamsMax : Nat := numEndpoints - 1
abbrev usbutilsStreamsTxbufMax : Nat := 24

abbrev usbdevStreamSignatureHead : BitVec 32 := 0x579EA01A
abbrev usbdevStreamSignatureTail : BitVec 32 := 0x160AE975

/-- `USBTST_LFSR_SEED` -/
def usbtstLfsrSeed (s : BitVec 8) : BitVec 8 := 0x10 + s * 7

/-- `USBDPI_LFSR_SEED` -/
def usbdpiLfsrSeed (s : BitVec 8) : BitVec 8 := 0x9B - s * 7

/-- `BUFSZ_LFSR_SEED` -/
def bufszLfsrSeed (s : BitVec 8) : BitVec 8 := 0x17 + s * 7

/-- `LFSR_ADVANCE` -/
def lfsrAdvance (lfsr : BitVec 8) : BitVec 8 :=
  (lfsr <<< 1) ^^^ (((lfsr >>> 1) ^^^ (lfsr >>> 2) ^^^ (lfsr >>> 3) ^^^ (lfsr >>> 7)) &&& 1)

/-- `usbdev_stream_flags_t` -/
abbrev StreamFlags := BitVec 32

abbrev kUsbdevStreamFlagRetrieve : StreamFlags := 0x10
abbrev kUsbdevStreamFlagCheck : StreamFlags := 0x20
abbrev kUsbdevStreamFlagMaxPackets : StreamFlags := 0x100

/-- `usbdev_stream_tx_t` -/
structure StreamTx where
  sigRequired : Bool
  seq : BitVec 16
  lfsr : BitVec 8
  bytes : BitVec 32
  bufSize : BitVec 8
  deriving DecidableEq

/-- `usbdev_stream_t`, but for `verbose`, which only selects what is logged. -/
structure Stream where
  id : BitVec 8
  xfrType : TransferType
  txEp : BitVec 8
  tx : StreamTx
  txCmt : StreamTx
  rxEp : BitVec 8
  rxSeq : BitVec 16
  rxLfsr : BitVec 8
  rxtxLfsr : BitVec 8
  rxBytes : BitVec 32
  rxBufSize : BitVec 8
  transferBytes : BitVec 32
  flags : StreamFlags
  sending : Bool
  generating : Bool
  deriving DecidableEq

/-- An entry of `tx_bufs`: a filled buffer and the transmission state after it. -/
structure TxBuf where
  buf : Buffer
  tx : StreamTx
  deriving DecidableEq

/-- `usb_testutils_streams_ctx_t` -/
structure StreamsCtx where
  nstreams : BitVec 8
  streams : Nat -> Stream
  txBufsLimit : Nat -> BitVec 8
  txBufsQueued : Nat -> BitVec 8
  txQueuedTotal : BitVec 8
  txBufs : Nat -> Nat -> TxBuf

/-- The callbacks streams register, with the stream they are about. -/
inductive Callback where
  | strmTxDone (id : Nat)
  | strmRx (id : Nat)
  deriving DecidableEq

/-- What is in memory. -/
abbrev Memory := UsbTestutils.State Callback StreamsCtx

/-- Replace the stream with an identifier. -/
def StreamsCtx.setStream (ctx : StreamsCtx) (id : Nat) (s : Stream) : StreamsCtx :=
  { ctx with streams := Function.update ctx.streams id s }

/-- Replace an entry of `tx_bufs`. -/
def StreamsCtx.setTxBuf (ctx : StreamsCtx) (ep idx : Nat) (entry : TxBuf) : StreamsCtx :=
  { ctx with
    txBufs := Function.update ctx.txBufs ep (Function.update (ctx.txBufs ep) idx entry) }

/-- Replace the number of buffers an endpoint has queued. -/
def StreamsCtx.setQueued (ctx : StreamsCtx) (ep : Nat) (queued : BitVec 8) : StreamsCtx :=
  { ctx with txBufsQueued := Function.update ctx.txBufsQueued ep queued }

/-! ## Filling packets -/

/-- `sizeof(usbdev_stream_sig_t)` -/
abbrev sizeofStreamSig : Nat := 16

/-- `packet_length`: the length of the next packet, and the state of the
generator of lengths after it. -/
def packetLength (s : Stream) (bytesDone : BitVec 32) (bufszLfsr : BitVec 8) :
    BitVec 8 × BitVec 8 :=
  let bytesLeft : BitVec 8 :=
    if s.xfrType ≠ .kUsbTransferTypeIsochronous ∧ bytesDone < s.transferBytes ∧
        s.transferBytes - bytesDone < .ofNat 32 maxPacketSize then
      (s.transferBytes - bytesDone).setWidth 8
    else .ofNat 8 maxPacketSize
  if s.flags &&& kUsbdevStreamFlagMaxPackets ≠ 0 then (bytesLeft, bufszLfsr)
  else if s.tx.sigRequired then
    if s.xfrType = .kUsbTransferTypeIsochronous then
      (.ofNat 8 (sizeofStreamSig + bufszLfsr.toNat % (maxPacketSize - sizeofStreamSig + 1)),
        lfsrAdvance bufszLfsr)
    else (.ofNat 8 sizeofStreamSig, lfsrAdvance bufszLfsr)
  else (.ofNat 8 (bufszLfsr.toNat % (bytesLeft.toNat + 1)), lfsrAdvance bufszLfsr)

/-- A word as it is in memory. -/
def wordBytes (word : BitVec 32) : List (BitVec 8) := (List.range 4).map (wordByte word)

/-- The signature of the next packet, byte by byte as `usbdev_stream_sig_t` is
laid out.  The remainder by a transfer of no bytes is what the processor
computes, the dividend. -/
def streamSig (s : Stream) : List (BitVec 8) :=
  wordBytes usbdevStreamSignatureHead ++
    [s.tx.lfsr, s.id ||| s.flags.setWidth 8, s.tx.seq.setWidth 8, (s.tx.seq >>> 8).setWidth 8] ++
    wordBytes (s.transferBytes - s.tx.bytes % s.transferBytes) ++
    wordBytes usbdevStreamSignatureTail

/-- `buffer_sig_create`: the number of bytes written, the stream and the buffer. -/
def bufferSigCreate (s : Stream) (buf : Buffer) :
    Code Memory Failure (BitVec 8 × Stream × Buffer) := do
  let (result, buf, bytesWritten) <-
    Code.lift (difUsbdevBufferWrite .object .object .object buf (streamSig s))
  checkDifOk result
  check (bytesWritten == sizeofStreamSig)
  pure (.ofNat 8 bytesWritten, { s with tx.seq := s.tx.seq + 1 }, buf)

/-- Bytes from the generator, and its state after them. -/
def lfsrBytes (lfsr : BitVec 8) : Nat -> List (BitVec 8) × BitVec 8
  | 0 => ([], lfsr)
  | count + 1 =>
      (lfsr :: (lfsrBytes (lfsrAdvance lfsr) count).1, (lfsrBytes (lfsrAdvance lfsr) count).2)

/-- The data of a packet, and the state of the generator after it.  A stream
that does not generate sends what happens to be on the stack. -/
def packetData (stack : Nat -> BitVec 8) (s : Stream) (count : Nat) :
    List (BitVec 8) × BitVec 8 :=
  if s.generating then lfsrBytes s.tx.lfsr count else ((List.range count).map stack, s.tx.lfsr)

/-- `buffer_fill`: the stream and the buffer. -/
def bufferFill (stack : Nat -> BitVec 8) (s : Stream) (buf : Buffer) (numBytes : BitVec 8) :
    Code Memory Failure (Stream × Buffer) := do
  check (decide (numBytes <= buf.remainingBytes))
  check (decide (numBytes.toNat <= maxPacketSize))
  let (data, lfsr) := packetData stack s numBytes.toNat
  let s := { s with tx.lfsr := lfsr }
  let (result, buf, bytesWritten) <-
    Code.lift (difUsbdevBufferWrite .object .object .object buf data)
  checkDifOk result
  check (bytesWritten == numBytes.toNat)
  pure ({ s with tx.bytes := s.tx.bytes + .ofNat 32 bytesWritten }, buf)

/-! ## Setting up -/

/-- The loop of `usb_testutils_streams_count_set`. -/
def apportionTxBufs (nstreams : BitVec 32) : List Nat -> Code Memory Failure Unit
  | [] => pure ()
  | s :: rest => do
      let state <- Code.get
      let ep := (state.client.streams s).txEp.toNat
      inRange ep numEndpoints
      let limit := (.ofNat 32 usbutilsStreamsTxbufMax + nstreams - 1) / nstreams
      Code.set { state with client := { state.client.setQueued ep 0 with
        txBufsLimit := Function.update state.client.txBufsLimit ep (limit.setWidth 8) } }
      apportionTxBufs nstreams rest

/-- `usb_testutils_streams_count_set` -/
def usbTestutilsStreamsCountSet (nstreams : BitVec 32) : Code Memory Failure Bool := do
  if usbutilsStreamsMax < nstreams.toNat then pure false
  else do
    apportionTxBufs nstreams (List.range nstreams.toNat)
    let state <- Code.get
    Code.set { state with client := { state.client with
      txQueuedTotal := 0, nstreams := nstreams.setWidth 8 } }
    pure true

/-- What `usb_testutils_stream_init` stores in the stream. -/
def initialStream (id : BitVec 8) (xfrType : TransferType) (epIn epOut : BitVec 8)
    (transferBytes : BitVec 32) (flags : StreamFlags) : Stream :=
  let tx : StreamTx := ⟨true, 0, usbtstLfsrSeed id, 0, bufszLfsrSeed id⟩
  { id := id
    xfrType := xfrType
    txEp := epIn
    tx := tx
    txCmt := tx
    rxEp := epOut
    rxSeq := 0
    rxLfsr := usbdpiLfsrSeed id
    rxtxLfsr := tx.lfsr
    rxBytes := 0
    rxBufSize := tx.bufSize
    transferBytes := transferBytes
    flags := flags
    sending := decide (flags &&& kUsbdevStreamFlagRetrieve ≠ 0)
    generating := decide (flags &&& kUsbdevStreamFlagCheck ≠ 0) }

/-- `CHECK_STATUS_OK`: an error status fails the test. -/
def checkStatusOk {α : Type} (code : Code Memory Failure α) : Code Memory Failure α :=
  fun state => code state >>= fun out =>
    match out with
    | (.error (.status _), state) => .ret (.error .check, state)
    | out => .ret out

/-- `usb_testutils_stream_init` -/
def usbTestutilsStreamInit (id : BitVec 8) (xfrType : TransferType) (epIn epOut : BitVec 8)
    (transferBytes : BitVec 32) (flags : StreamFlags) : Code Memory Failure Unit := do
  tryCheck (decide (id.toNat < usbutilsStreamsMax))
  let state <- Code.get
  let s := initialStream id xfrType epIn epOut transferBytes flags
  Code.set { state with client := state.client.setStream id.toNat s }
  checkStatusOk (usbTestutilsInEndpointSetup epIn xfrType (some (.strmTxDone id.toNat)) none none)
  checkStatusOk (usbTestutilsOutEndpointSetup epOut xfrType .kUsbdevOutStream
    (some (.strmRx id.toNat)) none)

/-- The loop of `usb_testutils_streams_init`. -/
def initStreams (xfrTypes : Nat -> TransferType) (numBytes : BitVec 32) (flags : StreamFlags) :
    List Nat -> Code Memory Failure Unit
  | [] => pure ()
  | id :: rest => do
      let ep : BitVec 8 := .ofNat 8 id + 1
      usbTestutilsStreamInit (.ofNat 8 id) (xfrTypes id) ep ep numBytes flags
      initStreams xfrTypes numBytes flags rest

/-- `usb_testutils_streams_init` -/
def usbTestutilsStreamsInit (nstreams : BitVec 32) (xfrTypes : Nat -> TransferType)
    (numBytes : BitVec 32) (flags : StreamFlags) : Code Memory Failure Unit := do
  tryCheck (decide (nstreams.toNat <= usbutilsStreamsMax))
  tryCheck (decide (nstreams.toNat <= 255))
  initStreams xfrTypes numBytes flags (List.range nstreams.toNat)
  let counted <- usbTestutilsStreamsCountSet nstreams
  tryCheck counted

/-! ## Transmitting -/

/-- What `usb_testutils_stream_service` notes in the stream after a signature:
if nothing is sent, the signature is all there is, and only an Isochronous
stream that sends has one in each packet. -/
def noteSignature (s : Stream) : Stream :=
  let s := if s.sending then s else { s with tx.bytes := s.transferBytes }
  if !s.sending ∨ s.xfrType ≠ .kUsbTransferTypeIsochronous then { s with tx.sigRequired := false }
  else s

/-- Write the signature, if there is to be one: the number of bytes added, the
stream and the buffer. -/
def addSignature (s : Stream) (buf : Buffer) :
    Code Memory Failure (BitVec 8 × Stream × Buffer) := do
  if s.tx.sigRequired then
    let (bytesAdded, s, buf) <- bufferSigCreate s buf
    pure (bytesAdded, noteSignature s, buf)
  else pure (0, s, buf)

/-- Write the data, if there is room for some: the stream and the buffer. -/
def addData (stack : Nat -> BitVec 8) (s : Stream) (buf : Buffer) (bytesAdded numBytes : BitVec 8) :
    Code Memory Failure (Stream × Buffer) :=
  if bytesAdded < numBytes then bufferFill stack s buf (numBytes - bytesAdded)
  else pure (s, buf)

/-- The context after a filled buffer has been queued. -/
def StreamsCtx.enqueue (ctx : StreamsCtx) (id txEp : Nat) (nqueued : BitVec 8) (s : Stream)
    (entry : TxBuf) : StreamsCtx :=
  let ctx := (ctx.setStream id s).setTxBuf txEp nqueued.toNat entry
  { ctx.setQueued txEp (nqueued + 1) with txQueuedTotal := ctx.txQueuedTotal + 1 }

/-- The rest of `usb_testutils_stream_service`, once there is a buffer. -/
def fillAndQueue (stack : Nat -> BitVec 8) (id : BitVec 8) (nqueued : BitVec 8) (buf : Buffer) :
    Code Memory Failure Unit := do
  let state <- Code.get
  let s := state.client.streams id.toNat
  let txEp := s.txEp
  let (numBytes, bufSize) := packetLength s s.tx.bytes s.tx.bufSize
  let (bytesAdded, s, buf) <- addSignature { s with tx.bufSize := bufSize } buf
  let (s, buf) <- addData stack s buf bytesAdded numBytes
  inRange nqueued.toNat usbutilsStreamsTxbufMax
  let state <- Code.get
  Code.set { state with client :=
    state.client.enqueue id.toNat txEp.toNat nqueued s ⟨buf, s.tx⟩ }
  if nqueued + 1 <= 1 then
    let (result, _) <- Code.lift (difUsbdevSend .object txEp .object buf)
    tryDif result
  else pure ()

/-- `usb_testutils_stream_service` -/
def usbTestutilsStreamService (stack : Nat -> BitVec 8) (id : BitVec 8) :
    Code Memory Failure Unit := do
  tryCheck (decide (id.toNat < usbutilsStreamsMax))
  let state <- Code.get
  let ctx := state.client
  let s := ctx.streams id.toNat
  let txEp := s.txEp.toNat
  inRange txEp numEndpoints
  let nqueued := ctx.txBufsQueued txEp
  let txMore := decide (s.xfrType = .kUsbTransferTypeIsochronous ∨ s.tx.bytes < s.transferBytes)
  if txMore ∧ nqueued < ctx.txBufsLimit txEp ∧
      ctx.txQueuedTotal < .ofNat 8 usbutilsStreamsTxbufMax then
    match difUsbdevBufferRequest .object .object .object state.pool with
    | (.kDifOk, pool, some buf) => do
        Code.set { state with pool := pool }
        fillAndQueue stack id nqueued buf
    | (difResult, _, _) => check (difResult == .kDifUnavailable)
  else pure ()

/-- Shuffle the buffers of an endpoint from `idx` on, as many as are given. -/
def shuffleTxBufs (txEp : Nat) : Nat -> Nat -> Code Memory Failure Unit
  | _, 0 => pure ()
  | idx, count + 1 => do
      inRange idx usbutilsStreamsTxbufMax
      let state <- Code.get
      Code.set { state with client :=
        state.client.setTxBuf txEp (idx - 1) (state.client.txBufs txEp idx) }
      shuffleTxBufs txEp (idx + 1) count

/-- Present the buffer at the head of the queue, if there is one. -/
def sendHead (txEp : BitVec 8) (nqueued : BitVec 8) : Code Memory Failure Unit := do
  if nqueued ≠ 0 then
    let state <- Code.get
    let head := state.client.txBufs txEp.toNat 0
    let (result, buf) <- Code.lift (difUsbdevSend .object txEp .object head.buf)
    Code.set { state with client :=
      state.client.setTxBuf txEp.toNat 0 { head with buf := buf } }
    tryDif result
  else pure ()

/-- `strm_tx_done`, for the stream in the context of the callback. -/
def strmTxDone (id : Nat) : Code Memory Failure Unit := do
  let state <- Code.get
  let s := state.client.streams id
  let txEp := s.txEp
  inRange txEp.toNat numEndpoints
  let nqueued := state.client.txBufsQueued txEp.toNat
  tryCheck (decide (0 < nqueued))
  let s := { s with txCmt := (state.client.txBufs txEp.toNat 0).tx }
  Code.set { state with client := state.client.setStream id s }
  shuffleTxBufs txEp.toNat 1 (nqueued.toNat - 1)
  let state <- Code.get
  Code.set { state with client := { state.client.setQueued txEp.toNat (nqueued - 1) with
    txQueuedTotal := state.client.txQueuedTotal - 1 } }
  sendHead txEp (nqueued - 1)

/-- The callbacks of the streams; what is received does not concern transmission. -/
def call : Callback -> XfrResult -> Code Memory Failure Unit
  | .strmTxDone id, _ => strmTxDone id
  | .strmRx _, _ => pure ()

/-! ## Suspending and resuming -/

/-- What is stored over a sleep: the number of streams, and each stream as it is
in memory. -/
structure Saved where
  nstreams : BitVec 8
  streams : List Stream

/-- The size of the stored state, where `sizeofStream` is `sizeof(usbdev_stream_t)`. -/
def savedSize (sizeofStream : Nat) (nstreams : BitVec 8) : Nat :=
  1 + nstreams.toNat * sizeofStream

/-- The loop of `usb_testutils_streams_suspend`. -/
def saveStreams (ctx : StreamsCtx) : List Nat -> Code Memory Failure (List Stream)
  | [] => pure []
  | id :: rest => do
      inRange id usbutilsStreamsMax
      let saved <- saveStreams ctx rest
      pure (ctx.streams id :: saved)

/-- `usb_testutils_streams_suspend`: what is stored at `buf`, and the size of
it that `used` receives. -/
def usbTestutilsStreamsSuspend (sizeofStream : Nat) (ctx buf used : Pointer) (size : BitVec 32) :
    Code Memory Failure (Saved × Nat) := do
  let state <- Code.get
  if ctx = .null ∨ buf = .null ∨ used = .null ∨
      size.toNat < savedSize sizeofStream state.client.nstreams then
    .raise (.status .kInvalidArgument)
  else do
    let streams <- saveStreams state.client (List.range state.client.nstreams.toNat)
    pure (⟨state.client.nstreams, streams⟩, savedSize sizeofStream state.client.nstreams)

/-- The loop of `usb_testutils_streams_resume`, from one stream on. -/
def loadStreams : Nat -> List Stream -> Code Memory Failure Unit
  | _, [] => pure ()
  | id, s :: rest => do
      inRange id usbutilsStreamsMax
      let state <- Code.get
      Code.set { state with client := state.client.setStream id { s with tx := s.txCmt } }
      loadStreams (id + 1) rest

/-- `usb_testutils_streams_resume`, where the data holds as many streams as it
says; `len` is its size. -/
def usbTestutilsStreamsResume (sizeofStream : Nat) (ctx data : Pointer) (saved : Saved)
    (len : BitVec 32) : Code Memory Failure Unit := do
  if ctx = .null ∨ data = .null ∨ len.toNat < 1 then .raise (.status .kInvalidArgument)
  else do
    let state <- Code.get
    if state.client.txQueuedTotal ≠ 0 then .raise (.status .kFailedPrecondition)
    else if len.toNat < savedSize sizeofStream saved.nstreams then
      .raise (.status .kInvalidArgument)
    else do
      loadStreams 0 (saved.streams.take saved.nstreams.toNat)
      let counted <- usbTestutilsStreamsCountSet (saved.nstreams.setWidth 32)
      tryCheck counted

end UsbStreams
end SunburstChip
