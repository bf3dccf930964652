import Locasta.Copyrpc.Delivery
import Locasta.Data.Channel

namespace Locasta.Copyrpc.Dc

open Data

/-! The DC endpoint of `dc.rs`.

A batch opens with a header of 32 bytes at `metaPos`. Calls and replies only add messages to it;
what is pending is emitted when the context flushes its dirty endpoints, with one WRITE for the
batch. A wrap is only noted, and emitted with the next flush.
-/

def batchHeaderSize : Nat := 32

def dcHeaderSize : Nat := 8

def creditReturnReserve : Nat := batchHeaderSize

def signalIntervalMask : Nat := 7

def dcPaddedMessageSize (payloadLen : Nat) : Nat := alignUp (dcHeaderSize + payloadLen)

def dcEncodeHeader (callId : UInt32) (payloadLen : Nat) : List UInt8 :=
  leBytes 4 callId.toNat ++ leBytes 4 payloadLen

def dcDecodeHeader (bytes : List UInt8) : UInt32 × Nat :=
  (UInt32.ofNat (ofLeBytes (bytes.take 4)), ofLeBytes ((bytes.drop 4).take 4))

structure BatchHeader where
  delta : Nat
  ringCreditReturn : Nat
  messageCount : Nat

def encodeBatchHeader (header : BatchHeader) : List UInt8 :=
  encodeBlock header.delta header.ringCreditReturn header.messageCount

/-- The volatile reads at the start of `process_cqe_static`. -/
def decodeBatchHeader (bytes : List UInt8) : BatchHeader :=
  let (delta, ringCreditReturn, messageCount) := decodeBlock bytes
  { delta, ringCreditReturn, messageCount }

@[simp] theorem dcEncodeHeader_length (callId : UInt32) (payloadLen : Nat) :
    (dcEncodeHeader callId payloadLen).length = dcHeaderSize := by
  simp [dcEncodeHeader, dcHeaderSize]

theorem dcDecodeHeader_dcEncodeHeader (callId : UInt32) (payloadLen : Nat) :
    dcDecodeHeader (dcEncodeHeader callId payloadLen) = (callId, payloadLen % 2 ^ 32) := by
  have whole (value : Nat) : (leBytes 4 value).take 4 = leBytes 4 value :=
    List.take_of_length_le (by simp)
  simp [dcDecodeHeader, dcEncodeHeader, ofLeBytes_leBytes, whole]

@[simp] theorem encodeBatchHeader_length (header : BatchHeader) :
    (encodeBatchHeader header).length = flowMetadataSize :=
  encodeBlock_length ..

theorem decodeBatchHeader_encodeBatchHeader (header : BatchHeader) :
    decodeBatchHeader (encodeBatchHeader header) =
      { delta := header.delta % 2 ^ 64,
        ringCreditReturn := header.ringCreditReturn % 2 ^ 64,
        messageCount := header.messageCount % 2 ^ 32 } := by
  rw [decodeBatchHeader, encodeBatchHeader, decodeBlock_encodeBlock]

def messageFraming : Framing UInt32 where
  headerSize := dcHeaderSize
  lengthLimit := 2 ^ 32
  encode := dcEncodeHeader
  decode := dcDecodeHeader
  padded := dcPaddedMessageSize
  encode_length := dcEncodeHeader_length
  decode_encode := dcDecodeHeader_dcEncodeHeader
  fits _ := alignUp_ge _

structure RecvMessage where
  endpointId : UInt32
  callId : UInt32
  dataOffset : Nat
  dataLen : Nat

/-- The messages of the endpoint `endpointId`. -/
def messageWire (endpointId : UInt32) : Wire UInt32 RecvMessage where
  framing := messageFraming
  callId := id
  request callId dataOffset dataLen := { endpointId, callId, dataOffset, dataLen }
  headerSize_pos := by decide
  aligned _ := alignUp_dvd _

structure EndpointConfig where
  sendRingSize : Nat
  recvRingSize : Nat

structure RemoteDctInfo where
  dctn : Nat
  dcKey : Nat
  dlid : Nat

structure LocalEndpointInfo where
  dctNumber : Nat
  dcKey : Nat
  recvRingAddr : Nat
  recvRingRkey : Nat
  recvRingSize : Nat
  initialCredit : Nat
  endpointId : UInt32

structure RemoteEndpointInfo extends LocalEndpointInfo where
  localIdentifier : Nat

abbrev Message := Frame UInt32

structure Batch where
  header : BatchHeader
  messages : List Message

/-- A posted WRITE with immediate. `batch` repeats, for the proofs only, what was laid out from
`start` to `stop`. -/
structure WriteImm extends Segment where
  av : RemoteDctInfo
  remoteAddr : Nat
  rkey : Nat
  imm : UInt32
  signaled : Bool
  batch : Batch

structure EndpointInner (U : Type) where
  endpointId : UInt32
  sendRing : Memory
  sendRingLen : Nat
  recvRing : Memory
  recvRingLen : Nat
  recvRingMr : MemoryRegion
  remoteRecvRing : Option RemoteRingInfo
  remoteDct : Option RemoteDctInfo
  remoteEndpointId : UInt32
  sendRingProducer : Nat
  recvRingProducer : Nat
  lastRecvPos : Nat
  lastNotifiedRecvPos : Nat
  remoteConsumerPos : Nat
  pendingCalls : Slab U
  flushStartPos : Nat
  metaPos : Nat
  batchMessageCount : Nat
  wrapPending : Bool
  unsignaledCount : Nat
  newlySignaledCount : Nat
  /-- Of the context: whether the endpoint is in the dirty list, and its share of the DCI's queue.
  -/
  isDirty : Bool
  dci : SendQueue WriteImm
  /-- Auxiliary: `flushStartPos` and `metaPos` as the assertion in `emit_batch` compares them, once
  for each attempt. No operation reads them. -/
  starts : List (Nat × Nat)

namespace EndpointInner

variable {U : Type}

def new (config : EndpointConfig) (recvRingMr : MemoryRegion) (endpointId : UInt32) :
    EndpointInner U where
  endpointId
  sendRing := fun _ => 0
  sendRingLen := config.sendRingSize.nextPowerOfTwo
  recvRing := fun _ => 0
  recvRingLen := config.recvRingSize.nextPowerOfTwo
  recvRingMr
  remoteRecvRing := none
  remoteDct := none
  remoteEndpointId := 0
  sendRingProducer := 0
  recvRingProducer := 0
  lastRecvPos := 0
  lastNotifiedRecvPos := 0
  remoteConsumerPos := 0
  pendingCalls := Slab.new
  flushStartPos := 0
  metaPos := 0
  batchMessageCount := 0
  wrapPending := false
  unsignaledCount := 0
  newlySignaledCount := 0
  isDirty := false
  dci := { posted := [], answers := [] }
  starts := []

def localInfo (ep : EndpointInner U) (dct : RemoteDctInfo) : LocalEndpointInfo where
  dctNumber := dct.dctn
  dcKey := dct.dcKey
  recvRingAddr := ep.recvRingMr.addr
  recvRingRkey := ep.recvRingMr.rkey
  recvRingSize := ep.recvRingLen
  initialCredit := ep.recvRingLen / 2
  endpointId := ep.endpointId

def prepareNextBatch (ep : EndpointInner U) : EndpointInner U :=
  { ep with
    metaPos := ep.sendRingProducer
    batchMessageCount := 0
    sendRingProducer := ep.sendRingProducer + batchHeaderSize }

def connect (ep : EndpointInner U) (remote : RemoteEndpointInfo) : EndpointInner U :=
  prepareNextBatch { ep with
    remoteRecvRing := some {
      addr := remote.recvRingAddr, rkey := remote.recvRingRkey, size := remote.recvRingSize }
    remoteDct := some {
      dctn := remote.dctNumber, dcKey := remote.dcKey, dlid := remote.localIdentifier }
    remoteEndpointId := remote.endpointId
    remoteConsumerPos := 0 }

/-- The batch with one more message of `msgSize` bytes fits within the current cycle. -/
def hasCycleRoomFor (ep : EndpointInner U) (msgSize : Nat) : Bool :=
  let batchEnd := ep.sendRingProducer + msgSize - ep.metaPos
  maskOffset ep.metaPos ep.sendRingLen + batchEnd < ep.sendRingLen

def openMessages (ep : EndpointInner U) : List Message :=
  messageFraming.readFrames ep.sendRing
    (maskOffset ep.metaPos ep.sendRingLen + batchHeaderSize) ep.batchMessageCount

def currentBatch (ep : EndpointInner U) (messageCount : Nat) : Batch where
  header := {
    delta := ep.sendRingProducer - ep.flushStartPos
    ringCreditReturn := ep.lastRecvPos - ep.lastNotifiedRecvPos
    messageCount }
  messages := ep.openMessages

/-- Encode the batch header at `flushStartPos` and book the credit that it returns. -/
def fillHeader (ep : EndpointInner U) (header : BatchHeader) : EndpointInner U :=
  { ep with
    lastNotifiedRecvPos := ep.lastRecvPos
    sendRing := ep.sendRing.write (maskOffset ep.flushStartPos ep.sendRingLen)
      (encodeBatchHeader header)
    starts := ep.starts ++ [(ep.flushStartPos, ep.metaPos)] }

def shouldSignal (ep : EndpointInner U) : Bool :=
  (ep.unsignaledCount + 1) &&& signalIntervalMask == 0

/-- A single SGE, whose length field is a `u32`, covers the batch. -/
def writeImm (ep : EndpointInner U) (remoteRing : RemoteRingInfo) (remoteDct : RemoteDctInfo)
    (batch : Batch) : WriteImm :=
  let start := ep.flushStartPos
  let stop := ep.sendRingProducer
  { start, stop
    payload := ep.sendRing.read (maskOffset start ep.sendRingLen) (asU32 (stop - start))
    av := remoteDct
    remoteAddr := remoteRing.addr + maskOffset start remoteRing.size
    rkey := remoteRing.rkey
    imm := ep.remoteEndpointId
    signaled := ep.shouldSignal
    batch }

def posting (ep : EndpointInner U) (remoteRing : RemoteRingInfo) (remoteDct : RemoteDctInfo)
    (batch : Batch) : EndpointInner U :=
  { ep with
    dci := ep.dci.accept (ep.writeImm remoteRing remoteDct batch)
    unsignaledCount := if ep.shouldSignal then 0 else ep.unsignaledCount + 1
    newlySignaledCount :=
      if ep.shouldSignal then min (ep.newlySignaledCount + 1) (2 ^ 32 - 1)
      else ep.newlySignaledCount
    flushStartPos := ep.sendRingProducer }

def refused (ep : EndpointInner U) : EndpointInner U := { ep with dci := ep.dci.refuse }

def emitBatch (ep : EndpointInner U) (messageCount : Nat) : Except Error Unit × EndpointInner U :=
  match ep.remoteRecvRing, ep.remoteDct with
  | some remoteRing, some remoteDct =>
    let batch := ep.currentBatch messageCount
    let filled := ep.fillHeader batch.header
    if filled.dci.full then (.error .ringFull, filled.refused)
    else (.ok (), filled.posting remoteRing remoteDct batch)
  | _, _ => (.error .remoteConsumerUnknown, ep)

/-- The first half of `emit_wrap`: the producer moves to the next cycle. -/
def placeWrap (ep : EndpointInner U) : EndpointInner U :=
  let remaining := ep.sendRingLen - maskOffset ep.metaPos ep.sendRingLen
  { ep with sendRingProducer := ep.metaPos + remaining }

def emitWrap (ep : EndpointInner U) : Except Error Unit × EndpointInner U :=
  tryThen id (ep.placeWrap.emitBatch wrapMessageCount) fun ep => (.ok (), ep.prepareNextBatch)

/-- The last part of `emit_pending`: a batch of no messages returns credit. -/
def emitCreditReturn (ep : EndpointInner U) (emitted : Bool) :
    Except Error Bool × EndpointInner U :=
  if !emitted && 0 < ep.lastRecvPos - ep.lastNotifiedRecvPos then
    tryThen id (ep.emitBatch 0) fun ep => (.ok true, ep.prepareNextBatch)
  else (.ok emitted, ep)

/-- If the wrap is refused, what was emitted before it still needs its doorbell. -/
def emitPending (ep : EndpointInner U) : Except Error Bool × EndpointInner U :=
  let closed : Except Error Bool × EndpointInner U :=
    if 0 < ep.batchMessageCount then
      tryThen id (ep.emitBatch ep.batchMessageCount) fun ep => (.ok true, ep.prepareNextBatch)
    else (.ok false, ep)
  match closed with
  | (.error error, ep) => (.error error, ep)
  | (.ok emitted, ep) =>
    if ep.wrapPending then
      match ep.emitWrap with
      | (.ok _, ep) => emitCreditReturn { ep with wrapPending := false } true
      | (.error error, ep) =>
        if emitted then (.ok true, ep) else (.error error, ep)
    else ep.emitCreditReturn emitted

def hasPendingFlush (ep : EndpointInner U) : Bool := ep.wrapPending || 0 < ep.batchMessageCount

/-- The body of the loop in `flush_endpoints`, for an endpoint taken from the dirty list. -/
def flushEndpoint (ep : EndpointInner U) : EndpointInner U :=
  match emitPending { ep with isDirty := false } with
  | (.ok _, ep) => { ep with newlySignaledCount := 0, isDirty := ep.hasPendingFlush }
  | (.error .ringFull, ep) => { ep with newlySignaledCount := 0, isDirty := true }
  | (.error _, ep) => { ep with newlySignaledCount := 0 }

def markDirty (ep : EndpointInner U) : EndpointInner U := { ep with isDirty := true }

def appendMessage (ep : EndpointInner U) (callId : UInt32) (data : List UInt8) :
    EndpointInner U :=
  { ep with
    sendRing := messageFraming.writeFrame ep.sendRing
      (maskOffset ep.sendRingProducer ep.sendRingLen) callId data
    sendRingProducer := ep.sendRingProducer + dcPaddedMessageSize (asU32 data.length)
    batchMessageCount := ep.batchMessageCount + 1 }

def available (ep : EndpointInner U) (remoteRing : RemoteRingInfo) : Nat :=
  let inFlight := ep.sendRingProducer - ep.remoteConsumerPos
  remoteRing.size - (inFlight + creditReturnReserve)

/-- The checks that `call` and `reply` make alike. -/
def checkRoom (ep : EndpointInner U) (remoteRing : RemoteRingInfo) (msgSize : Nat) :
    Bool × EndpointInner U :=
  if !ep.hasCycleRoomFor msgSize then (false, markDirty { ep with wrapPending := true })
  else if ep.available remoteRing < msgSize then (false, ep.markDirty)
  else (true, ep)

def acceptCall (ep : EndpointInner U) (key : Nat) (data : List UInt8) (userData : U) :
    EndpointInner U :=
  let ep := { ep with pendingCalls := ep.pendingCalls.insert key userData }
  (ep.appendMessage (UInt32.ofNat key) data).markDirty

def call (ep : EndpointInner U) (key : Nat) (data : List UInt8) (userData : U)
    (_responseAllowance : Nat) : Except (CallError U) UInt32 × EndpointInner U :=
  match ep.remoteRecvRing with
  | none => (.error (.other .remoteConsumerUnknown), ep)
  | some remoteRing =>
    match ep.checkRoom remoteRing (dcPaddedMessageSize (asU32 data.length)) with
    | (false, ep) => (.error (.ringFull userData), ep)
    | (true, ep) => (.ok (UInt32.ofNat key), ep.acceptCall key data userData)

def acceptReply (ep : EndpointInner U) (handle : RecvMessage) (data : List UInt8) :
    EndpointInner U :=
  (ep.appendMessage (toResponseId handle.callId) data).markDirty

def reply (ep : EndpointInner U) (handle : RecvMessage) (data : List UInt8) :
    Except Error Unit × EndpointInner U :=
  match ep.remoteRecvRing with
  | none => (.error .remoteConsumerUnknown, ep)
  | some remoteRing =>
    match ep.checkRoom remoteRing (dcPaddedMessageSize (asU32 data.length)) with
    | (false, ep) => (.error .ringFull, ep)
    | (true, ep) => (.ok (), ep.acceptReply handle data)

/-- The immediate names the endpoint; a WRITE for another one is not looked at. -/
def processCqeStatic (ep : EndpointInner U) (imm : UInt32) :
    EndpointInner U × List (Event RecvMessage U) :=
  if imm ≠ ep.endpointId then (ep, [])
  else
    let pos := ep.lastRecvPos
    let header := decodeBatchHeader
      (ep.recvRing.read (maskOffset pos ep.recvRingLen) batchHeaderSize)
    let ep := { ep with
      recvRingProducer := ep.recvRingProducer + header.delta
      remoteConsumerPos := ep.remoteConsumerPos + header.ringCreditReturn }
    let pos := pos + batchHeaderSize
    if header.messageCount = wrapMessageCount then
      let skip := header.delta - batchHeaderSize
      ({ ep with lastRecvPos := pos + skip }, [])
    else
      let result := processMessages (messageWire ep.endpointId) ep.recvRing ep.recvRingLen
        header.messageCount pos ep.pendingCalls
      ({ ep with lastRecvPos := result.1, pendingCalls := result.2.1 }, result.2.2)

theorem processCqeStatic_shape (ep : EndpointInner U) (imm : UInt32) :
    ∃ recvRingProducer lastRecvPos remoteConsumerPos pendingCalls,
      ep.lastRecvPos ≤ lastRecvPos ∧ ep.remoteConsumerPos ≤ remoteConsumerPos ∧
      (ep.processCqeStatic imm).1 = { ep with
        recvRingProducer, lastRecvPos, remoteConsumerPos, pendingCalls } := by
  simp only [processCqeStatic]
  split
  · exact ⟨_, _, _, _, Nat.le_refl _, Nat.le_refl _, rfl⟩
  · split
    · exact ⟨_, _, _, _, by omega, Nat.le_add_right .., rfl⟩
    · exact ⟨_, _, _, _, (Nat.le_add_right ..).trans (le_processMessages ..), Nat.le_add_right .., rfl⟩

end EndpointInner

end Locasta.Copyrpc.Dc
