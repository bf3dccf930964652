import Locasta.Copyrpc.Delivery
import Locasta.Data.Channel

namespace Locasta.Copyrpc.Rc

open Data

/-! The RC endpoint of `rc.rs`.

Virtual positions are natural numbers. A batch opens with the 32 byte metadata
block at `metaPos`, its messages follow up to `sendRingProducer`, and one
WRITE with immediate carries it to the peer's receive ring.
-/

/-- The ring sizes are `usize` values. -/
structure EndpointConfig where
  sendRingSize : Nat
  recvRingSize : Nat
  maxRespReservation : Nat
  sendRingSize_lt : sendRingSize < 2 ^ 64

structure LocalEndpointInfo where
  recvRingAddr : Nat
  recvRingRkey : Nat
  recvRingSize : Nat
  initialCredit : Nat

abbrev Message := Frame MessageHeader

/-- What a batch says: its flow control block and its messages. -/
structure Batch where
  metadata : FlowMetadata
  messages : List Message

/-- A posted WRITE with immediate. `batch` repeats, for the proofs only, what was laid out from
`start` to `stop`. -/
structure WriteImm extends Segment where
  remoteAddr : Nat
  rkey : Nat
  imm : Nat
  signaled : Bool
  batch : Batch

structure RecvMessage where
  callId : UInt32
  dataOffset : Nat
  dataLen : Nat
  responseAllowance : Nat

/-- An RC request carries the blocks of its response allowance in `piggyback`. -/
def messageWire : Wire MessageHeader RecvMessage where
  framing := messageFraming
  callId := MessageHeader.callId
  request header dataOffset dataLen := { header with
    dataOffset
    dataLen
    responseAllowance := header.piggyback.toNat * alignment }
  headerSize_pos := by decide
  aligned := paddedMessageSize_dvd

structure EndpointInner (U : Type) where
  sendRing : Memory
  sendRingLen : Nat
  recvRing : Memory
  recvRingLen : Nat
  recvRingMr : MemoryRegion
  remoteRecvRing : Option RemoteRingInfo
  sendRingProducer : Nat
  recvRingProducer : Nat
  lastRecvPos : Nat
  lastNotifiedRecvPos : Nat
  remoteConsumerPos : Nat
  unsignaledCount : Nat
  pendingCalls : Slab U
  flushStartPos : Nat
  respReservation : Nat
  maxRespReservation : Nat
  peerCreditBalance : Nat
  metaPos : Nat
  batchMessageCount : Nat
  needsDoorbell : Bool
  isDirty : Bool
  qp : SendQueue WriteImm
  /-- Auxiliary: the batch whose metadata block was last encoded, and all that was ever added to
  `respReservation`. No operation reads them. -/
  filled : Batch
  respAdded : Nat

def signalInterval : Nat := 64

def maxInlineOnly : Nat := 220

def maxInlineHybrid : Nat := 204

namespace EndpointInner

variable {U : Type}

def new (config : EndpointConfig) (recvRingMr : MemoryRegion) : EndpointInner U where
  sendRing := fun _ => 0
  sendRingLen := config.sendRingSize.nextPowerOfTwo
  recvRing := fun _ => 0
  recvRingLen := config.recvRingSize.nextPowerOfTwo
  recvRingMr
  remoteRecvRing := none
  sendRingProducer := 0
  recvRingProducer := 0
  lastRecvPos := 0
  lastNotifiedRecvPos := 0
  remoteConsumerPos := 0
  unsignaledCount := 0
  pendingCalls := Slab.new
  flushStartPos := 0
  respReservation := 0
  maxRespReservation := min config.maxRespReservation (config.sendRingSize / 4)
  peerCreditBalance := 0
  metaPos := 0
  batchMessageCount := 0
  needsDoorbell := false
  isDirty := false
  qp := { posted := [], answers := [] }
  filled := {
    metadata := { ringCreditReturn := 0, creditGrant := 0, messageCount := 0 }, messages := [] }
  respAdded := 0

def localInfo (ep : EndpointInner U) : LocalEndpointInfo where
  recvRingAddr := ep.recvRingMr.addr
  recvRingRkey := ep.recvRingMr.rkey
  recvRingSize := ep.recvRingLen
  initialCredit := min ep.maxRespReservation (ep.sendRingLen / 4)

def prepareNextBatch (ep : EndpointInner U) : EndpointInner U :=
  { ep with
    metaPos := ep.sendRingProducer
    batchMessageCount := 0
    sendRingProducer := ep.sendRingProducer + flowMetadataSize }

def connect (ep : EndpointInner U) (remote : LocalEndpointInfo) : EndpointInner U :=
  let initialCredit := min ep.maxRespReservation (remote.recvRingSize / 4)
  prepareNextBatch { ep with
    remoteRecvRing := some {
      addr := remote.recvRingAddr, rkey := remote.recvRingRkey, size := remote.recvRingSize }
    respReservation := initialCredit
    respAdded := initialCredit
    peerCreditBalance := remote.initialCredit }

def computeCreditGrant (ep : EndpointInner U) : Nat :=
  match ep.remoteRecvRing with
  | none => 0
  | some remoteRing =>
    let inFlight := ep.sendRingProducer - ep.remoteConsumerPos
    let maxByInvariant := (remoteRing.size - inFlight) / 2 - ep.respReservation
    let maxByPolicy := ep.maxRespReservation - ep.respReservation
    alignDown (min maxByInvariant maxByPolicy)

def currentMetadata (ep : EndpointInner U) (messageCount : Nat) : FlowMetadata where
  ringCreditReturn := ep.lastRecvPos - ep.lastNotifiedRecvPos
  creditGrant := ep.computeCreditGrant
  messageCount

def openMessages (ep : EndpointInner U) : List Message :=
  messageFraming.readFrames ep.sendRing
    (maskOffset ep.metaPos ep.sendRingLen + flowMetadataSize) ep.batchMessageCount

/-- Encode the metadata block at `metaPos` and book what it hands over. -/
def encodeMetadata (ep : EndpointInner U) (messageCount : Nat) (messages : List Message) :
    EndpointInner U :=
  let metadata := ep.currentMetadata messageCount
  { ep with
    lastNotifiedRecvPos := ep.lastRecvPos
    respReservation := ep.respReservation + metadata.creditGrant
    respAdded := ep.respAdded + metadata.creditGrant
    sendRing := ep.sendRing.write (maskOffset ep.metaPos ep.sendRingLen)
      (encodeFlowMetadata metadata)
    filled := { metadata, messages } }

def fillMetadata (ep : EndpointInner U) : EndpointInner U :=
  ep.encodeMetadata ep.batchMessageCount ep.openMessages

/-- The first half of `emit_wrap`: the metadata block becomes the wrap marker. -/
def placeWrap (ep : EndpointInner U) : EndpointInner U :=
  let ep := { ep with sendRingProducer := ep.metaPos }
  let remaining := ep.sendRingLen - maskOffset ep.metaPos ep.sendRingLen
  { ep.encodeMetadata wrapMessageCount [] with sendRingProducer := ep.metaPos + remaining }

/-- Inline data, and past 220 bytes an SGE for the rest whose length field is a `u32`. -/
def wireBytes (ep : EndpointInner U) (startOffset delta : Nat) : List UInt8 :=
  if delta ≤ maxInlineOnly then
    ep.sendRing.read startOffset delta
  else
    ep.sendRing.read startOffset maxInlineHybrid ++
      ep.sendRing.read (startOffset + maxInlineHybrid) (asU32 (delta - maxInlineHybrid))

def writeImm (ep : EndpointInner U) (remoteRing : RemoteRingInfo) : WriteImm :=
  let start := ep.flushStartPos
  let stop := ep.sendRingProducer
  let startOffset := maskOffset start ep.sendRingLen
  { start, stop
    remoteAddr := remoteRing.addr + maskOffset start remoteRing.size
    rkey := remoteRing.rkey
    imm := encodeImm (stop - start)
    payload := ep.wireBytes startOffset (stop - start)
    signaled := signalInterval ≤ ep.unsignaledCount
    batch := ep.filled }

def posting (ep : EndpointInner U) (remoteRing : RemoteRingInfo) : EndpointInner U :=
  { ep with
    qp := ep.qp.accept (ep.writeImm remoteRing)
    unsignaledCount := if signalInterval ≤ ep.unsignaledCount then 0 else ep.unsignaledCount + 1
    flushStartPos := ep.sendRingProducer
    needsDoorbell := true }

def refused (ep : EndpointInner U) : EndpointInner U := { ep with qp := ep.qp.refuse }

def emitRaw (ep : EndpointInner U) : Except Error Bool × EndpointInner U :=
  match ep.remoteRecvRing with
  | none => (.error .remoteConsumerUnknown, ep)
  | some remoteRing =>
    if ep.flushStartPos = ep.sendRingProducer then (.ok false, ep)
    else if ep.qp.full then (.error .io, ep.refused)
    else (.ok true, ep.posting remoteRing)

def emitWqe (ep : EndpointInner U) : Except Error Bool × EndpointInner U :=
  if ep.batchMessageCount = 0 then (.ok false, ep)
  else tryThen id ep.fillMetadata.emitRaw fun ep => (.ok true, ep.prepareNextBatch)

def ringDoorbell (ep : EndpointInner U) : EndpointInner U :=
  if ep.needsDoorbell then { ep with needsDoorbell := false } else ep

def flush (ep : EndpointInner U) : Except Error Unit × EndpointInner U :=
  tryThen id ep.emitWqe fun ep => (.ok (), ep.ringDoorbell)

def emitWrap (ep : EndpointInner U) : Except Error Unit × EndpointInner U :=
  tryThen id ep.placeWrap.emitRaw fun ep => (.ok (), ep.prepareNextBatch)

/-- The batch with `totalSize` more bytes would reach the end of the cycle. -/
def wrapNeeded (ep : EndpointInner U) (totalSize : Nat) : Bool :=
  let batchSpan := (ep.sendRingProducer - ep.metaPos) + totalSize
  ep.sendRingLen ≤ maskOffset ep.metaPos ep.sendRingLen + batchSpan

def handleWrapIfNeeded (ep : EndpointInner U) (totalSize : Nat) :
    Except Error Bool × EndpointInner U :=
  if !ep.wrapNeeded totalSize then (.ok false, ep)
  else
    let closed : Except Error Unit × EndpointInner U :=
      if 0 < ep.batchMessageCount then
        tryThen id ep.fillMetadata.emitRaw fun ep =>
          (.ok (), prepareNextBatch { ep with flushStartPos := ep.sendRingProducer })
      else (.ok (), ep)
    tryThen id closed fun ep => tryThen id ep.emitWrap fun ep => (.ok true, ep)

/-- Lay out a message at the producer and count it in the open batch. -/
def appendMessage (ep : EndpointInner U) (header : MessageHeader) (data : List UInt8) :
    EndpointInner U :=
  { ep with
    sendRing := messageFraming.writeFrame ep.sendRing
      (maskOffset ep.sendRingProducer ep.sendRingLen) header data
    sendRingProducer := ep.sendRingProducer + paddedMessageSize (asU32 data.length)
    batchMessageCount := ep.batchMessageCount + 1
    isDirty := true }

/-- What `call` reserves at the peer for a response of `responseAllowance` bytes. -/
def internalAllowance (responseAllowance : Nat) : Nat :=
  alignUp (paddedMessageSize (asU32 responseAllowance) + flowMetadataSize)

def requestHeader (key responseAllowance : Nat) : MessageHeader where
  callId := UInt32.ofNat key
  piggyback := UInt32.ofNat (internalAllowance responseAllowance / alignment)

def acceptCall (ep : EndpointInner U) (key : Nat) (data : List UInt8) (userData : U)
    (responseAllowance : Nat) : EndpointInner U :=
  let ep := { ep with pendingCalls := ep.pendingCalls.insert key userData }
  let ep := ep.appendMessage (requestHeader key responseAllowance) data
  { ep with peerCreditBalance := ep.peerCreditBalance - internalAllowance responseAllowance }

def call (ep : EndpointInner U) (key : Nat) (data : List UInt8) (userData : U)
    (responseAllowance : Nat) : Except (CallError U) UInt32 × EndpointInner U :=
  match ep.remoteRecvRing with
  | none => (.error (.other .remoteConsumerUnknown), ep)
  | some remoteRing =>
    if ep.peerCreditBalance < internalAllowance responseAllowance then
      tryThen .other ep.flush fun ep => (.error (.insufficientCredit userData), ep)
    else
      let msgSize := paddedMessageSize (asU32 data.length)
      tryThen .other (ep.handleWrapIfNeeded msgSize) fun ep =>
        let available := remoteRing.size - (ep.sendRingProducer - ep.remoteConsumerPos)
        if available < msgSize + 2 * ep.respReservation then
          tryThen .other ep.flush fun ep => (.error (.ringFull userData), ep)
        else
          (.ok (UInt32.ofNat key), ep.acceptCall key data userData responseAllowance)

def responseHeader (handle : RecvMessage) : MessageHeader where
  callId := toResponseId handle.callId
  piggyback := 0

def acceptReply (ep : EndpointInner U) (handle : RecvMessage) (data : List UInt8) :
    EndpointInner U :=
  let ep := { ep with respReservation := ep.respReservation - handle.responseAllowance }
  ep.appendMessage (responseHeader handle) data

def reply (ep : EndpointInner U) (handle : RecvMessage) (data : List UInt8) :
    Except Error Unit × EndpointInner U :=
  match ep.remoteRecvRing with
  | none => (.error .remoteConsumerUnknown, ep)
  | some _ =>
    tryThen id (ep.handleWrapIfNeeded (paddedMessageSize (asU32 data.length))) fun ep =>
      (.ok (), ep.acceptReply handle data)

/-- The offset of a wrap is taken after the metadata block, where it may already be 0. -/
def processCqeStatic (ep : EndpointInner U) (imm : Nat) :
    EndpointInner U × List (Event RecvMessage U) :=
  let pos := ep.lastRecvPos
  let metadata := decodeFlowMetadata
    (ep.recvRing.read (maskOffset pos ep.recvRingLen) flowMetadataSize)
  let ep := { ep with
    recvRingProducer := ep.recvRingProducer + decodeImm imm
    remoteConsumerPos := ep.remoteConsumerPos + metadata.ringCreditReturn
    peerCreditBalance := ep.peerCreditBalance + metadata.creditGrant }
  let pos := pos + flowMetadataSize
  if metadata.messageCount = wrapMessageCount then
    let remaining := ep.recvRingLen - maskOffset pos ep.recvRingLen
    ({ ep with lastRecvPos := pos + remaining }, [])
  else
    let result := processMessages messageWire ep.recvRing ep.recvRingLen metadata.messageCount pos
      ep.pendingCalls
    ({ ep with lastRecvPos := result.1, pendingCalls := result.2.1 }, result.2.2)

theorem processCqeStatic_shape (ep : EndpointInner U) (imm : Nat) :
    ∃ recvRingProducer lastRecvPos remoteConsumerPos peerCreditBalance pendingCalls,
      ep.lastRecvPos ≤ lastRecvPos ∧ ep.remoteConsumerPos ≤ remoteConsumerPos ∧
      (ep.processCqeStatic imm).1 = { ep with
        recvRingProducer, lastRecvPos, remoteConsumerPos, peerCreditBalance, pendingCalls } := by
  simp only [processCqeStatic]
  split
  · exact ⟨_, _, _, _, _, by omega, Nat.le_add_right .., rfl⟩
  · exact ⟨_, _, _, _, _, (Nat.le_add_right ..).trans (le_processMessages ..), Nat.le_add_right .., rfl⟩

end EndpointInner

end Locasta.Copyrpc.Rc
