import Locasta.Copyrpc.Outlet
import Locasta.Copyrpc.Rc.Emission

namespace Locasta.Copyrpc.Rc

open Data

/-! What a sending endpoint keeps, whatever its send queue refuses: the layout of
the open batch, the shape of every WRITE posted so far, and the messages handed
over in the order in which they were accepted. -/

def WriteImm.parcel (write : WriteImm) : Parcel MessageHeader where
  toSegment := write.toSegment
  block := encodeFlowMetadata write.batch.metadata
  messages := write.batch.messages

/-- A WRITE as `emit_raw` builds it from a finished batch. -/
structure WriteImm.Emitted (ring : RemoteRingInfo) (size : Nat) (write : WriteImm) : Prop where
  sound : write.parcel.Sound messageWire (2 ^ 32)
  remoteAddr : write.remoteAddr = ring.addr + maskOffset write.start ring.size
  imm : write.imm = encodeImm (write.stop - write.start)
  shape : (write.batch.metadata.messageCount = write.batch.messages.length ∧
        write.batch.messages ≠ [] ∧
        write.stop = write.start + flowMetadataSize +
          messageFraming.totalSize write.batch.messages) ∨
      (write.batch.metadata.messageCount = wrapMessageCount ∧ write.batch.messages = [] ∧
        write.stop = cycleEnd write.start size)

def granted (writes : List WriteImm) : Nat :=
  (writes.map fun write => write.batch.metadata.creditGrant).sum

namespace EndpointInner

variable {U : Type} {ring : RemoteRingInfo} {size : Nat} {stream : List Message}
  {ep : EndpointInner U}

def segments (ep : EndpointInner U) : List Segment := ep.qp.posted.map WriteImm.toSegment

def laidOut (ep : EndpointInner U) : List Message :=
  ep.qp.posted.flatMap (fun write => write.batch.messages) ++ ep.openMessages

def outlet (ep : EndpointInner U) : Outlet WriteImm where
  ring := ep.sendRing
  size := ep.sendRingLen
  flushStart := ep.flushStartPos
  metaPos := ep.metaPos
  producer := ep.sendRingProducer
  count := ep.batchMessageCount
  posted := ep.qp.posted

theorem Placed.outlet {count : Nat} (placed : ep.Placed count) : ep.outlet.Placed count := by
  rcases placed with fits | fresh
  · exact .inl (of_decide_eq_false fits)
  · exact .inr fresh

structure Sending (ring : RemoteRingInfo) (size : Nat) (stream : List Message)
    (ep : EndpointInner U) : Prop where
  connected : ep.remoteRecvRing = some ring
  ringLen : ep.sendRingLen = size
  outlet : Outlet.Sending messageWire WriteImm.parcel (WriteImm.Emitted ring size) stream ep.outlet

variable {offset delta : Nat}

theorem wireBytes_of_length (complete : (ep.wireBytes offset delta).length = delta) :
    ep.wireBytes offset delta = ep.sendRing.read offset delta := by
  unfold wireBytes at complete ⊢
  split
  · rfl
  · rename_i long
    simp only [if_neg long, List.length_append, Memory.read_length] at complete
    rw [← Memory.read_add, complete]

theorem wireBytes_length (short : delta ≤ 2 ^ 32) : (ep.wireBytes offset delta).length = delta := by
  unfold wireBytes
  split
  · exact Memory.read_length ..
  · rename_i long
    have tail : asU32 (delta - maxInlineHybrid) = delta - maxInlineHybrid :=
      Nat.mod_eq_of_lt (by unfold maxInlineHybrid; omega)
    rw [List.length_append, Memory.read_length, Memory.read_length, tail]
    unfold maxInlineOnly at long
    unfold maxInlineHybrid
    omega

theorem wireBytes_length_lt : (ep.wireBytes offset delta).length < 2 ^ 33 := by
  unfold wireBytes
  split
  · rename_i short
    rw [Memory.read_length]
    unfold maxInlineOnly at short
    omega
  · have tail : asU32 (delta - maxInlineHybrid) < 2 ^ 32 := Nat.mod_lt _ (by decide)
    rw [List.length_append, Memory.read_length, Memory.read_length]
    unfold maxInlineHybrid at *
    omega

theorem openMessages_length (ep : EndpointInner U) : ep.openMessages.length = ep.batchMessageCount :=
  Framing.readFrames_length ..

theorem openMessages_of_empty (empty : ep.batchMessageCount = 0) : ep.openMessages = [] := by
  rw [openMessages, empty]
  rfl

namespace Sending

variable (sending : Sending ring size stream ep)
include sending

theorem ready : ep.Ready ring where
  connected := sending.connected
  start := sending.outlet.start
  reserved := sending.outlet.reserved
  ringLen := sending.outlet.power

theorem emitted : ∀ write ∈ ep.qp.posted, write.Emitted ring size := sending.outlet.valid

theorem contiguous : Contiguous ep.segments := sending.outlet.contiguous

theorem frontier : frontier ep.segments = ep.flushStartPos := sending.outlet.frontier

theorem ringDvd : alignment ∣ size := sending.ringLen ▸ sending.outlet.ringDvd

theorem congr {other : EndpointInner U}
    (remote : other.remoteRecvRing = ep.remoteRecvRing) (same : other.outlet = ep.outlet) :
    Sending ring size stream other where
  connected := remote.trans sending.connected
  ringLen := (congrArg Outlet.size same).trans sending.ringLen
  outlet := same ▸ sending.outlet

theorem doorbell : Sending ring size stream ep.ringDoorbell := by
  unfold ringDoorbell
  split
  · exact sending.congr rfl rfl
  · exact sending

theorem sound (filled : EndpointInner U)
    (sendRing : filled.sendRing = (ep.outlet.fill (encodeFlowMetadata filled.filled.metadata)).ring)
    (len : filled.sendRingLen = ep.sendRingLen) (start : filled.flushStartPos = ep.flushStartPos)
    (messages : filled.filled.messages = ep.openMessages)
    (covers : ep.metaPos + flowMetadataSize + messageFraming.totalSize ep.openMessages ≤
      filled.sendRingProducer)
    (ends : alignment ∣ filled.sendRingProducer) :
    (filled.writeImm ring).parcel.Sound messageWire (2 ^ 32) := by
  have place : filled.flushStartPos = ep.metaPos := start.trans sending.outlet.start
  refine sending.outlet.sound place messages covers ends (encodeFlowMetadata_length _)
    wireBytes_length_lt wireBytes_length ?_
  intro complete
  refine (wireBytes_of_length complete).trans ?_
  change _ = Memory.read _ _ (filled.sendRingProducer - filled.flushStartPos)
  rw [sendRing, len, place]
  rfl

theorem close_emitted (nonempty : 0 < ep.batchMessageCount) :
    (ep.fillMetadata.writeImm ring).Emitted ring size := by
  have start : ep.flushStartPos = ep.metaPos := sending.outlet.start
  have producer : ep.sendRingProducer =
      ep.metaPos + flowMetadataSize + messageFraming.totalSize ep.openMessages :=
    sending.outlet.producer nonempty
  refine ⟨sending.sound ep.fillMetadata rfl rfl rfl rfl (Nat.le_of_eq producer.symm)
    (sending.outlet.producer_dvd producer), rfl, rfl,
    .inl ⟨(openMessages_length ep).symm, ?_, ?_⟩⟩
  · intro empty
    have length := openMessages_length ep
    rw [show ep.openMessages = [] from empty, List.length_nil] at length
    omega
  · change ep.sendRingProducer = ep.flushStartPos + _ + _
    rw [start, producer]
    rfl

theorem wrap_emitted (empty : ep.batchMessageCount = 0) :
    (ep.placeWrap.writeImm ring).Emitted ring size := by
  have start : ep.flushStartPos = ep.metaPos := sending.outlet.start
  have boundary := placeWrap_producer sending.outlet.power
  have messages : ep.openMessages = [] := openMessages_of_empty empty
  refine ⟨sending.sound ep.placeWrap rfl rfl rfl messages.symm ?_ ?_, rfl, rfl, .inr ⟨rfl, rfl, ?_⟩⟩
  · rw [messages, boundary]
    exact sending.outlet.add_block_le_cycleEnd
  · rw [boundary]
    exact dvd_cycleEnd sending.outlet.aligned sending.outlet.ringDvd
  · change ep.placeWrap.sendRingProducer = cycleEnd ep.flushStartPos size
    rw [boundary, start, sending.ringLen]

theorem close (nonempty : 0 < ep.batchMessageCount) :
    Sending ring size stream (ep.closeBatch ring) := by
  have emitted := sending.close_emitted nonempty
  have start : ep.flushStartPos = ep.metaPos := sending.outlet.start
  exact ⟨sending.connected, sending.ringLen,
    sending.outlet.post ep.fillMetadata.sendRing emitted emitted.sound start rfl⟩

theorem wrap (empty : ep.batchMessageCount = 0) : Sending ring size stream (ep.wrapBatch ring) := by
  have emitted := sending.wrap_emitted empty
  have start : ep.flushStartPos = ep.metaPos := sending.outlet.start
  exact ⟨sending.connected, sending.ringLen,
    sending.outlet.post ep.placeWrap.sendRing emitted emitted.sound start
      (openMessages_of_empty empty).symm⟩

theorem closeRefused : Sending ring size stream ep.fillMetadata.refused :=
  ⟨sending.connected, sending.ringLen, sending.outlet.refill (encodeFlowMetadata_length _)⟩

theorem wrapRefused (empty : ep.batchMessageCount = 0) :
    Sending ring size stream ep.placeWrap.refused := by
  have stalled := sending.outlet.stall empty ep.placeWrap.sendRing
  have boundary := placeWrap_producer sending.outlet.power
  refine ⟨sending.connected, sending.ringLen, ?_⟩
  change Outlet.Sending _ _ _ _ { ep.outlet with
    ring := ep.placeWrap.sendRing, producer := ep.placeWrap.sendRingProducer }
  rw [boundary]
  exact stalled

theorem append (header : MessageHeader) {data : List UInt8}
    (placed : ep.Placed (paddedMessageSize (asU32 data.length))) :
    Sending ring size (stream ++ [messageFraming.stored header data])
      (ep.appendMessage header data) := by
  refine ⟨sending.connected, sending.ringLen, sending.outlet.append header placed.outlet ?_⟩
  change paddedMessageSize (data.take (data.length % 2 ^ 32)).length = _
  rw [List.length_take, Nat.min_eq_left (Nat.mod_le ..)]
  rfl

end Sending

def returnedCredit (ep : EndpointInner U) : Nat :=
  (ep.qp.posted.map fun write => write.batch.metadata.ringCreditReturn).sum

/-- No more is returned than was booked as notified, and that only after it was received. -/
structure Returning (ep : EndpointInner U) : Prop where
  returned : ep.returnedCredit ≤ ep.lastNotifiedRecvPos
  notified : ep.lastNotifiedRecvPos ≤ ep.lastRecvPos

theorem returnedCredit_posting (ep : EndpointInner U) (ring : RemoteRingInfo) :
    (ep.posting ring).returnedCredit = ep.returnedCredit + ep.filled.metadata.ringCreditReturn := by
  simp [returnedCredit, posting, SendQueue.accept, writeImm]

theorem Returning.post {filled : EndpointInner U} (returning : ep.Returning)
    (posted : filled.returnedCredit = ep.returnedCredit)
    (received : filled.lastRecvPos = ep.lastRecvPos)
    (notified : filled.lastNotifiedRecvPos = ep.lastRecvPos)
    (metadata : filled.filled.metadata.ringCreditReturn = ep.lastRecvPos - ep.lastNotifiedRecvPos) :
    (filled.posting ring).prepareNextBatch.Returning := by
  have bound := returning.returned
  have order := returning.notified
  constructor
  · change (filled.posting ring).returnedCredit ≤ filled.lastNotifiedRecvPos
    rw [returnedCredit_posting, metadata, posted, notified]
    omega
  · change filled.lastNotifiedRecvPos ≤ filled.lastRecvPos
    rw [notified, received]

/-- The posted WRITEs stay, and credit is only returned once it is booked. -/
theorem outgoing_stable (old : List WriteImm) : Stable ring (fun _ => True)
    (fun ep : EndpointInner U =>
      Sending ring size stream ep ∧ old <+: ep.qp.posted ∧ ep.Returning) where
  ready holds := holds.1.ready
  doorbell := by
    rintro ep ⟨sending, kept, returning⟩
    refine ⟨sending.doorbell, ?_⟩
    unfold ringDoorbell
    split
    · exact ⟨kept, returning.returned, returning.notified⟩
    · exact ⟨kept, returning⟩
  close := by
    rintro ep ⟨sending, kept, returning⟩ nonempty _
    exact ⟨sending.close nonempty, kept.trans (List.prefix_append ..), returning.post rfl rfl rfl rfl⟩
  closeRefused := by
    rintro ep ⟨sending, kept, returning⟩ _ _
    exact ⟨sending.closeRefused, kept, returning.returned.trans returning.notified, Nat.le_refl _⟩
  wrap := by
    rintro ep ⟨sending, kept, returning⟩ empty _ _
    exact ⟨sending.wrap empty, kept.trans (List.prefix_append ..), returning.post rfl rfl rfl rfl⟩
  wrapRefused := by
    rintro ep ⟨sending, kept, returning⟩ empty _ _
    exact ⟨sending.wrapRefused empty, kept, returning.returned.trans returning.notified,
      Nat.le_refl _⟩

end EndpointInner

end Locasta.Copyrpc.Rc
