import Locasta.Copyrpc.Dc.Emission
import Locasta.Copyrpc.Outlet

namespace Locasta.Copyrpc.Dc

open Data

/-! What a sending endpoint keeps, whatever its send queue refuses. -/

/-- Where the WRITEs for an endpoint go: its receive ring, and the id that they name. -/
structure Target where
  ring : RemoteRingInfo
  endpointId : UInt32

def WriteImm.parcel (write : WriteImm) : Parcel UInt32 where
  toSegment := write.toSegment
  block := encodeBatchHeader write.batch.header
  messages := write.batch.messages

structure WriteImm.Emitted (target : Target) (size : Nat) (write : WriteImm) : Prop where
  sound : write.parcel.Sound (messageWire target.endpointId) (2 ^ 32 - 1)
  remoteAddr : write.remoteAddr = target.ring.addr + maskOffset write.start target.ring.size
  imm : write.imm = target.endpointId
  delta : write.batch.header.delta = write.stop - write.start
  shape : (write.batch.header.messageCount = write.batch.messages.length ∧
        write.stop = write.start + flowMetadataSize +
          messageFraming.totalSize write.batch.messages) ∨
      (write.batch.header.messageCount = wrapMessageCount ∧ write.batch.messages = [] ∧
        write.stop = cycleEnd write.start size)

namespace EndpointInner

variable {U : Type} {target : Target} {dct : RemoteDctInfo} {size messageCount : Nat}
  {stream : List Message} {ep : EndpointInner U}

def segments (ep : EndpointInner U) : List Segment := ep.dci.posted.map WriteImm.toSegment

def outlet (ep : EndpointInner U) : Outlet WriteImm where
  ring := ep.sendRing
  size := ep.sendRingLen
  flushStart := ep.flushStartPos
  metaPos := ep.metaPos
  producer := ep.sendRingProducer
  count := ep.batchMessageCount
  posted := ep.dci.posted

theorem placed_of_hasCycleRoomFor {msgSize : Nat} (reserved : ep.metaPos < ep.sendRingProducer)
    (room : ep.hasCycleRoomFor msgSize = true) : ep.outlet.Placed msgSize := by
  left
  simp only [hasCycleRoomFor, decide_eq_true_eq] at room
  change ¬ ep.sendRingLen ≤ maskOffset ep.metaPos ep.sendRingLen +
    (ep.sendRingProducer - ep.metaPos + msgSize)
  omega

/-- The producer stands behind the messages of the open batch. -/
def Settled (ep : EndpointInner U) : Prop :=
  ep.sendRingProducer = ep.metaPos + flowMetadataSize + messageFraming.totalSize ep.openMessages

/-- The posted WRITEs and the open batch carry the messages of `stream`. -/
structure Sending (target : Target) (size : Nat) (stream : List Message) (ep : EndpointInner U) :
    Prop where
  attached : ep.Attached target.ring
  endpoint : ep.remoteEndpointId = target.endpointId
  ringLen : ep.sendRingLen = size
  outlet : Outlet.Sending (messageWire target.endpointId) WriteImm.parcel
    (WriteImm.Emitted target size) stream ep.outlet
  /-- Only a refused wrap moves the producer elsewhere, and it stays noted. -/
  settled : ep.wrapPending = false → ep.Settled
  starts : ∀ entry ∈ ep.starts, entry.1 = entry.2

theorem openMessages_length (ep : EndpointInner U) : ep.openMessages.length = ep.batchMessageCount :=
  Framing.readFrames_length ..

theorem openMessages_of_empty (empty : ep.batchMessageCount = 0) : ep.openMessages = [] := by
  rw [openMessages, empty]
  rfl

theorem placeWrap_producer (power : ep.sendRingLen.isPowerOfTwo) :
    ep.placeWrap.sendRingProducer = cycleEnd ep.metaPos ep.sendRingLen := by
  change ep.metaPos + (ep.sendRingLen - maskOffset ep.metaPos ep.sendRingLen) = _
  rw [maskOffset_eq_mod power, cycleEnd]

def currentWrite (ep : EndpointInner U) (ring : RemoteRingInfo) (dct : RemoteDctInfo)
    (messageCount : Nat) : WriteImm :=
  (ep.fillHeader (ep.currentBatch messageCount).header).writeImm ring dct
    (ep.currentBatch messageCount)

theorem currentWrite_emitted
    (outlet : Outlet.Sending (messageWire target.endpointId) WriteImm.parcel
      (WriteImm.Emitted target size) stream ep.outlet)
    (endpoint : ep.remoteEndpointId = target.endpointId)
    (covers : ep.metaPos + flowMetadataSize + messageFraming.totalSize ep.openMessages ≤
      ep.sendRingProducer)
    (ends : alignment ∣ ep.sendRingProducer)
    (shape : (messageCount = ep.batchMessageCount ∧ ep.Settled) ∨
      (messageCount = wrapMessageCount ∧ ep.batchMessageCount = 0 ∧
        ep.sendRingProducer = cycleEnd ep.metaPos size)) :
    (ep.currentWrite target.ring dct messageCount).Emitted target size := by
  have start : ep.flushStartPos = ep.metaPos := outlet.start
  have tail : asU32 (ep.sendRingProducer - ep.flushStartPos) < 2 ^ 32 := Nat.mod_lt _ (by decide)
  refine ⟨outlet.sound start rfl covers ends (encodeBatchHeader_length _) ?_ ?_ ?_, rfl, endpoint,
    rfl, ?_⟩
  · change (Memory.read _ _ _).length < 2 ^ 33
    rw [Memory.read_length]
    exact tail.trans (by decide)
  · intro short
    change (Memory.read _ _ _).length = _
    rw [Memory.read_length]
    exact Nat.mod_eq_of_lt (Nat.lt_of_le_of_lt short (by decide))
  · intro complete
    change (Memory.read _ _ (asU32 _)).length = ep.sendRingProducer - ep.flushStartPos at complete
    rw [Memory.read_length] at complete
    change Memory.read (ep.sendRing.write (maskOffset ep.flushStartPos ep.sendRingLen) _)
      (maskOffset ep.flushStartPos ep.sendRingLen) (asU32 _) =
        Memory.read _ _ (ep.sendRingProducer - ep.flushStartPos)
    rw [complete, start]
    rfl
  · rcases shape with ⟨count, settled⟩ | ⟨count, empty, boundary⟩
    · left
      refine ⟨count.trans (openMessages_length ep).symm, ?_⟩
      change ep.sendRingProducer = ep.flushStartPos + _ + messageFraming.totalSize ep.openMessages
      rw [start]
      exact settled
    · refine .inr ⟨count, openMessages_of_empty empty, ?_⟩
      change ep.sendRingProducer = cycleEnd ep.flushStartPos size
      rw [start]
      exact boundary

namespace Sending

variable (sending : Sending target size stream ep)
include sending

theorem contiguous : Contiguous ep.segments := sending.outlet.contiguous

theorem frontier : frontier ep.segments = ep.flushStartPos := sending.outlet.frontier

theorem power : size.isPowerOfTwo := sending.ringLen ▸ sending.outlet.power

theorem start : ep.flushStartPos = ep.metaPos := sending.outlet.start

theorem congr {other : EndpointInner U}
    (ring : other.remoteRecvRing = ep.remoteRecvRing) (dct : other.remoteDct = ep.remoteDct)
    (endpoint : other.remoteEndpointId = ep.remoteEndpointId) (same : other.outlet = ep.outlet)
    (pending : other.wrapPending = false → ep.wrapPending = false)
    (starts : other.starts = ep.starts) : Sending target size stream other where
  attached := sending.attached.congr ring dct
  endpoint := endpoint.trans sending.endpoint
  ringLen := (congrArg Outlet.size same).trans sending.ringLen
  outlet := same ▸ sending.outlet
  settled := by
    intro none
    have before := sending.settled (pending none)
    change other.outlet.producer = other.outlet.metaPos + flowMetadataSize +
      messageFraming.totalSize (other.outlet.openMessages (messageWire target.endpointId))
    rw [same]
    exact before
  starts := starts ▸ sending.starts

theorem flags (isDirty : Bool) (newlySignaledCount : Nat)
    {wrapPending : Bool} (noted : ep.wrapPending = true → wrapPending = true) :
    Sending target size stream { ep with isDirty, newlySignaledCount, wrapPending } := by
  refine sending.congr rfl rfl rfl rfl ?_ rfl
  rintro rfl
  exact Bool.eq_false_of_not_eq_true fun pending => absurd (noted pending) (by decide)

theorem starts_fill :
    ∀ entry ∈ ep.starts ++ [(ep.flushStartPos, ep.metaPos)], entry.1 = entry.2 := by
  exact List.forall_mem_append.mpr ⟨sending.starts, List.forall_mem_singleton.mpr sending.start⟩

theorem close_emitted (dct : RemoteDctInfo) (settled : ep.Settled) :
    (ep.currentWrite target.ring dct ep.batchMessageCount).Emitted target size :=
  currentWrite_emitted sending.outlet sending.endpoint (Nat.le_of_eq settled.symm)
    (sending.outlet.producer_dvd settled) (.inl ⟨rfl, settled⟩)

theorem close (settled : ep.Settled) :
    Sending target size stream (ep.closeBatch target.ring dct) where
  attached := sending.attached.congr rfl rfl
  endpoint := sending.endpoint
  ringLen := sending.ringLen
  outlet := by
    have emitted := sending.close_emitted dct settled
    exact sending.outlet.post _ emitted emitted.sound sending.start rfl
  settled _ := rfl
  starts := sending.starts_fill

theorem settled_of_nonempty (nonempty : 0 < ep.batchMessageCount) : ep.Settled :=
  sending.outlet.producer nonempty

theorem closeRefused (messageCount : Nat) :
    Sending target size stream (ep.refuseBatch messageCount) := by
  have refilled := sending.outlet.refill
    (encodeBatchHeader_length (ep.currentBatch messageCount).header)
  have same : (ep.refuseBatch messageCount).outlet =
      ep.outlet.fill (encodeBatchHeader (ep.currentBatch messageCount).header) := by
    have start := sending.start
    simp only [EndpointInner.outlet, Outlet.fill, refuseBatch, refused, fillHeader, start]
    rfl
  have messages : (ep.refuseBatch messageCount).openMessages = ep.openMessages := by
    change Outlet.openMessages (messageWire target.endpointId) (ep.refuseBatch messageCount).outlet = _
    rw [same]
    exact Outlet.openMessages_fill (encodeBatchHeader_length _)
  exact { sending with
    attached := sending.attached.congr rfl rfl
    outlet := same ▸ refilled
    settled := by
      intro none
      rw [Settled, messages]
      exact sending.settled none
    starts := sending.starts_fill }

theorem placeWrap (empty : ep.batchMessageCount = 0) :
    Outlet.Sending (messageWire target.endpointId) WriteImm.parcel (WriteImm.Emitted target size)
      stream ep.placeWrap.outlet := by
  have stalled := sending.outlet.stall empty ep.sendRing
  have boundary := placeWrap_producer sending.outlet.power
  change Outlet.Sending _ _ _ _ { ep.outlet with
    ring := ep.sendRing, producer := ep.placeWrap.sendRingProducer }
  rw [boundary]
  exact stalled

theorem wrap_emitted (dct : RemoteDctInfo) (empty : ep.batchMessageCount = 0) :
    (ep.placeWrap.currentWrite target.ring dct wrapMessageCount).Emitted target size := by
  have boundary := placeWrap_producer sending.outlet.power
  have messages : ep.placeWrap.openMessages = [] := openMessages_of_empty empty
  refine currentWrite_emitted (sending.placeWrap empty) sending.endpoint ?_ ?_
    (.inr ⟨rfl, empty, sending.ringLen ▸ boundary⟩)
  · rw [messages, boundary]
    exact sending.outlet.add_block_le_cycleEnd
  · rw [boundary]
    exact dvd_cycleEnd sending.outlet.aligned sending.outlet.ringDvd

theorem wrap (empty : ep.batchMessageCount = 0) :
    Sending target size stream (ep.wrapBatch target.ring dct) where
  attached := sending.attached.congr rfl rfl
  endpoint := sending.endpoint
  ringLen := sending.ringLen
  outlet := by
    have emitted := sending.wrap_emitted dct empty
    exact (sending.placeWrap empty).post _ emitted emitted.sound sending.start rfl
  settled _ := rfl
  starts := sending.starts_fill

theorem wrapRefused (empty : ep.batchMessageCount = 0) (pending : ep.wrapPending = true) :
    Sending target size stream (ep.placeWrap.refuseBatch wrapMessageCount) := by
  have stalled := sending.outlet.stall empty (ep.placeWrap.refuseBatch wrapMessageCount).sendRing
  have boundary := placeWrap_producer sending.outlet.power
  exact { sending with
    attached := sending.attached.congr rfl rfl
    outlet := by
      change Outlet.Sending _ _ _ _ { ep.outlet with
        ring := (ep.placeWrap.refuseBatch wrapMessageCount).sendRing
        producer := ep.placeWrap.sendRingProducer }
      rw [boundary]
      exact stalled
    settled := by
      intro none
      rw [show ep.wrapPending = false from none] at pending
      cases pending
    starts := sending.starts_fill }

theorem append (callId : UInt32) {data : List UInt8}
    (room : ep.hasCycleRoomFor (dcPaddedMessageSize (asU32 data.length)) = true) :
    Sending target size (stream ++ [messageFraming.stored callId data])
      (ep.appendMessage callId data) := by
  have placed := placed_of_hasCycleRoomFor sending.outlet.reserved room
  have appended := sending.outlet.append callId placed (by
    change dcPaddedMessageSize (data.take (data.length % 2 ^ 32)).length = _
    rw [List.length_take, Nat.min_eq_left (Nat.mod_le ..)]
    rfl)
  exact { sending with
    attached := sending.attached.congr rfl rfl
    outlet := appended
    settled _ := appended.producer (Nat.succ_pos _) }

end Sending

def returnedCredit (ep : EndpointInner U) : Nat :=
  (ep.dci.posted.map fun write => write.batch.header.ringCreditReturn).sum

structure Returning (ep : EndpointInner U) : Prop where
  returned : ep.returnedCredit ≤ ep.lastNotifiedRecvPos
  notified : ep.lastNotifiedRecvPos ≤ ep.lastRecvPos

theorem returnedCredit_postBatch (ep : EndpointInner U) (ring : RemoteRingInfo)
    (dct : RemoteDctInfo) (messageCount : Nat) :
    (ep.postBatch ring dct messageCount).returnedCredit =
      ep.returnedCredit + (ep.lastRecvPos - ep.lastNotifiedRecvPos) := by
  change (List.map _ (ep.dci.posted ++ [_])).sum = _
  rw [List.map_append, List.sum_append]
  rfl

theorem Returning.postBatch (returning : ep.Returning) (ring : RemoteRingInfo)
    (dct : RemoteDctInfo) (messageCount : Nat) : (ep.postBatch ring dct messageCount).Returning where
  returned := by
    have bound := returning.returned
    have order := returning.notified
    rw [returnedCredit_postBatch]
    change _ ≤ ep.lastRecvPos
    omega
  notified := Nat.le_refl _

theorem Returning.refuseBatch (returning : ep.Returning) (messageCount : Nat) :
    (ep.refuseBatch messageCount).Returning :=
  ⟨returning.returned.trans returning.notified, Nat.le_refl _⟩

/-- The posted WRITEs stay, and credit is only returned once it is booked. -/
theorem outgoing_stable (old : List WriteImm) :
    Stable target.ring (fun _ => True) (fun _ => True) (fun ep : EndpointInner U =>
      Sending target size stream ep ∧ old <+: ep.dci.posted ∧ ep.Returning) where
  attached holds := holds.1.attached
  flags := by
    rintro ep ⟨sending, kept, returning⟩ isDirty newlySignaledCount wrapPending noted
    exact ⟨sending.flags isDirty newlySignaledCount noted, kept, returning.returned,
      returning.notified⟩
  close := by
    rintro ep dct ⟨sending, kept, returning⟩ nonempty _
    exact ⟨sending.close (sending.settled_of_nonempty nonempty),
      kept.trans (List.prefix_append ..), returning.postBatch ..⟩
  closeRefused := by
    rintro ep ⟨sending, kept, returning⟩ _ _
    exact ⟨sending.closeRefused _, kept, returning.refuseBatch _⟩
  wrap := by
    rintro ep dct ⟨sending, kept, returning⟩ empty _ _
    have placed : ep.placeWrap.Returning := ⟨returning.returned, returning.notified⟩
    have posted := placed.postBatch target.ring dct wrapMessageCount
    exact ⟨sending.wrap empty, kept.trans (List.prefix_append ..), ⟨posted.returned, posted.notified⟩⟩
  wrapRefused := by
    rintro ep ⟨sending, kept, returning⟩ empty pending _ _
    exact ⟨sending.wrapRefused empty pending, kept,
      returning.returned.trans returning.notified, Nat.le_refl _⟩
  credit := by
    rintro ep dct ⟨sending, kept, returning⟩ empty noWrap _ _
    rw [postBatch_zero empty]
    exact ⟨sending.close (sending.settled noWrap), kept.trans (List.prefix_append ..),
      returning.postBatch ..⟩
  creditRefused := by
    rintro ep ⟨sending, kept, returning⟩ _ _ _ _
    exact ⟨sending.closeRefused _, kept, returning.refuseBatch _⟩

end EndpointInner

end Locasta.Copyrpc.Dc
