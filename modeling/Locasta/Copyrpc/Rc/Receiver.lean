import Locasta.Copyrpc.Rc.Sender

namespace Locasta.Copyrpc.Rc

open Data

/-! Processing a WRITE whose bytes are intact. The receiver then finds what the
sender laid out, and its position moves on by what its own arithmetic says. -/

variable {U : Type} {ring : RemoteRingInfo} {size : Nat} {write : WriteImm} {ep : EndpointInner U}

/-- Where the receiver's position goes. The padding of a wrap is computed behind the block. -/
def WriteImm.advance (size : Nat) (write : WriteImm) (pos : Nat) : Nat :=
  if write.batch.messages = [] then
    pos + flowMetadataSize + (size - (pos + flowMetadataSize) % size)
  else pos + (write.stop - write.start)

namespace WriteImm.Emitted

theorem decodeImm_imm {memory : Memory} (emitted : write.Emitted ring size)
    (intact : write.Intact size memory) : decodeImm write.imm = write.stop - write.start := by
  have whole : alignment ∣ write.stop - write.start :=
    Nat.dvd_sub emitted.sound.ends emitted.sound.aligned
  rw [emitted.imm]
  apply decodeImm_encodeImm whole
  rw [← intact.1.1]
  exact emitted.sound.bounded.trans (by decide)

theorem frames_at {memory : Memory} {pos : Nat} (emitted : write.Emitted ring size)
    (intact : write.Intact size memory) (positive : 0 < size)
    (position : pos % size = write.start % size) :
    messageWire.framing.readFrames memory ((pos + flowMetadataSize) % size)
        write.batch.messages.length = write.batch.messages ∧
      (pos + flowMetadataSize) % size + messageWire.framing.totalSize write.batch.messages ≤ size :=
  emitted.sound.frames_at intact positive position

end WriteImm.Emitted

namespace EndpointInner

/-- The endpoint after an intact WRITE. The two credit fields travel as `u64`. -/
def receive (ep : EndpointInner U) (size : Nat) (write : WriteImm) : EndpointInner U :=
  { ep with
    recvRingProducer := ep.recvRingProducer + (write.stop - write.start)
    remoteConsumerPos := ep.remoteConsumerPos + write.batch.metadata.ringCreditReturn % 2 ^ 64
    peerCreditBalance := ep.peerCreditBalance + write.batch.metadata.creditGrant % 2 ^ 64
    lastRecvPos := write.advance size ep.lastRecvPos
    pendingCalls := (deliver messageWire size write.batch.messages
      (ep.lastRecvPos + flowMetadataSize) ep.pendingCalls).1 }

theorem processCqeStatic_intact (emitted : write.Emitted ring size)
    (intact : write.Intact size ep.recvRing) (ringLen : ep.recvRingLen = size)
    (power : size.isPowerOfTwo)
    (position : ep.lastRecvPos % size = write.start % size) :
    ep.processCqeStatic write.imm = (ep.receive size write,
        (deliver messageWire size write.batch.messages (ep.lastRecvPos + flowMetadataSize)
          ep.pendingCalls).2) := by
  subst ringLen
  have metadata : decodeFlowMetadata
      (ep.recvRing.read (maskOffset ep.lastRecvPos ep.recvRingLen) flowMetadataSize) =
      { ringCreditReturn := write.batch.metadata.ringCreditReturn % 2 ^ 64,
        creditGrant := write.batch.metadata.creditGrant % 2 ^ 64,
        messageCount := write.batch.metadata.messageCount % 2 ^ 32 } := by
    have block : ep.recvRing.read (write.start % ep.recvRingLen) flowMetadataSize =
        encodeFlowMetadata write.batch.metadata := emitted.sound.block_recvRing intact
    rw [maskOffset_eq_mod power, position, block, decodeFlowMetadata_encodeFlowMetadata]
  simp only [processCqeStatic, metadata, emitted.decodeImm_imm intact]
  rcases emitted.shape with ⟨count, nonempty, stop⟩ | ⟨count, empty, _⟩
  · have few : write.batch.messages.length < wrapMessageCount :=
      emitted.sound.messages_length_lt intact
    have kept : write.batch.metadata.messageCount % 2 ^ 32 = write.batch.messages.length := by
      rw [count]
      exact Nat.mod_eq_of_lt (few.trans (by decide))
    have noWrap : ¬ write.batch.messages.length = wrapMessageCount := by omega
    obtain ⟨frames, inside⟩ :=
      emitted.frames_at intact (Nat.pos_of_isPowerOfTwo power) position
    have loop := processMessages_eq_deliver messageWire ep.recvRing power write.batch.messages.length
      (ep.lastRecvPos + flowMetadataSize) ep.pendingCalls (by rw [frames]; exact inside)
    rw [frames] at loop
    simp only [kept, if_neg noWrap, loop]
    have advance : write.advance ep.recvRingLen ep.lastRecvPos =
        ep.lastRecvPos + flowMetadataSize + messageWire.framing.totalSize write.batch.messages := by
      rw [WriteImm.advance, if_neg nonempty, stop]
      change _ = _ + messageFraming.totalSize _
      omega
    simp only [receive, advance]
  · have wrap : write.batch.metadata.messageCount % 2 ^ 32 = wrapMessageCount := by
      rw [count]
      decide
    simp only [wrap, if_true, maskOffset_eq_mod power, receive, WriteImm.advance, empty, deliver]

end EndpointInner

theorem WriteImm.Emitted.advance_mod (emitted : write.Emitted ring size) (positive : 0 < size)
    (order : write.start ≤ write.stop) {pos : Nat} (position : pos % size = write.start % size) :
    write.advance size pos % size = write.stop % size := by
  unfold WriteImm.advance
  rcases emitted.shape with ⟨_, nonempty, _⟩ | ⟨_, empty, stop⟩
  · have total : write.stop = write.start + (write.stop - write.start) := by omega
    rw [if_neg nonempty]
    conv_rhs => rw [total]
    exact Nat.add_mod_eq_add_mod_right _ position
  · rw [if_pos empty, stop, cycleEnd_mod positive]
    exact cycleEnd_mod positive _

/-- The receiver ends where the sender did, unless a marker fills the last block. -/
theorem WriteImm.Emitted.advance_start (emitted : write.Emitted ring size) (positive : 0 < size)
    (ringDvd : alignment ∣ size) (order : write.start ≤ write.stop)
    (clear : write.batch.messages = [] → write.start % size ≠ size - flowMetadataSize) :
    write.advance size write.start = write.stop := by
  unfold WriteImm.advance
  rcases emitted.shape with ⟨_, nonempty, _⟩ | ⟨_, empty, stop⟩
  · rw [if_neg nonempty]
    omega
  · have unit : write.start + alignment ≤ cycleEnd write.start size :=
      add_unit_le_cycleEnd positive emitted.sound.aligned ringDvd
    have away := clear empty
    unfold cycleEnd alignment at unit
    have inside : write.start % size + flowMetadataSize < size := by
      unfold flowMetadataSize at *
      omega
    rw [if_pos empty, stop, mod_add_of_lt inside, cycleEnd]
    omega

end Locasta.Copyrpc.Rc
