import Locasta.Copyrpc.Rc.System

namespace Locasta.Copyrpc.Rc

open Data EndpointInner

/-! The link from a sender to the receiver of its WRITEs, as far as it holds in
every run that processes intact WRITEs. -/

variable {U : Type} {size : Nat} {own peer sender receiver : RcSide U} {write : WriteImm}

/-- A WRITE that is processed still has all its bytes in the receive ring. -/
def IntactProcess (size : Nat) (own peer : RcSide U) : Action U → Prop
  | .process => own.processed < own.landed →
      ∀ write ∈ peer.ep.qp.posted[own.processed]?, write.Intact size own.ep.recvRing
  | _ => True

instance (size : Nat) (own peer : RcSide U) :
    (action : Action U) → Decidable (IntactProcess size own peer action)
  | .process => inferInstanceAs (Decidable (_ → _))
  | .call .. | .reply .. | .flush _ | .recv | .drop _ | .land => isTrue trivial

/-- The messages that the first `count` WRITEs carry. -/
def carried (ep : EndpointInner U) (count : Nat) : List Message :=
  (ep.qp.posted.take count).flatMap fun write => write.batch.messages

/-- The ring credit that the first `count` WRITEs return. -/
def returnedBy (ep : EndpointInner U) (count : Nat) : Nat :=
  ((ep.qp.posted.take count).map fun write => write.batch.metadata.ringCreditReturn).sum

/-- The sender's position behind the first `count` WRITEs. -/
def sentPos (ep : EndpointInner U) (count : Nat) : Nat := frontier (ep.segments.take count)

/-- One direction: the receiver is where the processed WRITEs end, up to turns of the ring. -/
structure Link (size : Nat) (sender receiver : RcSide U) : Prop where
  outgoing : Outgoing receiver.ep.ringInfo size sender
  recvRingLen : receiver.ep.recvRingLen = size
  processed : receiver.processed ≤ receiver.landed
  landed : receiver.landed ≤ sender.ep.qp.posted.length
  position : receiver.ep.lastRecvPos % size = sentPos sender.ep receiver.processed % size
  seen : receiver.seen = (carried sender.ep receiver.processed).length
  consumed : receiver.ep.remoteConsumerPos ≤ returnedBy sender.ep receiver.processed

section Prefix

variable {before after : EndpointInner U} {count : Nat}

variable (kept : before.qp.posted <+: after.qp.posted)
include kept

variable (inside : count ≤ before.qp.posted.length)
include inside

theorem carried_extend : carried after count = carried before count := by
  rw [carried, carried, take_extend kept inside]

theorem returnedBy_extend : returnedBy after count = returnedBy before count := by
  rw [returnedBy, returnedBy, take_extend kept inside]

theorem sentPos_extend : sentPos after count = sentPos before count := by
  rw [sentPos, sentPos, segments, segments, ← List.map_take, ← List.map_take,
    take_extend kept inside]

end Prefix

section Next

variable {ep : EndpointInner U} {count : Nat}

section

variable (next : ep.qp.posted[count]? = some write)
include next

theorem carried_succ : carried ep (count + 1) = carried ep count ++ write.batch.messages := by
  rw [carried, carried, List.take_add_one, next]
  simp

theorem returnedBy_succ :
    returnedBy ep (count + 1) = returnedBy ep count + write.batch.metadata.ringCreditReturn := by
  rw [returnedBy, returnedBy, List.take_add_one, next]
  simp

theorem segments_getElem? : ep.segments[count]? = some write.toSegment := by
  rw [segments, List.getElem?_map, next]
  rfl

theorem sentPos_succ : sentPos ep (count + 1) = write.stop :=
  frontier_take_succ (segments_getElem? next)

end

theorem returnedBy_le (ep : EndpointInner U) (count : Nat) :
    returnedBy ep count ≤ ep.returnedCredit := by
  rw [returnedBy, returnedCredit]
  conv_rhs => rw [← List.take_append_drop count ep.qp.posted, List.map_append, List.sum_append]
  exact Nat.le_add_right ..

end Next

namespace Link

section

variable (link : Link size sender receiver)
include link

theorem emitted (member : write ∈ sender.ep.qp.posted) :
    write.Emitted receiver.ep.ringInfo size :=
  link.outgoing.sending.emitted write member

theorem power : size.isPowerOfTwo :=
  link.outgoing.sending.ringLen ▸ link.outgoing.sending.ready.ringLen

theorem next_start {count : Nat}
    (next : sender.ep.qp.posted[count]? = some write) :
    write.start = sentPos sender.ep count ∧ write.start ≤ write.stop :=
  link.outgoing.sending.contiguous count write.toSegment (segments_getElem? next)

end

theorem store_offset (link : Link size peer own) (member : write ∈ peer.ep.qp.posted) :
    write.remoteAddr - own.ep.recvRingMr.addr = write.start % size := by
  rw [(link.emitted member).remoteAddr]
  change own.ep.recvRingMr.addr + maskOffset write.start own.ep.recvRingLen - _ = _
  rw [Nat.add_sub_cancel_left, link.recvRingLen, maskOffset_eq_mod link.power]

theorem process_eq (link : Link size peer own)
    (next : peer.ep.qp.posted[own.processed]? = some write)
    (intact : write.Intact size own.ep.recvRing) :
    transport.process own.ep write = (own.ep.receive size write,
        (deliver messageWire size write.batch.messages (own.ep.lastRecvPos + flowMetadataSize)
          own.ep.pendingCalls).2) := by
  apply processCqeStatic_intact (link.emitted (List.mem_of_getElem? next)) intact link.recvRingLen
    link.power
  rw [link.position, (link.next_start next).1]

theorem act_process (link : Link size peer own) (intact : IntactProcess size own peer .process) :
    own.act transport peer .process = own ∨
      ∃ write recvStack received responses, own.processed < own.landed ∧
        peer.ep.qp.posted[own.processed]? = some write ∧
        own.act transport peer .process =
          { own with
            ep := own.ep.receive size write
            processed := own.processed + 1
            seen := own.seen + write.batch.messages.length
            recvStack, received, responses } := by
  rcases Side.act_process transport own peer with idle | ⟨write, ready, next, result⟩
  · exact .inl idle
  · obtain ⟨recvStack, received, responses, observed⟩ := Side.foldl_observe transport
      (transport.process own.ep write).2
      { own with ep := (transport.process own.ep write).1, processed := own.processed + 1 }
    refine .inr ⟨write, recvStack, received, responses, ready, next, ?_⟩
    rw [result, observed, link.process_eq next (intact ready write next), deliver_length]

theorem acting (link : Link size own peer) (action : Action U) :
    Link size (own.act transport peer action) peer := by
  obtain ⟨outgoing, kept⟩ := link.outgoing.act peer action
  have inside : peer.processed ≤ own.ep.qp.posted.length := link.processed.trans link.landed
  exact { link with
    outgoing
    landed := link.landed.trans kept.length_le
    position := by rw [sentPos_extend kept inside]; exact link.position
    seen := by rw [carried_extend kept inside]; exact link.seen
    consumed := by rw [returnedBy_extend kept inside]; exact link.consumed }

theorem observing (link : Link size peer own) (back : Link size own peer) {action : Action U}
    (intact : IntactProcess size own peer action) :
    Link size peer (own.act transport peer action) := by
  have receiving := act_receiving back.outgoing.sending peer action
  generalize own.act transport peer action = after at receiving
  cases receiving with
  | kept incoming landed processed seen =>
    have ringInfo : after.ep.ringInfo = own.ep.ringInfo :=
      congrArg (fun incoming : Incoming =>
        RemoteRingInfo.mk incoming.recvRingMr.addr incoming.recvRingMr.rkey incoming.recvRingLen)
        incoming
    exact {
      outgoing := ringInfo ▸ link.outgoing
      recvRingLen := (congrArg Incoming.recvRingLen incoming).trans link.recvRingLen
      processed := by rw [processed, landed]; exact link.processed
      landed := landed ▸ link.landed
      position := by
        have same : after.ep.lastRecvPos = _ := congrArg Incoming.lastRecvPos incoming
        rw [same, processed]
        exact link.position
      seen := by rw [seen, processed]; exact link.seen
      consumed := by
        have same : after.ep.remoteConsumerPos = _ := congrArg Incoming.remoteConsumerPos incoming
        rw [same, processed]
        exact link.consumed }
  | landed next =>
    exact { link with
      processed := Nat.le_succ_of_le link.processed
      landed := (List.getElem?_eq_some_iff.mp next).1 }
  | @processed write _ _ _ isProcess ready next =>
    subst isProcess
    have emitted := link.emitted (List.mem_of_getElem? next)
    obtain ⟨start, forward⟩ := link.next_start next
    rw [Side.took, link.process_eq next (intact ready write next)]
    exact { link with
      processed := ready
      position := by
        rw [sentPos_succ next]
        exact emitted.advance_mod (Nat.pos_of_isPowerOfTwo link.power) forward
          (link.position.trans (congrArg (· % size) start.symm))
      seen := by
        rw [carried_succ next, List.length_append]
        rw [deliver_length, link.seen]
      consumed := by
        rw [returnedBy_succ next]
        exact Nat.add_le_add link.consumed (Nat.mod_le ..) }

end Link

variable {config : Party → EndpointConfig} {region : Party → MemoryRegion}

def EqualRings (config : Party → EndpointConfig) (size : Nat) : Prop :=
  ∀ party, (config party).sendRingSize.nextPowerOfTwo = size ∧
    (config party).recvRingSize.nextPowerOfTwo = size

theorem clientAndServer_rings : EqualRings clientAndServer 256 := by
  intro party
  cases party <;> decide +kernel

section

variable (rings : EqualRings config size) (roomy : 2 * flowMetadataSize ≤ size)
include rings roomy

theorem connected_outgoing (party : Party) :
    Outgoing (connected (U := U) config region party.peer).ep.ringInfo size
      (connected (U := U) config region party) where
  sending := {
    connected := rfl
    ringLen := (rings party).1
    outlet := .new (Nat.isPowerOfTwo_nextPowerOfTwo _) (roomy.trans_eq (rings party).1.symm) }
  returning := ⟨Nat.le_refl _, Nat.le_refl _⟩

theorem connected_link :
    Linked (Link (U := U) size) (connected config region) := by
  intro party
  exact {
    outgoing := connected_outgoing rings roomy party
    recvRingLen := (rings party.peer).2
    processed := Nat.le_refl _
    landed := Nat.le_refl _
    position := rfl
    seen := rfl
    consumed := Nat.le_refl _ }

end

/-- Whatever the send queue refuses, the WRITEs and the open batch carry the accepted messages. -/
theorem messages_laid_out (rings : EqualRings config size) (roomy : 64 ≤ size)
    (actions : List (Party × Action U)) (party : Party) :
    let side := run step (connected config region) actions party
    side.ep.laidOut = side.sent.map message ∧ Contiguous side.ep.segments ∧
      frontier side.ep.segments = side.ep.flushStartPos ∧
      side.ep.returnedCredit ≤ side.ep.lastRecvPos := by
  have outgoing := run_each
    (fun party => Outgoing (connected (U := U) config region party.peer).ep.ringInfo size)
    (fun _ _ peer action own _ => (own.act peer action).1) (connected_outgoing rings roomy)
    actions party
  have sending := outgoing.sending
  exact ⟨sending.outlet.laidOut, sending.contiguous, sending.frontier,
    outgoing.returning.returned.trans outgoing.returning.notified⟩

theorem messages_laid_out_refused :
    let side := run step (connected clientAndServer sameRegion)
      [(.a, .call [] 0 [1, 2, 3] () 20), (.a, .flush [true])] .a
    side.ep.laidOut = side.sent.map message :=
  (messages_laid_out clientAndServer_rings (by decide) _ .a).1

/-! Below 256 bytes no call ever has the credit for a response, so nothing is sent. -/

/-- A side that has not sent or received anything. -/
def Quiet (initial side : RcSide U) : Prop :=
  ∃ answers, side = { initial with ep := initial.ep.offer answers }

theorem flush_idle (ep : EndpointInner U) (empty : ep.batchMessageCount = 0)
    (bell : ep.needsDoorbell = false) : ep.flush = (.ok (), ep) := by
  simp [flush, emitWqe, ringDoorbell, empty, bell]

theorem call_without_credit (ep : EndpointInner U) {ring : RemoteRingInfo} (key : Nat)
    (data : List UInt8) (userData : U) {responseAllowance : Nat}
    (connected : ep.remoteRecvRing = some ring) (empty : ep.batchMessageCount = 0)
    (bell : ep.needsDoorbell = false)
    (poor : ep.peerCreditBalance < internalAllowance responseAllowance) :
    ep.call key data userData responseAllowance = (.error (.insufficientCredit userData), ep) := by
  simp [call, connected, poor, flush_idle ep empty bell]

theorem le_internalAllowance (responseAllowance : Nat) : 64 ≤ internalAllowance responseAllowance := by
  have message := alignment_le_paddedMessageSize (asU32 responseAllowance)
  have whole := alignUp_ge (paddedMessageSize (asU32 responseAllowance) + flowMetadataSize)
  unfold alignment at message
  unfold flowMetadataSize at whole
  exact Nat.le_trans (by omega) whole

theorem connected_credit (rings : EqualRings config size) (region : Party → MemoryRegion)
    (party : Party) :
    (connected (U := U) config region party).ep.peerCreditBalance ≤ size / 4 := by
  have length := (rings party.peer).1
  change min _ ((config party.peer).sendRingSize.nextPowerOfTwo / 4) ≤ size / 4
  rw [length]
  exact Nat.min_le_right ..

theorem Quiet.act {action : Action U} (rings : EqualRings config size) (small : size < 256)
    (party : Party) (quiet : Quiet (connected config region party) own)
    (peerQuiet : Quiet (connected config region party.peer) peer) :
    Quiet (connected config region party) (own.act transport peer action) := by
  have poor (responseAllowance : Nat) :
      (connected (U := U) config region party).ep.peerCreditBalance <
        internalAllowance responseAllowance := by
    have credit := connected_credit (U := U) rings region party
    have need := le_internalAllowance responseAllowance
    omega
  obtain ⟨answers, rfl⟩ := quiet
  obtain ⟨others, rfl⟩ := peerQuiet
  refine Side.act_elim (motive := Quiet (connected config region party)) action ⟨answers, rfl⟩
    ?_ ?_ ?_ ?_ ?_ ?_ ?_ ?_ ?_
  · intro answers key data userData responseAllowance callId ep _ outcome
    have failed := call_without_credit ((connected config region party).ep.offer answers) key data
      userData rfl rfl rfl (poor responseAllowance)
    cases failed.symm.trans outcome
  · intro answers key data userData responseAllowance error ep _ outcome
    have failed := call_without_credit ((connected config region party).ep.offer answers) key data
      userData rfl rfl rfl (poor responseAllowance)
    cases failed.symm.trans outcome
    exact ⟨answers, rfl⟩
  · intro answers index data request value ep _ live
    cases live
  · intro answers index data request error ep _ live
    cases live
  · intro answers _
    refine ⟨answers, ?_⟩
    have idle := flush_idle ((connected (U := U) config region party).ep.offer answers) rfl rfl
    exact congrArg (fun result => { connected config region party with ep := result.2 }) idle
  · intro request rest stack
    cases stack
  · intro index
    exact ⟨answers, rfl⟩
  · intro write _ next
    cases next
  · intro write _ _ _ _ ready
    cases ready

theorem quiet_run (rings : EqualRings config size) (small : size < 256)
    (region : Party → MemoryRegion) (actions : List (Party × Action U)) (party : Party) :
    Quiet (connected config region party) (run step (connected config region) actions party) :=
  run_each (fun party => Quiet (connected config region party))
    (fun party _ _ _ quiet peerQuiet => Quiet.act rings small party quiet peerQuiet)
    (fun _ => ⟨[], rfl⟩) actions party

end Locasta.Copyrpc.Rc
