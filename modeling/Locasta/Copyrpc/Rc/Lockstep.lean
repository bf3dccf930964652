import Locasta.Copyrpc.Rc.Link

namespace Locasta.Copyrpc.Rc

open Data EndpointInner

/-! The receiver's positions follow the sender's.

The sender computes the padding of a wrap from the position of the marker, the receiver from the
position behind it. The two agree unless the marker fills the last block of the ring.
-/

variable {U : Type} {size : Nat} {own peer sender receiver : RcSide U}

/-- A message that forces a wrap finds the open batch away from the last block. -/
def ClearOfEnd (size length : Nat) (ep : EndpointInner U) : Prop :=
  ep.wrapNeeded (paddedMessageSize (asU32 length)) = true →
    ep.openEnd % size ≠ size - flowMetadataSize

/-- No wrap marker is put into the last block of the ring. -/
def ClearWrap (size : Nat) (own : RcSide U) : Action U → Prop
  | .call _ _ data _ responseAllowance =>
    internalAllowance responseAllowance ≤ own.ep.peerCreditBalance →
      ClearOfEnd size data.length own.ep
  | .reply _ _ data => ClearOfEnd size data.length own.ep
  | _ => True

instance (size length : Nat) (ep : EndpointInner U) : Decidable (ClearOfEnd size length ep) :=
  inferInstanceAs (Decidable (_ → _))

instance (size : Nat) (own : RcSide U) : (action : Action U) → Decidable (ClearWrap size own action)
  | .call .. => inferInstanceAs (Decidable (_ → _))
  | .reply .. => inferInstanceAs (Decidable (ClearOfEnd ..))
  | .process | .flush _ | .recv | .drop _ | .land => isTrue trivial

/-- No posted wrap marker lies in the last block. -/
def MarkersClear (size : Nat) (ep : EndpointInner U) : Prop :=
  ∀ write ∈ ep.qp.posted, write.batch.messages = [] → write.start % size ≠ size - flowMetadataSize

variable {ring : RemoteRingInfo}

theorem MarkersClear.post {ep filled : EndpointInner U}
    (markers : MarkersClear size ep) (posted : filled.qp.posted = ep.qp.posted)
    (clear : filled.filled.messages = [] → filled.flushStartPos % size ≠ size - flowMetadataSize) :
    MarkersClear size (filled.posting ring).prepareNextBatch := by
  intro write member
  rcases List.mem_append.mp member with old | new
  · exact markers write (posted ▸ old)
  · rw [List.mem_singleton.mp new]
    exact clear

theorem markers_stable {stream : List Message} :
    Stable ring (fun ep : EndpointInner U => ep.metaPos % size ≠ size - flowMetadataSize)
      (fun ep => Sending ring size stream ep ∧ MarkersClear size ep) where
  ready holds := holds.1.ready
  doorbell := by
    intro ep ⟨sending, markers⟩
    refine ⟨sending.doorbell, ?_⟩
    unfold ringDoorbell
    split <;> exact markers
  close := by
    intro ep ⟨sending, markers⟩ nonempty _
    refine ⟨sending.close nonempty, markers.post rfl ?_⟩
    intro empty
    have length := openMessages_length ep
    rw [show ep.openMessages = [] from empty, List.length_nil] at length
    omega
  closeRefused holds _ _ := ⟨holds.1.closeRefused, holds.2⟩
  wrap := by
    intro ep ⟨sending, markers⟩ empty clear _
    refine ⟨sending.wrap empty, markers.post rfl fun _ => ?_⟩
    rwa [show ep.placeWrap.flushStartPos = ep.metaPos from sending.ready.start]
  wrapRefused holds empty _ _ := ⟨holds.1.wrapRefused empty, holds.2⟩

theorem MarkersClear.act
    (sending : Sending ring size (own.sent.map message) own.ep) (markers : MarkersClear size own.ep)
    {action : Action U} (clear : ClearWrap size own action) :
    MarkersClear size (own.act transport peer action).ep := by
  refine (act_rule own peer
    (P := fun sent _ ep => Sending ring size (sent.map message) ep ∧ MarkersClear size ep) action
    (fun _ _ => markers_stable) ⟨sending, markers⟩
    ⟨sending.offer _, markers⟩ ?_ ?_ ?_ ?_ ?_ ?_).2
  · rintro answers key data userData responseAllowance rfl credit atWrap wraps
    rw [wraps.metaPos]
    exact clear credit wraps.1
  · rintro answers index data rfl atWrap wraps
    rw [wraps.metaPos]
    exact clear wraps.1
  · intro answers key data userData responseAllowance ep _ ⟨sending, markers⟩ placed _ _
    rw [List.map_append]
    exact ⟨sending.acceptCall placed, markers⟩
  · intro answers index data request ep _ _ ⟨sending, markers⟩ placed
    rw [List.map_append]
    exact ⟨sending.acceptReply placed, markers⟩
  · intro write
    exact ⟨sending.store write, markers⟩
  · intro write _ _
    have processed := sending.process write.imm
    obtain ⟨_, _, _, _, _, _, _, shape⟩ := own.ep.processCqeStatic_shape write.imm
    rw [shape] at processed ⊢
    exact ⟨processed, markers⟩

/-- The receiver is exactly where the processed WRITEs end. -/
structure Lockstep (size : Nat) (sender receiver : RcSide U) : Prop where
  link : Link size sender receiver
  markers : MarkersClear size sender.ep
  position : receiver.ep.lastRecvPos = sentPos sender.ep receiver.processed
  producer : receiver.ep.recvRingProducer = sentPos sender.ep receiver.processed

namespace Lockstep

theorem acting (lockstep : Lockstep size own peer) {action : Action U}
    (clear : ClearWrap size own action) : Lockstep size (own.act transport peer action) peer := by
  have link := lockstep.link
  obtain ⟨_, kept⟩ := link.outgoing.act peer action
  have inside : peer.processed ≤ own.ep.qp.posted.length := link.processed.trans link.landed
  exact {
    link := link.acting action
    markers := lockstep.markers.act link.outgoing.sending clear
    position := by rw [sentPos_extend kept inside]; exact lockstep.position
    producer := by rw [sentPos_extend kept inside]; exact lockstep.producer }

theorem observing (lockstep : Lockstep size peer own) (back : Lockstep size own peer)
    {action : Action U} (intact : IntactProcess size own peer action) :
    Lockstep size peer (own.act transport peer action) := by
  have link := lockstep.link
  have observed := link.observing back.link intact
  have receiving := act_receiving back.link.outgoing.sending peer action
  generalize own.act transport peer action = after at observed receiving
  suffices positions : after.ep.lastRecvPos = sentPos peer.ep after.processed ∧
      after.ep.recvRingProducer = sentPos peer.ep after.processed from
    ⟨observed, lockstep.markers, positions.1, positions.2⟩
  cases receiving with
  | kept incoming _ processed _ =>
    have lastRecvPos := congrArg Incoming.lastRecvPos incoming
    have recvRingProducer := congrArg Incoming.recvRingProducer incoming
    rw [processed]
    exact ⟨lastRecvPos.trans lockstep.position, recvRingProducer.trans lockstep.producer⟩
  | landed _ => exact ⟨lockstep.position, lockstep.producer⟩
  | @processed write _ _ _ isProcess ready next =>
    subst isProcess
    have emitted := link.emitted (List.mem_of_getElem? next)
    obtain ⟨start, forward⟩ := link.next_start next
    rw [Side.took, link.process_eq next (intact ready write next), sentPos_succ next]
    constructor
    · change write.advance size own.ep.lastRecvPos = write.stop
      rw [lockstep.position, ← start]
      exact emitted.advance_start (Nat.pos_of_isPowerOfTwo link.power)
        link.outgoing.sending.ringDvd forward (lockstep.markers write (List.mem_of_getElem? next))
    · change own.ep.recvRingProducer + (write.stop - write.start) = write.stop
      rw [lockstep.producer, ← start]
      omega

theorem consumer_le_position (back : Link size peer own) :
    own.ep.remoteConsumerPos ≤ peer.ep.lastRecvPos := by
  calc own.ep.remoteConsumerPos ≤ returnedBy peer.ep own.processed := back.consumed
    _ ≤ peer.ep.returnedCredit := returnedBy_le ..
    _ ≤ peer.ep.lastNotifiedRecvPos := back.outgoing.returning.returned
    _ ≤ peer.ep.lastRecvPos := back.outgoing.returning.notified

theorem consumer_le (lockstep : Lockstep size own peer) (back : Lockstep size peer own) :
    own.ep.remoteConsumerPos ≤ own.ep.metaPos := by
  have sending := lockstep.link.outgoing.sending
  calc own.ep.remoteConsumerPos ≤ peer.ep.lastRecvPos := consumer_le_position back.link
    _ = sentPos own.ep peer.processed := lockstep.position
    _ ≤ frontier own.ep.segments := sending.contiguous.frontier_take_le _
    _ = own.ep.metaPos := sending.frontier.trans sending.ready.start

end Lockstep

/-! The bytes on their way to the receiver. -/

/-- Its receive ring holds what has landed and is not processed. -/
def InTransit (size : Nat) (sender receiver : RcSide U) : Prop :=
  Transit size receiver.ep.recvRing sender.ep.segments receiver.landed receiver.processed

theorem InTransit.intactProcess (transit : InTransit size peer own) (action : Action U) :
    IntactProcess size own peer action := by
  cases action with
  | process =>
    intro ready write next
    exact Transit.intact transit own.processed write.toSegment (Nat.le_refl _) ready
      (segments_getElem? next)
  | _ => trivial

theorem InTransit.acting (transit : InTransit size own peer) (lockstep : Lockstep size own peer)
    {action : Action U} {new : List WriteImm}
    (posted : (own.act transport peer action).ep.qp.posted = own.ep.qp.posted ++ new)
    (bounded : ∀ write ∈ new, write.Whole size ∧ write.stop ≤ peer.ep.lastRecvPos + size) :
    InTransit size (own.act transport peer action) peer := by
  have link := lockstep.link
  have landed : peer.landed ≤ own.ep.segments.length := by
    rw [segments, List.length_map]
    exact link.landed
  have extended : (own.act transport peer action).ep.segments =
      own.ep.segments ++ new.map WriteImm.toSegment := by
    rw [segments, posted, List.map_append, segments]
  have contiguous := (link.acting action).outgoing.sending.contiguous
  rw [InTransit, extended]
  rw [extended] at contiguous
  refine transit.extend landed (link.processed.trans landed) contiguous ?_
  intro segment member
  obtain ⟨write, fresh, rfl⟩ := List.mem_map.mp member
  obtain ⟨whole, inside⟩ := bounded write fresh
  rw [lockstep.position] at inside
  exact ⟨whole, inside⟩

theorem InTransit.observing (transit : InTransit size peer own) (link : Link size peer own)
    (back : Link size own peer) (action : Action U) :
    InTransit size peer (own.act transport peer action) := by
  have receiving := act_receiving back.outgoing.sending peer action
  generalize own.act transport peer action = after at receiving
  cases receiving with
  | kept incoming landed processed _ =>
    have same : after.ep.recvRing = _ := congrArg Incoming.recvRing incoming
    rw [InTransit, same, landed, processed]
    exact transit
  | @landed write next =>
    have stored := transit.land (segments_getElem? next)
    change Transit size (own.ep.recvRing.write (write.remoteAddr - own.ep.recvRingMr.addr) _) _ _ _
    rw [link.store_offset (List.mem_of_getElem? next)]
    exact stored
  | @processed write _ _ _ isProcess ready next =>
    have intact := transit.intactProcess .process ready write next
    rw [Side.took, link.process_eq next intact]
    exact transit.process

/-- The condition of `receiver_in_lockstep` on a step. -/
def LockstepGuard (size : Nat) (own peer : RcSide U) (action : Action U) : Prop :=
  IntactProcess size own peer action ∧ ClearWrap size own action

instance (size : Nat) (own peer : RcSide U) (action : Action U) :
    Decidable (LockstepGuard size own peer action) :=
  inferInstanceAs (Decidable (_ ∧ _))

/-- Both directions are in lockstep when the endpoints are connected. -/
theorem connected_lockstep {config : Party → EndpointConfig} {region : Party → MemoryRegion}
    (rings : EqualRings config size) (roomy : 2 * flowMetadataSize ≤ size) :
    Linked (Lockstep (U := U) size) (connected config region) := by
  intro party
  exact {
    link := connected_link rings roomy party
    markers := by
      intro write member
      cases member
    position := rfl
    producer := rfl }

/-- Both directions stay in lockstep along every guarded run. -/
theorem lockstep_run {config : Party → EndpointConfig} {region : Party → MemoryRegion}
    {actions : List (Party × Action U)} (rings : EqualRings config size)
    (roomy : 2 * flowMetadataSize ≤ size)
    (guarded : Along step (Duplex (LockstepGuard size)) (connected config region) actions) :
    Linked (Lockstep size) (run step (connected config region) actions) := by
  refine Linked.run ?_ ?_ (connected_lockstep rings roomy) guarded
  · intro own peer action lockstep _ allowed
    exact lockstep.acting allowed.2
  · intro own peer action lockstep back allowed
    exact back.observing lockstep allowed.1

/-- Without a wrap marker in the last block, the receiver's positions are the sender's behind the
WRITEs processed so far. -/
theorem receiver_in_lockstep {config : Party → EndpointConfig} {region : Party → MemoryRegion}
    {actions : List (Party × Action U)} (rings : EqualRings config size) (roomy : 64 ≤ size)
    (guarded : Along step (Duplex (LockstepGuard size)) (connected config region) actions)
    (party : Party) :
    let sender := run step (connected config region) actions party
    let receiver := run step (connected config region) actions party.peer
    receiver.ep.lastRecvPos = sentPos sender.ep receiver.processed ∧
      receiver.ep.recvRingProducer = sentPos sender.ep receiver.processed ∧
      sender.ep.flushStartPos = sentPos sender.ep sender.ep.qp.posted.length ∧
      sender.ep.remoteConsumerPos ≤ sender.ep.sendRingProducer := by
  intro sender receiver
  have linked := lockstep_run rings roomy guarded
  have lockstep : Lockstep size sender receiver := linked party
  have back : Lockstep size receiver sender := by
    have other := linked party.peer
    rwa [Party.peer_peer] at other
  have sending := lockstep.link.outgoing.sending
  refine ⟨lockstep.position, lockstep.producer, ?_, ?_⟩
  · rw [sentPos, List.take_of_length_le (by rw [segments, List.length_map]), sending.frontier]
  · exact (lockstep.consumer_le back).trans (Nat.le_of_lt sending.ready.reserved)

/-- The first batch ends at 192; the next one does not fit, and the wrap marker takes 64 bytes. -/
def wrapRun : List (Party × Action Unit) :=
  [(.a, .call [] 0 (List.replicate 148 0) () 20), (.a, .flush []), (.b, .land), (.b, .process),
    (.b, .recv), (.b, .reply [] 0 []), (.b, .flush []), (.a, .land), (.a, .process),
    (.a, .call [] 1 (List.replicate 40 0) () 20), (.b, .land), (.b, .process)]

theorem receiver_in_lockstep_after_call :
    let sender := run step (connected clientAndServer sameRegion) wrapRun .a
    let receiver := run step (connected clientAndServer sameRegion) wrapRun .b
    receiver.processed = 2 ∧ receiver.ep.lastRecvPos = 256 ∧
      receiver.ep.lastRecvPos = sentPos sender.ep receiver.processed :=
  ⟨by decide +kernel, by decide +kernel,
    (receiver_in_lockstep clientAndServer_rings (by decide) (by decide +kernel) .a).1⟩

/-- The first batch ends at 224; the wrap marker takes the last 32 bytes. -/
def lastBlockRun : List (Party × Action Unit) :=
  [(.a, .call [] 0 (List.replicate 180 0) () 20), (.a, .flush []),
    (.b, .land), (.b, .process), (.b, .recv), (.b, .reply [] 0 []), (.b, .flush []),
    (.a, .land), (.a, .process), (.a, .call [] 1 [] () 20),
    (.b, .land), (.b, .process)]

/-- Every WRITE is intact when processed, yet the receiver ends one ring ahead of the sender. -/
theorem lastBlockRun_overshoots :
    let sender := run step (connected clientAndServer sameRegion) lastBlockRun .a
    let receiver := run step (connected clientAndServer sameRegion) lastBlockRun .b
    Along step (Duplex (IntactProcess 256)) (connected clientAndServer sameRegion) lastBlockRun ∧
      (∀ action ∈ lastBlockRun, action.2.answers = []) ∧
      receiver.processed = 2 ∧ sentPos sender.ep receiver.processed = 256 ∧
      receiver.ep.lastRecvPos = 512 ∧ receiver.ep.recvRingProducer = 256 := by
  decide +kernel

end Locasta.Copyrpc.Rc
