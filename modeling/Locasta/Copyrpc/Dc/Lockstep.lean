import Locasta.Copyrpc.Dc.System

namespace Locasta.Copyrpc.Dc

open Data EndpointInner

/-! The receiver's positions follow the sender's, through refused posts, wraps and batches that
only return credit: the header says how far a batch reaches, so nothing is computed twice. -/

variable {U : Type} {size : Nat} {own peer sender receiver : DcSide U} {write : WriteImm}

namespace EndpointInner

variable {target : Target} {ep : EndpointInner U}

/-- The endpoint after an intact WRITE. The credit field travels as a `u64`. -/
def receive (ep : EndpointInner U) (size : Nat) (write : WriteImm) : EndpointInner U :=
  { ep with
    recvRingProducer := ep.recvRingProducer + (write.stop - write.start)
    remoteConsumerPos := ep.remoteConsumerPos + write.batch.header.ringCreditReturn % 2 ^ 64
    lastRecvPos := ep.lastRecvPos + (write.stop - write.start)
    pendingCalls := (deliver (messageWire ep.endpointId) size write.batch.messages
      (ep.lastRecvPos + batchHeaderSize) ep.pendingCalls).1 }

theorem processCqeStatic_intact (emitted : write.Emitted ep.target size)
    (intact : write.Intact size ep.recvRing) (ringLen : ep.recvRingLen = size)
    (power : size.isPowerOfTwo) (position : ep.lastRecvPos = write.start) :
    ep.processCqeStatic write.imm = (ep.receive size write,
        (deliver (messageWire ep.endpointId) size write.batch.messages
          (ep.lastRecvPos + batchHeaderSize) ep.pendingCalls).2) := by
  subst ringLen
  have header : decodeBatchHeader
      (ep.recvRing.read (maskOffset ep.lastRecvPos ep.recvRingLen) batchHeaderSize) =
      { delta := write.stop - write.start,
        ringCreditReturn := write.batch.header.ringCreditReturn % 2 ^ 64,
        messageCount := write.batch.header.messageCount % 2 ^ 32 } := by
    have block : ep.recvRing.read (write.start % ep.recvRingLen) batchHeaderSize =
        encodeBatchHeader write.batch.header := emitted.sound.block_recvRing intact
    have short : write.stop - write.start < 2 ^ 64 := by
      rw [← intact.1.1]
      exact emitted.sound.bounded.trans (by decide)
    rw [maskOffset_eq_mod power, position, block, decodeBatchHeader_encodeBatchHeader,
      emitted.delta, Nat.mod_eq_of_lt short]
  have covers : batchHeaderSize + messageFraming.totalSize write.batch.messages ≤
      write.stop - write.start := emitted.sound.covers
  have named : ¬ write.imm ≠ ep.endpointId := not_not_intro emitted.imm
  simp only [processCqeStatic, if_neg named, header]
  rcases emitted.shape with ⟨count, stop⟩ | ⟨count, empty, _⟩
  · have few : write.batch.messages.length < wrapMessageCount :=
      emitted.sound.messages_length_lt intact
    have kept : write.batch.header.messageCount % 2 ^ 32 = write.batch.messages.length := by
      rw [count]
      exact Nat.mod_eq_of_lt (few.trans (by decide))
    have noWrap : ¬ write.batch.messages.length = wrapMessageCount := by omega
    obtain ⟨frames, inside⟩ := emitted.sound.frames_at intact (Nat.pos_of_isPowerOfTwo power)
      (congrArg (· % ep.recvRingLen) position)
    change (messageWire ep.endpointId).framing.readFrames _
      ((ep.lastRecvPos + batchHeaderSize) % ep.recvRingLen) write.batch.messages.length =
        write.batch.messages at frames
    have loop := processMessages_eq_deliver (messageWire ep.endpointId) ep.recvRing power
      write.batch.messages.length (ep.lastRecvPos + batchHeaderSize) ep.pendingCalls
      (by rw [frames]; exact inside)
    rw [frames] at loop
    have advance : ep.lastRecvPos + batchHeaderSize +
        (messageWire ep.endpointId).framing.totalSize write.batch.messages =
          ep.lastRecvPos + (write.stop - write.start) := by
      change _ + flowMetadataSize + messageFraming.totalSize write.batch.messages = _
      omega
    simp only [kept, if_neg noWrap, loop, advance, receive]
  · have wrap : write.batch.header.messageCount % 2 ^ 32 = wrapMessageCount := by
      rw [count]
      decide
    have advance : ep.lastRecvPos + batchHeaderSize + (write.stop - write.start - batchHeaderSize) =
          ep.lastRecvPos + (write.stop - write.start) := by omega
    simp only [wrap, if_true, advance, receive, empty, deliver]

end EndpointInner

def IntactProcess (size : Nat) (own peer : DcSide U) : Action U → Prop
  | .process => own.processed < own.landed →
      ∀ write ∈ peer.ep.dci.posted[own.processed]?, write.Intact size own.ep.recvRing
  | _ => True

instance (size : Nat) (own peer : DcSide U) :
    (action : Action U) → Decidable (IntactProcess size own peer action)
  | .process => inferInstanceAs (Decidable (_ → _))
  | .call .. | .reply .. | .flush _ | .recv | .drop _ | .land => isTrue trivial

def carried (ep : EndpointInner U) (count : Nat) : List Message :=
  (ep.dci.posted.take count).flatMap fun write => write.batch.messages

def returnedBy (ep : EndpointInner U) (count : Nat) : Nat :=
  ((ep.dci.posted.take count).map fun write => write.batch.header.ringCreditReturn).sum

def sentPos (ep : EndpointInner U) (count : Nat) : Nat := frontier (ep.segments.take count)

section Prefix

variable {before after : EndpointInner U} {count : Nat}

variable (kept : before.dci.posted <+: after.dci.posted)
include kept

variable (inside : count ≤ before.dci.posted.length)
include inside

theorem carried_extend : carried after count = carried before count := by
  rw [carried, carried, take_extend kept inside]

theorem returnedBy_extend : returnedBy after count = returnedBy before count := by
  rw [returnedBy, returnedBy, take_extend kept inside]

theorem sentPos_extend : sentPos after count = sentPos before count := by
  rw [sentPos, sentPos, segments, segments, ← List.map_take, ← List.map_take,
    take_extend kept inside]

end Prefix

section Next

variable {ep : EndpointInner U} {count : Nat}

section

variable (next : ep.dci.posted[count]? = some write)
include next

theorem carried_succ : carried ep (count + 1) = carried ep count ++ write.batch.messages := by
  rw [carried, carried, List.take_add_one, next]
  simp

theorem returnedBy_succ :
    returnedBy ep (count + 1) = returnedBy ep count + write.batch.header.ringCreditReturn := by
  rw [returnedBy, returnedBy, List.take_add_one, next]
  simp

theorem segments_getElem? : ep.segments[count]? = some write.toSegment := by
  rw [segments, List.getElem?_map, next]
  rfl

theorem sentPos_succ : sentPos ep (count + 1) = write.stop :=
  frontier_take_succ (segments_getElem? next)

end

theorem returnedBy_le (ep : EndpointInner U) (count : Nat) :
    returnedBy ep count ≤ ep.returnedCredit := by
  rw [returnedBy, returnedCredit]
  conv_rhs => rw [← List.take_append_drop count ep.dci.posted, List.map_append, List.sum_append]
  exact Nat.le_add_right ..

end Next

/-- One direction: the receiver is where the processed WRITEs end. -/
structure Lockstep (size : Nat) (sender receiver : DcSide U) : Prop where
  outgoing : Outgoing receiver.ep.target size sender
  recvRingLen : receiver.ep.recvRingLen = size
  processed : receiver.processed ≤ receiver.landed
  landed : receiver.landed ≤ sender.ep.dci.posted.length
  position : receiver.ep.lastRecvPos = sentPos sender.ep receiver.processed
  producer : receiver.ep.recvRingProducer = sentPos sender.ep receiver.processed
  seen : receiver.seen = (carried sender.ep receiver.processed).length
  consumed : receiver.ep.remoteConsumerPos ≤ returnedBy sender.ep receiver.processed

namespace Lockstep

section

variable (lockstep : Lockstep size sender receiver)
include lockstep

theorem emitted (member : write ∈ sender.ep.dci.posted) : write.Emitted receiver.ep.target size :=
  lockstep.outgoing.sending.outlet.valid write member

theorem power : size.isPowerOfTwo := lockstep.outgoing.sending.power

theorem next_start {count : Nat} (next : sender.ep.dci.posted[count]? = some write) :
    write.start = sentPos sender.ep count ∧ write.start ≤ write.stop :=
  lockstep.outgoing.sending.contiguous count write.toSegment (segments_getElem? next)

end

theorem store_offset (lockstep : Lockstep size peer own) (member : write ∈ peer.ep.dci.posted) :
    write.remoteAddr - own.ep.recvRingMr.addr = write.start % size := by
  rw [(lockstep.emitted member).remoteAddr]
  change own.ep.recvRingMr.addr + maskOffset write.start own.ep.recvRingLen - _ = _
  rw [Nat.add_sub_cancel_left, lockstep.recvRingLen, maskOffset_eq_mod lockstep.power]

theorem process_eq (lockstep : Lockstep size peer own)
    (next : peer.ep.dci.posted[own.processed]? = some write)
    (intact : write.Intact size own.ep.recvRing) :
    transport.process own.ep write = (own.ep.receive size write,
        (deliver (messageWire own.ep.endpointId) size write.batch.messages
          (own.ep.lastRecvPos + batchHeaderSize) own.ep.pendingCalls).2) := by
  apply processCqeStatic_intact (lockstep.emitted (List.mem_of_getElem? next)) intact
    lockstep.recvRingLen lockstep.power
  rw [lockstep.position, (lockstep.next_start next).1]

theorem acting (lockstep : Lockstep size own peer) (action : Action U) :
    Lockstep size (own.act transport peer action) peer := by
  obtain ⟨outgoing, kept⟩ := lockstep.outgoing.act peer action
  have inside : peer.processed ≤ own.ep.dci.posted.length :=
    lockstep.processed.trans lockstep.landed
  exact { lockstep with
    outgoing
    landed := lockstep.landed.trans kept.length_le
    position := by rw [sentPos_extend kept inside]; exact lockstep.position
    producer := by rw [sentPos_extend kept inside]; exact lockstep.producer
    seen := by rw [carried_extend kept inside]; exact lockstep.seen
    consumed := by rw [returnedBy_extend kept inside]; exact lockstep.consumed }

theorem idle {after : DcSide U} (lockstep : Lockstep size peer own)
    (incoming : after.ep.incoming = own.ep.incoming) (landed : after.landed = own.landed)
    (processed : after.processed = own.processed) (seen : after.seen = own.seen) :
    Lockstep size peer after := by
  have target : after.ep.target = own.ep.target := congrArg Incoming.target incoming
  have lastRecvPos : after.ep.lastRecvPos = own.ep.lastRecvPos :=
    congrArg Incoming.lastRecvPos incoming
  have recvRingProducer : after.ep.recvRingProducer = own.ep.recvRingProducer :=
    congrArg Incoming.recvRingProducer incoming
  have remoteConsumerPos : after.ep.remoteConsumerPos = own.ep.remoteConsumerPos :=
    congrArg Incoming.remoteConsumerPos incoming
  exact {
    outgoing := target ▸ lockstep.outgoing
    recvRingLen := (congrArg (fun target => target.ring.size) target).trans lockstep.recvRingLen
    processed := by rw [processed, landed]; exact lockstep.processed
    landed := landed ▸ lockstep.landed
    position := by rw [lastRecvPos, processed]; exact lockstep.position
    producer := by rw [recvRingProducer, processed]; exact lockstep.producer
    seen := by rw [seen, processed]; exact lockstep.seen
    consumed := by rw [remoteConsumerPos, processed]; exact lockstep.consumed }

theorem observing (lockstep : Lockstep size peer own) (back : Lockstep size own peer)
    {action : Action U} (intact : IntactProcess size own peer action) :
    Lockstep size peer (own.act transport peer action) := by
  have receiving := act_receiving back.outgoing.sending peer action
  generalize own.act transport peer action = after at receiving
  cases receiving with
  | kept incoming landed processed seen => exact lockstep.idle incoming landed processed seen
  | landed next =>
    exact { lockstep with
      processed := Nat.le_succ_of_le lockstep.processed
      landed := (List.getElem?_eq_some_iff.mp next).1 }
  | @processed write _ _ _ isProcess ready next =>
    subst isProcess
    obtain ⟨start, forward⟩ := lockstep.next_start next
    rw [Side.took, lockstep.process_eq next (intact ready write next)]
    exact { lockstep with
      processed := ready
      position := by
        rw [sentPos_succ next]
        change own.ep.lastRecvPos + (write.stop - write.start) = write.stop
        rw [lockstep.position, ← start]
        omega
      producer := by
        rw [sentPos_succ next]
        change own.ep.recvRingProducer + (write.stop - write.start) = write.stop
        rw [lockstep.producer, ← start]
        omega
      seen := by
        rw [carried_succ next, List.length_append]
        rw [deliver_length, lockstep.seen]
      consumed := by
        rw [returnedBy_succ next]
        exact Nat.add_le_add lockstep.consumed (Nat.mod_le ..) }

theorem consumer_le_position (back : Lockstep size peer own) :
    own.ep.remoteConsumerPos ≤ peer.ep.lastRecvPos := by
  calc own.ep.remoteConsumerPos ≤ returnedBy peer.ep own.processed := back.consumed
    _ ≤ peer.ep.returnedCredit := returnedBy_le ..
    _ ≤ peer.ep.lastNotifiedRecvPos := back.outgoing.returning.returned
    _ ≤ peer.ep.lastRecvPos := back.outgoing.returning.notified

end Lockstep

/-! The bytes on their way to the receiver. -/

def InTransit (size : Nat) (sender receiver : DcSide U) : Prop :=
  Transit size receiver.ep.recvRing sender.ep.segments receiver.landed receiver.processed

theorem InTransit.intactProcess (transit : InTransit size peer own) (action : Action U) :
    IntactProcess size own peer action := by
  cases action with
  | process =>
    intro ready write next
    exact Transit.intact transit own.processed write.toSegment (Nat.le_refl _) ready
      (segments_getElem? next)
  | _ => trivial

theorem InTransit.acting (transit : InTransit size own peer) (lockstep : Lockstep size own peer)
    {action : Action U} {new : List WriteImm}
    (posted : (own.act transport peer action).ep.dci.posted = own.ep.dci.posted ++ new)
    (bounded : ∀ write ∈ new, write.Whole size ∧ write.stop ≤ peer.ep.lastRecvPos + size) :
    InTransit size (own.act transport peer action) peer := by
  have landed : peer.landed ≤ own.ep.segments.length := by
    rw [segments, List.length_map]
    exact lockstep.landed
  have extended : (own.act transport peer action).ep.segments =
      own.ep.segments ++ new.map WriteImm.toSegment := by
    rw [segments, posted, List.map_append, segments]
  have contiguous := (lockstep.acting action).outgoing.sending.contiguous
  rw [InTransit, extended]
  rw [extended] at contiguous
  refine transit.extend landed (lockstep.processed.trans landed) contiguous ?_
  intro segment member
  obtain ⟨write, fresh, rfl⟩ := List.mem_map.mp member
  obtain ⟨whole, inside⟩ := bounded write fresh
  rw [lockstep.position] at inside
  exact ⟨whole, inside⟩

theorem InTransit.observing (transit : InTransit size peer own) (lockstep : Lockstep size peer own)
    (back : Lockstep size own peer) (action : Action U) :
    InTransit size peer (own.act transport peer action) := by
  have receiving := act_receiving back.outgoing.sending peer action
  generalize own.act transport peer action = after at receiving
  cases receiving with
  | kept incoming landed processed _ =>
    have same : after.ep.recvRing = _ := congrArg Incoming.recvRing incoming
    rw [InTransit, same, landed, processed]
    exact transit
  | @landed write next =>
    have stored := transit.land (segments_getElem? next)
    change Transit size (own.ep.recvRing.write (write.remoteAddr - own.ep.recvRingMr.addr) _) _ _ _
    rw [lockstep.store_offset (List.mem_of_getElem? next)]
    exact stored
  | @processed write _ _ _ isProcess ready next =>
    have intact := transit.intactProcess .process ready write next
    rw [Side.took, lockstep.process_eq next intact]
    exact transit.process

section Connected

variable {config : Party → EndpointConfig} {host : Party → Host}

def EqualRings (config : Party → EndpointConfig) (size : Nat) : Prop :=
  ∀ party, (config party).sendRingSize.nextPowerOfTwo = size ∧
    (config party).recvRingSize.nextPowerOfTwo = size

/-- Both directions are in lockstep when the endpoints are connected. -/
theorem connected_lockstep (rings : EqualRings config size) (roomy : 2 * flowMetadataSize ≤ size) :
    Linked (Lockstep (U := U) size) (connected config host) := by
  intro party
  exact {
    outgoing := {
      sending := {
        attached := ⟨_, rfl, rfl⟩
        endpoint := rfl
        ringLen := (rings party).1
        outlet := .new (Nat.isPowerOfTwo_nextPowerOfTwo _) (roomy.trans_eq (rings party).1.symm)
        settled := fun _ => rfl
        starts := by
          intro entry member
          cases member }
      returning := ⟨Nat.le_refl _, Nat.le_refl _⟩ }
    recvRingLen := (rings party.peer).2
    processed := Nat.le_refl _
    landed := Nat.le_refl _
    position := rfl
    producer := rfl
    seen := rfl
    consumed := Nat.le_refl _ }

/-- The receiver stays in lockstep as long as it processes intact batches. -/
theorem lockstep_run {actions : List (Party × Action U)} (rings : EqualRings config size)
    (roomy : 2 * flowMetadataSize ≤ size)
    (guarded : Along step (Duplex (IntactProcess size)) (connected config host) actions) :
    Linked (Lockstep size) (run step (connected config host) actions) := by
  refine Linked.run ?_ ?_ (connected_lockstep rings roomy) guarded
  · intro own peer action lockstep _ _
    exact lockstep.acting action
  · intro own peer action lockstep back intact
    exact back.observing lockstep intact

/-- The receiver's positions are the sender's behind the batches processed so far. -/
theorem batches_in_lockstep {actions : List (Party × Action U)} (rings : EqualRings config size)
    (roomy : 64 ≤ size)
    (guarded : Along step (Duplex (IntactProcess size)) (connected config host) actions)
    (party : Party) :
    let sender := run step (connected config host) actions party
    let receiver := run step (connected config host) actions party.peer
    receiver.ep.lastRecvPos = sentPos sender.ep receiver.processed ∧
      receiver.ep.recvRingProducer = sentPos sender.ep receiver.processed ∧
      sender.ep.flushStartPos = sentPos sender.ep sender.ep.dci.posted.length ∧
      ∀ entry ∈ sender.ep.starts, entry.1 = entry.2 := by
  intro sender receiver
  have lockstep : Lockstep size sender receiver := lockstep_run rings roomy guarded party
  have sending := lockstep.outgoing.sending
  refine ⟨lockstep.position, lockstep.producer, ?_, sending.starts⟩
  rw [sentPos, List.take_of_length_le (by rw [segments, List.length_map]), sending.frontier]

/-- The same for batches, also after a refused wrap. -/
theorem messages_batched (rings : EqualRings config size) (roomy : 64 ≤ size)
    (actions : List (Party × Action U)) (party : Party) :
    let side := run step (connected config host) actions party
    side.ep.dci.posted.flatMap (fun write => write.batch.messages) ++ side.ep.openMessages =
        side.sent.map message ∧
      Contiguous side.ep.segments ∧ side.ep.returnedCredit ≤ side.ep.lastRecvPos ∧
      (side.ep.wrapPending = false → side.ep.Settled) := by
  have outgoing := run_each
    (fun party => Outgoing (connected (U := U) config host party.peer).ep.target size)
    (fun _ _ peer action own _ => (own.act peer action).1)
    (fun party => (connected_lockstep rings roomy party).outgoing) actions party
  have sending := outgoing.sending
  exact ⟨sending.outlet.laidOut, sending.contiguous,
    outgoing.returning.returned.trans outgoing.returning.notified, sending.settled⟩

end Connected

theorem smallRings_equal : EqualRings smallRings 128 := by
  intro party
  cases party <;> decide +kernel

/-- A call and the wrap that the next one needs; the first attempt of each is refused. -/
def retryRun : List (Party × Action Unit) :=
  [(.a, .call [] 0 (List.replicate 50 7) () 0), (.a, .flush [true]), (.a, .flush []),
    (.b, .land), (.b, .process), (.a, .call [] 1 [1, 2, 3] () 0),
    (.a, .flush [true]), (.a, .flush []), (.b, .land), (.b, .process)]

theorem batches_in_lockstep_retryRun :
    let sender := run step (connected smallRings sameHost) retryRun .a
    let receiver := run step (connected smallRings sameHost) retryRun .b
    receiver.processed = 2 ∧ sender.ep.starts.length = 4 ∧
      receiver.ep.lastRecvPos = sentPos sender.ep receiver.processed :=
  ⟨by decide +kernel, by decide +kernel,
    (batches_in_lockstep smallRings_equal (by decide) (by decide +kernel) .a).1⟩

theorem messages_batched_retryRun :
    let side := run step (connected smallRings sameHost) retryRun .a
    Contiguous side.ep.segments :=
  (messages_batched smallRings_equal (by decide) retryRun .a).2.1

end Locasta.Copyrpc.Dc
