import Locasta.Copyrpc.Dc.Lockstep

namespace Locasta.Copyrpc.Dc

open Data EndpointInner

/-! Flow control.

A call or reply takes a message only when the returned space holds it with one more header behind
it. A wrap and a batch that only returns credit take space without looking; the reserve covers one
header, not a wrap and not a second header.
-/

variable {U : Type} {size : Nat} {own peer : DcSide U}

namespace EndpointInner

variable {target : Target} {stream : List Message} {ep : EndpointInner U} {old : List WriteImm}

/-- The returned space covers the open batch and the reserve, and the batch lies in one cycle. -/
structure Budget (size : Nat) (ep : EndpointInner U) : Prop where
  space : 0 < ep.batchMessageCount →
    ep.sendRingProducer + creditReturnReserve ≤ ep.remoteConsumerPos + size
  inside : 0 < ep.batchMessageCount → ep.metaPos % size + (ep.sendRingProducer - ep.metaPos) < size

def Fresh (size : Nat) (old : List WriteImm) (ep : EndpointInner U) : Prop :=
  ∃ new, ep.dci.posted = old ++ new ∧
    ∀ write ∈ new, write.Whole size ∧ write.stop ≤ ep.remoteConsumerPos + size

/-- Without messages the reserved header does not count. -/
def openEnd (ep : EndpointInner U) : Nat :=
  if ep.batchMessageCount = 0 then ep.metaPos else ep.sendRingProducer

variable {dct : RemoteDctInfo}

theorem WrapsFrom.metaPos {ring : RemoteRingInfo} {atWrap : EndpointInner U}
    (wraps : WrapsFrom ring dct ep atWrap) : atWrap.metaPos = ep.openEnd := by
  obtain ⟨_, ⟨empty, rfl⟩ | ⟨nonempty, _, rfl⟩⟩ := wraps
  · rw [openEnd, if_pos empty]
  · rw [openEnd, if_neg (Nat.ne_of_gt nonempty)]
    rfl

/-- A wrap from here stays inside the returned space. -/
def WrapCovered (size : Nat) (ep : EndpointInner U) : Prop :=
  cycleEnd ep.metaPos size ≤ ep.remoteConsumerPos + size

/-- So does a header without messages. -/
def HeaderCovered (size : Nat) (ep : EndpointInner U) : Prop :=
  ep.metaPos + batchHeaderSize ≤ ep.remoteConsumerPos + size

theorem Budget.of_empty (empty : ep.batchMessageCount = 0) : Budget size ep where
  space nonempty := absurd empty (Nat.ne_of_gt nonempty)
  inside nonempty := absurd empty (Nat.ne_of_gt nonempty)

theorem Fresh.post {after : EndpointInner U} {write : WriteImm} (fresh : Fresh size old ep)
    (posted : after.dci.posted = ep.dci.posted ++ [write])
    (consumer : after.remoteConsumerPos = ep.remoteConsumerPos) (whole : write.Whole size)
    (inside : write.stop ≤ ep.remoteConsumerPos + size) : Fresh size old after := by
  obtain ⟨new, shape, bounded⟩ := fresh
  refine ⟨new ++ [write], by rw [posted, shape, List.append_assoc], ?_⟩
  intro other member
  rw [consumer]
  rcases List.mem_append.mp member with earlier | last
  · exact bounded other earlier
  · rw [List.mem_singleton.mp last]
    exact ⟨whole, inside⟩

theorem close_whole (sending : Sending target size stream ep)
    (word : size < 2 ^ 32) (settled : ep.Settled)
    (inside : ep.metaPos % size + (ep.sendRingProducer - ep.metaPos) ≤ size) :
    (ep.currentWrite target.ring dct ep.batchMessageCount).Whole size := by
  refine (sending.close_emitted dct settled).sound.whole (Nat.le_pred_of_lt word) ?_
  change ep.flushStartPos % size + (ep.sendRingProducer - ep.flushStartPos) ≤ size
  rwa [sending.start]

theorem wrap_whole (sending : Sending target size stream ep)
    (word : size < 2 ^ 32) (empty : ep.batchMessageCount = 0) :
    (ep.placeWrap.currentWrite target.ring dct wrapMessageCount).Whole size := by
  have producer := placeWrap_producer sending.outlet.power
  have below := Nat.mod_lt ep.metaPos (Nat.pos_of_isPowerOfTwo sending.power)
  rw [sending.ringLen, cycleEnd] at producer
  refine (sending.wrap_emitted dct empty).sound.whole (Nat.le_pred_of_lt word) ?_
  change ep.flushStartPos % size + (ep.placeWrap.sendRingProducer - ep.flushStartPos) ≤ size
  rw [sending.start, producer]
  omega

theorem metered_stable (word : size < 2 ^ 32) :
    Stable target.ring (WrapCovered size) (HeaderCovered size) (fun ep : EndpointInner U =>
      Sending target size stream ep ∧ Budget size ep ∧ Fresh size old ep) where
  attached holds := holds.1.attached
  flags := by
    intro ep ⟨sending, budget, fresh⟩ isDirty newlySignaledCount _ noted
    exact ⟨sending.flags isDirty newlySignaledCount noted, ⟨budget.space, budget.inside⟩, fresh⟩
  close := by
    intro ep dct ⟨sending, budget, fresh⟩ nonempty _
    have settled := sending.settled_of_nonempty nonempty
    have space := budget.space nonempty
    refine ⟨sending.close settled, .of_empty rfl, fresh.post rfl rfl
      (close_whole sending word settled (Nat.le_of_lt (budget.inside nonempty))) ?_⟩
    change ep.sendRingProducer ≤ _
    omega
  closeRefused := by
    intro ep ⟨sending, budget, fresh⟩ _ _
    exact ⟨sending.closeRefused _, ⟨budget.space, budget.inside⟩, fresh⟩
  wrap := by
    intro ep dct ⟨sending, _, fresh⟩ empty covered _
    have producer := placeWrap_producer sending.outlet.power
    rw [sending.ringLen] at producer
    refine ⟨sending.wrap empty, .of_empty rfl, fresh.post rfl rfl
      (wrap_whole sending word empty) ?_⟩
    change ep.placeWrap.sendRingProducer ≤ _
    rw [producer]
    exact covered
  wrapRefused := by
    intro ep ⟨sending, _, fresh⟩ empty pending _ _
    exact ⟨sending.wrapRefused empty pending, .of_empty empty, fresh⟩
  credit := by
    intro ep dct ⟨sending, _, fresh⟩ empty noWrap covered _
    have settled := sending.settled noWrap
    have producer : ep.sendRingProducer = ep.metaPos + batchHeaderSize := by
      rw [Settled, openMessages_of_empty empty] at settled
      exact settled
    have unit : ep.metaPos + batchHeaderSize ≤ cycleEnd ep.metaPos ep.sendRingLen :=
      sending.outlet.add_block_le_cycleEnd
    have below := Nat.mod_lt ep.metaPos (Nat.pos_of_isPowerOfTwo sending.power)
    rw [sending.ringLen, cycleEnd] at unit
    unfold HeaderCovered at covered
    rw [postBatch_zero empty]
    refine ⟨sending.close settled, .of_empty rfl, fresh.post rfl rfl
      (close_whole sending word settled (by omega)) ?_⟩
    change ep.sendRingProducer ≤ _
    omega
  creditRefused := by
    intro ep ⟨sending, budget, fresh⟩ _ _ _ _
    exact ⟨sending.closeRefused _, ⟨budget.space, budget.inside⟩, fresh⟩

theorem Budget.append {callId : UInt32} {data : List UInt8}
    (sending : Sending target size stream ep) (ringSize : target.ring.size = size)
    (room : ep.HasRoom target.ring (dcPaddedMessageSize (asU32 data.length))) :
    Budget size (ep.appendMessage callId data) := by
  have reserved : ep.metaPos < ep.sendRingProducer := sending.outlet.reserved
  have positive : 0 < dcPaddedMessageSize (asU32 data.length) := by
    have size := alignUp_ge (dcHeaderSize + asU32 data.length)
    unfold dcPaddedMessageSize
    unfold dcHeaderSize at *
    omega
  have fits := (hasCycleRoomFor_iff sending.outlet.power (Nat.le_of_lt reserved)).mp room.1
  have space := room.2
  rw [sending.ringLen] at fits
  simp only [available, ringSize] at space
  constructor
  · intro _
    change ep.sendRingProducer + dcPaddedMessageSize (asU32 data.length) + creditReturnReserve ≤ _
    change _ ≤ ep.remoteConsumerPos + size
    omega
  · intro _
    change ep.metaPos % size +
      (ep.sendRingProducer + dcPaddedMessageSize (asU32 data.length) - ep.metaPos) < size
    omega

end EndpointInner

/-- A flush takes only returned space for a wrap and for a header without messages. -/
def CoveredFlush (size : Nat) (own : DcSide U) : Action U → Prop
  | .flush _ =>
    (own.ep.wrapPending = true → cycleEnd own.ep.openEnd size ≤ own.ep.remoteConsumerPos + size) ∧
      (own.ep.hasPendingFlush = false → own.ep.Unreturned → HeaderCovered size own.ep)
  | _ => True

instance (size : Nat) (ep : EndpointInner U) : Decidable (HeaderCovered size ep) :=
  inferInstanceAs (Decidable (_ ≤ _))

instance (size : Nat) (own : DcSide U) : (action : Action U) → Decidable (CoveredFlush size own action)
  | .flush _ => inferInstanceAs (Decidable (_ ∧ _))
  | .call .. | .reply .. | .process | .recv | .drop _ | .land => isTrue trivial

theorem Budget.act {target : Target} (peer : DcSide U)
    (sending : Sending target size (own.sent.map message) own.ep)
    (ringSize : target.ring.size = size) (word : size < 2 ^ 32) (budget : Budget size own.ep)
    {action : Action U} (covered : CoveredFlush size own action) :
    Budget size (own.act transport peer action).ep ∧
      Fresh size own.ep.dci.posted (own.act transport peer action).ep := by
  have unchanged : Fresh size own.ep.dci.posted own.ep := ⟨[], by simp, by simp⟩
  refine (act_rule own peer
    (P := fun sent _ ep => Sending target size (sent.map message) ep ∧ Budget size ep ∧
      Fresh size own.ep.dci.posted ep) action
    (fun _ _ => metered_stable word) ⟨sending, budget, unchanged⟩
    ⟨sending.offer _, ⟨budget.space, budget.inside⟩, unchanged⟩ ?_ ?_ ?_ ?_ ?_ ?_).2
  · rintro answers dct atWrap rfl wraps
    have consumer : atWrap.remoteConsumerPos = own.ep.remoteConsumerPos := by
      obtain ⟨_, ⟨_, rfl⟩ | ⟨_, _, rfl⟩⟩ := wraps <;> rfl
    rw [WrapCovered, wraps.metaPos, consumer]
    exact covered.1 wraps.1
  · rintro answers rfl empty noWrap owed
    refine covered.2 ?_ owed
    rw [hasPendingFlush, noWrap, empty]
    rfl
  · rintro answers key data userData responseAllowance ep _ ⟨sending, budget, fresh⟩ room
    rw [List.map_append]
    have appended : Budget size (ep.appendMessage (UInt32.ofNat key) data) :=
      Budget.append sending ringSize room
    exact ⟨sending.acceptCall room, ⟨appended.space, appended.inside⟩, fresh⟩
  · rintro answers index data request ep _ _ ⟨sending, budget, fresh⟩ room
    rw [List.map_append]
    have appended : Budget size (ep.appendMessage (toResponseId request.message.callId) data) :=
      Budget.append sending ringSize room
    exact ⟨sending.acceptReply room, ⟨appended.space, appended.inside⟩, fresh⟩
  · intro write
    exact ⟨sending.store write, ⟨budget.space, budget.inside⟩, unchanged⟩
  · intro write _ _
    have processed := sending.process write.imm
    obtain ⟨_, _, _, _, _, grows, shape⟩ := own.ep.processCqeStatic_shape write.imm
    rw [shape] at processed ⊢
    refine ⟨processed, ⟨fun nonempty => ?_, budget.inside⟩, [], by simp, by simp⟩
    exact (budget.space nonempty).trans (Nat.add_le_add_right grows _)

/-- One direction, with the budget of its sender. -/
structure FlowSafe (size : Nat) (sender receiver : DcSide U) : Prop where
  lockstep : Lockstep size sender receiver
  transit : InTransit size sender receiver
  budget : Budget size sender.ep

namespace FlowSafe

section

variable (safe : FlowSafe size own peer) (back : FlowSafe size peer own) (word : size < 2 ^ 32)
include safe back word

theorem posting {action : Action U} (covered : CoveredFlush size own action) :
    Budget size (own.act transport peer action).ep ∧
      ∃ new, (own.act transport peer action).ep.dci.posted = own.ep.dci.posted ++ new ∧
        ∀ write ∈ new, write.Whole size ∧ write.stop ≤ peer.ep.lastRecvPos + size := by
  obtain ⟨budget, new, posted, bounded⟩ := Budget.act peer safe.lockstep.outgoing.sending
    safe.lockstep.recvRingLen word safe.budget covered
  refine ⟨budget, new, posted, fun write member => ?_⟩
  have returned := Lockstep.consumer_le_position
    (back.lockstep.observing safe.lockstep (back.transit.intactProcess action))
  obtain ⟨whole, inside⟩ := bounded write member
  exact ⟨whole, inside.trans (Nat.add_le_add_right returned _)⟩

theorem acting {action : Action U} (covered : CoveredFlush size own action) :
    FlowSafe size (own.act transport peer action) peer := by
  obtain ⟨budget, new, posted, bounded⟩ := safe.posting back word covered
  exact {
    lockstep := safe.lockstep.acting action
    transit := safe.transit.acting safe.lockstep posted bounded
    budget }

end

theorem observing (safe : FlowSafe size peer own) (back : FlowSafe size own peer)
    (action : Action U) : FlowSafe size peer (own.act transport peer action) where
  lockstep := safe.lockstep.observing back.lockstep (safe.transit.intactProcess action)
  transit := safe.transit.observing safe.lockstep back.lockstep action
  budget := safe.budget

end FlowSafe

/-- What the action posts ends at most one ring behind the receiver's position. -/
def WithinReturned (size : Nat) (own peer : DcSide U) (action : Action U) : Prop :=
  ∀ write ∈ (own.act transport peer action).ep.dci.posted.drop own.ep.dci.posted.length,
    write.stop ≤ peer.ep.lastRecvPos + size ∧
      ∀ other ∈ (own.act transport peer action).ep.dci.posted.drop peer.processed,
        write.stop ≤ other.start + size

instance (size : Nat) (own peer : DcSide U) (action : Action U) :
    Decidable (WithinReturned size own peer action) :=
  inferInstanceAs (Decidable (∀ write ∈ _, _))

theorem FlowSafe.within (safe : FlowSafe size own peer) (back : FlowSafe size peer own)
    (word : size < 2 ^ 32) {action : Action U} (covered : CoveredFlush size own action) :
    WithinReturned size own peer action := by
  obtain ⟨_, new, posted, bounded⟩ := safe.posting back word covered
  have after := safe.acting back word covered
  intro write member
  rw [posted, List.drop_left] at member
  obtain ⟨_, inside⟩ := bounded write member
  refine ⟨inside, fun other unprocessed => inside.trans (Nat.add_le_add_right ?_ size)⟩
  obtain ⟨index, here⟩ := List.mem_iff_getElem?.mp unprocessed
  rw [List.getElem?_drop] at here
  rw [after.lockstep.position]
  exact after.transit.contiguous.frontier_le_start (Nat.le_add_right ..) (segments_getElem? here)

section Connected

variable {config : Party → EndpointConfig} {host : Party → Host}
  {actions : List (Party × Action U)}

theorem connected_flowSafe (rings : EqualRings config size) (roomy : 2 * flowMetadataSize ≤ size) :
    Linked (FlowSafe (U := U) size) (connected config host) := by
  intro party
  exact {
    lockstep := connected_lockstep rings roomy party
    transit := .nil _
    budget := .of_empty rfl }

/-- Every batch stays inside the space that the receiver is done with, if flushes find returned
space for their wraps and headers. -/
theorem batches_within_returned_space (rings : EqualRings config size) (roomy : 64 ≤ size)
    (word : size < 2 ^ 32)
    (guarded : Along step (Duplex fun own _ action => CoveredFlush size own action)
      (connected config host) actions) :
    Along step (Duplex (WithinReturned size)) (connected config host) actions :=
  Linked.along (fun _ _ _ safe back covered => safe.acting back word covered)
    (fun _ _ action safe back _ => back.observing safe action)
    (fun _ _ _ safe back covered => safe.within back word covered)
    (connected_flowSafe rings roomy) guarded

end Connected

/-- A call whose credit comes back before the next call has to wrap. -/
def paidWrapRun : List (Party × Action Unit) :=
  [(.a, .call [] 0 (List.replicate 56 7) () 0), (.a, .flush []), (.b, .land), (.b, .process),
    (.b, .recv), (.b, .reply [] 0 []), (.b, .flush []), (.a, .land), (.a, .process),
    (.a, .call [] 0 [] () 0), (.a, .flush []), (.a, .call [] 0 [] () 0), (.a, .flush [])]

theorem batches_within_returned_space_paidWrapRun :
    ((run step (connected smallRings sameHost) paidWrapRun .a).ep.dci.posted.map
        fun write => (write.start, write.stop)) = [(0, 96), (96, 128), (128, 192)] ∧
      Along step (Duplex (WithinReturned 128)) (connected smallRings sameHost) paidWrapRun :=
  ⟨by decide +kernel, batches_within_returned_space smallRings_equal (by decide) (by decide)
    (by decide +kernel)⟩

/-- The receiver processes nothing, and the flushes have two wraps to do. -/
def unpaidWrapRun : List (Party × Action Unit) :=
  [(.a, .call [] 0 (List.replicate 56 7) () 0), (.a, .flush []), (.a, .call [] 1 [] () 0),
    (.a, .flush []), (.a, .call [] 1 (List.replicate 88 7) () 0), (.a, .flush [])]

/-- The last call of `a` only marks the endpoint dirty; the flush then has credit to return. -/
def unpaidHeaderRun : List (Party × Action Unit) :=
  [(.a, .call [] 0 (List.replicate 56 7) () 0), (.a, .flush []), (.b, .call [] 0 [] () 0),
    (.b, .flush []), (.a, .land), (.a, .process), (.a, .call [] 1 [] () 0), (.a, .flush []),
    (.b, .call [] 1 (List.replicate 30 7) () 0), (.b, .flush []), (.a, .land), (.a, .process),
    (.a, .call [] 1 [] () 0), (.a, .flush [])]

/-- The last WRITE of both runs overwrites the first, which has not been processed. -/
theorem unpaid_flushes_overwrite :
    let overwrites (actions : List (Party × Action Unit)) (last : Nat × Nat) : Prop :=
      Along step (Duplex fun own _ action => Scheduled own action ∧ action.NoRefusal)
          (connected smallRings sameHost) actions ∧
        ((run step (connected smallRings sameHost) actions .a).ep.dci.posted.map
          fun write => (write.start, write.stop)) = [(0, 96), (96, 128), last] ∧
        (run step (connected smallRings sameHost) actions .b).ep.lastRecvPos = 0 ∧
        ¬ Along step (Duplex (WithinReturned 128)) (connected smallRings sameHost) actions
    overwrites unpaidWrapRun (128, 256) ∧ overwrites unpaidHeaderRun (128, 160) := by
  decide +kernel

end Locasta.Copyrpc.Dc
