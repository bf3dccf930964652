import Locasta.Copyrpc.Rc.Credit

namespace Locasta.Copyrpc.Rc

open Data EndpointInner

/-! Flow control.

What a sender has laid out, together with twice what it has reserved for responses, stays inside the
space that the receiver has returned. A call may break this budget only through the wrap marker that
it emits before it looks at the space.
-/

variable {U : Type} {size : Nat} {own peer : RcSide U}

namespace EndpointInner

variable {ring : RemoteRingInfo} {stream : List Message} {ep : EndpointInner U}
  {old : List WriteImm}

/-- The returned space covers the open batch and, twice, the reserved responses. -/
structure Budget (size : Nat) (ep : EndpointInner U) : Prop where
  space : ep.openEnd + 2 * ep.respReservation ≤ ep.remoteConsumerPos + size
  idle : ep.batchMessageCount = 0 → ep.sendRingProducer = ep.metaPos + flowMetadataSize
  inside : 0 < ep.batchMessageCount →
    ep.metaPos % size + (ep.sendRingProducer - ep.metaPos) < size ∨
      (ep.metaPos % size = 0 ∧ ep.sendRingProducer - ep.metaPos ≤ size)

/-- The WRITEs posted since `old` lie inside the returned space. -/
def Fresh (size : Nat) (old : List WriteImm) (ep : EndpointInner U) : Prop :=
  ∃ new, ep.qp.posted = old ++ new ∧
    ∀ write ∈ new, write.Whole size ∧ write.stop ≤ ep.remoteConsumerPos + size

structure Metered (size : Nat) (old : List WriteImm) (ep : EndpointInner U) : Prop where
  room : ep.qp.Room
  behind : ep.remoteConsumerPos ≤ ep.metaPos
  fresh : Fresh size old ep

theorem openEnd_empty (empty : ep.batchMessageCount = 0) : ep.openEnd = ep.metaPos := if_pos empty

theorem openEnd_nonempty (nonempty : 0 < ep.batchMessageCount) : ep.openEnd = ep.sendRingProducer :=
  if_neg (Nat.ne_of_gt nonempty)

theorem Budget.prepared {next : EndpointInner U}
    (space : next.sendRingProducer + 2 * next.respReservation ≤ next.remoteConsumerPos + size) :
    Budget size next.prepareNextBatch where
  space := space
  idle _ := rfl
  inside nonempty := absurd nonempty (Nat.lt_irrefl 0)

theorem Metered.post {filled : EndpointInner U} (metered : Metered size old ep)
    (queue : filled.qp = ep.qp) (consumer : filled.remoteConsumerPos = ep.remoteConsumerPos)
    (forward : ep.metaPos ≤ filled.sendRingProducer)
    (whole : (filled.writeImm ring).Whole size)
    (inside : filled.sendRingProducer ≤ ep.remoteConsumerPos + size) :
    Metered size old (filled.posting ring).prepareNextBatch where
  room := by
    change (filled.qp.accept _).Room
    rw [queue]
    exact metered.room.accept _
  behind := by
    change filled.remoteConsumerPos ≤ filled.sendRingProducer
    rw [consumer]
    exact metered.behind.trans forward
  fresh := by
    obtain ⟨new, posted, bounded⟩ := metered.fresh
    refine ⟨new ++ [filled.writeImm ring], ?_, ?_⟩
    · change filled.qp.posted ++ [filled.writeImm ring] = _
      rw [queue, posted, List.append_assoc]
    · intro write member
      change _ ∧ write.stop ≤ filled.remoteConsumerPos + size
      rw [consumer]
      rcases List.mem_append.mp member with earlier | last
      · exact bounded write earlier
      · rw [List.mem_singleton.mp last]
        exact ⟨whole, inside⟩

theorem close_whole (sending : Sending ring size stream ep) (word : size ≤ 2 ^ 32)
    (budget : Budget size ep) (nonempty : 0 < ep.batchMessageCount) :
    (ep.fillMetadata.writeImm ring).Whole size := by
  have start : ep.flushStartPos = ep.metaPos := sending.ready.start
  have fits : ep.metaPos % size + (ep.sendRingProducer - ep.metaPos) ≤ size := by
    rcases budget.inside nonempty with before | ⟨first, within⟩ <;> omega
  refine (sending.close_emitted nonempty).sound.whole word ?_
  change ep.flushStartPos % size + (ep.sendRingProducer - ep.flushStartPos) ≤ size
  rwa [start]

theorem wrap_whole (sending : Sending ring size stream ep) (word : size ≤ 2 ^ 32)
    (empty : ep.batchMessageCount = 0) : (ep.placeWrap.writeImm ring).Whole size := by
  have start : ep.flushStartPos = ep.metaPos := sending.ready.start
  have producer := placeWrap_producer sending.ready.ringLen
  have below := Nat.mod_lt ep.metaPos (Nat.pos_of_isPowerOfTwo sending.ready.ringLen)
  rw [sending.ringLen] at producer below
  unfold cycleEnd at producer
  refine (sending.wrap_emitted empty).sound.whole word ?_
  change ep.flushStartPos % size + (ep.placeWrap.sendRingProducer - ep.flushStartPos) ≤ size
  rw [start]
  omega

/-- A wrap marker after which the reservation is still covered. -/
def WrapCovered (size : Nat) (ep : EndpointInner U) : Prop :=
  cycleEnd ep.metaPos size + 2 * (ep.respReservation + ep.grantAt ep.metaPos) ≤
    ep.remoteConsumerPos + size

section

variable (sending : Sending ring size stream ep)
include sending

theorem Budget.close (ringSize : ring.size = size)
    (budget : Budget size ep) (behind : ep.remoteConsumerPos ≤ ep.metaPos)
    (nonempty : 0 < ep.batchMessageCount) : Budget size (ep.closeBatch ring) := by
  have space := budget.space
  have reserved := sending.ready.reserved
  rw [openEnd_nonempty nonempty] at space
  apply Budget.prepared
  rw [← ringSize] at space ⊢
  exact grantAt_space sending.ready.connected (behind.trans (Nat.le_of_lt reserved)) space

theorem Metered.close (word : size ≤ 2 ^ 32)
    (budget : Budget size ep) (metered : Metered size old ep)
    (nonempty : 0 < ep.batchMessageCount) : Metered size old (ep.closeBatch ring) := by
  have space := budget.space
  rw [openEnd_nonempty nonempty] at space
  exact metered.post rfl rfl (Nat.le_of_lt sending.ready.reserved)
    (close_whole sending word budget nonempty) (by change ep.sendRingProducer ≤ _; omega)

theorem Metered.wrap (word : size ≤ 2 ^ 32)
    (metered : Metered size old ep) (empty : ep.batchMessageCount = 0)
    (inside : cycleEnd ep.metaPos size ≤ ep.remoteConsumerPos + size) :
    Metered size old (ep.wrapBatch ring) := by
  have producer := placeWrap_producer sending.ready.ringLen
  rw [sending.ringLen] at producer
  refine metered.post rfl rfl ?_ (wrap_whole sending word empty) (by rw [producer]; exact inside)
  rw [producer, cycleEnd]
  exact Nat.le_add_right ..

end

theorem metered_stable (ringSize : ring.size = size) (word : size ≤ 2 ^ 32) :
    Stable ring (WrapCovered size) (fun ep : EndpointInner U =>
      Sending ring size stream ep ∧ Budget size ep ∧ Metered size old ep) where
  ready holds := holds.1.ready
  doorbell := by
    intro ep ⟨sending, budget, metered⟩
    refine ⟨sending.doorbell, ?_⟩
    unfold ringDoorbell
    split
    · exact ⟨⟨budget.space, budget.idle, budget.inside⟩,
        ⟨metered.room, metered.behind, metered.fresh⟩⟩
    · exact ⟨budget, metered⟩
  close := by
    intro ep ⟨sending, budget, metered⟩ nonempty _
    exact ⟨sending.close nonempty, budget.close sending ringSize metered.behind nonempty,
      metered.close sending word budget nonempty⟩
  closeRefused := by
    intro ep ⟨_, _, metered⟩ _ full
    rw [metered.room.not_full] at full
    cases full
  wrap := by
    intro ep ⟨sending, budget, metered⟩ empty covered _
    have producer := placeWrap_producer sending.ready.ringLen
    rw [sending.ringLen] at producer
    unfold WrapCovered at covered
    refine ⟨sending.wrap empty, Budget.prepared ?_, metered.wrap sending word empty (by omega)⟩
    change ep.placeWrap.sendRingProducer + 2 * (ep.respReservation + ep.grantAt ep.metaPos) ≤ _
    rw [producer]
    exact covered
  wrapRefused := by
    intro ep ⟨_, _, metered⟩ _ _ full
    rw [metered.room.not_full] at full
    cases full

theorem WrapsFrom.covered {atWrap : EndpointInner U} {count : Nat}
    (ready : ep.Ready ring) (wraps : WrapsFrom ring count ep atWrap)
    (covered : cycleEnd ep.openEnd size + 2 * (ep.respReservation + ep.grantAt ep.openEnd) ≤
      ep.remoteConsumerPos + size) : WrapCovered size atWrap := by
  obtain ⟨_, ⟨empty, rfl⟩ | ⟨nonempty, _, rfl⟩⟩ := wraps
  · rwa [openEnd_empty empty] at covered
  · rw [openEnd_nonempty nonempty] at covered
    change cycleEnd ep.sendRingProducer size + 2 * (ep.respReservation +
      ep.grantAt ep.sendRingProducer + (ep.closeBatch ring).grantAt ep.sendRingProducer) ≤ _
    rw [grantAt_closeBatch ready.connected]
    exact covered

theorem Budget.append {header : MessageHeader} {data : List UInt8}
    (ringLen : ep.sendRingLen = size) (power : size.isPowerOfTwo)
    (placed : ep.Placed (paddedMessageSize (asU32 data.length)))
    (forward : ep.metaPos ≤ ep.sendRingProducer)
    (space : ep.sendRingProducer + paddedMessageSize (asU32 data.length) +
      2 * ep.respReservation ≤ ep.remoteConsumerPos + size)
    (behind : ep.remoteConsumerPos ≤ ep.metaPos) : Budget size (ep.appendMessage header data) where
  space := by
    rw [openEnd_nonempty (Nat.succ_pos _)]
    exact space
  idle empty := absurd empty (Nat.succ_ne_zero _)
  inside _ := by
    change ep.metaPos % size + (ep.sendRingProducer + paddedMessageSize _ - ep.metaPos) < size ∨
      (ep.metaPos % size = 0 ∧ ep.sendRingProducer + paddedMessageSize _ - ep.metaPos ≤ size)
    rcases placed with fits | ⟨_, first, producer⟩
    · left
      simp only [wrapNeeded, ringLen, maskOffset_eq_mod power, decide_eq_false_iff_not] at fits
      omega
    · right
      rw [ringLen] at first
      exact ⟨first, by omega⟩

variable (sending : Sending ring size stream ep)
include sending

variable {data : List UInt8}

theorem Budget.acceptCall {key responseAllowance : Nat} {userData : U} (metered : Metered size old ep)
    (placed : ep.Placed (paddedMessageSize (asU32 data.length)))
    (space : paddedMessageSize (asU32 data.length) + 2 * ep.respReservation ≤
      size - (ep.sendRingProducer - ep.remoteConsumerPos)) :
    Budget size (ep.acceptCall key data userData responseAllowance) := by
  have reserved := sending.ready.reserved
  have behind := metered.behind
  have message := alignment_le_paddedMessageSize (asU32 data.length)
  unfold alignment at message
  have appended : Budget size (ep.appendMessage (requestHeader key responseAllowance) data) :=
    .append sending.ringLen (sending.ringLen ▸ sending.ready.ringLen) placed (by omega) (by omega)
      behind
  exact ⟨appended.space, appended.idle, appended.inside⟩

theorem Budget.acceptReply {handle : RecvMessage} (metered : Metered size old ep)
    (placed : ep.Placed (paddedMessageSize (asU32 data.length)))
    (space : ep.sendRingProducer + paddedMessageSize (asU32 data.length) +
      2 * (ep.respReservation - handle.responseAllowance) ≤ ep.remoteConsumerPos + size) :
    Budget size (ep.acceptReply handle data) := by
  exact .append sending.ringLen (sending.ringLen ▸ sending.ready.ringLen) placed
    (Nat.le_of_lt sending.ready.reserved) space metered.behind

theorem Budget.gap_le {count allowance : Nat}
    (budget : Budget size ep) (behind : ep.remoteConsumerPos ≤ ep.metaPos)
    (within : count + flowMetadataSize ≤ allowance) (backed : allowance ≤ ep.respReservation)
    (needed : ep.wrapNeeded count = true) : size - ep.openEnd % size ≤ allowance := by
  have power := sending.ready.ringLen
  have reserved := sending.ready.reserved
  have space := budget.space
  rw [sending.ringLen] at power
  simp only [wrapNeeded, sending.ringLen, maskOffset_eq_mod power, decide_eq_true_eq] at needed
  rcases Nat.eq_zero_or_pos ep.batchMessageCount with empty | nonempty
  · have producer := budget.idle empty
    rw [openEnd_empty empty]
    omega
  · rw [openEnd_nonempty nonempty] at space ⊢
    have inside : ep.metaPos % size + (ep.sendRingProducer - ep.metaPos) < size := by
      unfold flowMetadataSize at within
      rcases budget.inside nonempty with before | ⟨first, _⟩ <;> omega
    have offset := mod_add_of_lt inside
    rw [Nat.add_sub_cancel' (Nat.le_of_lt reserved)] at offset
    omega

/-- What was reserved covers the reply and what a wrap in front of it leaves unused. -/
theorem Metered.reply {handle : RecvMessage} (ringSize : ring.size = size) (word : size ≤ 2 ^ 32)
    (budget : Budget size ep) (metered : Metered size old ep)
    (within : paddedMessageSize (asU32 data.length) + flowMetadataSize ≤ handle.responseAllowance)
    (backed : handle.responseAllowance ≤ ep.respReservation) :
    ∃ after, ep.reply handle data = (.ok (), after) ∧ Budget size after ∧
      Metered size old after := by
  have behind := metered.behind
  simp only [EndpointInner.reply, sending.ready.connected]
  refine handleWrapIfNeeded_elim (motive := fun result => ∃ after,
    (tryThen id result fun ep => (.ok (), ep.acceptReply handle data)) = (.ok (), after) ∧
      Budget size after ∧ Metered size old after) sending.ready ?_ ?_ ?_ ?_
  · intro fits
    have space := budget.space
    refine ⟨_, rfl, Budget.acceptReply sending metered (.inl fits) ?_,
      metered.room, metered.behind, metered.fresh⟩
    rcases Nat.eq_zero_or_pos ep.batchMessageCount with empty | nonempty
    · have producer := budget.idle empty
      rw [openEnd_empty empty] at space
      omega
    · rw [openEnd_nonempty nonempty] at space
      omega
  · intro _ full
    rw [metered.room.not_full] at full
    cases full
  · intro atWrap wraps full
    obtain ⟨_, _, later⟩ := (metered_stable ringSize word).atWrap ⟨sending, budget, metered⟩ wraps
    rw [later.room.not_full] at full
    cases full
  · intro atWrap wraps _
    have gap := budget.gap_le sending behind within backed wraps.1
    have granted : handle.responseAllowance ≤ atWrap.respReservation := by
      obtain ⟨_, ⟨_, rfl⟩ | ⟨_, _, rfl⟩⟩ := wraps
      · exact backed
      · exact backed.trans (Nat.le_add_right ..)
    obtain ⟨sending, budget, metered⟩ :=
      (metered_stable ringSize word).atWrap ⟨sending, budget, metered⟩ wraps
    have space := budget.space
    rw [openEnd_empty wraps.empty] at space
    rw [← wraps.metaPos] at gap
    have wrapped : Metered size old (atWrap.wrapBatch ring) :=
      metered.wrap sending word wraps.empty (by unfold cycleEnd; omega)
    have added := grantAt_space sending.ready.connected metered.behind (ringSize ▸ space)
    have producer := placeWrap_producer sending.ready.ringLen
    rw [sending.ringLen, cycleEnd] at producer
    refine ⟨_, rfl, Budget.acceptReply (sending.wrap wraps.empty) wrapped
      (wrapBatch_placed sending.ready) ?_, wrapped.room, wrapped.behind, wrapped.fresh⟩
    change atWrap.placeWrap.sendRingProducer + flowMetadataSize + _ + 2 * (atWrap.respReservation +
      atWrap.grantAt atWrap.metaPos - handle.responseAllowance) ≤ atWrap.remoteConsumerPos + size
    omega

end EndpointInner

def responseBytes : Sent RecvMessage U → Nat
  | .request _ _ _ responseAllowance => responseAllowance
  | .response .. => 0

/-- A reply is no longer than its call allows. -/
def WithinAllowance (own peer : RcSide U) : Action U → Prop
  | .reply _ index data => ∀ request ∈ own.handles[index]?, ∀ call ∈ peer.sent[request.seq]?,
      data.length ≤ responseBytes call
  | _ => True

/-- The allowance of the call was not cut by the conversion to `u32`. -/
def WordAllowance (own peer : RcSide U) : Action U → Prop
  | .reply _ index _ => ∀ request ∈ own.handles[index]?, ∀ call ∈ peer.sent[request.seq]?,
      responseBytes call < 2 ^ 32
  | _ => True

/-- A call wraps only where the marker leaves the reservation covered. -/
def CoveredWrap (size : Nat) (own : RcSide U) : Action U → Prop
  | .call _ _ data _ responseAllowance =>
    internalAllowance responseAllowance ≤ own.ep.peerCreditBalance →
      own.ep.wrapNeeded (paddedMessageSize (asU32 data.length)) = true →
      cycleEnd own.ep.openEnd size + 2 * (own.ep.respReservation + own.ep.grantAt own.ep.openEnd) ≤
        own.ep.remoteConsumerPos + size
  | _ => True

instance (own peer : RcSide U) : (action : Action U) → Decidable (WithinAllowance own peer action)
  | .reply .. => inferInstanceAs (Decidable (∀ request ∈ _, ∀ call ∈ _, _))
  | .call .. | .flush _ | .recv | .drop _ | .land | .process => isTrue trivial

instance (own peer : RcSide U) : (action : Action U) → Decidable (WordAllowance own peer action)
  | .reply .. => inferInstanceAs (Decidable (∀ request ∈ _, ∀ call ∈ _, _))
  | .call .. | .flush _ | .recv | .drop _ | .land | .process => isTrue trivial

instance (size : Nat) (own : RcSide U) : (action : Action U) → Decidable (CoveredWrap size own action)
  | .call .. => inferInstanceAs (Decidable (_ → _ → _))
  | .reply .. | .flush _ | .recv | .drop _ | .land | .process => isTrue trivial

theorem Budget.act {ring : RemoteRingInfo} (peer : RcSide U)
    (sending : Sending ring size (own.sent.map message) own.ep) (ringSize : ring.size = size)
    (word : size ≤ 2 ^ 32) (budget : Budget size own.ep)
    (behind : own.ep.remoteConsumerPos ≤ own.ep.metaPos) {action : Action U}
    (room : action.NoRefusal) (covered : CoveredWrap size own action)
    (replies : ∀ answers index data request, action = .reply answers index data →
      own.handles[index]? = some request →
      paddedMessageSize (asU32 data.length) + flowMetadataSize ≤ request.message.responseAllowance ∧
        request.message.responseAllowance ≤ own.ep.respReservation) :
    Budget size (own.act transport peer action).ep ∧
      Fresh size own.ep.qp.posted (own.act transport peer action).ep := by
  have unchanged : Fresh size own.ep.qp.posted own.ep := ⟨[], by simp, by simp⟩
  have offered : Budget size (own.ep.offer action.answers) :=
    ⟨budget.space, budget.idle, budget.inside⟩
  have metered : Metered size own.ep.qp.posted (own.ep.offer action.answers) :=
    ⟨room, behind, unchanged⟩
  refine Side.act_elim
    (motive := fun side => Budget size side.ep ∧ Fresh size own.ep.qp.posted side.ep) action
    ⟨budget, unchanged⟩ ?_ ?_ ?_ ?_ ?_ ?_ ?_ ?_ ?_
  · rintro answers key data userData responseAllowance callId ep rfl outcome
    refine ((metered_stable ringSize word).call
      (Q := fun ep => Budget size ep ∧ Fresh size own.ep.qp.posted ep)
      ⟨sending.offer answers, offered, metered⟩ ?_ ?_).1 callId ep outcome
    · intro credit atWrap wraps
      exact wraps.covered (sending.offer answers).ready (covered credit wraps.1)
    · intro ep ⟨sending, _, metered⟩ placed _ space
      rw [ringSize] at space
      exact ⟨.acceptCall sending metered placed space, metered.fresh⟩
  · rintro answers key data userData responseAllowance error ep rfl outcome
    obtain ⟨_, budget, metered⟩ := ((metered_stable ringSize word).call (Q := fun _ => True)
      ⟨sending.offer answers, offered, metered⟩
      (fun credit atWrap wraps => wraps.covered (sending.offer answers).ready (covered credit wraps.1))
      (fun _ _ _ _ _ => trivial)).2 error ep outcome
    exact ⟨budget, metered.fresh⟩
  · rintro answers index data request value ep rfl live outcome
    obtain ⟨within, backed⟩ := replies answers index data request rfl live
    obtain ⟨after, replied, budget, metered⟩ :=
      metered.reply (sending.offer answers) ringSize word offered within backed
    cases replied.symm.trans outcome
    exact ⟨budget, metered.fresh⟩
  · rintro answers index data request error ep rfl live outcome
    obtain ⟨within, backed⟩ := replies answers index data request rfl live
    obtain ⟨after, replied, _, _⟩ :=
      metered.reply (sending.offer answers) ringSize word offered within backed
    cases replied.symm.trans outcome
  · rintro answers rfl
    obtain ⟨_, budget, metered⟩ :=
      (metered_stable ringSize word).flush ⟨sending.offer answers, offered, metered⟩
    exact ⟨budget, metered.fresh⟩
  · intro request rest _
    exact ⟨budget, unchanged⟩
  · intro index
    exact ⟨budget, unchanged⟩
  · intro write _ _
    exact ⟨⟨budget.space, budget.idle, budget.inside⟩, unchanged⟩
  · intro write _ _ _ _ _ _ _
    obtain ⟨_, _, _, _, _, _, grows, shape⟩ := own.ep.processCqeStatic_shape write.imm
    change Budget size (own.ep.processCqeStatic write.imm).1 ∧
      Fresh size own.ep.qp.posted (own.ep.processCqeStatic write.imm).1
    rw [shape]
    refine ⟨⟨?_, budget.idle, budget.inside⟩, [], by simp, by simp⟩
    exact budget.space.trans (Nat.add_le_add_right grows _)

/-- One direction, with the space that the receiver has returned. -/
structure FlowSafe (size : Nat) (sender receiver : RcSide U) : Prop where
  lockstep : Lockstep size sender receiver
  balanced : Balanced size sender receiver
  transit : InTransit size sender receiver
  budget : Budget size sender.ep

/-- No emission fails, and each handle is replied to once, with what its call allows. -/
def Orderly (own peer : RcSide U) (action : Action U) : Prop :=
  action.NoRefusal ∧ own.RepliesOnce action ∧ WithinAllowance own peer action

/-- No wrap marker takes the last block or space that is not covered. -/
def FlowGuard (size : Nat) (own peer : RcSide U) (action : Action U) : Prop :=
  Orderly own peer action ∧
    WordAllowance own peer action ∧ ClearWrap size own action ∧ CoveredWrap size own action

instance (own peer : RcSide U) (action : Action U) : Decidable (Orderly own peer action) :=
  inferInstanceAs (Decidable (_ ∧ _ ∧ _))

instance (size : Nat) (own peer : RcSide U) (action : Action U) :
    Decidable (FlowGuard size own peer action) :=
  inferInstanceAs (Decidable (_ ∧ _ ∧ _ ∧ _))

namespace FlowSafe

theorem reply_covered (safe : FlowSafe size own peer) {index : Nat} {data : List UInt8}
    {answers : List Bool} {request : Request RecvMessage}
    (live : own.handles[index]? = some request)
    (once : own.RepliesOnce (.reply answers index data))
    (within : WithinAllowance own peer (.reply answers index data))
    (short : WordAllowance own peer (.reply answers index data)) :
    paddedMessageSize (asU32 data.length) + flowMetadataSize ≤ request.message.responseAllowance ∧
      request.message.responseAllowance ≤ own.ep.respReservation := by
  have held : request ∈ own.live := List.mem_append_right _ (List.mem_of_getElem? live)
  refine ⟨?_, safe.balanced.reserved held (once request live)⟩
  obtain ⟨key, bytes, userData, responseAllowance, here, _, _, carried⟩ :=
    (safe.balanced.requests request held).1
  have length : data.length ≤ responseAllowance := within request live _ here
  have word : responseAllowance < 2 ^ 32 := short request live _ here
  have fits : paddedMessageSize (asU32 data.length) ≤ paddedMessageSize (asU32 responseAllowance) := by
    apply paddedMessageSize_mono
    rw [asU32, asU32, Nat.mod_eq_of_lt (by omega), Nat.mod_eq_of_lt word]
    exact length
  rw [carried]
  exact (Nat.add_le_add_right fits _).trans (alignUp_ge _)

variable {action : Action U}

section

variable (safe : FlowSafe size own peer) (back : FlowSafe size peer own) (word : size ≤ 2 ^ 32)
  (allowed : FlowGuard size own peer action)
include safe back word allowed

theorem posting :
    Budget size (own.act transport peer action).ep ∧
      ∃ new, (own.act transport peer action).ep.qp.posted = own.ep.qp.posted ++ new ∧
        ∀ write ∈ new, write.Whole size ∧ write.stop ≤ peer.ep.lastRecvPos + size := by
  obtain ⟨⟨room, once, within⟩, short, _, covered⟩ := allowed
  obtain ⟨budget, new, posted, bounded⟩ := Budget.act peer
    safe.lockstep.link.outgoing.sending safe.lockstep.link.recvRingLen word safe.budget
    (safe.lockstep.consumer_le back.lockstep) room covered (by
      rintro answers index data request rfl live
      exact safe.reply_covered live once within short)
  refine ⟨budget, new, posted, fun write member => ?_⟩
  have returned := Lockstep.consumer_le_position
    (back.lockstep.link.observing safe.lockstep.link (back.transit.intactProcess action))
  obtain ⟨whole, inside⟩ := bounded write member
  exact ⟨whole, inside.trans (Nat.add_le_add_right returned _)⟩

theorem acting :
    FlowSafe size (own.act transport peer action) peer := by
  obtain ⟨budget, new, posted, bounded⟩ := safe.posting back word allowed
  obtain ⟨⟨room, once, _⟩, _, clear, _⟩ := allowed
  exact {
    lockstep := safe.lockstep.acting clear
    balanced := safe.balanced.acting back.lockstep.link (back.transit.intactProcess action) room once
    transit := safe.transit.acting safe.lockstep posted bounded
    budget }

end

theorem observing (safe : FlowSafe size peer own) (back : FlowSafe size own peer) :
    FlowSafe size peer (own.act transport peer action) := by
  have intact := safe.transit.intactProcess action
  exact { safe with
    lockstep := safe.lockstep.observing back.lockstep intact
    balanced := safe.balanced.observing back.lockstep.link intact
    transit := safe.transit.observing safe.lockstep.link back.lockstep.link action }

end FlowSafe

/-- What the action posts ends at most one ring behind the receiver's position. -/
def WithinReturned (size : Nat) (own peer : RcSide U) (action : Action U) : Prop :=
  ∀ write ∈ (own.act transport peer action).ep.qp.posted.drop own.ep.qp.posted.length,
    write.stop ≤ peer.ep.lastRecvPos + size ∧
      ∀ other ∈ (own.act transport peer action).ep.qp.posted.drop peer.processed,
        write.stop ≤ other.start + size

instance (size : Nat) (own peer : RcSide U) (action : Action U) :
    Decidable (WithinReturned size own peer action) :=
  inferInstanceAs (Decidable (∀ write ∈ _, _))

theorem FlowSafe.within (safe : FlowSafe size own peer) (back : FlowSafe size peer own)
    (word : size ≤ 2 ^ 32) {action : Action U} (allowed : FlowGuard size own peer action) :
    WithinReturned size own peer action := by
  obtain ⟨_, new, posted, bounded⟩ := safe.posting back word allowed
  have after := safe.acting back word allowed
  intro write member
  rw [posted, List.drop_left] at member
  obtain ⟨_, inside⟩ := bounded write member
  refine ⟨inside, fun other unprocessed => inside.trans (Nat.add_le_add_right ?_ size)⟩
  obtain ⟨index, here⟩ := List.mem_iff_getElem?.mp unprocessed
  rw [List.getElem?_drop] at here
  rw [after.lockstep.position]
  exact after.transit.contiguous.frontier_le_start (Nat.le_add_right ..) (segments_getElem? here)

section Connected

variable {config : Party → EndpointConfig} {region : Party → MemoryRegion}
  {actions : List (Party × Action U)}

theorem connected_flowSafe (rings : EqualRings config size) (roomy : 2 * flowMetadataSize ≤ size) :
    Linked (FlowSafe (U := U) size) (connected config region) := by
  intro party
  exact {
    lockstep := connected_lockstep rings roomy party
    balanced := connected_balanced rings roomy party
    transit := .nil _
    budget := {
      space := by
        have credit := connected_credit (U := U) rings region party.peer
        have balance : (connected (U := U) config region party).ep.respReservation = _ :=
          connected_balance rings party
        change 0 + 2 * (connected config region party).ep.respReservation ≤ 0 + size
        omega
      idle := fun _ => rfl
      inside := fun nonempty => absurd nonempty (Nat.lt_irrefl 0) } }

/-- Every WRITE stays inside the space that the receiver is done with, if no call wraps into the
last block or beyond the space that covers its reservation. -/
theorem writes_within_returned_space (rings : EqualRings config size) (word : size ≤ 2 ^ 32)
    (guarded : Along step (Duplex (FlowGuard size)) (connected config region) actions) :
    Along step (Duplex (WithinReturned size)) (connected config region) actions := by
  by_cases small : size < 256
  · refine along_each (fun party => Quiet (connected config region party))
      (fun party _ _ _ quiet peerQuiet => Quiet.act rings small party quiet peerQuiet) ?_
      (fun _ => ⟨[], rfl⟩) actions
    intro party own peer action quiet peerQuiet write member
    obtain ⟨answers, silent⟩ : Quiet _ (own.act transport peer action) :=
      Quiet.act rings small party quiet peerQuiet
    rw [silent] at member
    cases List.mem_of_mem_drop member
  · exact Linked.along (fun own peer action safe back allowed => safe.acting back word allowed)
      (fun own peer action safe back _ => back.observing safe)
      (fun own peer action safe back allowed => safe.within back word allowed)
      (connected_flowSafe rings (by unfold flowMetadataSize; omega)) guarded

end Connected

theorem twoCalls_rings : EqualRings twoCalls 512 := by
  intro party
  cases party <;> decide +kernel

/-- A call of `a` and its reply, up to the credit that comes back. -/
def exchange (key : Nat) (data : List UInt8) : List (Party × Action Unit) :=
  [(.a, .call [] key data () 20), (.a, .flush []), (.b, .land), (.b, .process), (.b, .recv),
    (.b, .reply [] 0 []), (.b, .drop 0), (.b, .flush []), (.a, .land), (.a, .process)]

theorem writes_within_returned_space_exchange :
    0 < (run step (connected twoCalls sameRegion) (exchange 0 [1, 2, 3]) .b).ep.qp.posted.length ∧
      Along step (Duplex (WithinReturned 512)) (connected twoCalls sameRegion)
        (exchange 0 [1, 2, 3]) :=
  ⟨by decide +kernel, writes_within_returned_space twoCalls_rings (by decide) (by decide +kernel)⟩

/-- Two exchanges, a call that is not processed, and then a call that wraps. -/
def unpaidWrapRun : List (Party × Action Unit) :=
  exchange 0 (List.replicate 180 0) ++ exchange 0 (List.replicate 180 0) ++
    [(.a, .call [] 0 [] () 20), (.a, .flush []), (.a, .call [] 1 (List.replicate 430 0) () 20)]

/-- The marker ends at 1024, though the receiver stands at 448 in a ring of 512 bytes. -/
theorem unpaidWrapRun_overwrites :
    let sender := run step (connected twoCalls sameRegion) unpaidWrapRun .a
    let receiver := run step (connected twoCalls sameRegion) unpaidWrapRun .b
    Along step (Duplex Orderly) (connected twoCalls sameRegion) unpaidWrapRun ∧
      Along step (Duplex fun own _ action => ClearWrap 512 own action)
        (connected twoCalls sameRegion) unpaidWrapRun ∧
      (sender.ep.qp.posted.map fun write => (write.start, write.stop)) =
        [(0, 224), (224, 448), (448, 512), (512, 576), (576, 1024)] ∧
      receiver.processed = 2 ∧ receiver.ep.lastRecvPos = 448 ∧
      ¬ Along step (Duplex (WithinReturned 512)) (connected twoCalls sameRegion) unpaidWrapRun := by
  decide +kernel

end Locasta.Copyrpc.Rc
