import Locasta.Copyrpc.Rc.Endpoint

namespace Locasta.Copyrpc.Rc

open Data

/-! Every sending operation is a sequence of emission attempts, possibly followed
by one appended message. The rules below say so once; the invariants of the
transport are proved about the attempts. -/

namespace EndpointInner

variable {U : Type} {ring : RemoteRingInfo} {ep : EndpointInner U} {size : Nat}

/-- A batch that the send queue took, and the next one prepared. -/
def closeBatch (ep : EndpointInner U) (ring : RemoteRingInfo) : EndpointInner U :=
  (ep.fillMetadata.posting ring).prepareNextBatch

/-- A wrap marker that the send queue took, and the next batch prepared. -/
def wrapBatch (ep : EndpointInner U) (ring : RemoteRingInfo) : EndpointInner U :=
  (ep.placeWrap.posting ring).prepareNextBatch

/-- The endpoint is connected and its batch starts where the last WRITE ended. -/
structure Ready (ring : RemoteRingInfo) (ep : EndpointInner U) : Prop where
  connected : ep.remoteRecvRing = some ring
  start : ep.flushStartPos = ep.metaPos
  reserved : ep.metaPos < ep.sendRingProducer
  ringLen : ep.sendRingLen.isPowerOfTwo

/-- Without messages the reserved metadata block does not count. -/
def openEnd (ep : EndpointInner U) : Nat :=
  if ep.batchMessageCount = 0 then ep.metaPos else ep.sendRingProducer

def WrapsFrom (ring : RemoteRingInfo) (size : Nat) (ep atWrap : EndpointInner U) : Prop :=
  ep.wrapNeeded size = true ∧ ((ep.batchMessageCount = 0 ∧ atWrap = ep) ∨
      (0 < ep.batchMessageCount ∧ ep.qp.full = false ∧ atWrap = ep.closeBatch ring))

/-- The open batch keeps clear of the end of the cycle, or has just been started there. -/
def Placed (size : Nat) (ep : EndpointInner U) : Prop :=
  ep.wrapNeeded size = false ∨ (ep.batchMessageCount = 0 ∧ ep.metaPos % ep.sendRingLen = 0 ∧
      ep.sendRingProducer = ep.metaPos + flowMetadataSize)

theorem remaining_pos (power : ep.sendRingLen.isPowerOfTwo) :
    0 < ep.sendRingLen - maskOffset ep.metaPos ep.sendRingLen := by
  rw [maskOffset_eq_mod power]
  have below := Nat.mod_lt ep.metaPos (Nat.pos_of_isPowerOfTwo power)
  omega

theorem placeWrap_producer (power : ep.sendRingLen.isPowerOfTwo) :
    ep.placeWrap.sendRingProducer = cycleEnd ep.metaPos ep.sendRingLen := by
  change ep.metaPos + (ep.sendRingLen - maskOffset ep.metaPos ep.sendRingLen) = _
  rw [maskOffset_eq_mod power, cycleEnd]

section

variable {atWrap : EndpointInner U} (wraps : WrapsFrom ring size ep atWrap)
include wraps

theorem WrapsFrom.empty :
    atWrap.batchMessageCount = 0 := by
  obtain ⟨_, ⟨empty, rfl⟩ | ⟨_, _, rfl⟩⟩ := wraps
  · exact empty
  · rfl

theorem WrapsFrom.metaPos :
    atWrap.metaPos = ep.openEnd := by
  obtain ⟨_, ⟨empty, rfl⟩ | ⟨nonempty, _, rfl⟩⟩ := wraps
  · simp [openEnd, empty]
  · rw [openEnd, if_neg (by omega)]
    rfl

end

theorem closeBatch_ready (ready : ep.Ready ring) : (ep.closeBatch ring).Ready ring :=
  { ready with
    start := rfl
    reserved := Nat.lt_add_of_pos_right (by decide) }

theorem WrapsFrom.ready {atWrap : EndpointInner U} (wraps : WrapsFrom ring size ep atWrap)
    (ready : ep.Ready ring) : atWrap.Ready ring := by
  obtain ⟨_, ⟨_, rfl⟩ | ⟨_, _, rfl⟩⟩ := wraps
  · exact ready
  · exact closeBatch_ready ready

section

variable (ready : ep.Ready ring)
include ready

theorem fill_emitRaw : ep.fillMetadata.emitRaw =
      if ep.qp.full then (.error .io, ep.fillMetadata.refused)
      else (.ok true, ep.fillMetadata.posting ring) := by
  have connected : ep.fillMetadata.remoteRecvRing = some ring := ready.connected
  have unequal : ep.fillMetadata.flushStartPos ≠ ep.fillMetadata.sendRingProducer := by
    change ep.flushStartPos ≠ ep.sendRingProducer
    have start := ready.start
    have reserved := ready.reserved
    omega
  simp only [emitRaw, connected, if_neg unequal]
  rfl

theorem placeWrap_emitRaw : ep.placeWrap.emitRaw =
      if ep.qp.full then (.error .io, ep.placeWrap.refused)
      else (.ok true, ep.placeWrap.posting ring) := by
  have connected : ep.placeWrap.remoteRecvRing = some ring := ready.connected
  have unequal : ep.placeWrap.flushStartPos ≠ ep.placeWrap.sendRingProducer := by
    change ep.flushStartPos ≠ ep.metaPos + (ep.sendRingLen - maskOffset ep.metaPos ep.sendRingLen)
    have start := ready.start
    have remaining := remaining_pos ready.ringLen
    omega
  simp only [emitRaw, connected, if_neg unequal]
  rfl

theorem flush_elim {motive : Except Error Unit × EndpointInner U → Prop}
    (idle : ep.batchMessageCount = 0 → motive (.ok (), ep.ringDoorbell))
    (refused : 0 < ep.batchMessageCount → ep.qp.full = true →
      motive (.error .io, ep.fillMetadata.refused))
    (closed : 0 < ep.batchMessageCount → ep.qp.full = false →
      motive (.ok (), (ep.closeBatch ring).ringDoorbell)) :
    motive ep.flush := by
  by_cases empty : ep.batchMessageCount = 0
  · simpa only [flush, emitWqe, if_pos empty, tryThen_ok] using idle empty
  · have nonempty : 0 < ep.batchMessageCount := Nat.pos_of_ne_zero empty
    cases full : ep.qp.full with
    | true =>
      simpa [flush, emitWqe, if_neg empty, fill_emitRaw ready, full] using refused nonempty full
    | false =>
      have emitted : ep.flush = (.ok (), (ep.closeBatch ring).ringDoorbell) := by
        simp only [flush, emitWqe, if_neg empty, fill_emitRaw ready, full, Bool.false_eq_true,
          if_false, tryThen_ok]
        rfl
      rw [emitted]
      exact closed nonempty full

theorem handleWrapIfNeeded_elim {motive : Except Error Bool × EndpointInner U → Prop}
    (fits : ep.wrapNeeded size = false → motive (.ok false, ep))
    (closeRefused : 0 < ep.batchMessageCount → ep.qp.full = true →
      motive (.error .io, ep.fillMetadata.refused))
    (wrapRefused : ∀ atWrap, WrapsFrom ring size ep atWrap → atWrap.qp.full = true →
      motive (.error .io, atWrap.placeWrap.refused))
    (wrapped : ∀ atWrap, WrapsFrom ring size ep atWrap → atWrap.qp.full = false →
      motive (.ok true, atWrap.wrapBatch ring)) :
    motive (ep.handleWrapIfNeeded size) := by
  cases needed : ep.wrapNeeded size with
  | false => simpa [handleWrapIfNeeded, needed] using fits needed
  | true =>
    have finish : ∀ atWrap, WrapsFrom ring size ep atWrap →
        motive (tryThen id atWrap.emitWrap fun ep => (.ok true, ep)) := by
      intro atWrap wraps
      cases full : atWrap.qp.full with
      | true =>
        simpa [emitWrap, placeWrap_emitRaw (wraps.ready ready), full] using
          wrapRefused atWrap wraps full
      | false =>
        simp only [emitWrap, placeWrap_emitRaw (wraps.ready ready), full, Bool.false_eq_true,
          if_false, tryThen_ok]
        exact wrapped atWrap wraps full
    by_cases empty : ep.batchMessageCount = 0
    · simpa [handleWrapIfNeeded, needed, empty] using finish ep ⟨needed, .inl ⟨empty, rfl⟩⟩
    · have nonempty : 0 < ep.batchMessageCount := Nat.pos_of_ne_zero empty
      cases full : ep.qp.full with
      | true =>
        simpa [handleWrapIfNeeded, needed, nonempty, fill_emitRaw ready, full] using
          closeRefused nonempty full
      | false =>
        simp only [handleWrapIfNeeded, needed, nonempty, fill_emitRaw ready, full,
          Bool.not_true, Bool.false_eq_true, if_true, if_false, tryThen_ok]
        exact finish (ep.closeBatch ring) ⟨needed, .inr ⟨nonempty, full, rfl⟩⟩

theorem handleWrapIfNeeded_peerCreditBalance :
    (ep.handleWrapIfNeeded size).2.peerCreditBalance = ep.peerCreditBalance := by
  have kept : ∀ atWrap, WrapsFrom ring size ep atWrap →
      atWrap.peerCreditBalance = ep.peerCreditBalance := by
    rintro atWrap ⟨_, ⟨_, rfl⟩ | ⟨_, _, rfl⟩⟩ <;> rfl
  refine handleWrapIfNeeded_elim
    (motive := fun result => result.2.peerCreditBalance = ep.peerCreditBalance) ready ?_ ?_ ?_ ?_
  · intro _
    rfl
  · intro _ _
    rfl
  · intro atWrap wraps _
    exact kept atWrap wraps
  · intro atWrap wraps _
    exact kept atWrap wraps

theorem wrapBatch_placed : (ep.wrapBatch ring).Placed size := by
  have boundary : (ep.wrapBatch ring).metaPos = cycleEnd ep.metaPos ep.sendRingLen :=
    placeWrap_producer ready.ringLen
  have start := cycleEnd_mod (Nat.pos_of_isPowerOfTwo ready.ringLen) ep.metaPos
  rw [← boundary] at start
  exact .inr ⟨rfl, start, rfl⟩

end

/-- The grant of a metadata block that is encoded with the producer at `position`. -/
def grantAt (ep : EndpointInner U) (position : Nat) : Nat :=
  computeCreditGrant { ep with sendRingProducer := position }

section

variable (connected : ep.remoteRecvRing = some ring)
include connected

theorem grantAt_eq (position : Nat) : ep.grantAt position = alignDown (min
      ((ring.size - (position - ep.remoteConsumerPos)) / 2 - ep.respReservation)
      (ep.maxRespReservation - ep.respReservation)) := by
  simp only [grantAt, computeCreditGrant, connected]

theorem grantAt_space {position : Nat} (behind : ep.remoteConsumerPos ≤ position)
    (space : position + 2 * ep.respReservation ≤ ep.remoteConsumerPos + ring.size) :
    position + 2 * (ep.respReservation + ep.grantAt position) ≤
      ep.remoteConsumerPos + ring.size := by
  have bound : ep.grantAt position ≤
      (ring.size - (position - ep.remoteConsumerPos)) / 2 - ep.respReservation := by
    rw [grantAt_eq connected]
    exact (alignDown_le _).trans (Nat.min_le_left ..)
  omega

theorem grantAt_again {later : EndpointInner U} {position further : Nat}
    (remote : later.remoteRecvRing = some ring)
    (consumer : later.remoteConsumerPos = ep.remoteConsumerPos)
    (policy : later.maxRespReservation = ep.maxRespReservation)
    (reserved : later.respReservation = ep.respReservation + ep.grantAt position)
    (order : position ≤ further) : later.grantAt further = 0 := by
  have before := grantAt_eq connected position
  have bound := alignDown_le (min
    ((ring.size - (position - ep.remoteConsumerPos)) / 2 - ep.respReservation)
    (ep.maxRespReservation - ep.respReservation))
  rw [← before] at bound
  rw [grantAt_eq remote, consumer, policy, reserved]
  refine alignDown_rest (min
    ((ring.size - (position - ep.remoteConsumerPos)) / 2 - ep.respReservation)
    (ep.maxRespReservation - ep.respReservation)) ?_
  rw [← before]
  have half : (ring.size - (further - ep.remoteConsumerPos)) / 2 ≤
      (ring.size - (position - ep.remoteConsumerPos)) / 2 := Nat.div_le_div_right (by omega)
  omega

theorem grantAt_closeBatch : (ep.closeBatch ring).grantAt ep.sendRingProducer = 0 :=
  grantAt_again connected connected rfl rfl rfl (Nat.le_refl ep.sendRingProducer)

end

/-- `P` survives every emission attempt, wraps where `Wrappable` allows them. -/
structure Stable (ring : RemoteRingInfo) (Wrappable P : EndpointInner U → Prop) : Prop where
  ready : ∀ {ep}, P ep → ep.Ready ring
  doorbell : ∀ {ep}, P ep → P ep.ringDoorbell
  close : ∀ {ep}, P ep → 0 < ep.batchMessageCount → ep.qp.full = false → P (ep.closeBatch ring)
  closeRefused : ∀ {ep}, P ep → 0 < ep.batchMessageCount → ep.qp.full = true →
    P ep.fillMetadata.refused
  wrap : ∀ {ep}, P ep → ep.batchMessageCount = 0 → Wrappable ep → ep.qp.full = false →
    P (ep.wrapBatch ring)
  wrapRefused : ∀ {ep}, P ep → ep.batchMessageCount = 0 → Wrappable ep → ep.qp.full = true →
    P ep.placeWrap.refused

namespace Stable

variable {Wrappable P : EndpointInner U → Prop}

variable (stable : Stable ring Wrappable P)
include stable

theorem flush (holds : P ep) : P ep.flush.2 := by
  refine flush_elim (motive := fun result => P result.2) (stable.ready holds) ?_ ?_ ?_
  · intro _
    exact stable.doorbell holds
  · intro nonempty full
    exact stable.closeRefused holds nonempty full
  · intro nonempty room
    exact stable.doorbell (stable.close holds nonempty room)

theorem atWrap {atWrap : EndpointInner U} (holds : P ep)
    (wraps : WrapsFrom ring size ep atWrap) : P atWrap := by
  obtain ⟨_, ⟨_, rfl⟩ | ⟨nonempty, room, rfl⟩⟩ := wraps
  · exact holds
  · exact stable.close holds nonempty room

theorem handleWrapIfNeeded (holds : P ep)
    (wrappable : ∀ atWrap, WrapsFrom ring size ep atWrap → Wrappable atWrap) :
    P (ep.handleWrapIfNeeded size).2 ∧ ∀ flag, (ep.handleWrapIfNeeded size).1 = .ok flag →
        (ep.handleWrapIfNeeded size).2.Placed size := by
  refine handleWrapIfNeeded_elim
    (motive := fun result => P result.2 ∧ ∀ flag, result.1 = .ok flag → result.2.Placed size)
    (stable.ready holds) ?_ ?_ ?_ ?_
  · intro fits
    exact ⟨holds, fun _ _ => .inl fits⟩
  · intro nonempty full
    exact ⟨stable.closeRefused holds nonempty full, by simp⟩
  · intro atWrap wraps full
    exact ⟨stable.wrapRefused (stable.atWrap holds wraps) wraps.empty (wrappable atWrap wraps) full,
      by simp⟩
  · intro atWrap wraps room
    have before := stable.atWrap holds wraps
    exact ⟨stable.wrap before wraps.empty (wrappable atWrap wraps) room,
      fun _ _ => wrapBatch_placed (stable.ready before)⟩

theorem call {Q : EndpointInner U → Prop} {key responseAllowance : Nat} {data : List UInt8}
    {userData : U} (holds : P ep)
    (wrappable : internalAllowance responseAllowance ≤ ep.peerCreditBalance →
      ∀ atWrap, WrapsFrom ring (paddedMessageSize (asU32 data.length)) ep atWrap → Wrappable atWrap)
    (accept : ∀ ep', P ep' → ep'.Placed (paddedMessageSize (asU32 data.length)) →
      internalAllowance responseAllowance ≤ ep'.peerCreditBalance →
      paddedMessageSize (asU32 data.length) + 2 * ep'.respReservation ≤
        ring.size - (ep'.sendRingProducer - ep'.remoteConsumerPos) →
      Q (ep'.acceptCall key data userData responseAllowance)) :
    (∀ callId after, ep.call key data userData responseAllowance = (.ok callId, after) → Q after) ∧
    (∀ error after, ep.call key data userData responseAllowance = (.error error, after) →
      P after) := by
  have ready := stable.ready holds
  unfold EndpointInner.call
  simp only [ready.connected]
  by_cases poor : ep.peerCreditBalance < internalAllowance responseAllowance
  · simp only [if_pos poor]
    have flushed := stable.flush holds
    rcases outcome : ep.flush with ⟨result, after⟩
    rw [outcome] at flushed
    cases result with
    | error error => exact ⟨by simp, by rintro _ _ ⟨⟩; exact flushed⟩
    | ok value => exact ⟨by simp, by rintro _ _ ⟨⟩; exact flushed⟩
  · simp only [if_neg poor]
    have rich : internalAllowance responseAllowance ≤ ep.peerCreditBalance := by omega
    have credit : (ep.handleWrapIfNeeded (paddedMessageSize (asU32 data.length))).2.peerCreditBalance =
        ep.peerCreditBalance := handleWrapIfNeeded_peerCreditBalance ready
    obtain ⟨wrapped, placed⟩ := stable.handleWrapIfNeeded holds (wrappable rich)
    rcases outcome : ep.handleWrapIfNeeded (paddedMessageSize (asU32 data.length))
      with ⟨result, after⟩
    rw [outcome] at wrapped placed credit
    cases result with
    | error error => exact ⟨by simp, by rintro _ _ ⟨⟩; exact wrapped⟩
    | ok flag =>
      simp only [tryThen_ok]
      split
      · have flushed := stable.flush wrapped
        rcases second : after.flush with ⟨result, last⟩
        rw [second] at flushed
        cases result with
        | error error => exact ⟨by simp, by rintro _ _ ⟨⟩; exact flushed⟩
        | ok value => exact ⟨by simp, by rintro _ _ ⟨⟩; exact flushed⟩
      · rename_i space
        refine ⟨?_, by simp⟩
        rintro _ _ ⟨⟩
        refine accept after wrapped (placed flag rfl) ?_ ?_
        · exact rich.trans_eq credit.symm
        · exact Nat.le_of_not_lt space

theorem reply {Q : EndpointInner U → Prop} {handle : RecvMessage} {data : List UInt8} (holds : P ep)
    (wrappable : ∀ atWrap, WrapsFrom ring (paddedMessageSize (asU32 data.length)) ep atWrap →
      Wrappable atWrap)
    (accept : ∀ ep', P ep' → ep'.Placed (paddedMessageSize (asU32 data.length)) →
      Q (ep'.acceptReply handle data)) :
    (∀ value after, ep.reply handle data = (.ok value, after) → Q after) ∧
    (∀ error after, ep.reply handle data = (.error error, after) → P after) := by
  have ready := stable.ready holds
  unfold EndpointInner.reply
  simp only [ready.connected]
  obtain ⟨wrapped, placed⟩ := stable.handleWrapIfNeeded holds wrappable
  rcases outcome : ep.handleWrapIfNeeded (paddedMessageSize (asU32 data.length))
    with ⟨result, after⟩
  rw [outcome] at wrapped placed
  cases result with
  | error error => exact ⟨by simp, by rintro _ _ ⟨⟩; exact wrapped⟩
  | ok flag => exact ⟨by rintro _ _ ⟨⟩; exact accept after wrapped (placed flag rfl), by simp⟩

end Stable

end EndpointInner

end Locasta.Copyrpc.Rc
