import Locasta.Copyrpc.Rc.System

namespace Locasta.Copyrpc.Rc

open Data

/-! Replies against the space that is reserved for them.

A reply makes no check of its own: its space was set aside, twice over, when the credit for the
request was granted. -/

theorem tryThen_eq_ok {E F A B S : Type} {convert : E → F} {result : Except E A × S}
    {next : S → Except F B × S} {value : B} {after : S}
    (outcome : tryThen convert result next = (.ok value, after)) :
    ∃ first middle, result = (.ok first, middle) ∧ next middle = (.ok value, after) := by
  obtain ⟨result, middle⟩ := result
  cases result with
  | error error => cases outcome
  | ok first => exact ⟨first, middle, rfl, outcome⟩

namespace EndpointInner

variable {U : Type} {ring : RemoteRingInfo} {ep after : EndpointInner U} {size : Nat}

/-- Rings of one size, positions in whole blocks, and a batch that is open. -/
structure Laid (ring : RemoteRingInfo) (ep : EndpointInner U) : Prop where
  connected : ep.remoteRecvRing = some ring
  sameSize : ring.size = ep.sendRingLen
  power : ep.sendRingLen.isPowerOfTwo
  metaDvd : alignment ∣ ep.metaPos
  producerDvd : alignment ∣ ep.sendRingProducer
  consumerDvd : alignment ∣ ep.remoteConsumerPos
  startDvd : alignment ∣ ep.flushStartPos
  opened : ep.metaPos + flowMetadataSize ≤ ep.sendRingProducer

/-- The open batch and, twice, the reserved responses fit into the peer's ring. -/
structure Reserved (ring : RemoteRingInfo) (ep : EndpointInner U) : Prop extends Laid ring ep where
  inside : ep.metaPos % ep.sendRingLen + (ep.sendRingProducer - ep.metaPos) ≤ ep.sendRingLen
  behind : ep.remoteConsumerPos ≤ ep.openEnd
  space : ep.openEnd - ep.remoteConsumerPos + 2 * ep.respReservation ≤ ep.sendRingLen

/-- Nothing but what the send queue was given differs. -/
structure SameLayout (ep after : EndpointInner U) : Prop where
  remote : after.remoteRecvRing = ep.remoteRecvRing
  ringLen : after.sendRingLen = ep.sendRingLen
  metaPos : after.metaPos = ep.metaPos
  producer : after.sendRingProducer = ep.sendRingProducer
  count : after.batchMessageCount = ep.batchMessageCount
  consumer : after.remoteConsumerPos = ep.remoteConsumerPos
  reservation : after.respReservation = ep.respReservation
  policy : after.maxRespReservation = ep.maxRespReservation
  start : after.flushStartPos = ep.flushStartPos ∨ after.flushStartPos = ep.sendRingProducer

theorem emitRaw_layout (ep : EndpointInner U) : SameLayout ep ep.emitRaw.2 := by
  unfold emitRaw
  split
  · exact ⟨rfl, rfl, rfl, rfl, rfl, rfl, rfl, rfl, .inl rfl⟩
  · split
    · exact ⟨rfl, rfl, rfl, rfl, rfl, rfl, rfl, rfl, .inl rfl⟩
    · split
      · exact ⟨rfl, rfl, rfl, rfl, rfl, rfl, rfl, rfl, .inl rfl⟩
      · exact ⟨rfl, rfl, rfl, rfl, rfl, rfl, rfl, rfl, .inr rfl⟩

namespace SameLayout

theorem openEnd (same : SameLayout ep after) : after.openEnd = ep.openEnd := by
  rw [EndpointInner.openEnd, same.count, same.metaPos, same.producer, EndpointInner.openEnd]

theorem reserved (same : SameLayout ep after) (reserved : Reserved ring ep) :
    Reserved ring after where
  connected := same.remote.trans reserved.connected
  sameSize := reserved.sameSize.trans same.ringLen.symm
  power := same.ringLen ▸ reserved.power
  metaDvd := same.metaPos ▸ reserved.metaDvd
  producerDvd := same.producer ▸ reserved.producerDvd
  consumerDvd := same.consumer ▸ reserved.consumerDvd
  startDvd := by
    rcases same.start with start | start
    · rw [start]
      exact reserved.startDvd
    · rw [start]
      exact reserved.producerDvd
  opened := by rw [same.metaPos, same.producer]; exact reserved.opened
  inside := by rw [same.metaPos, same.producer, same.ringLen]; exact reserved.inside
  behind := by rw [same.openEnd, same.consumer]; exact reserved.behind
  space := by rw [same.openEnd, same.consumer, same.reservation, same.ringLen]; exact reserved.space

end SameLayout

namespace Reserved

variable (reserved : Reserved ring ep)
include reserved

theorem ringDvd : alignment ∣ ep.sendRingLen := by
  refine dvd_of_isPowerOfTwo_le ⟨5, rfl⟩ reserved.power ?_
  have opened := reserved.opened
  have inside := reserved.inside
  unfold flowMetadataSize at opened
  unfold alignment
  omega

theorem grant :
    ep.openEnd - ep.remoteConsumerPos + 2 * (ep.respReservation + ep.grantAt ep.openEnd) ≤
      ep.sendRingLen := by
  have behind := reserved.behind
  have space := reserved.space
  have sameSize := reserved.sameSize
  have granted := grantAt_space reserved.connected behind (by omega)
  omega

theorem fillMetadata (nonempty : 0 < ep.batchMessageCount) : Reserved ring ep.fillMetadata := by
  have granted := reserved.grant
  have atEnd : ep.openEnd = ep.sendRingProducer := if_neg (Nat.ne_of_gt nonempty)
  rw [atEnd] at granted
  have filled : ep.fillMetadata.openEnd = ep.sendRingProducer := atEnd
  exact { reserved with
    space := by
      rw [filled]
      exact granted }

theorem placeWrap (empty : ep.batchMessageCount = 0) : Reserved ring ep.placeWrap := by
  have granted := reserved.grant
  have atMeta : ep.openEnd = ep.metaPos := if_pos empty
  have producer := placeWrap_producer reserved.power
  have positive := Nat.pos_of_isPowerOfTwo reserved.power
  have below := Nat.mod_lt ep.metaPos positive
  rw [atMeta] at granted
  exact { reserved with
    producerDvd := producer ▸ dvd_cycleEnd reserved.metaDvd reserved.ringDvd
    opened := by
      rw [producer]
      exact add_unit_le_cycleEnd positive reserved.metaDvd reserved.ringDvd
    inside := by
      rw [producer]
      change ep.metaPos % ep.sendRingLen + (cycleEnd ep.metaPos ep.sendRingLen - ep.metaPos) ≤
        ep.sendRingLen
      unfold cycleEnd
      omega
    behind := by
      have behind := reserved.behind
      rw [atMeta] at behind
      rw [openEnd, if_pos (show ep.placeWrap.batchMessageCount = 0 from empty)]
      exact behind
    space := by
      rw [openEnd, if_pos (show ep.placeWrap.batchMessageCount = 0 from empty)]
      exact granted }

theorem prepareNextBatch (nonempty : 0 < ep.batchMessageCount) :
    Reserved ring ep.prepareNextBatch := by
  have atEnd : ep.openEnd = ep.sendRingProducer := if_neg (Nat.ne_of_gt nonempty)
  have next : ep.prepareNextBatch.openEnd = ep.openEnd := atEnd.symm
  have positive := Nat.pos_of_isPowerOfTwo reserved.power
  have room := add_unit_le_cycleEnd positive reserved.producerDvd reserved.ringDvd
  have below := Nat.mod_lt ep.sendRingProducer positive
  exact { reserved with
    metaDvd := reserved.producerDvd
    producerDvd := Nat.dvd_add reserved.producerDvd (by decide)
    opened := Nat.le_refl _
    inside := by
      change ep.sendRingProducer % ep.sendRingLen +
        (ep.sendRingProducer + flowMetadataSize - ep.sendRingProducer) ≤ ep.sendRingLen
      unfold cycleEnd alignment at room
      unfold flowMetadataSize
      omega
    behind := Nat.le_trans reserved.behind (Nat.le_of_eq next.symm)
    space := by
      rw [next]
      exact reserved.space }

theorem ringDoorbell : Reserved ring ep.ringDoorbell := by
  unfold EndpointInner.ringDoorbell
  split
  · exact { reserved with }
  · exact reserved

theorem flush : Reserved ring ep.flush.2 := by
  unfold EndpointInner.flush emitWqe
  split
  · exact reserved.ringDoorbell
  · rename_i nonempty
    have filled := reserved.fillMetadata (Nat.pos_of_ne_zero nonempty)
    have same := ep.fillMetadata.emitRaw_layout
    have emitted := same.reserved filled
    have count : 0 < ep.fillMetadata.emitRaw.2.batchMessageCount := by
      rw [same.count]
      exact Nat.pos_of_ne_zero nonempty
    cases outcome : ep.fillMetadata.emitRaw with
    | mk result middle =>
      rw [outcome] at emitted count
      cases result with
      | error error => exact emitted
      | ok flag => exact (emitted.prepareNextBatch count).ringDoorbell

end Reserved

/-- A new cycle was entered from `ep`. -/
structure Wrapped (ep after : EndpointInner U) : Prop where
  remote : after.remoteRecvRing = ep.remoteRecvRing
  ringLen : after.sendRingLen = ep.sendRingLen
  metaPos : after.metaPos = cycleEnd ep.openEnd ep.sendRingLen
  producer : after.sendRingProducer = after.metaPos + flowMetadataSize
  consumer : after.remoteConsumerPos = ep.remoteConsumerPos
  reservation : after.respReservation = ep.respReservation + ep.grantAt ep.openEnd
  startDvd : alignment ∣ after.flushStartPos

theorem emitWrap_wrapped {value : Unit} (reserved : Reserved ring ep)
    (empty : ep.batchMessageCount = 0) (outcome : ep.emitWrap = (.ok value, after)) :
    Wrapped ep after := by
  have atMeta : ep.openEnd = ep.metaPos := if_pos empty
  have producer := placeWrap_producer reserved.power
  have placed := reserved.placeWrap empty
  have same := ep.placeWrap.emitRaw_layout
  obtain ⟨flag, middle, emitted, prepared⟩ := tryThen_eq_ok outcome
  rw [emitted] at same
  obtain ⟨_, rfl⟩ := Prod.mk.inj prepared
  have start := (same.reserved placed).startDvd
  exact { same with
    metaPos := by
      rw [atMeta]
      exact same.producer.trans producer
    producer := rfl
    reservation := by
      rw [atMeta]
      exact same.reservation
    startDvd := start }

theorem handleWrapIfNeeded_wrapped {flag : Bool} (reserved : Reserved ring ep)
    (needed : ep.wrapNeeded size = true)
    (outcome : ep.handleWrapIfNeeded size = (.ok flag, after)) : Wrapped ep after := by
  simp only [handleWrapIfNeeded, needed, Bool.not_true, Bool.false_eq_true, if_false] at outcome
  obtain ⟨_, closed, closing, rest⟩ := tryThen_eq_ok outcome
  obtain ⟨_, wrapped, wrapping, last⟩ := tryThen_eq_ok rest
  obtain ⟨_, rfl⟩ := Prod.mk.inj last
  by_cases empty : ep.batchMessageCount = 0
  · simp only [empty, Nat.lt_irrefl, if_false] at closing
    obtain ⟨_, rfl⟩ := Prod.mk.inj closing
    exact emitWrap_wrapped reserved empty wrapping
  · have nonempty : 0 < ep.batchMessageCount := Nat.pos_of_ne_zero empty
    have atEnd : ep.openEnd = ep.sendRingProducer := if_neg empty
    have filled := reserved.fillMetadata nonempty
    have same := ep.fillMetadata.emitRaw_layout
    simp only [nonempty, if_true] at closing
    obtain ⟨_, middle, emitted, prepared⟩ := tryThen_eq_ok closing
    rw [emitted] at same
    have posted := same.reserved filled
    obtain ⟨_, rfl⟩ := Prod.mk.inj prepared
    have restarted : Reserved ring { middle with flushStartPos := middle.sendRingProducer } :=
      { posted with startDvd := posted.producerDvd }
    have next := restarted.prepareNextBatch (same.count ▸ nonempty)
    have done := emitWrap_wrapped next rfl wrapping
    have nothing : (prepareNextBatch
        { middle with flushStartPos := middle.sendRingProducer }).grantAt ep.sendRingProducer = 0 :=
      grantAt_again reserved.connected posted.connected same.consumer same.policy same.reservation
        (Nat.le_refl ep.sendRingProducer)
    have opened : (prepareNextBatch
        { middle with flushStartPos := middle.sendRingProducer }).openEnd = ep.sendRingProducer :=
      same.producer
    exact { done with
      remote := done.remote.trans same.remote
      ringLen := done.ringLen.trans same.ringLen
      metaPos := by
        rw [done.metaPos, atEnd]
        exact congrArg₂ cycleEnd same.producer same.ringLen
      consumer := done.consumer.trans same.consumer
      reservation := by
        rw [done.reservation, opened, nothing, atEnd]
        exact same.reservation }

def replyEnd (ep : EndpointInner U) (size : Nat) : Nat :=
  if ep.wrapNeeded size then cycleEnd ep.openEnd ep.sendRingLen + flowMetadataSize + size
  else ep.sendRingProducer + size

def replyGrant (ep : EndpointInner U) (size : Nat) : Nat :=
  if ep.wrapNeeded size then ep.grantAt ep.openEnd else 0

/-- A reply of `size` bytes that gives up `allowance` leaves the space for the other responses. -/
def ReplyFits (ep : EndpointInner U) (size allowance : Nat) : Prop :=
  ep.replyEnd size - ep.remoteConsumerPos +
    2 * (ep.respReservation + ep.replyGrant size - allowance) ≤ ep.sendRingLen

/-- An empty batch is its metadata block only, and any other ends before its cycle does. -/
def Unwrapped (ep : EndpointInner U) : Prop :=
  if ep.batchMessageCount = 0 then ep.sendRingProducer = ep.metaPos + flowMetadataSize
  else ep.metaPos % ep.sendRingLen + (ep.sendRingProducer - ep.metaPos) < ep.sendRingLen

theorem wrapNeeded_iff (power : ep.sendRingLen.isPowerOfTwo) :
    ep.wrapNeeded size = true ↔ ep.sendRingLen ≤
      ep.metaPos % ep.sendRingLen + (ep.sendRingProducer - ep.metaPos + size) := by
  simp only [wrapNeeded, decide_eq_true_eq, maskOffset_eq_mod power]

namespace Reserved

variable {handle : RecvMessage} {data : List UInt8}

theorem openEnd_le (reserved : Reserved ring ep) : ep.openEnd ≤ ep.sendRingProducer := by
  have opened := reserved.opened
  unfold openEnd
  split <;> omega

theorem acceptReply_iff (laid : Laid ring ep) (behind : ep.remoteConsumerPos ≤ ep.sendRingProducer)
    (inside : ep.metaPos % ep.sendRingLen + (ep.sendRingProducer - ep.metaPos +
      paddedMessageSize (asU32 data.length)) ≤ ep.sendRingLen) :
    Reserved ring (ep.acceptReply handle data) ↔
      ep.sendRingProducer + paddedMessageSize (asU32 data.length) - ep.remoteConsumerPos +
        2 * (ep.respReservation - handle.responseAllowance) ≤ ep.sendRingLen := by
  have atEnd : (ep.acceptReply handle data).openEnd =
      ep.sendRingProducer + paddedMessageSize (asU32 data.length) := if_neg (Nat.succ_ne_zero _)
  constructor
  · intro reserved
    have space := reserved.space
    rw [atEnd] at space
    exact space
  · intro space
    have opened := laid.opened
    exact { laid with
      producerDvd := Nat.dvd_add laid.producerDvd (paddedMessageSize_dvd _)
      opened := Nat.le_trans laid.opened (Nat.le_add_right ..)
      inside := by
        change ep.metaPos % ep.sendRingLen + (ep.sendRingProducer +
          paddedMessageSize (asU32 data.length) - ep.metaPos) ≤ ep.sendRingLen
        omega
      behind := by
        rw [atEnd]
        exact Nat.le_trans behind (Nat.le_add_right ..)
      space := by
        rw [atEnd]
        exact space }

theorem wrapped (reserved : Reserved ring ep) (wrapped : Wrapped ep after) : Laid ring after := by
  have aligned : alignment ∣ ep.openEnd := by
    unfold openEnd
    split
    · exact reserved.metaDvd
    · exact reserved.producerDvd
  have metaDvd : alignment ∣ after.metaPos := by
    rw [wrapped.metaPos]
    exact dvd_cycleEnd aligned reserved.ringDvd
  exact { wrapped with
    connected := wrapped.remote.trans reserved.connected
    sameSize := reserved.sameSize.trans wrapped.ringLen.symm
    power := wrapped.ringLen ▸ reserved.power
    metaDvd
    producerDvd := by
      rw [wrapped.producer]
      exact Nat.dvd_add metaDvd (by decide)
    consumerDvd := wrapped.consumer ▸ reserved.consumerDvd
    opened := Nat.le_of_eq wrapped.producer.symm }

theorem reply_iff (reserved : Reserved ring ep)
    (short : paddedMessageSize (asU32 data.length) + flowMetadataSize ≤ handle.responseAllowance)
    (held : handle.responseAllowance ≤ ep.respReservation)
    (replied : ep.reply handle data = (.ok (), after)) :
    Reserved ring after ↔
      ep.ReplyFits (paddedMessageSize (asU32 data.length)) handle.responseAllowance := by
  have bound := reserved.openEnd_le
  have behind := reserved.behind
  have space := reserved.space
  simp only [reply, reserved.connected] at replied
  obtain ⟨flag, middle, wrapping, accepted⟩ := tryThen_eq_ok replied
  obtain ⟨_, rfl⟩ := Prod.mk.inj accepted
  unfold ReplyFits replyEnd replyGrant
  cases needed : ep.wrapNeeded (paddedMessageSize (asU32 data.length)) with
  | false =>
    have fits := mt (wrapNeeded_iff reserved.power).mpr (Bool.eq_false_iff.mp needed)
    simp only [handleWrapIfNeeded, needed, Bool.not_false, if_true, Prod.mk.injEq] at wrapping
    obtain ⟨_, rfl⟩ := wrapping
    rw [acceptReply_iff reserved.toLaid (by omega) (by omega)]
    simp
  | true =>
    have wrapped := handleWrapIfNeeded_wrapped reserved needed wrapping
    have positive := Nat.pos_of_isPowerOfTwo reserved.power
    have forward := lt_cycleEnd positive ep.openEnd
    have boundary : middle.metaPos % middle.sendRingLen = 0 := by
      rw [wrapped.metaPos, wrapped.ringLen]
      exact cycleEnd_mod positive ep.openEnd
    have producer := wrapped.producer
    have ringLen := wrapped.ringLen
    have consumer := wrapped.consumer
    have start := wrapped.metaPos
    rw [acceptReply_iff (reserved.wrapped wrapped) (by omega) (by omega), wrapped.reservation,
      producer, ringLen, consumer, start]
    simp

/-- The padding in front of a reply is shorter than the reply with its metadata. -/
theorem replyFits (reserved : Reserved ring ep) (unwrapped : ep.Unwrapped) {allowance : Nat}
    (short : size + flowMetadataSize ≤ allowance) (held : allowance ≤ ep.respReservation) :
    ep.ReplyFits size allowance := by
  have granted := reserved.grant
  have space := reserved.space
  have behind := reserved.behind
  have power := reserved.power
  have positive := Nat.pos_of_isPowerOfTwo power
  unfold ReplyFits replyEnd replyGrant
  unfold Unwrapped at unwrapped
  by_cases empty : ep.batchMessageCount = 0
  · have atMeta : ep.openEnd = ep.metaPos := if_pos empty
    rw [if_pos empty] at unwrapped
    rw [atMeta] at granted space behind ⊢
    have below := Nat.mod_lt ep.metaPos positive
    cases needed : ep.wrapNeeded size with
    | false =>
      simp only [Bool.false_eq_true, if_false]
      omega
    | true =>
      have reaches := (wrapNeeded_iff power).mp needed
      simp only [if_true]
      unfold cycleEnd
      omega
  · have atEnd : ep.openEnd = ep.sendRingProducer := if_neg empty
    rw [if_neg empty] at unwrapped
    rw [atEnd] at granted space behind ⊢
    have opened := reserved.opened
    have offset : ep.sendRingProducer % ep.sendRingLen =
        ep.metaPos % ep.sendRingLen + (ep.sendRingProducer - ep.metaPos) := by
      rw [← mod_add_of_lt unwrapped]
      congr 1
      omega
    cases needed : ep.wrapNeeded size with
    | false =>
      simp only [Bool.false_eq_true, if_false]
      omega
    | true =>
      have reaches := (wrapNeeded_iff power).mp needed
      simp only [if_true]
      unfold cycleEnd
      omega

end Reserved

/-- A reply within its allowance stays within the reservation where no refused wrap is left over,
and in general exactly when it fits. -/
theorem replies_stay_reserved (reserved : Reserved ring ep) :
    (∀ (handle : RecvMessage) (limit : Nat) (data : List UInt8) (after : EndpointInner U),
      handle.responseAllowance = paddedMessageSize limit + flowMetadataSize →
      handle.responseAllowance ≤ ep.respReservation → data.length ≤ limit →
      ep.reply handle data = (.ok (), after) → (ep.Unwrapped → Reserved ring after) ∧
        (Reserved ring after ↔
          ep.ReplyFits (paddedMessageSize (asU32 data.length)) handle.responseAllowance)) ∧
    Reserved ring ep.flush.2 ∧
    (0 < ep.batchMessageCount → Reserved ring ep.fillMetadata) ∧
    (ep.batchMessageCount = 0 → Reserved ring ep.placeWrap) := by
  refine ⟨?_, reserved.flush, reserved.fillMetadata, reserved.placeWrap⟩
  intro handle limit data after allowance held within replied
  have short : paddedMessageSize (asU32 data.length) + flowMetadataSize ≤
      handle.responseAllowance := by
    have mono := paddedMessageSize_mono (Nat.le_trans (Nat.mod_le data.length (2 ^ 32)) within)
    rw [allowance]
    exact Nat.add_le_add_right mono _
  have exactly := reserved.reply_iff short held replied
  exact ⟨fun unwrapped => exactly.mpr (reserved.replyFits unwrapped short held), exactly⟩

/-! Rings of 256 bytes with credit for one empty response. -/

def smallRing : RemoteRingInfo where
  addr := 0
  rkey := 0
  size := 256

def smallEndpoint : EndpointInner Unit :=
  (new (clientAndServer .b) { addr := 0, rkey := 0 }).connect
    { recvRingAddr := 0, recvRingRkey := 0, recvRingSize := 256, initialCredit := 64 }

def emptyResponse : RecvMessage where
  callId := 0
  dataOffset := 0
  dataLen := 0
  responseAllowance := 64

theorem smallEndpoint_reserved : Reserved smallRing smallEndpoint := by
  refine ⟨?laid, ?_, ?_, ?_⟩
  case laid =>
    constructor
    case connected => rfl
    case power => exact ⟨8, by decide +kernel⟩
    all_goals decide +kernel
  all_goals decide +kernel

theorem replies_stay_reserved_smallEndpoint :
    ∃ after, smallEndpoint.reply emptyResponse [] = (.ok (), after) ∧ Reserved smallRing after := by
  have replied : ∃ after, smallEndpoint.reply emptyResponse [] = (.ok (), after) :=
    ⟨smallEndpoint.acceptReply emptyResponse [], by
      have room : smallEndpoint.wrapNeeded (paddedMessageSize (asU32 0)) = false := by decide +kernel
      have connected : smallEndpoint.remoteRecvRing = some smallRing := rfl
      simp only [reply, connected, List.length_nil, handleWrapIfNeeded, room, Bool.not_false,
        if_true, tryThen_ok]⟩
  have unwrapped : smallEndpoint.Unwrapped := by
    rw [Unwrapped, if_pos (by decide +kernel)]
    decide +kernel
  obtain ⟨after, outcome⟩ := replied
  exact ⟨after, outcome, ((replies_stay_reserved smallEndpoint_reserved).1 emptyResponse 0 [] after
    (by decide +kernel) (by decide +kernel) (by decide +kernel) outcome).1 unwrapped⟩

/-- A call of 200 bytes needs a wrap, whose emission the send queue refuses. -/
def wrapRefused : EndpointInner Unit :=
  ({ smallEndpoint with qp := { posted := [], answers := [true] } }.call 0
    (List.replicate 200 0) () 0).2

/-- The reply repeats the wrap of the whole cycle, for which nothing was reserved. -/
theorem reply_after_refused_wrap : Reserved smallRing wrapRefused ∧
      emptyResponse.responseAllowance = paddedMessageSize 0 + flowMetadataSize ∧
      emptyResponse.responseAllowance ≤ wrapRefused.respReservation ∧
      (wrapRefused.reply emptyResponse []).1.toBool = true ∧
      ¬ Reserved smallRing (wrapRefused.reply emptyResponse []).2 := by
  refine ⟨?_, by decide +kernel, by decide +kernel, by decide +kernel, ?_⟩
  · refine ⟨?laid, ?_, ?_, ?_⟩
    case laid =>
      constructor
      case connected =>
        have kept : wrapRefused.remoteRecvRing.map
            (fun ring => (ring.addr, ring.rkey, ring.size)) = some (0, 0, 256) := by decide +kernel
        obtain ⟨⟨addr, rkey, size⟩, found, fields⟩ := Option.map_eq_some_iff.mp kept
        cases fields
        exact found
      case power => exact ⟨8, by decide +kernel⟩
      all_goals decide +kernel
    all_goals decide +kernel
  · intro reserved
    have space := reserved.space
    revert space
    decide +kernel

end EndpointInner

end Locasta.Copyrpc.Rc
