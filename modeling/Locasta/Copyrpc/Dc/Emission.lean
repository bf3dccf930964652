import Locasta.Copyrpc.Dc.Endpoint

namespace Locasta.Copyrpc.Dc

open Data

/-! What `emit_pending` can do, said once: it closes the open batch, emits a noted
wrap and, when there was neither, returns credit. Each of these posts may be refused. -/

namespace EndpointInner

variable {U : Type} {ring : RemoteRingInfo} {dct : RemoteDctInfo} {ep : EndpointInner U}

/-- A batch that the send queue took, and the next one prepared. -/
def postBatch (ep : EndpointInner U) (ring : RemoteRingInfo) (dct : RemoteDctInfo)
    (messageCount : Nat) : EndpointInner U :=
  ((ep.fillHeader (ep.currentBatch messageCount).header).posting ring dct
    (ep.currentBatch messageCount)).prepareNextBatch

/-- A batch that the send queue refused, and its header already filled in. -/
def refuseBatch (ep : EndpointInner U) (messageCount : Nat) : EndpointInner U :=
  (ep.fillHeader (ep.currentBatch messageCount).header).refused

/-- The open batch, as it stands when it is emitted. -/
def closeBatch (ep : EndpointInner U) (ring : RemoteRingInfo) (dct : RemoteDctInfo) :
    EndpointInner U :=
  ep.postBatch ring dct ep.batchMessageCount

theorem postBatch_zero (empty : ep.batchMessageCount = 0) :
    ep.postBatch ring dct 0 = ep.closeBatch ring dct := by
  rw [closeBatch, empty]

def wrapBatch (ep : EndpointInner U) (ring : RemoteRingInfo) (dct : RemoteDctInfo) :
    EndpointInner U :=
  { ep.placeWrap.postBatch ring dct wrapMessageCount with wrapPending := false }

def Unreturned (ep : EndpointInner U) : Prop := 0 < ep.lastRecvPos - ep.lastNotifiedRecvPos

instance (ep : EndpointInner U) : Decidable ep.Unreturned := inferInstanceAs (Decidable (_ < _))

/-- `atWrap` is the state in which `ep` emits its wrap. -/
def WrapsFrom (ring : RemoteRingInfo) (dct : RemoteDctInfo) (ep atWrap : EndpointInner U) : Prop :=
  ep.wrapPending = true ∧ ((ep.batchMessageCount = 0 ∧ atWrap = ep) ∨
      (0 < ep.batchMessageCount ∧ ep.dci.full = false ∧ atWrap = ep.closeBatch ring dct))

section

variable {atWrap : EndpointInner U} (wraps : WrapsFrom ring dct ep atWrap)
include wraps

theorem WrapsFrom.empty :
    atWrap.batchMessageCount = 0 := by
  obtain ⟨_, ⟨empty, rfl⟩ | ⟨_, _, rfl⟩⟩ := wraps
  · exact empty
  · rfl

theorem WrapsFrom.pending :
    atWrap.wrapPending = true := by
  obtain ⟨pending, ⟨_, rfl⟩ | ⟨_, _, rfl⟩⟩ := wraps
  · exact pending
  · exact pending

end

structure Connected (ring : RemoteRingInfo) (dct : RemoteDctInfo) (ep : EndpointInner U) :
    Prop where
  ring : ep.remoteRecvRing = some ring
  dct : ep.remoteDct = some dct

theorem Connected.congr {other : EndpointInner U} (connected : ep.Connected ring dct)
    (ringEq : other.remoteRecvRing = ep.remoteRecvRing) (dctEq : other.remoteDct = ep.remoteDct) :
    other.Connected ring dct :=
  ⟨ringEq.trans connected.ring, dctEq.trans connected.dct⟩

/-- The same, whatever the peer's DCT is. -/
def Attached (ring : RemoteRingInfo) (ep : EndpointInner U) : Prop := ∃ dct, ep.Connected ring dct

theorem Attached.congr {other : EndpointInner U} (attached : ep.Attached ring)
    (ringEq : other.remoteRecvRing = ep.remoteRecvRing) (dctEq : other.remoteDct = ep.remoteDct) :
    other.Attached ring := by
  obtain ⟨dct, connected⟩ := attached
  exact ⟨dct, connected.congr ringEq dctEq⟩

theorem emitBatch_eq (connected : ep.Connected ring dct) (messageCount : Nat) :
    ep.emitBatch messageCount =
      if ep.dci.full then (.error .ringFull, ep.refuseBatch messageCount)
      else (.ok (), (ep.fillHeader (ep.currentBatch messageCount).header).posting ring dct
        (ep.currentBatch messageCount)) := by
  simp only [emitBatch, connected.ring, connected.dct]
  rfl

theorem emitBatch_prepare {A : Type} (connected : ep.Connected ring dct) (messageCount : Nat)
    (value : A) :
    tryThen (F := Error) id (ep.emitBatch messageCount) (fun ep => (.ok value, ep.prepareNextBatch)) =
      if ep.dci.full then (.error .ringFull, ep.refuseBatch messageCount)
      else (.ok value, ep.postBatch ring dct messageCount) := by
  rw [emitBatch_eq connected]
  split <;> rfl

def afterWrap (emitted : Bool) :
    Except Error Unit × EndpointInner U → Except Error Bool × EndpointInner U
  | (.ok _, ep) => emitCreditReturn { ep with wrapPending := false } true
  | (.error error, ep) => if emitted then (.ok true, ep) else (.error error, ep)

theorem emitPending_elim {motive : Except Error Bool × EndpointInner U → Prop}
    (connected : ep.Connected ring dct)
    (closeRefused : 0 < ep.batchMessageCount → ep.dci.full = true →
      motive (.error .ringFull, ep.refuseBatch ep.batchMessageCount))
    (closed : 0 < ep.batchMessageCount → ep.dci.full = false → ep.wrapPending = false →
      motive (.ok true, ep.closeBatch ring dct))
    (wrapRefused : ∀ atWrap result, WrapsFrom ring dct ep atWrap → atWrap.dci.full = true →
      (result = .ok true ∧ 0 < ep.batchMessageCount ∨
        result = .error .ringFull ∧ ep.batchMessageCount = 0) →
      motive (result, atWrap.placeWrap.refuseBatch wrapMessageCount))
    (wrapped : ∀ atWrap, WrapsFrom ring dct ep atWrap → atWrap.dci.full = false →
      motive (.ok true, atWrap.wrapBatch ring dct))
    (creditRefused : ep.batchMessageCount = 0 → ep.wrapPending = false → ep.Unreturned →
      ep.dci.full = true → motive (.error .ringFull, ep.refuseBatch 0))
    (credited : ep.batchMessageCount = 0 → ep.wrapPending = false → ep.Unreturned →
      ep.dci.full = false → motive (.ok true, ep.postBatch ring dct 0))
    (idle : ep.batchMessageCount = 0 → ep.wrapPending = false → motive (.ok false, ep)) :
    motive ep.emitPending := by
  have finish (emitted : Bool) (messages : emitted = true ↔ 0 < ep.batchMessageCount)
      (atWrap : EndpointInner U) (wraps : WrapsFrom ring dct ep atWrap)
      (link : atWrap.Connected ring dct) :
      motive (afterWrap emitted atWrap.emitWrap) := by
    have placed : atWrap.placeWrap.Connected ring dct := link.congr rfl rfl
    rw [emitWrap, emitBatch_prepare placed]
    cases full : atWrap.dci.full with
    | true =>
      have same : atWrap.placeWrap.dci.full = true := full
      simp only [same, if_true, afterWrap]
      cases emitted with
      | true => exact wrapRefused atWrap _ wraps full (.inl ⟨rfl, messages.mp rfl⟩)
      | false =>
        have empty : ep.batchMessageCount = 0 := by simpa using messages
        exact wrapRefused atWrap _ wraps full (.inr ⟨rfl, empty⟩)
    | false =>
      have same : atWrap.placeWrap.dci.full = false := full
      simp only [same, Bool.false_eq_true, if_false, afterWrap]
      exact wrapped atWrap wraps full
  by_cases empty : ep.batchMessageCount = 0
  · simp only [emitPending, empty, Nat.lt_irrefl, if_false]
    cases pending : ep.wrapPending with
    | true => exact finish false (by simp [empty]) ep ⟨pending, .inl ⟨empty, rfl⟩⟩ connected
    | false =>
      simp only [Bool.false_eq_true, if_false, emitCreditReturn, Bool.not_false, Bool.true_and]
      rw [emitBatch_prepare connected]
      by_cases owed : ep.Unreturned
      · have positive : decide (0 < ep.lastRecvPos - ep.lastNotifiedRecvPos) = true :=
          decide_eq_true owed
        rw [if_pos positive]
        cases full : ep.dci.full with
        | true => simpa [full] using creditRefused empty pending owed full
        | false => simpa [full] using credited empty pending owed full
      · have nothing : ¬ decide (0 < ep.lastRecvPos - ep.lastNotifiedRecvPos) = true :=
          fun owes => owed (of_decide_eq_true owes)
        rw [if_neg nothing]
        exact idle empty pending
  · have nonempty : 0 < ep.batchMessageCount := Nat.pos_of_ne_zero empty
    simp only [emitPending, nonempty, if_true]
    rw [emitBatch_prepare connected]
    cases full : ep.dci.full with
    | true => simpa [full] using closeRefused nonempty full
    | false =>
      simp only [Bool.false_eq_true, if_false]
      cases pending : ep.wrapPending with
      | true =>
        have kept : (ep.postBatch ring dct ep.batchMessageCount).wrapPending = true := pending
        simp only [kept, if_true]
        exact finish true (by simp [nonempty]) (ep.closeBatch ring dct)
          ⟨pending, .inr ⟨nonempty, full, rfl⟩⟩ (connected.congr rfl rfl)
      | false =>
        have kept : (ep.postBatch ring dct ep.batchMessageCount).wrapPending = false := pending
        simp only [kept, Bool.false_eq_true, if_false, emitCreditReturn, Bool.not_true,
          Bool.false_and]
        exact closed nonempty full pending

theorem hasCycleRoomFor_iff {msgSize : Nat} (power : ep.sendRingLen.isPowerOfTwo)
    (reserved : ep.metaPos ≤ ep.sendRingProducer) :
    ep.hasCycleRoomFor msgSize = true ↔
      ep.metaPos % ep.sendRingLen + ((ep.sendRingProducer - ep.metaPos) + msgSize) <
        ep.sendRingLen := by
  simp only [hasCycleRoomFor, decide_eq_true_eq, maskOffset_eq_mod power]
  omega

/-- A message may be laid out at the producer, and the peer has space for it. -/
def HasRoom (ring : RemoteRingInfo) (ep : EndpointInner U) (msgSize : Nat) : Prop :=
  ep.hasCycleRoomFor msgSize = true ∧ msgSize ≤ ep.available ring

theorem checkRoom_cases (ep : EndpointInner U) (ring : RemoteRingInfo) (msgSize : Nat) :
    (ep.HasRoom ring msgSize ∧ ep.checkRoom ring msgSize = (true, ep)) ∨
      ∃ wrapPending, (ep.wrapPending = true → wrapPending = true) ∧
        ep.checkRoom ring msgSize = (false, markDirty { ep with wrapPending }) := by
  unfold checkRoom
  cases room : ep.hasCycleRoomFor msgSize with
  | false => exact .inr ⟨true, fun _ => rfl, rfl⟩
  | true =>
    by_cases space : ep.available ring < msgSize
    · exact .inr ⟨ep.wrapPending, id, by rw [if_pos space]; rfl⟩
    · exact .inl ⟨⟨room, Nat.le_of_not_lt space⟩, by rw [if_neg space]; rfl⟩

theorem call_elim {motive : Except (CallError U) UInt32 × EndpointInner U → Prop} {key : Nat}
    {data : List UInt8} {userData : U} (connected : ep.remoteRecvRing = some ring)
    (responseAllowance : Nat)
    (accepted : ep.HasRoom ring (dcPaddedMessageSize (asU32 data.length)) →
      motive (.ok (UInt32.ofNat key), ep.acceptCall key data userData))
    (turnedAway : ∀ wrapPending, (ep.wrapPending = true → wrapPending = true) →
      motive (.error (.ringFull userData), markDirty { ep with wrapPending })) :
    motive (ep.call key data userData responseAllowance) := by
  simp only [call, connected]
  rcases checkRoom_cases ep ring (dcPaddedMessageSize (asU32 data.length)) with
    ⟨room, result⟩ | ⟨wrapPending, noted, result⟩
  · rw [result]
    exact accepted room
  · rw [result]
    exact turnedAway wrapPending noted

theorem reply_elim {motive : Except Error Unit × EndpointInner U → Prop} {handle : RecvMessage}
    {data : List UInt8} (connected : ep.remoteRecvRing = some ring)
    (accepted : ep.HasRoom ring (dcPaddedMessageSize (asU32 data.length)) →
      motive (.ok (), ep.acceptReply handle data))
    (turnedAway : ∀ wrapPending, (ep.wrapPending = true → wrapPending = true) →
      motive (.error .ringFull, markDirty { ep with wrapPending })) :
    motive (ep.reply handle data) := by
  simp only [reply, connected]
  rcases checkRoom_cases ep ring (dcPaddedMessageSize (asU32 data.length)) with
    ⟨room, result⟩ | ⟨wrapPending, noted, result⟩
  · rw [result]
    exact accepted room
  · rw [result]
    exact turnedAway wrapPending noted

/-- The endpoint as `flush_endpoints` takes it from the dirty list. -/
def dequeued (ep : EndpointInner U) : EndpointInner U := { ep with isDirty := false }

/-- `P` survives every emission attempt, wraps where `Wrappable` and returns of credit where
`Creditable` allows them. -/
structure Stable (ring : RemoteRingInfo) (Wrappable Creditable P : EndpointInner U → Prop) :
    Prop where
  attached : ∀ {ep}, P ep → ep.Attached ring
  flags : ∀ {ep}, P ep → ∀ isDirty newlySignaledCount wrapPending,
    (ep.wrapPending = true → wrapPending = true) →
    P { ep with isDirty, newlySignaledCount, wrapPending }
  close : ∀ {ep dct}, P ep → 0 < ep.batchMessageCount → ep.dci.full = false →
    P (ep.closeBatch ring dct)
  closeRefused : ∀ {ep}, P ep → 0 < ep.batchMessageCount → ep.dci.full = true →
    P (ep.refuseBatch ep.batchMessageCount)
  wrap : ∀ {ep dct}, P ep → ep.batchMessageCount = 0 → Wrappable ep → ep.dci.full = false →
    P (ep.wrapBatch ring dct)
  wrapRefused : ∀ {ep}, P ep → ep.batchMessageCount = 0 → ep.wrapPending = true → Wrappable ep →
    ep.dci.full = true → P (ep.placeWrap.refuseBatch wrapMessageCount)
  credit : ∀ {ep dct}, P ep → ep.batchMessageCount = 0 → ep.wrapPending = false →
    Creditable ep → ep.dci.full = false → P (ep.postBatch ring dct 0)
  creditRefused : ∀ {ep}, P ep → ep.batchMessageCount = 0 → ep.wrapPending = false →
    Creditable ep → ep.dci.full = true → P (ep.refuseBatch 0)

namespace Stable

variable {Wrappable Creditable P : EndpointInner U → Prop}

variable (stable : Stable ring Wrappable Creditable P)
include stable

theorem atWrap {atWrap : EndpointInner U}
    (holds : P ep) (wraps : WrapsFrom ring dct ep atWrap) : P atWrap := by
  obtain ⟨_, ⟨_, rfl⟩ | ⟨nonempty, room, rfl⟩⟩ := wraps
  · exact holds
  · exact stable.close holds nonempty room

theorem emitPending (holds : P ep)
    (wrappable : ∀ dct atWrap, WrapsFrom ring dct ep atWrap → Wrappable atWrap)
    (creditable : ep.batchMessageCount = 0 → ep.wrapPending = false → ep.Unreturned →
      Creditable ep) : P ep.emitPending.2 := by
  obtain ⟨dct, connected⟩ := stable.attached holds
  refine emitPending_elim (motive := fun result => P result.2) connected ?_ ?_ ?_ ?_ ?_ ?_ ?_
  · intro nonempty full
    exact stable.closeRefused holds nonempty full
  · intro nonempty room _
    exact stable.close holds nonempty room
  · intro atWrap _ wraps full _
    exact stable.wrapRefused (stable.atWrap holds wraps) wraps.empty wraps.pending
      (wrappable dct atWrap wraps) full
  · intro atWrap wraps room
    exact stable.wrap (stable.atWrap holds wraps) wraps.empty (wrappable dct atWrap wraps) room
  · intro empty noWrap owed full
    exact stable.creditRefused holds empty noWrap (creditable empty noWrap owed) full
  · intro empty noWrap owed room
    exact stable.credit holds empty noWrap (creditable empty noWrap owed) room
  · intro _ _
    exact holds

theorem flushEndpoint (holds : P ep)
    (wrappable : ∀ dct atWrap, WrapsFrom ring dct ep.dequeued atWrap → Wrappable atWrap)
    (creditable : ep.batchMessageCount = 0 → ep.wrapPending = false → ep.Unreturned →
      Creditable ep.dequeued) : P ep.flushEndpoint := by
  have emitted := stable.emitPending (stable.flags holds false ep.newlySignaledCount ep.wrapPending id)
    wrappable creditable
  unfold EndpointInner.flushEndpoint
  split
  · rename_i after result
    rw [result] at emitted
    exact stable.flags emitted after.hasPendingFlush 0 after.wrapPending id
  · rename_i after result
    rw [result] at emitted
    exact stable.flags emitted true 0 after.wrapPending id
  · rename_i after _ result
    rw [result] at emitted
    exact stable.flags emitted after.isDirty 0 after.wrapPending id

theorem call {Q : EndpointInner U → Prop} {key : Nat} {data : List UInt8} {userData : U}
    (holds : P ep) (responseAllowance : Nat)
    (accept : ep.HasRoom ring (dcPaddedMessageSize (asU32 data.length)) →
      Q (ep.acceptCall key data userData)) :
    (∀ callId after, ep.call key data userData responseAllowance = (.ok callId, after) → Q after) ∧
    (∀ error after, ep.call key data userData responseAllowance = (.error error, after) →
      P after) := by
  obtain ⟨_, connected⟩ := stable.attached holds
  refine call_elim (motive := fun result => (∀ callId after, result = (.ok callId, after) → Q after) ∧
    (∀ error after, result = (.error error, after) → P after)) connected.ring responseAllowance ?_ ?_
  · intro room
    exact ⟨by rintro _ _ ⟨⟩; exact accept room, by simp⟩
  · intro wrapPending noted
    exact ⟨by simp, by rintro _ _ ⟨⟩; exact stable.flags holds true _ wrapPending noted⟩

theorem reply {Q : EndpointInner U → Prop} {handle : RecvMessage} {data : List UInt8} (holds : P ep)
    (accept : ep.HasRoom ring (dcPaddedMessageSize (asU32 data.length)) →
      Q (ep.acceptReply handle data)) :
    (∀ value after, ep.reply handle data = (.ok value, after) → Q after) ∧
    (∀ error after, ep.reply handle data = (.error error, after) → P after) := by
  obtain ⟨_, connected⟩ := stable.attached holds
  refine reply_elim (motive := fun result => (∀ value after, result = (.ok value, after) → Q after) ∧
    (∀ error after, result = (.error error, after) → P after)) connected.ring ?_ ?_
  · intro room
    exact ⟨by rintro _ _ ⟨⟩; exact accept room, by simp⟩
  · intro wrapPending noted
    exact ⟨by simp, by rintro _ _ ⟨⟩; exact stable.flags holds true _ wrapPending noted⟩

end Stable

end EndpointInner

end Locasta.Copyrpc.Dc
