import Locasta.Copyrpc.Rc.System

namespace Locasta.Copyrpc.Rc

open Data EndpointInner

/-! What a refused post costs. The metadata block books what it hands over before the
WRITE is posted; when the post is refused the booking stays, and the block that is
encoded at the next attempt hands over only what came later. -/

variable {U : Type} {own peer : RcSide U}

namespace EndpointInner

variable {ring : RemoteRingInfo} {initial : Nat} {ep : EndpointInner U}

/-- All that was booked as notified or granted is in posted WRITEs. -/
structure Books (initial : Nat) (ep : EndpointInner U) : Prop where
  returned : ep.returnedCredit = ep.lastNotifiedRecvPos
  notified : ep.lastNotifiedRecvPos ≤ ep.lastRecvPos
  granted : granted ep.qp.posted + initial = ep.respAdded

/-- A metadata block encoded now would hand over nothing. -/
def NothingToReport (ep : EndpointInner U) : Prop :=
  ep.lastRecvPos = ep.lastNotifiedRecvPos ∧ ep.grantAt ep.openEnd = 0

instance (ep : EndpointInner U) : Decidable ep.NothingToReport :=
  inferInstanceAs (Decidable (_ ∧ _))

section

variable {filled : EndpointInner U} (books : Books initial ep)
  (posted : filled.qp.posted = ep.qp.posted) (received : filled.lastRecvPos = ep.lastRecvPos)
  (notified : filled.lastNotifiedRecvPos = ep.lastRecvPos)
include books posted received notified

theorem Books.post (returns : filled.filled.metadata.ringCreditReturn =
      ep.lastRecvPos - ep.lastNotifiedRecvPos)
    (added : filled.respAdded = ep.respAdded + filled.filled.metadata.creditGrant) :
    Books initial (filled.posting ring).prepareNextBatch where
  returned := by
    have before := books.returned
    have order := books.notified
    change (filled.posting ring).returnedCredit = filled.lastNotifiedRecvPos
    rw [returnedCredit_posting, notified, returns]
    have same : filled.returnedCredit = ep.returnedCredit := by
      rw [returnedCredit, returnedCredit, posted]
    omega
  notified := by
    change filled.lastNotifiedRecvPos ≤ filled.lastRecvPos
    rw [notified, received]
  granted := by
    have before := books.granted
    change Rc.granted (filled.qp.posted ++ [filled.writeImm ring]) + initial = filled.respAdded
    have last : Rc.granted (filled.qp.posted ++ [filled.writeImm ring]) =
        Rc.granted ep.qp.posted + filled.filled.metadata.creditGrant := by
      rw [posted]
      simp [Rc.granted, writeImm]
    omega

theorem Books.refused (added : filled.respAdded = ep.respAdded)
    (nothing : ep.lastRecvPos = ep.lastNotifiedRecvPos) :
    Books initial filled.refused where
  returned := by
    change filled.returnedCredit = filled.lastNotifiedRecvPos
    rw [returnedCredit, posted, notified, nothing]
    exact books.returned
  notified := by
    change filled.lastNotifiedRecvPos ≤ filled.lastRecvPos
    rw [notified, received]
  granted := by
    change Rc.granted filled.qp.posted + initial = filled.respAdded
    rw [posted, added]
    exact books.granted

end

/-- The next post is not refused, or has nothing to hand over. -/
def Prudent (ep : EndpointInner U) : Prop := ep.qp.full = true → ep.NothingToReport

theorem books_stable : Stable ring (fun _ => True) (fun ep : EndpointInner U =>
    ep.Ready ring ∧ Books initial ep ∧ ep.Prudent) where
  ready holds := holds.1
  doorbell := by
    intro ep ⟨ready, books, prudent⟩
    unfold ringDoorbell
    split
    · exact ⟨⟨ready.connected, ready.start, ready.reserved, ready.ringLen⟩,
        ⟨books.returned, books.notified, books.granted⟩, prudent⟩
    · exact ⟨ready, books, prudent⟩
  close := by
    intro ep ⟨ready, books, _⟩ _ _
    refine ⟨closeBatch_ready ready, books.post rfl rfl rfl rfl rfl, fun _ => ⟨rfl, ?_⟩⟩
    exact grantAt_closeBatch ready.connected
  closeRefused := by
    intro ep ⟨ready, books, prudent⟩ nonempty full
    obtain ⟨received, noGrant⟩ := prudent full
    have zero : ep.computeCreditGrant = 0 := by
      rwa [openEnd, if_neg (Nat.ne_of_gt nonempty)] at noGrant
    refine ⟨⟨ready.connected, ready.start, ready.reserved, ready.ringLen⟩,
      books.refused rfl rfl rfl ?_ received, fun _ => ⟨rfl, ?_⟩⟩
    · change ep.respAdded + ep.computeCreditGrant = ep.respAdded
      rw [zero, Nat.add_zero]
    · have later : ep.fillMetadata.refused.openEnd = ep.sendRingProducer :=
        if_neg (Nat.ne_of_gt nonempty)
      rw [later]
      exact grantAt_again ready.connected ready.connected rfl rfl rfl
        (Nat.le_refl ep.sendRingProducer)
  wrap := by
    intro ep ⟨ready, books, _⟩ _ _ _
    refine ⟨⟨ready.connected, rfl, Nat.lt_add_of_pos_right (by decide), ready.ringLen⟩,
      books.post rfl rfl rfl rfl rfl, fun _ => ⟨rfl, ?_⟩⟩
    exact grantAt_again ready.connected ready.connected rfl rfl rfl
      (Nat.le_add_right ep.metaPos (ep.sendRingLen - maskOffset ep.metaPos ep.sendRingLen))
  wrapRefused := by
    intro ep ⟨ready, books, prudent⟩ empty _ full
    obtain ⟨received, noGrant⟩ := prudent full
    rw [openEnd, if_pos empty] at noGrant
    refine ⟨⟨ready.connected, ready.start, ?_, ready.ringLen⟩,
      books.refused rfl rfl rfl ?_ received, fun _ => ⟨rfl, ?_⟩⟩
    · exact Nat.lt_add_of_pos_right (remaining_pos ready.ringLen)
    · change ep.respAdded + ep.grantAt ep.metaPos = ep.respAdded
      rw [noGrant, Nat.add_zero]
    · have later : ep.placeWrap.refused.openEnd = ep.metaPos := if_pos empty
      rw [later]
      exact grantAt_again ready.connected ready.connected rfl rfl rfl (Nat.le_refl ep.metaPos)

end EndpointInner

def EndpointInner.available (ep : EndpointInner U) : Nat :=
  match ep.remoteRecvRing with
  | none => 0
  | some remoteRing => remoteRing.size - (ep.sendRingProducer - ep.remoteConsumerPos)

/-- The action tries to post the open batch or a wrap marker. -/
def Attempts (own : RcSide U) : Action U → Prop
  | .call _ _ data _ responseAllowance =>
    (internalAllowance responseAllowance ≤ own.ep.peerCreditBalance ∧
        own.ep.wrapNeeded (paddedMessageSize (asU32 data.length)) = true) ∨
      (0 < own.ep.batchMessageCount ∧
        (own.ep.peerCreditBalance < internalAllowance responseAllowance ∨ own.ep.available <
            paddedMessageSize (asU32 data.length) + 2 * own.ep.respReservation))
  | .reply _ index data =>
    index < own.handles.length ∧ own.ep.wrapNeeded (paddedMessageSize (asU32 data.length)) = true
  | .flush _ => 0 < own.ep.batchMessageCount
  | _ => False

instance (own : RcSide U) : (action : Action U) → Decidable (Attempts own action)
  | .call .. => inferInstanceAs (Decidable (_ ∨ _))
  | .reply .. => inferInstanceAs (Decidable (_ ∧ _))
  | .flush _ => inferInstanceAs (Decidable (_ < _))
  | .recv | .drop _ | .land | .process => isFalse id

section Silent

variable {ring : RemoteRingInfo} {motive : EndpointInner U → Prop} {ep : EndpointInner U}

theorem flush_silent (empty : ep.batchMessageCount = 0) : ep.flush = (.ok (), ep.ringDoorbell) := by
  simp [EndpointInner.flush, emitWqe, empty]

theorem handleWrapIfNeeded_silent {totalSize : Nat} (fits : ep.wrapNeeded totalSize = false) :
    ep.handleWrapIfNeeded totalSize = (.ok false, ep) := by
  simp [handleWrapIfNeeded, fits]

theorem call_silent {key responseAllowance : Nat} {data : List UInt8} {userData : U}
    (connected : ep.remoteRecvRing = some ring)
    (fits : internalAllowance responseAllowance ≤ ep.peerCreditBalance →
      ep.wrapNeeded (paddedMessageSize (asU32 data.length)) = false)
    (flushed : ep.peerCreditBalance < internalAllowance responseAllowance ∨
      ep.available < paddedMessageSize (asU32 data.length) + 2 * ep.respReservation →
      ep.batchMessageCount = 0) :
    (ep.call key data userData responseAllowance).2 = ep.ringDoorbell ∨
      (ep.call key data userData responseAllowance).2 =
        ep.acceptCall key data userData responseAllowance := by
  simp only [available, connected] at flushed
  simp only [EndpointInner.call, connected]
  by_cases poor : ep.peerCreditBalance < internalAllowance responseAllowance
  · rw [if_pos poor, flush_silent (flushed (.inl poor))]
    exact .inl rfl
  · rw [if_neg poor, handleWrapIfNeeded_silent (fits (Nat.le_of_not_lt poor)), tryThen_ok]
    split
    · rename_i lacking
      rw [flush_silent (flushed (.inr lacking))]
      exact .inl rfl
    · exact .inr rfl

theorem act_silent (peer : RcSide U) {action : Action U}
    (connected : own.ep.remoteRecvRing = some ring) (silent : ¬ Attempts own action)
    (holds : motive own.ep) (offered : motive (own.ep.offer action.answers))
    (doorbell : ∀ ep, motive ep → motive ep.ringDoorbell)
    (call : ∀ ep key data userData responseAllowance, motive ep →
      motive (ep.acceptCall key data userData responseAllowance))
    (reply : ∀ ep handle data, motive ep → motive (ep.acceptReply handle data))
    (store : ∀ write, motive (own.ep.store write))
    (process : ∀ imm, motive (own.ep.processCqeStatic imm).1) :
    motive (own.act transport peer action).ep := by
  have called : ∀ answers key data userData responseAllowance,
      action = .call answers key data userData responseAllowance →
      motive ((own.ep.offer answers).call key data userData responseAllowance).2 := by
    rintro answers key data userData responseAllowance rfl
    simp only [Attempts, not_or, not_and, Nat.not_lt] at silent
    have remote : (own.ep.offer answers).remoteRecvRing = some ring := connected
    have flushed : own.ep.peerCreditBalance < internalAllowance responseAllowance ∨
        own.ep.available < paddedMessageSize (asU32 data.length) + 2 * own.ep.respReservation →
        own.ep.batchMessageCount = 0 := by
      intro lacking
      by_contra nonempty
      have enough := silent.2 (Nat.pos_of_ne_zero nonempty)
      omega
    rcases call_silent remote (fun rich => Bool.eq_false_of_not_eq_true (silent.1 rich)) flushed with
      rang | accepted
    · rw [rang]
      exact doorbell _ offered
    · rw [accepted]
      exact call _ _ _ _ _ offered
  have replied : ∀ answers index data request, action = .reply answers index data →
      own.handles[index]? = some request →
      motive ((own.ep.offer answers).reply request.message data).2 := by
    rintro answers index data request rfl live
    have inside : index < own.handles.length := (List.getElem?_eq_some_iff.mp live).1
    have fits : (own.ep.offer answers).wrapNeeded (paddedMessageSize (asU32 data.length)) = false :=
      Bool.eq_false_of_not_eq_true fun needed => silent ⟨inside, needed⟩
    have remote : (own.ep.offer answers).remoteRecvRing = some ring := connected
    simp only [EndpointInner.reply, remote, handleWrapIfNeeded_silent fits, tryThen_ok]
    exact reply _ _ _ offered
  refine Side.act_elim (motive := fun side => motive side.ep) action holds ?_ ?_ ?_ ?_ ?_ ?_ ?_ ?_ ?_
  · intro answers key data userData responseAllowance callId ep isCall outcome
    have result := called answers key data userData responseAllowance isCall
    rwa [show (own.ep.offer answers).call _ _ _ _ = _ from outcome] at result
  · intro answers key data userData responseAllowance error ep isCall outcome
    have result := called answers key data userData responseAllowance isCall
    rwa [show (own.ep.offer answers).call _ _ _ _ = _ from outcome] at result
  · intro answers index data request value ep isReply live outcome
    have result := replied answers index data request isReply live
    rwa [show (own.ep.offer answers).reply _ _ = _ from outcome] at result
  · intro answers index data request error ep isReply live outcome
    have result := replied answers index data request isReply live
    rwa [show (own.ep.offer answers).reply _ _ = _ from outcome] at result
  · rintro answers rfl
    have empty : (own.ep.offer answers).batchMessageCount = 0 := Nat.eq_zero_of_not_pos silent
    change motive (own.ep.offer answers).flush.2
    rw [flush_silent empty]
    exact doorbell _ offered
  · intro request rest _
    exact holds
  · intro index
    exact holds
  · intro write _ _
    exact store write
  · intro write _ _ _ _ _ _ _
    exact process write.imm

end Silent

/-- If the first post of the action is refused, there was nothing to hand over. -/
def RefusalHarmless (own : RcSide U) (action : Action U) : Prop :=
  Attempts own action → action.answers.headD false = true → own.ep.NothingToReport

instance (own : RcSide U) (action : Action U) : Decidable (RefusalHarmless own action) :=
  inferInstanceAs (Decidable (_ → _ → _))

/-- A connected endpoint that has lost nothing. -/
def Solvent (ring : RemoteRingInfo) (initial : Nat) (ep : EndpointInner U) : Prop :=
  ep.Ready ring ∧ Books initial ep

namespace Solvent

variable {ring : RemoteRingInfo} {initial : Nat} {ep : EndpointInner U}

section

variable (solvent : Solvent ring initial ep)
include solvent

theorem offer (answers : List Bool) : Solvent ring initial (ep.offer answers) :=
  ⟨⟨solvent.1.connected, solvent.1.start, solvent.1.reserved, solvent.1.ringLen⟩,
    ⟨solvent.2.returned, solvent.2.notified, solvent.2.granted⟩⟩

theorem doorbell : Solvent ring initial ep.ringDoorbell := by
  unfold ringDoorbell
  split
  · exact ⟨⟨solvent.1.connected, solvent.1.start, solvent.1.reserved, solvent.1.ringLen⟩,
      ⟨solvent.2.returned, solvent.2.notified, solvent.2.granted⟩⟩
  · exact solvent

theorem acceptCall (key : Nat) (data : List UInt8) (userData : U) (responseAllowance : Nat) :
    Solvent ring initial (ep.acceptCall key data userData responseAllowance) :=
  ⟨⟨solvent.1.connected, solvent.1.start, Nat.lt_add_right _ solvent.1.reserved, solvent.1.ringLen⟩,
    ⟨solvent.2.returned, solvent.2.notified, solvent.2.granted⟩⟩

theorem acceptReply (handle : RecvMessage)
    (data : List UInt8) : Solvent ring initial (ep.acceptReply handle data) :=
  ⟨⟨solvent.1.connected, solvent.1.start, Nat.lt_add_right _ solvent.1.reserved, solvent.1.ringLen⟩,
    ⟨solvent.2.returned, solvent.2.notified, solvent.2.granted⟩⟩

theorem store (write : WriteImm) : Solvent ring initial (ep.store write) :=
  ⟨⟨solvent.1.connected, solvent.1.start, solvent.1.reserved, solvent.1.ringLen⟩,
    ⟨solvent.2.returned, solvent.2.notified, solvent.2.granted⟩⟩

theorem process (imm : Nat) : Solvent ring initial (ep.processCqeStatic imm).1 := by
  obtain ⟨_, _, _, _, _, grows, _, shape⟩ := ep.processCqeStatic_shape imm
  rw [shape]
  exact ⟨⟨solvent.1.connected, solvent.1.start, solvent.1.reserved, solvent.1.ringLen⟩,
    ⟨solvent.2.returned, solvent.2.notified.trans grows, solvent.2.granted⟩⟩

end

theorem act (solvent : Solvent ring initial own.ep) (peer : RcSide U) {action : Action U}
    (harmless : RefusalHarmless own action) :
    Solvent ring initial (own.act transport peer action).ep := by
  by_cases attempts : Attempts own action
  · have offered (answers : List Bool) (same : action.answers = answers) :
        (own.ep.offer answers).Ready ring ∧ Books initial (own.ep.offer answers) ∧
          (own.ep.offer answers).Prudent :=
      ⟨(solvent.offer answers).1, (solvent.offer answers).2, fun full =>
        harmless attempts (same ▸ full)⟩
    refine Side.act_elim (motive := fun side => Solvent ring initial side.ep) action solvent
      ?_ ?_ ?_ ?_ ?_ ?_ ?_ ?_ ?_
    · rintro answers key data userData responseAllowance callId ep rfl outcome
      exact (books_stable.call (Q := Solvent ring initial) (offered answers rfl)
        (fun _ _ _ => trivial) (fun ep holds _ _ _ =>
          acceptCall ⟨holds.1, holds.2.1⟩ key data userData responseAllowance)).1 callId ep outcome
    · rintro answers key data userData responseAllowance error ep rfl outcome
      obtain ⟨ready, books, _⟩ := (books_stable.call (Q := fun _ => True) (offered answers rfl)
        (fun _ _ _ => trivial) (fun _ _ _ _ _ => trivial)).2 error ep outcome
      exact ⟨ready, books⟩
    · rintro answers index data request value ep rfl _ outcome
      exact (books_stable.reply (Q := Solvent ring initial) (offered answers rfl)
        (fun _ _ => trivial) (fun ep holds _ =>
          acceptReply ⟨holds.1, holds.2.1⟩ request.message data)).1 value ep outcome
    · rintro answers index data request error ep rfl _ outcome
      obtain ⟨ready, books, _⟩ := (books_stable.reply (Q := fun _ => True) (offered answers rfl)
        (fun _ _ => trivial) (fun _ _ _ => trivial)).2 error ep outcome
      exact ⟨ready, books⟩
    · rintro answers rfl
      obtain ⟨ready, books, _⟩ := books_stable.flush (offered answers rfl)
      exact ⟨ready, books⟩
    · intro request rest _
      exact solvent
    · intro index
      exact solvent
    · rintro write rfl
      exact absurd attempts id
    · rintro write _ _ _ rfl
      exact absurd attempts id
  · exact act_silent (motive := Solvent ring initial) peer solvent.1.connected attempts solvent
      (solvent.offer _) (fun _ solvent => solvent.doorbell)
      (fun _ key data userData responseAllowance solvent =>
        solvent.acceptCall key data userData responseAllowance)
      (fun _ handle data solvent => solvent.acceptReply handle data) solvent.store solvent.process

end Solvent

def attached (config : EndpointConfig) (region : MemoryRegion) (remote : LocalEndpointInfo) :
    RcSide U :=
  .new ((EndpointInner.new config region).connect remote)

/-- One endpoint on its own: with each action comes the state of a peer. -/
abbrev localStep (own : RcSide U) (event : RcSide U × Action U) : RcSide U :=
  own.act transport event.1 event.2

/-- If posts are refused only when they hand over nothing, all that was booked is handed over. -/
theorem emission_loses_no_credit {config : EndpointConfig} {region : MemoryRegion}
    {remote : LocalEndpointInfo} {events : List (RcSide U × Action U)}
    (guarded : Along localStep (fun own event => RefusalHarmless own event.2)
      (attached config region remote) events) :
    let initial := (attached (U := U) config region remote).ep.respReservation
    let ep := (run localStep (attached config region remote) events).ep
    ep.returnedCredit = ep.lastNotifiedRecvPos ∧ granted ep.qp.posted + initial = ep.respAdded := by
  intro initial ep
  let ring : RemoteRingInfo := ⟨remote.recvRingAddr, remote.recvRingRkey, remote.recvRingSize⟩
  have start : Solvent ring initial (attached (U := U) config region remote).ep :=
    ⟨⟨rfl, rfl, Nat.zero_lt_succ _, Nat.isPowerOfTwo_nextPowerOfTwo _⟩,
      ⟨rfl, Nat.le_refl _, Nat.zero_add _⟩⟩
  have kept (own : RcSide U) (event : RcSide U × Action U) (solvent : Solvent ring initial own.ep)
      (harmless : RefusalHarmless own event.2) : Solvent ring initial (localStep own event).ep :=
    solvent.act event.1 harmless
  have solvent := run_invariant kept start guarded
  exact ⟨solvent.2.returned, solvent.2.granted⟩

def clientWithCall : RcSide Unit :=
  run step (connected clientAndServer sameRegion) [(.a, .call [] 0 [] () 20), (.a, .flush [])] .a

def serverAlone : RcSide Unit :=
  attached (clientAndServer .b) (sameRegion .b)
    (EndpointInner.new (U := Unit) (clientAndServer .a) (sameRegion .a)).localInfo

/-- The server processes the call and replies; its first flush is refused if `refused`. -/
def replyRun (refused : Bool) : List (RcSide Unit × Action Unit) :=
  [(clientWithCall, .land), (clientWithCall, .process), (clientWithCall, .recv),
    (clientWithCall, .reply [] 0 []), (clientWithCall, .flush [refused]),
    (clientWithCall, .flush [])]

/-- Three more replies; when the last one is flushed, there is nothing to hand over, and the post is
refused at first. -/
def fourReplies : List (RcSide Unit × Action Unit) :=
  replyRun false ++ [.reply [] 0 [], .flush [], .reply [] 0 [], .flush [], .reply [] 0 [],
    .flush [true], .flush []].map fun action => (clientWithCall, action)

theorem emission_loses_no_credit_reply :
    let ep := (run localStep serverAlone fourReplies).ep
    ep.qp.posted.length = 5 ∧ ep.lastNotifiedRecvPos = 64 ∧
      ep.returnedCredit = ep.lastNotifiedRecvPos := by
  have harmless : Along localStep (fun own event => RefusalHarmless own event.2) serverAlone
      fourReplies := by decide +kernel
  exact ⟨by decide +kernel, by decide +kernel, (emission_loses_no_credit harmless).1⟩

/-- The batch that is finally posted returns and grants nothing. -/
theorem replyRun_loses_credit :
    let ep := (run localStep serverAlone (replyRun true)).ep
    ep.qp.posted.length = 1 ∧ ep.returnedCredit = 0 ∧ ep.lastNotifiedRecvPos = 64 ∧
      granted ep.qp.posted = 0 ∧ serverAlone.ep.respReservation = 64 ∧ ep.respAdded = 128 := by
  decide +kernel

end Locasta.Copyrpc.Rc
