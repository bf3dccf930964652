import Locasta.Copyrpc.Dc.System

namespace Locasta.Copyrpc.Dc

open Data EndpointInner

/-! What a refused post costs. `emit_batch` books the credit as notified before it posts the
WRITE; a refused post is retried later, with a header that returns only what came since. -/

variable {U : Type} {own : DcSide U}

namespace EndpointInner

variable {ring : RemoteRingInfo} {ep : EndpointInner U}

/-- All that was booked as notified is in posted WRITEs. -/
structure Books (ep : EndpointInner U) : Prop where
  returned : ep.returnedCredit = ep.lastNotifiedRecvPos
  notified : ep.lastNotifiedRecvPos ≤ ep.lastRecvPos

theorem Books.postBatch (books : ep.Books) (ring : RemoteRingInfo) (dct : RemoteDctInfo)
    (messageCount : Nat) : (ep.postBatch ring dct messageCount).Books where
  returned := by
    have before := books.returned
    have order := books.notified
    rw [returnedCredit_postBatch]
    change _ = ep.lastRecvPos
    omega
  notified := Nat.le_refl _

theorem Books.refuseBatch (books : ep.Books) (nothing : ¬ ep.Unreturned) (messageCount : Nat) :
    (ep.refuseBatch messageCount).Books where
  returned := by
    have before := books.returned
    have order := books.notified
    unfold Unreturned at nothing
    change ep.returnedCredit = ep.lastRecvPos
    omega
  notified := Nat.le_refl _

def Prudent (ep : EndpointInner U) : Prop := ep.dci.full = true → ¬ ep.Unreturned

theorem prudent_of_notified (notified : ep.lastNotifiedRecvPos = ep.lastRecvPos) : ep.Prudent := by
  intro _
  rw [Unreturned, notified, Nat.sub_self]
  exact Nat.lt_irrefl 0

theorem books_stable : Stable ring (fun _ => True) (fun _ => True) (fun ep : EndpointInner U =>
    ep.Attached ring ∧ ep.Books ∧ ep.Prudent) where
  attached holds := holds.1
  flags := by
    intro ep ⟨attached, books, prudent⟩ _ _ _ _
    exact ⟨attached.congr rfl rfl, ⟨books.returned, books.notified⟩, prudent⟩
  close := by
    intro ep dct ⟨attached, books, _⟩ _ _
    exact ⟨attached.congr rfl rfl, books.postBatch .., prudent_of_notified rfl⟩
  closeRefused := by
    intro ep ⟨attached, books, prudent⟩ _ full
    exact ⟨attached.congr rfl rfl, books.refuseBatch (prudent full) _, prudent_of_notified rfl⟩
  wrap := by
    intro ep dct ⟨attached, books, _⟩ _ _ _
    have placed : ep.placeWrap.Books := ⟨books.returned, books.notified⟩
    have posted := placed.postBatch ring dct wrapMessageCount
    exact ⟨attached.congr rfl rfl, ⟨posted.returned, posted.notified⟩, prudent_of_notified rfl⟩
  wrapRefused := by
    intro ep ⟨attached, books, prudent⟩ _ _ _ full
    have placed : ep.placeWrap.Books := ⟨books.returned, books.notified⟩
    exact ⟨attached.congr rfl rfl, placed.refuseBatch (prudent full) wrapMessageCount,
      prudent_of_notified rfl⟩
  credit := by
    intro ep dct ⟨attached, books, _⟩ _ _ _ _
    exact ⟨attached.congr rfl rfl, books.postBatch .., prudent_of_notified rfl⟩
  creditRefused := by
    intro ep ⟨attached, books, prudent⟩ _ _ _ full
    exact ⟨attached.congr rfl rfl, books.refuseBatch (prudent full) _, prudent_of_notified rfl⟩

end EndpointInner

def Attempts (own : DcSide U) : Action U → Prop
  | .flush _ => own.ep.hasPendingFlush = true ∨ own.ep.Unreturned
  | _ => False

instance (own : DcSide U) : (action : Action U) → Decidable (Attempts own action)
  | .flush _ => inferInstanceAs (Decidable (_ ∨ _))
  | .call .. | .reply .. | .process | .recv | .drop _ | .land => isFalse id

theorem flushEndpoint_silent {ep : EndpointInner U} (pending : ep.hasPendingFlush = false)
    (nothing : ¬ ep.Unreturned) :
    ep.flushEndpoint = { ep with newlySignaledCount := 0, isDirty := false } := by
  unfold Unreturned at nothing
  simp only [hasPendingFlush, Bool.or_eq_false_iff, decide_eq_false_iff_not] at pending
  simp [flushEndpoint, emitPending, emitCreditReturn, hasPendingFlush, pending, nothing]

theorem act_silent {ring : RemoteRingInfo} {motive : EndpointInner U → Prop} (peer : DcSide U)
    {action : Action U} (connected : own.ep.remoteRecvRing = some ring)
    (silent : ¬ Attempts own action) (holds : motive own.ep)
    (offered : motive (own.ep.offer action.answers))
    (flags : ∀ ep isDirty newlySignaledCount wrapPending, motive ep →
      motive { ep with isDirty, newlySignaledCount, wrapPending })
    (call : ∀ ep key data userData, motive ep → motive (ep.acceptCall key data userData))
    (reply : ∀ ep handle data, motive ep → motive (ep.acceptReply handle data))
    (store : ∀ write, motive (own.ep.store write))
    (process : ∀ imm, motive (own.ep.processCqeStatic imm).1) :
    motive (own.act transport peer action).ep := by
  have remote (answers : List Bool) : (own.ep.offer answers).remoteRecvRing = some ring := connected
  have called (answers : List Bool) (offered : motive (own.ep.offer answers)) (key : Nat)
      (data : List UInt8) (userData : U) (responseAllowance : Nat) :
      motive ((own.ep.offer answers).call key data userData responseAllowance).2 := by
    refine call_elim (motive := fun result => motive result.2) (remote answers) responseAllowance ?_ ?_
    · intro _
      exact call _ _ _ _ offered
    · intro wrapPending _
      exact flags (own.ep.offer answers) true _ wrapPending offered
  have replied (answers : List Bool) (offered : motive (own.ep.offer answers))
      (handle : RecvMessage) (data : List UInt8) :
      motive ((own.ep.offer answers).reply handle data).2 := by
    refine reply_elim (motive := fun result => motive result.2) (remote answers) ?_ ?_
    · intro _
      exact reply _ _ _ offered
    · intro wrapPending _
      exact flags (own.ep.offer answers) true _ wrapPending offered
  refine Side.act_elim (motive := fun side => motive side.ep) action holds ?_ ?_ ?_ ?_ ?_ ?_ ?_ ?_ ?_
  · rintro answers key data userData responseAllowance callId ep rfl outcome
    have result := called answers offered key data userData responseAllowance
    rwa [show (own.ep.offer answers).call _ _ _ _ = _ from outcome] at result
  · rintro answers key data userData responseAllowance error ep rfl outcome
    have result := called answers offered key data userData responseAllowance
    rwa [show (own.ep.offer answers).call _ _ _ _ = _ from outcome] at result
  · rintro answers index data request value ep rfl live outcome
    have result := replied answers offered request.message data
    rwa [show (own.ep.offer answers).reply _ _ = _ from outcome] at result
  · rintro answers index data request error ep rfl live outcome
    have result := replied answers offered request.message data
    rwa [show (own.ep.offer answers).reply _ _ = _ from outcome] at result
  · rintro answers rfl
    have pending : (own.ep.offer answers).hasPendingFlush = false :=
      Bool.eq_false_of_not_eq_true fun pending => silent (.inl pending)
    have nothing : ¬ (own.ep.offer answers).Unreturned := fun owed => silent (.inr owed)
    change motive (own.ep.offer answers).flushEndpoint
    rw [flushEndpoint_silent pending nothing]
    exact flags _ false 0 _ offered
  · intro request rest _
    exact holds
  · intro index
    exact holds
  · intro write _ _
    exact store write
  · intro write _ _ _ _ _ _ _
    exact process write.imm

def RefusalHarmless (own : DcSide U) (action : Action U) : Prop :=
  Attempts own action → action.answers.headD false = true → ¬ own.ep.Unreturned

instance (own : DcSide U) (action : Action U) : Decidable (RefusalHarmless own action) :=
  inferInstanceAs (Decidable (_ → _ → _))

def Solvent (ring : RemoteRingInfo) (ep : EndpointInner U) : Prop := ep.Attached ring ∧ ep.Books

namespace Solvent

variable {ring : RemoteRingInfo}

theorem congr {ep other : EndpointInner U} (solvent : Solvent ring ep)
    (remoteRing : other.remoteRecvRing = ep.remoteRecvRing) (dct : other.remoteDct = ep.remoteDct)
    (posted : other.dci.posted = ep.dci.posted)
    (notified : other.lastNotifiedRecvPos = ep.lastNotifiedRecvPos)
    (grows : ep.lastRecvPos ≤ other.lastRecvPos) : Solvent ring other := by
  obtain ⟨attached, books⟩ := solvent
  refine ⟨attached.congr remoteRing dct, ?_, ?_⟩
  · rw [returnedCredit, posted, notified]
    exact books.returned
  · rw [notified]
    exact books.notified.trans grows

theorem act (solvent : Solvent ring own.ep) (peer : DcSide U) {action : Action U}
    (harmless : RefusalHarmless own action) : Solvent ring (own.act transport peer action).ep := by
  by_cases attempts : Attempts own action
  · cases action with
    | flush answers =>
      have offered : Solvent ring (own.ep.offer answers) :=
        solvent.congr rfl rfl rfl rfl (Nat.le_refl _)
      obtain ⟨attached, books, _⟩ := books_stable.flushEndpoint
        ⟨offered.1, offered.2, harmless attempts⟩ (fun _ _ _ => trivial) (fun _ _ _ => trivial)
      exact ⟨attached, books⟩
    | call => exact absurd attempts id
    | reply => exact absurd attempts id
    | process => exact absurd attempts id
    | recv => exact absurd attempts id
    | drop => exact absurd attempts id
    | land => exact absurd attempts id
  · obtain ⟨_, connected⟩ := solvent.1
    refine act_silent (motive := Solvent ring) peer connected.ring attempts solvent ?_ ?_ ?_ ?_ ?_ ?_
    · exact solvent.congr rfl rfl rfl rfl (Nat.le_refl _)
    · intro ep _ _ _ solvent
      exact solvent.congr rfl rfl rfl rfl (Nat.le_refl _)
    · intro ep _ _ _ solvent
      exact solvent.congr rfl rfl rfl rfl (Nat.le_refl _)
    · intro ep _ _ solvent
      exact solvent.congr rfl rfl rfl rfl (Nat.le_refl _)
    · intro write
      exact solvent.congr rfl rfl rfl rfl (Nat.le_refl _)
    · intro imm
      obtain ⟨_, _, _, _, grows, _, shape⟩ := own.ep.processCqeStatic_shape imm
      rw [shape]
      exact solvent.congr rfl rfl rfl rfl grows

end Solvent

def attachedTo (config : EndpointConfig) (host : Host) (remote : RemoteEndpointInfo) : DcSide U :=
  .new ((EndpointInner.new config host.region host.endpointId).connect remote)

/-- One endpoint on its own: with each action comes the state of a peer. -/
abbrev localStep (own : DcSide U) (event : DcSide U × Action U) : DcSide U :=
  own.act transport event.1 event.2

/-- If posts are refused only without credit to return, all that was booked is returned. -/
theorem emission_loses_no_ring_credit {config : EndpointConfig} {host : Host}
    {remote : RemoteEndpointInfo} {events : List (DcSide U × Action U)}
    (guarded : Along localStep (fun own event => RefusalHarmless own event.2)
      (attachedTo config host remote) events) :
    let ep := (run localStep (attachedTo config host remote) events).ep
    ep.returnedCredit = ep.lastNotifiedRecvPos := by
  intro ep
  let ring : RemoteRingInfo := ⟨remote.recvRingAddr, remote.recvRingRkey, remote.recvRingSize⟩
  have start : Solvent ring (attachedTo (U := U) config host remote).ep :=
    ⟨⟨_, rfl, rfl⟩, rfl, Nat.le_refl _⟩
  have kept (own : DcSide U) (event : DcSide U × Action U) (solvent : Solvent ring own.ep)
      (harmless : RefusalHarmless own event.2) : Solvent ring (localStep own event).ep :=
    solvent.act event.1 harmless
  exact (run_invariant kept start guarded).2.returned

def clientWithCall : DcSide Unit :=
  run step (connected smallRings sameHost) [(.a, .call [] 0 [] () 0), (.a, .flush [])] .a

/-- The endpoint that this client calls. -/
def serverAlone : DcSide Unit := connected smallRings sameHost .b

/-- The server processes the call and replies; its first flush is refused if `refused`. -/
def replyRun (refused : Bool) : List (DcSide Unit × Action Unit) :=
  [(clientWithCall, .land), (clientWithCall, .process), (clientWithCall, .recv),
    (clientWithCall, .reply [] 0 []), (clientWithCall, .flush [refused]),
    (clientWithCall, .flush [])]

/-- A second reply, whose flush is refused at first, when there is nothing to return. -/
def twoReplies : List (DcSide Unit × Action Unit) :=
  replyRun false ++ [.reply [] 0 [], .flush [true], .flush []].map fun action =>
    (clientWithCall, action)

theorem emission_loses_no_ring_credit_reply :
    let ep := (run localStep serverAlone twoReplies).ep
    ep.dci.posted.length = 2 ∧ ep.lastNotifiedRecvPos = 64 ∧
      ep.returnedCredit = ep.lastNotifiedRecvPos := by
  have harmless : Along localStep (fun own event => RefusalHarmless own event.2) serverAlone
      twoReplies := by decide +kernel
  exact ⟨by decide +kernel, by decide +kernel, emission_loses_no_ring_credit harmless⟩

/-- The batch that is finally posted returns nothing of the 64 bytes that were booked. -/
theorem replyRun_loses_ring_credit :
    let ep := (run localStep serverAlone (replyRun true)).ep
    Along localStep (fun own event => Scheduled own event.2) serverAlone (replyRun true) ∧
      ep.dci.posted.length = 1 ∧ ep.returnedCredit = 0 ∧ ep.lastNotifiedRecvPos = 64 := by
  decide +kernel

end Locasta.Copyrpc.Dc
