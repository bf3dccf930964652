import Locasta.Copyrpc.Rc.Lockstep
import Locasta.Copyrpc.Rc.Requests
import Locasta.Data.Ledger

namespace Locasta.Copyrpc.Rc

open Data EndpointInner

/-! Response credit. What an endpoint has reserved for responses is, at every
moment, in the hands of its peer, on its way there, or bound to a call that it
has not replied to. -/

variable {U : Type} {size : Nat} {own peer : RcSide U}

/-- What an accepted message has reserved at the peer. -/
def allowance : Sent RecvMessage U → Nat
  | .request _ _ _ responseAllowance => internalAllowance responseAllowance
  | .response .. => 0

/-- The books of an endpoint that grants credit to `caller`. -/
structure Granting (caller : RcSide U) (replied : List Nat) (ep : EndpointInner U) : Prop where
  room : ep.qp.Room
  inside : caller.processed ≤ ep.qp.posted.length
  maxBound : ep.maxRespReservation < 2 ^ 64
  grants : ∀ write ∈ ep.qp.posted, write.batch.metadata.creditGrant < 2 ^ 64
  settled : ∀ seq ∈ replied, seq < (caller.sent.map allowance).length
  balance : ep.respReservation = caller.ep.peerCreditBalance +
    granted (ep.qp.posted.drop caller.processed) + outstanding (caller.sent.map allowance) replied

theorem computeCreditGrant_le (ep : EndpointInner U) :
    ep.computeCreditGrant ≤ ep.maxRespReservation := by
  unfold computeCreditGrant
  split
  · exact Nat.zero_le _
  · exact (alignDown_le _).trans ((Nat.min_le_right ..).trans (Nat.sub_le ..))

namespace Granting

variable {ep filled : EndpointInner U} {caller : RcSide U} {replied : List Nat}
  {ring : RemoteRingInfo}

theorem post {grant : Nat} (granting : Granting caller replied ep)
    (posted : filled.qp = ep.qp) (bound : grant ≤ ep.maxRespReservation)
    (maxResp : filled.maxRespReservation = ep.maxRespReservation)
    (metadata : filled.filled.metadata.creditGrant = grant)
    (reserved : filled.respReservation = ep.respReservation + grant) :
    Granting caller replied (filled.posting ring).prepareNextBatch where
  room := by
    change (filled.qp.accept (filled.writeImm ring)).Room
    rw [posted]
    exact granting.room.accept _
  inside := by
    change _ ≤ (filled.qp.posted ++ [_]).length
    rw [posted, List.length_append]
    exact granting.inside.trans (Nat.le_add_right ..)
  maxBound := maxResp ▸ granting.maxBound
  grants := by
    intro write member
    rcases List.mem_append.mp member with old | new
    · exact granting.grants write (posted ▸ old)
    · rw [List.mem_singleton.mp new]
      change filled.filled.metadata.creditGrant < _
      rw [metadata]
      exact bound.trans_lt granting.maxBound
  settled := granting.settled
  balance := by
    have added : granted ((filled.qp.posted ++ [filled.writeImm ring]).drop caller.processed) =
        granted (ep.qp.posted.drop caller.processed) + grant := by
      rw [posted, List.drop_append_of_le_length granting.inside, granted, List.map_append,
        List.sum_append, ← metadata]
      simp [granted, writeImm]
    change filled.respReservation = caller.ep.peerCreditBalance +
      granted ((filled.qp.posted ++ [filled.writeImm ring]).drop caller.processed) + _
    rw [added, reserved, granting.balance]
    omega

theorem stable {stream : List Message} : Stable ring (fun _ => True)
    (fun ep => Sending ring size stream ep ∧ Granting caller replied ep) where
  ready holds := holds.1.ready
  doorbell := by
    intro ep ⟨sending, granting⟩
    refine ⟨sending.doorbell, ?_⟩
    unfold ringDoorbell
    split
    · exact ⟨granting.room, granting.inside, granting.maxBound, granting.grants, granting.settled,
        granting.balance⟩
    · exact granting
  close := by
    intro ep ⟨sending, granting⟩ nonempty _
    exact ⟨sending.close nonempty, granting.post rfl (computeCreditGrant_le ep) rfl rfl rfl⟩
  closeRefused := by
    intro ep ⟨_, granting⟩ _ full
    rw [granting.room.not_full] at full
    cases full
  wrap := by
    intro ep ⟨sending, granting⟩ empty _ _
    exact ⟨sending.wrap empty, granting.post rfl
      (computeCreditGrant_le { ep with sendRingProducer := ep.metaPos }) rfl rfl rfl⟩
  wrapRefused := by
    intro ep ⟨_, granting⟩ _ _ full
    rw [granting.room.not_full] at full
    cases full

end Granting

/-- One direction, with the response credit that its sender grants. -/
structure Balanced (size : Nat) (grantor caller : RcSide U) : Prop where
  link : Link size grantor caller
  requests : Requests caller grantor
  granting : Granting caller grantor.replied grantor.ep

variable {request : Request RecvMessage}

theorem allowance_of_isCall (known : IsCall peer.sent request) :
    (peer.sent.map allowance)[request.seq]? = some request.message.responseAllowance := by
  obtain ⟨key, data, userData, responseAllowance, here, _, _, carried⟩ := known
  rw [List.getElem?_map, here, carried]
  rfl

theorem Balanced.reserved (balanced : Balanced size own peer)
    (live : request ∈ own.live) (unanswered : request.seq ∉ own.replied) :
    request.message.responseAllowance ≤ own.ep.respReservation := by
  have owed := le_outstanding (allowance_of_isCall (balanced.requests request live).1) unanswered
  rw [balanced.granting.balance]
  omega

theorem Granting.acceptReply {ep : EndpointInner U}
    {replied : List Nat} {data : List UInt8} (granting : Granting peer replied ep)
    (known : IsCall peer.sent request) (unanswered : request.seq ∉ replied) :
    Granting peer (request.seq :: replied) (ep.acceptReply request.message data) :=
  { granting with
    settled := by
      intro seq member
      rcases List.mem_cons.mp member with new | old
      · rw [new]
        exact (List.getElem?_eq_some_iff.mp (allowance_of_isCall known)).1
      · exact granting.settled seq old
    balance := by
      have settle := outstanding_settle (allowance_of_isCall known) unanswered
      have balance := granting.balance
      change ep.respReservation - request.message.responseAllowance =
        peer.ep.peerCreditBalance + granted (ep.qp.posted.drop peer.processed) + _
      omega }

theorem Balanced.acting (balanced : Balanced size own peer) (back : Link size peer own)
    {action : Action U} (intact : IntactProcess size own peer action)
    (room : action.NoRefusal) (once : own.RepliesOnce action) :
    Balanced size (own.act transport peer action) peer := by
  have sending := balanced.link.outgoing.sending
  have granting := balanced.granting
  refine ⟨balanced.link.acting action, balanced.requests.observing back intact, ?_⟩
  refine (act_rule own peer (P := fun sent replied ep =>
      Sending peer.ep.ringInfo size (sent.map message) ep ∧ Granting peer replied ep) action
    (fun _ _ => Granting.stable) ⟨sending, granting⟩ ?_ (by intros; trivial) (by intros; trivial)
    ?_ ?_ ?_ ?_).2
  · exact ⟨sending.offer _, room, granting.inside, granting.maxBound,
      granting.grants, granting.settled, granting.balance⟩
  · intro answers key data userData responseAllowance ep _ ⟨sending, granting⟩ placed _ _
    rw [List.map_append]
    exact ⟨sending.acceptCall placed, granting.room, granting.inside, granting.maxBound,
      granting.grants, granting.settled, granting.balance⟩
  · rintro answers index data request ep rfl live ⟨sending, granting⟩ placed
    have held : request ∈ own.live := List.mem_append_right _ (List.mem_of_getElem? live)
    rw [List.map_append]
    exact ⟨sending.acceptReply placed,
      granting.acceptReply (balanced.requests request held).1 (once request live)⟩
  · intro write
    exact ⟨sending.store write, granting.room, granting.inside,
      granting.maxBound, granting.grants, granting.settled, granting.balance⟩
  · intro write _ _
    have processed := sending.process write.imm
    obtain ⟨_, _, _, _, _, _, _, shape⟩ := own.ep.processCqeStatic_shape write.imm
    rw [shape] at processed ⊢
    exact ⟨processed, granting.room, granting.inside, granting.maxBound, granting.grants,
      granting.settled, granting.balance⟩

theorem granted_drop {writes : List WriteImm} {count : Nat} {write : WriteImm}
    (next : writes[count]? = some write) :
    granted (writes.drop count) =
      write.batch.metadata.creditGrant + granted (writes.drop (count + 1)) := by
  obtain ⟨bound, rfl⟩ := List.getElem?_eq_some_iff.mp next
  rw [List.drop_eq_getElem_cons bound, granted, List.map_cons, List.sum_cons, granted]

/-- The books of a caller: what it may still spend and what its open calls hold. -/
def CallerBooks (settled : List Nat) (total : Nat) (sent : List (Sent RecvMessage U))
    (credit : Nat) : Prop :=
  (∀ seq ∈ settled, seq < (sent.map allowance).length) ∧
    credit + outstanding (sent.map allowance) settled = total

theorem CallerBooks.append {settled : List Nat} {total credit spent : Nat}
    {sent : List (Sent RecvMessage U)} {entry : Sent RecvMessage U}
    (books : CallerBooks settled total sent credit) (paid : spent + allowance entry = credit) :
    CallerBooks settled total (sent ++ [entry]) spent := by
  obtain ⟨known, balance⟩ := books
  rw [CallerBooks, List.map_append, List.map_singleton]
  constructor
  · intro seq member
    rw [List.length_append]
    exact (known seq member).trans_le (Nat.le_add_right ..)
  · rw [outstanding_append known]
    omega

theorem CallerBooks.act {ring : RemoteRingInfo} {settled : List Nat} {total : Nat}
    (sending : Sending ring size (own.sent.map message) own.ep)
    (books : CallerBooks settled total own.sent own.ep.peerCreditBalance) (peer : RcSide U)
    {action : Action U} (other : action ≠ .process) :
    CallerBooks settled total (own.act transport peer action).sent
      (own.act transport peer action).ep.peerCreditBalance := by
  refine (act_rule own peer (P := fun sent _ ep => Sending ring size (sent.map message) ep ∧
      CallerBooks settled total sent ep.peerCreditBalance) action
    (fun sent _ => frame_stable fun _ _ credit => CallerBooks settled total sent credit)
    ⟨sending, books⟩ ⟨sending.offer _, books⟩ (by intros; trivial)
    (by intros; trivial) ?_ ?_ ?_ ?_).2
  · intro answers key data userData responseAllowance ep _ ⟨sending, books⟩ placed credit _
    rw [List.map_append]
    refine ⟨sending.acceptCall placed, books.append ?_⟩
    exact Nat.sub_add_cancel credit
  · intro answers index data request ep _ _ ⟨sending, books⟩ placed
    rw [List.map_append]
    exact ⟨sending.acceptReply placed, books.append rfl⟩
  · intro write
    exact ⟨sending.store write, books⟩
  · intro write isProcess _
    exact absurd isProcess other

theorem Balanced.observing (balanced : Balanced size peer own) (back : Link size own peer)
    {action : Action U} (intact : IntactProcess size own peer action) :
    Balanced size peer (own.act transport peer action) := by
  have granting := balanced.granting
  have link := balanced.link
  refine ⟨link.observing back intact, balanced.requests.acting action, ?_⟩
  by_cases isProcess : action = .process
  · subst isProcess
    rcases link.act_process intact with idle | ⟨write, _, _, _, ready, next, result⟩
    · rw [idle]
      exact granting
    · rw [result]
      exact { granting with
        inside := (List.getElem?_eq_some_iff.mp next).1
        balance := by
          have small := granting.grants write (List.mem_of_getElem? next)
          have balance := granting.balance
          rw [granted_drop next] at balance
          change _ = own.ep.peerCreditBalance + _ % 2 ^ 64 + granted _ + _
          rw [Nat.mod_eq_of_lt small, balance]
          simp only [Nat.add_assoc] }
  · obtain ⟨known, balance⟩ := CallerBooks.act back.outgoing.sending ⟨granting.settled, rfl⟩ peer
      isProcess
    have processed : (own.act transport peer action).processed = own.processed :=
      Side.processed_act isProcess
    exact { granting with
      inside := by rw [processed]; exact granting.inside
      settled := known
      balance := by
        rw [granting.balance, processed]
        omega }

/-- No emission fails, WRITEs are intact when processed and no handle is replied
to twice. -/
def FaultFree (size : Nat) (own peer : RcSide U) (action : Action U) : Prop :=
  IntactProcess size own peer action ∧ action.NoRefusal ∧ own.RepliesOnce action

instance (size : Nat) (own peer : RcSide U) (action : Action U) :
    Decidable (FaultFree size own peer action) :=
  inferInstanceAs (Decidable (_ ∧ _ ∧ _))

section Connected

variable {config : Party → EndpointConfig} {region : Party → MemoryRegion}

section

variable (rings : EqualRings config size)
include rings

theorem connected_balance (party : Party) :
    (connected (U := U) config region party).ep.respReservation =
      (connected (U := U) config region party.peer).ep.peerCreditBalance := by
  change min (min _ _) ((config party.peer).recvRingSize.nextPowerOfTwo / 4) =
    min (min _ _) ((config party.peer.peer).sendRingSize.nextPowerOfTwo / 4)
  rw [(rings party.peer).2, Party.peer_peer, (rings party).1]

theorem connected_granting (party : Party) :
    Granting (U := U) (connected config region party.peer) []
      (connected config region party).ep where
  room := by
    intro answer member
    cases member
  inside := Nat.le_refl _
  maxBound := by
    have word := (config party).sendRingSize_lt
    change min _ ((config party).sendRingSize / 4) < _
    omega
  grants := by
    intro write member
    cases member
  settled := by
    intro seq member
    cases member
  balance := connected_balance rings party

theorem connected_balanced (roomy : 2 * flowMetadataSize ≤ size) :
    Linked (Balanced (U := U) size) (connected config region) := by
  intro party
  exact {
    link := connected_link rings roomy party
    requests := by
      intro request member
      cases member
    granting := connected_granting rings party }

/-- Credit is conserved along every run without a failed emission. -/
theorem balanced_run {actions : List (Party × Action U)} (roomy : 2 * flowMetadataSize ≤ size)
    (guarded : Along step (Duplex (FaultFree size)) (connected config region) actions) :
    Linked (Balanced size) (run step (connected config region) actions) := by
  refine Linked.run ?_ ?_ (connected_balanced rings roomy) guarded
  · intro own peer action balanced back ⟨intact, room, once⟩
    exact balanced.acting back.link intact room once
  · intro own peer action balanced back ⟨intact, _, _⟩
    exact back.observing balanced.link intact

end

/-- The reservation of one side is the balance of the other, the grants on their way to it and the
allowances of its calls that have not been replied to. -/
theorem response_credit_conserved {actions : List (Party × Action U)}
    (rings : EqualRings config size)
    (guarded : Along step (Duplex (FaultFree size)) (connected config region) actions)
    (party : Party) :
    let grantor := run step (connected config region) actions party
    let caller := run step (connected config region) actions party.peer
    grantor.ep.respReservation = caller.ep.peerCreditBalance +
        granted (grantor.ep.qp.posted.drop caller.processed) +
        outstanding (caller.sent.map allowance) grantor.replied ∧
      (∀ request ∈ grantor.live, request.seq ∉ grantor.replied →
        request.message.responseAllowance ≤ grantor.ep.respReservation) ∧
      (∀ answers key data userData responseAllowance callId after,
        (caller.ep.offer answers).call key data userData responseAllowance = (.ok callId, after) →
        after.peerCreditBalance + internalAllowance responseAllowance =
          caller.ep.peerCreditBalance) := by
  intro grantor caller
  by_cases small : size < 256
  · obtain ⟨answers, grantorQuiet⟩ := quiet_run rings small region actions party
    obtain ⟨others, callerQuiet⟩ := quiet_run rings small region actions party.peer
    rw [show grantor = _ from grantorQuiet, show caller = _ from callerQuiet]
    refine ⟨connected_balance rings party, ?_, ?_⟩
    · intro request member
      cases member
    · intro answers key data userData responseAllowance callId after outcome
      have poor : (connected (U := U) config region party.peer).ep.peerCreditBalance <
          internalAllowance responseAllowance := by
        have credit := connected_credit (U := U) rings region party.peer
        have need := le_internalAllowance responseAllowance
        omega
      have failed := call_without_credit
        ((connected config region party.peer).ep.offer answers) key data userData rfl rfl rfl poor
      cases failed.symm.trans outcome
  · have linked := balanced_run rings (by unfold flowMetadataSize; omega) guarded
    have balanced : Balanced size grantor caller := linked party
    have back : Balanced size caller grantor := by
      have other := linked party.peer
      rwa [Party.peer_peer] at other
    refine ⟨balanced.granting.balance, fun request live unanswered =>
      balanced.reserved live unanswered, ?_⟩
    intro answers key data userData responseAllowance callId after outcome
    have offered := back.link.outgoing.sending.offer answers
    exact ((frame_stable fun _ _ credit => credit = caller.ep.peerCreditBalance).call
      (Q := fun ep => ep.peerCreditBalance + internalAllowance responseAllowance =
        caller.ep.peerCreditBalance) ⟨offered, rfl⟩ (fun _ _ _ => trivial)
      (fun ep holds _ credit _ => (Nat.sub_add_cancel credit).trans holds.2)).1 callId after outcome

end Connected

theorem response_credit_conserved_after_call :
    let actions : List (Party × Action Unit) :=
      [(.a, .call [] 0 [1, 2, 3] () 20), (.a, .flush []), (.b, .land), (.b, .process)]
    let grantor := run step (connected clientAndServer sameRegion) actions .b
    let caller := run step (connected clientAndServer sameRegion) actions .a
    outstanding (caller.sent.map allowance) grantor.replied = 64 ∧
      grantor.ep.respReservation = caller.ep.peerCreditBalance +
        granted (grantor.ep.qp.posted.drop caller.processed) +
        outstanding (caller.sent.map allowance) grantor.replied :=
  ⟨by decide +kernel, (response_credit_conserved clientAndServer_rings (by decide +kernel) .b).1⟩

end Locasta.Copyrpc.Rc
