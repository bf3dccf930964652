import Locasta.Copyrpc.Rc.Receiver
import Locasta.Copyrpc.Session

namespace Locasta.Copyrpc.Rc

open Data

/-! Two connected RC endpoints. -/

variable {U : Type}

namespace EndpointInner

def offer (ep : EndpointInner U) (answers : List Bool) : EndpointInner U :=
  { ep with qp := { ep.qp with answers } }

/-- The device stores the bytes of a WRITE where its address says. -/
def store (ep : EndpointInner U) (write : WriteImm) : EndpointInner U :=
  { ep with
    recvRing := ep.recvRing.write (write.remoteAddr - ep.recvRingMr.addr) write.payload }

/-- The receive ring as the peer learns of it. -/
def ringInfo (ep : EndpointInner U) : RemoteRingInfo where
  addr := ep.recvRingMr.addr
  rkey := ep.recvRingMr.rkey
  size := ep.recvRingLen

end EndpointInner

def transport : Transport (EndpointInner U) RecvMessage WriteImm U where
  posted ep := ep.qp.posted
  call ep answers := (ep.offer answers).call
  reply ep answers := (ep.offer answers).reply
  flush ep answers := (ep.offer answers).flush.2
  store := EndpointInner.store
  process ep write := ep.processCqeStatic write.imm
  data ep message := ep.recvRing.read message.dataOffset message.dataLen

abbrev RcSide (U : Type) := Side (EndpointInner U) RecvMessage U

abbrev System (U : Type) := Party → RcSide U

/-- Both endpoints have been created and have connected to each other. -/
def connected (config : Party → EndpointConfig) (region : Party → MemoryRegion) : System U :=
  fun party =>
    let created (party : Party) : EndpointInner U := .new (config party) (region party)
    .new ((created party).connect (created party.peer).localInfo)

abbrev step : System U → Party × Action U → System U := duplexStep (Side.act transport)

/-- The message that the send ring holds for an accepted call or reply. -/
def message : Sent RecvMessage U → Message
  | .request key data _ responseAllowance =>
    messageFraming.stored (EndpointInner.requestHeader key responseAllowance) data
  | .response request data =>
    messageFraming.stored (EndpointInner.responseHeader request.message) data

namespace EndpointInner

variable {ring : RemoteRingInfo} {size : Nat} {stream : List Message} {ep : EndpointInner U}

variable (sending : Sending ring size stream ep)
include sending

theorem Sending.acceptCall {key responseAllowance : Nat} {data : List UInt8} {userData : U}
    (placed : ep.Placed (paddedMessageSize (asU32 data.length))) :
    Sending ring size (stream ++ [message (.request key data userData responseAllowance)])
      (ep.acceptCall key data userData responseAllowance) := by
  have inserted : Sending ring size stream
      { ep with pendingCalls := ep.pendingCalls.insert key userData } :=
    sending.congr rfl rfl
  have appended := inserted.append (requestHeader key responseAllowance) placed
  exact appended.congr rfl rfl

theorem Sending.acceptReply {request : Request RecvMessage} {data : List UInt8}
    (placed : ep.Placed (paddedMessageSize (asU32 data.length))) :
    Sending ring size (stream ++ [message (U := U) (.response request data)])
      (ep.acceptReply request.message data) := by
  have released : Sending ring size stream
      { ep with respReservation := ep.respReservation - request.message.responseAllowance } :=
    sending.congr rfl rfl
  exact released.append _ placed

theorem Sending.offer (answers : List Bool) : Sending ring size stream (ep.offer answers) :=
  sending.congr rfl rfl

theorem Sending.store (write : WriteImm) : Sending ring size stream (ep.store write) :=
  sending.congr rfl rfl

theorem Sending.process (imm : Nat) : Sending ring size stream (ep.processCqeStatic imm).1 := by
  obtain ⟨_, _, _, _, _, _, _, shape⟩ := ep.processCqeStatic_shape imm
  rw [shape]
  exact sending.congr rfl rfl

end EndpointInner

open EndpointInner

variable {ring : RemoteRingInfo} {size : Nat} {own peer : RcSide U}

theorem act_rule (own peer : RcSide U) {Wrappable : EndpointInner U → Prop}
    {P : List (Sent RecvMessage U) → List Nat → EndpointInner U → Prop} (action : Action U)
    (stable : ∀ sent replied, Stable ring Wrappable (P sent replied))
    (holds : P own.sent own.replied own.ep)
    (offered : P own.sent own.replied (own.ep.offer action.answers))
    (wrapCall : ∀ answers key data userData responseAllowance,
      action = .call answers key data userData responseAllowance →
      internalAllowance responseAllowance ≤ own.ep.peerCreditBalance →
      ∀ atWrap, WrapsFrom ring (paddedMessageSize (asU32 data.length)) (own.ep.offer answers) atWrap →
        Wrappable atWrap)
    (wrapReply : ∀ answers index data, action = .reply answers index data →
      ∀ atWrap, WrapsFrom ring (paddedMessageSize (asU32 data.length)) (own.ep.offer answers) atWrap →
        Wrappable atWrap)
    (call : ∀ answers key data userData responseAllowance ep,
      action = .call answers key data userData responseAllowance → P own.sent own.replied ep →
      ep.Placed (paddedMessageSize (asU32 data.length)) →
      internalAllowance responseAllowance ≤ ep.peerCreditBalance →
      paddedMessageSize (asU32 data.length) + 2 * ep.respReservation ≤
        ring.size - (ep.sendRingProducer - ep.remoteConsumerPos) →
      P (own.sent ++ [.request key data userData responseAllowance]) own.replied
        (ep.acceptCall key data userData responseAllowance))
    (reply : ∀ answers index data request ep, action = .reply answers index data →
      own.handles[index]? = some request → P own.sent own.replied ep →
      ep.Placed (paddedMessageSize (asU32 data.length)) →
      P (own.sent ++ [.response request data]) (request.seq :: own.replied)
        (ep.acceptReply request.message data))
    (store : ∀ write, P own.sent own.replied (own.ep.store write))
    (process : ∀ write, action = .process → peer.ep.qp.posted[own.processed]? = some write →
      P own.sent own.replied (own.ep.processCqeStatic write.imm).1) :
    P (own.act transport peer action).sent (own.act transport peer action).replied
      (own.act transport peer action).ep := by
  refine Side.act_elim (motive := fun side => P side.sent side.replied side.ep) action
    holds ?_ ?_ ?_ ?_ ?_ ?_ ?_ ?_ ?_
  · rintro answers key data userData responseAllowance callId ep rfl outcome
    exact ((stable _ _).call offered (wrapCall _ _ _ _ _ rfl) (fun ep holds placed credit space =>
        call _ _ _ _ _ ep rfl holds placed credit space)).1 callId ep outcome
  · rintro answers key data userData responseAllowance error ep rfl outcome
    exact ((stable _ _).call (Q := fun _ => True) offered (wrapCall _ _ _ _ _ rfl)
      (fun _ _ _ _ _ => trivial)).2 error ep outcome
  · rintro answers index data request value ep rfl live outcome
    exact ((stable _ _).reply offered (wrapReply _ _ _ rfl)
      (fun ep holds placed => reply _ _ _ _ ep rfl live holds placed)).1 value ep outcome
  · rintro answers index data request error ep rfl live outcome
    exact ((stable _ _).reply (Q := fun _ => True) offered (wrapReply _ _ _ rfl)
      (fun _ _ _ => trivial)).2 error ep outcome
  · rintro answers rfl
    exact (stable _ _).flush offered
  · intro request rest _
    exact holds
  · intro index
    exact holds
  · intro write _ _
    exact store write
  · intro write _ _ _ isProcess _ next _
    exact process write isProcess next

/-- What a side keeps as a sender, whatever it or its peer does. -/
structure Outgoing (ring : RemoteRingInfo) (size : Nat) (side : RcSide U) : Prop where
  sending : Sending ring size (side.sent.map message) side.ep
  returning : side.ep.Returning

theorem Outgoing.act (outgoing : Outgoing ring size own) (peer : RcSide U) (action : Action U) :
    Outgoing ring size (own.act transport peer action) ∧
      own.ep.qp.posted <+: (own.act transport peer action).ep.qp.posted := by
  obtain ⟨sending, returning⟩ := outgoing
  have kept : own.ep.qp.posted <+: own.ep.qp.posted := List.prefix_refl _
  have result := act_rule own peer (P := fun sent _ ep => Sending ring size (sent.map message) ep ∧
      own.ep.qp.posted <+: ep.qp.posted ∧ ep.Returning) action
    (fun _ _ => outgoing_stable _) ⟨sending, kept, returning⟩
    ⟨sending.offer _, kept, returning.returned, returning.notified⟩
    (by intros; trivial) (by intros; trivial) ?_ ?_ ?_ ?_
  · exact ⟨⟨result.1, result.2.2⟩, result.2.1⟩
  · rintro answers key data userData responseAllowance ep _ ⟨sending, kept, returning⟩ placed _ _
    rw [List.map_append]
    exact ⟨sending.acceptCall placed, kept, returning.returned, returning.notified⟩
  · rintro answers index data request ep _ _ ⟨sending, kept, returning⟩ placed
    rw [List.map_append]
    exact ⟨sending.acceptReply placed, kept, returning.returned, returning.notified⟩
  · intro write
    exact ⟨sending.store write, kept, returning.returned, returning.notified⟩
  · intro write _ _
    have processed := sending.process write.imm
    obtain ⟨_, _, _, _, _, grows, _, shape⟩ := own.ep.processCqeStatic_shape write.imm
    rw [shape] at processed ⊢
    exact ⟨processed, kept, returning.returned, returning.notified.trans grows⟩

/-- The part of an endpoint that its own sending does not touch. -/
structure Incoming where
  recvRing : Memory
  recvRingLen : Nat
  recvRingMr : MemoryRegion
  recvRingProducer : Nat
  lastRecvPos : Nat
  remoteConsumerPos : Nat
  maxRespReservation : Nat

def EndpointInner.incoming (ep : EndpointInner U) : Incoming where
  recvRing := ep.recvRing
  recvRingLen := ep.recvRingLen
  recvRingMr := ep.recvRingMr
  recvRingProducer := ep.recvRingProducer
  lastRecvPos := ep.lastRecvPos
  remoteConsumerPos := ep.remoteConsumerPos
  maxRespReservation := ep.maxRespReservation

theorem frame_stable {stream : List Message} (F : Incoming → Slab U → Nat → Prop) :
    Stable ring (fun _ => True) (fun ep : EndpointInner U =>
      Sending ring size stream ep ∧ F ep.incoming ep.pendingCalls ep.peerCreditBalance) where
  ready holds := holds.1.ready
  doorbell := by
    intro ep ⟨sending, same⟩
    refine ⟨sending.doorbell, ?_⟩
    unfold ringDoorbell
    split <;> exact same
  close holds nonempty _ := ⟨holds.1.close nonempty, holds.2⟩
  closeRefused holds _ _ := ⟨holds.1.closeRefused, holds.2⟩
  wrap holds empty _ _ := ⟨holds.1.wrap empty, holds.2⟩
  wrapRefused holds empty _ _ := ⟨holds.1.wrapRefused empty, holds.2⟩

theorem incoming_stable {stream : List Message} (incoming : Incoming) : Stable ring (fun _ => True)
      (fun ep : EndpointInner U => Sending ring size stream ep ∧ ep.incoming = incoming) :=
  frame_stable fun current _ _ => current = incoming

section Incoming

variable {stream : List Message} {ep : EndpointInner U}

variable (sending : Sending ring size stream ep)
include sending

theorem incoming_call (key : Nat) (data : List UInt8)
    (userData : U) (responseAllowance : Nat) :
    (ep.call key data userData responseAllowance).2.incoming = ep.incoming := by
  rcases outcome : ep.call key data userData responseAllowance with ⟨error | callId, after⟩
  · exact (((incoming_stable ep.incoming).call (Q := fun _ => True) ⟨sending, rfl⟩
      (fun _ _ _ => trivial) (fun _ _ _ _ _ => trivial)).2 error after outcome).2
  · exact ((incoming_stable ep.incoming).call (Q := fun after => after.incoming = ep.incoming)
      ⟨sending, rfl⟩ (fun _ _ _ => trivial) (fun _ holds _ _ _ => holds.2)).1 callId after outcome

theorem incoming_reply (handle : RecvMessage)
    (data : List UInt8) : (ep.reply handle data).2.incoming = ep.incoming := by
  rcases outcome : ep.reply handle data with ⟨error | value, after⟩
  · exact (((incoming_stable ep.incoming).reply (Q := fun _ => True) ⟨sending, rfl⟩
      (fun _ _ => trivial) (fun _ _ _ => trivial)).2 error after outcome).2
  · exact ((incoming_stable ep.incoming).reply (Q := fun after => after.incoming = ep.incoming)
      ⟨sending, rfl⟩ (fun _ _ => trivial) (fun _ holds _ => holds.2)).1 value after outcome

theorem incoming_flush :
    ep.flush.2.incoming = ep.incoming :=
  ((incoming_stable ep.incoming).flush ⟨sending, rfl⟩).2

end Incoming

theorem act_receiving (sending : Sending ring size (own.sent.map message) own.ep)
    (peer : RcSide U) (action : Action U) :
    Side.Receiving transport incoming own peer action (own.act transport peer action) := by
  refine Side.act_receiving EndpointInner.incoming action ?_ ?_ ?_
  · intro answers key data userData responseAllowance
    exact incoming_call (sending.offer answers) key data userData responseAllowance
  · intro answers handle data
    exact incoming_reply (sending.offer answers) handle data
  · intro answers
    exact incoming_flush (sending.offer answers)

theorem act_messages {motive : List (Sent RecvMessage U) → List Nat → Slab U → Prop}
    (sending : Sending ring size (own.sent.map message) own.ep) (peer : RcSide U)
    {action : Action U} (other : action ≠ .process)
    (kept : motive own.sent own.replied own.ep.pendingCalls)
    (called : ∀ answers key data userData responseAllowance,
      action = .call answers key data userData responseAllowance →
      motive (own.sent ++ [.request key data userData responseAllowance]) own.replied
        (own.ep.pendingCalls.insert key userData))
    (replied : ∀ answers index data request, action = .reply answers index data →
      own.handles[index]? = some request →
      motive (own.sent ++ [.response request data]) (request.seq :: own.replied)
        own.ep.pendingCalls) :
    motive (own.act transport peer action).sent (own.act transport peer action).replied
      (own.act transport peer action).ep.pendingCalls := by
  let Outcome (sent : List (Sent RecvMessage U)) (replied : List Nat) (pending : Slab U) : Prop :=
    (sent = own.sent ∧ replied = own.replied ∧ pending = own.ep.pendingCalls) ∨
      (sent ≠ own.sent ∧ motive sent replied pending)
  have outcome := (act_rule own peer
    (P := fun sent replied ep => Sending ring size (sent.map message) ep ∧
      Outcome sent replied ep.pendingCalls) action
    (fun sent replied => frame_stable fun _ pending _ => Outcome sent replied pending)
    ⟨sending, .inl ⟨rfl, rfl, rfl⟩⟩ ⟨sending.offer _, .inl ⟨rfl, rfl, rfl⟩⟩ (by intros; trivial)
    (by intros; trivial) ?_ ?_ ?_ ?_).2
  · rcases outcome with ⟨sent, replied, pending⟩ | ⟨_, result⟩
    · rw [sent, replied, pending]
      exact kept
    · exact result
  · rintro answers key data userData responseAllowance ep isCall ⟨sending, before⟩ placed _ _
    obtain ⟨_, _, pending⟩ := before.resolve_right fun changed => changed.1 rfl
    rw [List.map_append]
    refine ⟨sending.acceptCall placed, .inr ⟨by simp, ?_⟩⟩
    have accepted := called _ _ _ _ _ isCall
    rwa [← pending] at accepted
  · rintro answers index data request ep isReply live ⟨sending, before⟩ placed
    obtain ⟨_, _, pending⟩ := before.resolve_right fun changed => changed.1 rfl
    rw [List.map_append]
    refine ⟨sending.acceptReply placed, .inr ⟨by simp, ?_⟩⟩
    have accepted := replied _ _ _ _ isReply live
    rwa [← pending] at accepted
  · intro write
    exact ⟨sending.store write, .inl ⟨rfl, rfl, rfl⟩⟩
  · intro write isProcess _
    exact absurd isProcess other

/-- Rings of 256 bytes; `a` only calls and keeps nothing reserved for responses. -/
def clientAndServer (party : Party) : EndpointConfig where
  sendRingSize := 256
  recvRingSize := 256
  maxRespReservation := match party with
    | .a => 0
    | .b => 64
  sendRingSize_lt := by decide

/-- Rings of 512 bytes with room for two open calls of `a`. -/
def twoCalls (party : Party) : EndpointConfig where
  sendRingSize := 512
  recvRingSize := 512
  maxRespReservation := match party with
    | .a => 0
    | .b => 128
  sendRingSize_lt := by decide

def sameRegion (_ : Party) : MemoryRegion where
  addr := 4096
  rkey := 7

end Locasta.Copyrpc.Rc
