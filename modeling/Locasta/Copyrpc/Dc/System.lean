import Locasta.Copyrpc.Dc.Sender
import Locasta.Copyrpc.Session

namespace Locasta.Copyrpc.Dc

open Data

/-! Two connected DC endpoints. -/

variable {U : Type}

namespace EndpointInner

def offer (ep : EndpointInner U) (answers : List Bool) : EndpointInner U :=
  { ep with dci := { ep.dci with answers } }

def store (ep : EndpointInner U) (write : WriteImm) : EndpointInner U :=
  { ep with
    recvRing := ep.recvRing.write (write.remoteAddr - ep.recvRingMr.addr) write.payload }

def target (ep : EndpointInner U) : Target where
  ring := { addr := ep.recvRingMr.addr, rkey := ep.recvRingMr.rkey, size := ep.recvRingLen }
  endpointId := ep.endpointId

end EndpointInner

/-- The flush of a side is the turn that `flush_endpoints` gives to its endpoint. -/
def transport : Transport (EndpointInner U) RecvMessage WriteImm U where
  posted ep := ep.dci.posted
  call ep answers := (ep.offer answers).call
  reply ep answers := (ep.offer answers).reply
  flush ep answers := (ep.offer answers).flushEndpoint
  store := EndpointInner.store
  process ep write := ep.processCqeStatic write.imm
  data ep message := ep.recvRing.read message.dataOffset message.dataLen

abbrev DcSide (U : Type) := Side (EndpointInner U) RecvMessage U

abbrev System (U : Type) := Party → DcSide U

/-- What the context of an endpoint contributes. -/
structure Host where
  dct : RemoteDctInfo
  region : MemoryRegion
  endpointId : UInt32

def connected (config : Party → EndpointConfig) (host : Party → Host) : System U :=
  fun party =>
    let created (party : Party) : EndpointInner U :=
      .new (config party) (host party).region (host party).endpointId
    let dct := (host party.peer).dct
    .new ((created party).connect
      { (created party.peer).localInfo dct with localIdentifier := dct.dlid })

abbrev step : System U → Party × Action U → System U := duplexStep (Side.act transport)

def message : Sent RecvMessage U → Message
  | .request key data _ _ => messageFraming.stored (UInt32.ofNat key) data
  | .response request data => messageFraming.stored (toResponseId request.message.callId) data

namespace EndpointInner

variable {target : Target} {size : Nat} {stream : List Message} {ep : EndpointInner U}

variable (sending : Sending target size stream ep)
include sending

theorem Sending.acceptCall {key responseAllowance : Nat} {data : List UInt8} {userData : U}
    (room : ep.HasRoom target.ring (dcPaddedMessageSize (asU32 data.length))) :
    Sending target size (stream ++ [message (.request key data userData responseAllowance)])
      (ep.acceptCall key data userData) := by
  have inserted : Sending target size stream
      { ep with pendingCalls := ep.pendingCalls.insert key userData } :=
    sending.congr rfl rfl rfl rfl id rfl
  exact (inserted.append (UInt32.ofNat key) room.1).congr rfl rfl rfl rfl id rfl

theorem Sending.acceptReply {request : Request RecvMessage} {data : List UInt8}
    (room : ep.HasRoom target.ring (dcPaddedMessageSize (asU32 data.length))) :
    Sending target size (stream ++ [message (U := U) (.response request data)])
      (ep.acceptReply request.message data) :=
  (sending.append _ room.1).congr rfl rfl rfl rfl id rfl

theorem Sending.offer (answers : List Bool) : Sending target size stream (ep.offer answers) :=
  sending.congr rfl rfl rfl rfl id rfl

theorem Sending.store (write : WriteImm) : Sending target size stream (ep.store write) :=
  sending.congr rfl rfl rfl rfl id rfl

theorem Sending.process (imm : UInt32) :
    Sending target size stream (ep.processCqeStatic imm).1 := by
  obtain ⟨_, _, _, _, _, _, shape⟩ := ep.processCqeStatic_shape imm
  rw [shape]
  exact sending.congr rfl rfl rfl rfl id rfl

end EndpointInner

open EndpointInner

variable {ring : RemoteRingInfo} {target : Target} {size : Nat} {own peer : DcSide U}

theorem act_rule (own peer : DcSide U) {Wrappable Creditable : EndpointInner U → Prop}
    {P : List (Sent RecvMessage U) → List Nat → EndpointInner U → Prop} (action : Action U)
    (stable : ∀ sent replied, Stable ring Wrappable Creditable (P sent replied))
    (holds : P own.sent own.replied own.ep)
    (offered : P own.sent own.replied (own.ep.offer action.answers))
    (wraps : ∀ answers dct atWrap, action = .flush answers →
      WrapsFrom ring dct (own.ep.offer answers).dequeued atWrap → Wrappable atWrap)
    (credits : ∀ answers, action = .flush answers → own.ep.batchMessageCount = 0 →
      own.ep.wrapPending = false → own.ep.Unreturned → Creditable (own.ep.offer answers).dequeued)
    (call : ∀ answers key data userData responseAllowance ep,
      action = .call answers key data userData responseAllowance → P own.sent own.replied ep →
      ep.HasRoom ring (dcPaddedMessageSize (asU32 data.length)) →
      P (own.sent ++ [.request key data userData responseAllowance]) own.replied
        (ep.acceptCall key data userData))
    (reply : ∀ answers index data request ep, action = .reply answers index data →
      own.handles[index]? = some request → P own.sent own.replied ep →
      ep.HasRoom ring (dcPaddedMessageSize (asU32 data.length)) →
      P (own.sent ++ [.response request data]) (request.seq :: own.replied)
        (ep.acceptReply request.message data))
    (store : ∀ write, P own.sent own.replied (own.ep.store write))
    (process : ∀ write, action = .process → peer.ep.dci.posted[own.processed]? = some write →
      P own.sent own.replied (own.ep.processCqeStatic write.imm).1) :
    P (own.act transport peer action).sent (own.act transport peer action).replied
      (own.act transport peer action).ep := by
  refine Side.act_elim (motive := fun side => P side.sent side.replied side.ep) action
    holds ?_ ?_ ?_ ?_ ?_ ?_ ?_ ?_ ?_
  · rintro answers key data userData responseAllowance callId ep rfl outcome
    exact ((stable _ _).call offered responseAllowance (call _ _ _ _ _ _ rfl offered)).1
      callId ep outcome
  · rintro answers key data userData responseAllowance error ep rfl outcome
    exact ((stable _ _).call (Q := fun _ => True) offered responseAllowance
      (fun _ => trivial)).2 error ep outcome
  · rintro answers index data request value ep rfl live outcome
    exact ((stable _ _).reply offered (reply _ _ _ _ _ rfl live offered)).1 value ep outcome
  · rintro answers index data request error ep rfl live outcome
    exact ((stable _ _).reply (Q := fun _ => True) offered (fun _ => trivial)).2 error ep outcome
  · rintro answers rfl
    exact (stable _ _).flushEndpoint offered (fun dct atWrap => wraps answers dct atWrap rfl)
      (credits answers rfl)
  · intro request rest _
    exact holds
  · intro index
    exact holds
  · intro write _ _
    exact store write
  · intro write _ _ _ isProcess _ next _
    exact process write isProcess next

structure Outgoing (target : Target) (size : Nat) (side : DcSide U) : Prop where
  sending : Sending target size (side.sent.map message) side.ep
  returning : side.ep.Returning

theorem Outgoing.act (outgoing : Outgoing target size own) (peer : DcSide U) (action : Action U) :
    Outgoing target size (own.act transport peer action) ∧
      own.ep.dci.posted <+: (own.act transport peer action).ep.dci.posted := by
  obtain ⟨sending, returning⟩ := outgoing
  have kept : own.ep.dci.posted <+: own.ep.dci.posted := List.prefix_refl _
  have result := act_rule own peer
    (P := fun sent _ ep => Sending target size (sent.map message) ep ∧
      own.ep.dci.posted <+: ep.dci.posted ∧ ep.Returning) action
    (fun _ _ => outgoing_stable _) ⟨sending, kept, returning⟩
    ⟨sending.offer _, kept, returning.returned, returning.notified⟩
    (by intros; trivial) (by intros; trivial) ?_ ?_ ?_ ?_
  · exact ⟨⟨result.1, result.2.2⟩, result.2.1⟩
  · rintro answers key data userData responseAllowance ep _ ⟨sending, kept, returning⟩ room
    rw [List.map_append]
    exact ⟨sending.acceptCall room, kept, returning.returned, returning.notified⟩
  · rintro answers index data request ep _ _ ⟨sending, kept, returning⟩ room
    rw [List.map_append]
    exact ⟨sending.acceptReply room, kept, returning.returned, returning.notified⟩
  · intro write
    exact ⟨sending.store write, kept, returning.returned, returning.notified⟩
  · intro write _ _
    have processed := sending.process write.imm
    obtain ⟨_, _, _, _, grows, _, shape⟩ := own.ep.processCqeStatic_shape write.imm
    rw [shape] at processed ⊢
    exact ⟨processed, kept, returning.returned, returning.notified.trans grows⟩

structure Incoming where
  target : Target
  recvRing : Memory
  recvRingProducer : Nat
  lastRecvPos : Nat
  remoteConsumerPos : Nat

def EndpointInner.incoming (ep : EndpointInner U) : Incoming where
  target := ep.target
  recvRing := ep.recvRing
  recvRingProducer := ep.recvRingProducer
  lastRecvPos := ep.lastRecvPos
  remoteConsumerPos := ep.remoteConsumerPos

theorem frame_stable {stream : List Message} (F : Incoming → Slab U → Prop) :
    Stable target.ring (fun _ => True) (fun _ => True) (fun ep : EndpointInner U =>
      Sending target size stream ep ∧ F ep.incoming ep.pendingCalls) where
  attached holds := holds.1.attached
  flags holds isDirty newlySignaledCount _ noted :=
    ⟨holds.1.flags isDirty newlySignaledCount noted, holds.2⟩
  close holds nonempty _ := ⟨holds.1.close (holds.1.settled_of_nonempty nonempty), holds.2⟩
  closeRefused holds _ _ := ⟨holds.1.closeRefused _, holds.2⟩
  wrap holds empty _ _ := ⟨holds.1.wrap empty, holds.2⟩
  wrapRefused holds empty pending _ _ := ⟨holds.1.wrapRefused empty pending, holds.2⟩
  credit := by
    rintro ep dct ⟨sending, same⟩ empty noWrap _ _
    rw [postBatch_zero empty]
    exact ⟨sending.close (sending.settled noWrap), same⟩
  creditRefused holds _ _ _ _ := ⟨holds.1.closeRefused _, holds.2⟩

theorem incoming_stable {stream : List Message} (incoming : Incoming) :
    Stable target.ring (fun _ => True) (fun _ => True)
      (fun ep : EndpointInner U => Sending target size stream ep ∧ ep.incoming = incoming) :=
  frame_stable fun current _ => current = incoming

section Incoming

variable {stream : List Message} {ep : EndpointInner U}

variable (sending : Sending target size stream ep)
include sending

theorem incoming_call (key : Nat) (data : List UInt8) (userData : U) (responseAllowance : Nat) :
    (ep.call key data userData responseAllowance).2.incoming = ep.incoming := by
  rcases outcome : ep.call key data userData responseAllowance with ⟨error | callId, after⟩
  · exact (((incoming_stable ep.incoming).call (Q := fun _ => True) ⟨sending, rfl⟩ _
      (fun _ => trivial)).2 error after outcome).2
  · exact ((incoming_stable ep.incoming).call (Q := fun after => after.incoming = ep.incoming)
      ⟨sending, rfl⟩ _ (fun _ => rfl)).1 callId after outcome

theorem incoming_reply (handle : RecvMessage)
    (data : List UInt8) : (ep.reply handle data).2.incoming = ep.incoming := by
  rcases outcome : ep.reply handle data with ⟨error | value, after⟩
  · exact (((incoming_stable ep.incoming).reply (Q := fun _ => True) ⟨sending, rfl⟩
      (fun _ => trivial)).2 error after outcome).2
  · exact ((incoming_stable ep.incoming).reply (Q := fun after => after.incoming = ep.incoming)
      ⟨sending, rfl⟩ (fun _ => rfl)).1 value after outcome

theorem incoming_flush : ep.flushEndpoint.incoming = ep.incoming :=
  ((incoming_stable ep.incoming).flushEndpoint ⟨sending, rfl⟩ (fun _ _ _ => trivial)
    (fun _ _ _ => trivial)).2

end Incoming

theorem act_receiving (sending : Sending target size (own.sent.map message) own.ep)
    (peer : DcSide U) (action : Action U) :
    Side.Receiving transport incoming own peer action (own.act transport peer action) := by
  refine Side.act_receiving EndpointInner.incoming action ?_ ?_ ?_
  · intro answers key data userData responseAllowance
    exact incoming_call (sending.offer answers) key data userData responseAllowance
  · intro answers handle data
    exact incoming_reply (sending.offer answers) handle data
  · intro answers
    exact incoming_flush (sending.offer answers)

/-- A flush finds the endpoint in the dirty list. -/
def Scheduled (own : DcSide U) : Action U → Prop
  | .flush _ => own.ep.isDirty = true
  | _ => True

instance (own : DcSide U) : (action : Action U) → Decidable (Scheduled own action)
  | .flush _ => inferInstanceAs (Decidable (_ = _))
  | .call .. | .reply .. | .process | .recv | .drop _ | .land => isTrue trivial

def smallRings (_ : Party) : EndpointConfig where
  sendRingSize := 128
  recvRingSize := 128

def sameHost (_ : Party) : Host where
  dct := { dctn := 5, dcKey := 77, dlid := 3 }
  region := { addr := 4096, rkey := 7 }
  endpointId := 1

end Locasta.Copyrpc.Dc
