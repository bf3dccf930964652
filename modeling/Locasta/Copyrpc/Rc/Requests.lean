import Locasta.Copyrpc.Rc.Link

namespace Locasta.Copyrpc.Rc

open Data EndpointInner

/-! Every request that a side holds is a call that its peer's `call` accepted. -/

variable {U : Type} {size : Nat} {own peer sender receiver : RcSide U} {write : WriteImm}

theorem piggyback_internalAllowance (responseAllowance : Nat) :
    (UInt32.ofNat (internalAllowance responseAllowance / alignment)).toNat * alignment =
      internalAllowance responseAllowance := by
  have aligned : alignment ∣ internalAllowance responseAllowance := alignUp_dvd _
  have bound : internalAllowance responseAllowance < alignment * 2 ^ 32 := by
    have small : asU32 responseAllowance < 2 ^ 32 := Nat.mod_lt _ (by decide)
    unfold internalAllowance paddedMessageSize alignUp alignDown alignment headerSize
      flowMetadataSize
    omega
  rw [UInt32.toNat_ofNat_of_lt' (Nat.div_lt_of_lt_mul bound)]
  exact Nat.div_mul_cancel aligned

/-- `request` is the call that was accepted as message number `request.seq`. -/
def IsCall (sent : List (Sent RecvMessage U)) (request : Request RecvMessage) : Prop :=
  ∃ key data userData responseAllowance,
    sent[request.seq]? = some (.request key data userData responseAllowance) ∧
    request.message.callId = UInt32.ofNat key ∧
    request.message.dataLen = asU32 data.length ∧
    request.message.responseAllowance = internalAllowance responseAllowance

theorem IsCall.mono {sent later : List (Sent RecvMessage U)} {request : Request RecvMessage}
    (known : IsCall sent request) (kept : sent <+: later) : IsCall later request := by
  obtain ⟨key, data, userData, responseAllowance, here, fields⟩ := known
  exact ⟨key, data, userData, responseAllowance, getElem?_extend kept here, fields⟩

section

variable (link : Link size sender receiver)
  (next : sender.ep.qp.posted[receiver.processed]? = some write)
include link next

theorem Link.batch_sent :
    ((sender.sent.drop receiver.seen).take write.batch.messages.length).map message =
      write.batch.messages := by
  rw [List.map_take, List.map_drop, link.seen]
  exact link.outgoing.sending.outlet.next_messages next

theorem Link.sent_getElem? {index : Nat} {frame : Message}
    (here : write.batch.messages[index]? = some frame) :
    ∃ entry, sender.sent[receiver.seen + index]? = some entry ∧ message entry = frame := by
  have inside : index < write.batch.messages.length := (List.getElem?_eq_some_iff.mp here).1
  rw [← link.batch_sent next, List.getElem?_map, List.getElem?_take_of_lt inside,
    List.getElem?_drop] at here
  exact Option.map_eq_some_iff.mp here

end

theorem request_of_event (link : Link size peer own)
    (next : peer.ep.qp.posted[own.processed]? = some write) {index : Nat}
    {request : Request RecvMessage}
    (event : (deliver messageWire size write.batch.messages
      (own.ep.lastRecvPos + flowMetadataSize) own.ep.pendingCalls).2[index]? =
        some (.request request.message))
    (seq : request.seq = own.seen + index) : IsCall peer.sent request := by
  obtain ⟨frame, here, isRequest, shape⟩ := deliver_request event
  obtain ⟨entry, sent, same⟩ := link.sent_getElem? next here
  cases entry with
  | request key data userData responseAllowance =>
    refine ⟨key, data, userData, responseAllowance, seq ▸ sent, ?_⟩
    rw [shape, ← same]
    refine ⟨rfl, ?_, piggyback_internalAllowance responseAllowance⟩
    change (data.take (data.length % 2 ^ 32)).length = _
    rw [List.length_take, Nat.min_eq_left (Nat.mod_le ..)]
    rfl
  | response request data =>
    rw [← same] at isRequest
    change isResponse (toResponseId request.message.callId) = false at isRequest
    rw [isResponse_toResponseId] at isRequest
    cases isRequest

def Requests (sender receiver : RcSide U) : Prop :=
  ∀ request ∈ receiver.live, IsCall sender.sent request ∧ request.seq < receiver.seen

theorem Requests.acting (requests : Requests own peer) (action : Action U) :
    Requests (own.act transport peer action) peer := by
  intro request member
  obtain ⟨known, seen⟩ := requests request member
  exact ⟨known.mono (Side.sent_act action), seen⟩

theorem Requests.observing (requests : Requests peer own) (link : Link size peer own)
    {action : Action U} (intact : IntactProcess size own peer action) :
    Requests peer (own.act transport peer action) := by
  intro request member
  rcases Side.live_act member with
    ⟨old, grows⟩ | ⟨write, index, isProcess, ready, next, event, seq, bound⟩
  · obtain ⟨known, seen⟩ := requests request old
    exact ⟨known, seen.trans_le grows⟩
  · subst isProcess
    refine ⟨?_, bound⟩
    rw [link.process_eq next (intact ready write next)] at event
    exact request_of_event link next event seq

end Locasta.Copyrpc.Rc
