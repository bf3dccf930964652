import Locasta.Mempc.Lane
import Locasta.Data.Labels

namespace Locasta.Mempc

open Data Function

/-! User data that a caller keeps for its open calls, at the slots of their requests. -/

variable {Req Resp U : Type}

namespace Lane

def settled (lane : Lane Req Resp) : List Nat := lane.answered.take lane.responses.received.length

theorem Served.settled {before after : Lane Req Resp} (served : Served before after)
    (returned : before.responses.received.length ≤ before.answered.length) :
    after.settled = before.settled := by
  rw [Lane.settled, served.returned, take_extend served.answered returned]
  rfl

end Lane

/-- Every open call has its user data at its slot, and responses were passed on with theirs. -/
structure Labelled (depth : Nat) (lane : Lane Req Resp) (userData : Nat → Option U)
    (calls : List U) (log : List (Option U × Resp)) : Prop where
  length : calls.length = lane.requests.sent.length
  labels : Labels depth lane.settled userData calls
  polled : log.length = lane.responses.received.length
  pairs : ∀ (index number : Nat) (response : Response Resp), lane.answered[index]? = some number →
    lane.responses.received[index]? = some response →
      log[index]? = some (calls[number]?, response.data)

namespace Labelled

variable {depth : Nat} {lane after : Lane Req Resp} {userData : Nat → Option U} {calls : List U}
  {log : List (Option U × Resp)}

theorem new (depth : Nat) (userData : Nat → Option U) :
    Labelled depth (.new Req Resp depth) userData [] [] where
  length := rfl
  labels := .nil depth _ userData
  polled := rfl
  pairs index _ _ here := by simp [Lane.new] at here

variable (labelled : Labelled depth lane userData calls log)
include labelled

theorem served (sound : lane.Sound depth)
    (served : lane.Served after) : Labelled depth after userData calls log where
  length := labelled.length.trans (congrArg List.length served.sent.symm)
  labels := by
    rw [served.settled sound.exchange.returned_le]
    exact labelled.labels
  polled := labelled.polled.trans (congrArg List.length served.returned.symm)
  pairs index number response answered received := by
    rw [served.returned] at received
    have inside := (List.getElem?_eq_some_iff.mp received).1
    refine labelled.pairs index number response ?_ received
    have here := List.getElem?_eq_getElem (Nat.lt_of_lt_of_le inside sound.exchange.returned_le)
    rw [getElem?_extend served.answered here] at answered
    rw [here, answered]

theorem call_of_response (sound : lane.Sound depth) {index : Nat} {response : Response Resp}
    (received : lane.responses.received[index]? = some response) :
    ∃ number label, lane.answered[index]? = some number ∧ calls[number]? = some label := by
  have inside := (List.getElem?_eq_some_iff.mp received).1
  have answered := List.getElem?_eq_getElem (Nat.lt_of_lt_of_le inside sound.exchange.returned_le)
  have known := Nat.lt_of_lt_of_le
    (sound.exchange.lt_of_mem_answered (List.mem_of_getElem? answered))
    (sound.exchange.delivered_le.trans (Nat.le_of_eq labelled.length.symm))
  exact ⟨_, _, answered, List.getElem?_eq_getElem known⟩

theorem room (sound : lane.Sound depth)
    (sized : Spsc.IsDepth depth) (empty : userData (lane.requests.sent.length % depth) = none) :
    lane.requests.sent.length < lane.responses.received.length + depth := by
  rw [← labelled.length] at empty ⊢
  have count := (labelled.labels.within.extend sized.pos (labelled.labels.free empty)).count_le
  rw [Lane.settled, List.length_take, Nat.min_eq_left sound.exchange.returned_le] at count
  exact count

theorem startCall (req : Req) : Labelled depth (lane.startCall req) userData calls log :=
  ⟨labelled.length, labelled.labels, labelled.polled, labelled.pairs⟩

theorem finishCall (sound : lane.Sound depth)
    (sized : Spsc.IsDepth depth) (empty : userData (lane.requests.sent.length % depth) = none)
    {req : Req} (started : lane.requests.writing = some req) (label : U) :
    lane.finishCall.1 = some (lane.requests.sent.length % depth) ∧ Labelled depth lane.finishCall.2
        (update userData (lane.requests.sent.length % depth) (some label))
        (calls ++ [label]) log := by
  have slot := sound.requests.txSlot sized
  simp only [Lane.finishCall, Spsc.finishSend, started]
  refine ⟨congrArg some slot, ?_, ?_, labelled.polled, ?_⟩
  · rw [List.length_append, List.length_append, labelled.length]
    rfl
  · rw [← labelled.length] at empty ⊢
    exact labelled.labels.put sized.pos empty label
  · intro index number response answered received
    have known := sound.exchange.lt_of_mem_answered (List.mem_of_getElem? answered)
    have inside : number < calls.length := by
      rw [labelled.length]
      exact Nat.lt_of_lt_of_le known sound.exchange.delivered_le
    rw [List.getElem?_append_left inside]
    exact labelled.pairs index number response answered received

theorem unreturned (other : ∀ slotIdx value, lane.recvResponse.1 ≠ .got slotIdx value) :
    Labelled depth lane.recvResponse.2 userData calls log := by
  have returned : lane.recvResponse.2.responses.received = lane.responses.received :=
    Spsc.received_tryRecv other
  have settled : lane.recvResponse.2.settled = lane.settled := by
    rw [Lane.settled, returned]
    rfl
  exact { labelled with
    labels := by rw [settled]; exact labelled.labels
    polled := by rw [returned]; exact labelled.polled
    pairs := by rw [returned]; exact labelled.pairs }

theorem recvResponse (sound : lane.Sound depth)
    (sized : Spsc.IsDepth depth) {slotIdx : Nat} {response : Response Resp}
    (received : lane.recvResponse = (.got slotIdx response, after)) :
    ∃ label, userData response.token = some label ∧ response.token < depth ∧
      Labelled depth after (update userData response.token none) calls
        (log ++ [(some label, response.data)]) := by
  rcases (sound.responses.tryRecv sized).2 with
    ⟨_, _, result⟩ | ⟨_, _, result⟩ | ⟨_, value, here, result⟩
  · rw [Lane.recvResponse, result] at received
    cases received
  · rw [Lane.recvResponse, result] at received
    cases received
  · rw [Lane.recvResponse, result] at received
    cases received
    obtain ⟨number, answered, token⟩ := sound.reply_at here
    have known := Nat.lt_of_lt_of_le
      (sound.exchange.lt_of_mem_answered (List.mem_of_getElem? answered))
      sound.exchange.delivered_le
    rw [← labelled.length] at known
    have position := (List.getElem?_eq_some_iff.mp answered).1
    have settled : lane.answered.take (lane.responses.received.length + 1) =
        lane.settled ++ [number] := by
      rw [List.take_succ_eq_append_getElem position, ← (List.getElem?_eq_some_iff.mp answered).2]
      rfl
    have unsettled : number ∉ lane.settled := by
      have distinct := sound.exchange.nodup.sublist
        (List.take_sublist (lane.responses.received.length + 1) lane.answered)
      rw [settled] at distinct
      exact fun member => (List.nodup_append.mp distinct).2.2 number member number
        (List.mem_singleton_self _) rfl
    obtain ⟨found, labels⟩ := labelled.labels.settle (List.getElem?_eq_getElem known) unsettled
    have more : (lane.responses.received ++ [response]).length =
        lane.responses.received.length + 1 := List.length_append
    rw [token]
    refine ⟨calls[number], found, Nat.mod_lt _ sized.pos, labelled.length, ?_, ?_, ?_⟩
    · change Labels depth (lane.answered.take (lane.responses.received ++ [response]).length) _ _
      rw [more, settled]
      exact labels
    · rw [List.length_append, labelled.polled, more]
      rfl
    · intro index other otherResponse otherAnswered otherReceived
      change (lane.responses.received ++ [response])[index]? = _ at otherReceived
      rcases Nat.lt_or_ge index lane.responses.received.length with earlier | last
      · rw [List.getElem?_append_left earlier] at otherReceived
        rw [List.getElem?_append_left (by rw [labelled.polled]; exact earlier)]
        exact labelled.pairs index other otherResponse otherAnswered otherReceived
      · have inside := (List.getElem?_eq_some_iff.mp otherReceived).1
        obtain rfl : index = lane.responses.received.length := by omega
        rw [List.getElem?_append_right (Nat.le_refl _), Nat.sub_self] at otherReceived
        cases otherReceived
        rw [answered] at otherAnswered
        cases otherAnswered
        rw [← labelled.polled, List.getElem?_append_right (Nat.le_refl _), Nat.sub_self,
          List.getElem?_eq_getElem known]
        rfl

end Labelled

end Locasta.Mempc
