import Locasta.Mempc.Spsc
import Locasta.Data.Exchange

namespace Locasta.Mempc

open Data

/-! One caller and the server: a ring of requests and a ring of responses. -/

structure Response (Resp : Type) where
  token : Nat
  data : Resp
deriving DecidableEq

/-- The server keeps the slot as the token of the reply; `number` is auxiliary. -/
structure Handle where
  number : Nat
  slotIdx : Nat

structure Lane (Req Resp : Type) where
  requests : Spsc Req
  responses : Spsc (Response Resp)
  handles : List Handle
  /-- Auxiliary: the numbers of the requests that were replied to, in the order of the replies. -/
  answered : List Nat

namespace Lane

variable {Req Resp : Type}

def new (Req Resp : Type) (ringDepth : Nat) : Lane Req Resp where
  requests := .new Req ringDepth
  responses := .new (Response Resp) ringDepth
  handles := []
  answered := []

def startCall (lane : Lane Req Resp) (req : Req) : Lane Req Resp :=
  { lane with requests := lane.requests.startSend req }

def finishCall (lane : Lane Req Resp) : Option Nat × Lane Req Resp :=
  let (slotIdx, requests) := lane.requests.finishSend
  (slotIdx, { lane with requests })

def recvRequest (lane : Lane Req Resp) : TryRecv Req × Lane Req Resp :=
  match lane.requests.tryRecv with
  | (.got slotIdx value, requests) =>
    let handle := { number := lane.requests.received.length, slotIdx }
    (.got slotIdx value, { lane with requests, handles := lane.handles ++ [handle] })
  | (result, requests) => (result, { lane with requests })

/-- The first step of a reply, which holds the server until it returns. -/
def startReply (lane : Lane Req Resp) (index : Nat) (resp : Resp) : Lane Req Resp :=
  match lane.handles[index]?, lane.responses.writing with
  | some handle, none =>
    { lane with
      responses := lane.responses.startSend { token := handle.slotIdx, data := resp }
      handles := lane.handles.eraseIdx index
      answered := lane.answered ++ [handle.number] }
  | _, _ => lane

def finishReply (lane : Lane Req Resp) : Lane Req Resp :=
  { lane with responses := lane.responses.finishSend.2 }

def recvResponse (lane : Lane Req Resp) : TryRecv (Response Resp) × Lane Req Resp :=
  let (result, responses) := lane.responses.tryRecv
  (result, { lane with responses })

/-- What the server does leaves the caller's ends of the rings alone. -/
structure Served (before after : Lane Req Resp) : Prop where
  sent : after.requests.sent = before.requests.sent
  writing : after.requests.writing = before.requests.writing
  returned : after.responses.received = before.responses.received
  answered : before.answered <+: after.answered

theorem Served.refl (lane : Lane Req Resp) : Served lane lane := ⟨rfl, rfl, rfl, List.prefix_rfl⟩

theorem served_recvRequest (lane : Lane Req Resp) : Served lane lane.recvRequest.2 := by
  obtain ⟨sent, writing⟩ := lane.requests.sent_tryRecv
  unfold recvRequest
  split
  all_goals
    rename_i result
    rw [result] at sent writing
    exact ⟨sent, writing, rfl, List.prefix_rfl⟩

theorem served_startReply (lane : Lane Req Resp) (index : Nat) (resp : Resp) :
    Served lane (lane.startReply index resp) := by
  unfold startReply
  split
  · exact ⟨rfl, rfl, rfl, List.prefix_append ..⟩
  · exact .refl lane

theorem served_finishReply (lane : Lane Req Resp) : Served lane lane.finishReply := by
  refine ⟨rfl, rfl, ?_, List.prefix_rfl⟩
  unfold finishReply Spsc.finishSend
  split <;> rfl

/-- The caller holds back enough: the messages in both rings and at the server fit one ring. -/
structure Sound (depth : Nat) (lane : Lane Req Resp) : Prop where
  requests : lane.requests.Sound depth
  responses : lane.responses.Sound depth
  exchange : Exchange lane.requests.sent.length lane.requests.received.length
    lane.responses.received.length (lane.handles.map Handle.number) lane.answered
  tokens : ∀ handle ∈ lane.handles, handle.slotIdx = handle.number % depth
  replies : (lane.responses.sent ++ lane.responses.writing.toList).map Response.token =
    lane.answered.map (· % depth)
  bound : lane.requests.sent.length ≤ lane.responses.received.length + depth
  room : lane.requests.writing.isSome →
    lane.requests.sent.length < lane.responses.received.length + depth

namespace Sound

variable {depth : Nat} {lane : Lane Req Resp}

theorem new (Req Resp : Type) (depth : Nat) : Sound depth (new Req Resp depth) where
  requests := .new Req depth
  responses := .new _ depth
  exchange := .nil
  tokens _ member := by cases member
  replies := rfl
  bound := Nat.zero_le _
  room started := by cases started

variable (sound : Sound depth lane)
include sound

theorem returned_le : lane.responses.received.length ≤ lane.requests.received.length := by
  have total := sound.exchange.length_add
  have returned := sound.exchange.returned_le
  omega

theorem answered_length :
    lane.answered.length = lane.responses.sent.length + lane.responses.writing.toList.length := by
  have lengths := congrArg List.length sound.replies
  rw [List.length_map, List.length_map, List.length_append] at lengths
  exact lengths.symm

theorem reply_at {index : Nat} {response : Response Resp}
    (here : lane.responses.sent[index]? = some response) :
    ∃ number, lane.answered[index]? = some number ∧ response.token = number % depth := by
  have replies := congrArg (·[index]?) sound.replies
  have inside := (List.getElem?_eq_some_iff.mp here).1
  simp only [List.getElem?_map, List.getElem?_append_left inside, here, Option.map_some] at replies
  obtain ⟨number, answered, token⟩ := Option.map_eq_some_iff.mp replies.symm
  exact ⟨number, answered, token.symm⟩

variable (sized : Spsc.IsDepth depth)
include sized

theorem startCall
    (free : lane.requests.sent.length < lane.responses.received.length + depth) (req : Req) :
    Sound depth (lane.startCall req) where
  requests := sound.requests.startSend sized
    (Nat.lt_of_lt_of_le free (Nat.add_le_add_right sound.returned_le depth)) req
  responses := sound.responses
  exchange := sound.exchange
  tokens := sound.tokens
  replies := sound.replies
  bound := sound.bound
  room _ := free

theorem finishCall : Sound depth lane.finishCall.2 := by
  have requests := sound.requests.finishSend sized
  cases started : lane.requests.writing with
  | none =>
    have idle : lane.finishCall.2 = lane := by
      simp only [Lane.finishCall, Spsc.finishSend, started]
    rw [idle]
    exact sound
  | some req =>
    simp only [Lane.finishCall, Spsc.finishSend, started] at requests ⊢
    have free := sound.room (by rw [started]; rfl)
    have more : (lane.requests.sent ++ [req]).length = lane.requests.sent.length + 1 :=
      List.length_append
    refine { sound with requests, exchange := ?_, bound := ?_, room := ?_ }
    · rw [more]
      exact sound.exchange.request
    · rw [more]
      exact free
    · intro later
      cases later

theorem recvRequest : Sound depth lane.recvRequest.2 := by
  obtain ⟨requests, cases⟩ := sound.requests.tryRecv sized
  rcases cases with ⟨_, _, result⟩ | ⟨_, _, result⟩ | ⟨_, value, here, result⟩
  · simp only [Lane.recvRequest, result] at requests ⊢
    exact sound
  · simp only [Lane.recvRequest, result] at requests ⊢
    exact { sound with requests }
  · simp only [Lane.recvRequest, result] at requests ⊢
    have inside := (List.getElem?_eq_some_iff.mp here).1
    refine { sound with requests, exchange := ?_, tokens := ?_ }
    · rw [List.map_append, List.length_append]
      exact sound.exchange.deliver inside
    · intro handle member
      rcases List.mem_append.mp member with earlier | last
      · exact sound.tokens handle earlier
      · cases List.mem_singleton.mp last
        rfl

theorem startReply (index : Nat) (resp : Resp) : Sound depth (lane.startReply index resp) := by
  unfold Lane.startReply
  split
  · rename_i handle here idle
    have opened : (lane.handles.map Handle.number)[index]? = some handle.number := by
      rw [List.getElem?_map, here]
      rfl
    have fewer : lane.responses.sent.length < lane.responses.received.length + depth := by
      have total := sound.exchange.length_add
      have inside := (List.getElem?_eq_some_iff.mp opened).1
      have length := sound.answered_length
      have order := sound.exchange.delivered_le
      have bound := sound.bound
      rw [idle] at length
      simp only [Option.toList_none, List.length_nil] at length
      omega
    refine { sound with
      responses := sound.responses.startSend sized fewer _
      exchange := ?_, tokens := ?_, replies := ?_ }
    · have erased : (lane.handles.eraseIdx index).map Handle.number =
          (lane.handles.map Handle.number).eraseIdx index := by
        rw [List.eraseIdx_eq_take_drop_succ, List.eraseIdx_eq_take_drop_succ, List.map_append,
          List.map_take, List.map_drop]
      rw [erased]
      exact sound.exchange.reply opened
    · intro other member
      exact sound.tokens other (List.mem_of_mem_eraseIdx member)
    · have replies := sound.replies
      rw [idle, Option.toList_none, List.append_nil] at replies
      change (lane.responses.sent ++ [_]).map _ = (lane.answered ++ [_]).map _
      rw [List.map_append, List.map_append, replies]
      exact congrArg (_ ++ [·]) (sound.tokens handle (List.mem_of_getElem? here))
  · exact sound

theorem finishReply : Sound depth lane.finishReply := by
  cases started : lane.responses.writing with
  | none =>
    have idle : lane.finishReply = lane := by
      simp only [Lane.finishReply, Spsc.finishSend, started]
    rw [idle]
    exact sound
  | some response =>
    have responses := sound.responses.finishSend sized
    have replies := sound.replies
    rw [started] at replies
    simp only [Lane.finishReply, Spsc.finishSend, started] at responses ⊢
    refine { sound with responses, replies := ?_ }
    simpa using replies

theorem recvResponse : Sound depth lane.recvResponse.2 := by
  obtain ⟨responses, cases⟩ := sound.responses.tryRecv sized
  rcases cases with ⟨_, _, result⟩ | ⟨_, _, result⟩ | ⟨_, value, here, result⟩
  · simp only [Lane.recvResponse, result] at responses ⊢
    exact sound
  · simp only [Lane.recvResponse, result] at responses ⊢
    exact { sound with responses }
  · simp only [Lane.recvResponse, result] at responses ⊢
    have inside := (List.getElem?_eq_some_iff.mp here).1
    have length := sound.answered_length
    have more : (lane.responses.received ++ [value]).length = lane.responses.received.length + 1 :=
      List.length_append
    refine { sound with responses, exchange := ?_, bound := ?_, room := ?_ }
    · rw [more]
      exact sound.exchange.giveBack (by omega)
    · have bound := sound.bound
      dsimp only
      omega
    · intro started
      have room := sound.room started
      dsimp only
      omega

end Sound

end Lane

end Locasta.Mempc
