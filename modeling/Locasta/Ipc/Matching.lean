import Locasta.Ipc.System

namespace Locasta.Ipc

open Data Mempc

/-! Responses reach the calls that they answer.

A client sends only into a slot without user data. That bounds its open calls by the size of a ring,
and keeps the user data of different open calls apart.
-/

variable {Req Resp U : Type}

/-- What a client counts agrees with its rings. -/
structure ClientSound (depth : Nat) (lane : Lane Req Resp) (client : Client Req Resp U) : Prop where
  rings : lane.Sound depth
  ringDepth : client.ringDepth = depth
  inFlight : client.inFlight + lane.responses.received.length = lane.requests.sent.length
  labelled : Labelled depth lane client.userData client.calls
    (client.callbacks.map fun callback => (some callback.1, callback.2))
  sending : ∀ userData, client.pc = .sending userData →
    lane.requests.writing.isSome ∧ client.userData (lane.requests.sent.length % depth) = none
  calm : client.pc ≠ .panicked

namespace ClientSound

variable {depth : Nat} {lane after : Lane Req Resp} {client : Client Req Resp U}

theorem connect (Req Resp U : Type) (depth : Nat) :
    ClientSound depth (.new Req Resp depth) (.connect Req Resp U depth) where
  rings := .new Req Resp depth
  ringDepth := rfl
  inFlight := rfl
  labelled := .new depth _
  sending _ later := by cases later
  calm := nofun

variable (sound : ClientSound depth lane client)
include sound

theorem served (rings : after.Sound depth)
    (served : lane.Served after) : ClientSound depth after client :=
  { sound with
    rings
    inFlight := by rw [served.sent, served.returned]; exact sound.inFlight
    labelled := sound.labelled.served sound.rings served
    sending := by rw [served.writing, served.sent]; exact sound.sending }

theorem goto {pc : ClientPc Req U}
    (resting : ∀ userData, pc ≠ .sending userData) (calm : pc ≠ .panicked) :
    ClientSound depth lane { client with pc } :=
  { sound with sending := fun _ later => absurd later (resting _), calm }

theorem call (serverAlive : Bool) (req : Req)
    (userData : U) : ClientSound depth lane (client.call serverAlive req userData).2 := by
  unfold Client.call
  split
  · exact sound
  · exact sound.goto nofun nofun

theorem finishPoll (serverAlive : Bool) (count : Nat) (next : Option (Req × U)) :
    ClientSound depth lane (client.finishPoll serverAlive count next).2 := by
  unfold Client.finishPoll
  split
  · exact sound.goto nofun nofun
  · split <;> exact sound.goto nofun nofun

variable (sized : Spsc.IsDepth depth)
include sized

theorem startCall (empty : client.userData (lane.requests.sent.length % depth) = none) (req : Req)
    (userData : U) :
    ClientSound depth (lane.startCall req) { client with pc := .sending userData } where
  rings := sound.rings.startCall sized (sound.labelled.room sound.rings sized empty) req
  ringDepth := sound.ringDepth
  inFlight := sound.inFlight
  labelled := sound.labelled.startCall req
  sending _ _ := ⟨rfl, empty⟩
  calm := nofun

/-- The `expect` of `call` does not fail. -/
theorem finishCall {userData : U} (sending : client.pc = .sending userData) :
    ∃ slotIdx, lane.finishCall.1 = some slotIdx ∧ ClientSound depth lane.finishCall.2
        { client with
          userData := Function.update client.userData slotIdx (some userData)
          inFlight := client.inFlight + 1
          pc := .idle
          calls := client.calls ++ [userData] } := by
  obtain ⟨started, empty⟩ := sound.sending userData sending
  obtain ⟨req, written⟩ := Option.isSome_iff_exists.mp started
  obtain ⟨slot, labelled⟩ := sound.labelled.finishCall sound.rings sized empty written userData
  refine ⟨_, slot, sound.rings.finishCall sized, sound.ringDepth, ?_, labelled,
    fun _ later => (by cases later), nofun⟩
  have inFlight := sound.inFlight
  simp only [Lane.finishCall, Spsc.finishSend, written, List.length_append, List.length_singleton]
  omega

theorem waitResponse
    {result : TryRecv (Response Resp)} (received : lane.recvResponse = (result, after))
    (other : ∀ slotIdx value, result ≠ .got slotIdx value) : ClientSound depth after client := by
  have fresh : ∀ slotIdx value, lane.recvResponse.1 ≠ .got slotIdx value := by
    rw [received]
    exact other
  have rings := sound.rings.recvResponse sized
  have labelled := sound.labelled.unreturned fresh
  have returned : lane.recvResponse.2.responses.received = lane.responses.received :=
    Spsc.received_tryRecv fresh
  have requests : after.requests = lane.requests :=
    congrArg (fun outcome => outcome.2.requests) received.symm
  rw [received] at rings labelled returned
  exact { sound with
    rings
    inFlight := by rw [requests, returned]; exact sound.inFlight
    labelled
    sending := by rw [requests]; exact sound.sending }

/-- The `expect` of `poll` does not fail either. -/
theorem respond (positive : 0 < client.inFlight) {slotIdx : Nat} {response : Response Resp}
    (received : lane.recvResponse = (.got slotIdx response, after)) (count : Nat)
    (next : Option (Req × U)) : ClientSound depth after (client.respond response count next) := by
  have rings := sound.rings.recvResponse sized
  obtain ⟨userData, found, _, labelled⟩ :=
    sound.labelled.recvResponse sound.rings sized received
  have inFlight := sound.inFlight
  have polled := labelled.polled
  rw [List.length_append, sound.labelled.polled, List.length_singleton] at polled
  have requests : after.requests = lane.requests :=
    congrArg (fun outcome => outcome.2.requests) received.symm
  rw [received] at rings
  simp only [Client.respond, found]
  refine ⟨rings, sound.ringDepth, ?_, ?_, fun _ later => (by cases later), nofun⟩
  · rw [requests, ← polled]
    dsimp only
    omega
  · rw [List.map_append]
    exact labelled

theorem advance (serverAlive : Bool) :
    ClientSound depth (client.advance lane serverAlive).2.1 (client.advance lane serverAlive).2.2 := by
  unfold Client.advance
  split
  · exact sound
  · exact sound
  · rename_i req userData waiting
    have slot : lane.requests.tx.head &&& (client.ringDepth - 1) =
        lane.requests.sent.length % depth := by
      rw [sound.ringDepth, sound.rings.requests.head, sized.slot_eq]
    dsimp only
    rw [slot]
    split
    · rename_i empty
      exact sound.startCall sized (Option.isNone_iff_eq_none.mp empty) req userData
    · exact sound.goto nofun nofun
  · rename_i userData sending
    obtain ⟨slotIdx, finished, later⟩ := sound.finishCall sized sending
    have result : lane.finishCall = (some slotIdx, lane.finishCall.2) := by rw [← finished]
    rw [result]
    exact later
  · rename_i count next polling
    split
    · rename_i positive
      split
      · rename_i result
        exact sound.waitResponse sized result nofun
      · rename_i result
        exact sound.respond sized positive result count next
      · rename_i result
        exact (sound.waitResponse sized result nofun).finishPoll serverAlive count next
      · rename_i result
        exact (sound.waitResponse sized result nofun).finishPoll serverAlive count next
    · exact sound.finishPoll serverAlive count next

end ClientSound

namespace System

def Sound (depth : Nat) (system : System Req Resp U) : Prop :=
  ∀ id, ClientSound depth (system.lanes id) (system.clients id)

namespace Sound

variable {depth : Nat} {system : System Req Resp U}

theorem create (Req Resp U : Type) (maxClients depth : Nat) :
    Sound depth (create Req Resp U maxClients depth) :=
  fun _ => .connect Req Resp U depth

variable (sound : Sound depth system)
include sound

theorem set {id : Nat} {lane : Lane Req Resp}
    {client : Client Req Resp U} (here : ClientSound depth lane client) :
    Sound depth ((system.setLane id lane).setClient id client) := by
  intro other
  by_cases same : other = id
  · subst same
    simpa [setLane, setClient] using here
  · simpa [setLane, setClient, same] using sound other

theorem setClient {id : Nat} {client : Client Req Resp U}
    (here : ClientSound depth (system.lanes id) client) :
    Sound depth (system.setClient id client) := by
  intro other
  by_cases same : other = id
  · subst same
    simpa [System.setClient] using here
  · simpa [System.setClient, same] using sound other

theorem setLane {id : Nat} {lane : Lane Req Resp}
    (rings : lane.Sound depth) (served : (system.lanes id).Served lane) :
    Sound depth (system.setLane id lane) := by
  intro other
  by_cases same : other = id
  · subst same
    simpa [System.setLane] using (sound other).served rings served
  · simpa [System.setLane, same] using sound other

theorem recvTurn (sized : Spsc.IsDepth depth) : Sound depth system.recvTurn.2 := by
  unfold System.recvTurn
  dsimp only
  split
  · have later := sound.setLane ((sound ((system.server.recvStart + system.server.recvScanPos) %
        system.server.maxClients)).rings.recvRequest sized) (Lane.served_recvRequest _)
    split
    · split
      all_goals
        rename_i result
        rw [result] at later
        exact later
    · exact sound
  · exact sound

theorem serve (sized : Spsc.IsDepth depth) : Sound depth system.serve.2 := by
  unfold System.serve
  dsimp only
  split
  · exact sound
  · exact sound
  · exact sound
  · exact sound
  · exact sound.recvTurn sized
  · rename_i clientIdx _
    exact sound.setLane ((sound clientIdx).rings.finishReply sized)
      (system.lanes clientIdx).served_finishReply

theorem serverCall (sized : Spsc.IsDepth depth)
    (action : Action Req Resp U) : Sound depth (system.serverCall action) := by
  unfold System.serverCall
  split
  · exact sound
  · exact sound
  · rename_i id index resp
    split
    · exact sound.setLane ((sound id).rings.startReply sized index resp)
        ((system.lanes id).served_startReply index resp)
    · exact sound
  · exact sound

theorem connect : Sound depth system.connect := by
  unfold System.connect
  dsimp only
  split <;> exact sound

/-- No step mixes up the requests and responses of the clients. -/
theorem step (sized : Spsc.IsDepth depth)
    (action : Action Req Resp U) : Sound depth (system.next action) := by
  unfold next System.step
  cases action with
  | connect => exact sound.connect
  | call id req userData =>
    dsimp only
    split
    · exact sound.setClient ((sound id).call system.serverAlive req userData)
    · exact sound
  | poll id =>
    dsimp only
    split
    · exact sound.setClient ((sound id).goto nofun nofun)
    · exact sound
  | client id => exact sound.set ((sound id).advance sized system.serverAlive)
  | server => exact sound.serve sized
  | pollWithSkip skip =>
    dsimp only
    split
    · exact sound.serverCall sized (.pollWithSkip skip)
    · exact sound
  | recv =>
    dsimp only
    split
    · exact sound.serverCall sized .recv
    · exact sound
  | reply id index resp =>
    dsimp only
    split
    · exact sound.serverCall sized (.reply id index resp)
    · exact sound

end Sound

/-- Each client's requests are received in their order, and every response invokes `on_response`
once, with the user data of its call. No slot is written before it was read, and no `expect` fails.
-/
theorem responses_match_calls {depth : Nat} (sized : Spsc.IsDepth depth) (maxClients : Nat)
    (actions : List (Action Req Resp U)) (id : Nat) :
    let system := run next (create Req Resp U maxClients depth) actions
    let lane := system.lanes id
    let client := system.clients id
    lane.requests.received <+: lane.requests.sent ∧
      client.calls.length = lane.requests.sent.length ∧
      lane.responses.received <+: lane.responses.sent ∧
      lane.answered.Nodup ∧
      client.callbacks.length = lane.responses.received.length ∧
      (∀ (index : Nat) (response : Response Resp), lane.responses.received[index]? = some response →
          ∃ number userData, lane.answered[index]? = some number ∧
            client.calls[number]? = some userData ∧
            client.callbacks[index]? = some (userData, response.data)) ∧
      (lane.requests.writing.isSome →
        lane.requests.sent.length < lane.requests.received.length + depth) ∧
      (lane.responses.writing.isSome →
        lane.responses.sent.length < lane.responses.received.length + depth) ∧
      client.pc ≠ .panicked := by
  intro system lane client
  have sound : Sound depth system :=
    run_always (fun _ action sound => sound.step sized action) (.create Req Resp U maxClients depth)
  obtain ⟨rings, _, _, labelled, _, calm⟩ := sound id
  have polled := labelled.polled
  rw [List.length_map] at polled
  refine ⟨rings.requests.received, labelled.length, rings.responses.received, rings.exchange.nodup,
    polled, ?_, rings.requests.room, rings.responses.room, calm⟩
  intro index response received
  obtain ⟨number, userData, answered, call⟩ := labelled.call_of_response rings received
  have pair := labelled.pairs index number response answered received
  rw [call, List.getElem?_map] at pair
  obtain ⟨⟨found, data⟩, here, same⟩ := Option.map_eq_some_iff.mp pair
  cases same
  exact ⟨number, found, answered, call, here⟩

/-- Two calls in a ring of two, answered in the other order. -/
def secondFirst : List (Action Nat Nat Nat) :=
  [.connect, .call 0 20 10, .client 0, .client 0, .call 0 21 11, .client 0, .client 0,
    .pollWithSkip [], .server, .server, .server, .server, .server,
    .recv, .server, .server, .recv, .server, .server,
    .call 0 22 12, .client 0, .reply 0 1 31, .server, .client 0, .client 0, .client 0, .client 0,
    .reply 0 0 30, .server, .client 0, .client 0, .client 0, .client 0, .client 0]

theorem responses_match_calls_secondFirst :
    let system := run next (create Nat Nat Nat 1 2) secondFirst
    (system.lanes 0).requests.received = [20, 21] ∧ (system.lanes 0).requests.sent = [20, 21, 22] ∧
      (system.lanes 0).answered = [1, 0] ∧
      (system.clients 0).callbacks = [(11, 31), (10, 30)] ∧
      (system.clients 0).pc ≠ .panicked := by
  intro system
  have sized : Spsc.IsDepth 2 := ⟨⟨1, rfl⟩, by decide⟩
  exact ⟨by decide +kernel, by decide +kernel, by decide +kernel, by decide +kernel,
    (responses_match_calls sized 1 secondFirst 0).2.2.2.2.2.2.2.2⟩

/-- The calls of `pending_count` are in the request ring, at the server or in the response ring. -/
theorem pending_calls_conserved {depth : Nat} (sized : Spsc.IsDepth depth) (maxClients : Nat)
    (actions : List (Action Req Resp U)) (id : Nat) :
    let system := run next (create Req Resp U maxClients depth) actions
    let lane := system.lanes id
    let client := system.clients id
    client.inFlight = (lane.requests.sent.length - lane.requests.received.length) +
        lane.handles.length + (lane.answered.length - lane.responses.received.length) ∧
      client.inFlight + client.callbacks.length = client.calls.length ∧
      client.inFlight ≤ depth := by
  intro system lane client
  have sound : Sound depth system :=
    run_always (fun _ action sound => sound.step sized action) (.create Req Resp U maxClients depth)
  obtain ⟨rings, _, inFlight, labelled, _⟩ : ClientSound depth lane client := sound id
  have polled := labelled.polled
  have calls := labelled.length
  have split := rings.exchange.split.length_eq
  have delivered := rings.exchange.delivered_le
  have returned := rings.exchange.returned_le
  have bound := rings.bound
  simp only [List.length_map, List.length_append, List.length_range] at polled split
  refine ⟨?_, ?_, ?_⟩ <;> omega

theorem pending_calls_conserved_secondFirst :
    ((run next (create Nat Nat Nat 1 2) secondFirst).clients 0).inFlight ≤ 2 :=
  (pending_calls_conserved ⟨⟨1, rfl⟩, by decide⟩ 1 secondFirst 0).2.2

end System

end Locasta.Ipc
