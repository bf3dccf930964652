import Locasta.Copyrpc.Delivery
import Locasta.Data.Duplex

namespace Locasta.Copyrpc

open Data

/-! One side of a connection: the endpoint, its application and the network that
delivers the peer's WRITEs in order. The transports differ in the endpoint only. -/

/-- The answers of the send queue to the posts of an operation are an argument. -/
structure Transport (Endpoint Handle Write U : Type) where
  posted : Endpoint → List Write
  call : Endpoint → List Bool → Nat → List UInt8 → U → Nat → Except (CallError U) UInt32 × Endpoint
  reply : Endpoint → List Bool → Handle → List UInt8 → Except Error Unit × Endpoint
  flush : Endpoint → List Bool → Endpoint
  store : Endpoint → Write → Endpoint
  process : Endpoint → Write → Endpoint × List (Event Handle U)
  data : Endpoint → Handle → List UInt8

/-- A request in the receive stack or behind a handle; `seq` is its number. -/
structure Request (Handle : Type) where
  message : Handle
  seq : Nat

/-- A message that `call` or `reply` accepted. -/
inductive Sent (Handle U : Type) where
  | request (key : Nat) (data : List UInt8) (userData : U) (responseAllowance : Nat)
  | response (request : Request Handle) (data : List UInt8)

structure Side (Endpoint Handle U : Type) where
  ep : Endpoint
  recvStack : List (Request Handle)
  handles : List (Request Handle)
  /-- How many of the peer's WRITEs have been stored, and how many processed. -/
  landed : Nat
  processed : Nat
  /-- Auxiliary: what was accepted for sending, the number of messages processed, the requests
  replied to, and what reached the application. No operation reads them. -/
  sent : List (Sent Handle U)
  seen : Nat
  replied : List Nat
  received : List (Request Handle × List UInt8)
  responses : List (U × List UInt8)

inductive Action (U : Type) where
  | call (answers : List Bool) (key : Nat) (data : List UInt8) (userData : U)
      (responseAllowance : Nat)
  | reply (answers : List Bool) (index : Nat) (data : List UInt8)
  | flush (answers : List Bool)
  | recv
  | drop (index : Nat)
  | land
  | process

def Action.answers {U : Type} : Action U → List Bool
  | .call answers _ _ _ _ => answers
  | .reply answers _ _ => answers
  | .flush answers => answers
  | _ => []

def Action.NoRefusal {U : Type} (action : Action U) : Prop :=
  ∀ answer ∈ action.answers, answer = false

instance {U : Type} (action : Action U) : Decidable action.NoRefusal :=
  inferInstanceAs (Decidable (∀ answer ∈ _, _))

namespace Side

variable {Endpoint Handle Write U : Type}

def new (ep : Endpoint) : Side Endpoint Handle U where
  ep
  recvStack := []
  handles := []
  landed := 0
  processed := 0
  sent := []
  seen := 0
  replied := []
  received := []
  responses := []

variable (transport : Transport Endpoint Handle Write U)

/-- Push a request, or hand a response to the application. -/
def observe (side : Side Endpoint Handle U) : Event Handle U → Side Endpoint Handle U
  | .request message =>
    { side with
      recvStack := { message, seq := side.seen } :: side.recvStack
      received := side.received ++
        [({ message, seq := side.seen }, transport.data side.ep message)]
      seen := side.seen + 1 }
  | .response userData data =>
    { side with responses := side.responses ++ [(userData, data)], seen := side.seen + 1 }
  | .unmatched => { side with seen := side.seen + 1 }

def act (own peer : Side Endpoint Handle U) : Action U → Side Endpoint Handle U
  | .call answers key data userData responseAllowance =>
    match transport.call own.ep answers key data userData responseAllowance with
    | (.ok _, ep) =>
      { own with ep, sent := own.sent ++ [.request key data userData responseAllowance] }
    | (.error _, ep) => { own with ep }
  | .reply answers index data =>
    match own.handles[index]? with
    | none => own
    | some request =>
      match transport.reply own.ep answers request.message data with
      | (.ok _, ep) =>
        { own with
          ep
          sent := own.sent ++ [.response request data]
          replied := request.seq :: own.replied }
      | (.error _, ep) => { own with ep }
  | .flush answers => { own with ep := transport.flush own.ep answers }
  | .recv =>
    match own.recvStack with
    | [] => own
    | request :: rest => { own with recvStack := rest, handles := own.handles ++ [request] }
  | .drop index => { own with handles := own.handles.eraseIdx index }
  | .land =>
    match (transport.posted peer.ep)[own.landed]? with
    | none => own
    | some write => { own with ep := transport.store own.ep write, landed := own.landed + 1 }
  | .process =>
    if own.processed < own.landed then
      match (transport.posted peer.ep)[own.processed]? with
      | none => own
      | some write =>
        let result := transport.process own.ep write
        result.2.foldl (observe transport) { own with ep := result.1, processed := own.processed + 1 }
    else own

variable {transport} {own peer : Side Endpoint Handle U}

theorem foldl_observe (transport : Transport Endpoint Handle Write U)
    (events : List (Event Handle U)) (side : Side Endpoint Handle U) :
    ∃ recvStack received responses, events.foldl (observe transport) side =
      { side with recvStack, received, responses, seen := side.seen + events.length } := by
  induction events generalizing side with
  | nil => exact ⟨side.recvStack, side.received, side.responses, rfl⟩
  | cons event rest ih =>
    obtain ⟨recvStack, received, responses, result⟩ := ih (side.observe transport event)
    refine ⟨recvStack, received, responses, ?_⟩
    rw [List.foldl_cons, result, List.length_cons]
    cases event <;> simp [observe, Nat.add_assoc, Nat.add_comm 1]

theorem mem_foldl_observe {request : Request Handle} {events : List (Event Handle U)}
    {side : Side Endpoint Handle U}
    (member : request ∈ (events.foldl (observe transport) side).recvStack) :
    request ∈ side.recvStack ∨ ∃ index, events[index]? = some (.request request.message) ∧
      request.seq = side.seen + index := by
  induction events generalizing side with
  | nil => exact .inl member
  | cons event rest ih =>
    rcases ih member with old | ⟨index, here, seq⟩
    · cases event with
      | request message =>
        rcases List.mem_cons.mp old with new | old
        · subst new
          exact .inr ⟨0, rfl, rfl⟩
        · exact .inl old
      | response userData data => exact .inl old
      | unmatched => exact .inl old
    · refine .inr ⟨index + 1, here, ?_⟩
      rw [seq]
      cases event <;> simp only [observe] <;> omega

/-- A reply is sent through a handle that has not been replied to. -/
def RepliesOnce (own : Side Endpoint Handle U) : Action U → Prop
  | .reply _ index _ => ∀ request ∈ own.handles[index]?, request.seq ∉ own.replied
  | _ => True

instance (own : Side Endpoint Handle U) : (action : Action U) → Decidable (own.RepliesOnce action)
  | .reply .. => inferInstanceAs (Decidable (∀ request ∈ _, _))
  | .call .. | .flush _ | .recv | .drop _ | .land | .process => isTrue trivial

/-- The requests that the application has not let go of. -/
def live (side : Side Endpoint Handle U) : List (Request Handle) := side.recvStack ++ side.handles

/-- A WRITE was processed, and its messages have reached the application. -/
def took (transport : Transport Endpoint Handle Write U) (own : Side Endpoint Handle U)
    (write : Write) (recvStack : List (Request Handle))
    (received : List (Request Handle × List UInt8)) (responses : List (U × List UInt8)) :
    Side Endpoint Handle U :=
  { own with
    ep := (transport.process own.ep write).1
    processed := own.processed + 1
    seen := own.seen + (transport.process own.ep write).2.length
    recvStack, received, responses }

theorem act_elim {motive : Side Endpoint Handle U → Prop} (action : Action U) (idle : motive own)
    (called : ∀ answers key data userData responseAllowance callId ep,
      action = .call answers key data userData responseAllowance →
      transport.call own.ep answers key data userData responseAllowance = (.ok callId, ep) →
      motive { own with ep, sent := own.sent ++ [.request key data userData responseAllowance] })
    (callFailed : ∀ answers key data userData responseAllowance error ep,
      action = .call answers key data userData responseAllowance →
      transport.call own.ep answers key data userData responseAllowance = (.error error, ep) →
      motive { own with ep })
    (replied : ∀ answers index data request value ep, action = .reply answers index data →
      own.handles[index]? = some request →
      transport.reply own.ep answers request.message data = (.ok value, ep) →
      motive { own with
        ep, sent := own.sent ++ [.response request data], replied := request.seq :: own.replied })
    (replyFailed : ∀ answers index data request error ep, action = .reply answers index data →
      own.handles[index]? = some request →
      transport.reply own.ep answers request.message data = (.error error, ep) →
      motive { own with ep })
    (flushed : ∀ answers, action = .flush answers →
      motive { own with ep := transport.flush own.ep answers })
    (popped : ∀ request rest, own.recvStack = request :: rest →
      motive { own with recvStack := rest, handles := own.handles ++ [request] })
    (dropped : ∀ index, motive { own with handles := own.handles.eraseIdx index })
    (landed : ∀ write, action = .land → (transport.posted peer.ep)[own.landed]? = some write →
      motive { own with ep := transport.store own.ep write, landed := own.landed + 1 })
    (processed : ∀ write recvStack received responses, action = .process →
      own.processed < own.landed → (transport.posted peer.ep)[own.processed]? = some write →
      (transport.process own.ep write).2.foldl (observe transport)
        { own with ep := (transport.process own.ep write).1, processed := own.processed + 1 } =
          own.took transport write recvStack received responses →
      motive (own.took transport write recvStack received responses)) :
    motive (own.act transport peer action) := by
  cases action with
  | call answers key data userData responseAllowance =>
    unfold act
    rcases outcome : transport.call own.ep answers key data userData responseAllowance
      with ⟨result, ep⟩
    cases result with
    | ok callId => simpa [outcome] using called _ _ _ _ _ callId ep rfl outcome
    | error error => simpa [outcome] using callFailed _ _ _ _ _ error ep rfl outcome
  | reply answers index data =>
    unfold act
    cases live : own.handles[index]? with
    | none => simpa [live] using idle
    | some request =>
      rcases outcome : transport.reply own.ep answers request.message data with ⟨result, ep⟩
      cases result with
      | ok value => simpa [live, outcome] using replied _ _ _ request value ep rfl live outcome
      | error error =>
        simpa [live, outcome] using replyFailed _ _ _ request error ep rfl live outcome
  | flush answers => exact flushed answers rfl
  | recv =>
    unfold act
    cases stack : own.recvStack with
    | nil => simpa [stack] using idle
    | cons request rest => simpa [stack] using popped request rest stack
  | drop index => exact dropped index
  | land =>
    unfold act
    cases next : (transport.posted peer.ep)[own.landed]? with
    | none => simpa [next] using idle
    | some write => simpa [next] using landed write rfl next
  | process =>
    unfold act
    by_cases ready : own.processed < own.landed
    · cases next : (transport.posted peer.ep)[own.processed]? with
      | none => simpa [ready, next] using idle
      | some write =>
        obtain ⟨recvStack, received, responses, observed⟩ := foldl_observe transport
          (transport.process own.ep write).2
          { own with ep := (transport.process own.ep write).1, processed := own.processed + 1 }
        simp only [ready, if_true, observed]
        exact processed write recvStack received responses rfl ready next observed
    · simpa [ready] using idle

/-- What an action does to the part of a side that receives. -/
inductive Receiving {Incoming : Type} (transport : Transport Endpoint Handle Write U)
    (incoming : Endpoint → Incoming) (own peer : Side Endpoint Handle U) (action : Action U) :
    Side Endpoint Handle U → Prop
  | kept {after : Side Endpoint Handle U} (same : incoming after.ep = incoming own.ep)
      (landed : after.landed = own.landed) (processed : after.processed = own.processed)
      (seen : after.seen = own.seen) : Receiving transport incoming own peer action after
  | landed {write : Write} (next : (transport.posted peer.ep)[own.landed]? = some write) :
      Receiving transport incoming own peer action
        { own with ep := transport.store own.ep write, landed := own.landed + 1 }
  | processed {write : Write} {recvStack : List (Request Handle)}
      {received : List (Request Handle × List UInt8)} {responses : List (U × List UInt8)}
      (isProcess : action = .process) (ready : own.processed < own.landed)
      (next : (transport.posted peer.ep)[own.processed]? = some write) :
      Receiving transport incoming own peer action
        (own.took transport write recvStack received responses)

theorem act_receiving {Incoming : Type} (incoming : Endpoint → Incoming) (action : Action U)
    (called : ∀ answers key data userData responseAllowance,
      incoming (transport.call own.ep answers key data userData responseAllowance).2 =
        incoming own.ep)
    (replied : ∀ answers handle data,
      incoming (transport.reply own.ep answers handle data).2 = incoming own.ep)
    (flushed : ∀ answers, incoming (transport.flush own.ep answers) = incoming own.ep) :
    Receiving transport incoming own peer action (own.act transport peer action) := by
  refine act_elim (motive := Receiving transport incoming own peer action) action
    (.kept rfl rfl rfl rfl) ?_ ?_ ?_ ?_ ?_ ?_ ?_ ?_ ?_
  · intro answers key data userData responseAllowance callId ep _ outcome
    have kept := called answers key data userData responseAllowance
    rw [outcome] at kept
    exact .kept kept rfl rfl rfl
  · intro answers key data userData responseAllowance error ep _ outcome
    have kept := called answers key data userData responseAllowance
    rw [outcome] at kept
    exact .kept kept rfl rfl rfl
  · intro answers index data request value ep _ _ outcome
    have kept := replied answers request.message data
    rw [outcome] at kept
    exact .kept kept rfl rfl rfl
  · intro answers index data request error ep _ _ outcome
    have kept := replied answers request.message data
    rw [outcome] at kept
    exact .kept kept rfl rfl rfl
  · intro answers _
    exact .kept (flushed answers) rfl rfl rfl
  · intro request rest _
    exact .kept rfl rfl rfl rfl
  · intro index
    exact .kept rfl rfl rfl rfl
  · intro write _ next
    exact .landed next
  · intro write recvStack received responses isProcess ready next _
    exact .processed isProcess ready next

theorem act_process (transport : Transport Endpoint Handle Write U)
    (own peer : Side Endpoint Handle U) : own.act transport peer .process = own ∨
    ∃ write, own.processed < own.landed ∧ (transport.posted peer.ep)[own.processed]? = some write ∧
      own.act transport peer .process = (transport.process own.ep write).2.foldl (observe transport)
          { own with
            ep := (transport.process own.ep write).1
            processed := own.processed + 1 } := by
  unfold act
  by_cases ready : own.processed < own.landed
  · cases next : (transport.posted peer.ep)[own.processed]? with
    | none => exact .inl (by simp [ready])
    | some write => exact .inr ⟨write, ready, rfl, by simp [ready]⟩
  · exact .inl (by simp [ready])

variable {action : Action U}

theorem processed_act (other : action ≠ .process) :
    (own.act transport peer action).processed = own.processed := by
  refine act_elim (motive := fun side => side.processed = own.processed) action rfl
    ?_ ?_ ?_ ?_ ?_ ?_ ?_ ?_ ?_
  case refine_9 =>
    intro _ _ _ _ isProcess
    exact absurd isProcess other
  all_goals intros; rfl

theorem logs_act (transport : Transport Endpoint Handle Write U) (own peer : Side Endpoint Handle U)
    (other : action ≠ .process) :
    (own.act transport peer action).seen = own.seen ∧
      (own.act transport peer action).received = own.received ∧
      (own.act transport peer action).responses = own.responses := by
  refine act_elim (motive := fun side => side.seen = own.seen ∧ side.received = own.received ∧
    side.responses = own.responses) action ⟨rfl, rfl, rfl⟩ ?_ ?_ ?_ ?_ ?_ ?_ ?_ ?_ ?_
  case refine_9 =>
    intro _ _ _ _ isProcess
    exact absurd isProcess other
  all_goals intros; exact ⟨rfl, rfl, rfl⟩

theorem sent_process (transport : Transport Endpoint Handle Write U)
    (own peer : Side Endpoint Handle U) : (own.act transport peer .process).sent = own.sent ∧
    (own.act transport peer .process).replied = own.replied := by
  rcases act_process transport own peer with idle | ⟨write, _, _, result⟩
  · rw [idle]
    exact ⟨rfl, rfl⟩
  · obtain ⟨_, _, _, observed⟩ := foldl_observe transport (transport.process own.ep write).2
      { own with ep := (transport.process own.ep write).1, processed := own.processed + 1 }
    rw [result, observed]
    exact ⟨rfl, rfl⟩

theorem sent_act (action : Action U) : own.sent <+: (own.act transport peer action).sent := by
  refine act_elim (motive := fun side => own.sent <+: side.sent) action (List.prefix_refl _)
    ?_ ?_ ?_ ?_ ?_ ?_ ?_ ?_ ?_
  case refine_9 =>
    intros
    exact List.prefix_refl _
  all_goals intros; first | exact List.prefix_append .. | exact List.prefix_refl _

theorem live_act {request : Request Handle}
    (member : request ∈ (own.act transport peer action).live) :
    (request ∈ own.live ∧ own.seen ≤ (own.act transport peer action).seen) ∨
      ∃ write index, action = .process ∧ own.processed < own.landed ∧
        (transport.posted peer.ep)[own.processed]? = some write ∧
        (transport.process own.ep write).2[index]? = some (.request request.message) ∧
        request.seq = own.seen + index ∧
        request.seq < (own.act transport peer action).seen := by
  revert member
  refine act_elim (motive := fun side => request ∈ side.live →
    (request ∈ own.live ∧ own.seen ≤ side.seen) ∨
      ∃ write index, action = .process ∧ own.processed < own.landed ∧
        (transport.posted peer.ep)[own.processed]? = some write ∧
        (transport.process own.ep write).2[index]? = some (.request request.message) ∧
        request.seq = own.seen + index ∧ request.seq < side.seen) action
    (fun member => .inl ⟨member, Nat.le_refl _⟩) ?_ ?_ ?_ ?_ ?_ ?_ ?_ ?_ ?_
  case refine_6 =>
    intro top rest stack member
    refine .inl ⟨?_, Nat.le_refl _⟩
    simp only [live, List.mem_append, stack, List.mem_cons, List.not_mem_nil, or_false] at member ⊢
    tauto
  case refine_7 =>
    intro index member
    refine .inl ⟨?_, Nat.le_refl _⟩
    rcases List.mem_append.mp member with waiting | held
    · exact List.mem_append_left _ waiting
    · exact List.mem_append_right _ (List.mem_of_mem_eraseIdx held)
  case refine_9 =>
    intro write recvStack received responses isProcess ready next observed member
    rcases List.mem_append.mp member with waiting | held
    · rw [← observed] at waiting
      rcases mem_foldl_observe waiting with old | ⟨index, here, seq⟩
      · exact .inl ⟨List.mem_append_left _ old, Nat.le_add_right ..⟩
      · refine .inr ⟨write, index, isProcess, ready, next, here, seq, ?_⟩
        rw [seq]
        exact Nat.add_lt_add_left (List.getElem?_eq_some_iff.mp here).1 _
    · exact .inl ⟨List.mem_append_right _ held, Nat.le_add_right ..⟩
  all_goals
    intros
    rename_i member
    exact .inl ⟨member, Nat.le_refl _⟩

end Side

end Locasta.Copyrpc
