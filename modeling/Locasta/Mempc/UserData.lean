import Locasta.Mempc.Labelled
import Locasta.Mempc.Onesided

namespace Locasta.Mempc

open Data Function

/-! `CallerWithUserData` over `OnesidedCaller`, as `create_flux` sets it up.

The user data of a call is kept under its token, the slot of the request. A slot is used again as
soon as its request was received, while the call may still wait for its response.
-/

inductive UserDataPc (U : Type) where
  | idle
  | calling (userData : U)
  /-- In the loop of `poll`. -/
  | polling

def UserDataPc.isIdle {U : Type} : UserDataPc U → Bool
  | .idle => true
  | .calling _ | .polling => false

structure CallerWithUserData (Resp U : Type) where
  userData : Nat → Option U
  /-- `user_data.len()` -/
  capacity : Nat
  pc : UserDataPc U
  /-- Auxiliary: the user data of the accepted calls, and for each response the user data that the
  callback was invoked with, if it was invoked. -/
  calls : List U
  polled : List (Option U × Resp)

def CallerWithUserData.new (Resp U : Type) (capacity : Nat) : CallerWithUserData Resp U where
  userData _ := none
  capacity
  pc := .idle
  calls := []
  polled := []

namespace CallerWithUserData

variable {Resp U : Type}

/-- The end of `call`, once the inner call returned its token. -/
def store (caller : CallerWithUserData Resp U) (token : Nat) (userData : U) :
    CallerWithUserData Resp U :=
  let slot := token % caller.capacity
  { caller with
    userData := update caller.userData slot (some userData)
    pc := .idle
    calls := caller.calls ++ [userData] }

/-- A turn of the loop of `poll` that got a response. -/
def respond (caller : CallerWithUserData Resp U) (token : Nat) (resp : Resp) :
    CallerWithUserData Resp U :=
  let slot := token % caller.capacity
  { caller with
    userData := update caller.userData slot none
    polled := caller.polled ++ [(caller.userData slot, resp)] }

end CallerWithUserData

/-- The server of one node with the callers of its peers. -/
structure FluxGroup (Req Resp U : Type) where
  mpsc : Mpsc Req Resp
  callers : Nat → CallerWithUserData Resp U

namespace FluxGroup

variable {Req Resp U : Type}

/-- One of the groups of `create_flux`, for a network of `n` nodes. -/
def create (Req Resp U : Type) (n capacity inflightMax : Nat) : FluxGroup Req Resp U where
  mpsc := .create Req Resp (n - 1) capacity inflightMax
  callers _ := .new Resp U (nextPowerOfTwo capacity)

inductive Action (Req Resp U : Type) where
  | call (id : Nat) (req : Req) (userData : U)
  | poll (id : Nat)
  | caller (id : Nat)
  | tryRecv
  | reply (id index : Nat) (resp : Resp)
  | server

def setCaller (group : FluxGroup Req Resp U) (id : Nat) (mpsc : Mpsc Req Resp)
    (caller : CallerWithUserData Resp U) : FluxGroup Req Resp U where
  mpsc
  callers := update group.callers id caller

def startCall (group : FluxGroup Req Resp U) (id : Nat) (req : Req) (userData : U) :
    FluxGroup Req Resp U :=
  match group.mpsc.step (.call id req) with
  | (none, mpsc) => group.setCaller id mpsc { group.callers id with pc := .calling userData }
  | (some _, mpsc) => { group with mpsc }

def advance (group : FluxGroup Req Resp U) (id : Nat) : FluxGroup Req Resp U :=
  let caller := group.callers id
  match caller.pc with
  | .idle => group
  | .calling userData =>
    match group.mpsc.step (.caller id) with
    | (some (.call _ (.ok token)), mpsc) => group.setCaller id mpsc (caller.store token userData)
    | (_, mpsc) => { group with mpsc }
  | .polling =>
    let inner : Mpsc.Action Req Resp :=
      if (group.mpsc.callers id).pc = .idle then .tryRecvResponse id else .caller id
    match group.mpsc.step inner with
    | (some (.tryRecvResponse _ (some (token, resp))), mpsc) =>
      group.setCaller id mpsc (caller.respond token resp)
    | (some _, mpsc) => group.setCaller id mpsc { caller with pc := .idle }
    | (none, mpsc) => { group with mpsc }

def step (group : FluxGroup Req Resp U) : Action Req Resp U → FluxGroup Req Resp U
  | .call id req userData =>
    if id < group.mpsc.server.numCallers ∧ (group.callers id).pc.isIdle then
      group.startCall id req userData
    else group
  | .poll id =>
    if id < group.mpsc.server.numCallers ∧ (group.callers id).pc.isIdle then
      group.setCaller id group.mpsc { group.callers id with pc := .polling }
    else group
  | .caller id => group.advance id
  | .tryRecv => { group with mpsc := group.mpsc.next .tryRecv }
  | .reply id index resp => { group with mpsc := group.mpsc.next (.reply id index resp) }
  | .server => { group with mpsc := group.mpsc.next .server }

/-- A call that is let through finds no user data at the slot that its request will take. -/
def SlotVacant (group : FluxGroup Req Resp U) : Action Req Resp U → Prop
  | .call id _ _ =>
    (group.mpsc.callers id).inflight < (group.mpsc.callers id).maxInflight →
      ((group.callers id).userData (group.mpsc.lanes id).requests.tx.slotIdx).isNone
  | _ => True

instance (group : FluxGroup Req Resp U) :
    (action : Action Req Resp U) → Decidable (group.SlotVacant action)
  | .call .. => inferInstanceAs (Decidable (_ → _))
  | .poll _ | .caller _ | .tryRecv | .reply .. | .server => isTrue trivial

structure Tracked (depth : Nat) (lane : Lane Req Resp) (inner : CallerPc)
    (caller : CallerWithUserData Resp U) : Prop where
  capacity : caller.capacity = depth
  labelled : Labelled depth lane caller.userData caller.calls caller.polled
  idle : caller.pc.isIdle → inner = .idle
  polling : caller.pc = .polling → inner ≠ .calling
  calling : ∀ userData, caller.pc = .calling userData →
    inner = .calling ∧ lane.requests.writing.isSome ∧
      caller.userData (lane.requests.sent.length % depth) = none

namespace Tracked

variable {depth : Nat} {lane after : Lane Req Resp} {inner : CallerPc}
  {caller : CallerWithUserData Resp U}

theorem new (Req Resp U : Type) (depth : Nat) :
    Tracked depth (.new Req Resp depth) .idle (.new Resp U depth) where
  capacity := rfl
  labelled := .new depth _
  idle _ := rfl
  polling later := by cases later
  calling _ later := by cases later

variable (tracked : Tracked depth lane inner caller)
include tracked

theorem served (sound : lane.Sound depth)
    (served : lane.Served after) : Tracked depth after inner caller :=
  { tracked with
    labelled := tracked.labelled.served sound served
    calling := by
      rw [served.writing, served.sent]
      exact tracked.calling }

theorem startCall (vacant : caller.userData (lane.requests.sent.length % depth) = none) (req : Req)
    (userData : U) :
    Tracked depth (lane.startCall req) .calling { caller with pc := .calling userData } where
  capacity := tracked.capacity
  labelled := tracked.labelled.startCall req
  idle later := by cases later
  polling later := by cases later
  calling _ _ := ⟨rfl, rfl, vacant⟩

theorem store (sound : lane.Sound depth)
    (sized : Spsc.IsDepth depth) {userData : U} (calling : caller.pc = .calling userData) :
    ∃ token, lane.finishCall.1 = some token ∧
      Tracked depth lane.finishCall.2 .idle (caller.store token userData) := by
  obtain ⟨_, started, vacant⟩ := tracked.calling userData calling
  obtain ⟨req, written⟩ := Option.isSome_iff_exists.mp started
  obtain ⟨token, labelled⟩ := tracked.labelled.finishCall sound sized vacant written userData
  refine ⟨_, token, tracked.capacity, ?_, fun _ => rfl, fun later => (by cases later),
    fun _ later => (by cases later)⟩
  simp only [CallerWithUserData.store, tracked.capacity, Nat.mod_mod]
  exact labelled

theorem respond (sound : lane.Sound depth)
    (sized : Spsc.IsDepth depth) (polling : caller.pc = .polling) {slotIdx : Nat}
    {response : Response Resp} (received : lane.recvResponse = (.got slotIdx response, after)) :
    Tracked depth after .idle (caller.respond response.token response.data) := by
  obtain ⟨label, found, small, labelled⟩ :=
    tracked.labelled.recvResponse sound sized received
  refine ⟨tracked.capacity, ?_, fun _ => rfl, fun _ => nofun, fun _ later => ?_⟩
  · simp only [CallerWithUserData.respond, tracked.capacity, Nat.mod_eq_of_lt small, found]
    exact labelled
  · rw [show (caller.respond response.token response.data).pc = caller.pc from rfl, polling] at later
    cases later

theorem busy (polling : caller.pc = .polling) (received : lane.recvResponse = (.busy, after)) :
    Tracked depth after .receiving caller where
  capacity := tracked.capacity
  labelled := by
    have labelled := tracked.labelled.unreturned (fun _ _ got => by rw [received] at got; cases got)
    rwa [received] at labelled
  idle later := by
    rw [polling] at later
    cases later
  polling _ := nofun
  calling _ later := by
    rw [polling] at later
    cases later

theorem startPoll (idle : caller.pc.isIdle) :
    Tracked depth lane inner { caller with pc := .polling } where
  capacity := tracked.capacity
  labelled := tracked.labelled
  idle later := by cases later
  polling _ := by
    rw [tracked.idle idle]
    nofun
  calling _ later := by cases later

theorem stop : Tracked depth lane .idle { caller with pc := .idle } where
  capacity := tracked.capacity
  labelled := tracked.labelled
  idle _ := rfl
  polling later := by cases later
  calling _ later := by cases later

end Tracked

/-- Every caller has the user data of its open calls. -/
structure Sound (depth inflightMax : Nat) (group : FluxGroup Req Resp U) : Prop where
  mpsc : group.mpsc.Sound depth inflightMax
  tracked : ∀ id, Tracked depth (group.mpsc.lanes id) (group.mpsc.callers id).pc (group.callers id)

namespace Sound

variable {depth inflightMax : Nat} {group : FluxGroup Req Resp U}

theorem create (Req Resp U : Type) (n inflightMax : Nat) (sized : Spsc.IsDepth depth) :
    Sound depth inflightMax (create Req Resp U n depth inflightMax) where
  mpsc := .create Req Resp (n - 1) depth inflightMax
  tracked id := by
    change Tracked depth _ _ (CallerWithUserData.new Resp U (nextPowerOfTwo depth))
    rw [nextPowerOfTwo_eq sized.power]
    exact .new Req Resp U depth

variable (sound : Sound depth inflightMax group)
include sound

theorem set {id : Nat} {lane : Lane Req Resp}
    {inner : OnesidedCaller} {caller : CallerWithUserData Resp U}
    (mpsc : ((group.mpsc.setLane id lane).setCaller id inner).Sound depth inflightMax)
    (here : Tracked depth lane inner.pc caller) :
    Sound depth inflightMax
      (group.setCaller id ((group.mpsc.setLane id lane).setCaller id inner) caller) where
  mpsc
  tracked other := by
    by_cases same : other = id
    · subst same
      simpa [setCaller, Mpsc.setLane, Mpsc.setCaller] using here
    · simpa [setCaller, Mpsc.setLane, Mpsc.setCaller, same] using sound.tracked other

theorem stop {id : Nat}
    (mpsc : (group.mpsc.setCaller id { group.mpsc.callers id with pc := .idle }).Sound depth
      inflightMax) :
    Sound depth inflightMax (group.setCaller id
      (group.mpsc.setCaller id { group.mpsc.callers id with pc := .idle })
      { group.callers id with pc := .idle }) where
  mpsc
  tracked other := by
    by_cases same : other = id
    · subst same
      simpa [setCaller, Mpsc.setCaller] using (sound.tracked other).stop
    · simpa [setCaller, Mpsc.setCaller, same] using sound.tracked other

theorem served (sized : Spsc.IsDepth depth)
    (fits : inflightMax ≤ depth) {action : Mpsc.Action Req Resp} (server : action.ofServer = true) :
    Sound depth inflightMax { group with mpsc := group.mpsc.next action } where
  mpsc := sound.mpsc.step sized fits action
  tracked id := by
    obtain ⟨served, callers⟩ := group.mpsc.served_next server id
    rw [callers]
    exact (sound.tracked id).served (sound.mpsc id).rings served

theorem startPoll {id : Nat} (idle : (group.callers id).pc.isIdle) : Sound depth inflightMax
      (group.setCaller id group.mpsc { group.callers id with pc := .polling }) where
  mpsc := sound.mpsc
  tracked other := by
    by_cases same : other = id
    · subst same
      simpa [setCaller] using (sound.tracked other).startPoll idle
    · simpa [setCaller, same] using sound.tracked other

variable (sized : Spsc.IsDepth depth)
include sized

theorem startCall (fits : inflightMax ≤ depth) {id : Nat} {req : Req} {userData : U}
    (known : id < group.mpsc.server.numCallers) (idle : (group.callers id).pc.isIdle)
    (vacant : group.SlotVacant (.call id req userData)) :
    Sound depth inflightMax (group.startCall id req userData) := by
  have innerIdle := (sound.tracked id).idle idle
  have later : (group.mpsc.step (.call id req)).2.Sound depth inflightMax :=
    sound.mpsc.step sized fits _
  have step : group.mpsc.step (.call id req) = group.mpsc.startCall id req := by
    simp only [Mpsc.step, known, innerIdle, and_self, if_true]
  unfold FluxGroup.startCall
  rw [step] at later ⊢
  by_cases refused : (group.mpsc.callers id).inflight ≥ (group.mpsc.callers id).maxInflight
  · simp only [Mpsc.startCall, if_pos refused]
    exact sound
  · simp only [Mpsc.startCall, if_neg refused] at later ⊢
    have empty := Option.isNone_iff_eq_none.mp (vacant (Nat.lt_of_not_le refused))
    rw [(sound.mpsc id).rings.requests.txSlot sized] at empty
    exact sound.set later ((sound.tracked id).startCall empty req userData)

theorem finishCall (fits : inflightMax ≤ depth) {id : Nat} {userData : U}
    (calling : (group.callers id).pc = .calling userData) :
    Sound depth inflightMax (group.advance id) := by
  obtain ⟨innerCalling, _, _⟩ := (sound.tracked id).calling userData calling
  have later : (group.mpsc.step (.caller id)).2.Sound depth inflightMax :=
    sound.mpsc.step sized fits _
  have step : group.mpsc.step (.caller id) = group.mpsc.finishCall id := by
    simp only [Mpsc.step, innerCalling]
  obtain ⟨token, finished, tracked⟩ :=
    (sound.tracked id).store (sound.mpsc id).rings sized calling
  have result : (group.mpsc.lanes id).finishCall =
      (some token, (group.mpsc.lanes id).finishCall.2) := by
    rw [← finished]
  unfold FluxGroup.advance
  rw [step, Mpsc.finishCall, result] at later
  simp only [calling, step, Mpsc.finishCall]
  rw [result]
  exact sound.set later tracked

theorem poll {id : Nat} (polling : (group.callers id).pc = .polling) {inner : Mpsc.Action Req Resp}
    (step : group.mpsc.step inner = group.mpsc.recvResponse id)
    (action : (if (group.mpsc.callers id).pc = .idle then Mpsc.Action.tryRecvResponse id
      else .caller id) = inner) :
    Sound depth inflightMax (group.advance id) := by
  have later := sound.mpsc.recvResponse sized id
  have tracked := sound.tracked id
  unfold FluxGroup.advance
  simp only [polling, action, step]
  rcases group.mpsc.recvResponse_cases id with
    ⟨_, response, lane, received, result⟩ | ⟨lane, busy, result⟩ | result
  · rw [result] at later ⊢
    exact sound.set later (tracked.respond (sound.mpsc id).rings sized polling received)
  · rw [result] at later ⊢
    have same := sound.set later (tracked.busy polling busy)
    rwa [setCaller, update_eq_self] at same
  · rw [result] at later ⊢
    exact sound.stop later

theorem advance
    (fits : inflightMax ≤ depth) (id : Nat) : Sound depth inflightMax (group.advance id) := by
  cases pc : (group.callers id).pc with
  | idle =>
    simp only [FluxGroup.advance, pc]
    exact sound
  | calling userData => exact sound.finishCall sized fits pc
  | polling =>
    by_cases idle : (group.mpsc.callers id).pc = .idle
    · by_cases known : id < group.mpsc.server.numCallers
      · refine sound.poll sized pc ?_ (if_pos idle)
        simp only [Mpsc.step, known, idle, and_self, if_true]
      · have nothing : group.mpsc.step (.tryRecvResponse id) = (none, group.mpsc) := by
          simp only [Mpsc.step, known, false_and, if_false]
        simp only [FluxGroup.advance, pc, if_pos idle, nothing]
        exact sound
    · refine sound.poll sized pc ?_ (if_neg idle)
      cases inner : (group.mpsc.callers id).pc with
      | idle => exact absurd inner idle
      | calling => exact absurd inner ((sound.tracked id).polling pc)
      | receiving => simp only [Mpsc.step, inner]

/-- Calls that find their slots vacant keep every user data with its request. -/
theorem step
    (fits : inflightMax ≤ depth) {action : Action Req Resp U} (vacant : group.SlotVacant action) :
    Sound depth inflightMax (group.step action) := by
  cases action with
  | call id req userData =>
    unfold FluxGroup.step
    dsimp only
    split
    · rename_i ready
      exact sound.startCall sized fits ready.1 ready.2 vacant
    · exact sound
  | poll id =>
    unfold FluxGroup.step
    dsimp only
    split
    · rename_i ready
      exact sound.startPoll ready.2
    · exact sound
  | caller id => exact sound.advance sized fits id
  | tryRecv => exact sound.served sized fits rfl
  | reply id index resp => exact sound.served sized fits rfl
  | server => exact sound.served sized fits rfl

end Sound

/-- If each call finds the user data of its slot taken out, every response is paired with that of
its call, once. -/
theorem responses_paired_with_calls {capacity inflightMax : Nat} (sized : Spsc.IsDepth capacity)
    (fits : inflightMax < capacity) (n : Nat) {actions : List (Action Req Resp U)}
    (vacant : Along step SlotVacant (create Req Resp U n capacity inflightMax) actions) (id : Nat) :
    let group := run step (create Req Resp U n capacity inflightMax) actions
    let lane := group.mpsc.lanes id
    let caller := group.callers id
    lane.responses.received <+: lane.responses.sent ∧ lane.answered.Nodup ∧
      caller.calls.length = lane.requests.sent.length ∧
      caller.polled.length = lane.responses.received.length ∧
      ∀ (index : Nat) (response : Response Resp), lane.responses.received[index]? = some response →
          ∃ number userData, lane.answered[index]? = some number ∧
            caller.calls[number]? = some userData ∧
            caller.polled[index]? = some (some userData, response.data) := by
  intro group lane caller
  have sound : Sound capacity inflightMax group :=
    run_invariant (fun _ _ sound vacant => sound.step sized (Nat.le_of_lt fits) vacant)
      (.create Req Resp U n inflightMax sized) vacant
  have rings := (sound.mpsc id).rings
  have labelled := (sound.tracked id).labelled
  refine ⟨rings.responses.received, rings.exchange.nodup, labelled.length, labelled.polled, ?_⟩
  intro index response received
  obtain ⟨number, userData, answered, call⟩ := labelled.call_of_response rings received
  refine ⟨number, userData, answered, call, ?_⟩
  rw [labelled.pairs index number response answered received, call]

/-- Three calls of which the second and the third are answered and polled. -/
def twoOfThree : List (Action Nat Nat Nat) :=
  [.call 0 0 10, .caller 0, .call 0 1 11, .caller 0, .call 0 2 12, .caller 0,
    .tryRecv, .server, .server, .tryRecv, .server, .server, .tryRecv, .server, .server,
    .reply 0 1 101, .server, .reply 0 1 102, .server,
    .poll 0, .caller 0, .caller 0, .caller 0, .caller 0, .caller 0]

theorem responses_paired_with_calls_twoOfThree :
    let group := run step (create Nat Nat Nat 2 4 3) twoOfThree
    (group.mpsc.lanes 0).answered = [1, 2] ∧
      (group.callers 0).polled = [(some 11, 101), (some 12, 102)] ∧
      (group.mpsc.lanes 0).answered.Nodup := by
  intro group
  have vacant : Along step SlotVacant (create Nat Nat Nat 2 4 3) twoOfThree := by decide +kernel
  have sized : Spsc.IsDepth 4 := ⟨⟨2, rfl⟩, by decide⟩
  exact ⟨by decide +kernel, by decide +kernel,
    (responses_paired_with_calls sized (by decide) 2 vacant 0).2.1⟩

/-- Two more calls; then the first and the fifth are answered and polled. -/
def twoMore : List (Action Nat Nat Nat) :=
  [.call 0 3 13, .caller 0, .call 0 4 14, .caller 0,
    .tryRecv, .server, .server, .tryRecv, .server, .server,
    .reply 0 0 100, .server, .reply 0 1 104, .server,
    .poll 0, .caller 0, .caller 0, .caller 0, .caller 0, .caller 0]

/-- The fifth call takes the slot of the first, whose response gets its user data. -/
theorem fifth_call_takes_user_data_of_first :
    let group := run step (create Nat Nat Nat 2 4 3) (twoOfThree ++ twoMore)
    (group.callers 0).calls = [10, 11, 12, 13, 14] ∧ (group.mpsc.lanes 0).answered = [1, 2, 0, 4] ∧
      (group.callers 0).polled = [(some 11, 101), (some 12, 102), (some 14, 100), (none, 104)] := by
  intro group
  exact ⟨by decide +kernel, by decide +kernel, by decide +kernel⟩

end FluxGroup

end Locasta.Mempc
