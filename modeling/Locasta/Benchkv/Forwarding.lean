import Locasta.Benchkv.Storage
import Locasta.Data.Custody
import Locasta.Data.Run

namespace Locasta.Benchkv

open Data

/-! Remote requests that a daemon forwards to the daemon of its node that owns the key.

Forwarded requests are numbered, and the number stands for the `RecvHandle`. -/

inductive CallOutcome where
  | accepted
  | full
  | inflightExceeded
  | disconnected
deriving DecidableEq

inductive SendError where
  | disconnected
  | full
  | invalidPeer

structure FluxCall where
  userData : Nat
  value : Request
  /-- Auxiliary: the request that the call was made for. -/
  handle : Nat

structure FluxResponse where
  userData : Nat
  value : Response
  /-- Auxiliary, as for the call. -/
  handle : Nat

structure Flux where
  id : Nat
  numNodes : Nat
  outstanding : List FluxCall

namespace Flux

def peerToCallerIndex (flux : Flux) (peer : Nat) : Option Nat :=
  if flux.numNodes ≤ peer ∨ peer = flux.id then none
  else some (if peer < flux.id then peer else peer - 1)

def call (flux : Flux) (peer : Nat) (call : FluxCall) (outcome : CallOutcome) :
    Except SendError Unit × Flux :=
  match flux.peerToCallerIndex peer with
  | none => (.error .invalidPeer, flux)
  | some _ =>
    match outcome with
    | .accepted => (.ok (), { flux with outstanding := flux.outstanding ++ [call] })
    | .full | .inflightExceeded => (.error .full, flux)
    | .disconnected => (.error .disconnected, flux)

end Flux

/-- What one turn of a reply loop meets. -/
inductive ReplyAttempt where
  | ok
  | ringFull (stopFlag : Bool)
  | failed

/-- Was the response sent? `none` as long as the loop goes on. -/
def replyLoop (copyrpc : Bool) : List ReplyAttempt → Option Bool
  | [] => none
  | .ok :: _ => some true
  | .failed :: _ => some false
  | .ringFull stopFlag :: rest =>
    if stopFlag || !copyrpc then some false else replyLoop copyrpc rest

structure Forwarding where
  numDaemons : Nat
  daemonId : Nat
  copyrpc : Bool
  store : ShardedStore
  flux : Flux
  pendingCopyrpcHandles : List (Option Nat)
  /-- The vector `free_slots`, its end first. -/
  freeSlots : List Nat
  readyFluxResponses : List FluxResponse
  /-- Auxiliary: how many requests were forwarded, what their owners answered, and what was sent. -/
  forwarded : Nat
  answers : List (Nat × Response)
  replies : List (Nat × Response)

inductive ForwardAction where
  | recv (request : Request) (outcome : CallOutcome)
  | answer (position : Nat) (response : Response)
  | send (attempts : List ReplyAttempt)
  | serve (request : Request)

namespace Forwarding

def new (keyRange numDaemons daemonId : Nat) (copyrpc : Bool) : Forwarding where
  numDaemons
  daemonId
  copyrpc
  store := ShardedStore.new keyRange numDaemons daemonId
  flux := { id := daemonId, numNodes := numDaemons, outstanding := [] }
  pendingCopyrpcHandles := []
  freeSlots := []
  readyFluxResponses := []
  forwarded := 0
  answers := []
  replies := []

/-- An index for the handle: a free one, or a new one at the end. -/
def park (daemon : Forwarding) (handle : Nat) : Nat × Forwarding :=
  match daemon.freeSlots with
  | idx :: rest =>
    (idx, { daemon with
      pendingCopyrpcHandles := daemon.pendingCopyrpcHandles.set idx (some handle)
      freeSlots := rest })
  | [] =>
    (daemon.pendingCopyrpcHandles.length, { daemon with
      pendingCopyrpcHandles := daemon.pendingCopyrpcHandles ++ [some handle] })

/-- The result of the call is ignored. -/
def forward (daemon : Forwarding) (target : Nat) (request : Request) (outcome : CallOutcome) :
    Forwarding :=
  let handle := daemon.forwarded
  let (idx, daemon) := daemon.park handle
  { daemon with
    flux := (daemon.flux.call target { userData := idx, value := request, handle } outcome).2
    forwarded := handle + 1 }

def recv (daemon : Forwarding) (request : Request) (outcome : CallOutcome) : Forwarding :=
  let target := ShardedStore.ownerOf request.key daemon.numDaemons
  if target = daemon.daemonId then { daemon with store := (handleLocal daemon.store request).1 }
  else daemon.forward target request outcome

/-- The owner answers one of the calls, and `flux.poll` takes the response. -/
def answer (daemon : Forwarding) (position : Nat) (response : Response) : Forwarding :=
  match daemon.flux.outstanding[position]? with
  | none => daemon
  | some call =>
    { daemon with
      flux := { daemon.flux with outstanding := daemon.flux.outstanding.eraseIdx position }
      readyFluxResponses := daemon.readyFluxResponses ++
        [{ userData := call.userData, value := response, handle := call.handle }]
      answers := daemon.answers ++ [(call.handle, response)] }

def recycle (daemon : Forwarding) (idx : Nat) : Forwarding :=
  { daemon with
    pendingCopyrpcHandles := daemon.pendingCopyrpcHandles.set idx none
    freeSlots := idx :: daemon.freeSlots }

/-- The next response is sent through the handle at its index. -/
def send (daemon : Forwarding) (attempts : List ReplyAttempt) : Forwarding :=
  match daemon.readyFluxResponses with
  | [] => daemon
  | ready :: rest =>
    let drained := { daemon with readyFluxResponses := rest }
    match daemon.pendingCopyrpcHandles[ready.userData]?.join with
    | none => drained
    | some handle =>
      match replyLoop daemon.copyrpc attempts with
      | none => daemon
      | some false => drained
      | some true =>
        { drained.recycle ready.userData with
          replies := daemon.replies ++ [(handle, ready.value)] }

def step (daemon : Forwarding) : ForwardAction → Forwarding
  | .recv request outcome => daemon.recv request outcome
  | .answer position response => daemon.answer position response
  | .send attempts => daemon.send attempts
  | .serve request => { daemon with store := (handleLocal daemon.store request).1 }

def waiting (daemon : Forwarding) (idx : Nat) : Option Nat :=
  daemon.pendingCopyrpcHandles[idx]?.join

/-- Indices with a call not answered yet, or a response not sent yet. -/
def inFlight (daemon : Forwarding) : List (Nat × Nat) :=
  daemon.flux.outstanding.map (fun call => (call.userData, call.handle)) ++
    daemon.readyFluxResponses.map (fun ready => (ready.userData, ready.handle))

def custody (daemon : Forwarding) : Custody Nat where
  issued := daemon.forwarded
  held := daemon.waiting
  settled := daemon.replies.map Prod.fst

/-- No call is refused, and no reply is given up. -/
def Undisturbed (daemon : Forwarding) : ForwardAction → Prop
  | .recv request outcome =>
    ShardedStore.ownerOf request.key daemon.numDaemons = daemon.daemonId ∨ outcome = .accepted
  | .send attempts => replyLoop daemon.copyrpc attempts ≠ some false
  | .answer .. | .serve _ => True

instance (daemon : Forwarding) : (action : ForwardAction) → Decidable (daemon.Undisturbed action)
  | .recv .. => inferInstanceAs (Decidable (_ ∨ _))
  | .send _ => inferInstanceAs (Decidable (_ ≠ _))
  | .answer .. | .serve _ => inferInstanceAs (Decidable True)

/-- The free list has exactly the empty entries, each once. -/
structure Recycled (handles : List (Option Nat)) (free : List Nat) : Prop where
  nodup : free.Nodup
  mem : ∀ {idx}, idx ∈ free ↔ handles[idx]? = some none

/-- The invariant of the forwarding loop. -/
structure Linked (daemon : Forwarding) : Prop where
  nodes : daemon.flux.id = daemon.daemonId ∧ daemon.flux.numNodes = daemon.numDaemons ∧
    1 < daemon.numDaemons
  recycled : Recycled daemon.pendingCopyrpcHandles daemon.freeSlots
  tracks : Tracks daemon.waiting daemon.inFlight
  custody : daemon.custody.Sound
  ready : ∀ ready ∈ daemon.readyFluxResponses, (ready.handle, ready.value) ∈ daemon.answers
  replies : daemon.replies ⊆ daemon.answers

variable {daemon : Forwarding} {handle idx : Nat}

theorem Linked.new {keyRange numDaemons daemonId : Nat} {copyrpc : Bool} (many : 1 < numDaemons) :
    (Forwarding.new keyRange numDaemons daemonId copyrpc).Linked where
  nodes := ⟨rfl, rfl, many⟩
  recycled := ⟨List.nodup_nil, by simp [Forwarding.new]⟩
  tracks := ⟨List.nodup_nil, by simp [Forwarding.new, inFlight, waiting]⟩
  custody := Custody.Sound.new
  ready := nofun
  replies := List.nil_subset _

theorem join_set {handles : List (Option Nat)} {value : Option Nat} (inside : idx < handles.length)
    (other : Nat) :
    (handles.set idx value)[other]?.join = if other = idx then value else handles[other]?.join := by
  rw [List.getElem?_set]
  by_cases same : idx = other
  · subst same
    simp [inside]
  · rw [if_neg same, if_neg (Ne.symm same)]

theorem join_snoc {handles : List (Option Nat)} {value : Option Nat} (other : Nat) :
    (handles ++ [value])[other]?.join =
      if other = handles.length then value else handles[other]?.join := by
  rw [List.getElem?_append]
  split
  · rename_i inside
    rw [if_neg (Nat.ne_of_lt inside)]
  · rename_i outside
    split
    · rename_i last
      rw [last, Nat.sub_self]
      rfl
    · rename_i different
      rw [List.getElem?_eq_none (by simp; omega), List.getElem?_eq_none (by omega)]

/-- The handle was put into a free entry. -/
structure Parked (daemon : Forwarding) (handle idx : Nat) (after : Forwarding) : Prop where
  free : daemon.waiting idx = none
  now : ∀ other, after.waiting other = if other = idx then some handle else daemon.waiting other
  recycled : Recycled after.pendingCopyrpcHandles after.freeSlots
  frame : ∃ handles free, after = { daemon with
    pendingCopyrpcHandles := handles
    freeSlots := free }

section

variable (recycled : Recycled daemon.pendingCopyrpcHandles daemon.freeSlots)
include recycled

theorem park_parked :
    Parked daemon handle (daemon.park handle).1 (daemon.park handle).2 := by
  unfold park
  cases stack : daemon.freeSlots with
  | nil =>
    have full : ∀ other : Nat, daemon.pendingCopyrpcHandles[other]? ≠ some none := by
      intro other empty
      have member := recycled.mem.mpr empty
      rw [stack] at member
      exact List.not_mem_nil member
    refine ⟨?_, fun other => join_snoc other, ⟨?_, ?_⟩, _, _, rfl⟩
    · simp [waiting]
    · exact List.nodup_nil
    · intro other
      dsimp only
      rw [List.getElem?_append]
      split
      · simp [full other]
      · simp [List.getElem?_singleton]
  | cons idx rest =>
    have empty : daemon.pendingCopyrpcHandles[idx]? = some none :=
      recycled.mem.mp (stack ▸ List.mem_cons_self)
    have inside : idx < daemon.pendingCopyrpcHandles.length :=
      (List.getElem?_eq_some_iff.mp empty).1
    have nodup := recycled.nodup
    rw [stack, List.nodup_cons] at nodup
    refine ⟨?_, join_set inside, ⟨nodup.2, ?_⟩, _, _, rfl⟩
    · simp [waiting, empty]
    · intro other
      have before := @recycled.mem other
      rw [stack, List.mem_cons] at before
      rw [List.getElem?_set]
      by_cases same : idx = other
      · subst same
        simp [nodup.1, inside]
      · rw [if_neg same, ← before]
        simp [Ne.symm same]

theorem Recycled.recycle (here : daemon.pendingCopyrpcHandles[idx]? = some (some handle)) :
    Recycled (daemon.recycle idx).pendingCopyrpcHandles (daemon.recycle idx).freeSlots where
  nodup := by
    refine List.nodup_cons.mpr ⟨?_, recycled.nodup⟩
    intro member
    rw [recycled.mem, here] at member
    cases Option.some.inj member
  mem := fun {other} => by
    have inside : idx < daemon.pendingCopyrpcHandles.length := (List.getElem?_eq_some_iff.mp here).1
    change other ∈ idx :: daemon.freeSlots ↔
      (daemon.pendingCopyrpcHandles.set idx none)[other]? = some none
    rw [List.mem_cons, recycled.mem, List.getElem?_set]
    by_cases same : idx = other
    · subst same
      simp [inside]
    · rw [if_neg same]
      simp [Ne.symm same]

end

theorem fluxCall_accepted {flux : Flux} {peer : Nat} {call : FluxCall}
    (inside : peer < flux.numNodes) (other : peer ≠ flux.id) :
    flux.call peer call .accepted =
      (.ok (), { flux with outstanding := flux.outstanding ++ [call] }) := by
  unfold Flux.call Flux.peerToCallerIndex
  rw [if_neg (by omega)]

section

variable (linked : daemon.Linked)
include linked

theorem Linked.forward {target : Nat} {request : Request}
    (inside : target < daemon.numDaemons) (other : target ≠ daemon.daemonId) :
    (daemon.forward target request .accepted).Linked := by
  have parked : Parked daemon daemon.forwarded _ _ := park_parked linked.recycled
  unfold Forwarding.forward
  dsimp only
  generalize daemon.park daemon.forwarded = result at parked ⊢
  obtain ⟨idx, after⟩ := result
  obtain ⟨free, now, recycled, handles, slots, rfl⟩ := parked
  obtain ⟨same, nodes, many⟩ := linked.nodes
  rw [fluxCall_accepted (nodes ▸ inside) (same ▸ other)]
  refine ⟨⟨same, nodes, many⟩, recycled, ?_, ?_, linked.ready, linked.replies⟩
  · refine (linked.tracks.hold free now).perm ?_
    unfold inFlight
    rw [List.map_append, List.append_assoc, List.map_singleton]
    exact List.perm_middle
  · exact linked.custody.holdNew free rfl now rfl

theorem Linked.answer {position : Nat} {response : Response} :
    (daemon.answer position response).Linked := by
  unfold Forwarding.answer
  cases here : daemon.flux.outstanding[position]? with
  | none => exact linked
  | some call =>
    refine ⟨linked.nodes, linked.recycled, linked.tracks.perm ?_, linked.custody, ?_, ?_⟩
    · have moved := (perm_eraseIdx here).map fun call => (call.userData, call.handle)
      unfold inFlight
      refine List.Perm.trans ?_ (moved.symm.append_right _)
      rw [List.map_append, ← List.append_assoc]
      exact List.perm_append_singleton _ _
    · intro ready member
      rcases List.mem_append.mp member with old | new
      · exact List.mem_append_left _ (linked.ready ready old)
      · rw [List.mem_singleton.mp new]
        exact List.mem_append_right _ (List.mem_singleton_self _)
    · exact List.subset_append_of_subset_left _ linked.replies

theorem Linked.send {attempts : List ReplyAttempt}
    (kept : replyLoop daemon.copyrpc attempts ≠ some false) : (daemon.send attempts).Linked := by
  unfold Forwarding.send
  cases queue : daemon.readyFluxResponses with
  | nil => exact linked
  | cons ready rest =>
    have member : ready ∈ daemon.readyFluxResponses := queue ▸ List.mem_cons_self
    have tracked : daemon.inFlight.Perm ((ready.userData, ready.handle) ::
        ({ daemon with readyFluxResponses := rest } : Forwarding).inFlight) := by
      unfold inFlight
      rw [queue, List.map_cons]
      exact List.perm_middle
    have tracks := linked.tracks.perm tracked.symm
    have here : daemon.waiting ready.userData = some ready.handle :=
      tracks.mem.mp List.mem_cons_self
    have held : daemon.pendingCopyrpcHandles[ready.userData]? = some (some ready.handle) :=
      Option.join_eq_some_iff.mp here
    have inside := (List.getElem?_eq_some_iff.mp held).1
    dsimp only
    rw [held, Option.join_some]
    cases loop : replyLoop daemon.copyrpc attempts with
    | none => exact linked
    | some done =>
      cases done with
      | false => exact absurd loop kept
      | true =>
        have after : ∀ other, (daemon.pendingCopyrpcHandles.set ready.userData none)[other]?.join
            = if other = ready.userData then none else daemon.waiting other :=
          join_set inside
        refine ⟨linked.nodes, linked.recycled.recycle held, tracks.release after,
          linked.custody.settle here rfl after ?_, ?_, ?_⟩
        · exact List.map_append
        · intro other later
          exact linked.ready other (queue ▸ List.mem_cons_of_mem _ later)
        · refine List.append_subset.mpr ⟨linked.replies, ?_⟩
          exact List.cons_subset.mpr ⟨linked.ready ready member, List.nil_subset _⟩

/-- If no call is refused and no reply given up, a step loses no handle. -/
theorem Linked.step {action : ForwardAction}
    (undisturbed : daemon.Undisturbed action) : (daemon.step action).Linked := by
  cases action with
  | recv request outcome =>
    unfold Forwarding.step recv
    dsimp only
    split
    · exact ⟨linked.nodes, linked.recycled, linked.tracks, linked.custody, linked.ready,
        linked.replies⟩
    · rename_i other
      rcases undisturbed with owned | rfl
      · exact absurd owned other
      · exact linked.forward (Nat.mod_lt _ (Nat.lt_of_succ_lt linked.nodes.2.2)) other
  | answer position response => exact linked.answer
  | send attempts => exact linked.send undisturbed
  | serve request =>
    exact ⟨linked.nodes, linked.recycled, linked.tracks, linked.custody, linked.ready,
      linked.replies⟩

end

/-- Every forwarded request is answered once, through its own handle, and leaves its index free. -/
theorem forwards_answered_once {keyRange numDaemons daemonId : Nat} {copyrpc : Bool}
    {actions : List ForwardAction} (many : 1 < numDaemons)
    (undisturbed : Along step Undisturbed (new keyRange numDaemons daemonId copyrpc) actions) :
    let daemon := run step (new keyRange numDaemons daemonId copyrpc) actions
    (∀ idx handle, daemon.pendingCopyrpcHandles[idx]? = some (some handle) →
      (daemon.inFlight.map Prod.fst).count idx = 1 ∧ (idx, handle) ∈ daemon.inFlight) ∧
    (daemon.freeSlots.Nodup ∧
      ∀ idx, idx ∈ daemon.freeSlots ↔ daemon.pendingCopyrpcHandles[idx]? = some none) ∧
    (∀ handle < daemon.forwarded, ((daemon.replies.map Prod.fst).count handle = 1 ∧
        ∀ idx, daemon.waiting idx ≠ some handle) ∨
      ((daemon.replies.map Prod.fst).count handle = 0 ∧ ∃ idx, daemon.waiting idx = some handle ∧
          ∀ other, daemon.waiting other = some handle → other = idx)) ∧
    daemon.replies ⊆ daemon.answers ∧
    (daemon.inFlight = [] →
      ∀ handle < daemon.forwarded, (daemon.replies.map Prod.fst).count handle = 1) := by
  have preserved (daemon : Forwarding) (action : ForwardAction) (linked : daemon.Linked)
      (undisturbed : daemon.Undisturbed action) : (daemon.step action).Linked :=
    linked.step undisturbed
  have linked := run_invariant preserved (Linked.new many) undisturbed
  refine ⟨?_, ⟨linked.recycled.nodup, fun _ => linked.recycled.mem⟩,
    fun _ inside => linked.custody.once inside, linked.replies, ?_⟩
  · intro idx handle here
    have held := Option.join_eq_some_iff.mpr here
    exact ⟨linked.tracks.count held, linked.tracks.mem.mpr held⟩
  · intro quiet handle inside
    rcases linked.custody.once inside with ⟨once, _⟩ | ⟨_, idx, held, _⟩
    · exact once
    · have member := linked.tracks.mem.mpr held
      rw [quiet] at member
      cases member

theorem forwards_answered_once_reused :
    let actions : List ForwardAction :=
      [.recv (.aggPut 0 1 7) .accepted, .recv (.aggGet 0 3) .accepted, .answer 1 (.aggGetOk 0),
        .send [.ringFull false, .ok], .recv (.aggGet 0 1) .accepted, .answer 0 .aggPutOk,
        .answer 0 (.aggGetOk 7), .send [.ok], .send [.ok]]
    let daemon := run step (new 8 2 0 true) actions
    Along step Undisturbed (new 8 2 0 true) actions ∧
      daemon.pendingCopyrpcHandles = [none, none] ∧ daemon.forwarded = 3 ∧
      ∀ handle < daemon.forwarded, (daemon.replies.map Prod.fst).count handle = 1 := by
  refine ⟨by decide, by decide, by decide, ?_⟩
  exact (forwards_answered_once (by decide) (by decide)).2.2.2.2 (by decide)

/-- A refused call leaves its handle with nothing to wait for; a reply that fails drops the
response. -/
theorem forwards_lost :
    let refused := run step (new 8 2 0 true) [.recv (.aggGet 0 1) .full]
    let failed := run step (new 8 2 0 true)
      [.recv (.aggGet 0 1) .accepted, .answer 0 (.aggGetOk 0), .send [.failed]]
    (refused.pendingCopyrpcHandles = [some 0] ∧ refused.inFlight = [] ∧ refused.replies = []) ∧
      failed.pendingCopyrpcHandles = [some 0] ∧ failed.inFlight = [] ∧ failed.replies = [] ∧
      failed.freeSlots = [] := by
  decide

end Forwarding

end Locasta.Benchkv
