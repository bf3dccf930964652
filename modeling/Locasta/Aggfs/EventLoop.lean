import Locasta.Aggfs.Cluster
import Locasta.Copyrpc.Rc.PendingCalls
import Locasta.Copyrpc.Rc.System
import Locasta.Data.Custody

namespace Locasta.Aggfs

open Data Copyrpc Copyrpc.Rc Function

/-! The event loop of one daemon, and the tokens of the requests that it has taken.

A request for this daemon is answered at once; for another one the token travels with the copyrpc
call, and the response answers it.
-/

inductive PendingOp where
  | write (token pathHash chunkIndex offset len : Nat)
  | read (token : Nat)
  | create (token : Nat)
  | stat (token : Nat)
  | unlink (token : Nat)

def PendingOp.intoToken : PendingOp → Nat
  | .write token _ _ _ _ | .read token | .create token | .stat token | .unlink token => token

def extractTokenFromCallError : CallError PendingOp → Option Nat
  | .ringFull op | .insufficientCredit op => some op.intoToken
  | .other _ => none

def remoteStatResponseSize : Nat := 72

def asI32 (value : Nat) : Int :=
  if value < 2 ^ 31 then value else (value : Int) - 2 ^ 32

/-- `status` and `len` of a `RemoteResponse`; a short one counts as failed. -/
def readRemoteResponse (data : List UInt8) : Int × Nat :=
  if 8 ≤ data.length then
    (asI32 (ofLeBytes (data.take 4)), ofLeBytes ((data.drop 4).take 4))
  else (-1, 0)

def readInodeHeader (data : List UInt8) : InodeHeader where
  mode := ofLeBytes (data.take 4)
  size := ofLeBytes ((data.drop 16).take 8)
  chunkSize := ofLeBytes ((data.drop 24).take 4)

namespace FsRequest

/-- What waits for the response of another daemon; `mkdir` and `readdir` are not forwarded. -/
def pendingOp (token : Nat) : FsRequest → Option PendingOp
  | .write pathHash chunkIndex offset len => some (.write token pathHash chunkIndex offset len)
  | .read .. => some (.read token)
  | .create .. => some (.create token)
  | .stat _ => some (.stat token)
  | .unlink _ => some (.unlink token)
  | .mkdir .. | .readdir _ => none

theorem isSome_pendingOp (request : FsRequest) (token : Nat) :
    (request.pendingOp token).isSome = request.forwarded := by
  cases request <;> rfl

/-- The other daemon reads from the memory of the client, or writes to it. -/
def needsClientMr : FsRequest → Bool
  | .write .. | .read .. => true
  | _ => false

def responseAllowance : FsRequest → Nat
  | .stat _ => remoteStatResponseSize
  | _ => 64

end FsRequest

structure EventLoop where
  topology : Topology
  myGlobalId : Nat
  daemon : Daemon
  endpoints : List (EndpointInner PendingOp)
  extraBufs : Nat → Option Memory
  clientMrs : Nat → Bool
  /-- Auxiliary: the number of requests taken from `server.recv`, and all that was sent to clients.
  -/
  taken : Nat
  replies : List (Nat × FsResponse)

namespace EventLoop

def new (topology : Topology) (myGlobalId : Nat) (daemon : Daemon)
    (endpoints : List (EndpointInner PendingOp)) : EventLoop where
  topology
  myGlobalId
  daemon
  endpoints
  extraBufs _ := none
  clientMrs _ := false
  taken := 0
  replies := []

def reply (loop : EventLoop) (token : Nat) (response : FsResponse) : EventLoop :=
  { loop with replies := loop.replies ++ [(token, response)] }

def statResponse (data : List UInt8) : FsResponse :=
  if remoteStatResponseSize ≤ data.length then
    let status := asI32 (ofLeBytes (data.take 4))
    if status = 0 then .statOk (readInodeHeader (data.drop 8))
    else if status = -2 then .notFound
    else .error status
  else .error (-1)

/-- The callback of `ctx.poll`. -/
def respond (loop : EventLoop) (op : PendingOp) (data : List UInt8) : EventLoop :=
  let (status, len) := readRemoteResponse data
  match op with
  | .write token pathHash chunkIndex offset written =>
    if status = 0 then
      { loop with
        daemon := loop.daemon.updateFileSize loop.topology loop.myGlobalId pathHash chunkIndex
          offset written }.reply token .ok
    else loop.reply token (.error status)
  | .create token | .unlink token =>
    if status = 0 then loop.reply token .ok else loop.reply token (.error status)
  | .read token =>
    if status = 0 then loop.reply token (.readOk len) else loop.reply token (.error status)
  | .stat token => loop.reply token (statResponse data)

def setEndpoint (loop : EventLoop) (idx : Nat) (ep : EndpointInner PendingOp) : EventLoop :=
  { loop with endpoints := loop.endpoints.set idx ep }

/-- A completion of endpoint `idx` and the responses that came with it. -/
def poll (loop : EventLoop) (idx : Nat) (ep : EndpointInner PendingOp) (imm : Nat) : EventLoop :=
  let (ep, events) := ep.processCqeStatic imm
  (responsesOf events).foldl (fun loop (op, data) => loop.respond op data) (loop.setEndpoint idx ep)

/-- A request that this daemon owns. `none` stands for a failed assertion of the store. -/
def serve (loop : EventLoop) (client token : Nat) (request : FsRequest) : Option EventLoop :=
  match loop.extraBufs client, request with
  | none, .write .. => some (loop.reply token .ok)
  | none, .read .. => some (loop.reply token (.error (-1)))
  | buffer, _ =>
    (loop.daemon.serve loop.topology loop.myGlobalId (buffer.getD fun _ => 0) request).map
      fun (response, area, daemon) =>
        { loop with
          daemon
          extraBufs := update loop.extraBufs client (buffer.map fun _ => area) }.reply
            token response

/-- `remote_rank_to_ep_idx` -/
def endpointOf (loop : EventLoop) (target : Nat) : Option Nat :=
  let (node, _) := globalToLocal target loop.topology.daemonsPerNode
  (loop.topology.remoteRanks (loop.myGlobalId / loop.topology.daemonsPerNode)).idxOf? node

/-- The call of a forwarded request, and what is done with its error. -/
def forward (loop : EventLoop) (idx : Nat) (ep : EndpointInner PendingOp) (key : Nat)
    (bytes : List UInt8) (op : PendingOp) (allowance : Nat) : EventLoop :=
  match ep.call key bytes op allowance with
  | (.ok _, ep) => loop.setEndpoint idx ep
  | (.error error, ep) =>
    match extractTokenFromCallError error with
    | some token => (loop.setEndpoint idx ep).reply token (.error (-11))
    | none => loop.setEndpoint idx ep

/-- One turn of the loop over `server.recv`; `bytes` is the encoded `RemoteRequest`. -/
def take (loop : EventLoop) (client : Nat) (request : FsRequest) (key : Nat) (bytes : List UInt8)
    (answers : List Bool) : Option EventLoop :=
  let token := loop.taken
  let loop := { loop with taken := loop.taken + 1 }
  let target := request.owner loop.topology
  if target = loop.myGlobalId then loop.serve client token request
  else
    match request.pendingOp token with
    | none => some (loop.reply token (.error (-38)))
    | some op =>
      match loop.endpointOf target with
      | none => some (loop.reply token (.error (-2)))
      | some idx =>
        if request.needsClientMr && !loop.clientMrs client then
          some (loop.reply token (.error (-1)))
        else
          (loop.endpoints[idx]?).map fun ep =>
            loop.forward idx (ep.offer answers) key bytes op request.responseAllowance

inductive Action where
  | poll (idx imm : Nat)
  | take (client : Nat) (request : FsRequest) (key : Nat) (bytes : List UInt8)
      (answers : List Bool)
  /-- A WRITE of the peer lands in the receive ring of an endpoint. -/
  | land (idx : Nat) (write : WriteImm)
  | flush (idx : Nat) (answers : List Bool)
  /-- A reply to another daemon, and whatever its requests do to the store. -/
  | replyRemote (idx : Nat) (answers : List Bool) (handle : RecvMessage) (data : List UInt8)
  | serveRemote (daemon : Daemon)
  /-- The buffers of clients are looked up and registered. -/
  | attach (extraBufs : Nat → Option Memory) (clientMrs : Nat → Bool)

def step (loop : EventLoop) : Action → Option EventLoop
  | .poll idx imm => (loop.endpoints[idx]?).map fun ep => loop.poll idx ep imm
  | .take client request key bytes answers => loop.take client request key bytes answers
  | .land idx write => (loop.endpoints[idx]?).map fun ep => loop.setEndpoint idx (ep.store write)
  | .flush idx answers =>
    (loop.endpoints[idx]?).map fun ep => loop.setEndpoint idx (ep.offer answers).flush.2
  | .replyRemote idx answers handle data =>
    (loop.endpoints[idx]?).map fun ep =>
      loop.setEndpoint idx ((ep.offer answers).reply handle data).2
  | .serveRemote daemon => some { loop with daemon }
  | .attach extraBufs clientMrs => some { loop with extraBufs, clientMrs }

/-- A step whose index or assertion fails does not happen. -/
def next (loop : EventLoop) (action : Action) : EventLoop := (loop.step action).getD loop

/-- The token is with a pending call. -/
def holder (loop : EventLoop) (place : Nat × Nat) : Option Nat :=
  (loop.endpoints[place.1]?).bind fun ep => (ep.pendingCalls place.2).map PendingOp.intoToken

def custody (loop : EventLoop) : Custody (Nat × Nat) where
  issued := loop.taken
  held := loop.holder
  settled := loop.replies.map Prod.fst

/-- The call fails with `CallError::Other`, which does not give the user data back. -/
def failsOther : Except (CallError PendingOp) UInt32 → Bool
  | .error (.other _) => true
  | _ => false

/-- A call gets a vacant key of the slab and does not fail with `CallError::Other`. -/
def Answerable (loop : EventLoop) : Action → Prop
  | .take _ request key bytes answers =>
    ∀ op ∈ request.pendingOp loop.taken, ∀ idx ∈ loop.endpointOf (request.owner loop.topology),
      ∀ ep ∈ loop.endpoints[idx]?, ep.pendingCalls key = none ∧
        failsOther ((ep.offer answers).call key bytes op request.responseAllowance).1 = false
  | _ => True

instance (loop : EventLoop) : (action : Action) → Decidable (loop.Answerable action)
  | .take .. => inferInstanceAs (Decidable (∀ op ∈ (_ : Option _), ∀ idx ∈ (_ : Option _),
      ∀ ep ∈ (_ : Option _), _ ∧ _))
  | .poll .. | .land .. | .flush .. | .replyRemote .. | .serveRemote _ | .attach .. => isTrue trivial

variable {loop after : EventLoop} {idx : Nat} {ep changed : EndpointInner PendingOp}

/-- The holders, when the calls of endpoint `idx` are those in `slab`. -/
def holderWith (loop : EventLoop) (idx : Nat) (slab : Slab PendingOp) (place : Nat × Nat) :
    Option Nat :=
  if place.1 = idx then (slab place.2).map PendingOp.intoToken else loop.holder place

section

variable (here : loop.endpoints[idx]? = some ep)
include here

theorem holder_setEndpoint (changed : EndpointInner PendingOp) :
    (loop.setEndpoint idx changed).holder = loop.holderWith idx changed.pendingCalls := by
  have inside := (List.getElem?_eq_some_iff.mp here).1
  funext place
  unfold holder holderWith setEndpoint
  by_cases same : idx = place.1
  · rw [if_pos same.symm, ← same, List.getElem?_set_self inside]
    rfl
  · rw [if_neg (Ne.symm same), List.getElem?_set_ne same]
    rfl

theorem holderWith_same : loop.holderWith idx ep.pendingCalls = loop.holder := by
  funext place
  unfold holderWith
  split
  · rename_i same
    rw [holder, same, here]
    rfl
  · rfl

theorem custody_setEndpoint (kept : changed.pendingCalls = ep.pendingCalls) :
    (loop.setEndpoint idx changed).custody = loop.custody := by
  unfold custody
  rw [holder_setEndpoint here, kept, holderWith_same here]
  rfl

end

/-- What was done is one reply. -/
structure Replied (loop : EventLoop) (token : Nat) (after : EventLoop) : Prop where
  taken : after.taken = loop.taken
  endpoints : after.endpoints = loop.endpoints
  replies : after.replies.map Prod.fst = loop.replies.map Prod.fst ++ [token]

theorem reply_replied (loop : EventLoop) (token : Nat) (response : FsResponse) :
    Replied loop token (loop.reply token response) :=
  ⟨rfl, rfl, by simp [reply]⟩

theorem respond_replied (loop : EventLoop) (op : PendingOp) (data : List UInt8) :
    Replied loop op.intoToken (loop.respond op data) := by
  unfold respond
  dsimp only
  split
  · split
    · exact ⟨rfl, rfl, by simp [reply, PendingOp.intoToken]⟩
    · exact reply_replied ..
  · split <;> exact reply_replied ..
  · split <;> exact reply_replied ..
  · split <;> exact reply_replied ..
  · exact reply_replied ..

variable {client token : Nat}

theorem serve_replied {request : FsRequest}
    (served : loop.serve client token request = some after) : Replied loop token after := by
  unfold serve at served
  split at served
  · cases served
    exact reply_replied ..
  · cases served
    exact reply_replied ..
  · obtain ⟨⟨response, area, daemon⟩, _, rfl⟩ := Option.map_eq_some_iff.mp served
    exact ⟨rfl, rfl, by simp [reply]⟩

theorem Replied.holder (replied : Replied loop token after) : after.holder = loop.holder := by
  funext place
  rw [EventLoop.holder, replied.endpoints, EventLoop.holder]

theorem holderWith_remove (slab : Slab PendingOp) (key : Nat) (other : Nat × Nat) :
    loop.holderWith idx (update slab key none) other =
      if other = (idx, key) then none else loop.holderWith idx slab other := by
  obtain ⟨position, entry⟩ := other
  unfold holderWith
  by_cases same : position = idx
  · by_cases taken : entry = key
    · simp [same, taken]
    · simp [same, taken]
  · simp [same]

theorem holderWith_insert (slab : Slab PendingOp) (key : Nat) (op : PendingOp) (other : Nat × Nat) :
    loop.holderWith idx (slab.insert key op) other =
      if other = (idx, key) then some op.intoToken else loop.holderWith idx slab other := by
  obtain ⟨position, entry⟩ := other
  unfold holderWith Slab.insert
  by_cases same : position = idx
  · by_cases taken : entry = key
    · simp [same, taken]
    · simp [same, taken]
  · simp [same]

/-- Each response takes its pending call out of the slab and settles its token. -/
theorem responses_sound {slab final : Slab PendingOp} {responses : List (PendingOp × List UInt8)}
    (removes : Removes slab (responses.map Prod.fst) final)
    (sound : Custody.Sound { loop.custody with held := loop.holderWith idx slab }) :
    Custody.Sound { (responses.foldl (fun loop (op, data) => loop.respond op data) loop).custody with
      held := loop.holderWith idx final } := by
  induction responses generalizing loop slab with
  | nil =>
    cases removes
    exact sound
  | cons first rest ih =>
    obtain ⟨op, data⟩ := first
    cases removes with
    | cons found later =>
      rename_i key
      have replied := respond_replied loop op data
      have same (slab : Slab PendingOp) :
          (loop.respond op data).holderWith idx slab = loop.holderWith idx slab := by
        funext place
        rw [holderWith, replied.holder, holderWith]
      have here : loop.holderWith idx slab (idx, key) = some op.intoToken := by
        simp [holderWith, found]
      have settled : Custody.Sound { (loop.respond op data).custody with
          held := (loop.respond op data).holderWith idx (update slab key none) } :=
        sound.settle here replied.taken
          (fun other => (congrFun (same _) other).trans (holderWith_remove slab key other))
          replied.replies
      have next := ih later settled
      rw [same] at next
      exact next

theorem responses_endpoints (responses : List (PendingOp × List UInt8)) (loop : EventLoop) :
    (responses.foldl (fun loop (op, data) => loop.respond op data) loop).endpoints =
      loop.endpoints := by
  induction responses generalizing loop with
  | nil => rfl
  | cons first rest ih =>
    obtain ⟨op, data⟩ := first
    exact (ih (loop.respond op data)).trans (respond_replied loop op data).endpoints

theorem poll_sound (sound : loop.custody.Sound) (here : loop.endpoints[idx]? = some ep) (imm : Nat) :
    (loop.poll idx ep imm).custody.Sound := by
  have removes := ep.processCqeStatic_removes imm
  have inside := (List.getElem?_eq_some_iff.mp here).1
  unfold poll
  cases outcome : ep.processCqeStatic imm with
  | mk changed events =>
    rw [outcome] at removes
    have moved : (loop.setEndpoint idx changed).holderWith idx = loop.holderWith idx := by
      funext slab place
      unfold holderWith
      split
      · rfl
      · rename_i other
        rw [holder_setEndpoint here, holderWith, if_neg other]
    have start : Custody.Sound { (loop.setEndpoint idx changed).custody with
        held := (loop.setEndpoint idx changed).holderWith idx ep.pendingCalls } := by
      rw [moved, holderWith_same here]
      exact sound
    have done := responses_sound removes start
    have final : (loop.setEndpoint idx changed).holderWith idx changed.pendingCalls =
        ((responsesOf events).foldl (fun loop (op, data) => loop.respond op data)
          (loop.setEndpoint idx changed)).holder := by
      rw [moved, ← holder_setEndpoint here]
      funext place
      rw [holder, holder, responses_endpoints]
    rw [final] at done
    exact done

theorem Replied.sound (replied : Replied { loop with taken := loop.taken + 1 } loop.taken after)
    (sound : loop.custody.Sound) : after.custody.Sound :=
  sound.settleNew replied.taken replied.holder replied.replies

variable {key : Nat} {op : PendingOp}

section

variable {bytes : List UInt8} {allowance : Nat} {answers : List Bool} (sound : loop.custody.Sound)
include sound

/-- The token of a call that does not fail with `Other` is with the pending call or answered. -/
theorem forward_sound (here : loop.endpoints[idx]? = some ep)
    (token : op.intoToken = loop.taken) (vacant : ep.pendingCalls key = none)
    (answered : failsOther ((ep.offer answers).call key bytes op allowance).1 = false) :
    (forward { loop with taken := loop.taken + 1 } idx (ep.offer answers) key bytes op
      allowance).custody.Sound := by
  have keeps := (ep.offer answers).call_keeps key bytes op allowance
  have there : ({ loop with taken := loop.taken + 1 } : EventLoop).endpoints[idx]? = some ep := here
  unfold forward
  cases outcome : (ep.offer answers).call key bytes op allowance with
  | mk result changed =>
    rw [outcome] at keeps answered
    have returned {given : PendingOp} (same : given = op)
        (kept : changed.pendingCalls = ep.pendingCalls) :
        ((setEndpoint { loop with taken := loop.taken + 1 } idx changed).reply given.intoToken
          (.error (-11))).custody.Sound := by
      have held : (setEndpoint { loop with taken := loop.taken + 1 } idx changed).holder =
          loop.holder := by
        rw [holder_setEndpoint there, kept]
        exact holderWith_same here
      rw [same]
      exact sound.settleNew rfl held (by simp [custody, reply, setEndpoint, token])
    cases result with
    | ok callId =>
      have free : loop.holder (idx, key) = none := by simp [holder, here, vacant]
      refine sound.holdNew free rfl ?_ rfl
      intro other
      have inserted : changed.pendingCalls = ep.pendingCalls.insert key op := keeps
      change (setEndpoint { loop with taken := loop.taken + 1 } idx changed).holder other = _
      rw [holder_setEndpoint there, inserted, holderWith_insert, token]
      exact congrArg (ite (other = (idx, key)) (some loop.taken))
        (congrFun (holderWith_same here) other)
    | error error =>
      cases error with
      | ringFull given => exact returned keeps.1 keeps.2
      | insufficientCredit given => exact returned keeps.1 keeps.2
      | other error => cases answered

/-- With `CallError::Other` the token is gone: nobody holds it, and nobody will answer. -/
theorem forward_loses (number : token = loop.taken) (here : loop.endpoints[idx]? = some ep)
    (failed : failsOther ((ep.offer answers).call key bytes op allowance).1 = true) :
    let after := forward { loop with taken := loop.taken + 1 } idx (ep.offer answers) key bytes op
      allowance
    token ∉ after.replies.map Prod.fst ∧ ∀ place, after.holder place ≠ some token := by
  subst number
  have keeps := (ep.offer answers).call_keeps key bytes op allowance
  have there : ({ loop with taken := loop.taken + 1 } : EventLoop).endpoints[idx]? = some ep := here
  unfold forward
  cases outcome : (ep.offer answers).call key bytes op allowance with
  | mk result changed =>
    rw [outcome] at keeps failed
    cases result with
    | ok callId => cases failed
    | error error =>
      cases error with
      | ringFull given | insufficientCredit given => cases failed
      | other error =>
        refine ⟨sound.fresh, fun place => ?_⟩
        have kept : changed.pendingCalls = ep.pendingCalls := keeps
        change (setEndpoint { loop with taken := loop.taken + 1 } idx changed).holder place ≠ _
        rw [holder_setEndpoint there, kept]
        change loop.holderWith idx ep.pendingCalls place ≠ _
        rw [holderWith_same here]
        exact sound.fresh_held

end

theorem pendingOp_token {request : FsRequest}
    (pending : request.pendingOp token = some op) : op.intoToken = token := by
  cases request <;> cases pending <;> rfl

theorem take_forward {request : FsRequest} {bytes : List UInt8}
    {answers : List Bool} (remote : request.owner loop.topology ≠ loop.myGlobalId)
    (pending : request.pendingOp loop.taken = some op)
    (target : loop.endpointOf (request.owner loop.topology) = some idx)
    (registered : (request.needsClientMr && !loop.clientMrs client) = false)
    (here : loop.endpoints[idx]? = some ep) :
    loop.take client request key bytes answers =
      some (forward { loop with taken := loop.taken + 1 } idx (ep.offer answers) key bytes op
        request.responseAllowance) := by
  have found : endpointOf { loop with taken := loop.taken + 1 } (request.owner loop.topology) =
      some idx := target
  simp only [take, if_neg remote, pending, found, registered, Bool.false_eq_true, if_false, here,
    Option.map_some]

theorem take_sound {request : FsRequest} {bytes : List UInt8}
    {answers : List Bool} (sound : loop.custody.Sound)
    (answerable : loop.Answerable (.take client request key bytes answers))
    (taken : loop.take client request key bytes answers = some after) : after.custody.Sound := by
  unfold take at taken
  dsimp only at taken
  split at taken
  · exact (serve_replied taken).sound sound
  · split at taken
    · cases taken
      exact (reply_replied ..).sound sound
    · rename_i op pending
      split at taken
      · cases taken
        exact (reply_replied ..).sound sound
      · rename_i idx target
        split at taken
        · cases taken
          exact (reply_replied ..).sound sound
        · obtain ⟨ep, here, rfl⟩ := Option.map_eq_some_iff.mp taken
          obtain ⟨vacant, answered⟩ := answerable op pending idx target ep here
          exact forward_sound sound here (pendingOp_token pending) vacant answered

/-- One turn of the event loop loses no token and answers none twice. -/
theorem next_sound (sound : loop.custody.Sound) {action : Action}
    (answerable : loop.Answerable action) :
    (loop.next action).custody.Sound := by
  unfold next
  cases result : loop.step action with
  | none => exact sound
  | some after =>
    have framed (idx : Nat) (change : EndpointInner PendingOp → EndpointInner PendingOp)
        (kept : ∀ ep, (change ep).pendingCalls = ep.pendingCalls)
        (changed : (loop.endpoints[idx]?).map (fun ep => loop.setEndpoint idx (change ep)) =
          some after) : after.custody.Sound := by
      obtain ⟨ep, here, rfl⟩ := Option.map_eq_some_iff.mp changed
      rw [custody_setEndpoint here (kept ep)]
      exact sound
    cases action with
    | poll idx imm =>
      obtain ⟨ep, here, rfl⟩ := Option.map_eq_some_iff.mp result
      exact poll_sound sound here imm
    | take client request key bytes answers => exact take_sound sound answerable result
    | land idx write => exact framed idx (·.store write) (fun _ => rfl) result
    | flush idx answers =>
      exact framed idx (fun ep => (ep.offer answers).flush.2)
        (fun ep => (ep.offer answers).flush_pendingCalls) result
    | replyRemote idx answers handle data =>
      exact framed idx (fun ep => ((ep.offer answers).reply handle data).2)
        (fun ep => (ep.offer answers).reply_pendingCalls handle data) result
    | serveRemote daemon =>
      cases result
      exact sound
    | attach extraBufs clientMrs =>
      cases result
      exact sound

theorem new_sound {topology : Topology} {myGlobalId : Nat} {daemon : Daemon}
    {endpoints : List (EndpointInner PendingOp)}
    (idle : ∀ ep ∈ endpoints, ep.pendingCalls = Slab.new) :
    (new topology myGlobalId daemon endpoints).custody.Sound := by
  have empty : (new topology myGlobalId daemon endpoints).holder = fun _ => none := by
    funext place
    unfold holder
    cases here : (new topology myGlobalId daemon endpoints).endpoints[place.1]? with
    | none => rfl
    | some ep =>
      have none := idle ep (List.mem_of_getElem? here)
      simp [none, Slab.new]
  unfold custody
  rw [empty]
  exact Custody.Sound.new

/-- A request that was taken has one response or one pending call, and not both. -/
theorem requests_answered_once {topology : Topology} {myGlobalId : Nat} {daemon : Daemon}
    {endpoints : List (EndpointInner PendingOp)} {actions : List Action}
    (idle : ∀ ep ∈ endpoints, ep.pendingCalls = Slab.new)
    (answerable : Along next Answerable (new topology myGlobalId daemon endpoints) actions) :
    let loop := run next (new topology myGlobalId daemon endpoints) actions
    ∀ token < loop.taken,
      ((loop.replies.map Prod.fst).count token = 1 ∧ ∀ place, loop.holder place ≠ some token) ∨
      ((loop.replies.map Prod.fst).count token = 0 ∧ ∃ place, loop.holder place = some token ∧
          ∀ other, loop.holder other = some token → other = place) := by
  have preserved (loop : EventLoop) (action : Action) (sound : loop.custody.Sound)
      (answerable : loop.Answerable action) : (loop.next action).custody.Sound :=
    next_sound sound answerable
  have sound := run_invariant preserved (new_sound idle) answerable
  intro loop token inside
  exact sound.once inside

/-! The same turn in a cluster, which has no endpoints: a request that is sent there is a copyrpc call
here. -/

/-- The loop is that of the daemon of `client`, whose memory it has looked up. -/
structure Represents (loop : EventLoop) (cluster : Cluster) (client : Nat) : Prop where
  topology : loop.topology = cluster.topology
  myGlobalId : loop.myGlobalId = cluster.attached client
  daemon : loop.daemon = cluster.daemons loop.myGlobalId
  extraBuf : loop.extraBufs client = some (cluster.areas client)
  clientMr : loop.clientMrs client = true

theorem isSome_endpointOf {target : Nat} :
    (loop.endpointOf target).isSome = (loop.topology.forward loop.myGlobalId target).isSome := by
  unfold endpointOf Topology.forward
  dsimp only
  split <;> simp [*, List.isSome_idxOf?]

theorem take_simulates_dispatch {cluster later : Cluster} {client key : Nat} {call : Call}
    {bytes : List UInt8} {answers : List Bool} (represents : loop.Represents cluster client)
    (dispatched : cluster.dispatch client call = some later) :
    (∃ response after, loop.take client call.request key bytes answers = some after ∧
      after.replies = loop.replies ++ [(loop.taken, response)] ∧
      later.log = cluster.log ++ [(call.request, response)] ∧ after.Represents later client) ∨
    ∃ executor op idx, later = cluster.setCall client (some { call with phase := .sent executor }) ∧
      call.request.pendingOp loop.taken = some op ∧
      loop.endpointOf (call.request.owner loop.topology) = some idx ∧
      loop.take client call.request key bytes answers = (loop.endpoints[idx]?).map fun ep =>
        forward { loop with taken := loop.taken + 1 } idx (ep.offer answers) key bytes op
          call.request.responseAllowance := by
  obtain ⟨topology, self, daemon, buffer, registered⟩ := represents
  unfold Cluster.dispatch at dispatched
  unfold take
  rw [← self, ← topology] at dispatched
  dsimp only at dispatched ⊢
  by_cases mine : call.request.owner loop.topology = loop.myGlobalId
  · rw [if_pos mine, ← daemon] at dispatched
    obtain ⟨⟨response, area, served⟩, serves, rfl⟩ := Option.map_eq_some_iff.mp dispatched
    refine .inl ⟨response, ?_⟩
    simp only [if_pos mine, serve, buffer]
    simp [serves, reply, Cluster.answer, Cluster.setArea, Cluster.setDaemon, Cluster.setCall]
    constructor <;> simp [*]
  · rw [if_neg mine] at dispatched ⊢
    have refused (code : Int) : ({ loop with taken := loop.taken + 1 }.reply loop.taken
        (.error code)).Represents (cluster.answer client call (.error code)) client :=
      ⟨topology, self, daemon, buffer, registered⟩
    have kind := call.request.isSome_pendingOp loop.taken
    have ends : (endpointOf { loop with taken := loop.taken + 1 } (call.request.owner
        loop.topology)).isSome = (loop.topology.forward loop.myGlobalId _).isSome := isSome_endpointOf
    cases pending : call.request.pendingOp loop.taken with
    | none =>
      simp only [← kind, pending, Option.isSome_none, Bool.false_eq_true, if_false] at dispatched
      cases dispatched
      exact .inl ⟨.error (-38), _, rfl, rfl, rfl, refused _⟩
    | some op =>
      simp only [← kind, pending, Option.isSome_some, if_true] at dispatched
      cases sent : loop.topology.forward loop.myGlobalId (call.request.owner loop.topology) with
      | none =>
        rw [sent] at dispatched ends
        cases dispatched
        rw [Option.isNone_iff_eq_none.mp (Option.isSome_eq_false_iff.mp ends)]
        exact .inl ⟨.error (-2), _, rfl, rfl, rfl, refused _⟩
      | some executor =>
        rw [sent] at dispatched ends
        cases dispatched
        obtain ⟨idx, found⟩ := Option.isSome_iff_exists.mp ends
        refine .inr ⟨executor, op, idx, rfl, rfl, found, ?_⟩
        rw [found]
        simp [registered]

/-- Rings of 512 bytes, and credit for one response. -/
def oneCredit : EndpointInner PendingOp :=
  (EndpointInner.new (U := PendingOp) (twoCalls .b) { addr := 0, rkey := 0 }).connect
    { recvRingAddr := 0, recvRingRkey := 0, recvRingSize := 512, initialCredit := 128 }

def firstDaemon : EventLoop := new .twoNodes 0 (.new (.new (fun _ => 0) 0 0)) [oneCredit]

/-- Two clients unlink a file of the other daemon; the second call flushes the first one. -/
def twoUnlinks (answers : List Bool) : List Action :=
  [.take 0 (.unlink 1) 0 (List.replicate 40 0) [],
    .take 1 (.unlink 1) 1 (List.replicate 40 0) answers]

theorem requests_answered_once_twoUnlinks :
    let loop := run next firstDaemon (twoUnlinks [])
    loop.taken = 2 ∧ (loop.replies.map Prod.fst).count 0 = 0 ∧
      (∃ place, loop.holder place = some 0) ∧ loop.replies = [(1, .error (-11))] := by
  have answerable : Along next Answerable firstDaemon (twoUnlinks []) := by decide +kernel
  have idle : ∀ ep ∈ [oneCredit], ep.pendingCalls = Slab.new := by
    intro ep member
    rw [List.mem_singleton.mp member]
    rfl
  have once := requests_answered_once idle answerable
  have first := once 0 (by decide +kernel)
  refine ⟨by decide +kernel, by decide +kernel, ?_, by decide +kernel⟩
  rcases first with ⟨replied, _⟩ | ⟨_, place, held, _⟩
  · exact absurd replied (by decide +kernel)
  · exact ⟨place, held⟩

/-- The flush is refused: the second request has no response and no pending call. -/
theorem request_never_answered :
    let loop := run next firstDaemon (twoUnlinks [true])
    loop.taken = 2 ∧ (loop.replies.map Prod.fst).count 1 = 0 ∧
      ∀ place, loop.holder place ≠ some 1 := by
  let first := firstDaemon.next (.take 0 (.unlink 1) 0 (List.replicate 40 0) [])
  have idle : ∀ ep ∈ [oneCredit], ep.pendingCalls = Slab.new := by
    intro ep member
    rw [List.mem_singleton.mp member]
    rfl
  have sound : first.custody.Sound := next_sound (new_sound idle) (by decide +kernel)
  have failing : ∀ ep ∈ first.endpoints[0]?, failsOther
      ((ep.offer [true]).call 1 (List.replicate 40 0) (.unlink 1) 64).1 = true := by decide +kernel
  have present : (first.endpoints[0]?).isSome = true := by decide +kernel
  obtain ⟨ep, here⟩ := Option.isSome_iff_exists.mp present
  have taken : first.taken = 1 := by decide +kernel
  have forwarded : first.take 1 (.unlink 1) 1 (List.replicate 40 0) [true] = some _ :=
    take_forward (by decide +kernel) (by rw [taken]; rfl) (by decide +kernel) (by decide +kernel) here
  obtain ⟨unanswered, unheld⟩ := forward_loses sound taken.symm here (failing ep here)
  have last : run next firstDaemon (twoUnlinks [true]) = _ :=
    congrArg (Option.getD · first) forwarded
  intro loop
  refine ⟨by decide +kernel, ?_, ?_⟩
  · change ((run next firstDaemon (twoUnlinks [true])).replies.map Prod.fst).count 1 = 0
    rw [last]
    exact List.count_eq_zero.mpr unanswered
  · change ∀ place, (run next firstDaemon (twoUnlinks [true])).holder place ≠ some 1
    rw [last]
    exact unheld

end EventLoop

end Locasta.Aggfs
