import Locasta.Copyrpc.Dc.System
import Locasta.Mlx5.DciQueue
import Mathlib.Algebra.Order.BigOperators.Group.List

namespace Locasta.Copyrpc.Dc

open Data Mlx5

/-! The send queue that the endpoints of a DC context share.

Each endpoint counts its own unsignaled WRITEs and signals every eighth, while the queue frees space
only when some signaled WRITE completes.
-/

structure SendRegion where
  addr : Nat
  lkey : Nat

structure SendEndpoint (U : Type) where
  inner : EndpointInner U
  sendRingMr : SendRegion

/-- A refused emission: the queue, the completions reported, and the WRITEs counted as unsignaled.
-/
structure Refusal where
  dci : SendQueueState UInt32
  reported : Nat
  unsignaled : Nat

/-- The endpoint with the id `n + 1` is at `n`; `sendCq` holds the completions not polled yet. -/
structure SendContext (U : Type) where
  dci : SendQueueState UInt32
  sendCq : List Nat
  pendingSendCqes : Nat
  endpoints : List (SendEndpoint U)
  dirtyEndpoints : List Nat
  /-- Auxiliary: the entries of the queue that are done with for the queue and for the device, and
  the refused emissions. No operation of the context reads them. -/
  retired : Nat
  reported : Nat
  refusals : List Refusal

variable {U : Type}

def saturatingAdd (first second : Nat) : Nat := min (first + second) (2 ^ 32 - 1)

/-- How a queue with `available` free blocks answers the next emissions. -/
def dciAnswers (available : Nat) : Nat → List Bool
  | 0 => []
  | attempts + 1 =>
    decide (available < SendQueueState.dciWqebbCnt) ::
      dciAnswers (available - SendQueueState.dciWqebbCnt) attempts

theorem dciAnswers_length (available attempts : Nat) :
    (dciAnswers available attempts).length = attempts := by
  induction attempts generalizing available with
  | zero => rfl
  | succ attempts ih => rw [dciAnswers, List.length_cons, ih]

namespace SendEndpoint

def writeParams (endpoint : SendEndpoint U) (write : WriteImm) : DciWriteImmParams where
  av := { dcKey := write.av.dcKey, dctn := write.av.dctn, dlid := write.av.dlid }
  flags := 0
  rdma := { remoteAddr := write.remoteAddr, rkey := write.rkey }
  sge := {
    addr := endpoint.sendRingMr.addr + maskOffset write.start endpoint.inner.sendRingLen
    len := asU32 (write.stop - write.start)
    lkey := endpoint.sendRingMr.lkey }
  imm := write.imm.toNat

def wqeEntry (endpoint : SendEndpoint U) (write : WriteImm) : Option UInt32 :=
  if write.signaled then some endpoint.inner.endpointId else none

def emitAll (endpoint : SendEndpoint U) (dci : SendQueueState UInt32) (writes : List WriteImm) :
    SendQueueState UInt32 :=
  writes.foldl (fun dci write =>
    (dci.emitDciWriteImm (endpoint.writeParams write) (endpoint.wqeEntry write)).2) dci

end SendEndpoint

namespace SendContext

def build (wqeCnt sqn : Nat) (buf : Memory) : SendContext U where
  dci := .new wqeCnt sqn buf
  sendCq := []
  pendingSendCqes := 0
  endpoints := []
  dirtyEndpoints := []
  retired := 0
  reported := 0
  refusals := []

def endpoint (context : SendContext U) : Nat → Option (SendEndpoint U)
  | 0 => none
  | index + 1 => context.endpoints[index]?

def pushDirty (context : SendContext U) (id : Nat) : SendContext U :=
  if id ∈ context.dirtyEndpoints then context
  else { context with dirtyEndpoints := context.dirtyEndpoints ++ [id] }

/-- The endpoint after an operation, which may have marked it dirty. -/
def update (context : SendContext U) (id : Nat) (endpoint : SendEndpoint U) : SendContext U :=
  let context := { context with endpoints := context.endpoints.set (id - 1) endpoint }
  if endpoint.inner.isDirty then context.pushDirty id else context

def createEndpoint (context : SendContext U) (config : EndpointConfig) (recvRingMr : MemoryRegion)
    (sendRingMr : SendRegion) : SendContext U :=
  let id := context.endpoints.length + 1
  { context with
    endpoints := context.endpoints ++
      [{ inner := .new config recvRingMr (UInt32.ofNat id), sendRingMr }] }

def unsignaledTotal (context : SendContext U) : Nat :=
  (context.endpoints.map (·.inner.unsignaledCount)).sum

def refusal (context : SendContext U) : Refusal where
  dci := context.dci
  reported := context.reported
  unsignaled := context.unsignaledTotal

/-- The endpoint, taken from the dirty list, with the answers of the context's queue. -/
def offer (context : SendContext U) (endpoint : SendEndpoint U) (attempts : Nat) :
    EndpointInner U :=
  { endpoint.inner.offer (dciAnswers context.dci.available attempts) with isDirty := false }

/-- The context once the endpoint is `inner` and its new WRITEs are on the queue. -/
def absorb (context : SendContext U) (id : Nat) (endpoint : SendEndpoint U)
    (inner : EndpointInner U) : SendContext U :=
  { context with
    dci := endpoint.emitAll context.dci
      (inner.dci.posted.drop endpoint.inner.dci.posted.length)
    endpoints := context.endpoints.set (id - 1)
      { endpoint with inner := { inner with newlySignaledCount := 0 } } }

/-- `emit_pending`, whose emissions, at most two, go to the queue of the context. -/
def emitPending (context : SendContext U) (id : Nat) (endpoint : SendEndpoint U) :
    Except Error Bool × EndpointInner U × SendContext U :=
  let attempts := 2
  let (result, inner) := (context.offer endpoint attempts).emitPending
  let accepted := inner.dci.posted.length - endpoint.inner.dci.posted.length
  let context := context.absorb id endpoint inner
  (result, inner,
    if inner.dci.answers.length + accepted < attempts then
      { context with refusals := context.refusals ++ [context.refusal] }
    else context)

/-- One turn of the loop in `flush_endpoints`, and whether the loop goes on. -/
def flushTurn (context : SendContext U) (newlySignaled id : Nat) : Bool × Nat × SendContext U :=
  match context.endpoint id with
  | none => (true, newlySignaled, context)
  | some endpoint =>
    let (result, inner, context) := context.emitPending id endpoint
    let newlySignaled := saturatingAdd newlySignaled inner.newlySignaledCount
    match result with
    | .ok _ =>
      (true, newlySignaled, if inner.hasPendingFlush then context.pushDirty id else context)
    | .error .ringFull => (false, newlySignaled, context.pushDirty id)
    | .error _ => (true, newlySignaled, context)

def flushLoop : Nat → Nat → SendContext U → Nat × SendContext U
  | 0, newlySignaled, context => (newlySignaled, context)
  | fuel + 1, newlySignaled, context =>
    match context.dirtyEndpoints with
    | [] => (newlySignaled, context)
    | id :: rest =>
      match flushTurn { context with dirtyEndpoints := rest } newlySignaled id with
      | (true, newlySignaled, context) => flushLoop fuel newlySignaled context
      | (false, result) => result

/-- The send CQ is drained when a completion may be pending. -/
def pollSendCq (context : SendContext U) : SendContext U :=
  if 0 < context.pendingSendCqes then
    { context with
      dci := context.dci.dispatch context.sendCq
      sendCq := []
      pendingSendCqes := context.pendingSendCqes - context.sendCq.length
      retired := context.reported }
  else context

/-- An endpoint has at most two turns: one that emits its batch, and one for the wrap behind it. -/
def flushEndpoints (context : SendContext U) : SendContext U :=
  let context := context.pollSendCq
  let (newlySignaled, context) := flushLoop (2 * context.dirtyEndpoints.length) 0 context
  { context with pendingSendCqes := saturatingAdd context.pendingSendCqes newlySignaled }

/-- The device completes the next signaled entry. -/
def complete (context : SendContext U) : SendContext U :=
  match nextSignaled (context.dci.posted.drop context.reported) with
  | none => context
  | some (count, wqe) =>
    { context with
      sendCq := context.sendCq ++ [wqe.position % 2 ^ 16]
      reported := context.reported + count }

inductive Operation (U : Type) where
  | connect (remote : RemoteEndpointInfo)
  | call (key : Nat) (data : List UInt8) (userData : U) (responseAllowance : Nat)
  | reply (handle : RecvMessage) (data : List UInt8)
  /-- Whatever the peer wrote into the receive ring is processed. -/
  | receive (recvRing : Memory)

def Operation.perform (ep : EndpointInner U) : Operation U → EndpointInner U
  | .connect remote => ep.connect remote
  | .call key data userData responseAllowance => (ep.call key data userData responseAllowance).2
  | .reply handle data => (ep.reply handle data).2
  | .receive recvRing => ({ ep with recvRing }.processCqeStatic ep.endpointId).1

inductive Action (U : Type) where
  | create (config : EndpointConfig) (recvRingMr : MemoryRegion) (sendRingMr : SendRegion)
  | perform (id : Nat) (operation : Operation U)
  | flush
  | complete

def step (context : SendContext U) : Action U → SendContext U
  | .create config recvRingMr sendRingMr => context.createEndpoint config recvRingMr sendRingMr
  | .perform id operation =>
    match context.endpoint id with
    | none => context
    | some endpoint =>
      context.update id { endpoint with inner := operation.perform endpoint.inner }
  | .flush => context.flushEndpoints
  | .complete => context.complete

end SendContext

namespace EndpointInner

variable {ep : EndpointInner U}

theorem alone_or_connected (ep : EndpointInner U) :
    (∀ ring dct, ¬ ep.Connected ring dct) ∨ ∃ ring dct, ep.Connected ring dct := by
  by_cases known : ∃ ring dct, ep.Connected ring dct
  · exact .inr known
  · exact .inl fun ring dct connected => known ⟨ring, dct, connected⟩

theorem emitBatch_unconnected (alone : ∀ ring dct, ¬ ep.Connected ring dct) (messageCount : Nat) :
    ep.emitBatch messageCount = (.error .remoteConsumerUnknown, ep) := by
  unfold emitBatch
  split
  · rename_i ring dct ringEq dctEq
    exact absurd ⟨ringEq, dctEq⟩ (alone ring dct)
  · rfl

theorem emitPending_unconnected (alone : ∀ ring dct, ¬ ep.Connected ring dct) :
    (ep.emitPending = (.ok false, ep) ∧ ep.hasPendingFlush = false) ∨
      ∃ after, (after = ep ∨ after = ep.placeWrap) ∧
        ep.emitPending = (.error .remoteConsumerUnknown, after) := by
  have failed := emitBatch_unconnected alone
  by_cases messages : 0 < ep.batchMessageCount
  · exact .inr ⟨ep, .inl rfl, by simp [emitPending, messages, failed]⟩
  · cases pending : ep.wrapPending with
    | true =>
      have placed : ∀ ring dct, ¬ ep.placeWrap.Connected ring dct :=
        fun ring dct connected => alone ring dct (connected.congr rfl rfl)
      have wrap := emitBatch_unconnected placed wrapMessageCount
      exact .inr ⟨ep.placeWrap, .inr rfl, by simp [emitPending, messages, pending, emitWrap, wrap]⟩
    | false =>
      by_cases owed : 0 < ep.lastRecvPos - ep.lastNotifiedRecvPos
      · exact .inr ⟨ep, .inl rfl, by
          simp [emitPending, messages, pending, emitCreditReturn, owed, failed]⟩
      · left
        simp [emitPending, messages, pending, emitCreditReturn, owed, hasPendingFlush]

theorem emitPending_leaves (ep : EndpointInner U) :
    ep.emitPending.2.batchMessageCount ≤ ep.batchMessageCount ∧
      (∀ emitted, ep.emitPending.1 = .ok emitted → ep.emitPending.2.hasPendingFlush = true →
        0 < ep.batchMessageCount ∧ ep.emitPending.2.batchMessageCount = 0) := by
  rcases ep.alone_or_connected with alone | ⟨ring, dct, connected⟩
  · rcases emitPending_unconnected alone with ⟨idle, nothing⟩ | ⟨after, rfl | rfl, failed⟩
    · rw [idle]
      exact ⟨Nat.le_refl _, fun _ _ pending => by simp [nothing] at pending⟩
    · rw [failed]
      exact ⟨Nat.le_refl _, nofun⟩
    · rw [failed]
      exact ⟨Nat.le_refl _, nofun⟩
  · refine emitPending_elim (motive := fun result =>
      result.2.batchMessageCount ≤ ep.batchMessageCount ∧
        ∀ emitted, result.1 = .ok emitted → result.2.hasPendingFlush = true →
          0 < ep.batchMessageCount ∧ result.2.batchMessageCount = 0) connected ?_ ?_ ?_ ?_ ?_ ?_ ?_
    · intro _ _
      exact ⟨Nat.le_refl _, nofun⟩
    · intro messages _ _
      exact ⟨Nat.zero_le _, fun _ _ _ => ⟨messages, rfl⟩⟩
    · rintro atWrap result ⟨_, ⟨empty, rfl⟩ | ⟨messages, _, rfl⟩⟩ full outcome
      · refine ⟨Nat.le_refl _, ?_⟩
        rintro emitted rfl
        simp [empty] at outcome
      · exact ⟨Nat.zero_le _, fun _ _ _ => ⟨messages, rfl⟩⟩
    · intro atWrap _ _
      exact ⟨Nat.zero_le _, fun _ _ pending => by cases pending⟩
    · intro _ _ _ _
      exact ⟨Nat.le_refl _, nofun⟩
    · intro _ unnoted _ _
      refine ⟨Nat.zero_le _, fun _ _ pending => ?_⟩
      change (ep.wrapPending || false) = true at pending
      simp [unnoted] at pending
    · intro empty unnoted
      exact ⟨Nat.le_refl _, fun _ _ pending => by simp [hasPendingFlush, empty, unnoted] at pending⟩

end EndpointInner

namespace SendContext

theorem emitPending_frame (context : SendContext U) (id : Nat) (endpoint : SendEndpoint U) :
    let inner := (context.offer endpoint 2).emitPending.2
    let after := (context.emitPending id endpoint).2.2
    after.endpoints = context.endpoints.set (id - 1)
        { endpoint with inner := { inner with newlySignaledCount := 0 } } ∧
      after.dirtyEndpoints = context.dirtyEndpoints ∧
      after.sendCq = context.sendCq ∧ after.pendingSendCqes = context.pendingSendCqes ∧
      after.retired = context.retired ∧ after.reported = context.reported := by
  dsimp only [emitPending]
  split <;> exact ⟨rfl, rfl, rfl, rfl, rfl, rfl⟩

theorem flushTurn_cases (context : SendContext U) (newlySignaled id : Nat) :
    (context.endpoint id = none ∧
        context.flushTurn newlySignaled id = (true, newlySignaled, context)) ∨
      ∃ endpoint, context.endpoint id = some endpoint ∧ ∃ goesOn marked : Bool,
        let inner := (context.offer endpoint 2).emitPending.2
        let after := (context.emitPending id endpoint).2.2
        context.flushTurn newlySignaled id =
          (goesOn, saturatingAdd newlySignaled inner.newlySignaledCount,
            if marked then after.pushDirty id else after) := by
  cases here : context.endpoint id with
  | none => exact .inl ⟨rfl, by simp only [flushTurn, here]⟩
  | some endpoint =>
    refine .inr ⟨endpoint, rfl, ?_⟩
    have result : (context.emitPending id endpoint).1 =
        (context.offer endpoint 2).emitPending.1 := rfl
    have inner : (context.emitPending id endpoint).2.1 =
        (context.offer endpoint 2).emitPending.2 := rfl
    cases outcome : (context.offer endpoint 2).emitPending.1 with
    | ok emitted =>
      refine ⟨true, (context.offer endpoint 2).emitPending.2.hasPendingFlush, ?_⟩
      simp only [flushTurn, here, result, inner, outcome]
    | error error =>
      cases error with
      | ringFull =>
        exact ⟨false, true, by simp only [flushTurn, here, result, inner, outcome, if_true]⟩
      | io | remoteConsumerUnknown =>
        refine ⟨true, false, ?_⟩
        simp only [flushTurn, here, result, inner, outcome, Bool.false_eq_true, if_false]

end SendContext

end Locasta.Copyrpc.Dc
