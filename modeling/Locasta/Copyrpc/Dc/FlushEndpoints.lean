import Locasta.Copyrpc.Dc.DirtyList
import Locasta.Copyrpc.Dc.SharedQueue

namespace Locasta.Copyrpc.Dc

open Data Function

/-! `flush_endpoints` against a send queue that may refuse any emission.

The queue of `SharedQueue` refuses when it is full; here its answers are arbitrary, and the dirty
list is the linked one. -/

/-- The fields of `Context` that `flush_endpoints` uses; `sendCq` counts pending completions. -/
structure FlushContext (U : Type) where
  endpoints : Nat → Option (EndpointInner U)
  dirtyEndpoints : DirtyEndpointList
  dci : SendQueue WriteImm
  sendCq : Nat
  pendingSendCqes : Nat
  /-- Auxiliary: how often the doorbell was rung. -/
  doorbells : Nat

/-- The context inside the loop, with the loop's variables. -/
structure Flushing (U : Type) where
  context : FlushContext U
  emitted : Bool
  newlySignaled : Nat

variable {U : Type}

namespace EndpointInner

variable {ep : EndpointInner U}

theorem emitPending_reports (ep : EndpointInner U) :
    ep.emitPending.1 = .ok true ∨ ep.emitPending.2.dci.posted = ep.dci.posted := by
  rcases ep.alone_or_connected with alone | ⟨ring, dct, connected⟩
  · rcases emitPending_unconnected alone with ⟨idle, _⟩ | ⟨after, rfl | rfl, failed⟩
    · rw [idle]
      exact .inr rfl
    · rw [failed]
      exact .inr rfl
    · rw [failed]
      exact .inr rfl
  · refine emitPending_elim (motive := fun result =>
      result.1 = .ok true ∨ result.2.dci.posted = ep.dci.posted) connected ?_ ?_ ?_ ?_ ?_ ?_ ?_
    · intro _ _
      exact .inr rfl
    · intro _ _ _
      exact .inl rfl
    · rintro atWrap result ⟨_, ⟨_, rfl⟩ | ⟨messages, _, rfl⟩⟩ full outcome
      · exact .inr rfl
      · rcases outcome with ⟨rfl, _⟩ | ⟨_, empty⟩
        · exact .inl rfl
        · exact absurd messages (by simp [empty])
    · intro _ _ _
      exact .inl rfl
    · intro _ _ _ _
      exact .inr rfl
    · intro _ _ _ _
      exact .inl rfl
    · intro _ _
      exact .inr rfl

theorem emitPending_peer (ep : EndpointInner U) :
    ep.emitPending.2.remoteRecvRing = ep.remoteRecvRing ∧
      ep.emitPending.2.remoteDct = ep.remoteDct := by
  rcases ep.alone_or_connected with alone | ⟨ring, dct, connected⟩
  · rcases emitPending_unconnected alone with ⟨idle, _⟩ | ⟨after, rfl | rfl, failed⟩
    · rw [idle]
      exact ⟨rfl, rfl⟩
    · rw [failed]
      exact ⟨rfl, rfl⟩
    · rw [failed]
      exact ⟨rfl, rfl⟩
  · have atWrap {wrapping : EndpointInner U} (wraps : WrapsFrom ring dct ep wrapping) :
        wrapping.remoteRecvRing = ep.remoteRecvRing ∧ wrapping.remoteDct = ep.remoteDct := by
      obtain ⟨_, ⟨_, rfl⟩ | ⟨_, _, rfl⟩⟩ := wraps <;> exact ⟨rfl, rfl⟩
    refine emitPending_elim (motive := fun result =>
      result.2.remoteRecvRing = ep.remoteRecvRing ∧ result.2.remoteDct = ep.remoteDct)
      connected ?_ ?_ ?_ ?_ ?_ ?_ ?_
    · exact fun _ _ => ⟨rfl, rfl⟩
    · exact fun _ _ _ => ⟨rfl, rfl⟩
    · intro wrapping _ wraps _ _
      exact @atWrap wrapping wraps
    · intro wrapping wraps _
      exact @atWrap wrapping wraps
    · exact fun _ _ _ _ => ⟨rfl, rfl⟩
    · exact fun _ _ _ _ => ⟨rfl, rfl⟩
    · exact fun _ _ => ⟨rfl, rfl⟩

/-- The peer is known where there is work. -/
def Reachable (ep : EndpointInner U) : Prop :=
  ep.hasPendingFlush = true → ∃ ring dct, ep.Connected ring dct

theorem Reachable.congr {other : EndpointInner U} (reachable : ep.Reachable)
    (ring : other.remoteRecvRing = ep.remoteRecvRing) (dct : other.remoteDct = ep.remoteDct)
    (wrap : other.wrapPending = ep.wrapPending)
    (count : other.batchMessageCount = ep.batchMessageCount) : other.Reachable := by
  intro pending
  rw [hasPendingFlush, wrap, count] at pending
  obtain ⟨peer, target, connected⟩ := reachable pending
  exact ⟨peer, target, connected.congr ring dct⟩

theorem Reachable.idle (reachable : ep.Reachable) (alone : ∀ ring dct, ¬ ep.Connected ring dct) :
    ep.hasPendingFlush = false := by
  rw [Bool.eq_false_iff]
  intro pending
  obtain ⟨ring, dct, connected⟩ := reachable pending
  exact alone ring dct connected

theorem Reachable.emitPending (reachable : ep.Reachable) : ep.emitPending.2.Reachable := by
  rcases ep.alone_or_connected with alone | ⟨ring, dct, connected⟩
  · rcases emitPending_unconnected alone with ⟨idle, _⟩ | ⟨after, rfl | rfl, failed⟩
    · rw [idle]
      exact reachable
    · rw [failed]
      exact reachable
    · rw [failed]
      exact reachable.congr rfl rfl rfl rfl
  · obtain ⟨sameRing, sameDct⟩ := ep.emitPending_peer
    exact fun _ => ⟨ring, dct, connected.congr sameRing sameDct⟩

theorem emitPending_error (reachable : ep.Reachable) {error : Error}
    (failed : ep.emitPending.1 = .error error) (other : error ≠ .ringFull) :
    ep.emitPending.2.hasPendingFlush = false := by
  rcases ep.alone_or_connected with alone | ⟨ring, dct, connected⟩
  · have nothing := reachable.idle alone
    rcases emitPending_unconnected alone with ⟨idle, _⟩ | ⟨after, rfl | rfl, result⟩
    · rw [idle]
      exact nothing
    · rw [result]
      exact nothing
    · rw [result]
      exact nothing
  · revert failed
    refine emitPending_elim (motive := fun result => result.1 = .error error →
      result.2.hasPendingFlush = false) connected ?_ ?_ ?_ ?_ ?_ ?_ ?_
    · rintro _ _ ⟨⟩
      exact absurd rfl other
    · exact fun _ _ _ => nofun
    · rintro _ _ _ _ (⟨rfl, _⟩ | ⟨rfl, _⟩) ⟨⟩
      exact absurd rfl other
    · exact fun _ _ _ => nofun
    · rintro _ _ _ _ ⟨⟩
      exact absurd rfl other
    · exact fun _ _ _ _ => nofun
    · exact fun _ _ => nofun

end EndpointInner

namespace Flushing

/-- `push_back`; `none` stands for an index out of bounds, as in the list. -/
def pushDirty (flush : Flushing U) (id : Nat) : Option (Flushing U) :=
  (flush.context.dirtyEndpoints.pushBack id).map fun dirtyEndpoints =>
    { flush with context := { flush.context with dirtyEndpoints } }

/-- The endpoint emits to the queue of the context, and its counter of signaled WRITEs is taken. -/
def absorb (flush : Flushing U) (id : Nat) (inner : EndpointInner U) : Flushing U :=
  { flush with
    newlySignaled := saturatingAdd flush.newlySignaled inner.newlySignaledCount
    context := { flush.context with
      dci := inner.dci
      endpoints := update flush.context.endpoints id
        (some { inner with newlySignaledCount := 0 }) } }

/-- What the loop does with an endpoint of the dirty list, and whether it goes on. -/
def turn (flush : Flushing U) (id : Nat) : Option (Bool × Flushing U) :=
  match flush.context.endpoints id with
  | none => some (true, flush)
  | some ep =>
    match { ep with dci := flush.context.dci }.emitPending with
    | (.ok wasEmitted, inner) =>
      let flush := { flush.absorb id inner with emitted := flush.emitted || wasEmitted }
      if inner.hasPendingFlush then (flush.pushDirty id).map (true, ·)
      else some (true, flush)
    | (.error .ringFull, inner) => ((flush.absorb id inner).pushDirty id).map (false, ·)
    | (.error _, inner) => some (true, flush.absorb id inner)

/-- `none` also when the fuel does not last. -/
def loop : Nat → Flushing U → Option (Flushing U)
  | 0, _ => none
  | fuel + 1, flush => do
      let (first, dirtyEndpoints) ← flush.context.dirtyEndpoints.popFront
      let flush := { flush with context := { flush.context with dirtyEndpoints } }
      match first with
      | none => some flush
      | some id =>
        let (goesOn, flush) ← flush.turn id
        if goesOn then loop fuel flush else some flush

end Flushing

namespace FlushContext

def pollSendCq (context : FlushContext U) : FlushContext U :=
  if 0 < context.pendingSendCqes then
    { context with
      pendingSendCqes := context.pendingSendCqes - context.sendCq
      sendCq := 0 }
  else context

/-- What is left to do after the loop. -/
def finish (flush : Flushing U) : FlushContext U :=
  { flush.context with
    pendingSendCqes := saturatingAdd flush.context.pendingSendCqes flush.newlySignaled
    doorbells := if flush.emitted then flush.context.doorbells + 1 else flush.context.doorbells }

def flushEndpoints (context : FlushContext U) (fuel : Nat) : Option (FlushContext U) :=
  (Flushing.loop fuel
    { context := context.pollSendCq, emitted := false, newlySignaled := 0 }).map finish

/-- The endpoint has work that the dirty list does not know of. -/
def Missed (context : FlushContext U) (id : Nat) : Prop :=
  id ∉ context.dirtyEndpoints.ids ∧ ∃ ep, context.endpoints id = some ep ∧ ep.hasPendingFlush = true

end FlushContext

namespace Flushing

open DirtyEndpointList (enqueueOnce)

/-- The loop entered with `entry`: `queue` is the dirty list and, with the present one, `covered`.
-/
structure Covers (missed : Nat → Prop) (entry : FlushContext U) (queue covered : List Nat)
    (flush : Flushing U) : Prop where
  represents : flush.context.dirtyEndpoints.Represents queue
  reachable : ∀ {id ep}, flush.context.endpoints id = some ep → ep.Reachable
  listed : ∀ {id ep}, flush.context.endpoints id = some ep → ep.hasPendingFlush = true →
    id ∈ covered ∨ missed id
  reported : flush.emitted = true ∨ flush.context.dci.posted = entry.dci.posted
  doorbells : flush.context.doorbells = entry.doorbells

/-- The turns that an endpoint in the dirty list can still take. -/
def turnsOf : Option (EndpointInner U) → Nat
  | none => 1
  | some ep => if 0 < ep.batchMessageCount then 2 else 1

def turns (flush : Flushing U) (queue : List Nat) : Nat :=
  (queue.map fun id => turnsOf (flush.context.endpoints id)).sum

variable {missed : Nat → Prop} {entry : FlushContext U} {flush : Flushing U} {id : Nat}
  {queue : List Nat}

theorem turnsOf_pos (endpoint : Option (EndpointInner U)) : 0 < turnsOf endpoint := by
  unfold turnsOf
  split
  · decide
  · split <;> decide

theorem turnsOf_empty {ep : EndpointInner U} (empty : ep.batchMessageCount = 0) :
    turnsOf (some ep) = 1 := by
  simp [turnsOf, empty]

theorem turnsOf_le {ep after : EndpointInner U}
    (fewer : after.batchMessageCount ≤ ep.batchMessageCount) :
    turnsOf (some after) ≤ turnsOf (some ep) := by
  unfold turnsOf
  dsimp only
  split <;> split <;> omega

theorem turns_absorb {ep inner : EndpointInner U} (here : flush.context.endpoints id = some ep)
    (fewer : inner.batchMessageCount ≤ ep.batchMessageCount) (queue : List Nat) :
    (flush.absorb id inner).turns queue ≤ flush.turns queue := by
  refine List.sum_le_sum fun other _ => ?_
  by_cases same : other = id
  · subst same
    rw [here]
    simp only [absorb, update_self]
    exact turnsOf_le fewer
  · simp only [absorb, update_of_ne same]
    exact Nat.le_refl _

theorem turns_enqueueOnce (flush : Flushing U) (queue : List Nat) (id : Nat) :
    flush.turns (enqueueOnce queue id) ≤
      flush.turns queue + turnsOf (flush.context.endpoints id) := by
  unfold enqueueOnce
  split
  · exact Nat.le_add_right ..
  · rw [turns, List.map_append, List.sum_append]
    exact Nat.le_refl _

namespace Covers

section

variable (covers : Covers missed entry queue (id :: queue) flush)
include covers

theorem absorb {inner : EndpointInner U} {emitted : Bool} {after : List Nat}
    (reachable : inner.Reachable)
    (reported : emitted = true ∨ inner.dci.posted = entry.dci.posted)
    (kept : after = queue ∨ after = enqueueOnce queue id)
    (listed : inner.hasPendingFlush = true → id ∈ after)
    {dirtyEndpoints : DirtyEndpointList} (represents : dirtyEndpoints.Represents after) :
    Covers missed entry after after
      { flush.absorb id inner with
        emitted
        context := { (flush.absorb id inner).context with dirtyEndpoints } } where
  represents := represents
  reachable := fun {other found} there => by
    by_cases same : other = id
    · subst same
      simp only [Flushing.absorb, update_self, Option.some.injEq] at there
      subst there
      exact reachable.congr rfl rfl rfl rfl
    · simp only [Flushing.absorb, update_of_ne same] at there
      exact covers.reachable there
  listed := fun {other found} there pending => by
    by_cases same : other = id
    · subst same
      simp only [Flushing.absorb, update_self, Option.some.injEq] at there
      subst there
      exact .inl (listed pending)
    · simp only [Flushing.absorb, update_of_ne same] at there
      rcases covers.listed there pending with member | known
      · have waiting := (List.mem_cons.mp member).resolve_left same
        refine .inl ?_
        rcases kept with rfl | rfl
        · exact waiting
        · unfold enqueueOnce
          split
          · exact waiting
          · exact List.mem_append_left _ waiting
      · exact .inr known
  reported := reported
  doorbells := covers.doorbells

theorem requeue {inner : EndpointInner U} {emitted : Bool} (real : id ≠ dirtyNone)
    (reachable : inner.Reachable)
    (reported : emitted = true ∨ inner.dci.posted = entry.dci.posted) :
    ∃ after, { flush.absorb id inner with emitted }.pushDirty id = some after ∧
      Covers missed entry (enqueueOnce queue id) (enqueueOnce queue id) after ∧
      after.context.endpoints = (flush.absorb id inner).context.endpoints := by
  obtain ⟨dirtyEndpoints, pushed, represents⟩ := covers.represents.pushBack real
  have member : id ∈ enqueueOnce queue id := by
    unfold enqueueOnce
    split
    · assumption
    · exact List.mem_append_right _ (List.mem_singleton_self id)
  exact ⟨_, congrArg (Option.map _) pushed,
    covers.absorb reachable reported (.inr rfl) (fun _ => member) represents, rfl⟩

theorem turn (real : id ≠ dirtyNone) :
    ∃ goesOn after waiting, flush.turn id = some (goesOn, after) ∧
      Covers missed entry waiting waiting after ∧
      (goesOn = true → after.turns waiting < flush.turns (id :: queue)) := by
  have total : flush.turns (id :: queue) =
      turnsOf (flush.context.endpoints id) + flush.turns queue := by
    rw [turns, List.map_cons, List.sum_cons, turns]
  cases here : flush.context.endpoints id with
  | none =>
    refine ⟨true, flush, queue, by simp only [Flushing.turn, here], ?_, ?_⟩
    · refine { covers with listed := fun {other ep} there pending => ?_ }
      rcases covers.listed there pending with member | known
      · rcases List.mem_cons.mp member with rfl | waiting
        · rw [here] at there
          cases there
        · exact .inl waiting
      · exact .inr known
    · have positive := turnsOf_pos (flush.context.endpoints id)
      intro _
      omega
  | some ep =>
    have reachable : { ep with dci := flush.context.dci }.Reachable :=
      (covers.reachable here).congr rfl rfl rfl rfl
    obtain ⟨fewer, leaves⟩ := { ep with dci := flush.context.dci }.emitPending_leaves
    have reports := { ep with dci := flush.context.dci }.emitPending_reports
    have failing := @EndpointInner.emitPending_error _ _ reachable
    have remains := reachable.emitPending
    cases outcome : { ep with dci := flush.context.dci }.emitPending with
    | mk result inner =>
      rw [outcome] at fewer leaves reports failing remains
      have less : (flush.absorb id inner).turns queue ≤ flush.turns queue :=
        turns_absorb here fewer queue
      have positive := turnsOf_pos (some ep)
      rw [here] at total
      cases result with
      | ok wasEmitted =>
        have reported : (flush.emitted || wasEmitted) = true ∨
            inner.dci.posted = entry.dci.posted := by
          rcases reports with sent | same
          · cases sent
            simp
          · rcases covers.reported with before | same'
            · simp [before]
            · exact .inr (same.trans same')
        cases pending : inner.hasPendingFlush with
        | false =>
          refine ⟨true, _, queue, by simp only [Flushing.turn, here, outcome, pending]; rfl,
            covers.absorb remains reported (.inl rfl) ?_ covers.represents, ?_⟩
          · rw [pending]
            exact nofun
          · intro _
            change (flush.absorb id inner).turns queue < _
            omega
        | true =>
          obtain ⟨after, pushed, kept, same⟩ := covers.requeue real remains reported
          refine ⟨true, after, enqueueOnce queue id, ?_, kept, ?_⟩
          · simp only [Flushing.turn, here, outcome, pending, if_true]
            exact congrArg (Option.map _) pushed
          · obtain ⟨messages, emptied⟩ := leaves wasEmitted rfl pending
            have own : turnsOf (after.context.endpoints id) = 1 := by
              rw [same]
              simp only [Flushing.absorb, update_self]
              exact turnsOf_empty emptied
            have two : turnsOf (some ep) = 2 := if_pos messages
            have grown := after.turns_enqueueOnce queue id
            have alike : after.turns queue = (flush.absorb id inner).turns queue := by
              rw [turns, same, turns]
            intro _
            omega
      | error error =>
        have reported : flush.emitted = true ∨ inner.dci.posted = entry.dci.posted := by
          rcases reports with sent | same
          · cases sent
          · exact covers.reported.imp_right same.trans
        by_cases full : error = .ringFull
        · subst full
          obtain ⟨after, pushed, kept, _⟩ := covers.requeue real remains reported
          refine ⟨false, after, enqueueOnce queue id, ?_, kept, nofun⟩
          simp only [Flushing.turn, here, outcome]
          exact congrArg (Option.map _) pushed
        · refine ⟨true, flush.absorb id inner, queue, ?_,
            covers.absorb remains reported (.inl rfl) ?_ covers.represents, ?_⟩
          · cases error with
            | ringFull => exact absurd rfl full
            | io | remoteConsumerUnknown => simp only [Flushing.turn, here, outcome]
          · rw [failing rfl full]
            exact nofun
          · intro _
            omega

end

theorem loop (covers : Covers missed entry queue queue flush) {fuel : Nat}
    (enough : flush.turns queue < fuel) :
    ∃ after waiting, (∀ extra, flush.loop (fuel + extra) = some after) ∧
      Covers missed entry waiting waiting after := by
  induction fuel generalizing flush queue with
  | zero => exact absurd enough (Nat.not_lt_zero _)
  | succ fuel ih =>
    obtain ⟨dirtyEndpoints, popped, represents⟩ := covers.represents.popFront
    cases queue with
    | nil =>
      have clean : Covers missed entry [] []
          { flush with context := { flush.context with dirtyEndpoints } } :=
        { covers with represents }
      refine ⟨_, [], fun extra => ?_, clean⟩
      rw [Nat.add_right_comm]
      simp only [Flushing.loop, popped]
      rfl
    | cons id rest =>
      have real := covers.represents.chain.ne_stop id (List.mem_cons_self ..)
      have taken : Covers missed entry rest (id :: rest)
          { flush with context := { flush.context with dirtyEndpoints } } :=
        { covers with represents }
      obtain ⟨goesOn, after, waiting, result, kept, fewer⟩ := taken.turn real
      cases goesOn with
      | false =>
        refine ⟨after, waiting, fun extra => ?_, kept⟩
        rw [Nat.add_right_comm]
        simp only [Flushing.loop, popped]
        simp [result]
      | true =>
        have less : after.turns waiting < flush.turns (id :: rest) := fewer rfl
        obtain ⟨final, left, ends, done⟩ := ih kept (by omega)
        refine ⟨final, left, fun extra => ?_, done⟩
        rw [Nat.add_right_comm]
        simp only [Flushing.loop, popped]
        simp [result, ends extra]

end Covers

end Flushing

namespace FlushContext

variable {context : FlushContext U}

/-- The loop ends; an endpoint that has work left is in the dirty list, unless it was not in it
before, and what was posted gets its doorbell. -/
theorem flushEndpoints_forgets_nothing {queue : List Nat}
    (represents : context.dirtyEndpoints.Represents queue)
    (reachable : ∀ id ep, context.endpoints id = some ep → ep.Reachable) :
    ∃ fuel after, (∀ extra, context.flushEndpoints (fuel + extra) = some after) ∧
      (∀ id ep, after.endpoints id = some ep → ep.hasPendingFlush = true →
        id ∈ after.dirtyEndpoints.ids ∨ context.Missed id) ∧
      (after.dci.posted ≠ context.dci.posted → after.doorbells = context.doorbells + 1) := by
  have polled : context.pollSendCq = { context with
      pendingSendCqes := context.pollSendCq.pendingSendCqes
      sendCq := context.pollSendCq.sendCq } := by
    unfold pollSendCq
    split <;> rfl
  have entered : Flushing.Covers context.Missed context queue queue
      { context := context.pollSendCq, emitted := false, newlySignaled := 0 } := by
    rw [polled]
    exact {
      represents
      reachable := fun {id ep} there => reachable id ep there
      listed := fun {id ep} there pending => by
        by_cases member : id ∈ queue
        · exact .inl member
        · exact .inr ⟨represents.ids ▸ member, ep, there, pending⟩
      reported := .inr rfl
      doorbells := rfl }
  obtain ⟨flush, waiting, ends, done⟩ := entered.loop (Nat.lt_succ_self _)
  refine ⟨_, _, fun extra => congrArg (Option.map _) (ends extra), ?_, ?_⟩
  · intro id ep there pending
    change id ∈ flush.context.dirtyEndpoints.ids ∨ _
    rw [done.represents.ids]
    exact done.listed there pending
  · intro posted
    have emitted := done.reported.resolve_right posted
    change (if flush.emitted then flush.context.doorbells + 1 else flush.context.doorbells) = _
    rw [if_pos emitted, done.doorbells]

/-- One connected endpoint that notes a wrap, with nothing in the dirty list. -/
def unlisted : FlushContext Unit where
  endpoints id :=
    if id = 1 then
      some { (EndpointInner.new { sendRingSize := 64, recvRingSize := 64 }
          { addr := 0, rkey := 0 } 1) with
        remoteRecvRing := some { addr := 0, rkey := 0, size := 64 }
        remoteDct := some { dctn := 0, dcKey := 0, dlid := 0 }
        wrapPending := true }
    else none
  dirtyEndpoints := .new
  dci := { posted := [], answers := [] }
  sendCq := 0
  pendingSendCqes := 0
  doorbells := 0

/-- The loop sees only what the dirty list holds. -/
theorem flushEndpoints_unlisted : unlisted.dirtyEndpoints.Represents [] ∧
      ∃ after, unlisted.flushEndpoints 1 = some after ∧
        (after.endpoints 1).map EndpointInner.hasPendingFlush = some true ∧
        1 ∉ after.dirtyEndpoints.ids :=
  ⟨.new, _, rfl, rfl, by decide⟩

/-- The same endpoint in the list, and a queue that refuses the first emission. -/
def refusing : FlushContext Unit :=
  { unlisted with
    dirtyEndpoints := { head := 1, tail := 1, next := [dirtyNone, dirtyNone], inList := [false, true] }
    dci := { posted := [], answers := [true] } }

theorem flushEndpoints_forgets_nothing_refusing :
    ∃ fuel after, (∀ extra, refusing.flushEndpoints (fuel + extra) = some after) ∧
      (∀ id ep, after.endpoints id = some ep → ep.hasPendingFlush = true →
        id ∈ after.dirtyEndpoints.ids ∨ refusing.Missed id) ∧
      (after.dci.posted ≠ refusing.dci.posted → after.doorbells = 1) := by
  have pushed : DirtyEndpointList.new.pushBack 1 = some refusing.dirtyEndpoints := rfl
  obtain ⟨list, same, represents⟩ :=
    DirtyEndpointList.Represents.new.pushBack (show 1 ≠ dirtyNone by decide)
  rw [pushed, Option.some.injEq] at same
  subst same
  refine flushEndpoints_forgets_nothing represents ?_
  intro id ep there pending
  by_cases first : id = 1
  · subst first
    obtain rfl := Option.some.inj there
    exact ⟨_, _, rfl, rfl⟩
  · cases (if_neg first).symm.trans there

end FlushContext

end Locasta.Copyrpc.Dc
