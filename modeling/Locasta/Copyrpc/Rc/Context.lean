import Mathlib.Data.List.Nodup
import Locasta.Copyrpc.Rc.System

namespace Locasta.Copyrpc.Rc

open Data

/-! The context: its endpoints and the queue of those that have something to send. `call` and
`reply` put an endpoint into the queue, `flush_endpoints` empties it. -/

variable {U : Type}

namespace EndpointInner

variable {ep after : EndpointInner U}

def hasPendingSend (ep : EndpointInner U) : Bool := 0 < ep.batchMessageCount || ep.needsDoorbell

theorem hasPendingSend_eq_false :
    ep.hasPendingSend = false ↔ ep.batchMessageCount = 0 ∧ ep.needsDoorbell = false := by
  simp [hasPendingSend]

/-- Nothing to send has been added. -/
structure Quieter (before after : EndpointInner U) : Prop where
  remote : after.remoteRecvRing = before.remoteRecvRing
  dirty : after.isDirty = before.isDirty
  count : 0 < after.batchMessageCount → 0 < before.batchMessageCount
  pending : after.hasPendingSend = true → before.hasPendingSend = true

namespace Quieter

variable {first second third : EndpointInner U}

theorem refl (ep : EndpointInner U) : Quieter ep ep := ⟨rfl, rfl, id, id⟩

theorem of_eq (remote : second.remoteRecvRing = first.remoteRecvRing)
    (dirty : second.isDirty = first.isDirty)
    (count : second.batchMessageCount = first.batchMessageCount)
    (doorbell : second.needsDoorbell = first.needsDoorbell) : Quieter first second where
  remote
  dirty
  count := by rw [count]; exact id
  pending := by rw [hasPendingSend, hasPendingSend, count, doorbell]; exact id

theorem trans (early : Quieter first second) (late : Quieter second third) : Quieter first third where
  remote := late.remote.trans early.remote
  dirty := late.dirty.trans early.dirty
  count := early.count ∘ late.count
  pending := early.pending ∘ late.pending

end Quieter

theorem emitRaw_frame (ep : EndpointInner U) :
    ep.emitRaw.2.remoteRecvRing = ep.remoteRecvRing ∧ ep.emitRaw.2.isDirty = ep.isDirty ∧
      ep.emitRaw.2.batchMessageCount = ep.batchMessageCount ∧
      ∀ error, ep.emitRaw.1 = .error error → ep.emitRaw.2.needsDoorbell = ep.needsDoorbell := by
  unfold emitRaw
  split
  · exact ⟨rfl, rfl, rfl, fun _ _ => rfl⟩
  · split
    · exact ⟨rfl, rfl, rfl, fun _ _ => rfl⟩
    · split
      · exact ⟨rfl, rfl, rfl, fun _ _ => rfl⟩
      · exact ⟨rfl, rfl, rfl, by simp⟩

theorem flush_outcome (ep : EndpointInner U) : Quieter ep ep.flush.2 ∧
      (ep.flush.1 = .ok () ∧ ep.flush.2.hasPendingSend = false ∨
        0 < ep.batchMessageCount ∧ ∃ error, ep.flush.1 = .error error) := by
  by_cases empty : ep.batchMessageCount = 0
  · have flushed : ep.flush = (.ok (), ep.ringDoorbell) := by
      simp only [flush, emitWqe, if_pos empty, tryThen_ok]
    rw [flushed]
    have silent : ep.ringDoorbell.hasPendingSend = false := by
      unfold ringDoorbell
      split
      · exact hasPendingSend_eq_false.mpr ⟨empty, rfl⟩
      · rename_i quiet
        exact hasPendingSend_eq_false.mpr ⟨empty, Bool.eq_false_of_not_eq_true quiet⟩
    refine ⟨⟨?_, ?_, ?_, fun pending => absurd (pending.symm.trans silent) (by decide)⟩,
      .inl ⟨rfl, silent⟩⟩ <;> unfold ringDoorbell <;> split <;> first | rfl | exact id
  · have nonempty : 0 < ep.batchMessageCount := Nat.pos_of_ne_zero empty
    have waiting : ep.hasPendingSend = true := by simp [hasPendingSend, nonempty]
    obtain ⟨remote, dirty, count, doorbell⟩ := ep.fillMetadata.emitRaw_frame
    rcases outcome : ep.fillMetadata.emitRaw with ⟨result, emitted⟩
    rw [outcome] at remote dirty count doorbell
    cases result with
    | error error =>
      have flushed : ep.flush = (.error error, emitted) := by
        simp only [flush, emitWqe, if_neg empty, outcome, tryThen_error, id]
      rw [flushed]
      exact ⟨⟨remote, dirty, fun _ => nonempty, fun _ => waiting⟩, .inr ⟨nonempty, error, rfl⟩⟩
    | ok flag =>
      have flushed : ep.flush = (.ok (), emitted.prepareNextBatch.ringDoorbell) := by
        simp only [flush, emitWqe, if_neg empty, outcome, tryThen_ok]
      rw [flushed]
      have silent : emitted.prepareNextBatch.ringDoorbell.hasPendingSend = false := by
        unfold ringDoorbell
        split
        · exact hasPendingSend_eq_false.mpr ⟨rfl, rfl⟩
        · rename_i quiet
          exact hasPendingSend_eq_false.mpr ⟨rfl, Bool.eq_false_of_not_eq_true quiet⟩
      refine ⟨⟨?_, ?_, fun _ => nonempty, fun _ => waiting⟩, .inl ⟨rfl, silent⟩⟩
      · unfold ringDoorbell
        split <;> exact remote
      · unfold ringDoorbell
        split <;> exact dirty

theorem flush_ok {ring : RemoteRingInfo} (connected : ep.remoteRecvRing = some ring)
    (room : ep.qp.full = false) : ep.flush.1 = .ok () := by
  have remote : ep.fillMetadata.remoteRecvRing = some ring := connected
  have open' : ep.fillMetadata.qp.full = false := room
  simp only [flush, emitWqe, emitRaw, remote, open']
  split
  · rfl
  · split <;> rfl

theorem emitWrap_outcome (ep : EndpointInner U) :
    ep.emitWrap.2.remoteRecvRing = ep.remoteRecvRing ∧ ep.emitWrap.2.isDirty = ep.isDirty ∧
      ((∃ error, ep.emitWrap.1 = .error error) ∧ Quieter ep ep.emitWrap.2 ∨
        ep.emitWrap.1 = .ok () ∧ ep.emitWrap.2.batchMessageCount = 0) := by
  obtain ⟨remote, dirty, count, doorbell⟩ := ep.placeWrap.emitRaw_frame
  rcases outcome : ep.placeWrap.emitRaw with ⟨result, emitted⟩
  rw [outcome] at remote dirty count doorbell
  cases result with
  | error error =>
    have failed : ep.emitWrap = (.error error, emitted) := by
      simp only [emitWrap, outcome, tryThen_error, id]
    rw [failed]
    exact ⟨remote, dirty, .inl ⟨⟨error, rfl⟩, .of_eq remote dirty count (doorbell error rfl)⟩⟩
  | ok flag =>
    have wrapped : ep.emitWrap = (.ok (), emitted.prepareNextBatch) := by
      simp only [emitWrap, outcome, tryThen_ok]
    rw [wrapped]
    exact ⟨remote, dirty, .inr ⟨rfl, rfl⟩⟩

theorem handleWrapIfNeeded_outcome (ep : EndpointInner U) (totalSize : Nat) :
    let result := ep.handleWrapIfNeeded totalSize
    result.2.remoteRecvRing = ep.remoteRecvRing ∧ result.2.isDirty = ep.isDirty ∧
      ((∃ error, result.1 = .error error) ∧ Quieter ep result.2 ∨
        (∃ flag, result.1 = .ok flag) ∧ (result.2 = ep ∨ result.2.batchMessageCount = 0)) := by
  have finish (atWrap : EndpointInner U) (remote : atWrap.remoteRecvRing = ep.remoteRecvRing)
      (dirty : atWrap.isDirty = ep.isDirty)
      (quieter : ∀ after, Quieter atWrap after → Quieter ep after) :
      let result : Except Error Bool × EndpointInner U :=
        tryThen id atWrap.emitWrap fun ep => (.ok true, ep)
      result.2.remoteRecvRing = ep.remoteRecvRing ∧ result.2.isDirty = ep.isDirty ∧
        ((∃ error, result.1 = .error error) ∧ Quieter ep result.2 ∨
          (∃ flag, result.1 = .ok flag) ∧ (result.2 = ep ∨ result.2.batchMessageCount = 0)) := by
    obtain ⟨sameRemote, sameDirty, outcome⟩ := atWrap.emitWrap_outcome
    rcases emitted : atWrap.emitWrap with ⟨value, after⟩
    rw [emitted] at sameRemote sameDirty outcome
    cases value with
    | error error =>
      obtain ⟨_, kept⟩ | ⟨wrong, _⟩ := outcome
      · exact ⟨sameRemote.trans remote, sameDirty.trans dirty, .inl ⟨⟨error, rfl⟩, quieter _ kept⟩⟩
      · cases wrong
    | ok value =>
      obtain ⟨⟨_, wrong⟩, _⟩ | ⟨_, empty⟩ := outcome
      · cases wrong
      · exact ⟨sameRemote.trans remote, sameDirty.trans dirty, .inr ⟨⟨true, rfl⟩, .inr empty⟩⟩
  cases needed : ep.wrapNeeded totalSize with
  | false =>
    have kept : ep.handleWrapIfNeeded totalSize = (.ok false, ep) := by
      simp [handleWrapIfNeeded, needed]
    rw [kept]
    exact ⟨rfl, rfl, .inr ⟨⟨false, rfl⟩, .inl rfl⟩⟩
  | true =>
    by_cases empty : ep.batchMessageCount = 0
    · have unfolded : ep.handleWrapIfNeeded totalSize =
          tryThen id ep.emitWrap fun ep => (.ok true, ep) := by
        simp [handleWrapIfNeeded, needed, empty]
      rw [unfolded]
      exact finish ep rfl rfl fun _ quieter => quieter
    · have nonempty : 0 < ep.batchMessageCount := Nat.pos_of_ne_zero empty
      have waiting : ep.hasPendingSend = true := by simp [hasPendingSend, nonempty]
      obtain ⟨remote, dirty, _, _⟩ := ep.fillMetadata.emitRaw_frame
      rcases outcome : ep.fillMetadata.emitRaw with ⟨value, emitted⟩
      rw [outcome] at remote dirty
      cases value with
      | error error =>
        have failed : ep.handleWrapIfNeeded totalSize = (.error error, emitted) := by
          simp [handleWrapIfNeeded, needed, nonempty, outcome]
        rw [failed]
        exact ⟨remote, dirty, .inl ⟨⟨error, rfl⟩, remote, dirty, fun _ => nonempty,
          fun _ => waiting⟩⟩
      | ok flag =>
        have unfolded : ep.handleWrapIfNeeded totalSize = tryThen id
            (prepareNextBatch { emitted with
              flushStartPos := emitted.sendRingProducer }).emitWrap
            fun ep => (.ok true, ep) := by
          simp [handleWrapIfNeeded, needed, nonempty, outcome]
        rw [unfolded]
        refine finish _ remote dirty fun after quieter => ?_
        exact ⟨quieter.remote.trans remote, quieter.dirty.trans dirty, fun _ => nonempty,
          fun _ => waiting⟩

theorem call_outcome (ep : EndpointInner U) (key : Nat) (data : List UInt8) (userData : U)
    (responseAllowance : Nat) :
    let result := ep.call key data userData responseAllowance
    (∃ error, result.1 = .error error) ∧ Quieter ep result.2 ∨
      (∃ callId, result.1 = .ok callId) ∧ result.2.isDirty = true ∧
        result.2.remoteRecvRing = ep.remoteRecvRing ∧ ep.remoteRecvRing.isSome := by
  have turnedAway (before : EndpointInner U) (error : CallError U)
      (quieter : ∀ after, Quieter before after → (0 < before.batchMessageCount ∨
        after.hasPendingSend = false) → Quieter ep after) :
      let result : Except (CallError U) UInt32 × EndpointInner U :=
        tryThen .other before.flush fun ep => (.error error, ep)
      (∃ error, result.1 = .error error) ∧ Quieter ep result.2 := by
    obtain ⟨kept, outcome⟩ := before.flush_outcome
    rcases flushed : before.flush with ⟨value, after⟩
    rw [flushed] at kept outcome
    cases value with
    | error failure =>
      obtain ⟨wrong, _⟩ | ⟨nonempty, _⟩ := outcome
      · cases wrong
      · exact ⟨⟨_, rfl⟩, quieter _ kept (.inl nonempty)⟩
    | ok value =>
      obtain ⟨_, silent⟩ | ⟨_, _, wrong⟩ := outcome
      · exact ⟨⟨_, rfl⟩, quieter _ kept (.inr silent)⟩
      · cases wrong
  intro result
  cases connected : ep.remoteRecvRing with
  | none =>
    left
    simp only [result, call, connected]
    exact ⟨⟨_, rfl⟩, .refl ep⟩
  | some ring =>
    simp only [result, call, connected]
    by_cases poor : ep.peerCreditBalance < internalAllowance responseAllowance
    · simp only [if_pos poor]
      exact .inl (turnedAway ep _ fun _ kept _ => kept)
    · simp only [if_neg poor]
      obtain ⟨remote, dirty, outcome⟩ :=
        ep.handleWrapIfNeeded_outcome (paddedMessageSize (asU32 data.length))
      rcases wrapped : ep.handleWrapIfNeeded (paddedMessageSize (asU32 data.length))
        with ⟨value, after⟩
      rw [wrapped] at remote dirty outcome
      cases value with
      | error error =>
        obtain ⟨_, kept⟩ | ⟨⟨_, wrong⟩, _⟩ := outcome
        · exact .inl ⟨⟨_, rfl⟩, kept⟩
        · cases wrong
      | ok flag =>
        obtain ⟨⟨_, wrong⟩, _⟩ | ⟨_, shape⟩ := outcome
        · cases wrong
        simp only [tryThen_ok]
        split
        · refine .inl (turnedAway after _ fun last kept flushed => ?_)
          refine ⟨kept.remote.trans remote, kept.dirty.trans dirty, ?_, ?_⟩
          · intro nonempty
            rcases shape with rfl | empty
            · exact kept.count nonempty
            · exact absurd empty (Nat.ne_of_gt (kept.count nonempty))
          · intro pending
            rcases shape with rfl | empty
            · exact kept.pending pending
            · rcases flushed with nonempty | silent
              · exact absurd empty (Nat.ne_of_gt nonempty)
              · rw [silent] at pending
                cases pending
        · exact .inr ⟨⟨_, rfl⟩, rfl, remote.trans connected, rfl⟩

theorem reply_outcome (ep : EndpointInner U) (handle : RecvMessage) (data : List UInt8) :
    let result := ep.reply handle data
    (∃ error, result.1 = .error error) ∧ Quieter ep result.2 ∨
      result.1 = .ok () ∧ result.2.isDirty = true ∧
        result.2.remoteRecvRing = ep.remoteRecvRing ∧ ep.remoteRecvRing.isSome := by
  intro result
  cases connected : ep.remoteRecvRing with
  | none =>
    left
    simp only [result, reply, connected]
    exact ⟨⟨_, rfl⟩, .refl ep⟩
  | some ring =>
    simp only [result, reply, connected]
    obtain ⟨remote, dirty, outcome⟩ :=
      ep.handleWrapIfNeeded_outcome (paddedMessageSize (asU32 data.length))
    rcases wrapped : ep.handleWrapIfNeeded (paddedMessageSize (asU32 data.length))
      with ⟨value, after⟩
    rw [wrapped] at remote dirty outcome
    cases value with
    | error error =>
      obtain ⟨_, kept⟩ | ⟨⟨_, wrong⟩, _⟩ := outcome
      · exact .inl ⟨⟨_, rfl⟩, kept⟩
      · cases wrong
    | ok flag => exact .inr ⟨rfl, rfl, remote.trans connected, rfl⟩

end EndpointInner

/-- The endpoints by their number, and the queue of the dirty ones. -/
structure Context (U : Type) where
  endpoints : Nat → EndpointInner U
  dirtyEndpoints : List Nat

namespace Context

def new (config : Nat → EndpointConfig) (region : Nat → MemoryRegion) : Context U where
  endpoints index := .new (config index) (region index)
  dirtyEndpoints := []

def set (ctx : Context U) (index : Nat) (ep : EndpointInner U) : Context U :=
  { ctx with endpoints := Function.update ctx.endpoints index ep }

/-- `mark_dirty` of `ep`, whose flag is set: the queue takes it if it was not set before. -/
def markDirty (ctx : Context U) (index : Nat) (ep : EndpointInner U) : Context U :=
  { ctx.set index ep with
    dirtyEndpoints :=
      if (ctx.endpoints index).isDirty then ctx.dirtyEndpoints else ctx.dirtyEndpoints ++ [index] }

def call (ctx : Context U) (index : Nat) (answers : List Bool) (key : Nat) (data : List UInt8)
    (userData : U) (responseAllowance : Nat) : Context U :=
  match ((ctx.endpoints index).offer answers).call key data userData responseAllowance with
  | (.ok _, ep) => ctx.markDirty index ep
  | (.error _, ep) => ctx.set index ep

def reply (ctx : Context U) (index : Nat) (answers : List Bool) (handle : RecvMessage)
    (data : List UInt8) : Context U :=
  match ((ctx.endpoints index).offer answers).reply handle data with
  | (.ok _, ep) => ctx.markDirty index ep
  | (.error _, ep) => ctx.set index ep

/-- The loop of `flush_endpoints`; each turn takes an answer of the send queue it flushes to. -/
def flushLoop : Nat → Context U → List Bool → Context U
  | 0, ctx, _ => ctx
  | fuel + 1, ctx, answers =>
    match ctx.dirtyEndpoints with
    | [] => ctx
    | index :: rest =>
      let ctx := { ctx with dirtyEndpoints := rest }
      match ((ctx.endpoints index).offer [answers.headD false]).flush with
      | (.error _, ep) => flushLoop fuel (ctx.set index { ep with isDirty := false }) answers.tail
      | (.ok _, ep) =>
        if ep.hasPendingSend then
          flushLoop fuel { ctx.set index ep with dirtyEndpoints := rest ++ [index] } answers.tail
        else flushLoop fuel (ctx.set index { ep with isDirty := false }) answers.tail

/-- Every turn takes an endpoint from the queue for good, so its length bounds the turns. -/
def flushEndpoints (ctx : Context U) (answers : List Bool) : Context U :=
  flushLoop ctx.dirtyEndpoints.length ctx answers

/-- One received completion of `poll`. -/
def process (ctx : Context U) (completion : Nat × Nat) : Context U :=
  ctx.set completion.1 ((ctx.endpoints completion.1).processCqeStatic completion.2).1

def poll (ctx : Context U) (completions : List (Nat × Nat)) (answers : List Bool) : Context U :=
  (completions.foldl process ctx).flushEndpoints answers

/-- The public operations, and the WRITEs of the peers that land between them. -/
inductive Operation (U : Type) where
  | connect (index : Nat) (remote : LocalEndpointInfo)
  | call (index : Nat) (answers : List Bool) (key : Nat) (data : List UInt8) (userData : U)
      (responseAllowance : Nat)
  | reply (index : Nat) (answers : List Bool) (handle : RecvMessage) (data : List UInt8)
  | flushEndpoints (answers : List Bool)
  | poll (completions : List (Nat × Nat)) (answers : List Bool)
  | land (index : Nat) (write : WriteImm)

def perform (ctx : Context U) : Operation U → Context U
  | .connect index remote => ctx.set index ((ctx.endpoints index).connect remote)
  | .call index answers key data userData responseAllowance =>
    ctx.call index answers key data userData responseAllowance
  | .reply index answers handle data => ctx.reply index answers handle data
  | .flushEndpoints answers => ctx.flushEndpoints answers
  | .poll completions answers => ctx.poll completions answers
  | .land index write => ctx.set index ((ctx.endpoints index).store write)

/-- The flag tells whether the endpoint, with something to send, is queued. -/
structure Booked (queue : List Nat) (index : Nat) (ep : EndpointInner U) : Prop where
  flagged : ep.isDirty = true ↔ index ∈ queue
  pending : ep.hasPendingSend = true → ep.isDirty = true
  connected : 0 < ep.batchMessageCount → ep.remoteRecvRing.isSome

structure Scheduled (ctx : Context U) : Prop where
  distinct : ctx.dirtyEndpoints.Nodup
  booked : ∀ index, Booked ctx.dirtyEndpoints index (ctx.endpoints index)

namespace Scheduled

variable {ctx : Context U} {index : Nat} {ep : EndpointInner U}

variable (scheduled : Scheduled ctx)
include scheduled

theorem update {queue : List Nat} (distinct : queue.Nodup)
    (others : ∀ other, other ≠ index → (other ∈ queue ↔ other ∈ ctx.dirtyEndpoints))
    (booked : Booked queue index ep) :
    Scheduled { ctx.set index ep with dirtyEndpoints := queue } where
  distinct
  booked other := by
    change Booked queue other (Function.update ctx.endpoints index ep other)
    rcases eq_or_ne other index with rfl | different
    · rw [Function.update_self]
      exact booked
    · obtain ⟨flagged, pending, connected⟩ := scheduled.booked other
      rw [Function.update_of_ne different]
      exact ⟨flagged.trans (others other different).symm, pending, connected⟩

theorem quieter (quieter : (ctx.endpoints index).Quieter ep) : Scheduled (ctx.set index ep) := by
  obtain ⟨flagged, pending, connected⟩ := scheduled.booked index
  refine scheduled.update scheduled.distinct (fun _ _ => Iff.rfl) ⟨?_, ?_, ?_⟩
  · rw [quieter.dirty]
    exact flagged
  · rw [quieter.dirty]
    exact pending ∘ quieter.pending
  · rw [quieter.remote]
    exact connected ∘ quieter.count

theorem markDirty (dirty : ep.isDirty = true)
    (connected : ep.remoteRecvRing.isSome) : Scheduled (ctx.markDirty index ep) := by
  have flagged := (scheduled.booked index).flagged
  have booked {queue : List Nat} (inside : index ∈ queue) : Booked queue index ep :=
    ⟨by simp [dirty, inside], fun _ => dirty, fun _ => connected⟩
  unfold Context.markDirty
  split
  · rename_i already
    exact scheduled.update scheduled.distinct (fun _ _ => Iff.rfl) (booked (flagged.mp already))
  · rename_i clean
    refine scheduled.update ?_ ?_ (booked (List.mem_append_right _ (List.mem_singleton_self _)))
    · rw [List.nodup_append]
      refine ⟨scheduled.distinct, List.pairwise_singleton .., ?_⟩
      rintro other inside _ last rfl
      rw [List.mem_singleton.mp last] at inside
      exact clean (flagged.mpr inside)
    · intro other different
      simp [different]

theorem dequeue {rest : List Nat}
    (first : ctx.dirtyEndpoints = index :: rest) (silent : ep.hasPendingSend = false) :
    Scheduled { ctx.set index { ep with isDirty := false } with dirtyEndpoints := rest } := by
  have distinct := scheduled.distinct
  rw [first, List.nodup_cons] at distinct
  have empty := (EndpointInner.hasPendingSend_eq_false.mp silent).1
  refine scheduled.update distinct.2 ?_ ⟨?_, ?_, ?_⟩
  · intro other different
    rw [first]
    simp [different]
  · simpa using distinct.1
  · intro pending
    exact absurd (pending.symm.trans silent) (by decide)
  · intro nonempty
    exact absurd empty (Nat.ne_of_gt nonempty)

end Scheduled

theorem quieter_offer (ep : EndpointInner U) (answers : List Bool) :
    ep.Quieter (ep.offer answers) :=
  .of_eq rfl rfl rfl rfl

variable {ctx : Context U}

theorem Scheduled.call (scheduled : Scheduled ctx) (index : Nat) (answers : List Bool) (key : Nat)
    (data : List UInt8) (userData : U) (responseAllowance : Nat) :
    Scheduled (ctx.call index answers key data userData responseAllowance) := by
  have offered := quieter_offer (ctx.endpoints index) answers
  have outcome := ((ctx.endpoints index).offer answers).call_outcome key data userData
    responseAllowance
  rcases called : ((ctx.endpoints index).offer answers).call key data userData responseAllowance
    with ⟨result, ep⟩
  rw [called] at outcome
  simp only [Context.call, called]
  obtain ⟨⟨error, rfl⟩, quieter⟩ | ⟨⟨callId, rfl⟩, dirty, remote, connected⟩ := outcome
  · exact scheduled.quieter (offered.trans quieter)
  · exact scheduled.markDirty dirty (remote ▸ connected)

theorem Scheduled.reply (scheduled : Scheduled ctx) (index : Nat) (answers : List Bool)
    (handle : RecvMessage) (data : List UInt8) :
    Scheduled (ctx.reply index answers handle data) := by
  have offered := quieter_offer (ctx.endpoints index) answers
  have outcome := ((ctx.endpoints index).offer answers).reply_outcome handle data
  rcases replied : ((ctx.endpoints index).offer answers).reply handle data with ⟨result, ep⟩
  rw [replied] at outcome
  simp only [Context.reply, replied]
  obtain ⟨⟨error, rfl⟩, quieter⟩ | ⟨rfl, dirty, remote, connected⟩ := outcome
  · exact scheduled.quieter (offered.trans quieter)
  · exact scheduled.markDirty dirty (remote ▸ connected)

theorem Scheduled.flushed {index : Nat} {full : Bool} (scheduled : Scheduled ctx)
    (room : 0 < (ctx.endpoints index).batchMessageCount → full = false) :
    ∃ ep, ((ctx.endpoints index).offer [full]).flush = (.ok (), ep) ∧
      ep.hasPendingSend = false := by
  obtain ⟨_, outcome⟩ := ((ctx.endpoints index).offer [full]).flush_outcome
  obtain ⟨done, silent⟩ | ⟨nonempty, _, failed⟩ := outcome
  · exact ⟨_, Prod.ext done rfl, silent⟩
  · obtain ⟨ring, connected⟩ :=
      Option.isSome_iff_exists.mp ((scheduled.booked index).connected nonempty)
    have done : ((ctx.endpoints index).offer [full]).flush.1 = .ok () :=
      EndpointInner.flush_ok connected (by rw [room nonempty]; rfl)
    rw [failed] at done
    cases done

/-- No flush with messages is refused by a full send queue. -/
def Accepted (ctx : Context U) (answers : List Bool) : Prop :=
  ∀ turn index : Nat, ctx.dirtyEndpoints[turn]? = some index →
    0 < (ctx.endpoints index).batchMessageCount → answers.getD turn false = false

section

variable (scheduled : Scheduled ctx)
include scheduled

theorem Scheduled.flushLoop {fuel : Nat} {answers : List Bool}
    (enough : ctx.dirtyEndpoints.length ≤ fuel) (accepted : ctx.Accepted answers) :
    Scheduled (flushLoop fuel ctx answers) ∧ (flushLoop fuel ctx answers).dirtyEndpoints = [] := by
  induction fuel generalizing ctx answers with
  | zero => exact ⟨scheduled, List.eq_nil_of_length_eq_zero (Nat.le_zero.mp enough)⟩
  | succ fuel ih =>
    cases queue : ctx.dirtyEndpoints with
    | nil =>
      simp only [Context.flushLoop, queue]
      exact ⟨scheduled, trivial⟩
    | cons index rest =>
      have distinct := scheduled.distinct
      rw [queue, List.nodup_cons] at distinct
      have first := accepted 0 index (by rw [queue]; rfl)
      obtain ⟨ep, flushed, silent⟩ := scheduled.flushed first
      have loop : Context.flushLoop (fuel + 1) ctx answers = Context.flushLoop fuel
          { ctx.set index { ep with isDirty := false } with dirtyEndpoints := rest }
          answers.tail := by
        have head : answers.headD false = answers.getD 0 false := by cases answers <;> rfl
        simp only [Context.flushLoop, queue, head, Context.set, flushed, silent,
          Bool.false_eq_true, if_false]
      rw [loop]
      refine ih (scheduled.dequeue queue silent) ?_ ?_
      · rw [queue] at enough
        exact Nat.le_of_succ_le_succ enough
      · intro turn other here nonempty
        have different : other ≠ index := by
          rintro rfl
          exact distinct.1 (List.mem_of_getElem? here)
        change 0 < (Function.update ctx.endpoints index _ other).batchMessageCount at nonempty
        rw [Function.update_of_ne different] at nonempty
        have later := accepted (turn + 1) other (by rw [queue]; exact here) nonempty
        cases answers <;> exact later

theorem Scheduled.flushEndpoints {answers : List Bool} (accepted : ctx.Accepted answers) :
    Scheduled (ctx.flushEndpoints answers) ∧
      ∀ index, ((ctx.flushEndpoints answers).endpoints index).hasPendingSend = false := by
  obtain ⟨after, empty⟩ := scheduled.flushLoop (Nat.le_refl _) accepted
  refine ⟨after, fun index => Bool.eq_false_iff.mpr fun pending => ?_⟩
  have queued := (after.booked index).flagged.mp ((after.booked index).pending pending)
  rw [empty] at queued
  cases queued

theorem Scheduled.connect (index : Nat) (remote : LocalEndpointInfo) :
    Scheduled (ctx.set index ((ctx.endpoints index).connect remote)) := by
  obtain ⟨flagged, pending, _⟩ := scheduled.booked index
  refine scheduled.update scheduled.distinct (fun _ _ => Iff.rfl) ⟨flagged, ?_, fun _ => rfl⟩
  intro waiting
  apply pending
  have doorbell : (ctx.endpoints index).needsDoorbell = true := by
    simpa [EndpointInner.hasPendingSend, EndpointInner.connect,
      EndpointInner.prepareNextBatch] using waiting
  simp [EndpointInner.hasPendingSend, doorbell]

theorem Scheduled.process (completion : Nat × Nat) : Scheduled (ctx.process completion) := by
  obtain ⟨_, _, _, _, _, _, _, shape⟩ :=
    (ctx.endpoints completion.1).processCqeStatic_shape completion.2
  refine scheduled.quieter ?_
  rw [shape]
  exact .of_eq rfl rfl rfl rfl

end

theorem Accepted.process {answers : List Bool} (accepted : ctx.Accepted answers)
    (completion : Nat × Nat) : (ctx.process completion).Accepted answers := by
  obtain ⟨_, _, _, _, _, _, _, shape⟩ :=
    (ctx.endpoints completion.1).processCqeStatic_shape completion.2
  intro turn index queued nonempty
  refine accepted turn index queued ?_
  change 0 < (Function.update ctx.endpoints _ _ index).batchMessageCount at nonempty
  rw [shape] at nonempty
  rcases eq_or_ne index completion.1 with rfl | different
  · rwa [Function.update_self] at nonempty
  · rwa [Function.update_of_ne different] at nonempty

theorem Scheduled.poll {answers : List Bool} {completions : List (Nat × Nat)}
    (scheduled : Scheduled ctx) (accepted : ctx.Accepted answers) :
    Scheduled (ctx.poll completions answers) := by
  induction completions generalizing ctx with
  | nil => exact (scheduled.flushEndpoints accepted).1
  | cons completion rest ih =>
    exact ih (scheduled.process completion) (accepted.process completion)

/-- The send queues take every flush of `flush_endpoints` that has messages. -/
def FlushesAccepted (ctx : Context U) : Operation U → Prop
  | .flushEndpoints answers | .poll _ answers => ctx.Accepted answers
  | _ => True

theorem Scheduled.perform {operation : Operation U} (scheduled : Scheduled ctx)
    (accepted : ctx.FlushesAccepted operation) : Scheduled (ctx.perform operation) := by
  cases operation with
  | connect index remote => exact scheduled.connect index remote
  | call index answers key data userData responseAllowance =>
    exact scheduled.call index answers key data userData responseAllowance
  | reply index answers handle data => exact scheduled.reply index answers handle data
  | flushEndpoints answers => exact (scheduled.flushEndpoints accepted).1
  | poll completions answers => exact scheduled.poll accepted
  | land index write => exact scheduled.quieter (.of_eq rfl rfl rfl rfl)

variable {config : Nat → EndpointConfig} {region : Nat → MemoryRegion}

theorem scheduled_new : Scheduled (new config region : Context U) where
  distinct := List.nodup_nil
  booked index := by
    refine ⟨⟨?_, ?_⟩, ?_, ?_⟩
    · exact fun dirty => absurd dirty Bool.false_ne_true
    · exact fun queued => absurd queued List.not_mem_nil
    · exact fun pending => absurd pending Bool.false_ne_true
    · exact fun nonempty => absurd nonempty (Nat.lt_irrefl 0)

/-- While no flush is refused, every endpoint with something to send is in the queue, once; and a
flush whose posts go through sends everything. -/
theorem pending_sends_scheduled {operations : List (Operation U)}
    (accepted : Along perform FlushesAccepted (new config region) operations) :
    let ctx := run perform (new config region) operations
    (∀ index, (ctx.endpoints index).hasPendingSend = true →
        ctx.dirtyEndpoints.count index = 1 ∧ (ctx.endpoints index).isDirty = true) ∧
      ∀ index, ((ctx.flushEndpoints []).endpoints index).hasPendingSend = false := by
  intro ctx
  have scheduled : Scheduled ctx :=
    run_invariant (fun _ _ scheduled accepted => scheduled.perform accepted) scheduled_new accepted
  refine ⟨fun index pending => ?_, (scheduled.flushEndpoints fun _ _ _ _ => rfl).2⟩
  have dirty := (scheduled.booked index).pending pending
  exact ⟨List.count_eq_one_of_mem scheduled.distinct ((scheduled.booked index).flagged.mp dirty),
    dirty⟩

def oneCall : List (Operation Unit) :=
  [.connect 0 (EndpointInner.new (U := Unit) (clientAndServer .b) (sameRegion .b)).localInfo,
    .call 0 [] 0 [1, 2, 3] () 20]

/-- The call is flushed before the second endpoint has one. -/
def secondCall : List (Operation Unit) :=
  oneCall ++ [.flushEndpoints [false],
    .connect 1 (EndpointInner.new (U := Unit) (clientAndServer .b) (sameRegion .b)).localInfo,
    .call 1 [] 0 [] () 20]

theorem pending_sends_scheduled_oneCall :
    let ctx := run perform (new (fun _ => clientAndServer .a) fun _ => sameRegion .a) secondCall
    (ctx.endpoints 0).qp.posted.length = 1 ∧ (ctx.endpoints 1).hasPendingSend = true ∧
      ctx.dirtyEndpoints.count 1 = 1 ∧ (ctx.endpoints 1).isDirty = true ∧
      ((ctx.flushEndpoints []).endpoints 1).hasPendingSend = false := by
  intro ctx
  have pending : (ctx.endpoints 1).hasPendingSend = true := by decide +kernel
  have accepted : Along perform FlushesAccepted
      (new (fun _ => clientAndServer .a) fun _ => sameRegion .a) secondCall :=
    ⟨trivial, trivial, fun turn _ _ _ => by cases turn <;> rfl, trivial, trivial, trivial⟩
  have scheduled := pending_sends_scheduled accepted
  obtain ⟨once, dirty⟩ := scheduled.1 1 pending
  exact ⟨by decide +kernel, pending, once, dirty, scheduled.2 1⟩

/-- The endpoint leaves the queue with its message, and no later flush posts it. -/
theorem refused_flush_unschedules :
    let ctx := run perform (new (fun _ => clientAndServer .a) fun _ => sameRegion .a)
      (oneCall ++ [.flushEndpoints [true]])
    let later := run perform ctx [.flushEndpoints [], .poll [] []]
    (ctx.endpoints 0).hasPendingSend = true ∧ ctx.dirtyEndpoints = [] ∧
      (ctx.endpoints 0).isDirty = false ∧ (later.endpoints 0).hasPendingSend = true ∧
      (later.endpoints 0).qp.posted = [] := by
  decide +kernel

end Context

end Locasta.Copyrpc.Rc
