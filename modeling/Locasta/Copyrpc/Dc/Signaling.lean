import Locasta.Copyrpc.Dc.SharedQueue

namespace Locasta.Copyrpc.Dc

open Data Mlx5 EndpointInner

/-! When the shared queue is full, is a completion still to come? The endpoints together hold back
as many completions as their counters of unsignaled WRITEs say, so it is while these WRITEs do not
fill the queue. -/

variable {U : Type}

/-- What an endpoint counts of its emissions. -/
structure Tally where
  dci : SendQueue WriteImm
  unsignaledCount : Nat
  newlySignaledCount : Nat

namespace Tally

def shouldSignal (tally : Tally) : Bool := (tally.unsignaledCount + 1) &&& signalIntervalMask == 0

def refuse (tally : Tally) : Tally := { tally with dci := tally.dci.refuse }

def accept (tally : Tally) (write : WriteImm) : Tally where
  dci := tally.dci.accept write
  unsignaledCount := if tally.shouldSignal then 0 else tally.unsignaledCount + 1
  newlySignaledCount :=
    if tally.shouldSignal then saturatingAdd tally.newlySignaledCount 1
    else tally.newlySignaledCount

/-- The counter is right, and no more WRITEs in a row than it can count were unsignaled. -/
structure Spaced (tally : Tally) : Prop where
  count : tally.unsignaledCount = unsignaledAfter 0 (tally.dci.posted.map WriteImm.signaled)
  few : ∀ before, before <+: tally.dci.posted →
    unsignaledAfter 0 (before.map WriteImm.signaled) ≤ signalIntervalMask

namespace Spaced

variable {tally : Tally} (spaced : tally.Spaced)
include spaced

theorem unsignaledCount_le : tally.unsignaledCount ≤ signalIntervalMask :=
  spaced.count ▸ spaced.few _ List.prefix_rfl

theorem accept {write : WriteImm} (signal : write.signaled = tally.shouldSignal) :
    (tally.accept write).Spaced := by
  have count : (tally.accept write).unsignaledCount =
      unsignaledAfter 0 ((tally.dci.posted ++ [write]).map WriteImm.signaled) := by
    rw [List.map_append, unsignaledAfter_append, ← spaced.count, List.map_singleton, signal]
    rfl
  refine ⟨count, fun before reached => ?_⟩
  rcases List.prefix_concat_iff.mp reached with rfl | old
  · have few := spaced.unsignaledCount_le
    rw [← count]
    unfold Tally.accept Tally.shouldSignal
    unfold signalIntervalMask at few ⊢
    dsimp only
    rw [show 7 = 2 ^ 3 - 1 from rfl, Nat.and_two_pow_sub_one_eq_mod]
    simp only [beq_iff_eq]
    split <;> omega
  · exact spaced.few before old

/-- Eight WRITEs in a row have a signaled one among them. -/
theorem signaled_mem {before eight after : List WriteImm}
    (parts : tally.dci.posted = before ++ eight ++ after) (long : 8 ≤ eight.length) :
    ∃ write ∈ eight, write.signaled = true := by
  by_contra none
  have silent : ∀ signaled ∈ eight.map WriteImm.signaled, signaled = false := by
    simpa using none
  have few := spaced.few (before ++ eight) ⟨after, parts.symm⟩
  rw [List.map_append, unsignaledAfter_append, unsignaledAfter_silent _ _ silent,
    List.length_map] at few
  unfold signalIntervalMask at few
  omega

end Spaced

end Tally

def EndpointInner.tally (ep : EndpointInner U) : Tally where
  dci := ep.dci
  unsignaledCount := ep.unsignaledCount
  newlySignaledCount := ep.newlySignaledCount

/-- The emissions of one turn. A refused one is the last. -/
inductive Emits : Tally → List WriteImm → Bool → Tally → Prop
  | quiet (tally : Tally) : Emits tally [] false tally
  | refused {tally : Tally} (full : tally.dci.full = true) : Emits tally [] true tally.refuse
  | accepted {tally after : Tally} {write : WriteImm} {writes : List WriteImm} {refused : Bool}
      (room : tally.dci.full = false) (signal : write.signaled = tally.shouldSignal)
      (rest : Emits (tally.accept write) writes refused after) :
      Emits tally (write :: writes) refused after

namespace EndpointInner

variable {ring : RemoteRingInfo} {dct : RemoteDctInfo} {ep : EndpointInner U}

theorem emits_post {messageCount : Nat} {writes : List WriteImm} {refused : Bool} {after : Tally}
    (rest : Emits (ep.postBatch ring dct messageCount).tally writes refused after)
    (room : ep.dci.full = false) :
    ∃ write, Emits ep.tally (write :: writes) refused after :=
  ⟨ep.currentWrite ring dct messageCount, .accepted room rfl rest⟩

theorem emits_wrap (room : ep.dci.full = false) :
    ∃ write, Emits ep.tally [write] false (ep.wrapBatch ring dct).tally := by
  have placed : ep.placeWrap.tally = ep.tally := rfl
  have wrapped : (ep.wrapBatch ring dct).tally =
      (ep.placeWrap.postBatch ring dct wrapMessageCount).tally := rfl
  rw [wrapped, ← placed]
  exact emits_post (.quiet _) room

theorem emitPending_emits (ep : EndpointInner U) :
    ∃ writes refused, Emits ep.tally writes refused ep.emitPending.2.tally ∧
      writes.length + refused.toNat ≤ 2 := by
  rcases ep.alone_or_connected with alone | ⟨ring, dct, connected⟩
  · refine ⟨[], false, ?_, by decide⟩
    rcases emitPending_unconnected alone with ⟨idle, _⟩ | ⟨after, rfl | rfl, failed⟩
    · rw [idle]
      exact .quiet _
    · rw [failed]
      exact .quiet _
    · rw [failed]
      exact .quiet _
  · refine emitPending_elim (motive := fun result => ∃ writes refused,
      Emits ep.tally writes refused result.2.tally ∧ writes.length + refused.toNat ≤ 2)
      connected ?_ ?_ ?_ ?_ ?_ ?_ ?_
    · intro _ full
      exact ⟨[], true, .refused full, by decide⟩
    · intro _ full _
      obtain ⟨write, emits⟩ := emits_post (.quiet _) full
      exact ⟨[write], false, emits, by simp⟩
    · rintro atWrap result ⟨_, ⟨_, rfl⟩ | ⟨_, room, rfl⟩⟩ full _
      · exact ⟨[], true, .refused full, by decide⟩
      · obtain ⟨write, emits⟩ := emits_post (.refused full) room
        exact ⟨[write], true, emits, by simp⟩
    · rintro atWrap ⟨_, ⟨_, rfl⟩ | ⟨_, room, rfl⟩⟩ full
      · obtain ⟨wrap, emits⟩ := emits_wrap full
        exact ⟨[wrap], false, emits, by simp⟩
      · obtain ⟨wrap, second⟩ := emits_wrap full
        obtain ⟨write, emits⟩ := emits_post second room
        exact ⟨[write, wrap], false, emits, by simp⟩
    · intro _ _ _ full
      exact ⟨[], true, .refused full, by decide⟩
    · intro _ _ _ full
      obtain ⟨write, emits⟩ := emits_post (.quiet _) full
      exact ⟨[write], false, emits, by simp⟩
    · intro _ _
      exact ⟨[], false, .quiet _, by decide⟩

end EndpointInner

namespace Emits

variable {tally after : Tally} {writes : List WriteImm} {refused : Bool}

variable (emits : Emits tally writes refused after)
include emits

theorem posted : after.dci.posted = tally.dci.posted ++ writes := by
  induction emits with
  | quiet | refused => exact (List.append_nil _).symm
  | accepted _ _ _ ih =>
    rw [ih]
    exact List.append_assoc ..

theorem unsignaledCount : after.unsignaledCount =
      unsignaledAfter tally.unsignaledCount (writes.map WriteImm.signaled) := by
  induction emits with
  | quiet | refused => rfl
  | accepted _ signal _ ih =>
    rw [ih, List.map_cons, signal]
    rfl

theorem spaced (before : tally.Spaced) : after.Spaced := by
  induction emits with
  | quiet => exact before
  | refused => exact ⟨before.count, before.few⟩
  | accepted _ signal _ ih => exact ih (before.accept signal)

theorem newlySignaledCount (small : tally.newlySignaledCount + writes.length < 2 ^ 32) :
    after.newlySignaledCount = tally.newlySignaledCount + writes.countP WriteImm.signaled := by
  induction emits with
  | quiet | refused => rfl
  | @accepted tally _ write writes _ _ signal _ ih =>
    have step : (tally.accept write).newlySignaledCount =
        tally.newlySignaledCount + if write.signaled then 1 else 0 := by
      unfold Tally.accept saturatingAdd
      dsimp only
      rw [signal]
      rw [List.length_cons] at small
      split <;> omega
    rw [List.length_cons] at small
    rw [ih (by rw [step]; split <;> omega), step, List.countP_cons]
    omega

/-- The shared queue takes what the endpoint was told that it would take. -/
theorem emitAll (endpoint : SendEndpoint U)
    {dci : SendQueueState UInt32} {retired attempts : Nat} (paired : dci.Paired retired)
    (answers : tally.dci.answers = dciAnswers dci.available attempts)
    (few : writes.length + refused.toNat ≤ attempts) :
    (endpoint.emitAll dci writes).Paired retired ∧
      (endpoint.emitAll dci writes).wqeCnt = dci.wqeCnt ∧
      (∃ wqes, (endpoint.emitAll dci writes).posted = dci.posted ++ wqes ∧
        wqes.map Wqe.signaled = writes.map WriteImm.signaled) ∧
      (refused = true → (endpoint.emitAll dci writes).available < 2) ∧
      after.dci.answers.length + writes.length + refused.toNat = attempts := by
  induction emits generalizing dci attempts with
  | quiet tally =>
    refine ⟨paired, rfl, ⟨[], (List.append_nil _).symm, rfl⟩, nofun, ?_⟩
    rw [answers, dciAnswers_length]
    rfl
  | refused full =>
    obtain ⟨attempts, rfl⟩ : ∃ more, attempts = more + 1 := ⟨attempts - 1, by simp at few; omega⟩
    rw [SendQueue.full, answers] at full
    refine ⟨paired, rfl, ⟨[], (List.append_nil _).symm, rfl⟩, fun _ => of_decide_eq_true full, ?_⟩
    rw [Tally.refuse, SendQueue.refuse, answers]
    simp [dciAnswers, dciAnswers_length]
  | @accepted tally after write writes refused room signal _ ih =>
    obtain ⟨attempts, rfl⟩ : ∃ more, attempts = more + 1 := ⟨attempts - 1, by simp at few; omega⟩
    rw [SendQueue.full, answers] at room
    have free : ¬ dci.available < 2 := of_decide_eq_false room
    obtain ⟨full, _⟩ | ⟨_, result, next, wqe, emission, paired', posted, entry, size⟩ :=
      paired.emitDciWriteImm (endpoint.writeParams write) (endpoint.wqeEntry write)
    · exact absurd full free
    have available : next.available = dci.available - 2 := by
      have order := paired.laid.retired_le
      rw [paired'.available_eq, paired.available_eq, size, posted, List.length_append,
        List.length_singleton]
      omega
    have told : (tally.accept write).dci.answers = dciAnswers next.available attempts := by
      rw [available]
      change tally.dci.answers.tail = _
      rw [answers]
      rfl
    rw [List.length_cons] at few
    obtain ⟨later, sameSize, ⟨wqes, more, signals⟩, full, total⟩ := ih paired' told (by omega)
    have step : endpoint.emitAll dci (write :: writes) = endpoint.emitAll next writes := by
      rw [SendEndpoint.emitAll, List.foldl_cons, emission]
      rfl
    have own : wqe.signaled = write.signaled := by
      rw [Wqe.signaled, entry, SendEndpoint.wqeEntry]
      cases write.signaled <;> rfl
    rw [step]
    refine ⟨later, sameSize.trans size, ⟨wqe :: wqes, ?_, ?_⟩, full, ?_⟩
    · rw [more, posted, List.append_assoc]
      rfl
    · rw [List.map_cons, List.map_cons, own, signals]
    · rw [List.length_cons]
      omega

end Emits

namespace Refusal

/-- A signaled entry is posted whose completion was not reported yet. -/
def Awaits (refusal : Refusal) : Prop :=
  ∃ index wqe, refusal.reported ≤ index ∧ refusal.dci.posted[index]? = some wqe ∧
    wqe.signaled = true

structure Explained (wqeCnt : Nat) (refusal : Refusal) : Prop where
  refused : ∀ params entry, refusal.dci.emitDciWriteImm params entry = (.error .sqFull, refusal.dci)
  awaits : 2 * refusal.unsignaled < wqeCnt → refusal.Awaits

/-- A full queue without a signaled entry holds unsignaled WRITEs only. -/
theorem Explained.of_full {refusal : Refusal} (paired : refusal.dci.Paired refusal.reported)
    (full : refusal.dci.available < 2)
    (tail : unsignaledAfter 0 (refusal.dci.posted.map Wqe.signaled) ≤ refusal.unsignaled) :
    refusal.Explained refusal.dci.wqeCnt where
  refused params entry := by
    obtain ⟨_, refused⟩ | ⟨free, _⟩ := paired.emitDciWriteImm params entry
    · exact refused
    · omega
  awaits small := by
    apply Classical.byContradiction
    intro none
    have silent : ∀ wqe ∈ refusal.dci.posted.drop refusal.reported, wqe.signaled = false := by
      intro wqe member
      obtain ⟨offset, here⟩ := List.getElem?_of_mem member
      rw [List.getElem?_drop] at here
      rw [← Bool.not_eq_true]
      exact fun signaled => none ⟨_, wqe, Nat.le_add_right .., here, signaled⟩
    have outstanding := outstanding_le_unsignaled silent
    obtain ⟨half, size⟩ := paired.even
    rw [paired.available_eq] at full
    omega

end Refusal

namespace SendContext

/-- The counters are right; during a flush `newlySignaled` completions are not counted yet. -/
structure Counted (wqeCnt newlySignaled : Nat) (context : SendContext U) : Prop where
  size : context.dci.wqeCnt = wqeCnt
  paired : context.dci.Paired context.retired
  awaiting : Awaiting context.dci.posted context.retired context.sendCq context.reported
  pending : context.pendingSendCqes + newlySignaled =
    (context.dci.posted.drop context.retired).countP Wqe.signaled
  tail : unsignaledAfter 0 (context.dci.posted.map Wqe.signaled) ≤ context.unsignaledTotal
  quiet : ∀ endpoint ∈ context.endpoints, endpoint.inner.newlySignaledCount = 0
  spaced : ∀ endpoint ∈ context.endpoints, endpoint.inner.tally.Spaced
  explained : ∀ refusal ∈ context.refusals, refusal.Explained wqeCnt ∧
    refusal.unsignaled ≤ signalIntervalMask * context.endpoints.length

variable {wqeCnt newlySignaled : Nat} {context : SendContext U}

theorem unsignaledTotal_le
    (spaced : ∀ endpoint ∈ context.endpoints, endpoint.inner.tally.Spaced) :
    context.unsignaledTotal ≤ signalIntervalMask * context.endpoints.length := by
  have few : ∀ endpoint ∈ context.endpoints, endpoint.inner.unsignaledCount ≤ signalIntervalMask :=
    fun endpoint member => (spaced endpoint member).unsignaledCount_le
  have bound := List.sum_le_card_nsmul (context.endpoints.map (·.inner.unsignaledCount))
    signalIntervalMask (by simpa using few)
  rw [List.length_map] at bound
  exact bound.trans (Nat.le_of_eq (Nat.mul_comm ..))

theorem mem_of_endpoint (context : SendContext U) {id : Nat} {endpoint : SendEndpoint U}
    (here : context.endpoint id = some endpoint) : endpoint ∈ context.endpoints := by
  cases id with
  | zero => cases here
  | succ index => exact List.mem_of_getElem? here

theorem Operation.perform_tally (operation : Operation U) (ep : EndpointInner U) :
    (operation.perform ep).tally = ep.tally := by
  cases operation with
  | connect remote => rfl
  | call key data userData responseAllowance =>
    dsimp only [Operation.perform]
    unfold EndpointInner.call
    split
    · rfl
    · rename_i ring _
      rcases checkRoom_cases ep ring (dcPaddedMessageSize (asU32 data.length)) with
        ⟨_, result⟩ | ⟨_, _, result⟩
      · rw [result]
        rfl
      · rw [result]
        rfl
  | reply handle data =>
    dsimp only [Operation.perform]
    unfold EndpointInner.reply
    split
    · rfl
    · rename_i ring _
      rcases checkRoom_cases ep ring (dcPaddedMessageSize (asU32 data.length)) with
        ⟨_, result⟩ | ⟨_, _, result⟩
      · rw [result]
        rfl
      · rw [result]
        rfl
  | receive recvRing =>
    obtain ⟨_, _, _, _, _, _, shape⟩ :=
      processCqeStatic_shape { ep with recvRing } ep.endpointId
    dsimp only [Operation.perform]
    rw [shape]
    rfl

theorem sum_map_set {A : Type} (size : A → Nat) {entries : List A} {index : Nat} {entry : A}
    (here : entries[index]? = some entry) (replaced : A) :
    ∃ others, (entries.map size).sum = others + size entry ∧
      ((entries.set index replaced).map size).sum = others + size replaced := by
  induction entries generalizing index with
  | nil => cases here
  | cons first rest ih =>
    cases index with
    | zero =>
      cases here
      refine ⟨(rest.map size).sum, ?_, ?_⟩
      · rw [List.map_cons, List.sum_cons, Nat.add_comm]
      · rw [List.set_cons_zero, List.map_cons, List.sum_cons, Nat.add_comm]
    | succ index =>
      obtain ⟨others, before, after⟩ := ih here
      refine ⟨size first + others, ?_, ?_⟩
      · rw [List.map_cons, List.sum_cons, before, Nat.add_assoc]
      · rw [List.set_cons_succ, List.map_cons, List.sum_cons, after, Nat.add_assoc]

namespace Counted

theorem complete (counted : Counted wqeCnt newlySignaled context) :
    Counted wqeCnt newlySignaled context.complete := by
  unfold SendContext.complete
  split
  · exact counted
  · rename_i count wqe next
    exact { counted with awaiting := counted.awaiting.report next }

theorem pollSendCq (counted : Counted wqeCnt 0 context) :
    Counted wqeCnt 0 context.pollSendCq ∧ context.pollSendCq.sendCq = [] := by
  have pending := counted.pending
  have unread := counted.awaiting.countP_drop
  unfold SendContext.pollSendCq
  split
  · obtain ⟨paired, posted, size⟩ := counted.paired.dispatch counted.awaiting
    refine ⟨?_, rfl⟩
    exact { counted with
      size := size.trans counted.size
      paired
      awaiting := .nil _
      pending := by
        change context.pendingSendCqes - context.sendCq.length + 0 =
          (List.drop context.reported (context.dci.dispatch context.sendCq).posted).countP _
        rw [posted]
        omega
      tail := by
        rw [posted]
        exact counted.tail }
  · refine ⟨counted, List.eq_nil_of_length_eq_zero ?_⟩
    omega

section

variable (counted : Counted wqeCnt newlySignaled context)
include counted

variable {id : Nat} {endpoint : SendEndpoint U}

theorem replace (here : context.endpoint id = some endpoint)
    (replaced : SendEndpoint U) (signals : List Bool)
    (count : replaced.inner.unsignaledCount = unsignaledAfter endpoint.inner.unsignaledCount signals)
    (spaced : replaced.inner.tally.Spaced)
    (quiet : replaced.inner.newlySignaledCount = 0) :
    let endpoints := context.endpoints.set (id - 1) replaced
    unsignaledAfter 0 (context.dci.posted.map Wqe.signaled ++ signals) ≤
        (endpoints.map (·.inner.unsignaledCount)).sum ∧
      (∀ endpoint ∈ endpoints, endpoint.inner.newlySignaledCount = 0) ∧
      (∀ endpoint ∈ endpoints, endpoint.inner.tally.Spaced) := by
  intro endpoints
  cases id with
  | zero => cases here
  | succ index =>
    refine ⟨?_, ?_, ?_⟩
    · obtain ⟨others, before, after⟩ :=
        sum_map_set (fun endpoint : SendEndpoint U => endpoint.inner.unsignaledCount) here replaced
      have tail := counted.tail
      rw [SendContext.unsignaledTotal, before] at tail
      change _ ≤ ((context.endpoints.set index replaced).map _).sum
      rw [after, unsignaledAfter_append, count]
      exact unsignaledAfter_le signals tail
    · intro other member
      rcases List.mem_or_eq_of_mem_set member with old | rfl
      · exact counted.quiet other old
      · exact quiet
    · intro other member
      rcases List.mem_or_eq_of_mem_set member with old | rfl
      · exact counted.spaced other old
      · exact spaced

theorem pending_le : context.pendingSendCqes + newlySignaled ≤ 2 ^ 15 := by
  have pending := counted.pending
  have most : (context.dci.posted.drop context.retired).countP Wqe.signaled ≤ _ :=
    List.countP_le_length
  have window := counted.paired.window
  have bound := counted.paired.laid.bound
  rw [List.length_drop] at most
  omega

theorem pushDirty (id : Nat) : Counted wqeCnt newlySignaled (context.pushDirty id) ∧
      (context.pushDirty id).sendCq = context.sendCq := by
  unfold SendContext.pushDirty
  split
  · exact ⟨counted, rfl⟩
  · exact ⟨{ counted with }, rfl⟩

theorem absorb (here : context.endpoint id = some endpoint)
    {inner : EndpointInner U} {writes : List WriteImm} {refused : Bool}
    (emits : Emits (context.offer endpoint 2).tally writes refused inner.tally)
    (attempts : writes.length + refused.toNat ≤ 2) :
    Counted wqeCnt (newlySignaled + inner.newlySignaledCount) (context.absorb id endpoint inner) ∧
      (refused = true → (context.absorb id endpoint inner).dci.available < 2) := by
  have member : endpoint ∈ context.endpoints := context.mem_of_endpoint here
  have newly : inner.newlySignaledCount = writes.countP WriteImm.signaled := by
    have start : (context.offer endpoint 2).tally.newlySignaledCount = 0 := counted.quiet _ member
    have total := emits.newlySignaledCount (by rw [start]; omega)
    rwa [start, Nat.zero_add] at total
  have emitted : (context.absorb id endpoint inner).dci = endpoint.emitAll context.dci writes := by
    have posted : inner.dci.posted = endpoint.inner.dci.posted ++ writes := emits.posted
    rw [SendContext.absorb, posted, List.drop_left]
  obtain ⟨paired, size, ⟨wqes, posted, signals⟩, full, _⟩ :=
    emits.emitAll endpoint counted.paired rfl attempts
  rw [← emitted] at paired size posted full
  have before := counted.spaced _ member
  have after := emits.spaced ⟨before.count, before.few⟩
  obtain ⟨tail, quiet, spaced⟩ := counted.replace here
    { endpoint with inner := { inner with newlySignaledCount := 0 } } (writes.map WriteImm.signaled)
    emits.unsignaledCount ⟨after.count, after.few⟩ rfl
  refine ⟨?_, full⟩
  exact {
    size := size.trans counted.size
    paired
    awaiting := by
      rw [posted]
      exact counted.awaiting.post wqes
    pending := by
      have old := counted.pending
      have new : wqes.countP Wqe.signaled = writes.countP WriteImm.signaled := by
        have both := congrArg (List.countP fun signaled => signaled) signals
        rw [List.countP_map, List.countP_map] at both
        exact both
      have retired : (context.absorb id endpoint inner).retired = context.retired := rfl
      have pendingSame : (context.absorb id endpoint inner).pendingSendCqes =
        context.pendingSendCqes := rfl
      rw [posted, retired, pendingSame,
        List.drop_append_of_le_length counted.paired.laid.retired_le, List.countP_append, new, newly]
      omega
    tail := by
      rw [posted, List.map_append, signals]
      exact tail
    quiet
    spaced
    explained := by
      have same : (context.absorb id endpoint inner).endpoints.length = context.endpoints.length :=
        List.length_set ..
      rw [same]
      exact counted.explained }

variable (drained : context.sendCq = [])
include drained

theorem emitPending (here : context.endpoint id = some endpoint) :
    Counted wqeCnt (newlySignaled + (context.offer endpoint 2).emitPending.2.newlySignaledCount)
      (context.emitPending id endpoint).2.2 := by
  obtain ⟨writes, refused, emits, attempts⟩ := (context.offer endpoint 2).emitPending_emits
  obtain ⟨kept, full⟩ := counted.absorb here emits attempts
  have answered := (emits.emitAll endpoint counted.paired rfl attempts).2.2.2.2
  have posted := emits.posted
  dsimp only [SendContext.emitPending]
  generalize (context.offer endpoint 2).emitPending.2 = inner at emits kept full answered posted ⊢
  have accepted : inner.dci.posted.length = endpoint.inner.dci.posted.length + writes.length :=
    (congrArg List.length posted).trans List.length_append
  change inner.dci.answers.length + writes.length + refused.toNat = 2 at answered
  split
  · rename_i short
    have isRefused : refused = true := by
      cases refused with
      | true => rfl
      | false =>
        rw [Bool.toNat_false] at answered
        omega
    have caughtUp : context.reported = context.retired :=
      Awaiting.caughtUp (drained ▸ counted.awaiting)
    refine { kept with explained := ?_ }
    intro refusal listed
    rcases List.mem_append.mp listed with old | new
    · exact kept.explained refusal old
    · cases List.mem_singleton.mp new
      have paired : (context.absorb id endpoint inner).dci.Paired context.reported :=
        caughtUp.symm ▸ kept.paired
      have reason : (context.absorb id endpoint inner).refusal.Explained _ :=
        .of_full paired (full isRefused) kept.tail
      exact ⟨kept.size ▸ reason, unsignaledTotal_le kept.spaced⟩
  · exact kept

theorem flushTurn (id : Nat) :
    Counted wqeCnt (context.flushTurn newlySignaled id).2.1 (context.flushTurn newlySignaled id).2.2 ∧
      (context.flushTurn newlySignaled id).2.2.sendCq = [] := by
  obtain ⟨_, turn⟩ | ⟨endpoint, here, goesOn, marked, turn⟩ :=
    context.flushTurn_cases newlySignaled id
  · rw [turn]
    exact ⟨counted, drained⟩
  · rw [turn]
    obtain ⟨_, _, sameCq, _⟩ := context.emitPending_frame id endpoint
    have emitted := counted.emitPending drained here
    have bounded := emitted.pending_le
    have total : saturatingAdd newlySignaled
        (context.offer endpoint 2).emitPending.2.newlySignaledCount =
        newlySignaled + (context.offer endpoint 2).emitPending.2.newlySignaledCount := by
      unfold saturatingAdd
      omega
    rw [total]
    cases marked with
    | false => exact ⟨emitted, sameCq.trans drained⟩
    | true =>
      obtain ⟨pushed, cq⟩ := emitted.pushDirty id
      exact ⟨pushed, cq.trans (sameCq.trans drained)⟩

theorem flushLoop (fuel : Nat) :
    Counted wqeCnt (flushLoop fuel newlySignaled context).1
      (flushLoop fuel newlySignaled context).2 := by
  induction fuel generalizing context newlySignaled with
  | zero => exact counted
  | succ fuel ih =>
    unfold SendContext.flushLoop
    split
    · exact counted
    · rename_i id rest _
      have popped : Counted wqeCnt newlySignaled { context with dirtyEndpoints := rest } :=
        { counted with }
      obtain ⟨after, stillDrained⟩ := popped.flushTurn drained id
      split
      · rename_i newly next turn
        rw [turn] at after stillDrained
        exact ih after stillDrained
      · rename_i result turn
        rw [turn] at after
        exact after

end

theorem flushEndpoints (counted : Counted wqeCnt 0 context) :
    Counted wqeCnt 0 context.flushEndpoints := by
  obtain ⟨polled, drained⟩ := counted.pollSendCq
  have flushed := polled.flushLoop drained (2 * context.pollSendCq.dirtyEndpoints.length)
  have pending := flushed.pending_le
  refine { flushed with pending := Eq.trans ?_ flushed.pending }
  change saturatingAdd _ _ = _
  unfold saturatingAdd
  omega

theorem createEndpoint (counted : Counted wqeCnt newlySignaled context) (config : EndpointConfig)
    (recvRingMr : MemoryRegion) (sendRingMr : SendRegion) :
    Counted wqeCnt newlySignaled (context.createEndpoint config recvRingMr sendRingMr) := by
  refine { counted with tail := ?_, quiet := ?_, spaced := ?_, explained := ?_ }
  · refine counted.tail.trans ?_
    simp [SendContext.unsignaledTotal, SendContext.createEndpoint]
  · intro endpoint member
    rcases List.mem_append.mp member with old | new
    · exact counted.quiet endpoint old
    · cases List.mem_singleton.mp new
      rfl
  · intro endpoint member
    rcases List.mem_append.mp member with old | new
    · exact counted.spaced endpoint old
    · cases List.mem_singleton.mp new
      exact ⟨rfl, fun before reached => List.prefix_nil.mp reached ▸ Nat.zero_le _⟩
  · intro refusal listed
    obtain ⟨explained, most⟩ := counted.explained refusal listed
    refine ⟨explained, most.trans ?_⟩
    exact Nat.mul_le_mul_left _ (by simp [SendContext.createEndpoint])

theorem perform (counted : Counted wqeCnt newlySignaled context) {id : Nat}
    {endpoint : SendEndpoint U} (here : context.endpoint id = some endpoint)
    (operation : Operation U) :
    Counted wqeCnt newlySignaled
      (context.update id { endpoint with inner := operation.perform endpoint.inner }) := by
  have member : endpoint ∈ context.endpoints := context.mem_of_endpoint here
  have same := operation.perform_tally endpoint.inner
  obtain ⟨tail, quiet, spaced⟩ := counted.replace here
    { endpoint with inner := operation.perform endpoint.inner } []
    (congrArg Tally.unsignaledCount same) (same ▸ counted.spaced _ member)
    ((congrArg Tally.newlySignaledCount same).trans (counted.quiet _ member))
  rw [List.append_nil] at tail
  let after := { context with
    endpoints := context.endpoints.set (id - 1)
      { endpoint with inner := operation.perform endpoint.inner } }
  have replaced : Counted wqeCnt newlySignaled after := by
    refine { counted with tail, quiet, spaced, explained := ?_ }
    have same : after.endpoints.length = context.endpoints.length := List.length_set ..
    rw [same]
    exact counted.explained
  unfold SendContext.update
  split
  · exact (replaced.pushDirty id).1
  · exact replaced

/-- No flush is under way between two steps, so the counters are right after each. -/
theorem step (counted : Counted wqeCnt 0 context) (action : Action U) :
    Counted wqeCnt 0 (context.step action) := by
  cases action with
  | create config recvRingMr sendRingMr => exact counted.createEndpoint ..
  | perform id operation =>
    unfold SendContext.step
    dsimp only
    split
    · exact counted
    · rename_i endpoint here
      exact counted.perform here operation
  | flush => exact counted.flushEndpoints
  | complete => exact counted.complete

theorem build (sqn : Nat) (buf : Memory) (power : wqeCnt.isPowerOfTwo) (roomy : 32 ≤ wqeCnt)
    (bound : wqeCnt ≤ 2 ^ 15) : Counted wqeCnt 0 (build wqeCnt sqn buf : SendContext U) where
  size := rfl
  paired := .new sqn buf power (by omega) bound
  awaiting := .nil _
  pending := rfl
  tail := Nat.le_refl _
  quiet := nofun
  spaced := nofun
  explained := nofun

end Counted

/-- When an emission is refused while the endpoints count fewer unsignaled WRITEs than fill the
queue, some signaled WRITE is still to complete. -/
theorem refusals_await_completion {wqeCnt : Nat} (power : wqeCnt.isPowerOfTwo)
    (roomy : 32 ≤ wqeCnt) (bound : wqeCnt ≤ 2 ^ 15) (sqn : Nat) (buf : Memory)
    (actions : List (Action U)) :
    let context := run step (build wqeCnt sqn buf) actions
    ∀ refusal ∈ context.refusals, (∀ params entry,
        refusal.dci.emitDciWriteImm params entry = (.error .sqFull, refusal.dci)) ∧
      (2 * refusal.unsignaled < wqeCnt →
        ∃ index wqe, refusal.reported ≤ index ∧ refusal.dci.posted[index]? = some wqe ∧
          wqe.signaled = true) ∧
      refusal.unsignaled ≤ 7 * context.endpoints.length := by
  intro context refusal listed
  have counted : Counted wqeCnt 0 context :=
    run_always (fun _ action counted => counted.step action) (.build sqn buf power roomy bound)
  obtain ⟨⟨refused, awaits⟩, most⟩ := counted.explained refusal listed
  exact ⟨refused, awaits, most⟩

/-- A new endpoint that has connected to a peer. -/
def join (id : Nat) : List (Action Nat) :=
  [.create { sendRingSize := 4096, recvRingSize := 4096 } { addr := 0, rkey := 1 }
      { addr := 8192, lkey := 2 },
    .perform id (.connect {
      dctNumber := 7, dcKey := 11, recvRingAddr := 0, recvRingRkey := 1, recvRingSize := 4096,
      initialCredit := 2048, endpointId := 1, localIdentifier := 5 })]

/-- One endpoint fills the queue, and has signaled two of its WRITEs. -/
def oneCaller : List (Action Nat) :=
  join 1 ++ (List.replicate 17 [.perform 1 (.call 0 [] 0 0), .flush]).flatten

theorem refusals_await_completion_oneCaller :
    let context := run step (build 32 1 fun _ => 0) oneCaller
    ∃ refusal ∈ context.refusals, refusal.unsignaled = 0 ∧
      ∃ index wqe, refusal.reported ≤ index ∧ refusal.dci.posted[index]? = some wqe ∧
        wqe.signaled = true := by
  intro context
  have evaluated : context.refusals.map (fun refusal => refusal.unsignaled) = [0] := by
    decide +kernel
  obtain ⟨refusal, same, none⟩ := List.map_eq_singleton_iff.mp evaluated
  have listed : refusal ∈ context.refusals := same ▸ List.mem_singleton_self refusal
  have reason := refusals_await_completion ⟨5, rfl⟩ (by decide) (by decide) 1 (fun _ => 0)
    oneCaller refusal listed
  exact ⟨refusal, listed, none, reason.2.1 (by rw [none]; decide)⟩

/-- Signaled WRITEs are counted until they are retired, and of eight WRITEs in a row of an endpoint
one is signaled. -/
theorem send_cqes_exact {wqeCnt : Nat} (power : wqeCnt.isPowerOfTwo)
    (roomy : 32 ≤ wqeCnt) (bound : wqeCnt ≤ 2 ^ 15) (sqn : Nat) (buf : Memory)
    (actions : List (Action U)) :
    let context := run step (build wqeCnt sqn buf) actions
    context.pendingSendCqes = (context.dci.posted.drop context.retired).countP Wqe.signaled ∧
      ∀ endpoint ∈ context.endpoints,
        endpoint.inner.unsignaledCount =
            unsignaledAfter 0 (endpoint.inner.dci.posted.map WriteImm.signaled) ∧
          endpoint.inner.unsignaledCount ≤ 7 ∧
          ∀ before eight after, endpoint.inner.dci.posted = before ++ eight ++ after →
            eight.length = 8 → ∃ write ∈ eight, write.signaled = true := by
  intro context
  have counted : Counted wqeCnt 0 context :=
    run_always (fun _ action counted => counted.step action) (.build sqn buf power roomy bound)
  refine ⟨counted.pending, fun endpoint member => ?_⟩
  have spaced := counted.spaced endpoint member
  exact ⟨spaced.count, spaced.unsignaledCount_le,
    fun _ _ _ parts eight => spaced.signaled_mem parts (Nat.le_of_eq eight.symm)⟩

/-- Nine WRITEs of one endpoint: the eighth is signaled and counted, the ninth follows it. -/
theorem send_cqes_exact_nine :
    let context := run step (build 32 1 fun _ => 0)
      (join 1 ++ (List.replicate 9 [.perform 1 (.call 0 [] 0 0), .flush]).flatten)
    (context.dci.posted.drop context.retired).countP Wqe.signaled = 1 ∧
      ∀ endpoint ∈ context.endpoints,
        unsignaledAfter 0 (endpoint.inner.dci.posted.map WriteImm.signaled) = 1 := by
  intro context
  have pending : context.pendingSendCqes = 1 := by decide +kernel
  have counts : context.endpoints.map (·.inner.unsignaledCount) = [1] := by decide +kernel
  obtain ⟨total, spaced⟩ := send_cqes_exact ⟨5, rfl⟩ (by decide) (by decide) 1 (fun _ => 0)
    (join 1 ++ (List.replicate 9 [.perform 1 (.call 0 [] 0 0), .flush]).flatten)
  rw [← total, pending]
  refine ⟨rfl, fun endpoint member => ?_⟩
  have listed : endpoint.inner.unsignaledCount ∈ context.endpoints.map (·.inner.unsignaledCount) :=
    List.mem_map.mpr ⟨endpoint, member, rfl⟩
  rw [counts, List.mem_singleton] at listed
  rw [← (spaced endpoint member).1, listed]

/-- Seventeen endpoints make one call each. -/
def manyCallers : List (Action Nat) :=
  ((List.range 17).map fun index =>
    join (index + 1) ++ [.perform (index + 1) (.call 0 [] 0 0)]).flatten ++ [.flush]

/-- Sixteen WRITEs fill the queue, none of them signaled. -/
theorem unsignaled_writes_fill_queue :
    let context := run step (build 32 1 fun _ => 0) manyCallers
    context.refusals.map (fun refusal =>
        (refusal.reported, refusal.dci.available, refusal.dci.posted.map Wqe.signaled)) =
      [(0, 0, List.replicate 16 false)] := by
  decide +kernel

end SendContext

end Locasta.Copyrpc.Dc
