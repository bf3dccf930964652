import Locasta.Scalerpc.Server

namespace Locasta.Scalerpc

open Data Function

/-! What an error of `fetch_warmup_requests` does to the batches that are announced. -/

namespace RpcServer

def HasNewBatch (server : RpcServer) (connId : Nat) : Prop :=
  connId < server.maxConnections ∧ (server.endpointEntries connId).seq > server.lastSeqs connId ∧
    (server.endpointEntries connId).batchSize > 0

instance (server : RpcServer) (connId : Nat) : Decidable (server.HasNewBatch connId) :=
  inferInstanceAs (Decidable (_ ∧ _))

/-- The READs of the whole batch have their slots on both sides. -/
def Covers (server : RpcServer) (connId : Nat) : Prop :=
  (server.endpointEntries connId).batchSize ≤ (server.mapping connId).length ∧
    ∃ slots, server.warmupBufferInfos connId = some slots ∧
      (server.endpointEntries connId).batchSize ≤ slots

/-- The loop ends with an error at this connection. -/
def Aborts (server : RpcServer) (reads : Nat → Option (List (Option Request))) (connId : Nat) :
    Prop :=
  server.HasNewBatch connId ∧ ∃ slots, server.warmupBufferInfos connId = some slots ∧ 0 < slots ∧
    (reads connId = none ∨
      (server.mapping connId).length < min (server.endpointEntries connId).batchSize slots)

/-- The loop comes to the connection: it is in the list, and none before it aborts. -/
def Reaches (server : RpcServer) (reads : Nat → Option (List (Option Request))) (connId : Nat) :
    List Nat → Prop
  | [] => False
  | other :: rest => other = connId ∨ ¬ server.Aborts reads other ∧ server.Reaches reads connId rest

/-- The call that led to `after` has fetched the whole batch, or it is still announced. -/
def Keeps (server after : RpcServer) (connId : Nat) : Prop :=
  let batch := (connId, server.endpointEntries connId)
  server.fetchedBatches.count batch < after.fetchedBatches.count batch ∨ after.HasNewBatch connId

/-- What a turn for the connection fetches that does not abort. -/
def taken (server : RpcServer) (connId : Nat) : List (Nat × EndpointEntry) :=
  match server.warmupBufferInfos connId with
  | some (slots + 1) =>
    if server.HasNewBatch connId then
      [(connId, { server.endpointEntries connId with
        batchSize := min (server.endpointEntries connId).batchSize (slots + 1) })]
    else []
  | _ => []

/-- What a turn of the loop does that does not abort. -/
structure Passes (server : RpcServer) (connId : Nat) (after : RpcServer) : Prop where
  maxConnections : after.maxConnections = server.maxConnections
  mapping : after.mapping = server.mapping
  infos : after.warmupBufferInfos = server.warmupBufferInfos
  elsewhere : ∀ other ≠ connId, after.endpointEntries other = server.endpointEntries other ∧
    after.lastSeqs other = server.lastSeqs other
  seen : ¬ after.HasNewBatch connId
  fetched : after.fetchedBatches = server.fetchedBatches ++ server.taken connId

/-- The server once `has_new_batch` has returned the entry of the connection. -/
def noteBatch (server : RpcServer) (connId : Nat) : RpcServer :=
  { server with lastSeqs := update server.lastSeqs connId (server.endpointEntries connId).seq }

variable {server after : RpcServer} {connId other : Nat}
  {reads : Nat → Option (List (Option Request))}

theorem noteBatch_seen (server : RpcServer) (connId : Nat) :
    ¬ (server.noteBatch connId).HasNewBatch connId := by
  simp [HasNewBatch, noteBatch]

theorem noteBatch_elsewhere (server : RpcServer) {connId other : Nat} (different : other ≠ connId) :
    (server.noteBatch connId).HasNewBatch other ↔ server.HasNewBatch other := by
  simp [HasNewBatch, noteBatch, different]

theorem Passes.noteBatch (nothing : server.taken connId = []) :
    server.Passes connId (server.noteBatch connId) where
  maxConnections := rfl
  mapping := rfl
  infos := rfl
  elsewhere _ different := ⟨rfl, update_of_ne different _ _⟩
  seen := server.noteBatch_seen connId
  fetched := by simp [nothing, RpcServer.noteBatch]

/-- One turn of the loop. -/
theorem fetchLoop_cons (reads : Nat → Option (List (Option Request))) (server : RpcServer)
    (connId : Nat) (rest : List Nat) (fetched lastSeq : Nat) :
    (server.Aborts reads connId ∧ fetchLoop reads (connId :: rest) server fetched lastSeq =
        (false, server.noteBatch connId, fetched, lastSeq)) ∨
      ¬ server.Aborts reads connId ∧ ∃ after fetched' lastSeq', server.Passes connId after ∧
        fetchLoop reads (connId :: rest) server fetched lastSeq =
          fetchLoop reads rest after fetched' lastSeq' := by
  rw [fetchLoop]
  dsimp only
  by_cases new : server.HasNewBatch connId
  · rw [if_pos (by exact new)]
    cases known : server.warmupBufferInfos connId with
    | none =>
      refine .inr ⟨by simp [Aborts, known], _, _, _, .noteBatch ?_, rfl⟩
      simp [taken, known]
    | some slots =>
      cases slots with
      | zero =>
        have noted : server.Passes connId (server.noteBatch connId) :=
          .noteBatch (by simp [taken, known])
        dsimp only
        unfold fetchBatch
        rw [if_pos (Nat.min_zero _)]
        refine .inr ⟨by simp [Aborts, known], _, _, _, ?_, rfl⟩
        exact { noted with
          elsewhere := fun other different =>
            ⟨update_of_ne different _ _, (noted.elsewhere other different).2⟩
          seen := by simp [HasNewBatch] }
      | succ slots =>
        have positive : min (server.endpointEntries connId).batchSize (slots + 1) ≠ 0 := by
          have := new.2.2
          omega
        dsimp only
        unfold fetchBatch
        rw [if_neg positive]
        cases read : reads connId with
        | none => exact .inl ⟨⟨new, _, known, slots.succ_pos, .inl read⟩, rfl⟩
        | some contents =>
          dsimp only
          by_cases room : (server.mapping connId).length <
              min (server.endpointEntries connId).batchSize (slots + 1)
          · rw [if_pos room]
            exact .inl ⟨⟨new, _, known, slots.succ_pos, .inr room⟩, rfl⟩
          · rw [if_neg room]
            refine .inr ⟨by simp [Aborts, known, read]; omega, _, _, _, ?_, rfl⟩
            exact {
              maxConnections := rfl
              mapping := rfl
              infos := rfl
              elsewhere := fun other different =>
                ⟨update_of_ne different _ _, update_of_ne different _ _⟩
              seen := by simp [HasNewBatch]
              fetched := by simp [taken, known, new] }
  · rw [if_neg (by exact new)]
    refine .inr ⟨fun aborts => new aborts.1, _, _, _,
      ⟨rfl, rfl, rfl, fun _ _ => ⟨rfl, rfl⟩, new, ?_⟩, rfl⟩
    unfold taken
    split <;> simp [new]

namespace Passes

variable (passes : server.Passes other after)
include passes

theorem hasNewBatch (different : connId ≠ other) :
    after.HasNewBatch connId ↔ server.HasNewBatch connId := by
  obtain ⟨entry, seq⟩ := passes.elsewhere connId different
  rw [HasNewBatch, entry, seq, passes.maxConnections, HasNewBatch]

theorem aborts (different : connId ≠ other) :
    after.Aborts reads connId ↔ server.Aborts reads connId := by
  rw [Aborts, passes.hasNewBatch different, passes.infos, passes.mapping,
    (passes.elsewhere connId different).1, Aborts]

theorem reaches (going : ¬ server.Aborts reads other) (connIds : List Nat) :
    after.Reaches reads connId connIds ↔ server.Reaches reads connId connIds := by
  induction connIds with
  | nil => rfl
  | cons first rest ih =>
    by_cases same : first = other
    · subst same
      have stays : ¬ after.Aborts reads first := fun aborts => passes.seen aborts.1
      simp only [Reaches, ih, going, stays]
    · simp only [Reaches, ih, passes.aborts same]

theorem taken (different : connId ≠ other) : after.taken connId = server.taken connId := by
  unfold RpcServer.taken
  rw [passes.infos, (passes.elsewhere connId different).1]
  simp only [passes.hasNewBatch different]

theorem count (different : connId ≠ other) (entry : EndpointEntry) :
    after.fetchedBatches.count (connId, entry) = server.fetchedBatches.count (connId, entry) := by
  rw [passes.fetched, List.count_append, Nat.add_eq_left, List.count_eq_zero]
  unfold RpcServer.taken
  repeat' split
  all_goals simp [different]

end Passes

theorem fetchLoop_seen (connIds : List Nat) : ∀ (server : RpcServer) (fetched lastSeq : Nat),
    ¬ server.HasNewBatch connId →
    let after := (fetchLoop reads connIds server fetched lastSeq).2.1
    ¬ after.HasNewBatch connId ∧ ∀ entry, after.fetchedBatches.count (connId, entry) =
      server.fetchedBatches.count (connId, entry) := by
  induction connIds with
  | nil => exact fun _ _ _ seen => ⟨seen, fun _ => rfl⟩
  | cons other rest ih =>
    intro server fetched lastSeq seen
    rcases fetchLoop_cons reads server other rest fetched lastSeq with
      ⟨aborts, stopped⟩ | ⟨-, after, _, _, passes, continued⟩
    · have different : connId ≠ other := fun same => seen (same ▸ aborts.1)
      rw [stopped]
      exact ⟨mt (server.noteBatch_elsewhere different).mp seen, fun _ => rfl⟩
    · rw [continued]
      by_cases same : connId = other
      · subst same
        have nothing : server.taken connId = [] := by
          unfold taken
          split <;> simp [seen]
        have fetched := passes.fetched
        rw [nothing, List.append_nil] at fetched
        rw [← fetched]
        exact ih _ _ _ passes.seen
      · obtain ⟨stays, counts⟩ := ih _ _ _ (mt (passes.hasNewBatch same).mp seen)
        exact ⟨stays, fun entry => (counts entry).trans (passes.count same entry)⟩

theorem fetchLoop_unreached (connIds : List Nat) : ∀ (server : RpcServer) (fetched lastSeq : Nat),
    ¬ server.Reaches reads connId connIds →
    ((fetchLoop reads connIds server fetched lastSeq).2.1.HasNewBatch connId ↔
      server.HasNewBatch connId) := by
  induction connIds with
  | nil => exact fun _ _ _ _ => .rfl
  | cons other rest ih =>
    intro server fetched lastSeq apart
    have different : connId ≠ other := fun same => apart (.inl same.symm)
    rcases fetchLoop_cons reads server other rest fetched lastSeq with
      ⟨-, stopped⟩ | ⟨going, after, _, _, passes, continued⟩
    · rw [stopped]
      exact server.noteBatch_elsewhere different
    · have behind : ¬ after.Reaches reads connId rest :=
        fun reaches => apart (.inr ⟨going, (passes.reaches going rest).mp reaches⟩)
      rw [continued, ih _ _ _ behind, passes.hasNewBatch different]

theorem fetchLoop_reached (connIds : List Nat) : ∀ (server : RpcServer) (fetched lastSeq : Nat),
    server.HasNewBatch connId → server.Reaches reads connId connIds →
    let after := (fetchLoop reads connIds server fetched lastSeq).2.1
    let batch := (connId, server.endpointEntries connId)
    ¬ after.HasNewBatch connId ∧
      (server.fetchedBatches.count batch < after.fetchedBatches.count batch ↔
        ¬ server.Aborts reads connId ∧ batch ∈ server.taken connId) := by
  induction connIds with
  | nil => exact fun _ _ _ _ reaches => reaches.elim
  | cons other rest ih =>
    intro server fetched lastSeq new reaches
    by_cases same : connId = other
    · subst same
      rcases fetchLoop_cons reads server connId rest fetched lastSeq with
        ⟨aborts, stopped⟩ | ⟨going, after, _, _, passes, continued⟩
      · rw [stopped]
        exact ⟨server.noteBatch_seen connId,
          iff_of_false (Nat.lt_irrefl _) fun fetches => fetches.1 aborts⟩
      · rw [continued]
        obtain ⟨seen, counts⟩ := fetchLoop_seen rest _ _ _ passes.seen
        refine ⟨seen, ?_⟩
        rw [counts, passes.fetched, List.count_append]
        simp [going, List.count_pos_iff]
    · have behind := reaches.resolve_left (Ne.symm same)
      rcases fetchLoop_cons reads server other rest fetched lastSeq with
        ⟨aborts, -⟩ | ⟨going, after, fetched', lastSeq', passes, continued⟩
      · exact absurd aborts behind.1
      · have later := ih after fetched' lastSeq' ((passes.hasNewBatch same).mpr new)
          ((passes.reaches going rest).mpr behind.2)
        rw [continued]
        dsimp only at later ⊢
        rwa [passes.taken same, passes.aborts same, (passes.elsewhere connId same).1,
          passes.count same] at later

theorem taken_covers (new : server.HasNewBatch connId) :
    ¬ server.Aborts reads connId ∧ (connId, server.endpointEntries connId) ∈ server.taken connId ↔
      server.Covers connId ∧ reads connId ≠ none := by
  have positive := new.2.2
  unfold taken Aborts Covers
  cases server.warmupBufferInfos connId with
  | none => simp
  | some slots =>
    cases slots with
    | zero => simp [Nat.ne_of_gt positive]
    | succ slots =>
      simp [new, EndpointEntry.ext_iff]
      grind

/-- An announced batch is fetched as a whole or stays announced, exactly if the loop ends before it
comes to its connection, or all its requests have slots on both sides and their READs complete. -/
theorem fetch_keeps_batches (server : RpcServer) (reads : Nat → Option (List (Option Request)))
    (connId : Nat) (new : server.HasNewBatch connId) :
    server.Keeps (server.fetchWarmupRequests reads).1 connId ↔
      ¬ server.Reaches reads connId server.scheduler.nextGroupConnections ∨
        server.Covers connId ∧ reads connId ≠ none := by
  have result : (server.fetchWarmupRequests reads).1 =
      (fetchLoop reads server.scheduler.nextGroupConnections server 0 0).2.1 := by
    unfold fetchWarmupRequests
    split <;> rename_i looped <;> rw [looped]
  rw [result]
  by_cases reaches : server.Reaches reads connId server.scheduler.nextGroupConnections
  · obtain ⟨seen, fetched⟩ := fetchLoop_reached _ _ 0 0 new reaches
    simp only [Keeps, seen, fetched, reaches, or_false, not_true, false_or]
    exact taken_covers new
  · exact iff_of_true (.inr ((fetchLoop_unreached _ _ _ _ reaches).mpr new)) (.inl reaches)

def twoAnnounced (batchSize : Nat) : List Action :=
  [.addConnection, .addConnection, .connectWarmup 0 16, .connectWarmup 1 16,
    .writeEntry 0 { batchSize, seq := 1 }, .writeEntry 1 { batchSize := 1, seq := 1 }]

/-- The READs for connection 0 time out; connection 1 can be fetched later. -/
theorem fetch_keeps_batches_timeout :
    let server := run next (new 2 2 1) (twoAnnounced 1)
    let reads connId := if connId = 0 then none else some []
    server.Keeps (server.fetchWarmupRequests reads).1 1 :=
  (fetch_keeps_batches (run next (new 2 2 1) (twoAnnounced 1)) _ 1 (by decide)).mpr
    (.inr ⟨⟨by decide, 16, rfl, by decide⟩, by decide⟩)

/-- There is no mapping slot for the second request of connection 0. -/
theorem failed_fetch_forgets_batch :
    let server := run next (new 2 2 1) (twoAnnounced 2)
    let reads := fun _ => some []
    let after := (server.fetchWarmupRequests reads).1
    (fetchLoop reads server.scheduler.nextGroupConnections server 0 0).1 = false ∧
      server.HasNewBatch 0 ∧ after.endpointEntries 0 = server.endpointEntries 0 ∧
      after.fetchedBatches = [] ∧ ¬ after.HasNewBatch 0 := by
  decide

end RpcServer

end Locasta.Scalerpc
