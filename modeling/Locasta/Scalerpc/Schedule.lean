import Locasta.Scalerpc.Server

namespace Locasta.Scalerpc

open Data Function

/-! The pools are swapped when the group changes.

Batches are fetched for the next group. They are in the right place if the next change of the group
goes exactly there, and comes with a swap.
-/

namespace GroupScheduler

variable {scheduler : GroupScheduler}

theorem skipEmpty_here {turns next : Nat} (some_turns : 0 < turns)
    (used : scheduler.connectionsOf next ≠ []) : scheduler.skipEmpty turns next = next := by
  cases turns with
  | zero => exact absurd some_turns (Nat.lt_irrefl 0)
  | succ turns => rw [skipEmpty, if_pos used]

theorem length_pos_of_connections {group : Nat} (used : scheduler.connectionsOf group ≠ []) :
    0 < scheduler.groups.length := by
  by_contra empty
  have none_there : scheduler.groups = [] := List.length_eq_zero_iff.mp (by omega)
  apply used
  rw [connectionsOf, none_there]
  rfl

theorem doContextSwitch_next (follows : 0 < scheduler.groups.length →
      scheduler.nextGroup = (scheduler.currentGroup + 1) % scheduler.groups.length)
    (used : scheduler.nextGroupConnections ≠ []) :
    scheduler.doContextSwitch.currentGroup = scheduler.nextGroup := by
  have positive := length_pos_of_connections used
  unfold doContextSwitch
  dsimp only
  rw [← follows positive]
  exact skipEmpty_here positive used

theorem addConnection_groups (scheduler : GroupScheduler) (connId : Nat) :
    (scheduler.addConnection connId).groups.length = scheduler.groups.length :=
  List.length_modify ..

theorem addConnection_follows (connId : Nat) (follows : 0 < scheduler.groups.length →
      scheduler.nextGroup = (scheduler.currentGroup + 1) % scheduler.groups.length) :
    0 < (scheduler.addConnection connId).groups.length →
      (scheduler.addConnection connId).nextGroup =
        ((scheduler.addConnection connId).currentGroup + 1) %
          (scheduler.addConnection connId).groups.length := by
  rw [addConnection_groups]
  exact follows

theorem connectionsOf_addConnection (scheduler : GroupScheduler) (connId group : Nat) :
    (scheduler.addConnection connId).connectionsOf group =
      if connId % scheduler.groups.length = group ∧ group < scheduler.groups.length then
        scheduler.connectionsOf group ++ [connId]
      else scheduler.connectionsOf group := by
  unfold connectionsOf addConnection
  rw [List.getD_eq_getElem?_getD, List.getElem?_modify, List.getD_eq_getElem?_getD]
  by_cases inside : group < scheduler.groups.length
  · rw [List.getElem?_eq_getElem inside]
    by_cases here : connId % scheduler.groups.length = group
    · simp [here, inside]
    · simp [here]
  · rw [List.getElem?_eq_none (Nat.not_lt.mp inside)]
    simp [inside]

theorem mem_connectionsOf_addConnection {conn group : Nat} (connId : Nat)
    (member : conn ∈ scheduler.connectionsOf group) :
    conn ∈ (scheduler.addConnection connId).connectionsOf group := by
  rw [connectionsOf_addConnection]
  split
  · exact List.mem_append_left _ member
  · exact member

end GroupScheduler

namespace RpcServer

variable {server after : RpcServer}

theorem checkSlotForRequest_spec {slot : Nat} {request : Request}
    (result : server.checkSlotForRequest slot = some (request, after)) :
    slot < server.numSlots ∧ server.processingPool slot = some request ∧ after = { server with
        processingPool := update server.processingPool slot none
        returned := server.returned ++ [request] } := by
  unfold checkSlotForRequest at result
  split at result
  · rename_i inside
    obtain ⟨found, there, same⟩ := Option.map_eq_some_iff.mp result
    cases same
    exact ⟨inside, there, rfl⟩
  · cases result

theorem pollRequest_spec {request : Request} (result : server.pollRequest = some (request, after)) :
    ∃ slot expected, slot < server.numSlots ∧ server.processingPool slot = some request ∧
      after = { server with
        processingPool := update server.processingPool slot none
        returned := server.returned ++ [request]
        nextExpectedSlot := expected } := by
  obtain ⟨connId, _, polled⟩ := List.exists_of_findSome?_eq_some result
  obtain ⟨idx, _, checked⟩ := List.exists_of_findSome?_eq_some polled
  obtain ⟨slot, _, taken⟩ := Option.bind_eq_some_iff.mp checked
  obtain ⟨⟨found, between⟩, cleared, same⟩ := Option.map_eq_some_iff.mp taken
  cases same
  obtain ⟨inside, there, rfl⟩ := checkSlotForRequest_spec cleared
  exact ⟨slot, _, inside, there, rfl⟩

/-- What a fetch for these connections leaves alone, and whose batches it brings. -/
structure Fetched (connIds : List Nat) (before after : RpcServer) : Prop where
  scheduler : after.scheduler = before.scheduler
  numSlots : after.numSlots = before.numSlots
  maxConnections : after.maxConnections = before.maxConnections
  numConnections : after.numConnections = before.numConnections
  mapping : after.mapping = before.mapping
  processingPool : after.processingPool = before.processingPool
  returned : after.returned = before.returned
  notified : after.notified = before.notified
  swaps : after.swaps = before.swaps
  switches : after.switches = before.switches
  batches : ∀ connId ∈ after.batches, connId ∈ before.batches ∨ connId ∈ connIds

namespace Fetched

variable {first second : List Nat} {before between : RpcServer}

theorem trans (left : Fetched first before between) (right : Fetched second between after)
    {connIds : List Nat} (here : ∀ connId ∈ first, connId ∈ connIds)
    (there : ∀ connId ∈ second, connId ∈ connIds) : Fetched connIds before after where
  scheduler := right.scheduler.trans left.scheduler
  numSlots := right.numSlots.trans left.numSlots
  maxConnections := right.maxConnections.trans left.maxConnections
  numConnections := right.numConnections.trans left.numConnections
  mapping := right.mapping.trans left.mapping
  processingPool := right.processingPool.trans left.processingPool
  returned := right.returned.trans left.returned
  notified := right.notified.trans left.notified
  swaps := right.swaps.trans left.swaps
  switches := right.switches.trans left.switches
  batches := by
    intro connId member
    rcases right.batches connId member with early | late
    · exact (left.batches connId early).imp_right (here connId)
    · exact .inr (there connId late)

theorem refl (connIds : List Nat) (server : RpcServer) : Fetched connIds server server where
  scheduler := rfl
  numSlots := rfl
  maxConnections := rfl
  numConnections := rfl
  mapping := rfl
  processingPool := rfl
  returned := rfl
  notified := rfl
  swaps := rfl
  switches := rfl
  batches _ member := .inl member

theorem lastSeqs (server : RpcServer) (lastSeqs : Nat → Nat) :
    Fetched [] server { server with lastSeqs } :=
  { refl [] server with }

theorem fetchBatch {connId seq batchSize : Nat} {contents : Option (List (Option Request))}
    (result : before.fetchBatch connId seq batchSize contents = some after) :
    Fetched [connId] before after := by
  unfold RpcServer.fetchBatch at result
  split at result
  · cases result
    exact { refl [connId] before with }
  · split at result
    · cases result
    · split at result
      · cases result
      · cases result
        exact { refl [connId] before with
          batches := fun other member => by
            rcases List.mem_append.mp member with early | late
            · exact .inl early
            · exact .inr late }

theorem fetchLoop {reads : Nat → Option (List (Option Request))} {connIds : List Nat} :
    ∀ {server after : RpcServer} {fetched lastSeq fetched' lastSeq' : Nat} {complete : Bool},
      fetchLoop reads connIds server fetched lastSeq = (complete, after, fetched', lastSeq') →
      Fetched connIds server after := by
  induction connIds with
  | nil =>
    intro server after fetched lastSeq fetched' lastSeq' complete result
    cases result
    exact refl [] server
  | cons connId rest ih =>
    intro server after fetched lastSeq fetched' lastSeq' complete result
    have tail : ∀ other ∈ rest, other ∈ connId :: rest := fun _ => List.mem_cons_of_mem _
    unfold RpcServer.fetchLoop at result
    dsimp only at result
    split at result
    · have noted := lastSeqs server
        (update server.lastSeqs connId (server.endpointEntries connId).seq)
      split at result
      · exact noted.trans (ih result) nofun tail
      · split at result
        · cases result
          exact noted.trans (refl [] _) nofun nofun
        · rename_i between batch
          have first := noted.trans (fetchBatch batch) nofun
            (fun other member => member : ∀ other ∈ [connId], other ∈ [connId])
          refine first.trans (ih result) ?_ tail
          intro other member
          rw [List.mem_singleton.mp member]
          exact List.mem_cons_self
    · exact (refl [] server).trans (ih result) nofun tail

theorem fetchWarmupRequests (server : RpcServer) (reads : Nat → Option (List (Option Request))) :
    Fetched server.scheduler.nextGroupConnections server (server.fetchWarmupRequests reads).1 := by
  unfold RpcServer.fetchWarmupRequests
  split
  · rename_i result looped
    exact fetchLoop looped
  · rename_i between _ _ looped
    exact fetchLoop looped

end Fetched

/-- Batches are fetched for the next group, every swap found them, and each change had its swap. -/
structure Scheduled (server : RpcServer) : Prop where
  follows : 0 < server.scheduler.groups.length → server.scheduler.nextGroup =
      (server.scheduler.currentGroup + 1) % server.scheduler.groups.length
  waiting : ∀ connId ∈ server.batches, connId ∈ server.scheduler.nextGroupConnections
  swapped : ∀ entry ∈ server.swaps, ∀ connId ∈ entry.1,
    connId ∈ server.scheduler.connectionsOf entry.2
  paired : server.switches = server.swaps.length

namespace Scheduled

variable (scheduled : Scheduled server)
include scheduled

theorem of_same (scheduler : after.scheduler = server.scheduler)
    (batches : after.batches = server.batches) (swaps : after.swaps = server.swaps)
    (switches : after.switches = server.switches) : Scheduled after where
  follows := by rw [scheduler]; exact scheduled.follows
  waiting := by rw [batches, scheduler]; exact scheduled.waiting
  swapped := by rw [swaps, scheduler]; exact scheduled.swapped
  paired := by rw [switches, swaps]; exact scheduled.paired

theorem switch : Scheduled server.switchGroup.swapPools where
  follows _ := rfl
  waiting _ member := absurd member List.not_mem_nil
  swapped := by
    intro entry member connId batch
    rcases List.mem_append.mp member with early | late
    · exact scheduled.swapped entry early connId batch
    · obtain rfl := List.mem_singleton.mp late
      have there := scheduled.waiting connId batch
      have same := GroupScheduler.doContextSwitch_next scheduled.follows (List.ne_nil_of_mem there)
      change connId ∈ server.scheduler.connectionsOf server.scheduler.doContextSwitch.currentGroup
      rw [same]
      exact there
  paired := by
    change server.switches + 1 = (server.swaps ++ [_]).length
    rw [List.length_append, scheduled.paired]
    rfl

theorem performContextSwitch (elapsed : Bool) :
    Scheduled (server.performContextSwitch elapsed) := by
  unfold RpcServer.performContextSwitch
  split
  · exact scheduled.switch.of_same rfl rfl rfl rfl
  · exact scheduled

theorem fetch (reads : Nat → Option (List (Option Request))) :
    Scheduled (server.fetchWarmupRequests reads).1 := by
  have fetched := Fetched.fetchWarmupRequests server reads
  exact {
    follows := by rw [fetched.scheduler]; exact scheduled.follows
    waiting := fun connId member => by
      rw [fetched.scheduler]
      exact (fetched.batches connId member).elim (scheduled.waiting connId) id
    swapped := by rw [fetched.swaps, fetched.scheduler]; exact scheduled.swapped
    paired := by rw [fetched.switches, fetched.swaps]; exact scheduled.paired }

theorem poll (reads : Nat → Option (List (Option Request)))
    (elapsed : Bool) : Scheduled (server.pollSwitch reads elapsed) := by
  have fetched := scheduled.fetch reads
  unfold RpcServer.pollSwitch
  dsimp only
  split
  · exact fetched.switch.of_same rfl rfl rfl rfl
  · exact fetched.performContextSwitch elapsed

theorem addConnection : Scheduled server.addConnection := by
  unfold RpcServer.addConnection
  dsimp only
  split
  · exact scheduled
  · exact { scheduled with
      follows := GroupScheduler.addConnection_follows _ scheduled.follows
      waiting := fun connId member =>
        GroupScheduler.mem_connectionsOf_addConnection _ (scheduled.waiting connId member)
      swapped := fun entry member connId batch =>
        GroupScheduler.mem_connectionsOf_addConnection _
          (scheduled.swapped entry member connId batch) }

/-- Swaps follow the schedule if `process` does not switch at its end. -/
theorem next {action : Action} (quiet : ∀ elapsed, action = .processEnd elapsed →
      server.scheduler.shouldSwitch elapsed = false) : Scheduled (server.next action) := by
  cases action with
  | addConnection => exact scheduled.addConnection
  | connectWarmup connId slots => exact scheduled.of_same rfl rfl rfl rfl
  | write toProcessing slot request =>
    change Scheduled (server.write toProcessing slot request)
    unfold RpcServer.write
    split
    · split <;> exact scheduled.of_same rfl rfl rfl rfl
    · exact scheduled
  | writeEntry connId entry => exact scheduled.of_same rfl rfl rfl rfl
  | recv =>
    change Scheduled ((server.pollRequest.map Prod.snd).getD server)
    cases polled : server.pollRequest with
    | none => exact scheduled
    | some result =>
      obtain ⟨slot, expected, _, _, same⟩ := pollRequest_spec polled
      change Scheduled result.2
      rw [same]
      exact scheduled.of_same rfl rfl rfl rfl
  | performContextSwitch elapsed => exact scheduled.performContextSwitch elapsed
  | processEnd elapsed =>
    change Scheduled (server.processEnd elapsed)
    unfold RpcServer.processEnd
    rw [quiet elapsed rfl]
    exact scheduled
  | fetch reads => exact scheduled.fetch reads
  | poll reads elapsed => exact scheduled.poll reads elapsed

end Scheduled

/-- `process` ends without a change of the group. -/
def QuietProcess (server : RpcServer) (action : Action) : Prop :=
  ∀ elapsed, action = .processEnd elapsed → server.scheduler.shouldSwitch elapsed = false

theorem scheduled_new (numSlots maxConnections numGroups : Nat) :
    Scheduled (new numSlots maxConnections numGroups) where
  follows positive := by
    change (if numGroups > 1 then 1 else 0) = (0 + 1) % (List.replicate numGroups []).length
    change 0 < (List.replicate numGroups []).length at positive
    rw [List.length_replicate] at positive ⊢
    split
    · rw [Nat.mod_eq_of_lt (by omega)]
    · rw [show numGroups = 1 by omega]
  waiting := nofun
  swapped := nofun
  paired := rfl

/-- As long as no time slice ends inside `process`, every swap brings batches of the group that is
current after it, and the group never changes without a swap. -/
theorem swaps_follow_schedule (numSlots maxConnections numGroups : Nat) (actions : List Action)
    (quiet : Along next QuietProcess (new numSlots maxConnections numGroups) actions) :
    let server := run next (new numSlots maxConnections numGroups) actions
    (∀ entry ∈ server.swaps, ∀ connId ∈ entry.1, connId ∈ server.scheduler.connectionsOf entry.2) ∧
      server.switches = server.swaps.length := by
  have kept : ∀ (server : RpcServer) (action : Action), Scheduled server →
      QuietProcess server action → Scheduled (server.next action) :=
    fun server action scheduled quiet => scheduled.next quiet
  have reached := run_invariant kept (scheduled_new numSlots maxConnections numGroups) quiet
  exact ⟨reached.swapped, reached.paired⟩

/-- Three groups of one connection; each client has a batch of one request. -/
def threeGroups : List Action :=
  [.addConnection, .addConnection, .addConnection, .connectWarmup 0 4, .connectWarmup 1 4,
    .connectWarmup 2 4, .writeEntry 1 ⟨1, 1⟩, .writeEntry 2 ⟨1, 1⟩]

def oneRequest (connId : Nat) : Option (List (Option Request)) :=
  some [some { reqId := connId, connId, slotSeq := 0 }]

theorem swaps_follow_schedule_threeGroups :
    (∀ entry ∈ (run next (new 12 3 3) (threeGroups ++ pollCalls oneRequest false 1 ++
          iterationCalls true false 1 oneRequest)).swaps, ∀ connId ∈ entry.1,
        connId ∈ (run next (new 12 3 3) (threeGroups ++ pollCalls oneRequest false 1 ++
          iterationCalls true false 1 oneRequest)).scheduler.connectionsOf entry.2) ∧
      (run next (new 12 3 3) (threeGroups ++ pollCalls oneRequest false 1 ++
          iterationCalls true false 1 oneRequest)).swaps = [([1], 1), ([], 2)] ∧
      (run next (new 12 3 3) (threeGroups ++ pollCalls oneRequest false 1 ++
          iterationCalls true false 1 oneRequest)).switches = 2 := by
  have law := swaps_follow_schedule 12 3 3 (threeGroups ++ pollCalls oneRequest false 1 ++
    iterationCalls true false 1 oneRequest) (by
      simp only [threeGroups, pollCalls, iterationCalls, List.replicate, List.cons_append,
        List.nil_append, Along]
      refine ⟨nofun, nofun, nofun, nofun, nofun, nofun, nofun, nofun, nofun, nofun, nofun, nofun,
        ?_, nofun, trivial⟩
      rintro elapsed ⟨⟩
      rfl)
  exact ⟨law.1, by decide +kernel, by decide +kernel⟩

/-- The batch of group 1 comes to the processing pool when group 2 is current. -/
theorem process_switch_skips_swap :
    (run next (new 12 3 3) (threeGroups ++ iterationCalls false false 1 oneRequest ++
        iterationCalls false true 1 oneRequest ++ iterationCalls true false 1 oneRequest)).swaps =
        [([1, 2], 2)] ∧
      (run next (new 12 3 3) (threeGroups ++ iterationCalls false false 1 oneRequest ++
        iterationCalls false true 1 oneRequest ++
        iterationCalls true false 1 oneRequest)).scheduler.connectionsOf 2 = [2] ∧
      (run next (new 12 3 3) (threeGroups ++ iterationCalls false false 1 oneRequest ++
        iterationCalls false true 1 oneRequest ++
        iterationCalls true false 1 oneRequest)).switches = 2 := by
  decide +kernel

end RpcServer

end Locasta.Scalerpc
