import Locasta.Scalerpc.Schedule
import Mathlib.Data.List.Nodup

namespace Locasta.Scalerpc

open Data Function

/-! What becomes of the requests when the group changes.

A switch clears the pool that was processed, so each valid request in it is lost.
-/

namespace RpcServer

variable {server after : RpcServer}

/-- Each connection has its own range of slots, and each group lists connections once. -/
structure Laid (server : RpcServer) : Prop where
  mapping : ∀ connId, server.mapping connId =
    if connId < server.numConnections then
      List.range' (connId * (server.numSlots / server.maxConnections))
        (server.numSlots / server.maxConnections)
    else []
  limit : server.numConnections ≤ server.maxConnections
  groups : ∀ group, (server.scheduler.connectionsOf group).Nodup
  members : ∀ group, ∀ connId ∈ server.scheduler.connectionsOf group, connId < server.numConnections

namespace Laid

variable (laid : Laid server)
include laid

theorem of_same (mapping : after.mapping = server.mapping)
    (numSlots : after.numSlots = server.numSlots)
    (maxConnections : after.maxConnections = server.maxConnections)
    (numConnections : after.numConnections = server.numConnections)
    (groups : after.scheduler.groups = server.scheduler.groups) : Laid after where
  mapping := by rw [mapping, numSlots, maxConnections, numConnections]; exact laid.mapping
  limit := by rw [maxConnections, numConnections]; exact laid.limit
  groups := by
    unfold GroupScheduler.connectionsOf
    rw [groups]
    exact laid.groups
  members := by
    unfold GroupScheduler.connectionsOf
    rw [groups, numConnections]
    exact laid.members

theorem slot_bounds {connId slot : Nat} (member : slot ∈ server.mapping connId) :
    connId < server.numConnections ∧ connId * (server.numSlots / server.maxConnections) ≤ slot ∧
      slot < (connId + 1) * (server.numSlots / server.maxConnections) := by
  rw [laid.mapping] at member
  split at member
  · rename_i known
    have range := List.mem_range'_1.mp member
    rw [Nat.add_mul, Nat.one_mul]
    exact ⟨known, range⟩
  · exact absurd member List.not_mem_nil

theorem inside {connId slot : Nat} (member : slot ∈ server.mapping connId) :
    slot < server.numSlots := by
  obtain ⟨known, _, below⟩ := laid.slot_bounds member
  calc slot < (connId + 1) * (server.numSlots / server.maxConnections) := below
    _ ≤ server.maxConnections * (server.numSlots / server.maxConnections) :=
        Nat.mul_le_mul_right _ (Nat.le_trans known laid.limit)
    _ ≤ server.numSlots := Nat.mul_div_le ..

theorem apart {first second slot : Nat}
    (one : slot ∈ server.mapping first) (two : slot ∈ server.mapping second) : first = second := by
  obtain ⟨_, low, high⟩ := laid.slot_bounds one
  obtain ⟨_, low', high'⟩ := laid.slot_bounds two
  rcases Nat.lt_trichotomy first second with less | same | more
  · have step := Nat.mul_le_mul_right (server.numSlots / server.maxConnections)
      (Nat.succ_le_of_lt less)
    rw [Nat.succ_eq_add_one] at step
    omega
  · exact same
  · have step := Nat.mul_le_mul_right (server.numSlots / server.maxConnections)
      (Nat.succ_le_of_lt more)
    rw [Nat.succ_eq_add_one] at step
    omega

theorem addConnection : Laid server.addConnection := by
  unfold RpcServer.addConnection
  dsimp only
  split
  · exact laid
  · rename_i room
    have connections := server.scheduler.connectionsOf_addConnection server.numConnections
    exact {
      mapping := fun connId => by
        dsimp only
        by_cases same : connId = server.numConnections
        · subst same
          rw [update_self, if_pos (Nat.lt_succ_self _)]
        · rw [update_of_ne same, laid.mapping]
          by_cases known : connId < server.numConnections
          · rw [if_pos known, if_pos (by omega)]
          · rw [if_neg known, if_neg (by omega)]
      limit := by
        change server.numConnections + 1 ≤ server.maxConnections
        omega
      groups := fun group => by
        rw [connections]
        split
        · refine List.Nodup.append (laid.groups group) (List.nodup_singleton _) ?_
          intro connId member new
          rw [List.mem_singleton.mp new] at member
          exact absurd (laid.members group _ member) (Nat.lt_irrefl _)
        · exact laid.groups group
      members := fun group connId member => by
        rw [connections] at member
        split at member
        · rcases List.mem_append.mp member with old | new
          · exact Nat.lt_succ_of_lt (laid.members group connId old)
          · rw [List.mem_singleton.mp new]
            exact Nat.lt_succ_self _
        · exact Nat.lt_succ_of_lt (laid.members group connId member) }

end Laid

structure SameLayout (before after : RpcServer) : Prop where
  mapping : after.mapping = before.mapping
  numSlots : after.numSlots = before.numSlots
  maxConnections : after.maxConnections = before.maxConnections
  numConnections : after.numConnections = before.numConnections
  groups : after.scheduler.groups = before.scheduler.groups

theorem SameLayout.refl (server : RpcServer) : SameLayout server server := ⟨rfl, rfl, rfl, rfl, rfl⟩

theorem SameLayout.trans {before between : RpcServer} (left : SameLayout before between)
    (right : SameLayout between after) : SameLayout before after where
  mapping := right.mapping.trans left.mapping
  numSlots := right.numSlots.trans left.numSlots
  maxConnections := right.maxConnections.trans left.maxConnections
  numConnections := right.numConnections.trans left.numConnections
  groups := right.groups.trans left.groups

theorem SameLayout.performContextSwitch (server : RpcServer) (elapsed : Bool) :
    SameLayout server (server.performContextSwitch elapsed) := by
  unfold RpcServer.performContextSwitch
  split
  · exact ⟨rfl, rfl, rfl, rfl, rfl⟩
  · exact .refl server

theorem SameLayout.fetch (server : RpcServer) (reads : Nat → Option (List (Option Request))) :
    SameLayout server (server.fetchWarmupRequests reads).1 := by
  have same := Fetched.fetchWarmupRequests server reads
  exact ⟨same.mapping, same.numSlots, same.maxConnections, same.numConnections,
    congrArg GroupScheduler.groups same.scheduler⟩

theorem next_sameLayout {action : Action} (other : action ≠ .addConnection) :
    SameLayout server (server.next action) := by
  cases action with
  | addConnection => exact absurd rfl other
  | connectWarmup connId slots => exact ⟨rfl, rfl, rfl, rfl, rfl⟩
  | write toProcessing slot request =>
    change SameLayout server (server.write toProcessing slot request)
    unfold RpcServer.write
    split
    · cases toProcessing <;> exact ⟨rfl, rfl, rfl, rfl, rfl⟩
    · exact .refl server
  | writeEntry connId entry => exact ⟨rfl, rfl, rfl, rfl, rfl⟩
  | recv =>
    change SameLayout server ((server.pollRequest.map Prod.snd).getD server)
    cases polled : server.pollRequest with
    | none => exact .refl server
    | some result =>
      obtain ⟨slot, expected, _, _, same⟩ := pollRequest_spec polled
      change SameLayout server result.2
      rw [same]
      exact ⟨rfl, rfl, rfl, rfl, rfl⟩
  | performContextSwitch elapsed => exact .performContextSwitch server elapsed
  | processEnd elapsed =>
    change SameLayout server (server.processEnd elapsed)
    unfold RpcServer.processEnd
    split
    · exact ⟨rfl, rfl, rfl, rfl, rfl⟩
    · exact .refl server
  | fetch reads => exact .fetch server reads
  | poll reads elapsed =>
    refine (SameLayout.fetch server reads).trans ?_
    change SameLayout (server.fetchWarmupRequests reads).1 (server.pollSwitch reads elapsed)
    unfold RpcServer.pollSwitch
    dsimp only
    split
    · exact ⟨rfl, rfl, rfl, rfl, rfl⟩
    · exact .performContextSwitch _ elapsed

theorem Laid.next (laid : Laid server) (action : Action) : Laid (server.next action) := by
  by_cases adds : action = .addConnection
  · rw [adds]
    exact laid.addConnection
  · have same := @next_sameLayout server action adds
    exact laid.of_same same.mapping same.numSlots same.maxConnections same.numConnections same.groups

theorem laid_new (numSlots maxConnections numGroups : Nat) :
    Laid (new numSlots maxConnections numGroups) where
  mapping := fun connId => (if_neg (Nat.not_lt_zero connId)).symm
  limit := Nat.zero_le _
  groups := fun group => by
    unfold GroupScheduler.connectionsOf
    rw [List.getD_eq_getElem?_getD]
    change ((List.replicate numGroups [])[group]?.getD []).Nodup
    rw [List.getElem?_replicate]
    split <;> exact List.nodup_nil
  members := fun group connId member => by
    unfold GroupScheduler.connectionsOf at member
    rw [List.getD_eq_getElem?_getD] at member
    change connId ∈ (List.replicate numGroups [])[group]?.getD [] at member
    rw [List.getElem?_replicate] at member
    split at member <;> exact absurd member List.not_mem_nil

/-- The pool that was the processing pool before, whichever role it has after. -/
def poolAfter (server after : RpcServer) : MessagePool :=
  if after.swaps.length = server.swaps.length then after.processingPool else after.warmupPool

theorem poolAfter_switch {slot : Nat} {request : Request}
    (swaps : after.swaps.length = server.swaps.length + 1) (cleared : after.warmupPool slot = none) :
    server.poolAfter after slot ≠ some request := by
  unfold poolAfter
  rw [if_neg (by omega), cleared]
  exact nofun

/-- A switch returns nothing, and clears the pool exactly if it happens. -/
theorem performContextSwitch_keeps {slot : Nat} (inside : slot < server.numSlots) {request : Request}
    (valid : server.processingPool slot = some request) (elapsed : Bool) :
    (server.performContextSwitch elapsed).returned = server.returned ∧
      (server.poolAfter (server.performContextSwitch elapsed) slot = some request ↔
        server.scheduler.shouldSwitch elapsed = false) := by
  unfold RpcServer.performContextSwitch
  split
  · rename_i due
    exact ⟨rfl, iff_of_false (poolAfter_switch List.length_append (if_pos inside)) (by simp [due])⟩
  · rename_i early
    exact ⟨rfl, iff_of_true (by simpa [poolAfter] using valid) (by simpa using early)⟩

/-- The start of `poll` clears the pool exactly if a batch was fetched or the slice is over. -/
theorem pollSwitch_keeps {slot : Nat} (inside : slot < server.numSlots) {request : Request}
    (valid : server.processingPool slot = some request)
    (reads : Nat → Option (List (Option Request))) (elapsed : Bool) :
    (server.pollSwitch reads elapsed).returned = server.returned ∧
      (server.poolAfter (server.pollSwitch reads elapsed) slot = some request ↔
        (server.fetchWarmupRequests reads).2.1 = 0 ∧
          server.scheduler.shouldSwitch elapsed = false) := by
  have same := Fetched.fetchWarmupRequests server reads
  have pool : server.poolAfter = (server.fetchWarmupRequests reads).1.poolAfter := by
    unfold poolAfter
    rw [same.swaps]
  rw [pool, ← same.returned]
  rw [← same.numSlots] at inside
  unfold RpcServer.pollSwitch
  dsimp only
  split
  · rename_i forced
    exact ⟨rfl, iff_of_false (poolAfter_switch List.length_append (if_pos inside))
      fun quiet => absurd quiet.1 (Nat.ne_of_gt forced)⟩
  · rename_i nothing
    have kept := performContextSwitch_keeps inside (same.processingPool ▸ valid) elapsed
    rw [same.scheduler] at kept
    simpa [Nat.eq_zero_of_not_pos nothing] using kept

/-- No switch returns a request, and a request in the processing pool stays valid exactly if there is
no switch. -/
theorem switches_keep_requests (server : RpcServer) {slot : Nat} (inside : slot < server.numSlots)
    {request : Request} (valid : server.processingPool slot = some request) :
    (∀ elapsed, (server.performContextSwitch elapsed).returned = server.returned ∧
      (server.poolAfter (server.performContextSwitch elapsed) slot = some request ↔
        server.scheduler.shouldSwitch elapsed = false)) ∧
    ∀ reads elapsed, (server.pollSwitch reads elapsed).returned = server.returned ∧
      (server.poolAfter (server.pollSwitch reads elapsed) slot = some request ↔
        (server.fetchWarmupRequests reads).2.1 = 0 ∧
          server.scheduler.shouldSwitch elapsed = false) :=
  ⟨performContextSwitch_keeps inside valid, pollSwitch_keeps inside valid⟩

def directRequest : Request where
  reqId := 7
  connId := 0
  slotSeq := 0

/-- Two connections in two groups; a request in the processing pool, and a batch of one. -/
def undrained : RpcServer :=
  run next (new 4 2 2) [.addConnection, .addConnection, .connectWarmup 1 4,
    .write true 0 directRequest, .writeEntry 1 ⟨1, 1⟩]

theorem switches_keep_requests_undrained :
    undrained.processingPool 0 = some directRequest ∧
      undrained.poolAfter (undrained.performContextSwitch false) 0 = some directRequest ∧
      undrained.poolAfter (undrained.performContextSwitch true) 0 ≠ some directRequest ∧
      undrained.poolAfter (undrained.pollSwitch (fun _ => none) false) 0 = some directRequest ∧
      undrained.poolAfter (undrained.pollSwitch oneRequest false) 0 ≠ some directRequest := by
  obtain ⟨switch, poll⟩ := switches_keep_requests undrained (by decide : 0 < 4) rfl
  exact ⟨rfl, (switch false).2.mpr rfl, fun valid => absurd ((switch true).2.mp valid) (by decide),
    (poll _ false).2.mpr (by decide), fun valid => absurd ((poll _ false).2.mp valid) (by decide)⟩

/-- The same without `recv` before the batch is fetched: the forced switch clears the request. -/
theorem forced_switch_loses_request :
    let server := run next (new 4 1 1) [.addConnection, .connectWarmup 0 4,
      .write true 0 directRequest, .writeEntry 0 ⟨1, 1⟩, .poll oneRequest false, .recv, .recv]
    directRequest ∈ server.arrived ∧ directRequest ∉ server.returned ∧
      ∀ slot < server.numSlots, server.processingPool slot ≠ some directRequest ∧
        server.warmupPool slot ≠ some directRequest := by
  decide +kernel

/-- The event of the switch is written over the fourth request of the batch that was fetched. -/
example :
    (run next (new 4 1 1) [.addConnection, .connectWarmup 0 4, .writeEntry 0 ⟨4, 1⟩,
        .poll (fun _ => some (List.replicate 4 (some directRequest))) false, .recv, .recv, .recv,
        .recv]).returned =
      List.replicate 3 directRequest ++ [{ directRequest with reqId := 1 + 2 ^ 32 }] := by
  decide +kernel

end RpcServer

end Locasta.Scalerpc
