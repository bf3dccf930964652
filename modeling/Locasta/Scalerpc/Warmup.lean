import Locasta.Scalerpc.Schedule

namespace Locasta.Scalerpc

open Data Function

/-! Batches of the clients and their acknowledgement.

A client announces a batch by an RDMA WRITE to its endpoint entry and keeps it until the server has
read it. The entry stands in a slot of the client's pool, which is free again as soon as the WRITE is
posted, before the doorbell is rung and the device reads it. The server tells a whole group the last
sequence number it fetched. A client may see these events in any order, more than once, or not at all.
-/

inductive ClientState where
  | connected
  | warmup
  | process
  | idle
deriving DecidableEq

structure ConnectionState where
  state : ClientState
  /-- The requests in the warmup buffer. -/
  warmupCount : Nat
  endpointEntrySeq : Nat
  lastNotifiedCount : Nat
  pendingNotification : Bool
  directSlotIndex : Nat
  lastContextSwitchSeq : Nat
  lastAcknowledgedSeq : Nat
  /-- Auxiliary: the size of the batch that was announced with each sequence number. -/
  announced : Nat → Nat
  /-- Auxiliary: the sequence numbers for which the buffer was cleared. -/
  cleared : List Nat

namespace ConnectionState

def new : ConnectionState where
  state := .connected
  warmupCount := 0
  endpointEntrySeq := 0
  lastNotifiedCount := 0
  pendingNotification := false
  directSlotIndex := 0
  lastContextSwitchSeq := 0
  lastAcknowledgedSeq := 0
  announced _ := 0
  cleared := []

/-- The buffer has 16 slots; `allocated` says whether there is a slot for the response. -/
def sendWarmup (client : ConnectionState) (allocated : Bool) : ConnectionState :=
  if client.state = .process then client
  else
    let client :=
      if client.state = .idle ∨ client.state = .connected then
        { client with state := .warmup, warmupCount := 0, lastNotifiedCount := 0 }
      else client
    if client.pendingNotification = false ∧ client.warmupCount < 16 ∧ allocated then
      { client with warmupCount := client.warmupCount + 1 }
    else client

/-- The slot for the entry is allocated when the sequence number has been taken. The result is the
slot that the entry is written to, for the WRITE that is posted. -/
def flushWarmup (client : ConnectionState) (slot : Option Nat) :
    Option (Nat × EndpointEntry) × ConnectionState :=
  if client.pendingNotification then (none, client)
  else if client.warmupCount > client.lastNotifiedCount then
    let seq := client.endpointEntrySeq + 1
    let client := { client with endpointEntrySeq := seq }
    match slot with
    | none => (none, client)
    | some slot =>
      (some (slot, { batchSize := client.warmupCount, seq }),
        { client with
          lastNotifiedCount := client.warmupCount
          pendingNotification := true
          announced := update client.announced seq client.warmupCount })
  else (none, client)

/-- What an event does; `direct` is the index that is left in `direct_slot_index`. -/
def contextSwitch (client : ConnectionState) (direct schedSeq fetchedSeq : Nat) : ConnectionState :=
  if fetchedSeq > 0 then
    if fetchedSeq ≤ client.lastAcknowledgedSeq then client
    else
      let client := { client with
        lastAcknowledgedSeq := fetchedSeq
        lastContextSwitchSeq := max client.lastContextSwitchSeq schedSeq }
      if fetchedSeq = client.endpointEntrySeq then
        { client with
          directSlotIndex := direct
          pendingNotification := false
          warmupCount := 0
          lastNotifiedCount := 0
          cleared := client.cleared ++ [fetchedSeq] }
      else client
  else if schedSeq ≤ client.lastContextSwitchSeq then client
  else
    { client with
      lastContextSwitchSeq := schedSeq
      state := if client.state = .process then .idle else client.state }

def checkEvents (client : ConnectionState) (schedSeq fetchedSeq : Nat) : ConnectionState :=
  client.contextSwitch client.lastNotifiedCount schedSeq fetchedSeq

/-- A response with `fetched_seq > 0` has the address of the processing pool, too. -/
def processResponseContextSwitch (client : ConnectionState) (schedSeq fetchedSeq : Nat) :
    ConnectionState :=
  let client := if fetchedSeq > 0 then { client with state := .process } else client
  client.contextSwitch 0 schedSeq fetchedSeq

end ConnectionState

structure WarmupSystem where
  server : RpcServer
  clients : Nat → ConnectionState
  /-- What stands in the slots of the clients' pools, where an entry would be read. -/
  entrySlots : Nat → EndpointEntry
  /-- The WRITEs whose slot the device has not read, each with its connection. -/
  unread : List (Nat × Nat)
  /-- How many of its WRITEs the doorbell of each connection covers. -/
  rung : Nat → Nat
  /-- The entries of each connection that were read and have not landed. -/
  inFlight : Nat → List EndpointEntry

namespace WarmupSystem

def new (numSlots maxConnections numGroups : Nat) : WarmupSystem where
  server := .new numSlots maxConnections numGroups
  clients _ := .new
  entrySlots _ := { batchSize := 0, seq := 0 }
  unread := []
  rung _ := 0
  inFlight _ := []

inductive Action where
  | server (action : RpcServer.Action)
  | sendWarmup (connId : Nat) (allocated : Bool)
  /-- `slot` is the one that is allocated for the entry. -/
  | flushWarmup (connId : Nat) (slot : Option Nat)
  /-- Something else is written to a slot. -/
  | reuse (slot : Nat) (content : EndpointEntry)
  /-- `RpcClient::poll` rings the doorbell of the connection. -/
  | ring (connId : Nat)
  /-- The device reads the slot of the connection's next WRITE. -/
  | readEntry (connId : Nat)
  | land (connId : Nat)
  | checkEvents (connId schedSeq fetchedSeq : Nat)
  | processResponse (connId schedSeq fetchedSeq : Nat)

def setClient (system : WarmupSystem) (connId : Nat) (client : ConnectionState) : WarmupSystem :=
  { system with clients := update system.clients connId client }

/-- The oldest unread WRITE of the connection, if the doorbell covers it. -/
def nextUnread (system : WarmupSystem) (connId : Nat) : Option (Nat × Nat) :=
  if system.rung connId = 0 then none else system.unread.find? (·.1 = connId)

/-- Endpoint entries are written by the clients only, whose warmup buffers have 16 slots. The server
writes its events to one slot of each pool, so when the device reads it, that may be the event of
another connection. -/
def next (system : WarmupSystem) : Action → WarmupSystem
  | .server (.writeEntry _ _) => system
  | .server (.connectWarmup connId _) =>
    { system with server := system.server.next (.connectWarmup connId 16) }
  | .server action => { system with server := system.server.next action }
  | .sendWarmup connId allocated =>
    system.setClient connId ((system.clients connId).sendWarmup allocated)
  | .flushWarmup connId slot =>
    match (system.clients connId).flushWarmup slot with
    | (none, client) => system.setClient connId client
    | (some (slot, entry), client) =>
      { system.setClient connId client with
        entrySlots := update system.entrySlots slot entry
        unread := system.unread ++ [(connId, slot)] }
  | .reuse slot content =>
    { system with entrySlots := update system.entrySlots slot content }
  | .ring connId =>
    { system with rung := update system.rung connId (system.unread.countP (·.1 = connId)) }
  | .readEntry connId =>
    match system.nextUnread connId with
    | none => system
    | some write =>
      { system with
        unread := system.unread.erase write
        rung := update system.rung connId (system.rung connId - 1)
        inFlight := update system.inFlight connId
          (system.inFlight connId ++ [system.entrySlots write.2]) }
  | .land connId =>
    match system.inFlight connId with
    | [] => system
    | entry :: rest =>
      { system with
        server := system.server.next (.writeEntry connId entry)
        inFlight := update system.inFlight connId rest }
  | .checkEvents connId schedSeq fetchedSeq =>
    if connId ∈ system.server.notified.map Prod.fst ∧
        fetchedSeq ∈ system.server.notified.map Prod.snd then
      system.setClient connId ((system.clients connId).checkEvents schedSeq fetchedSeq)
    else system
  | .processResponse connId schedSeq fetchedSeq =>
    if (connId, fetchedSeq) ∈ system.server.notified then
      system.setClient connId
        ((system.clients connId).processResponseContextSwitch schedSeq fetchedSeq)
    else system

end WarmupSystem

namespace RpcServer

variable {server after : RpcServer}

/-- Exactly the fetched batches were acknowledged, each to its own connection. -/
structure Acknowledged (server : RpcServer) : Prop where
  follows : 0 < server.scheduler.groups.length → server.scheduler.nextGroup =
      (server.scheduler.currentGroup + 1) % server.scheduler.groups.length
  sent : ∀ connId fetchedSeq, (connId, fetchedSeq) ∈ server.notified → 0 < fetchedSeq →
    ∃ batchSize, (connId, { batchSize, seq := fetchedSeq }) ∈ server.fetchedBatches
  fetched : ∀ batch ∈ server.fetchedBatches, (batch.1, batch.2.seq) ∈ server.notified

/-- Where the batches come from: `Says` are the entries that the clients have announced, from warmup
buffers of 16 slots. -/
structure Announced (Says : Nat → EndpointEntry → Prop) (server : RpcServer) : Prop where
  entries : ∀ connId, 0 < (server.endpointEntries connId).batchSize →
    Says connId (server.endpointEntries connId)
  fetched : ∀ batch ∈ server.fetchedBatches, Says batch.1 batch.2
  infos : ∀ connId slots, server.warmupBufferInfos connId = some slots → slots = 16

/-- Entries are only cleared, and warmup buffers stay as they are. -/
structure Clears (server after : RpcServer) : Prop where
  infos : after.warmupBufferInfos = server.warmupBufferInfos
  entries : ∀ connId, after.endpointEntries connId = server.endpointEntries connId ∨
    (after.endpointEntries connId).batchSize = 0

theorem fetchLoop_single {reads : Nat → Option (List (Option Request))} {connId : Nat}
    {complete : Bool} {fetched lastSeq : Nat}
    (result : fetchLoop reads [connId] server 0 0 = (complete, after, fetched, lastSeq)) :
    Clears server after ∧
      ((after.fetchedBatches = server.fetchedBatches ∧ (complete = true → fetched = 0)) ∨
        (complete = true ∧ 0 < fetched ∧ 0 < (server.endpointEntries connId).batchSize ∧
          lastSeq = (server.endpointEntries connId).seq ∧ 0 < lastSeq ∧
          ∃ slots, server.warmupBufferInfos connId = some slots ∧
            after.fetchedBatches = server.fetchedBatches ++ [(connId,
              ⟨min (server.endpointEntries connId).batchSize slots, lastSeq⟩)])) := by
  have cleared : ∀ other, update server.endpointEntries connId
      { server.endpointEntries connId with batchSize := 0 } other = server.endpointEntries other ∨
        (update server.endpointEntries connId
          { server.endpointEntries connId with batchSize := 0 } other).batchSize = 0 := by
    intro other
    by_cases same : other = connId
    · exact .inr (by rw [same, update_self])
    · exact .inl (update_of_ne same ..)
  unfold fetchLoop at result
  dsimp only at result
  split at result
  · rename_i fresh
    split at result
    · cases result
      exact ⟨⟨rfl, fun _ => .inl rfl⟩, .inl ⟨rfl, fun _ => rfl⟩⟩
    · split at result
      · cases result
        exact ⟨⟨rfl, fun _ => .inl rfl⟩, .inl ⟨rfl, by simp⟩⟩
      · rename_i slots known _ between batch
        unfold fetchBatch at batch
        split at batch
        · rename_i none_left
          cases batch
          cases result
          exact ⟨⟨rfl, cleared⟩, .inl ⟨rfl, fun _ => (Nat.zero_add _).trans none_left⟩⟩
        · rename_i some_left
          split at batch
          · cases batch
          · split at batch
            · cases batch
            · cases batch
              cases result
              refine ⟨⟨rfl, cleared⟩, .inr ⟨rfl, ?_, fresh.2.2, rfl, by omega, slots, known, rfl⟩⟩
              rw [Nat.zero_add]
              exact Nat.pos_of_ne_zero some_left
  · cases result
    exact ⟨⟨rfl, fun _ => .inl rfl⟩, .inl ⟨rfl, fun _ => rfl⟩⟩

theorem fetchWarmupRequests_single (reads : Nat → Option (List (Option Request)))
    (single : server.scheduler.nextGroupConnections.length ≤ 1) :
    let result := server.fetchWarmupRequests reads
    Clears server result.1 ∧
      ((result.1.fetchedBatches = server.fetchedBatches ∧ result.2.1 = 0) ∨
        ∃ connId slots, server.scheduler.nextGroupConnections = [connId] ∧ 0 < result.2.1 ∧
          0 < (server.endpointEntries connId).batchSize ∧
          result.2.2 = (server.endpointEntries connId).seq ∧ 0 < result.2.2 ∧
          server.warmupBufferInfos connId = some slots ∧
          result.1.fetchedBatches = server.fetchedBatches ++ [(connId,
            ⟨min (server.endpointEntries connId).batchSize slots, result.2.2⟩)]) := by
  unfold fetchWarmupRequests
  match group : server.scheduler.nextGroupConnections, single with
  | [], _ => exact ⟨⟨rfl, fun _ => .inl rfl⟩, .inl ⟨rfl, rfl⟩⟩
  | [connId], _ =>
    obtain ⟨outcome, looped⟩ : ∃ outcome, fetchLoop reads [connId] server 0 0 = outcome :=
      ⟨_, rfl⟩
    obtain ⟨complete, after, fetched, lastSeq⟩ := outcome
    rw [looped]
    obtain ⟨clears, same | ⟨rfl, some_left, size, seq, positive, slots, known, batches⟩⟩ :=
      fetchLoop_single looped
    · cases complete with
      | true => exact ⟨clears, .inl ⟨same.1, same.2 rfl⟩⟩
      | false => exact ⟨clears, .inl ⟨same.1, rfl⟩⟩
    · exact ⟨clears, .inr ⟨connId, slots, rfl, some_left, size, seq, positive, known, batches⟩⟩
  | first :: second :: rest, long => exact absurd long (by simp)

theorem Clears.announced {Says : Nat → EndpointEntry → Prop} (clears : Clears server after)
    (announced : Announced Says server) (connId : Nat)
    (size : 0 < (after.endpointEntries connId).batchSize) :
    Says connId (after.endpointEntries connId) := by
  rcases clears.entries connId with same | cleared
  · rw [same] at size ⊢
    exact announced.entries connId size
  · omega

structure AcknowledgedStep (Says : Nat → EndpointEntry → Prop) (before after : RpcServer) : Prop where
  acknowledged : Acknowledged after
  announced : Announced Says after
  grows : ∀ batch ∈ before.fetchedBatches, batch ∈ after.fetchedBatches

namespace Acknowledged

variable {Says : Nat → EndpointEntry → Prop}

variable (known : Acknowledged server)
include known

variable (announced : Announced Says server)
include announced

theorem of_same (scheduler : after.scheduler = server.scheduler)
    (batches : after.fetchedBatches = server.fetchedBatches)
    (notified : after.notified = server.notified) (clears : Clears server after) :
    AcknowledgedStep Says server after where
  acknowledged :=
    { follows := by rw [scheduler]; exact known.follows
      sent := by rw [notified, batches]; exact known.sent
      fetched := by rw [notified, batches]; exact known.fetched }
  announced := {
    entries := clears.announced announced
    fetched := by rw [batches]; exact announced.fetched
    infos := by rw [clears.infos]; exact announced.infos }
  grows := by rw [batches]; exact fun _ member => member

theorem performContextSwitch
    (elapsed : Bool) : AcknowledgedStep Says server (server.performContextSwitch elapsed) := by
  unfold RpcServer.performContextSwitch
  split
  · exact {
      acknowledged :=
        { follows := fun _ => rfl
          sent := fun connId fetchedSeq member positive => by
            rcases List.mem_append.mp member with early | late
            · exact known.sent connId fetchedSeq early positive
            · obtain ⟨other, _, same⟩ := List.mem_map.mp late
              cases same
              exact absurd positive (Nat.lt_irrefl 0)
          fetched := fun batch member => List.mem_append_left _ (known.fetched batch member) }
      announced := ⟨announced.entries, announced.fetched, announced.infos⟩
      grows := fun _ member => member }
  · exact known.of_same announced rfl rfl rfl ⟨rfl, fun _ => .inl rfl⟩

variable (small : ∀ connId entry, Says connId entry → entry.batchSize ≤ 16)
include small

theorem poll (single : server.scheduler.nextGroupConnections.length ≤ 1)
    (reads : Nat → Option (List (Option Request))) (elapsed : Bool) :
    AcknowledgedStep Says server (server.pollSwitch reads elapsed) := by
  have same := Fetched.fetchWarmupRequests server reads
  obtain ⟨clears, outcome⟩ := fetchWarmupRequests_single reads single
  unfold RpcServer.pollSwitch
  dsimp only
  rcases outcome with ⟨batches, nothing⟩ |
    ⟨connId, slots, group, something, size, seq, positive, known', batches⟩
  · rw [nothing, if_neg (Nat.lt_irrefl 0)]
    have moved := known.of_same announced same.scheduler batches same.notified clears
    have switched := moved.acknowledged.performContextSwitch moved.announced elapsed
    exact ⟨switched.acknowledged, switched.announced,
      fun batch member => switched.grows batch (moved.grows batch member)⟩
  · rw [if_pos something]
    have used : (server.fetchWarmupRequests reads).1.scheduler.nextGroupConnections ≠ [] := by
      rw [same.scheduler, group]
      exact nofun
    have there := GroupScheduler.doContextSwitch_next
      (by rw [same.scheduler]; exact known.follows) used
    have told : (server.fetchWarmupRequests reads).1.switchGroup.scheduler.currentGroupConnections =
        [connId] := by
      change (server.fetchWarmupRequests reads).1.scheduler.connectionsOf
        (server.fetchWarmupRequests reads).1.scheduler.doContextSwitch.currentGroup = _
      rw [there, same.scheduler]
      exact group
    rw [told]
    have notified : ∀ entry, entry ∈ (server.fetchWarmupRequests reads).1.notified ++
        [connId].map (fun connId => (connId, (server.fetchWarmupRequests reads).2.2)) ↔
        entry ∈ server.notified ∨ entry = (connId, (server.fetchWarmupRequests reads).2.2) := by
      intro entry
      rw [same.notified, List.mem_append]
      exact or_congr_right List.mem_singleton
    have own := announced.entries connId size
    rw [announced.infos connId slots known', Nat.min_eq_left (small connId _ own), seq] at batches
    have fetched : ∀ batch, batch ∈ (server.fetchWarmupRequests reads).1.fetchedBatches ↔
        batch ∈ server.fetchedBatches ∨ batch = (connId, server.endpointEntries connId) := by
      intro batch
      rw [batches, List.mem_append]
      exact or_congr_right List.mem_singleton
    exact {
      acknowledged :=
        { follows := fun _ => rfl
          sent := fun other fetchedSeq member some_seq => by
            rcases (notified _).mp member with early | late
            · obtain ⟨batchSize, old⟩ := known.sent other fetchedSeq early some_seq
              exact ⟨batchSize, (fetched _).mpr (.inl old)⟩
            · cases late
              exact ⟨_, (fetched _).mpr (.inr (by rw [seq]))⟩
          fetched := fun batch member => by
            refine (notified _).mpr ?_
            rcases (fetched _).mp member with early | rfl
            · exact .inl (known.fetched batch early)
            · exact .inr (by rw [seq]) }
      announced := {
        entries := clears.announced announced
        fetched := fun batch member => by
          rcases (fetched _).mp member with early | rfl
          · exact announced.fetched batch early
          · exact own
        infos := clears.infos.symm ▸ announced.infos }
      grows := fun batch member => (fetched _).mpr (.inl member) }

/-- With one connection for each group an event acknowledges the batch that was fetched for it. -/
theorem next (single : ∀ group, (server.scheduler.connectionsOf group).length ≤ 1) {action : Action}
    (entry : ∀ connId entry, action ≠ .writeEntry connId entry)
    (info : ∀ connId slots, action ≠ .connectWarmup connId slots)
    (acknowledging : ∀ reads, action ≠ .fetch reads) :
    AcknowledgedStep Says server (server.next action) := by
  cases action with
  | addConnection =>
    change AcknowledgedStep Says server server.addConnection
    unfold RpcServer.addConnection
    dsimp only
    split
    · exact known.of_same announced rfl rfl rfl ⟨rfl, fun _ => .inl rfl⟩
    · exact {
        acknowledged :=
          { follows := GroupScheduler.addConnection_follows _ known.follows
            sent := known.sent
            fetched := known.fetched }
        announced := ⟨announced.entries, announced.fetched, announced.infos⟩
        grows := fun _ member => member }
  | connectWarmup connId slots => exact absurd rfl (info connId slots)
  | write toProcessing slot request =>
    change AcknowledgedStep Says server (server.write toProcessing slot request)
    unfold RpcServer.write
    split
    · split <;> exact known.of_same announced rfl rfl rfl ⟨rfl, fun _ => .inl rfl⟩
    · exact known.of_same announced rfl rfl rfl ⟨rfl, fun _ => .inl rfl⟩
  | writeEntry connId written => exact absurd rfl (entry connId written)
  | recv =>
    change AcknowledgedStep Says server ((server.pollRequest.map Prod.snd).getD server)
    cases polled : server.pollRequest with
    | none => exact known.of_same announced rfl rfl rfl ⟨rfl, fun _ => .inl rfl⟩
    | some result =>
      obtain ⟨slot, expected, _, _, same⟩ := pollRequest_spec polled
      change AcknowledgedStep Says server result.2
      rw [same]
      exact known.of_same announced rfl rfl rfl ⟨rfl, fun _ => .inl rfl⟩
  | performContextSwitch elapsed => exact known.performContextSwitch announced elapsed
  | processEnd elapsed =>
    change AcknowledgedStep Says server (server.processEnd elapsed)
    unfold RpcServer.processEnd
    split
    · exact {
        acknowledged := { follows := fun _ => rfl, sent := known.sent, fetched := known.fetched }
        announced := ⟨announced.entries, announced.fetched, announced.infos⟩
        grows := fun _ member => member }
    · exact known.of_same announced rfl rfl rfl ⟨rfl, fun _ => .inl rfl⟩
  | fetch reads => exact absurd rfl (acknowledging reads)
  | poll reads elapsed => exact known.poll announced small (single _) reads elapsed

end Acknowledged

end RpcServer

namespace WarmupSystem

variable {system : WarmupSystem}

/-- The connection's client has announced the entry. -/
def Says (system : WarmupSystem) (connId : Nat) (entry : EndpointEntry) : Prop :=
  entry.seq ≤ (system.clients connId).endpointEntrySeq ∧
    entry.batchSize = (system.clients connId).announced entry.seq

/-- A client's own counters agree. -/
structure ClientSound (client : ConnectionState) : Prop where
  count : client.warmupCount ≤ 16
  announced : ∀ seq, client.announced seq ≤ 16
  acks : client.lastAcknowledgedSeq ≤ client.endpointEntrySeq
  pending : client.pendingNotification = true →
    client.lastAcknowledgedSeq < client.endpointEntrySeq

/-- What the server and the clients know of the batches agrees. -/
structure Agreed (system : WarmupSystem) : Prop where
  acknowledged : system.server.Acknowledged
  announced : system.server.Announced system.Says
  written : ∀ write ∈ system.unread, system.Says write.1 (system.entrySlots write.2)
  flying : ∀ connId, ∀ entry ∈ system.inFlight connId, system.Says connId entry
  clients : ∀ connId, ClientSound (system.clients connId)
  safe : ∀ connId, ∀ seq ∈ (system.clients connId).cleared,
    (connId, ⟨(system.clients connId).announced seq, seq⟩) ∈ system.server.fetchedBatches

/-- Each group has one connection at most, and batches are fetched by `poll` only. -/
def OnePerGroup (system : WarmupSystem) (action : Action) : Prop :=
  (∀ connections ∈ system.server.scheduler.groups, connections.length ≤ 1) ∧
    match action with
    | .server (.fetch _) => False
    | _ => True

/-- No slot is written to whose WRITE is unread. -/
def SlotFree (system : WarmupSystem) : Action → Prop
  | .flushWarmup _ (some slot) | .reuse slot _ => ∀ write ∈ system.unread, write.2 ≠ slot
  | _ => True

/-- An event was read before the next one was written. -/
def OwnEvent (system : WarmupSystem) : Action → Prop
  | .checkEvents connId _ fetchedSeq => (connId, fetchedSeq) ∈ system.server.notified
  | _ => True

def Careful (system : WarmupSystem) (action : Action) : Prop :=
  system.OnePerGroup action ∧ system.SlotFree action ∧ system.OwnEvent action

instance (system : WarmupSystem) (action : Action) : Decidable (system.Careful action) := by
  unfold Careful OnePerGroup SlotFree OwnEvent
  repeat' refine @instDecidableAnd _ _ ?_ ?_
  all_goals first | infer_instance | (split <;> infer_instance)

theorem OnePerGroup.single {action : Action} (groups : system.OnePerGroup action) (group : Nat) :
    (system.server.scheduler.connectionsOf group).length ≤ 1 := by
  unfold GroupScheduler.connectionsOf
  rw [List.getD_eq_getElem?_getD]
  cases found : system.server.scheduler.groups[group]? with
  | none => exact Nat.zero_le 1
  | some connections => exact groups.1 connections (List.mem_of_getElem? found)

namespace Agreed

variable (agreed : Agreed system)
include agreed

theorem says_small (connId : Nat) (entry : EndpointEntry) (said : system.Says connId entry) :
    entry.batchSize ≤ 16 :=
  said.2 ▸ (agreed.clients connId).announced entry.seq

theorem setClient {connId : Nat} {client : ConnectionState}
    (seq : (system.clients connId).endpointEntrySeq ≤ client.endpointEntrySeq)
    (same : ∀ seq ≤ (system.clients connId).endpointEntrySeq,
      client.announced seq = (system.clients connId).announced seq)
    (sound : ClientSound client)
    (safe : ∀ seq ∈ client.cleared,
      (connId, ⟨client.announced seq, seq⟩) ∈ system.server.fetchedBatches) :
    Agreed (system.setClient connId client) := by
  have kept : ∀ other entry, system.Says other entry →
      (system.setClient connId client).Says other entry := by
    rintro other entry ⟨bound, size⟩
    unfold Says WarmupSystem.setClient
    dsimp only
    by_cases own : other = connId
    · subst own
      rw [update_self]
      exact ⟨Nat.le_trans bound seq, size.trans (same _ bound).symm⟩
    · rw [update_of_ne own]
      exact ⟨bound, size⟩
  exact {
    acknowledged := agreed.acknowledged
    announced := {
      entries := fun other size => kept other _ (agreed.announced.entries other size)
      fetched := fun batch member => kept _ _ (agreed.announced.fetched batch member)
      infos := agreed.announced.infos }
    written := fun write member => kept _ _ (agreed.written write member)
    flying := fun other entry member => kept other entry (agreed.flying other entry member)
    clients := (Function.forall_update_iff system.clients fun _ => ClientSound).mpr
      ⟨sound, fun other _ => agreed.clients other⟩
    safe := (Function.forall_update_iff system.clients fun other (client : ConnectionState) =>
        ∀ seq ∈ client.cleared,
          (other, EndpointEntry.mk (client.announced seq) seq) ∈ system.server.fetchedBatches).mpr
      ⟨safe, fun other _ => agreed.safe other⟩ }

/-- A client whose sequence numbers and announcements stay as they are. -/
theorem setClient_same {connId : Nat} {client : ConnectionState}
    (seq : client.endpointEntrySeq = (system.clients connId).endpointEntrySeq)
    (same : client.announced = (system.clients connId).announced)
    (sound : ClientSound client) (safe : ∀ seq ∈ client.cleared,
      (connId, ⟨(system.clients connId).announced seq, seq⟩) ∈ system.server.fetchedBatches) :
    Agreed (system.setClient connId client) :=
  agreed.setClient (Nat.le_of_eq seq.symm) (fun _ _ => by rw [same]) sound (by rwa [same])

/-- The client that has announced what is in its buffer. -/
theorem announce (connId : Nat) : Agreed (system.setClient connId
    { system.clients connId with
      endpointEntrySeq := (system.clients connId).endpointEntrySeq + 1
      lastNotifiedCount := (system.clients connId).warmupCount
      pendingNotification := true
      announced := update (system.clients connId).announced
        ((system.clients connId).endpointEntrySeq + 1) (system.clients connId).warmupCount }) := by
  have sound := agreed.clients connId
  have older : ∀ seq ≤ (system.clients connId).endpointEntrySeq,
      update (system.clients connId).announced ((system.clients connId).endpointEntrySeq + 1)
        (system.clients connId).warmupCount seq = (system.clients connId).announced seq :=
    fun seq bound => update_of_ne (by omega) _ _
  refine agreed.setClient (Nat.le_succ _) older
    ⟨sound.count, ?_, Nat.le_succ_of_le sound.acks, fun _ => Nat.lt_succ_of_le sound.acks⟩ ?_
  · exact (Function.forall_update_iff _ fun _ size => size ≤ 16).mpr
      ⟨sound.count, fun seq _ => sound.announced seq⟩
  · intro seq member
    have fetched := agreed.safe connId seq member
    dsimp only
    rwa [older seq (agreed.announced.fetched _ fetched).1]

theorem flushWarmup (connId : Nat) {slot : Option Nat}
    (free : system.SlotFree (.flushWarmup connId slot)) :
    Agreed (system.next (.flushWarmup connId slot)) := by
  have sound := agreed.clients connId
  have safe := agreed.safe connId
  unfold WarmupSystem.next ConnectionState.flushWarmup
  dsimp only
  by_cases waiting : (system.clients connId).pendingNotification = true
  · rw [if_pos waiting]
    exact agreed.setClient_same rfl rfl sound safe
  · rw [if_neg waiting]
    by_cases more : (system.clients connId).warmupCount > (system.clients connId).lastNotifiedCount
    · rw [if_pos more]
      cases slot with
      | none =>
        refine agreed.setClient (Nat.le_succ _) (fun _ _ => rfl) ?_ safe
        exact ⟨sound.count, sound.announced, Nat.le_succ_of_le sound.acks,
          fun pending => absurd pending waiting⟩
      | some slot =>
        have moved := agreed.announce connId
        refine { moved with written := fun write member => ?_ }
        rcases List.mem_append.mp member with old | new
        · have kept := moved.written write old
          unfold Says at kept ⊢
          dsimp only
          rwa [update_of_ne (free write old)]
        · rw [List.mem_singleton.mp new]
          simp [Says, WarmupSystem.setClient]
    · rw [if_neg more]
      exact agreed.setClient_same rfl rfl sound safe

theorem readEntry (connId : Nat) : Agreed (system.next (.readEntry connId)) := by
  unfold WarmupSystem.next nextUnread
  dsimp only
  split
  · exact agreed
  · rename_i write found
    split at found
    · cases found
    · have listed := List.mem_of_find?_eq_some found
      have own : write.1 = connId := by simpa using List.find?_some found
      refine { agreed with
        written := fun other member => agreed.written other (List.mem_of_mem_erase member)
        flying := (Function.forall_update_iff system.inFlight fun other entries =>
          ∀ entry ∈ entries, system.Says other entry).mpr ⟨?_, fun other _ => agreed.flying other⟩ }
      refine List.forall_mem_append.mpr ⟨agreed.flying connId, List.forall_mem_singleton.mpr ?_⟩
      exact own ▸ agreed.written write listed

theorem land (connId : Nat) : Agreed (system.next (.land connId)) := by
  unfold WarmupSystem.next
  dsimp only
  split
  · exact agreed
  · rename_i entry rest waiting
    have flying := agreed.flying connId
    rw [waiting] at flying
    exact { agreed with
      acknowledged := ⟨agreed.acknowledged.follows, agreed.acknowledged.sent,
        agreed.acknowledged.fetched⟩
      announced := {
        entries := (Function.forall_update_iff system.server.endpointEntries fun other entry =>
            0 < entry.batchSize → system.Says other entry).mpr
          ⟨fun _ => flying entry List.mem_cons_self, fun other _ => agreed.announced.entries other⟩
        fetched := agreed.announced.fetched
        infos := agreed.announced.infos }
      flying := (Function.forall_update_iff system.inFlight fun other entries =>
          ∀ entry ∈ entries, system.Says other entry).mpr
        ⟨fun entry member => flying entry (List.mem_cons_of_mem _ member),
          fun other _ => agreed.flying other⟩ }

theorem contextSwitch {connId fetchedSeq : Nat}
    (sent : (connId, fetchedSeq) ∈ system.server.notified) {client : ConnectionState}
    (seq : client.endpointEntrySeq = (system.clients connId).endpointEntrySeq)
    (same : client.announced = (system.clients connId).announced) (sound : ClientSound client)
    (cleared : client.cleared = (system.clients connId).cleared) (direct schedSeq : Nat) :
    Agreed (system.setClient connId (client.contextSwitch direct schedSeq fetchedSeq)) := by
  have safe := agreed.safe connId
  rw [← cleared] at safe
  have unchanged : ClientSound client → Agreed (system.setClient connId client) :=
    fun sound => agreed.setClient_same seq same sound safe
  unfold ConnectionState.contextSwitch
  split
  · rename_i positive
    obtain ⟨batchSize, fetched⟩ := agreed.acknowledged.sent connId fetchedSeq sent positive
    obtain ⟨bound, size⟩ := agreed.announced.fetched _ fetched
    dsimp only at bound size
    rw [size] at fetched
    split
    · exact unchanged sound
    · dsimp only
      split
      · rename_i own
        exact agreed.setClient_same seq same
          ⟨Nat.zero_le _, sound.announced, Nat.le_of_eq own, nofun⟩
          (List.forall_mem_append.mpr ⟨safe, List.forall_mem_singleton.mpr fetched⟩)
      · rename_i different
        rw [← seq] at bound
        exact agreed.setClient_same seq same
          ⟨sound.count, sound.announced, bound, fun _ => Nat.lt_of_le_of_ne bound different⟩ safe
  · split
    · exact unchanged sound
    · exact agreed.setClient_same seq same
        ⟨sound.count, sound.announced, sound.acks, sound.pending⟩ safe

theorem sendWarmup (connId : Nat) (allocated : Bool) :
    Agreed (system.next (.sendWarmup connId allocated)) := by
  have sound := agreed.clients connId
  have safe := agreed.safe connId
  change Agreed (system.setClient connId ((system.clients connId).sendWarmup allocated))
  unfold ConnectionState.sendWarmup
  split
  · exact agreed.setClient_same rfl rfl sound safe
  · dsimp only
    split <;> split <;> refine agreed.setClient_same rfl rfl ⟨?_, sound.announced, sound.acks,
      sound.pending⟩ safe
    · exact Nat.succ_le_of_lt (by simp_all)
    · exact Nat.zero_le _
    · rename_i room
      exact room.2.1
    · exact sound.count

theorem server {action : RpcServer.Action} (groups : system.OnePerGroup (.server action)) :
    Agreed (system.next (.server action)) := by
  have step (entry : ∀ connId entry, action ≠ .writeEntry connId entry)
      (info : ∀ connId slots, action ≠ .connectWarmup connId slots) :
      Agreed { system with server := system.server.next action } := by
    have step := agreed.acknowledged.next agreed.announced agreed.says_small groups.single entry info
      (by
        rintro reads rfl
        exact groups.2)
    exact { agreed with
      acknowledged := step.acknowledged
      announced := ⟨step.announced.entries, step.announced.fetched, step.announced.infos⟩
      safe := fun connId seq member => step.grows _ (agreed.safe connId seq member) }
  cases action with
  | writeEntry connId entry => exact agreed
  | connectWarmup connId slots =>
    exact { agreed with
      acknowledged := ⟨agreed.acknowledged.follows, agreed.acknowledged.sent,
        agreed.acknowledged.fetched⟩
      announced := {
        entries := agreed.announced.entries
        fetched := agreed.announced.fetched
        infos := (Function.forall_update_iff system.server.warmupBufferInfos fun _ info =>
            ∀ slots, info = some slots → slots = 16).mpr
          ⟨by simp, fun other _ => agreed.announced.infos other⟩ } }
  | _ => exact step nofun nofun

/-- What one step keeps. -/
theorem next {action : Action} (careful : system.Careful action) : Agreed (system.next action) := by
  obtain ⟨groups, free, own⟩ := careful
  cases action with
  | server action => exact agreed.server groups
  | sendWarmup connId allocated => exact agreed.sendWarmup connId allocated
  | flushWarmup connId slot => exact agreed.flushWarmup connId free
  | reuse slot content =>
    refine { agreed with written := fun write member => ?_ }
    have kept := agreed.written write member
    unfold Says at kept ⊢
    dsimp only [WarmupSystem.next]
    rwa [update_of_ne (free write member)]
  | ring connId => exact { agreed with }
  | readEntry connId => exact agreed.readEntry connId
  | land connId => exact agreed.land connId
  | checkEvents connId schedSeq fetchedSeq =>
    unfold WarmupSystem.next
    dsimp only
    split
    · exact agreed.contextSwitch own rfl rfl (agreed.clients connId) rfl _ _
    · exact agreed
  | processResponse connId schedSeq fetchedSeq =>
    have sound := agreed.clients connId
    unfold WarmupSystem.next ConnectionState.processResponseContextSwitch
    dsimp only
    split
    · rename_i sent
      split
      · refine agreed.contextSwitch sent ?_ ?_ ?_ ?_ _ _
        · rfl
        · rfl
        · exact ⟨sound.count, sound.announced, sound.acks, sound.pending⟩
        · rfl
      · exact agreed.contextSwitch sent rfl rfl sound rfl _ _
    · exact agreed

end Agreed

/-- A client puts requests into its buffer and announces them from a slot. -/
def announce (connId count slot : Nat) : List Action :=
  List.replicate count (.sendWarmup connId true) ++ [.flushWarmup connId (some slot)]

/-- The doorbell is rung and the entry arrives. -/
def deliver (connId : Nat) : List Action := [.ring connId, .readEntry connId, .land connId]

end WarmupSystem

end Locasta.Scalerpc
