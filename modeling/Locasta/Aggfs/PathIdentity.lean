import Locasta.Aggfs.FsClient

namespace Locasta.Aggfs

open Data Function

/-! What the operations on one path do to the file of another.

All tables are keyed by the hash of the path. Two paths with different hashes are different files, as
long as no write leaves the place of its chunk.
-/

namespace PmemStore

variable {store between after : PmemStore} {pathHash hash chunkIdx offset len : Nat}

/-- The chunks of a file stay where they are, with the same bytes. -/
structure Keeps (pathHash : Nat) (before after : PmemStore) : Prop where
  table : ∀ chunkIdx, after.chunkTable (pathHash, chunkIdx) = before.chunkTable (pathHash, chunkIdx)
  region : ∀ chunkIdx location, before.chunkTable (pathHash, chunkIdx) = some location →
    ∀ address, location.offset ≤ address → address < location.offset + location.capacity →
      after.region address = before.region address

namespace Keeps

theorem refl (store : PmemStore) : Keeps pathHash store store :=
  ⟨fun _ => rfl, fun _ _ _ _ _ _ => rfl⟩

theorem trans (first : Keeps pathHash store between) (second : Keeps pathHash between after) :
    Keeps pathHash store after where
  table chunkIdx := (second.table chunkIdx).trans (first.table chunkIdx)
  region chunkIdx location here address low high :=
    (second.region chunkIdx location ((first.table chunkIdx).trans here) address low high).trans
      (first.region chunkIdx location here address low high)

theorem of_table (table : ∀ chunkIdx,
    after.chunkTable (pathHash, chunkIdx) = store.chunkTable (pathHash, chunkIdx))
    (region : after.region = store.region) : Keeps pathHash store after :=
  ⟨table, fun _ _ _ _ _ _ => by rw [region]⟩

end Keeps

theorem other_chunk (different : hash ≠ pathHash) (first second : Nat) :
    (pathHash, first) ≠ (hash, second) :=
  fun same => different (Prod.mk.inj same).1.symm

theorem Keeps.setChunk {location : ChunkLocation} (different : hash ≠ pathHash) :
    Keeps pathHash store (store.setChunk (hash, chunkIdx) location) :=
  .of_table (fun _ => setChunk_other (other_chunk different _ _)) rfl

def Fits (store : PmemStore) (pathHash chunkIdx offset len : Nat) : Prop :=
  offset + len ≤ ((store.chunkTable (pathHash, chunkIdx)).map (·.capacity)).getD
    (store.effectiveChunkSize pathHash)

instance : Decidable (store.Fits pathHash chunkIdx offset len) :=
  inferInstanceAs (Decidable (_ ≤ _))

def Placed (store : PmemStore) (pathHash chunkIdx offset len pointer : Nat) : Prop :=
  ∃ location, store.chunkTable (pathHash, chunkIdx) = some location ∧
    pointer = location.offset + offset ∧ offset + len ≤ location.capacity

theorem Ensured.fits {location : ChunkLocation}
    (ensured : store.Ensured (hash, chunkIdx) (store.effectiveChunkSize hash) location after)
    (fits : store.Fits hash chunkIdx offset len) : offset + len ≤ location.capacity := by
  unfold Fits at fits
  cases found : store.chunkTable (hash, chunkIdx) with
  | some place =>
    rw [found] at fits
    rw [← ensured.known place found]
    exact fits
  | none =>
    rw [found] at fits
    rw [ensured.fresh found]
    exact fits

theorem Ensured.keeps {location : ChunkLocation} {capacity : Nat} (different : hash ≠ pathHash)
    (ensured : store.Ensured (hash, chunkIdx) capacity location after) :
    Keeps pathHash store after :=
  .of_table (fun _ => ensured.others _ (other_chunk different _ _)) ensured.region

section

variable (sound : store.Sound)
include sound

theorem Sound.arrive {pointer : Nat} {data : List UInt8}
    (different : hash ≠ pathHash) (placed : store.Placed hash chunkIdx offset data.length pointer) :
    Sound { store with region := store.region.write pointer data } ∧
      Keeps pathHash store { store with region := store.region.write pointer data } := by
  obtain ⟨location, here, rfl, room⟩ := placed
  refine ⟨{ sound with }, fun _ => rfl, ?_⟩
  intro other place there address low high
  exact sound.region_other here there (other_chunk different _ _) (Nat.le_add_right _ _)
    (by omega) address low high

theorem Sound.write_keeps {data : List UInt8} (different : hash ≠ pathHash)
    (fits : store.Fits hash chunkIdx offset data.length)
    (result : store.write hash chunkIdx offset data = some after) :
    after.Sound ∧ Keeps pathHash store after := by
  obtain ⟨_, location, between, ensured, rfl⟩ := write_spec result
  have room := ensured.fits fits
  have between_sound := ensured.sound sound
  have placed : between.Placed hash chunkIdx offset data.length (location.offset + offset) :=
    ⟨location, ensured.here, rfl, room⟩
  have arrived := (between_sound.arrive different placed).2
  rw [ensured.region] at arrived
  refine ⟨{ between_sound.setChunk_extend ensured.here room with }, ?_⟩
  refine (ensured.keeps different).trans (arrived.trans ?_)
  exact .of_table (fun _ => setChunk_other (other_chunk different _ _)) rfl

theorem Sound.prepareWrite_keeps {pointer capacity : Nat}
    (different : hash ≠ pathHash) (fits : store.Fits hash chunkIdx offset len)
    (result : store.prepareWrite hash chunkIdx offset = some ((pointer, capacity), after)) :
    after.Sound ∧ Keeps pathHash store after ∧ after.Placed hash chunkIdx offset len pointer := by
  unfold prepareWrite at result
  dsimp only at result
  split at result
  · obtain ⟨⟨location, between⟩, found, same⟩ := Option.map_eq_some_iff.mp result
    have ensured := ensureChunk_spec found
    cases same
    exact ⟨ensured.sound sound, ensured.keeps different, location, ensured.here, rfl,
      ensured.fits fits⟩
  · cases result

theorem Sound.commitWrite_keeps {pointer : Nat} (different : hash ≠ pathHash)
    (placed : store.Placed hash chunkIdx offset len pointer)
    (result : store.commitWrite hash chunkIdx offset len = some after) :
    after.Sound ∧ Keeps pathHash store after := by
  obtain ⟨location, here, _, room⟩ := placed
  unfold commitWrite at result
  rw [here] at result
  cases result
  exact ⟨sound.setChunk_extend here room, Keeps.setChunk different⟩

theorem Sound.remove_keeps (different : hash ≠ pathHash) :
    (store.remove hash chunkIdx).2.Sound ∧ Keeps pathHash store (store.remove hash chunkIdx).2 :=
  ⟨sound.remove hash chunkIdx, .of_table (fun _ => remove_other (other_chunk different _ _)) rfl⟩

end

theorem Keeps.read_pointer (keeps : Keeps pathHash store after) (sound : store.Sound)
    {location : ChunkLocation} (here : store.chunkTable (pathHash, chunkIdx) = some location)
    (count : Nat) (inside : offset + count ≤ location.validLen) :
    after.region.read (location.offset + offset) count =
      store.region.read (location.offset + offset) count := by
  have valid := sound.valid _ location here
  refine Memory.read_eq_read_iff.mpr fun index small => ?_
  exact keeps.region chunkIdx location here _ (by omega) (by omega)

end PmemStore

def FsRequest.Reads (pathHash : Nat) : FsRequest → Prop
  | .stat hash | .read hash _ _ _ => hash = pathHash
  | _ => False

namespace Daemon

variable {daemon between after : Daemon} {pathHash : Nat} {request : FsRequest}
  {topology : Topology} {self : Nat}

/-- The file of one hash, its metadata and its chunks. -/
structure Keeps (pathHash : Nat) (before after : Daemon) : Prop where
  metadata : after.fileMetadata pathHash = before.fileMetadata pathHash
  store : PmemStore.Keeps pathHash before.store after.store

theorem Keeps.refl (daemon : Daemon) : Keeps pathHash daemon daemon := ⟨rfl, .refl _⟩

theorem Keeps.trans (first : Keeps pathHash daemon between) (second : Keeps pathHash between after) :
    Keeps pathHash daemon after :=
  ⟨second.metadata.trans first.metadata, first.store.trans second.store⟩

def Fits (daemon : Daemon) : FsRequest → Prop
  | .write hash chunkIndex offset len => daemon.store.Fits hash chunkIndex offset len
  | _ => True

instance (daemon : Daemon) : (request : FsRequest) → Decidable (daemon.Fits request)
  | .write hash chunkIndex offset len =>
    inferInstanceAs (Decidable (daemon.store.Fits hash chunkIndex offset len))
  | .create .. | .stat _ | .read .. | .unlink _ | .mkdir .. | .readdir _ => isTrue trivial

theorem updateFileSize_keeps {hash chunkIndex offset len : Nat} (different : hash ≠ pathHash) :
    Keeps pathHash daemon (daemon.updateFileSize topology self hash chunkIndex offset len) := by
  refine ⟨?_, ?_⟩
  · unfold updateFileSize
    split
    · dsimp only
      split
      · split
        · exact update_of_ne (Ne.symm different) ..
        · rfl
      · rfl
    · rfl
  · rw [updateFileSize_store]
    exact .refl _

theorem create_keeps {hash mode chunkSize : Nat} (different : hash ≠ pathHash) :
    Keeps pathHash daemon (daemon.create hash mode chunkSize) :=
  ⟨update_of_ne (Ne.symm different) .., .of_table (fun _ => rfl) rfl⟩

theorem unlink_keeps {hash : Nat} (sound : daemon.store.Sound) (different : hash ≠ pathHash) :
    Keeps pathHash daemon (daemon.unlink hash) :=
  ⟨update_of_ne (Ne.symm different) .., (sound.remove_keeps different).2⟩

theorem mkdir_keeps {hash mode : Nat} (different : hash ≠ pathHash) :
    Keeps pathHash daemon (daemon.mkdir hash mode) :=
  ⟨update_of_ne (Ne.symm different) .., .refl _⟩

/-- A request for another path, served by its own daemon, leaves the path alone. -/
theorem serve_keeps (sound : daemon.store.Sound) (different : request.pathHash ≠ pathHash)
    (fits : daemon.Fits request) {area filled : Memory} {response : FsResponse}
    (result : daemon.serve topology self area request = some (response, filled, after)) :
    after.store.Sound ∧ Keeps pathHash daemon after := by
  cases request with
  | write hash chunkIndex offset len =>
    obtain ⟨store, written, same⟩ := Option.map_eq_some_iff.mp result
    cases same
    have inside : daemon.store.Fits hash chunkIndex offset (area.read 0 len).length := by
      rw [Memory.read_length]
      exact fits
    obtain ⟨kept, keeps⟩ := sound.write_keeps different inside written
    refine ⟨by rw [updateFileSize_store]; exact kept, ?_⟩
    have first : Keeps pathHash daemon { daemon with store } := ⟨rfl, keeps⟩
    exact first.trans (updateFileSize_keeps different)
  | read hash chunkIndex offset len =>
    cases result
    exact ⟨sound, .refl _⟩
  | stat hash =>
    simp only [serve] at result
    split at result <;>
      · cases result
        exact ⟨sound, .refl _⟩
  | create hash mode chunkSize =>
    cases result
    exact ⟨{ sound with }, create_keeps different⟩
  | unlink hash =>
    cases result
    exact ⟨sound.remove hash 0, unlink_keeps sound different⟩
  | mkdir hash mode =>
    cases result
    exact ⟨sound, mkdir_keeps different⟩
  | readdir hash =>
    cases result
    exact ⟨sound, .refl _⟩

def Awaits (daemon : Daemon) (request : FsRequest) (pointer : Nat) : Prop :=
  match request with
  | .write hash chunkIndex offset len => daemon.store.Placed hash chunkIndex offset len pointer
  | _ => False

/-- The same for the first half of a forwarded request; a transfer goes to a chunk of its own. -/
theorem receive_keeps (sound : daemon.store.Sound) (different : request.pathHash ≠ pathHash)
    (fits : daemon.Fits request) {received : Received}
    (result : daemon.receive request = some (received, after)) :
    after.store.Sound ∧ Keeps pathHash daemon after ∧
      ∀ pointer, received = .fetch pointer → after.Awaits request pointer := by
  cases request with
  | write hash chunkIndex offset len =>
    obtain ⟨⟨⟨pointer, capacity⟩, store⟩, prepared, same⟩ := Option.map_eq_some_iff.mp result
    cases same
    obtain ⟨kept, keeps, placed⟩ := sound.prepareWrite_keeps different fits prepared
    refine ⟨kept, ⟨rfl, keeps⟩, ?_⟩
    rintro _ ⟨⟩
    exact placed
  | read hash chunkIndex offset len =>
    simp only [receive] at result
    split at result
    · split at result <;>
        · cases result
          exact ⟨sound, .refl _, nofun⟩
    · cases result
      exact ⟨sound, .refl _, nofun⟩
  | stat hash =>
    simp only [receive] at result
    split at result <;>
      · cases result
        exact ⟨sound, .refl _, nofun⟩
  | create hash mode chunkSize =>
    cases result
    exact ⟨{ sound with }, create_keeps different, nofun⟩
  | unlink hash =>
    cases result
    exact ⟨sound.remove hash 0, unlink_keeps sound different, nofun⟩
  | mkdir hash mode => cases result
  | readdir hash => cases result

theorem finish_keeps (sound : daemon.store.Sound) (different : request.pathHash ≠ pathHash)
    {received : Received}
    (awaits : ∀ pointer, received = .fetch pointer → daemon.Awaits request pointer)
    {area filled : Memory} {reply : RemoteReply}
    (result : daemon.finish topology self area request received = some (reply, filled, after)) :
    after.store.Sound ∧ Keeps pathHash daemon after := by
  cases received with
  | reply other =>
    cases result
    exact ⟨sound, .refl _⟩
  | deliver pointer actual =>
    cases result
    exact ⟨sound, .refl _⟩
  | fetch pointer =>
    have placed := awaits pointer rfl
    cases request with
    | write hash chunkIndex offset len =>
      obtain ⟨committed, found, same⟩ := Option.map_eq_some_iff.mp result
      cases same
      obtain ⟨store, commit, rfl⟩ := Option.map_eq_some_iff.mp found
      have arrived := @PmemStore.Sound.arrive daemon.store pathHash hash chunkIndex offset sound
        pointer (area.read 0 len) different (by rw [Memory.read_length]; exact placed)
      obtain ⟨kept, keeps⟩ := arrived.1.commitWrite_keeps different placed commit
      have stored : Keeps pathHash daemon { daemon with store } := ⟨rfl, arrived.2.trans keeps⟩
      refine ⟨?_, stored.trans (updateFileSize_keeps different)⟩
      rw [updateFileSize_store]
      exact kept
    | _ => cases placed

theorem complete_keeps (different : request.pathHash ≠ pathHash) {reply : RemoteReply} :
    (daemon.complete topology self request reply).2.store = daemon.store ∧
      Keeps pathHash daemon (daemon.complete topology self request reply).2 := by
  cases reply with
  | stat status header =>
    simp only [complete]
    split
    · exact ⟨rfl, .refl _⟩
    · split <;> exact ⟨rfl, .refl _⟩
  | plain status len =>
    simp only [complete]
    split
    · split
      · exact ⟨updateFileSize_store .., updateFileSize_keeps different⟩
      all_goals exact ⟨rfl, .refl _⟩
    · exact ⟨rfl, .refl _⟩

theorem serve_reads (keeps : Keeps pathHash daemon after) (sound : daemon.store.Sound)
    (reads : request.Reads pathHash) {area other : Memory} :
    ∃ response filled same, daemon.serve topology self area request = some (response, filled, daemon) ∧
      after.serve topology self other request = some (response, same, after) ∧
      ∀ len, response = .readOk len → same.read 0 len = filled.read 0 len := by
  cases request with
  | stat hash =>
    cases reads
    simp only [serve]
    rw [keeps.metadata]
    cases daemon.fileMetadata pathHash with
    | none => exact ⟨.notFound, area, other, rfl, rfl, nofun⟩
    | some header => exact ⟨.statOk header, area, other, rfl, rfl, nofun⟩
  | read hash chunkIndex offset len =>
    cases reads
    simp only [serve]
    rw [PmemStore.read_congr sound (keeps.store.table chunkIndex) (keeps.store.region chunkIndex)]
    refine ⟨_, _, _, rfl, rfl, ?_⟩
    rintro _ ⟨⟩
    rw [Memory.read_write_same, Memory.read_write_same]
  | _ => cases reads

def Received.Agree (left right : Daemon) : Received → Prop
  | .reply (.plain _ len) => len = 0
  | .reply (.stat ..) => True
  | .fetch _ => False
  | .deliver pointer actual =>
    right.store.region.read pointer actual = left.store.region.read pointer actual

theorem receive_reads (keeps : Keeps pathHash daemon after) (sound : daemon.store.Sound)
    (reads : request.Reads pathHash) :
    ∃ received, daemon.receive request = some (received, daemon) ∧
      after.receive request = some (received, after) ∧ received.Agree daemon after := by
  cases request with
  | stat hash =>
    cases reads
    simp only [receive]
    rw [keeps.metadata]
    cases daemon.fileMetadata pathHash with
    | none => exact ⟨_, rfl, rfl, trivial⟩
    | some header => exact ⟨_, rfl, rfl, trivial⟩
  | read hash chunkIndex offset len =>
    cases reads
    have table := keeps.store.table chunkIndex
    cases found : daemon.store.chunkTable (pathHash, chunkIndex) with
    | none =>
      simp only [receive, PmemStore.ptrForChunkRead, found, table]
      exact ⟨_, rfl, rfl, Nat.zero_min len⟩
    | some location =>
      simp only [receive, PmemStore.ptrForChunkRead, found, table, Option.map_some,
        Option.getD_some]
      by_cases beyond : offset ≥ location.validLen
      · simp only [if_pos beyond]
        exact ⟨_, rfl, rfl, Nat.zero_min len⟩
      · simp only [if_neg beyond]
        split
        · refine ⟨_, rfl, rfl, ?_⟩
          exact keeps.store.read_pointer sound found _ (by omega)
        · exact ⟨_, rfl, rfl, by simp only [Received.Agree]; omega⟩
  | _ => cases reads

theorem finish_reads {received : Received} (agree : received.Agree daemon after)
    {area other : Memory} :
    ∃ reply filled same, daemon.finish topology self area request received =
        some (reply, filled, daemon) ∧
      after.finish topology self other request received = some (reply, same, after) ∧
      ∀ status len, reply = .plain status len → same.read 0 len = filled.read 0 len := by
  cases received with
  | reply reply =>
    refine ⟨reply, area, other, rfl, rfl, ?_⟩
    rintro status len rfl
    cases agree
    rfl
  | fetch pointer => cases agree
  | deliver pointer actual =>
    refine ⟨_, _, _, rfl, rfl, ?_⟩
    rintro status len same
    cases same
    have read (memory : Memory) (bytes : List UInt8) (length : bytes.length = actual) :
        (memory.write 0 bytes).read 0 actual = bytes := by
      rw [← length]
      exact Memory.read_write_same memory 0 bytes
    rw [read _ _ (Memory.read_length ..), read _ _ (Memory.read_length ..)]
    exact agree

theorem complete_reads (reads : request.Reads pathHash) (reply : RemoteReply) :
    ∃ response, (∀ daemon : Daemon,
      daemon.complete topology self request reply = (response, daemon)) ∧
      ∀ len, response = .readOk len → ∃ status, reply = .plain status len := by
  cases reply with
  | stat status header =>
    simp only [complete]
    split
    · exact ⟨_, fun _ => rfl, nofun⟩
    · split
      · exact ⟨_, fun _ => rfl, nofun⟩
      · exact ⟨_, fun _ => rfl, nofun⟩
  | plain status len =>
    simp only [complete]
    split
    · cases request with
      | stat hash => exact ⟨_, fun _ => rfl, nofun⟩
      | read hash chunkIndex offset asked =>
        refine ⟨_, fun _ => rfl, ?_⟩
        rintro _ ⟨⟩
        exact ⟨status, rfl⟩
      | _ => cases reads
    · exact ⟨_, fun _ => rfl, nofun⟩

end Daemon

namespace Cluster

variable {start cluster after : Cluster} {client pathHash : Nat} {request : FsRequest} {call : Call}

def executor (cluster : Cluster) (client : Nat) (request : FsRequest) : Option Nat :=
  let self := cluster.attached client
  let target := request.owner cluster.topology
  if target = self then some self else cluster.topology.forward self target

def Fits (cluster : Cluster) (client : Nat) (request : FsRequest) : Prop :=
  ∀ executor ∈ cluster.executor client request, (cluster.daemons executor).Fits request

instance : Decidable (cluster.Fits client request) :=
  inferInstanceAs (Decidable (∀ executor ∈ cluster.executor client request, _))

/-- All calls are answered, and the stores are in order. -/
structure Resting (cluster : Cluster) : Prop where
  calls : ∀ client, cluster.calls client = none
  sound : ∀ id, (cluster.daemons id).store.Sound

/-- What a sequence of calls leaves of a file. -/
structure Keeps (pathHash : Nat) (start cluster : Cluster) : Prop where
  topology : cluster.topology = start.topology
  attached : cluster.attached = start.attached
  daemons : ∀ id, Daemon.Keeps pathHash (start.daemons id) (cluster.daemons id)

theorem Keeps.refl (cluster : Cluster) : Keeps pathHash cluster cluster :=
  ⟨rfl, rfl, fun _ => .refl _⟩

theorem Keeps.trans (first : Keeps pathHash start cluster) (second : Keeps pathHash cluster after) :
    Keeps pathHash start after :=
  ⟨second.topology.trans first.topology, second.attached.trans first.attached,
    fun id => (first.daemons id).trans (second.daemons id)⟩

theorem update_keeps {daemons : Nat → Daemon} {id : Nat} {daemon : Daemon}
    (sound : ∀ id, (daemons id).store.Sound)
    (kept : daemon.store.Sound ∧ Daemon.Keeps pathHash (daemons id) daemon) :
    (∀ other, (update daemons id daemon other).store.Sound) ∧
      ∀ other, Daemon.Keeps pathHash (daemons other) (update daemons id daemon other) := by
  rw [← forall_and]
  intro other
  by_cases here : other = id
  · rw [here, update_self]
    exact kept
  · rw [update_of_ne here]
    exact ⟨sound other, .refl _⟩

theorem outcome_keeps (sound : ∀ id, (cluster.daemons id).store.Sound)
    (different : request.pathHash ≠ pathHash) (fits : cluster.Fits client request)
    {area filled : Memory} {response : FsResponse} {daemons : Nat → Daemon}
    (result : cluster.outcome client request area = some (response, filled, daemons)) :
    (∀ id, (daemons id).store.Sound) ∧
      ∀ id, Daemon.Keeps pathHash (cluster.daemons id) (daemons id) := by
  unfold outcome at result
  unfold Fits executor at fits
  dsimp only at result fits
  split at result
  · rename_i mine
    rw [if_pos mine] at fits
    obtain ⟨⟨_, _, daemon⟩, served, same⟩ := Option.map_eq_some_iff.mp result
    cases same
    exact update_keeps sound (Daemon.serve_keeps (sound _) different (fits _ rfl) served)
  · rename_i other
    rw [if_neg other] at fits
    split at result
    · split at result
      · cases result
        exact ⟨sound, fun _ => .refl _⟩
      · rename_i executor sent
        split at result
        · cases result
        · rename_i received daemon found
          obtain ⟨⟨reply, _, there⟩, finished, same⟩ := Option.map_eq_some_iff.mp result
          cases same
          obtain ⟨kept, keeps, awaits⟩ :=
            Daemon.receive_keeps (sound executor) different (fits executor sent) found
          obtain ⟨keptAfter, keepsAfter⟩ := Daemon.finish_keeps kept different awaits finished
          obtain ⟨sounds, allKeep⟩ := update_keeps sound ⟨keptAfter, keeps.trans keepsAfter⟩
          obtain ⟨store, completed⟩ := Daemon.complete_keeps different
          obtain ⟨soundsAfter, allKeepAfter⟩ := update_keeps sounds ⟨store ▸ sounds _, completed⟩
          exact ⟨soundsAfter, fun id => (allKeep id).trans (allKeepAfter id)⟩
    · cases result
      exact ⟨sound, fun _ => .refl _⟩

/-- A whole call for another path leaves the path alone at all daemons. -/
theorem callBlocking_keeps (resting : cluster.Resting) (different : request.pathHash ≠ pathHash)
    (fits : cluster.Fits client request) {area : Memory} {response : FsResponse}
    (result : cluster.callBlocking client request area = some (response, after)) :
    after.Resting ∧ Keeps pathHash cluster after := by
  rw [callBlocking_outcome (resting.calls client)] at result
  obtain ⟨⟨_, filled, daemons⟩, found, same⟩ := Option.map_eq_some_iff.mp result
  cases same
  obtain ⟨sound, keeps⟩ := outcome_keeps resting.sound different fits found
  exact ⟨⟨resting.calls, sound⟩, rfl, rfl, keeps⟩

theorem outcome_reads {left right : Cluster} (keeps : Keeps pathHash left right)
    (sound : ∀ id, (left.daemons id).store.Sound) (reads : request.Reads pathHash)
    (area other : Memory) :
    ∃ response filled same, left.outcome client request area = some (response, filled, left.daemons) ∧
      right.outcome client request other = some (response, same, right.daemons) ∧
      ∀ len, response = .readOk len → same.read 0 len = filled.read 0 len := by
  unfold outcome
  dsimp only
  rw [keeps.topology, keeps.attached]
  split
  · obtain ⟨response, filled, same, one, two, agree⟩ :=
      @Daemon.serve_reads _ _ pathHash request left.topology (left.attached client)
        (keeps.daemons (left.attached client)) (sound _) reads area other
    rw [one, two]
    refine ⟨response, filled, same, ?_, ?_, agree⟩ <;>
      simp only [Option.map_some, update_eq_self]
  · have kind : request.forwarded = true := by
      cases request with
      | stat hash | read hash chunkIndex offset len => rfl
      | _ => cases reads
    rw [if_pos kind, if_pos kind]
    cases left.topology.forward (left.attached client) (request.owner left.topology) with
    | none => exact ⟨_, _, _, rfl, rfl, nofun⟩
    | some executor =>
      obtain ⟨received, one, two, agree⟩ :=
        Daemon.receive_reads (keeps.daemons executor) (sound executor) reads
      obtain ⟨reply, filled, same, first, second, bytes⟩ := @Daemon.finish_reads _ _ request
        left.topology executor received agree area other
      obtain ⟨response, completed, source⟩ := @Daemon.complete_reads pathHash request left.topology
        (left.attached client) reads reply
      dsimp only
      rw [one, two]
      dsimp only
      rw [first, second]
      refine ⟨response, filled, same, ?_, ?_, ?_⟩
      · simp only [Option.map_some, update_eq_self, completed]
      · simp only [Option.map_some, update_eq_self, completed]
      · intro len told
        obtain ⟨status, plain⟩ := source len told
        exact bytes status len plain

theorem callBlocking_reads {left right : Cluster} (keeps : Keeps pathHash left right)
    (resting : left.Resting) (idle : right.calls client = none) (reads : request.Reads pathHash)
    (area other : Memory) :
    ∃ response leftAfter rightAfter,
      left.callBlocking client request area = some (response, leftAfter) ∧
      right.callBlocking client request other = some (response, rightAfter) ∧
      Keeps pathHash leftAfter rightAfter ∧ leftAfter.Resting ∧ rightAfter.calls client = none ∧
      ∀ len, response = .readOk len →
        (rightAfter.areas client).read 0 len = (leftAfter.areas client).read 0 len := by
  obtain ⟨response, filled, same, one, two, agree⟩ :=
    @outcome_reads client pathHash request left right keeps resting.sound reads area other
  refine ⟨response, left.served client request response filled left.daemons,
    right.served client request response same right.daemons, ?_, ?_,
    ⟨keeps.topology, keeps.attached, keeps.daemons⟩, ⟨resting.calls, resting.sound⟩, idle, ?_⟩
  · rw [callBlocking_outcome (resting.calls client), one]
    rfl
  · rw [callBlocking_outcome idle, two]
    rfl
  · simp only [served, update_self]
    exact agree

end Cluster

namespace FsClient

open Cluster

variable {client : FsClient} {start cluster after left right : Cluster} {pathHash hash : Nat}

/-- Every turn of `pwriteLoop` stays inside its chunk. -/
def pwriteFits (client : FsClient) (pathHash : Nat) : Nat → Cluster → Nat → List UInt8 → Bool
  | _, _, _, [] => true
  | 0, _, _, _ :: _ => true
  | fuel + 1, cluster, fileOffset, byte :: bytes =>
    let thisLen := client.thisLen fileOffset (byte :: bytes).length
    let (request, area) := client.pwriteTurn pathHash cluster fileOffset (byte :: bytes)
    decide (cluster.Fits client.id request) &&
      match cluster.callBlocking client.id request area with
      | none => true
      | some (response, cluster) =>
        match unitResult response with
        | .ok () =>
          client.pwriteFits pathHash fuel cluster (fileOffset + thisLen)
            ((byte :: bytes).drop thisLen)
        | .error _ => true

/-- By induction on the turns: no turn of a `pwrite` to another path touches this one. -/
theorem pwriteLoop_keeps (different : hash ≠ pathHash) {fuel : Nat} (resting : cluster.Resting)
    {fileOffset : Nat} {bytes : List UInt8}
    (fits : client.pwriteFits hash fuel cluster fileOffset bytes = true)
    {result : Except FsError Unit}
    (wrote : client.pwriteLoop hash fuel cluster fileOffset bytes = some (result, after)) :
    after.Resting ∧ Keeps pathHash cluster after := by
  induction fuel generalizing cluster fileOffset bytes with
  | zero =>
    cases bytes with
    | nil =>
      cases wrote
      exact ⟨resting, .refl _⟩
    | cons byte rest => cases wrote
  | succ fuel ih =>
    cases bytes with
    | nil =>
      cases wrote
      exact ⟨resting, .refl _⟩
    | cons byte rest =>
      unfold pwriteLoop at wrote
      unfold pwriteFits at fits
      dsimp only at wrote fits
      rw [Bool.and_eq_true, decide_eq_true_eq] at fits
      split at wrote
      · cases wrote
      · rename_i response between called
        rw [called] at fits
        obtain ⟨inside, later⟩ := fits
        obtain ⟨rests, keeps⟩ : between.Resting ∧ Keeps pathHash cluster between := by
          refine callBlocking_keeps resting ?_ inside called
          exact different
        dsimp only at later
        split at wrote
        · rename_i done
          rw [done] at later
          obtain ⟨restsAfter, keepsAfter⟩ := ih rests later wrote
          exact ⟨restsAfter, keeps.trans keepsAfter⟩
        · cases wrote
          exact ⟨rests, keeps⟩

theorem stat_twin {path : List UInt8} (keeps : Keeps (koyamaHash path) left right)
    (resting : left.Resting) (idle : right.calls client.id = none) :
    (client.stat right path).map Prod.fst = (client.stat left path).map Prod.fst := by
  have reads : FsRequest.Reads (koyamaHash path) (.stat (koyamaHash path)) := rfl
  obtain ⟨response, _, _, one, two, _⟩ := callBlocking_reads keeps resting idle reads
    (left.areas client.id) (right.areas client.id)
  unfold stat call
  rw [one, two]
  rfl

theorem preadLoop_twin {fuel : Nat} (keeps : Keeps pathHash left right) (resting : left.Resting)
    (idle : right.calls client.id = none) {fileOffset remaining : Nat} :
    (client.preadLoop pathHash fuel right fileOffset remaining).map Prod.fst =
      (client.preadLoop pathHash fuel left fileOffset remaining).map Prod.fst := by
  induction fuel generalizing left right fileOffset remaining with
  | zero =>
    cases remaining with
    | zero => rfl
    | succ remaining => rfl
  | succ fuel ih =>
    cases remaining with
    | zero => rfl
    | succ remaining =>
      have reads : FsRequest.Reads pathHash (.read pathHash
        (fileOffset / client.chunkSize % 2 ^ 32) (fileOffset % client.chunkSize % 2 ^ 32)
        (client.thisLen fileOffset (remaining + 1) % 2 ^ 32)) := rfl
      obtain ⟨response, leftAfter, rightAfter, one, two, kept, rests, quiet, agree⟩ :=
        callBlocking_reads keeps resting idle reads (left.areas client.id) (right.areas client.id)
      unfold preadLoop call
      dsimp only
      rw [one, two]
      cases response with
      | readOk actual =>
        dsimp only
        rw [agree actual rfl]
        split
        · rfl
        · have later := congrArg (Option.map (Except.map
            ((leftAfter.areas client.id).read 0 actual ++ ·))) (@ih _ _ kept rests quiet
              (fileOffset + actual) (remaining + 1 - actual))
          rw [Option.map_map, Option.map_map] at later ⊢
          exact later
      | _ => rfl

theorem pread_twin (keeps : Keeps pathHash left right) (resting : left.Resting)
    (idle : right.calls client.id = none) {fd len offset : Nat}
    (opened : client.fdPathHash fd = .ok pathHash) :
    (client.pread right fd len offset).map Prod.fst =
      (client.pread left fd len offset).map Prod.fst := by
  unfold pread
  rw [opened]
  exact preadLoop_twin keeps resting idle

end FsClient

/-- The cluster and the clients that use it. -/
structure Deployment where
  cluster : Cluster
  clients : Nat → FsClient

inductive PathOperation where
  | create (mode : Nat)
  | openFile
  | pwrite (fd : Nat) (buf : List UInt8) (offset : Nat)
  | stat
  | unlink

namespace Deployment

open Cluster

def new (topology : Topology) (attached : Nat → Nat) (stores : Nat → PmemStore)
    (clients : Nat → FsClient) : Deployment where
  cluster := .new topology attached stores
  clients

def perform (deployment : Deployment) (who : Nat) (path : List UInt8) :
    PathOperation → Option Deployment
  | .create mode =>
    ((deployment.clients who).create deployment.cluster path mode).map fun (_, cluster) =>
      { deployment with cluster }
  | .openFile =>
    some { deployment with
      clients := update deployment.clients who
        ((deployment.clients who).openFile path).2 }
  | .pwrite fd buf offset =>
    ((deployment.clients who).pwrite deployment.cluster fd buf offset).map fun (_, cluster) =>
      { deployment with cluster }
  | .stat =>
    ((deployment.clients who).stat deployment.cluster path).map fun (_, cluster) =>
      { deployment with cluster }
  | .unlink =>
    ((deployment.clients who).unlink deployment.cluster path).map fun (_, cluster) =>
      { deployment with cluster }

/-- A `pwrite` goes to a descriptor of the path, and its pieces stay inside their chunks. -/
def proper (deployment : Deployment) (who : Nat) (path : List UInt8) : PathOperation → Bool
  | .pwrite fd buf offset =>
    match (deployment.clients who).fdPathHash fd with
    | .ok hash =>
      hash = koyamaHash path &&
        (deployment.clients who).pwriteFits hash buf.length deployment.cluster offset buf
    | .error _ => false
  | .create _ | .openFile | .stat | .unlink => true

/-- Operations of any clients, one after the other; each returns. -/
def performAll : Deployment → List (Nat × List UInt8 × PathOperation) → Option Deployment
  | deployment, [] => some deployment
  | deployment, (who, path, operation) :: rest =>
    match deployment.perform who path operation with
    | none => none
    | some between => between.performAll rest

def properAll : Deployment → List (Nat × List UInt8 × PathOperation) → Bool
  | _, [] => true
  | deployment, (who, path, operation) :: rest =>
    deployment.proper who path operation &&
      match deployment.perform who path operation with
      | none => true
      | some between => between.properAll rest

variable {start between after : Deployment} {pathHash who : Nat} {path : List UInt8}
  {operation : PathOperation}

theorem call_keeps {cluster done : Cluster} (resting : cluster.Resting) {client : FsClient}
    {request : FsRequest} {response : FsResponse}
    (called : client.call cluster request = some (response, done))
    (different : request.pathHash ≠ pathHash) (small : ∀ daemon : Daemon, daemon.Fits request) :
    done.Resting ∧ Keeps pathHash cluster done :=
  callBlocking_keeps resting different (fun _ _ => small _) called

theorem perform_keeps (resting : start.cluster.Resting) (different : koyamaHash path ≠ pathHash)
    (proper : start.proper who path operation = true)
    (returned : start.perform who path operation = some between) :
    between.cluster.Resting ∧ Keeps pathHash start.cluster between.cluster := by
  cases operation with
  | create mode | stat | unlink =>
    obtain ⟨⟨result, cluster⟩, made, rfl⟩ := Option.map_eq_some_iff.mp returned
    obtain ⟨⟨response, done⟩, called, same⟩ := Option.map_eq_some_iff.mp made
    cases same
    exact call_keeps resting called different fun _ => trivial
  | openFile =>
    cases returned
    exact ⟨resting, .refl _⟩
  | pwrite fd buf offset =>
    obtain ⟨⟨result, cluster⟩, made, rfl⟩ := Option.map_eq_some_iff.mp returned
    simp only [Deployment.proper] at proper
    unfold FsClient.pwrite at made
    cases opened : (start.clients who).fdPathHash fd with
    | error code =>
      rw [opened] at proper
      cases proper
    | ok hash =>
      rw [opened] at proper made
      rw [Bool.and_eq_true, decide_eq_true_eq] at proper
      obtain ⟨rfl, fits⟩ := proper
      obtain ⟨⟨outcome, done⟩, wrote, same⟩ := Option.map_eq_some_iff.mp made
      cases same
      exact FsClient.pwriteLoop_keeps different resting fits wrote

variable {operations : List (Nat × List UInt8 × PathOperation)}

theorem performAll_keeps (resting : start.cluster.Resting)
    (different : ∀ call ∈ operations, koyamaHash call.2.1 ≠ pathHash)
    (proper : start.properAll operations = true)
    (returned : start.performAll operations = some after) :
    after.cluster.Resting ∧ Keeps pathHash start.cluster after.cluster := by
  induction operations generalizing start with
  | nil =>
    cases returned
    exact ⟨resting, .refl _⟩
  | cons call rest ih =>
    obtain ⟨who, path, operation⟩ := call
    unfold performAll at returned
    unfold properAll at proper
    rw [Bool.and_eq_true] at proper
    split at returned
    · cases returned
    · rename_i between found
      rw [found] at proper
      obtain ⟨here, later⟩ := proper
      obtain ⟨rests, keeps⟩ :=
        perform_keeps resting (different _ List.mem_cons_self) here found
      obtain ⟨restsAfter, keepsAfter⟩ :=
        ih rests (fun other member => different other (List.mem_cons_of_mem _ member)) later returned
      exact ⟨restsAfter, keeps.trans keepsAfter⟩

theorem koyamaHash_lt (path : List UInt8) : koyamaHash path < 2 ^ 64 := by
  unfold koyamaHash
  generalize 0 = hash
  generalize (none : Option Nat) = number
  induction path generalizing hash number with
  | nil => exact Nat.mod_lt _ (Nat.two_pow_pos 64)
  | cons byte rest ih =>
    unfold koyamaHashFrom
    split
    · exact ih _ _
    · exact ih _ _

theorem performAll_resting (resting : start.cluster.Resting)
    (proper : start.properAll operations = true)
    (returned : start.performAll operations = some after) : after.cluster.Resting := by
  have different : ∀ call ∈ operations, koyamaHash call.2.1 ≠ 2 ^ 64 :=
    fun call _ => Nat.ne_of_lt (koyamaHash_lt call.2.1)
  exact (performAll_keeps resting different proper returned).1

theorem new_resting {topology : Topology} {attached : Nat → Nat} {stores : Nat → PmemStore}
    {clients : Nat → FsClient} (sound : ∀ id, (stores id).Sound) :
    (new topology attached stores clients).cluster.Resting :=
  ⟨fun _ => rfl, sound⟩

/-- Operations on one path change neither `stat` nor `pread` of one with a different hash. -/
theorem paths_independent {topology : Topology} {attached : Nat → Nat} {regions : Nat → Memory}
    {regionLen maxChunkCapacity : Nat} {clients : Nat → FsClient} {first second : List UInt8}
    {history : List (Nat × List UInt8 × PathOperation)}
    (different : koyamaHash second ≠ koyamaHash first)
    (past : (new topology attached (fun id => .new (regions id) regionLen maxChunkCapacity)
      clients).performAll history = some start)
    (properPast : (new topology attached (fun id => .new (regions id) regionLen maxChunkCapacity)
      clients).properAll history = true)
    (only : ∀ call ∈ operations, call.2.1 = second)
    (returned : start.performAll operations = some after)
    (proper : start.properAll operations = true) (reader : FsClient) :
    (reader.stat after.cluster first).map Prod.fst =
        (reader.stat start.cluster first).map Prod.fst ∧
      ∀ fd len offset, reader.fdPathHash fd = .ok (koyamaHash first) →
        (reader.pread after.cluster fd len offset).map Prod.fst =
          (reader.pread start.cluster fd len offset).map Prod.fst := by
  have resting := performAll_resting (new_resting fun _ => PmemStore.Sound.new ..) properPast past
  have others : ∀ call ∈ operations, koyamaHash call.2.1 ≠ koyamaHash first := by
    intro call member
    rw [only call member]
    exact different
  obtain ⟨rests, keeps⟩ := performAll_keeps resting others proper returned
  exact ⟨FsClient.stat_twin keeps resting (rests.calls _),
    fun _ _ _ opened => FsClient.pread_twin keeps resting (rests.calls _) opened⟩

/-- One daemon, whose clients have chunks of eight bytes -/
def single : Deployment :=
  new .onlyNode (fun _ => 0) (fun _ => .new (fun _ => 0) 64 8)
    (fun id => { id, chunkSize := 8, dataCapacity := 8, fdTable := [] })

def writtenA1 : List (Nat × List UInt8 × PathOperation) :=
  [(0, [97, 49], .create 0o644), (0, [97, 49], .openFile), (0, [97, 49], .pwrite 0 [1, 2, 3] 0)]

theorem paths_independent_a1_c :
    let operations : List (Nat × List UInt8 × PathOperation) :=
      [(1, [99], .create 0o600), (1, [99], .openFile), (1, [99], .pwrite 0 [9, 9] 0),
        (1, [99], .unlink)]
    let reader : FsClient := { id := 2, chunkSize := 8, dataCapacity := 8, fdTable := [some 98] }
    ∃ start after, single.performAll writtenA1 = some start ∧
      start.performAll operations = some after ∧
      (reader.pread after.cluster 0 3 0).map Prod.fst =
        (reader.pread start.cluster 0 3 0).map Prod.fst := by
  intro operations reader
  obtain ⟨start, past⟩ : ∃ start, single.performAll writtenA1 = some start :=
    Option.isSome_iff_exists.mp (by decide +kernel)
  have both : ((single.performAll writtenA1).bind (·.performAll operations)).isSome = true := by
    decide +kernel
  have fits : ((single.performAll writtenA1).all (·.properAll operations)) = true := by
    decide +kernel
  rw [past] at both fits
  obtain ⟨after, returned⟩ := Option.isSome_iff_exists.mp both
  have different : koyamaHash [99] ≠ koyamaHash [97, 49] := by decide
  have only : ∀ call ∈ operations, call.2.1 = [99] := by decide
  refine ⟨start, after, past, returned, ?_⟩
  exact (paths_independent different past (by decide +kernel) only returned fits reader).2 0 3 0 rfl

/-- `a01` has the hash of `a1`: to remove it removes the other file. -/
theorem a01_removes_a1 :
    let reader : FsClient := { id := 2, chunkSize := 8, dataCapacity := 8, fdTable := [some 98] }
    let stat := fun deployment : Deployment =>
      (reader.stat deployment.cluster [97, 49]).map fun (result, _) => result.toOption
    let pread := fun deployment : Deployment =>
      (reader.pread deployment.cluster 0 3 0).map fun (result, _) => result.toOption
    let before := single.performAll writtenA1
    let after := single.performAll (writtenA1 ++ [(1, [97, 48, 49], .unlink)])
    koyamaHash [97, 48, 49] = koyamaHash [97, 49] ∧
      before.bind stat = some (some { mode := 0o644, size := 3, chunkSize := 8 }) ∧
      before.bind pread = some (some [1, 2, 3]) ∧
      after.bind stat = some none ∧ after.bind pread = some (some []) := by
  decide +kernel

end Deployment

end Locasta.Aggfs
