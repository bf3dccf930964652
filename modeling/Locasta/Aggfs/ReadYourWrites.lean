import Locasta.Aggfs.FsClient
import Locasta.Data.Readable

namespace Locasta.Aggfs

open Data Function

/-! A client of a single daemon reads what it wrote.

A file is seen as a partial function from positions to bytes. A position is read if the valid length
of its chunk goes beyond it, so a write can also make bytes before it readable.
-/

theorem position_inside {chunkSize position index : Nat}
    (inside : position % chunkSize + index < chunkSize) :
    (position + index) / chunkSize = position / chunkSize ∧
      (position + index) % chunkSize = position % chunkSize + index := by
  have positive : 0 < chunkSize := by omega
  have split := Nat.div_add_mod position chunkSize
  have same : position + index =
      chunkSize * (position / chunkSize) + (position % chunkSize + index) := by omega
  constructor
  · rw [same, Nat.mul_add_div positive, Nat.div_eq_of_lt inside, Nat.add_zero]
  · rw [same, Nat.mul_add_mod, Nat.mod_eq_of_lt inside]

namespace PmemStore

/-- The byte of a file at a position, if it can be read. -/
def byteAt (store : PmemStore) (chunkSize pathHash position : Nat) : Option UInt8 :=
  match store.chunkTable (pathHash, position / chunkSize) with
  | some location =>
    if position % chunkSize < location.validLen then
      some (store.region (location.offset + position % chunkSize))
    else none
  | none => none

/-- All files have the same chunk size. -/
structure Uniform (chunkSize : Nat) (store : PmemStore) : Prop where
  sound : Sound store
  chunks : ∀ pathHash chunkIdx location, store.chunkTable (pathHash, chunkIdx) = some location →
    location.capacity = chunkSize ∧ store.fileChunkSize pathHash = some chunkSize

/-- The bytes from a position on have become `data`, and no others changed. -/
structure Wrote (chunkSize pathHash start : Nat) (data : List UInt8) (before after : PmemStore) :
    Prop where
  inside : ∀ index < data.length, after.byteAt chunkSize pathHash (start + index) = data[index]?
  outside : ∀ position byte, position < start ∨ start + data.length ≤ position →
    before.byteAt chunkSize pathHash position = some byte →
    after.byteAt chunkSize pathHash position = some byte
  others : ∀ other position, other ≠ pathHash →
    after.byteAt chunkSize other position = before.byteAt chunkSize other position
  files : after.fileChunkSize = before.fileChunkSize

variable {store after between : PmemStore} {chunkSize pathHash position : Nat}

theorem byteAt_found {location : ChunkLocation}
    (found : store.chunkTable (pathHash, position / chunkSize) = some location) :
    store.byteAt chunkSize pathHash position =
      if position % chunkSize < location.validLen then
        some (store.region (location.offset + position % chunkSize))
      else none := by
  rw [byteAt, found]

theorem read_eq_readable {len : Nat} (inside : position % chunkSize + len ≤ chunkSize) :
    store.read pathHash (position / chunkSize) (position % chunkSize) len =
      readable (store.byteAt chunkSize pathHash) position len := by
  unfold read
  cases found : store.chunkTable (pathHash, position / chunkSize) with
  | none =>
    refine (readable_none ?_ len).symm
    rw [byteAt, found]
  | some location =>
    have bytes := @byteAt_found store chunkSize pathHash position location found
    dsimp only
    split
    · rename_i beyond
      refine (readable_none ?_ len).symm
      rw [bytes, if_neg (Nat.not_lt.mpr beyond)]
    · rename_i valid
      have later : ∀ index, position % chunkSize + index < chunkSize →
          store.byteAt chunkSize pathHash (position + index) =
            if position % chunkSize + index < location.validLen then
              some (store.region (location.offset + (position % chunkSize + index)))
            else none := by
        intro index small
        obtain ⟨chunk, offset⟩ := position_inside small
        rw [byteAt_found (chunk.symm ▸ found), offset]
      symm
      apply readable_unique
      · rw [Memory.read_length]
        exact Nat.min_le_left ..
      · intro index below
        rw [Memory.read_length] at below
        rw [later index (by omega), if_pos (by omega), Memory.read_getElem? below, Nat.add_assoc]
      · rw [Memory.read_length]
        intro short
        rw [later _ (by omega), if_neg (by omega)]

theorem byteAt_other {chunk : Nat × Nat} (table : ∀ other, other ≠ chunk →
      after.chunkTable other = store.chunkTable other)
    (sound : Sound store)
    (region : ∀ other place, other ≠ chunk → store.chunkTable other = some place →
      ∀ address, place.offset ≤ address → address < place.offset + place.capacity →
        after.region address = store.region address)
    (different : (pathHash, position / chunkSize) ≠ chunk) :
    after.byteAt chunkSize pathHash position = store.byteAt chunkSize pathHash position := by
  unfold byteAt
  rw [table _ different]
  cases found : store.chunkTable (pathHash, position / chunkSize) with
  | none => rfl
  | some place =>
    dsimp only
    split
    · rename_i valid
      have bound := sound.valid _ place found
      rw [region _ place different found _ (by omega) (by omega)]
    · rfl

theorem Uniform.write (uniform : Uniform chunkSize store)
    (registered : store.fileChunkSize pathHash = some chunkSize) {data : List UInt8}
    (result : store.write pathHash (position / chunkSize) (position % chunkSize) data = some after) :
    Uniform chunkSize after ∧ Wrote chunkSize pathHash position data store after := by
  obtain ⟨fits, location, between, ensured, same⟩ := write_spec result
  have effective : store.effectiveChunkSize pathHash = chunkSize := by
    rw [effectiveChunkSize, registered]
    rfl
  rw [effective] at fits ensured
  have capacity : location.capacity = chunkSize := by
    rcases ensured.cases with old | fresh
    · exact (uniform.chunks _ _ location old).1
    · rw [fresh]
  have sound := ensured.sound uniform.sound
  have here : after.chunkTable (pathHash, position / chunkSize) =
      some (location.extend (position % chunkSize + data.length)) := by
    rw [same]
    exact setChunk_self ..
  have table : ∀ other, other ≠ (pathHash, position / chunkSize) →
      after.chunkTable other = store.chunkTable other := by
    intro other different
    rw [same]
    exact (setChunk_other different).trans (ensured.others other different)
  have region : after.region =
      store.region.write (location.offset + position % chunkSize) data := by rw [same]
  have files : after.fileChunkSize = store.fileChunkSize := by
    rw [same]
    exact ensured.files
  have apart : ∀ other place, other ≠ (pathHash, position / chunkSize) →
      store.chunkTable other = some place → ∀ address, place.offset ≤ address →
      address < place.offset + place.capacity → after.region address = store.region address := by
    intro other place different there address above below
    rw [region, ← ensured.region]
    exact sound.region_other ensured.here ((ensured.others other different).trans there) different
      (by omega) (by omega) address above below
  refine ⟨⟨?_, ?_⟩, ?_, ?_, ?_, files⟩
  · have extended := sound.setChunk_extend ensured.here
      (by rw [capacity]; exact fits : position % chunkSize + data.length ≤ location.capacity)
    rw [same]
    exact ⟨extended.inside, extended.valid, extended.apart, extended.room⟩
  · intro hash chunkIdx place there
    rw [files]
    by_cases chunk : (hash, chunkIdx) = (pathHash, position / chunkSize)
    · cases chunk
      rw [here] at there
      cases there
      exact ⟨capacity, registered⟩
    · rw [table _ chunk] at there
      exact uniform.chunks hash chunkIdx place there
  · intro index below
    obtain ⟨chunk, offset⟩ := @position_inside chunkSize position index (by omega)
    rw [byteAt_found (chunk.symm ▸ here), offset, region]
    have valid : position % chunkSize + index <
        (location.extend (position % chunkSize + data.length)).validLen := by
      unfold ChunkLocation.extend
      dsimp only
      omega
    rw [if_pos valid, List.getElem?_eq_getElem below]
    exact congrArg some (by rw [← Nat.add_assoc]; exact Memory.write_inside below)
  · intro other byte away found
    by_cases chunk : (pathHash, other / chunkSize) = (pathHash, position / chunkSize)
    · have index : other / chunkSize = position / chunkSize := congrArg Prod.snd chunk
      rw [byteAt] at found
      split at found
      · rename_i place there
        have place_eq := ensured.known place (by rw [← index]; exact there)
        subst place_eq
        split at found
        · rename_i valid
          rw [byteAt_found (index.symm ▸ here), region]
          have further : other % chunkSize <
              (place.extend (position % chunkSize + data.length)).validLen := by
            unfold ChunkLocation.extend
            dsimp only
            omega
          rw [if_pos further, ← found]
          refine congrArg some (Memory.write_outside ?_)
          change place.offset + other % chunkSize < _ ∨ _ ≤ place.offset + other % chunkSize
          have left := Nat.div_add_mod other chunkSize
          have right := Nat.div_add_mod position chunkSize
          rw [index] at left
          omega
        · cases found
      · cases found
    · rw [byteAt_other table uniform.sound apart chunk]
      exact found
  · intro other elsewhere different
    exact byteAt_other table uniform.sound apart fun same => different (congrArg Prod.fst same)

theorem Wrote.trans {start : Nat} {first second : List UInt8}
    (left : Wrote chunkSize pathHash start first store between)
    (right : Wrote chunkSize pathHash (start + first.length) second between after) :
    Wrote chunkSize pathHash start (first ++ second) store after where
  inside := by
    intro index below
    rw [List.length_append] at below
    rcases Nat.lt_or_ge index first.length with early | late
    · rw [List.getElem?_append_left early]
      have byte := left.inside index early
      rw [List.getElem?_eq_getElem early] at byte ⊢
      exact right.outside _ _ (.inl (by omega)) byte
    · rw [List.getElem?_append_right late, ← right.inside (index - first.length) (by omega)]
      congr 1
      omega
  outside := by
    intro position byte away found
    rw [List.length_append] at away
    exact right.outside position byte (by omega) (left.outside position byte (by omega) found)
  others := fun other position different =>
    (right.others other position different).trans (left.others other position different)
  files := right.files.trans left.files

theorem Wrote.nil (store : PmemStore) (chunkSize pathHash start : Nat) :
    Wrote chunkSize pathHash start [] store store where
  inside _ below := absurd below (Nat.not_lt_zero _)
  outside _ _ _ found := found
  others _ _ _ := rfl
  files := rfl

end PmemStore

namespace FsClient

/-- The client of a single daemon between two calls. -/
structure Ready (chunkSize : Nat) (client : FsClient) (cluster : Cluster) : Prop where
  size : client.chunkSize = chunkSize
  capacity : 0 < client.dataCapacity
  single : cluster.topology.totalDaemons = 1
  here : cluster.attached client.id = 0
  idle : cluster.calls client.id = none
  uniform : PmemStore.Uniform chunkSize (cluster.daemons 0).store
  known : ∀ pathHash, (cluster.daemons 0).fileMetadata pathHash ≠ none →
    (cluster.daemons 0).store.fileChunkSize pathHash = some chunkSize

variable {chunkSize pathHash : Nat} {client : FsClient} {cluster : Cluster}

namespace Ready

section

variable (ready : Ready chunkSize client cluster)
include ready

theorem mine (request : FsRequest) :
    request.owner cluster.topology = cluster.attached client.id := by
  unfold FsRequest.owner route
  rw [ready.single, ready.here, Nat.mod_one]

theorem served (request : FsRequest)
    (response : FsResponse) (area : Memory) {daemons : Nat → Daemon}
    (uniform : PmemStore.Uniform chunkSize (daemons 0).store)
    (known : ∀ pathHash, (daemons 0).fileMetadata pathHash ≠ none →
      (daemons 0).store.fileChunkSize pathHash = some chunkSize) :
    Ready chunkSize client (cluster.served client.id request response area daemons) :=
  { ready with
    uniform
    known }

theorem turn (positive : 0 < chunkSize)
    (narrow : chunkSize < 2 ^ 32) {fileOffset remaining : Nat} (more : 0 < remaining)
    (inside : fileOffset + remaining ≤ chunkSize * 2 ^ 32) :
    (0 < client.thisLen fileOffset remaining ∧ client.thisLen fileOffset remaining ≤ remaining ∧
      fileOffset % chunkSize + client.thisLen fileOffset remaining ≤ chunkSize) ∧
    fileOffset / client.chunkSize % 2 ^ 32 = fileOffset / chunkSize ∧
    fileOffset % client.chunkSize % 2 ^ 32 = fileOffset % chunkSize ∧
    client.thisLen fileOffset remaining % 2 ^ 32 = client.thisLen fileOffset remaining := by
  have capacity := ready.capacity
  have below := Nat.mod_lt fileOffset positive
  have index : fileOffset / chunkSize < 2 ^ 32 := Nat.div_lt_of_lt_mul (by omega)
  unfold thisLen
  rw [ready.size]
  refine ⟨by omega, Nat.mod_eq_of_lt index, Nat.mod_eq_of_lt (by omega), Nat.mod_eq_of_lt (by omega)⟩

theorem call_read (chunkIndex offset len : Nat) :
    client.call cluster (.read pathHash chunkIndex offset len) =
      some (.readOk ((cluster.daemons 0).store.read pathHash chunkIndex offset len).length,
        cluster.served client.id (.read pathHash chunkIndex offset len)
          (.readOk ((cluster.daemons 0).store.read pathHash chunkIndex offset len).length)
          ((cluster.areas client.id).write 0
            ((cluster.daemons 0).store.read pathHash chunkIndex offset len)) cluster.daemons) := by
  have served : (cluster.daemons (cluster.attached client.id)).serve cluster.topology
      (cluster.attached client.id) (cluster.areas client.id)
      (.read pathHash chunkIndex offset len) = some _ := rfl
  have answered := Cluster.callBlocking_own ready.idle (ready.mine _) served
  rw [update_eq_self, ready.here] at answered
  exact answered

end

theorem preadLoop (positive : 0 < chunkSize) (narrow : chunkSize < 2 ^ 32) {fuel : Nat} :
    ∀ {cluster : Cluster} {fileOffset remaining : Nat}, Ready chunkSize client cluster →
      remaining ≤ fuel → fileOffset + remaining ≤ chunkSize * 2 ^ 32 →
      ∃ after, client.preadLoop pathHash fuel cluster fileOffset remaining =
          some (.ok (readable ((cluster.daemons 0).store.byteAt chunkSize pathHash) fileOffset
            remaining), after) ∧
        Ready chunkSize client after ∧ after.daemons = cluster.daemons := by
  induction fuel with
  | zero =>
    intro cluster fileOffset remaining ready enough _
    rw [Nat.le_zero.mp enough]
    exact ⟨cluster, rfl, ready, rfl⟩
  | succ fuel ih =>
    intro cluster fileOffset remaining ready enough inside
    cases remaining with
    | zero => exact ⟨cluster, rfl, ready, rfl⟩
    | succ remaining =>
      have bounds := ready.turn positive narrow (by omega : 0 < remaining + 1) inside
      obtain ⟨thisLen, len⟩ : ∃ thisLen, client.thisLen fileOffset (remaining + 1) = thisLen :=
        ⟨_, rfl⟩
      rw [len] at bounds
      obtain ⟨⟨some_bytes, short, fits⟩, index, offset, length⟩ := bounds
      have bytes := @PmemStore.read_eq_readable (cluster.daemons 0).store chunkSize pathHash
        fileOffset thisLen fits
      have called := @call_read chunkSize pathHash client cluster ready (fileOffset / chunkSize)
        (fileOffset % chunkSize) thisLen
      have still := ready.served (.read pathHash (fileOffset / chunkSize)
        (fileOffset % chunkSize) thisLen) (.readOk ((cluster.daemons 0).store.read pathHash
        (fileOffset / chunkSize) (fileOffset % chunkSize) thisLen).length)
        ((cluster.areas client.id).write 0 ((cluster.daemons 0).store.read pathHash
          (fileOffset / chunkSize) (fileOffset % chunkSize) thisLen))
        ready.uniform ready.known
      rw [bytes] at called still
      obtain ⟨between, reached⟩ : ∃ between, cluster.served client.id (.read pathHash
          (fileOffset / chunkSize) (fileOffset % chunkSize) thisLen) (.readOk (readable
          ((cluster.daemons 0).store.byteAt chunkSize pathHash) fileOffset thisLen).length)
          ((cluster.areas client.id).write 0 (readable
            ((cluster.daemons 0).store.byteAt chunkSize pathHash) fileOffset thisLen))
          cluster.daemons = between := ⟨_, rfl⟩
      rw [reached] at called still
      have area : (between.areas client.id).read 0 (readable
          ((cluster.daemons 0).store.byteAt chunkSize pathHash) fileOffset thisLen).length =
          readable ((cluster.daemons 0).store.byteAt chunkSize pathHash) fileOffset thisLen := by
        rw [← reached]
        change (update cluster.areas client.id _ client.id).read 0 _ = _
        rw [update_self]
        exact Memory.read_write_same ..
      have daemons : between.daemons = cluster.daemons := by rw [← reached]; rfl
      have parts := readable_add ((cluster.daemons 0).store.byteAt chunkSize pathHash) fileOffset
        thisLen (remaining + 1 - thisLen)
      rw [show thisLen + (remaining + 1 - thisLen) = remaining + 1 by omega] at parts
      unfold FsClient.preadLoop
      dsimp only
      rw [index, offset, len, length, called]
      dsimp only
      rw [area, parts]
      split
      · exact ⟨between, rfl, still, daemons⟩
      · rename_i full
        have whole : (readable ((cluster.daemons 0).store.byteAt chunkSize pathHash) fileOffset
            thisLen).length = thisLen :=
          Nat.le_antisymm (readable_length_le ..) (Nat.not_lt.mp full)
        rw [whole]
        obtain ⟨after, result, ready, same⟩ := @ih between (fileOffset + thisLen)
          (remaining + 1 - thisLen) still (by omega) (by omega)
        rw [daemons] at result
        rw [result]
        exact ⟨after, rfl, ready, same.trans daemons⟩

theorem call_write (ready : Ready chunkSize client cluster) {chunkIndex offset len : Nat}
    {area : Memory} {data : List UInt8} (bytes : area.read 0 len = data) {response : FsResponse}
    {after : Cluster}
    (result : cluster.callBlocking client.id (.write pathHash chunkIndex offset len) area =
      some (response, after)) :
    ∃ store, (cluster.daemons 0).store.write pathHash chunkIndex offset data = some store ∧
      response = .ok ∧ after = cluster.served client.id (.write pathHash chunkIndex offset len) .ok
        area (update cluster.daemons 0 (Daemon.updateFileSize
          { store, fileMetadata := (cluster.daemons 0).fileMetadata } cluster.topology 0 pathHash
          chunkIndex offset len)) := by
  have request := ready.mine (.write pathHash chunkIndex offset len)
  cases written : (cluster.daemons 0).store.write pathHash chunkIndex offset data with
  | none =>
    have stuck : (cluster.daemons (cluster.attached client.id)).serve cluster.topology
        (cluster.attached client.id) area (.write pathHash chunkIndex offset len) = none := by
      unfold Daemon.serve
      dsimp only
      rw [ready.here, bytes, written]
      rfl
    rw [Cluster.callBlocking_stuck ready.idle request stuck] at result
    cases result
  | some store =>
    have served : (cluster.daemons (cluster.attached client.id)).serve cluster.topology
        (cluster.attached client.id) area (.write pathHash chunkIndex offset len) =
        some (.ok, area, Daemon.updateFileSize
          { store, fileMetadata := (cluster.daemons 0).fileMetadata } cluster.topology 0 pathHash
          chunkIndex offset len) := by
      unfold Daemon.serve
      dsimp only
      rw [ready.here, bytes, written]
      rfl
    rw [Cluster.callBlocking_own ready.idle request served, ready.here] at result
    cases result
    exact ⟨store, rfl, rfl, rfl⟩

theorem pwriteLoop (positive : 0 < chunkSize) (narrow : chunkSize < 2 ^ 32) {fuel : Nat} :
    ∀ {cluster after : Cluster} {fileOffset : Nat} {data : List UInt8}
      {result : Except FsError Unit}, Ready chunkSize client cluster →
      (cluster.daemons 0).store.fileChunkSize pathHash = some chunkSize →
      fileOffset + data.length ≤ chunkSize * 2 ^ 32 →
      client.pwriteLoop pathHash fuel cluster fileOffset data = some (result, after) →
      result = .ok () ∧ Ready chunkSize client after ∧
        PmemStore.Wrote chunkSize pathHash fileOffset data (cluster.daemons 0).store
          (after.daemons 0).store := by
  induction fuel with
  | zero =>
    intro cluster after fileOffset data result ready _ _ looped
    cases data with
    | nil =>
      cases looped
      exact ⟨rfl, ready, PmemStore.Wrote.nil ..⟩
    | cons byte bytes => cases looped
  | succ fuel ih =>
    intro cluster after fileOffset data result ready registered inside looped
    cases data with
    | nil =>
      cases looped
      exact ⟨rfl, ready, PmemStore.Wrote.nil ..⟩
    | cons byte bytes =>
      have bounds := ready.turn positive narrow (Nat.zero_lt_succ bytes.length) inside
      unfold FsClient.pwriteLoop FsClient.pwriteTurn at looped
      obtain ⟨data, same⟩ : ∃ data, byte :: bytes = data := ⟨_, rfl⟩
      rw [same] at looped inside ⊢
      rw [show bytes.length.succ = data.length by rw [← same]; rfl] at bounds
      obtain ⟨thisLen, len⟩ : ∃ thisLen, client.thisLen fileOffset data.length = thisLen :=
        ⟨_, rfl⟩
      dsimp only at looped
      rw [len] at looped bounds
      obtain ⟨⟨some_bytes, short, fits⟩, index, offset, length⟩ := bounds
      rw [index, offset, length] at looped
      have taken : (data.take thisLen).length = thisLen := List.length_take_of_le short
      split at looped
      · cases looped
      · rename_i response between called
        have copied : ((cluster.areas client.id).write 0 (data.take thisLen)).read 0 thisLen =
            data.take thisLen := by
          have whole := Memory.read_write_same (cluster.areas client.id) 0 (data.take thisLen)
          rwa [taken] at whole
        obtain ⟨store, written, rfl, reached⟩ := ready.call_write copied called
        obtain ⟨uniform, wrote⟩ := ready.uniform.write registered written
        have store_eq : (between.daemons 0).store = store := by
          rw [reached]
          unfold Cluster.served
          dsimp only
          rw [update_self, Daemon.updateFileSize_store]
        have still : Ready chunkSize client between := by
          rw [reached]
          refine ready.served _ _ _ ?_ ?_
          · rw [update_self, Daemon.updateFileSize_store]
            exact uniform
          · intro hash found
            rw [update_self] at found ⊢
            rw [Daemon.updateFileSize_store]
            have before : (cluster.daemons 0).fileMetadata hash ≠ none :=
              (Daemon.updateFileSize_known found :)
            exact (congrFun wrote.files hash).trans (ready.known hash before)
        obtain ⟨done, last, later⟩ := @ih between after (fileOffset + thisLen)
          (data.drop thisLen) result still
          (by rw [store_eq, wrote.files]; exact registered)
          (by rw [List.length_drop]; omega) looped
        refine ⟨done, last, ?_⟩
        rw [store_eq] at later
        have whole := wrote.trans (by rw [taken]; exact later)
        rwa [List.take_append_drop] at whole

end Ready

inductive Operation where
  | create (path : List UInt8) (mode : Nat)
  | openFile (path : List UInt8)
  | close (fd : Nat)
  | pwrite (fd : Nat) (buf : List UInt8) (offset : Nat)
  | pread (fd len offset : Nat)

/-- The client and the daemon after a call that returns. -/
def perform (state : FsClient × Cluster) : Operation → FsClient × Cluster
  | .create path mode =>
    (state.1, ((state.1.create state.2 path mode).map Prod.snd).getD state.2)
  | .openFile path => ((state.1.openFile path).2, state.2)
  | .close fd =>
    match state.1.close fd with
    | .ok client => (client, state.2)
    | .error _ => state
  | .pwrite fd buf offset =>
    (state.1, ((state.1.pwrite state.2 fd buf offset).map Prod.snd).getD state.2)
  | .pread fd len offset =>
    (state.1, ((state.1.pread state.2 fd len offset).map Prod.snd).getD state.2)

/-- Files are created before they are written; chunk indices have 32 bits. -/
def Proper (chunkSize : Nat) (state : FsClient × Cluster) : Operation → Prop
  | .pwrite fd buf offset =>
    (∀ pathHash, state.1.fdPathHash fd = .ok pathHash →
      (state.2.daemons 0).fileMetadata pathHash ≠ none) ∧
    offset + buf.length ≤ chunkSize * 2 ^ 32
  | .pread _ len offset => offset + len ≤ chunkSize * 2 ^ 32
  | _ => True

def Overwrites (state : FsClient × Cluster) (pathHash position : Nat) : Operation → Prop
  | .pwrite fd buf offset =>
    state.1.fdPathHash fd = .ok pathHash ∧ offset ≤ position ∧ position < offset + buf.length
  | _ => False

def contents (state : FsClient × Cluster) (chunkSize pathHash position : Nat) : Option UInt8 :=
  (state.2.daemons 0).store.byteAt chunkSize pathHash position

namespace Ready

variable {state : FsClient × Cluster} {operation : Operation}

theorem create (ready : Ready chunkSize state.1 state.2) (narrow : chunkSize < 2 ^ 32)
    (path : List UInt8) (mode : Nat) :
    Ready chunkSize (perform state (.create path mode)).1 (perform state (.create path mode)).2 ∧
      contents (perform state (.create path mode)) chunkSize = contents state chunkSize := by
  have direct : state.2.topology.Direct (state.2.attached state.1.id)
      (route (koyamaHash path) 0 state.2.topology.totalDaemons) :=
    .inl (ready.mine (.create (koyamaHash path) 0 0))
  have zero : route (koyamaHash path) 0 state.2.topology.totalDaemons = 0 := by
    rw [route, ready.single, Nat.mod_one]
  have size : state.1.chunkSize % 2 ^ 32 = chunkSize := by
    rw [ready.size, Nat.mod_eq_of_lt narrow]
  unfold perform FsClient.create call
  dsimp only
  rw [Cluster.callBlocking_create ready.idle direct, zero, size]
  obtain ⟨daemon, made⟩ : ∃ daemon, (state.2.daemons 0).create (koyamaHash path) mode chunkSize =
    daemon := ⟨_, rfl⟩
  have registered : daemon.store.fileChunkSize =
      update (state.2.daemons 0).store.fileChunkSize (koyamaHash path) (some chunkSize) := by
    rw [← made]
    rfl
  have entries : daemon.fileMetadata = update (state.2.daemons 0).fileMetadata
      (koyamaHash path) (some { mode, size := 0, chunkSize }) := by
    rw [← made]
    rfl
  rw [made]
  refine ⟨ready.served _ _ _ ?_ ?_, ?_⟩
  · rw [update_self]
    refine ⟨?_, ?_⟩
    · rw [← made]
      have sound := ready.uniform.sound
      exact ⟨sound.inside, sound.valid, sound.apart, sound.room⟩
    · intro hash chunkIdx location there
      have old : (state.2.daemons 0).store.chunkTable (hash, chunkIdx) = some location := by
        rw [← made] at there
        exact there
      obtain ⟨capacity, file⟩ := ready.uniform.chunks hash chunkIdx location old
      refine ⟨capacity, ?_⟩
      rw [registered]
      by_cases same : hash = koyamaHash path
      · rw [same, update_self]
      · rw [update_of_ne same]
        exact file
  · intro hash found
    rw [update_self] at found ⊢
    rw [registered]
    rw [entries] at found
    by_cases same : hash = koyamaHash path
    · rw [same, update_self]
    · rw [update_of_ne same] at found ⊢
      exact ready.known hash found
  · funext hash position
    change PmemStore.byteAt (update state.2.daemons 0 daemon 0).store _ _ _ = _
    rw [update_self, ← made]
    rfl

theorem of_client (ready : Ready chunkSize client cluster) {other : FsClient}
    (id : other.id = client.id) (size : other.chunkSize = client.chunkSize)
    (capacity : other.dataCapacity = client.dataCapacity) : Ready chunkSize other cluster :=
  { ready with
    size := size.trans ready.size
    capacity := by rw [capacity]; exact ready.capacity
    here := by rw [id]; exact ready.here
    idle := by rw [id]; exact ready.idle }

theorem perform (ready : Ready chunkSize state.1 state.2) (positive : 0 < chunkSize)
    (narrow : chunkSize < 2 ^ 32) (proper : Proper chunkSize state operation) :
    Ready chunkSize (perform state operation).1 (perform state operation).2 ∧
      ∀ pathHash position byte, contents state chunkSize pathHash position = some byte →
        ∃ later, contents (FsClient.perform state operation) chunkSize pathHash position =
            some later ∧ (¬ Overwrites state pathHash position operation → later = byte) := by
  have same : ∀ after, contents after chunkSize = contents state chunkSize →
      ∀ pathHash position byte, contents state chunkSize pathHash position = some byte →
      ∃ later, contents after chunkSize pathHash position = some later ∧
        (¬ Overwrites state pathHash position operation → later = byte) := by
    intro after kept pathHash position byte found
    exact ⟨byte, by rw [kept]; exact found, fun _ => rfl⟩
  cases operation with
  | create path mode =>
    obtain ⟨still, kept⟩ := ready.create narrow path mode
    exact ⟨still, same _ kept⟩
  | openFile path =>
    refine ⟨?_, same _ rfl⟩
    unfold FsClient.perform FsClient.openFile
    dsimp only
    split <;> exact ready.of_client rfl rfl rfl
  | close fd =>
    unfold FsClient.perform FsClient.close
    dsimp only
    split
    · rename_i client closed
      refine ⟨?_, same _ rfl⟩
      split at closed
      · cases closed
        exact ready.of_client rfl rfl rfl
      · cases closed
    · exact ⟨ready, same _ rfl⟩
  | pread fd len offset =>
    unfold FsClient.perform FsClient.pread
    dsimp only
    split
    · exact ⟨ready, same _ rfl⟩
    · rename_i pathHash found
      obtain ⟨after, result, still, daemons⟩ :=
        @preadLoop chunkSize pathHash state.1 positive narrow len state.2 offset len ready
          (Nat.le_refl len) proper
      rw [result]
      refine ⟨still, same _ ?_⟩
      funext hash position
      change (after.daemons 0).store.byteAt _ _ _ = _
      rw [daemons]
      rfl
  | pwrite fd buf offset =>
    obtain ⟨created, inside⟩ := proper
    unfold FsClient.perform FsClient.pwrite
    dsimp only
    split
    · exact ⟨ready, same _ rfl⟩
    · rename_i pathHash found
      cases looped : state.1.pwriteLoop pathHash buf.length state.2 offset buf with
      | none => exact ⟨ready, same _ rfl⟩
      | some outcome =>
        obtain ⟨result, after⟩ := outcome
        obtain ⟨_, still, wrote⟩ := ready.pwriteLoop positive narrow
          (ready.known pathHash (created pathHash found)) inside looped
        refine ⟨still, ?_⟩
        intro hash position byte before
        by_cases other : hash = pathHash
        · subst other
          by_cases within : offset ≤ position ∧ position < offset + buf.length
          · obtain ⟨index, rfl⟩ := Nat.exists_eq_add_of_le within.1
            have below : index < buf.length := by omega
            refine ⟨buf[index], ?_, fun kept => absurd ⟨found, within⟩ kept⟩
            exact (wrote.inside index below).trans (List.getElem?_eq_getElem below)
          · exact ⟨byte, wrote.outside position byte (by omega) before, fun _ => rfl⟩
        · exact ⟨byte, (wrote.others hash position other).trans before, fun _ => rfl⟩

theorem pread (ready : Ready chunkSize client cluster) (positive : 0 < chunkSize)
    (narrow : chunkSize < 2 ^ 32) {fd len offset : Nat}
    (found : client.fdPathHash fd = .ok pathHash) (inside : offset + len ≤ chunkSize * 2 ^ 32) :
    ∃ after, client.pread cluster fd len offset =
      some (.ok (readable (contents (client, cluster) chunkSize pathHash) offset len), after) := by
  obtain ⟨after, result, _⟩ :=
    @preadLoop chunkSize pathHash client positive narrow len cluster offset len ready
      (Nat.le_refl len) inside
  refine ⟨after, ?_⟩
  unfold FsClient.pread
  rw [found]
  exact result

end Ready

/-- A byte that was written stays readable, and changes only if it is overwritten. -/
theorem Ready.run (positive : 0 < chunkSize) (narrow : chunkSize < 2 ^ 32)
    {operations : List Operation} : ∀ {state : FsClient × Cluster},
      Ready chunkSize state.1 state.2 → Along FsClient.perform (Proper chunkSize) state operations →
      Ready chunkSize (run FsClient.perform state operations).1
        (run FsClient.perform state operations).2 ∧
      ∀ pathHash position byte, contents state chunkSize pathHash position = some byte →
        ∃ later, contents (run FsClient.perform state operations) chunkSize pathHash position =
            some later ∧
          (Along FsClient.perform
            (fun state operation => ¬ Overwrites state pathHash position operation) state
            operations → later = byte) := by
  induction operations with
  | nil => exact fun ready _ => ⟨ready, fun _ _ byte found => ⟨byte, found, fun _ => rfl⟩⟩
  | cons operation rest ih =>
    intro state ready guarded
    obtain ⟨still, kept⟩ := ready.perform positive narrow guarded.1
    obtain ⟨last, after⟩ := ih still guarded.2
    refine ⟨last, fun pathHash position byte found => ?_⟩
    obtain ⟨between, there, first⟩ := kept pathHash position byte found
    obtain ⟨later, here, second⟩ := after pathHash position between there
    exact ⟨later, here, fun untouched => (second untouched.2).trans (first untouched.1)⟩

/-- After a `pwrite`, `pread` of the same range gives the buffer, and each byte is given again as
long as it is not overwritten. -/
theorem read_your_writes (topology : Topology) (single : topology.totalDaemons = 1)
    (attached : Nat → Nat) (region : Memory) (regionLen maxChunkCapacity : Nat)
    (client : FsClient) (here : attached client.id = 0) (positive : 0 < client.chunkSize)
    (narrow : client.chunkSize < 2 ^ 32) (capacity : 0 < client.dataCapacity)
    (operations : List Operation) (state : FsClient × Cluster)
    (proper : Along perform (Proper client.chunkSize)
      (client, .new topology attached fun _ => .new region regionLen maxChunkCapacity) operations)
    (reached : run perform
      (client, .new topology attached fun _ => .new region regionLen maxChunkCapacity) operations =
        state) :
    (∀ fd pathHash buf offset count after, state.1.fdPathHash fd = .ok pathHash →
      (state.2.daemons 0).fileMetadata pathHash ≠ none →
      offset + buf.length ≤ client.chunkSize * 2 ^ 32 →
      state.1.pwrite state.2 fd buf offset = some (.ok count, after) →
      count = buf.length ∧
        ∃ last, state.1.pread after fd buf.length offset = some (.ok buf, last)) ∧
    (∀ later fd again pathHash offset len index byte, state.1.fdPathHash fd = .ok pathHash →
      (run perform state later).1.fdPathHash again = .ok pathHash →
      offset + len ≤ client.chunkSize * 2 ^ 32 →
      Along perform (Proper client.chunkSize) state later →
      Along perform (fun state operation => ¬ Overwrites state pathHash (offset + index) operation)
        state later →
      ∃ before after next last, state.1.pread state.2 fd len offset = some (.ok before, next) ∧
        (run perform state later).1.pread (run perform state later).2 again len offset =
          some (.ok after, last) ∧
        (before[index]? = some byte → after[index]? = some byte)) := by
  have initial : Ready client.chunkSize client
      (.new topology attached fun _ => .new region regionLen maxChunkCapacity) :=
    { size := rfl, capacity, single, here, idle := rfl
      uniform := ⟨PmemStore.Sound.new .., nofun⟩
      known := fun _ found => absurd rfl found }
  have ready := (Ready.run positive narrow initial proper).1
  rw [reached] at ready
  constructor
  · intro fd pathHash buf offset count after found created inside result
    unfold FsClient.pwrite at result
    rw [found] at result
    obtain ⟨⟨outcome, cluster⟩, looped, same⟩ := Option.map_eq_some_iff.mp result
    obtain ⟨rfl, still, wrote⟩ :=
      ready.pwriteLoop positive narrow (ready.known pathHash created) inside looped
    cases same
    obtain ⟨last, read⟩ := still.pread positive narrow found inside
    have whole : readable (contents (state.1, after) client.chunkSize pathHash) offset buf.length =
        buf :=
      readable_unique (Nat.le_refl _) wrote.inside fun more => absurd more (Nat.lt_irrefl _)
    rw [whole] at read
    exact ⟨rfl, last, read⟩
  · intro later fd again pathHash offset len index byte found reopened inside guarded untouched
    obtain ⟨still, kept⟩ := Ready.run positive narrow ready guarded
    obtain ⟨next, first⟩ := ready.pread positive narrow found inside
    obtain ⟨last, second⟩ := still.pread positive narrow reopened inside
    refine ⟨_, _, next, last, first, second, ?_⟩
    intro present
    obtain ⟨below, _⟩ := List.getElem?_eq_some_iff.mp present
    rw [readable_getElem? below] at present
    have longer : index + 1 ≤ (readable (contents (run perform state later) client.chunkSize
        pathHash) offset len).length := by
      refine le_readable_length (Nat.le_trans below (readable_length_le ..)) fun earlier small => ?_
      have old := readable_getElem? (Nat.lt_of_lt_of_le small below)
      rw [List.getElem?_eq_getElem (Nat.lt_of_lt_of_le small below)] at old
      obtain ⟨now, there, _⟩ := kept pathHash (offset + earlier) _ old.symm
      rw [there]
      exact nofun
    obtain ⟨now, there, same⟩ := kept pathHash (offset + index) byte present
    rw [readable_getElem? longer]
    rw [same untouched] at there
    exact there

def sixBytes : List Operation := [.create [98] 0, .openFile [98], .pwrite 0 [1, 2, 3, 4, 5, 6] 2]

def clientOfOne : FsClient where
  id := 0
  chunkSize := 4
  dataCapacity := 3
  fdTable := []

/-- Three bytes over the border of two chunks, then the byte after them. -/
theorem read_your_writes_sixBytes :
    ∃ state after last, run perform (clientOfOne, .new .onlyNode (fun _ => 0) fun _ =>
        .new (fun _ => 0) 64 4) sixBytes = state ∧
      state.1.pwrite state.2 0 [7, 8, 9] 3 = some (.ok 3, after) ∧
      state.1.pread after 0 3 3 = some (.ok [7, 8, 9], last) ∧
      ∃ again final, (run perform state [.pwrite 0 [7, 8, 9] 3]).1.pread
          (run perform state [.pwrite 0 [7, 8, 9] 3]).2 0 2 6 = some (.ok again, final) ∧
        again[0]? = some 5 := by
  have proper : Along perform (Proper 4) (clientOfOne, .new .onlyNode (fun _ => 0) fun _ =>
      .new (fun _ => 0) 64 4) sixBytes := by
    refine ⟨trivial, trivial, ⟨?_, by decide⟩, trivial⟩
    rintro _ ⟨⟩
    exact nofun
  obtain ⟨first, second⟩ := read_your_writes .onlyNode rfl (fun _ => 0) (fun _ => 0) 64 4 clientOfOne
    rfl (by decide) (by decide) (by decide) sixBytes _ proper rfl
  obtain ⟨_, last, read⟩ := first 0 98 [7, 8, 9] 3 3 _ rfl nofun (by decide) rfl
  have kept := second [.pwrite 0 [7, 8, 9] 3] 0 0 98 6 2 0 5 rfl rfl (by decide)
    ⟨⟨?_, by decide⟩, trivial⟩ ⟨?_, trivial⟩
  · obtain ⟨before, again, next, final, old, new, same⟩ := kept
    have five : before[0]? = some 5 := by
      cases old
      rfl
    exact ⟨_, _, last, rfl, rfl, read, again, final, new, same five⟩
  · rintro _ ⟨⟩
    exact nofun
  · rintro ⟨_, _, below⟩
    exact absurd below (by decide)

end FsClient

end Locasta.Aggfs
