import Locasta.Aggfs.Store

namespace Locasta.Aggfs

open Data

/-! Sequences of operations on a store, with transfers that other operations may come between. -/

/-- What `prepare_write` handed out. -/
structure Transfer where
  pathHash : Nat
  chunkIdx : Nat
  offset : Nat
  pointer : Nat
  capacity : Nat
  /-- Auxiliary: the place that was allocated for the chunk. -/
  base : Nat
  allocated : Nat

structure Session where
  store : PmemStore
  transfers : List Transfer

/-- The bytes of one access and the place that was allocated for the chunk. -/
structure Access where
  base : Nat
  allocated : Nat
  start : Nat
  len : Nat
deriving DecidableEq

def Access.Inside (access : Access) : Prop :=
  access.base ≤ access.start ∧ access.start + access.len ≤ access.base + access.allocated

instance (access : Access) : Decidable access.Inside := inferInstanceAs (Decidable (_ ∧ _))

namespace Session

inductive Operation where
  | registerFile (pathHash chunkSize : Nat)
  | write (pathHash chunkIdx offset : Nat) (data : List UInt8)
  | read (pathHash chunkIdx offset len : Nat)
  | prepareWrite (pathHash chunkIdx offset : Nat)
  /-- Bytes arrive at the pointer of an open transfer. -/
  | transfer (index : Nat) (data : List UInt8)
  | commitWrite (index len : Nat)
  | remove (pathHash chunkIdx : Nat)

def new (region : Memory) (regionLen maxChunkCapacity : Nat) : Session where
  store := .new region regionLen maxChunkCapacity
  transfers := []

def prepareWrite (session : Session) (pathHash chunkIdx offset : Nat) : Option Session :=
  match session.store.prepareWrite pathHash chunkIdx offset with
  | none => none
  | some ((pointer, capacity), store) =>
    (store.chunkTable (pathHash, chunkIdx)).map fun location =>
      { store
        transfers := session.transfers ++ [{
          pathHash, chunkIdx, offset, pointer, capacity
          base := location.offset, allocated := location.capacity }] }

/-- A transfer brings at most the capacity that `prepare_write` returned. -/
def transfer (session : Session) (index : Nat) (data : List UInt8) : Option Session :=
  match session.transfers[index]? with
  | some open_ =>
    if data.length ≤ open_.capacity then
      some { session with
        store := { session.store with region := session.store.region.write open_.pointer data } }
    else none
  | none => none

def commitWrite (session : Session) (index len : Nat) : Option Session :=
  match session.transfers[index]? with
  | some open_ =>
    if len ≤ open_.capacity then
      (session.store.commitWrite open_.pathHash open_.chunkIdx open_.offset len).map fun store =>
        { store, transfers := session.transfers.eraseIdx index }
    else none
  | none => none

def step (session : Session) : Operation → Option Session
  | .registerFile pathHash chunkSize =>
    some { session with store := session.store.registerFile pathHash chunkSize }
  | .write pathHash chunkIdx offset data =>
    (session.store.write pathHash chunkIdx offset data).map fun store => { session with store }
  | .read .. => some session
  | .prepareWrite pathHash chunkIdx offset => session.prepareWrite pathHash chunkIdx offset
  | .transfer index data => session.transfer index data
  | .commitWrite index len => session.commitWrite index len
  | .remove pathHash chunkIdx =>
    some { session with store := (session.store.remove pathHash chunkIdx).2 }

/-- An operation whose assertion fails does not happen. -/
def next (session : Session) (operation : Operation) : Session :=
  (session.step operation).getD session

def chunkOf (session : Session) : Operation → Option (Nat × Nat)
  | .registerFile .. => none
  | .write pathHash chunkIdx _ _ | .read pathHash chunkIdx _ _ | .prepareWrite pathHash chunkIdx _
  | .remove pathHash chunkIdx => some (pathHash, chunkIdx)
  | .transfer index _ | .commitWrite index _ =>
    session.transfers[index]?.map fun open_ => (open_.pathHash, open_.chunkIdx)

def accessOf (session : Session) : Operation → Option Access
  | .registerFile .. | .prepareWrite .. | .remove .. => none
  | .write pathHash chunkIdx offset data =>
    match session.store.write pathHash chunkIdx offset data with
    | none => none
    | some store =>
      (store.chunkTable (pathHash, chunkIdx)).map fun location =>
        { base := location.offset, allocated := location.capacity
          start := location.offset + offset, len := data.length }
  | .read pathHash chunkIdx offset len =>
    match session.store.chunkTable (pathHash, chunkIdx) with
    | none => none
    | some location =>
      if offset ≥ location.validLen then none
      else some {
        base := location.offset, allocated := location.capacity
        start := location.offset + offset, len := min len (location.validLen - offset) }
  | .transfer index data =>
    session.transfers[index]?.map fun open_ =>
      { base := open_.base, allocated := open_.allocated
        start := open_.pointer, len := data.length }
  | .commitWrite index len =>
    match session.transfers[index]? with
    | none => none
    | some open_ =>
      (session.store.chunkTable (open_.pathHash, open_.chunkIdx)).map fun location =>
        { base := location.offset, allocated := location.capacity
          start := location.offset + open_.offset, len }

/-- An operation stays within the capacity that its chunk was created with. -/
def Fits (session : Session) : Operation → Prop
  | .write pathHash chunkIdx offset data =>
    ∀ location ∈ session.store.chunkTable (pathHash, chunkIdx),
      offset + data.length ≤ location.capacity
  | .transfer index data =>
    ∀ open_ ∈ session.transfers[index]?, open_.offset + data.length ≤ open_.allocated
  | .commitWrite index len =>
    ∀ open_ ∈ session.transfers[index]?,
      ∀ location ∈ session.store.chunkTable (open_.pathHash, open_.chunkIdx),
        open_.offset + len ≤ location.capacity
  | .registerFile .. | .read .. | .prepareWrite .. | .remove .. => True

instance (session : Session) : (operation : Operation) → Decidable (session.Fits operation)
  | .write pathHash chunkIdx offset data =>
    inferInstanceAs (Decidable (∀ location ∈ session.store.chunkTable (pathHash, chunkIdx),
      offset + data.length ≤ location.capacity))
  | .transfer index data =>
    inferInstanceAs (Decidable (∀ open_ ∈ session.transfers[index]?,
      open_.offset + data.length ≤ open_.allocated))
  | .commitWrite index len =>
    inferInstanceAs (Decidable (∀ open_ ∈ session.transfers[index]?,
      ∀ location ∈ session.store.chunkTable (open_.pathHash, open_.chunkIdx),
        open_.offset + len ≤ location.capacity))
  | .registerFile .. | .read .. | .prepareWrite .. | .remove .. => isTrue trivial

/-- The open transfers go to places that no other chunk has. -/
structure Sound (session : Session) : Prop where
  store : session.store.Sound
  pointer : ∀ open_ ∈ session.transfers, open_.pointer = open_.base + open_.offset
  inside : ∀ open_ ∈ session.transfers, open_.base + open_.allocated ≤ session.store.nextOffset
  apart : ∀ open_ ∈ session.transfers, ∀ chunk location,
    chunk ≠ (open_.pathHash, open_.chunkIdx) → session.store.chunkTable chunk = some location →
    open_.base + open_.allocated ≤ location.offset ∨
      location.offset + location.capacity ≤ open_.base

/-- The chunks stay where they are, and new ones come behind all others. -/
def Extends (store after : PmemStore) : Prop :=
  store.nextOffset ≤ after.nextOffset ∧ ∀ chunk place, after.chunkTable chunk = some place →
    (∃ old, store.chunkTable chunk = some old ∧ old.offset = place.offset ∧
      old.capacity = place.capacity) ∨ store.nextOffset ≤ place.offset

theorem extends_of_kept {store after : PmemStore} (next : after.nextOffset = store.nextOffset)
    (table : ∀ chunk place, after.chunkTable chunk = some place →
      store.chunkTable chunk = some place) : Extends store after :=
  ⟨next.ge, fun chunk place here => .inl ⟨place, table chunk place here, rfl, rfl⟩⟩

theorem extends_of_ensured {store between after : PmemStore} {chunk : Nat × Nat} {capacity : Nat}
    {location changed : ChunkLocation} (ensured : store.Ensured chunk capacity location between)
    (next : after.nextOffset = between.nextOffset)
    (table : after.chunkTable = (between.setChunk chunk changed).chunkTable)
    (offset : changed.offset = location.offset) (same : changed.capacity = location.capacity) :
    Extends store after := by
  refine ⟨next ▸ ensured.grows, fun other place there => ?_⟩
  rw [table] at there
  by_cases here : other = chunk
  · subst here
    rw [PmemStore.setChunk_self] at there
    cases there
    rcases ensured.cases with old | fresh
    · exact .inl ⟨location, old, offset.symm, same.symm⟩
    · rw [offset, fresh]
      exact .inr (Nat.le_refl _)
  · rw [PmemStore.setChunk_other here, ensured.others other here] at there
    exact .inl ⟨place, there, rfl, rfl⟩

namespace Sound

variable {session : Session}

theorem new (region : Memory) (regionLen maxChunkCapacity : Nat) :
    Sound (new region regionLen maxChunkCapacity) where
  store := .new region regionLen maxChunkCapacity
  pointer _ member := by cases member
  inside _ member := by cases member
  apart _ member := by cases member

variable (sound : Sound session)
include sound

theorem extend {store : PmemStore} {transfers : List Transfer}
    (kept : store.Sound) (grown : Extends session.store store)
    (old : ∀ open_ ∈ transfers, open_ ∈ session.transfers) : Sound { store, transfers } where
  store := kept
  pointer open_ member := sound.pointer open_ (old open_ member)
  inside open_ member := Nat.le_trans (sound.inside open_ (old open_ member)) grown.1
  apart open_ member chunk location different here := by
    have inside := sound.inside open_ (old open_ member)
    rcases grown.2 chunk location here with ⟨before, there, offset, capacity⟩ | fresh
    · rw [← offset, ← capacity]
      exact sound.apart open_ (old open_ member) chunk before different there
    · exact .inl (Nat.le_trans inside fresh)

variable {pathHash chunkIdx : Nat}

theorem write {offset : Nat} {data : List UInt8}
    (fits : session.Fits (.write pathHash chunkIdx offset data)) {store : PmemStore}
    (result : session.store.write pathHash chunkIdx offset data = some store) :
    Sound { session with store } ∧ ∃ location between, session.store.Ensured (pathHash, chunkIdx)
        (session.store.effectiveChunkSize pathHash) location between ∧
      offset + data.length ≤ location.capacity ∧
      store = { between.setChunk (pathHash, chunkIdx)
          (location.extend (offset + data.length)) with
        region := session.store.region.write (location.offset + offset) data } := by
  obtain ⟨small, location, between, ensured, rfl⟩ := PmemStore.write_spec result
  have room : offset + data.length ≤ location.capacity := by
    rcases ensured.cases with known | fresh
    · exact fits location known
    · rw [fresh]
      exact small
  have changed := (ensured.sound sound.store).setChunk_extend ensured.here room
  refine ⟨sound.extend ?_ (extends_of_ensured ensured rfl rfl rfl rfl) fun _ member => member,
    location, between, ensured, room, rfl⟩
  exact { changed with }

variable {after : Session}

theorem prepareWrite {offset : Nat}
    (result : session.prepareWrite pathHash chunkIdx offset = some after) :
    Sound after ∧ ∃ location, session.store.Ensured (pathHash, chunkIdx)
      (session.store.effectiveChunkSize pathHash) location after.store := by
  unfold Session.prepareWrite PmemStore.prepareWrite at result
  dsimp only at result
  split at result
  · cases result
  · rename_i pointer capacity store found
    split at found
    · obtain ⟨⟨location, between⟩, ensure, same⟩ := Option.map_eq_some_iff.mp found
      have ensured := PmemStore.ensureChunk_spec ensure
      cases same
      rw [ensured.here] at result
      cases result
      refine ⟨?_, location, ensured⟩
      have before := sound.extend (ensured.sound sound.store) (extends_of_ensured ensured rfl
          (by rw [PmemStore.setChunk, ← ensured.here, Function.update_eq_self]) rfl rfl)
        fun _ member => member
      have place := (ensured.sound sound.store).inside _ location ensured.here
      have apart := (ensured.sound sound.store).apart
      exact { before with
        pointer := fun open_ member => by
          rcases List.mem_append.mp member with old | last
          · exact before.pointer open_ old
          · cases List.mem_singleton.mp last
            rfl
        inside := fun open_ member => by
          rcases List.mem_append.mp member with old | last
          · exact before.inside open_ old
          · cases List.mem_singleton.mp last
            exact place
        apart := fun open_ member chunk there different here => by
          rcases List.mem_append.mp member with old | last
          · exact before.apart open_ old chunk there different here
          · cases List.mem_singleton.mp last
            exact apart _ chunk location there (Ne.symm different) ensured.here here }
    · cases found

theorem commitWrite {index len : Nat} (fits : session.Fits (.commitWrite index len))
    (result : session.commitWrite index len = some after) :
    Sound after ∧ ∃ open_ location, session.transfers[index]? = some open_ ∧
      session.store.chunkTable (open_.pathHash, open_.chunkIdx) = some location ∧
      after.store = session.store.setChunk (open_.pathHash, open_.chunkIdx)
        (location.extend (open_.offset + len)) := by
  unfold Session.commitWrite at result
  split at result
  · rename_i open_ here
    split at result
    · obtain ⟨store, commit, same⟩ := Option.map_eq_some_iff.mp result
      obtain ⟨location, there, rfl⟩ := Option.map_eq_some_iff.mp commit
      cases same
      have room := fits open_ here location there
      refine ⟨sound.extend (sound.store.setChunk_extend there room) ⟨Nat.le_refl _, ?_⟩
        (fun _ member => List.mem_of_mem_eraseIdx member), open_, location, here, there, rfl⟩
      intro chunk place found
      by_cases same : chunk = (open_.pathHash, open_.chunkIdx)
      · subst same
        rw [PmemStore.setChunk_self] at found
        cases found
        exact .inl ⟨location, there, rfl, rfl⟩
      · rw [PmemStore.setChunk_other same] at found
        exact .inl ⟨place, found, rfl, rfl⟩
    · cases result
  · cases result

theorem transfer {index : Nat} {data : List UInt8} (fits : session.Fits (.transfer index data))
    (result : session.transfer index data = some after) :
    Sound after ∧ ∃ open_, session.transfers[index]? = some open_ ∧
      after.store.chunkTable = session.store.chunkTable ∧
      ∀ chunk location, chunk ≠ (open_.pathHash, open_.chunkIdx) →
        session.store.chunkTable chunk = some location → ∀ address, location.offset ≤ address →
        address < location.offset + location.capacity →
        after.store.region address = session.store.region address := by
  unfold Session.transfer at result
  split at result
  · rename_i open_ here
    split at result
    · cases result
      have member := List.mem_of_getElem? here
      have room := fits open_ here
      have pointer := sound.pointer open_ member
      refine ⟨{ sound with store := { sound.store with } }, open_, here, rfl, ?_⟩
      intro chunk location different there address low high
      apply Memory.write_outside
      rcases sound.apart open_ member chunk location different there with before | behind <;> omega
    · cases result
  · cases result

variable {operation : Operation}

variable (fits : session.Fits operation)
include fits

/-- One operation keeps the chunks apart and the open transfers at places of their own. -/
theorem step : Sound (session.next operation) := by
  unfold Session.next
  cases result : session.step operation with
  | none => exact sound
  | some after =>
    cases operation with
    | registerFile pathHash chunkSize =>
      cases result
      exact { sound with store := { sound.store with } }
    | write pathHash chunkIdx offset data =>
      obtain ⟨store, written, rfl⟩ := Option.map_eq_some_iff.mp result
      exact (sound.write fits written).1
    | read pathHash chunkIdx offset len =>
      cases result
      exact sound
    | prepareWrite pathHash chunkIdx offset => exact (sound.prepareWrite result).1
    | transfer index data => exact (sound.transfer fits result).1
    | commitWrite index len => exact (sound.commitWrite fits result).1
    | remove pathHash chunkIdx =>
      cases result
      refine sound.extend (sound.store.remove pathHash chunkIdx)
        (extends_of_kept rfl fun chunk place here => ?_) fun _ member => member
      by_cases same : chunk = (pathHash, chunkIdx)
      · rw [same, PmemStore.remove_self] at here
        cases here
      · rwa [PmemStore.remove_other same] at here

theorem read_other (other : session.chunkOf operation ≠ some (pathHash, chunkIdx))
    (offset len : Nat) :
    (session.next operation).store.read pathHash chunkIdx offset len =
      session.store.read pathHash chunkIdx offset len := by
  unfold Session.next
  cases result : session.step operation with
  | none => rfl
  | some after =>
    change after.store.read pathHash chunkIdx offset len = _
    cases operation with
    | registerFile hash chunkSize =>
      cases result
      rfl
    | write hash idx start data =>
      obtain ⟨store, written, rfl⟩ := Option.map_eq_some_iff.mp result
      obtain ⟨_, location, between, ensured, room, rfl⟩ := sound.write fits written
      have different : (pathHash, chunkIdx) ≠ (hash, idx) := fun same => other (same ▸ rfl)
      refine PmemStore.read_congr sound.store ?_ (fun place there address low high => ?_) ..
      · exact (PmemStore.setChunk_other different).trans (ensured.others _ different)
      · have kept := ensured.sound sound.store
        rw [← ensured.others _ different] at there
        have apart : between.region.write (location.offset + start) data address =
            between.region address :=
          kept.region_other ensured.here there different (Nat.le_add_right _ start) (by omega)
            address low high
        rw [ensured.region] at apart
        exact apart
    | read hash idx start count =>
      cases result
      rfl
    | prepareWrite hash idx start =>
      obtain ⟨_, location, ensured⟩ := sound.prepareWrite result
      have different : (pathHash, chunkIdx) ≠ (hash, idx) := fun same => other (same ▸ rfl)
      refine PmemStore.read_congr sound.store (ensured.others _ different) (fun _ _ _ _ _ => ?_) ..
      rw [ensured.region]
    | transfer index data =>
      obtain ⟨_, open_, here, table, region⟩ := sound.transfer fits result
      have different : (pathHash, chunkIdx) ≠ (open_.pathHash, open_.chunkIdx) := by
        intro same
        apply other
        rw [chunkOf, here, same]
        rfl
      exact PmemStore.read_congr sound.store (congrFun table _) (region _ · different) ..
    | commitWrite index count =>
      obtain ⟨_, open_, location, here, there, same⟩ := sound.commitWrite fits result
      have different : (pathHash, chunkIdx) ≠ (open_.pathHash, open_.chunkIdx) := by
        intro same
        apply other
        rw [chunkOf, here, same]
        rfl
      rw [same]
      exact PmemStore.read_congr sound.store (PmemStore.setChunk_other different)
        (fun _ _ _ _ _ => rfl) ..
    | remove hash idx =>
      cases result
      have different : (pathHash, chunkIdx) ≠ (hash, idx) := fun same => other (same ▸ rfl)
      exact PmemStore.read_congr sound.store (PmemStore.remove_other different)
        (fun _ _ _ _ _ => rfl) ..

theorem access_inside {access : Access}
    (made : session.accessOf operation = some access) : access.Inside := by
  cases operation with
  | registerFile pathHash chunkSize => cases made
  | prepareWrite pathHash chunkIdx offset => cases made
  | remove pathHash chunkIdx => cases made
  | write pathHash chunkIdx offset data =>
    unfold accessOf at made
    dsimp only at made
    split at made
    · cases made
    · rename_i store written
      obtain ⟨_, location, between, ensured, room, rfl⟩ := sound.write fits written
      obtain ⟨place, there, rfl⟩ := Option.map_eq_some_iff.mp made
      obtain rfl := Option.some.inj ((PmemStore.setChunk_self between _ _).symm.trans there)
      refine ⟨Nat.le_add_right _ _, ?_⟩
      change location.offset + offset + data.length ≤ location.offset + location.capacity
      omega
  | read pathHash chunkIdx offset len =>
    unfold accessOf at made
    dsimp only at made
    split at made
    · cases made
    · rename_i location here
      have valid := sound.store.valid _ location here
      split at made
      · cases made
      · cases made
        refine ⟨Nat.le_add_right _ _, ?_⟩
        dsimp only
        omega
  | transfer index data =>
    obtain ⟨open_, here, rfl⟩ := Option.map_eq_some_iff.mp made
    have pointer := sound.pointer open_ (List.mem_of_getElem? here)
    have room := fits open_ here
    constructor <;> dsimp only <;> omega
  | commitWrite index len =>
    unfold accessOf at made
    dsimp only at made
    split at made
    · cases made
    · rename_i open_ here
      obtain ⟨location, there, rfl⟩ := Option.map_eq_some_iff.mp made
      have room := fits open_ here location there
      refine ⟨Nat.le_add_right _ _, ?_⟩
      dsimp only
      omega

end Sound

/-- Operations within the capacity of their chunks change nothing that can be read of others. -/
theorem chunk_isolation (region : Memory) (regionLen maxChunkCapacity : Nat)
    (operations : List Operation) (operation : Operation)
    (fits : Along next Fits (new region regionLen maxChunkCapacity) (operations ++ [operation])) :
    let session := run next (new region regionLen maxChunkCapacity) operations
    (∀ pathHash chunkIdx offset len, session.chunkOf operation ≠ some (pathHash, chunkIdx) →
      (session.next operation).store.read pathHash chunkIdx offset len =
        session.store.read pathHash chunkIdx offset len) ∧
      ∀ access, session.accessOf operation = some access → access.Inside := by
  intro session
  obtain ⟨before, now, _⟩ := along_append.mp fits
  have kept : ∀ (session : Session) (operation : Operation), Sound session →
      Fits session operation → Sound (session.next operation) :=
    fun _ _ sound fit => sound.step fit
  have sound : Sound session :=
    run_invariant kept (Sound.new region regionLen maxChunkCapacity) before
  exact ⟨fun _ _ offset len other => sound.read_other now other offset len,
    fun _ made => sound.access_inside now made⟩

/-- A write of the first chunk crosses a transfer to the second one. -/
def crossedTransfer : List Operation :=
  [.registerFile 1 4, .registerFile 2 4, .write 1 0 0 [1, 2], .prepareWrite 2 0 0,
    .write 1 0 2 [3, 4], .transfer 0 [5, 6, 7, 8], .commitWrite 0 4]

theorem chunk_isolation_crossedTransfer :
    let session := run next (new (fun _ => 0) 64 4) crossedTransfer
    Along next Fits (new (fun _ => 0) 64 4) (crossedTransfer ++ [.write 1 0 1 [9, 9, 9]]) ∧
      session.store.read 2 0 0 8 = [5, 6, 7, 8] ∧
      (session.next (.write 1 0 1 [9, 9, 9])).store.read 2 0 0 8 = session.store.read 2 0 0 8 := by
  have fits : Along next Fits (new (fun _ => 0) 64 4)
      (crossedTransfer ++ [.write 1 0 1 [9, 9, 9]]) := by decide +kernel
  have kept := (chunk_isolation (fun _ => 0) 64 4 crossedTransfer (.write 1 0 1 [9, 9, 9]) fits).1
    2 0 0 8 (by decide)
  exact ⟨fits, by decide +kernel, kept⟩

/-- The file of the first chunk is registered again with a larger chunk size. -/
def regrown : List Operation :=
  [.registerFile 1 4, .registerFile 2 4, .write 1 0 0 [1, 2, 3, 4], .write 2 0 0 [5, 6, 7, 8],
    .registerFile 1 8]

/-- The next write to the first chunk goes over the second one. -/
theorem regrown_chunk_overwrites :
    let session := run next (new (fun _ => 0) 64 4) regrown
    let operation := .write 1 0 4 [9, 9, 9, 9]
    (session.step operation).isSome ∧ session.chunkOf operation ≠ some (2, 0) ∧
      session.store.read 2 0 0 4 = [5, 6, 7, 8] ∧
      (session.next operation).store.read 2 0 0 4 = [9, 9, 9, 9] ∧
      session.accessOf operation = some { base := 0, allocated := 4, start := 4, len := 4 } := by
  decide +kernel

end Session

end Locasta.Aggfs
