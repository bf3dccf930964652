import Locasta.Data.Bytes
import Locasta.Data.Run
import Mathlib.Logic.Function.Basic

namespace Locasta.Aggfs

open Data Function

/-! `PmemStore`: chunks in one region of memory.

A chunk gets its place when it is first written, from a bump allocator that takes nothing back. How
much of it may be used is looked up anew at each access. An assertion that fails is the result
`none`; a pointer is an offset in the region.
-/

structure ChunkLocation where
  offset : Nat
  validLen : Nat
  /-- Auxiliary: the bytes that were allocated for the chunk. -/
  capacity : Nat

def ChunkLocation.extend (location : ChunkLocation) (stop : Nat) : ChunkLocation :=
  { location with validLen := max location.validLen stop }

structure PmemStore where
  region : Memory
  regionLen : Nat
  chunkTable : Nat × Nat → Option ChunkLocation
  nextOffset : Nat
  fileChunkSize : Nat → Option Nat
  maxChunkCapacity : Nat

namespace PmemStore

def new (region : Memory) (regionLen maxChunkCapacity : Nat) : PmemStore where
  region
  regionLen
  chunkTable _ := none
  nextOffset := 0
  fileChunkSize _ := none
  maxChunkCapacity

def registerFile (store : PmemStore) (pathHash chunkSize : Nat) : PmemStore :=
  { store with fileChunkSize := update store.fileChunkSize pathHash (some chunkSize) }

def effectiveChunkSize (store : PmemStore) (pathHash : Nat) : Nat :=
  (store.fileChunkSize pathHash).getD store.maxChunkCapacity

def setChunk (store : PmemStore) (chunk : Nat × Nat) (location : ChunkLocation) : PmemStore :=
  { store with chunkTable := update store.chunkTable chunk (some location) }

def ensureChunk (store : PmemStore) (chunk : Nat × Nat) (capacity : Nat) :
    Option (ChunkLocation × PmemStore) :=
  match store.chunkTable chunk with
  | some location => some (location, store)
  | none =>
    if store.nextOffset + capacity ≤ store.regionLen then
      let location := { offset := store.nextOffset, validLen := 0, capacity }
      some (location,
        { store.setChunk chunk location with nextOffset := store.nextOffset + capacity })
    else none

def write (store : PmemStore) (pathHash chunkIdx offset : Nat) (data : List UInt8) :
    Option PmemStore :=
  let capacity := store.effectiveChunkSize pathHash
  let stop := offset + data.length
  if stop ≤ capacity then
    (store.ensureChunk (pathHash, chunkIdx) capacity).map fun (location, store) =>
      { store.setChunk (pathHash, chunkIdx) (location.extend stop) with
        region := store.region.write (location.offset + offset) data }
  else none

/-- The bytes that `read` copies to a buffer of `len` bytes. -/
def read (store : PmemStore) (pathHash chunkIdx offset len : Nat) : List UInt8 :=
  match store.chunkTable (pathHash, chunkIdx) with
  | none => []
  | some location =>
    if offset ≥ location.validLen then []
    else store.region.read (location.offset + offset) (min len (location.validLen - offset))

def remove (store : PmemStore) (pathHash chunkIdx : Nat) : Bool × PmemStore :=
  ((store.chunkTable (pathHash, chunkIdx)).isSome,
    { store with
      fileChunkSize :=
        if chunkIdx = 0 then update store.fileChunkSize pathHash none
        else store.fileChunkSize
      chunkTable := update store.chunkTable (pathHash, chunkIdx) none })

/-- The destination of the transfer and the capacity that is left. -/
def prepareWrite (store : PmemStore) (pathHash chunkIdx offset : Nat) :
    Option ((Nat × Nat) × PmemStore) :=
  let capacity := store.effectiveChunkSize pathHash
  if offset ≤ capacity then
    (store.ensureChunk (pathHash, chunkIdx) capacity).map fun (location, store) =>
      ((location.offset + offset, capacity - offset), store)
  else none

def commitWrite (store : PmemStore) (pathHash chunkIdx offset len : Nat) : Option PmemStore :=
  (store.chunkTable (pathHash, chunkIdx)).map fun location =>
    store.setChunk (pathHash, chunkIdx) (location.extend (offset + len))

/-- The null pointer is `none`. -/
def ptrForChunkRead (store : PmemStore) (pathHash chunkIdx offset : Nat) :
    Option (Option Nat × Nat) :=
  (store.chunkTable (pathHash, chunkIdx)).map fun location =>
    if offset ≥ location.validLen then (none, 0)
    else (some (location.offset + offset), location.validLen - offset)

/-! The chunks have disjoint places. -/

/-- The chunks have places of their own, and no more valid bytes than allocated ones. -/
structure Sound (store : PmemStore) : Prop where
  inside : ∀ chunk location, store.chunkTable chunk = some location →
    location.offset + location.capacity ≤ store.nextOffset
  valid : ∀ chunk location, store.chunkTable chunk = some location →
    location.validLen ≤ location.capacity
  apart : ∀ first second before after, first ≠ second →
    store.chunkTable first = some before → store.chunkTable second = some after →
    before.offset + before.capacity ≤ after.offset ∨ after.offset + after.capacity ≤ before.offset
  room : store.nextOffset ≤ store.regionLen

variable {store after : PmemStore} {chunk : Nat × Nat} {location : ChunkLocation}

theorem setChunk_self (store : PmemStore) (chunk : Nat × Nat) (location : ChunkLocation) :
    (store.setChunk chunk location).chunkTable chunk = some location :=
  update_self ..

theorem setChunk_other {other : Nat × Nat} (different : other ≠ chunk) :
    (store.setChunk chunk location).chunkTable other = store.chunkTable other :=
  update_of_ne different ..

theorem remove_self (store : PmemStore) (pathHash chunkIdx : Nat) :
    (store.remove pathHash chunkIdx).2.chunkTable (pathHash, chunkIdx) = none :=
  update_self ..

theorem remove_other {pathHash chunkIdx : Nat} (different : chunk ≠ (pathHash, chunkIdx)) :
    (store.remove pathHash chunkIdx).2.chunkTable chunk = store.chunkTable chunk :=
  update_of_ne different ..

namespace Sound

theorem new (region : Memory) (regionLen maxChunkCapacity : Nat) :
    Sound (new region regionLen maxChunkCapacity) where
  inside _ _ here := by cases here
  valid _ _ here := by cases here
  apart _ _ _ _ _ here := by cases here
  room := Nat.zero_le _

theorem setChunk (sound : Sound store) {changed : ChunkLocation}
    (here : store.chunkTable chunk = some location) (offset : changed.offset = location.offset)
    (capacity : changed.capacity = location.capacity) (valid : changed.validLen ≤ changed.capacity) :
    Sound (store.setChunk chunk changed) where
  inside other place there := by
    by_cases same : other = chunk
    · subst same
      rw [setChunk_self] at there
      cases there
      rw [offset, capacity]
      exact sound.inside other location here
    · rw [setChunk_other same] at there
      exact sound.inside other place there
  valid other place there := by
    by_cases same : other = chunk
    · subst same
      rw [setChunk_self] at there
      cases there
      exact valid
    · rw [setChunk_other same] at there
      exact sound.valid other place there
  apart first second left right different atFirst atSecond := by
    by_cases one : first = chunk
    · subst one
      rw [setChunk_self] at atFirst
      cases atFirst
      rw [setChunk_other (Ne.symm different)] at atSecond
      rw [offset, capacity]
      exact sound.apart first second location right different here atSecond
    · rw [setChunk_other one] at atFirst
      by_cases two : second = chunk
      · subst two
        rw [setChunk_self] at atSecond
        cases atSecond
        rw [offset, capacity]
        exact sound.apart first second left location different atFirst here
      · rw [setChunk_other two] at atSecond
        exact sound.apart first second left right different atFirst atSecond
  room := sound.room

theorem setChunk_extend (sound : Sound store) (here : store.chunkTable chunk = some location)
    {stop : Nat} (fits : stop ≤ location.capacity) :
    Sound (store.setChunk chunk (location.extend stop)) :=
  sound.setChunk here rfl rfl (Nat.max_le.mpr ⟨sound.valid chunk location here, fits⟩)

theorem remove (sound : Sound store) (pathHash chunkIdx : Nat) :
    Sound (store.remove pathHash chunkIdx).2 := by
  have kept : ∀ chunk location, (store.remove pathHash chunkIdx).2.chunkTable chunk = some location →
      store.chunkTable chunk = some location := by
    intro chunk location here
    by_cases same : chunk = (pathHash, chunkIdx)
    · rw [same, remove_self] at here
      cases here
    · rwa [remove_other same] at here
  exact { sound with
    inside := fun chunk location here => sound.inside chunk location (kept chunk location here)
    valid := fun chunk location here => sound.valid chunk location (kept chunk location here)
    apart := fun first second left right different one two =>
      sound.apart first second left right different (kept first left one) (kept second right two) }

end Sound

/-- What `ensure_chunk` leaves: the place of the chunk, and everything else as it was. -/
structure Ensured (store : PmemStore) (chunk : Nat × Nat) (capacity : Nat)
    (location : ChunkLocation) (after : PmemStore) : Prop where
  here : after.chunkTable chunk = some location
  others : ∀ other, other ≠ chunk → after.chunkTable other = store.chunkTable other
  region : after.region = store.region
  files : after.fileChunkSize = store.fileChunkSize
  known : ∀ place, store.chunkTable chunk = some place → place = location
  fresh : store.chunkTable chunk = none →
    location = { offset := store.nextOffset, validLen := 0, capacity }
  sound : Sound store → Sound after
  grows : store.nextOffset ≤ after.nextOffset

theorem ensureChunk_spec {capacity : Nat}
    (result : store.ensureChunk chunk capacity = some (location, after)) :
    Ensured store chunk capacity location after := by
  unfold ensureChunk at result
  cases found : store.chunkTable chunk with
  | some place =>
    rw [found] at result
    cases result
    exact {
      here := found
      others := fun _ _ => rfl
      region := rfl
      files := rfl
      known := fun _ same => Option.some.inj (same.symm.trans found)
      fresh := fun missing => by rw [found] at missing; cases missing
      sound := fun sound => sound
      grows := Nat.le_refl _ }
  | none =>
    rw [found] at result
    dsimp only at result
    split at result
    · rename_i room
      cases result
      refine {
        here := setChunk_self store chunk _
        others := fun _ different => setChunk_other different
        region := rfl
        files := rfl
        known := fun _ same => by rw [found] at same; cases same
        fresh := fun _ => rfl
        sound := fun sound => ?_
        grows := Nat.le_add_right _ _ }
      have places : ∀ other place,
          (store.setChunk chunk { offset := store.nextOffset, validLen := 0, capacity }).chunkTable
            other = some place →
          (other = chunk ∧ place = { offset := store.nextOffset, validLen := 0, capacity }) ∨
            store.chunkTable other = some place := by
        intro other place there
        by_cases same : other = chunk
        · subst same
          rw [setChunk_self] at there
          exact .inl ⟨rfl, (Option.some.inj there).symm⟩
        · rw [setChunk_other same] at there
          exact .inr there
      exact {
        inside := fun other place there => by
          rcases places other place there with ⟨_, rfl⟩ | old
          · exact Nat.le_refl _
          · exact Nat.le_trans (sound.inside other place old) (Nat.le_add_right _ _)
        valid := fun other place there => by
          rcases places other place there with ⟨_, rfl⟩ | old
          · exact Nat.zero_le _
          · exact sound.valid other place old
        apart := fun first second left right different atFirst atSecond => by
          rcases places first left atFirst with ⟨one, rfl⟩ | one
          · rcases places second right atSecond with ⟨two, _⟩ | two
            · exact absurd (one.trans two.symm) different
            · exact .inr (sound.inside second right two)
          · rcases places second right atSecond with ⟨_, rfl⟩ | two
            · exact .inl (sound.inside first left one)
            · exact sound.apart first second left right different one two
        room := room }
    · cases result

theorem Ensured.cases {capacity : Nat} (ensured : Ensured store chunk capacity location after) :
    store.chunkTable chunk = some location ∨
      location = { offset := store.nextOffset, validLen := 0, capacity } := by
  cases found : store.chunkTable chunk with
  | some place =>
    have := ensured.known place found
    subst this
    exact .inl rfl
  | none => exact .inr (ensured.fresh found)

theorem write_spec {pathHash chunkIdx offset : Nat} {data : List UInt8}
    (result : store.write pathHash chunkIdx offset data = some after) :
    offset + data.length ≤ store.effectiveChunkSize pathHash ∧ ∃ location between,
      Ensured store (pathHash, chunkIdx) (store.effectiveChunkSize pathHash) location between ∧
        after = { between.setChunk (pathHash, chunkIdx)
            (location.extend (offset + data.length)) with
          region := store.region.write (location.offset + offset) data } := by
  unfold write at result
  dsimp only at result
  split at result
  · rename_i fits
    obtain ⟨⟨location, between⟩, found, same⟩ := Option.map_eq_some_iff.mp result
    have ensured := ensureChunk_spec found
    refine ⟨fits, location, between, ensured, ?_⟩
    rw [← same, ← ensured.region]
  · cases result

theorem read_congr {pathHash chunkIdx : Nat} (sound : Sound store)
    (table : after.chunkTable (pathHash, chunkIdx) = store.chunkTable (pathHash, chunkIdx))
    (region : ∀ location, store.chunkTable (pathHash, chunkIdx) = some location →
      ∀ address, location.offset ≤ address → address < location.offset + location.capacity →
        after.region address = store.region address) (offset len : Nat) :
    after.read pathHash chunkIdx offset len = store.read pathHash chunkIdx offset len := by
  unfold read
  rw [table]
  cases found : store.chunkTable (pathHash, chunkIdx) with
  | none => rfl
  | some location =>
    dsimp only
    split
    · rfl
    · rename_i unread
      have valid := sound.valid _ location found
      refine Memory.read_eq_read_iff.mpr fun index inside => ?_
      exact region location found _ (by omega) (by omega)

theorem Sound.region_other (sound : Sound store) {other : Nat × Nat} {place : ChunkLocation}
    (here : store.chunkTable chunk = some location) (there : store.chunkTable other = some place)
    (different : other ≠ chunk) {start : Nat} {data : List UInt8} (low : location.offset ≤ start)
    (high : start + data.length ≤ location.offset + location.capacity) (address : Nat)
    (above : place.offset ≤ address) (below : address < place.offset + place.capacity) :
    store.region.write start data address = store.region address := by
  apply Memory.write_outside
  rcases sound.apart other chunk place location different there here with first | second <;> omega

end PmemStore

end Locasta.Aggfs
