import Locasta.Data.Ring
import Locasta.Data.Run
import Mathlib.Logic.Function.Basic

namespace Locasta.Data

/-! A ring of slots with one writer, one reader and a flag for each slot.

The writer puts a value into a slot whose flag is down and raises the flag; the reader takes it out
and lowers the flag. Neither looks at the other's position. Each access to a slot is one step.
-/

structure FlagSlot (T : Type) where
  valid : Bool
  data : Option T
deriving DecidableEq

inductive WriterPc (T : Type) where
  | idle
  | writing (value : T)
  | publishing (value : T)

/-- The value that a writer has on its way. -/
def WriterPc.pending {T : Type} : WriterPc T → Option T
  | .idle => none
  | .writing value | .publishing value => some value

inductive ReaderPc (T : Type) where
  | idle
  | reading
  | clearing (value : T)

def ReaderPc.isIdle {T : Type} : ReaderPc T → Bool
  | .idle => true
  | .reading | .clearing _ => false

/-- The place of a position is `index` of it. -/
structure FlagRing (T : Type) where
  slots : Nat → FlagSlot T
  index : Nat → Nat
  writePos : Nat
  readPos : Nat
  writer : WriterPc T
  reader : ReaderPc T
  /-- Auxiliary: all that was sent and received. No operation reads them. -/
  sent : List T
  received : List T

namespace FlagRing

variable {T : Type}

def new (T : Type) (index : Nat → Nat) : FlagRing T where
  slots _ := { valid := false, data := none }
  index
  writePos := 0
  readPos := 0
  writer := .idle
  reader := .idle
  sent := []
  received := []

def update (ring : FlagRing T) (pos : Nat) (slot : FlagSlot T) : FlagRing T :=
  { ring with slots := Function.update ring.slots (ring.index pos) slot }

/-- The writer looks at the flag; it gives up if the slot is taken. -/
def startPush (ring : FlagRing T) (value : T) : Bool × FlagRing T :=
  if (ring.slots (ring.index ring.writePos)).valid then (false, ring)
  else (true, { ring with writer := .writing value })

/-- The next write of a push, and whether it was the last. -/
def push (ring : FlagRing T) : Bool × FlagRing T :=
  let slot := ring.slots (ring.index ring.writePos)
  match ring.writer with
  | .idle => (false, ring)
  | .writing value =>
    (false, { ring.update ring.writePos { slot with data := some value } with
      writer := .publishing value })
  | .publishing value =>
    (true, { ring.update ring.writePos { slot with valid := true } with
      writePos := ring.writePos + 1
      writer := .idle
      sent := ring.sent ++ [value] })

/-- The reader looks at the flag; it gives up if the slot is empty. -/
def startPop (ring : FlagRing T) : Bool × FlagRing T :=
  if (ring.slots (ring.index ring.readPos)).valid then (true, { ring with reader := .reading })
  else (false, ring)

/-- The next access of a pop, and its value if it was the last. -/
def pop (ring : FlagRing T) : Option T × FlagRing T :=
  let slot := ring.slots (ring.index ring.readPos)
  match ring.reader with
  | .idle => (none, ring)
  | .reading =>
    match slot.data with
    | none => (none, ring)
    | some value => (none, { ring with reader := .clearing value })
  | .clearing value =>
    (some value, { ring.update ring.readPos { slot with valid := false } with
      readPos := ring.readPos + 1
      reader := .idle
      received := ring.received ++ [value] })

/-! What the two ends leave alone. -/

section

variable (ring : FlagRing T)
include ring

theorem startPush_reader (value : T) : (ring.startPush value).2.received = ring.received ∧
      (ring.startPush value).2.sent = ring.sent ∧
      (ring.startPush value).2.reader = ring.reader := by
  unfold startPush
  split <;> exact ⟨rfl, rfl, rfl⟩

theorem push_reader : ring.push.2.received = ring.received ∧ ring.push.2.reader = ring.reader := by
  unfold push
  cases ring.writer <;> exact ⟨rfl, rfl⟩

theorem push_cases : (ring.push.1 = false ∧ ring.push.2.sent = ring.sent ∧
        ring.push.2.writer.pending = ring.writer.pending) ∨
      ∃ value, ring.push.1 = true ∧ ring.writer.pending = some value ∧
        ring.push.2.sent = ring.sent ++ [value] ∧ ring.push.2.writer = .idle := by
  unfold push
  cases busy : ring.writer with
  | idle => exact .inl ⟨rfl, rfl, congrArg _ busy⟩
  | writing value => exact .inl ⟨rfl, rfl, rfl⟩
  | publishing value => exact .inr ⟨value, rfl, rfl, rfl, rfl⟩

theorem startPop_writer :
    ring.startPop.2.sent = ring.sent ∧ ring.startPop.2.received = ring.received ∧
      ring.startPop.2.writer = ring.writer := by
  unfold startPop
  split <;> exact ⟨rfl, rfl, rfl⟩

theorem pop_writer : ring.pop.2.sent = ring.sent ∧ ring.pop.2.writer = ring.writer := by
  unfold pop
  cases ring.reader with
  | idle => exact ⟨rfl, rfl⟩
  | reading =>
    dsimp only
    split <;> exact ⟨rfl, rfl⟩
  | clearing value => exact ⟨rfl, rfl⟩

end

/-- The unread values are in their slots with the flag up, and the slots ahead of the writer have it
down. -/
structure Sound (capacity : Nat) (ring : FlagRing T) : Prop where
  index : ∀ pos, ring.index pos = pos % capacity
  writePos : ring.writePos = ring.sent.length
  readPos : ring.readPos = ring.received.length
  received : ring.received <+: ring.sent
  window : ring.sent.length ≤ ring.received.length + capacity
  flags : ∀ number, ring.received.length ≤ number → number < ring.received.length + capacity →
    (ring.slots (number % capacity)).valid = decide (number < ring.sent.length)
  placed : ∀ number value, ring.received.length ≤ number → ring.sent[number]? = some value →
    (ring.slots (number % capacity)).data = some value
  room : ring.writer ≠ .idle → ring.sent.length < ring.received.length + capacity
  written : ∀ value, ring.writer = .publishing value →
    (ring.slots (ring.sent.length % capacity)).data = some value
  ready : ring.reader ≠ .idle → ring.received.length < ring.sent.length
  read : ∀ value, ring.reader = .clearing value → ring.sent[ring.received.length]? = some value

namespace Sound

variable {capacity : Nat} {ring : FlagRing T}

theorem new {index : Nat → Nat} (places : ∀ pos, index pos = pos % capacity) :
    Sound capacity (new T index) where
  index := places
  writePos := rfl
  readPos := rfl
  received := List.nil_prefix
  window := Nat.zero_le _
  flags _ _ _ := rfl
  placed _ _ _ here := by simp [FlagRing.new] at here
  room busy := absurd rfl busy
  written _ busy := by cases busy
  ready busy := absurd rfl busy
  read _ busy := by cases busy

section

variable (sound : Sound capacity ring) (positive : 0 < capacity)
include sound positive

theorem writable :
    (ring.slots (ring.index ring.writePos)).valid = false ↔
      ring.sent.length < ring.received.length + capacity := by
  have window := sound.window
  have order := sound.received.length_le
  rw [sound.index, sound.writePos]
  constructor
  · intro down
    apply Nat.lt_of_le_of_ne window
    intro full
    have turn := sound.flags (ring.received.length) (Nat.le_refl _) (by omega)
    have same : ring.sent.length % capacity = ring.received.length % capacity := by
      rw [full, Nat.add_mod_right]
    rw [← same, down] at turn
    have unread : ring.received.length < ring.sent.length := by omega
    simp [unread] at turn
  · intro room
    rw [sound.flags _ order room]
    simp

theorem readable :
    (ring.slots (ring.index ring.readPos)).valid = true ↔
      ring.received.length < ring.sent.length := by
  rw [sound.index, sound.readPos, sound.flags _ (Nat.le_refl _) (by omega)]
  simp

theorem startPush (value : T) :
    Sound capacity (ring.startPush value).2 := by
  unfold FlagRing.startPush
  split
  · exact sound
  · rename_i down
    have room := (sound.writable positive).mp (by simpa using down)
    exact { sound with room := fun _ => room, written := fun _ busy => by cases busy }

end

theorem apart {number pos : Nat} (different : number ≠ pos)
    (low : ring.received.length ≤ number) (high : number < ring.received.length + capacity)
    (posLow : ring.received.length ≤ pos) (posHigh : pos < ring.received.length + capacity) :
    number % capacity ≠ pos % capacity := by
  exact mod_ne_mod_of_near different (by omega) (by omega)

variable (sound : Sound capacity ring)
include sound

variable {value : T}

theorem writeData (busy : ring.writer = .writing value) : Sound capacity { ring.update ring.writePos
      { ring.slots (ring.index ring.writePos) with data := some value } with
        writer := .publishing value } := by
  have room := sound.room (by rw [busy]; exact nofun)
  have order := sound.received.length_le
  have here : ring.index ring.writePos = ring.sent.length % capacity := by
    rw [sound.index, sound.writePos]
  unfold FlagRing.update
  rw [here]
  refine { sound with
    room := fun _ => room, flags := ?flags, placed := ?placed, written := ?written } <;> dsimp only
  case flags =>
    intro number low high
    by_cases same : number % capacity = ring.sent.length % capacity
    · rw [same, Function.update_self, ← same]
      exact sound.flags number low high
    · rw [Function.update_of_ne same]
      exact sound.flags number low high
  case placed =>
    intro number other low found
    have inside := (List.getElem?_eq_some_iff.mp found).1
    rw [Function.update_of_ne (apart (by omega) low (by omega) order room)]
    exact sound.placed number other low found
  case written =>
    rintro _ ⟨⟩
    rw [Function.update_self]

theorem raiseFlag (busy : ring.writer = .publishing value) :
    Sound capacity { ring.update ring.writePos
      { ring.slots (ring.index ring.writePos) with valid := true } with
        writePos := ring.writePos + 1
        writer := .idle
        sent := ring.sent ++ [value] } := by
  have room := sound.room (by rw [busy]; exact nofun)
  have written := sound.written value busy
  have order := sound.received.length_le
  have here : ring.index ring.writePos = ring.sent.length % capacity := by
    rw [sound.index, sound.writePos]
  have more : (ring.sent ++ [value]).length = ring.sent.length + 1 := List.length_append
  unfold FlagRing.update
  rw [here]
  refine { sound with
    writePos := ?writePos
    received := sound.received.trans (List.prefix_append ..)
    window := ?window
    flags := ?flags
    placed := ?placed
    room := fun later => absurd rfl later
    written := fun _ later => by cases later
    ready := ?ready
    read := ?read } <;> dsimp only
  case writePos => rw [more, sound.writePos]
  case window => omega
  case flags =>
    intro number low high
    rw [more]
    by_cases same : number = ring.sent.length
    · subst same
      rw [Function.update_self]
      simp
    · rw [Function.update_of_ne (apart same low high order room), sound.flags number low high]
      have grown : number < ring.sent.length ↔ number < ring.sent.length + 1 := by omega
      simp only [grown]
  case placed =>
    intro number other low found
    have inside := (List.getElem?_eq_some_iff.mp found).1
    rw [more] at inside
    by_cases same : number = ring.sent.length
    · subst same
      rw [List.getElem?_append_right (Nat.le_refl _), Nat.sub_self] at found
      cases found
      rw [Function.update_self]
      exact written
    · rw [List.getElem?_append_left (by omega)] at found
      rw [Function.update_of_ne (apart same low (by omega) order room)]
      exact sound.placed number other low found
  case ready =>
    intro reading
    have := sound.ready reading
    omega
  case read =>
    intro other clearing
    exact getElem?_extend (List.prefix_append ..) (sound.read other clearing)

theorem push : Sound capacity ring.push.2 := by
  unfold FlagRing.push
  cases busy : ring.writer with
  | idle => exact sound
  | writing value => exact sound.writeData busy
  | publishing value => exact sound.raiseFlag busy

theorem startPop (positive : 0 < capacity) : Sound capacity ring.startPop.2 := by
  unfold FlagRing.startPop
  split
  · rename_i up
    have unread := (sound.readable positive).mp up
    exact { sound with ready := fun _ => unread, read := fun _ busy => by cases busy }
  · exact sound

theorem data (unread : ring.received.length < ring.sent.length) :
    (ring.slots (ring.index ring.readPos)).data = some ring.sent[ring.received.length] := by
  rw [sound.index, sound.readPos]
  exact sound.placed _ _ (Nat.le_refl _) (List.getElem?_eq_getElem unread)

theorem lowerFlag (busy : ring.reader = .clearing value) : Sound capacity { ring.update ring.readPos
      { ring.slots (ring.index ring.readPos) with valid := false } with
        readPos := ring.readPos + 1
        reader := .idle
        received := ring.received ++ [value] } := by
  have unread := sound.ready (by rw [busy]; exact nofun)
  have read := sound.read value busy
  have window := sound.window
  have here : ring.index ring.readPos = ring.received.length % capacity := by
    rw [sound.index, sound.readPos]
  have more : (ring.received ++ [value]).length = ring.received.length + 1 := List.length_append
  unfold FlagRing.update
  rw [here]
  refine { sound with
    readPos := ?readPos
    received := prefix_snoc sound.received read
    window := ?window
    flags := ?flags
    placed := ?placed
    room := ?room
    written := ?written
    ready := fun later => absurd rfl later
    read := fun _ later => by cases later } <;> dsimp only
  case readPos => rw [more, sound.readPos]
  case window => omega
  case flags =>
    intro number low high
    rw [more] at low high
    by_cases last : number = ring.received.length + capacity
    · have turn : number % capacity = ring.received.length % capacity := by
        rw [last, Nat.add_mod_right]
      have ahead : ¬ number < ring.sent.length := by omega
      rw [turn, Function.update_self]
      simp [ahead]
    · rw [Function.update_of_ne (apart (by omega) (by omega) (by omega) (Nat.le_refl _) (by omega))]
      exact sound.flags number (by omega) (by omega)
  case placed =>
    intro number other low found
    have inside := (List.getElem?_eq_some_iff.mp found).1
    rw [more] at low
    rw [Function.update_of_ne (apart (by omega) (by omega) (by omega) (Nat.le_refl _) (by omega))]
    exact sound.placed number other (by omega) found
  case room =>
    intro writing
    have := sound.room writing
    omega
  case written =>
    intro other publishing
    by_cases same : ring.sent.length % capacity = ring.received.length % capacity
    · rw [same, Function.update_self, ← same]
      exact sound.written other publishing
    · rw [Function.update_of_ne same]
      exact sound.written other publishing

theorem pop : Sound capacity ring.pop.2 := by
  unfold FlagRing.pop
  cases busy : ring.reader with
  | idle => exact sound
  | reading =>
    have unread := sound.ready (by rw [busy]; exact nofun)
    have found := sound.data unread
    dsimp only
    rw [found]
    refine { sound with ready := fun _ => unread, read := ?_ }
    rintro _ ⟨⟩
    exact List.getElem?_eq_getElem unread
  | clearing value => exact sound.lowerFlag busy

end Sound

end FlagRing

end Locasta.Data
