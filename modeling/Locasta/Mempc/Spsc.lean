import Locasta.Data.Ring
import Locasta.Data.Run
import Mathlib.Logic.Function.Basic

namespace Locasta.Mempc

open Data Function

/-! The single-producer ring of `onesided.rs`.

A slot carries the number of the message in it. The sender writes the data and then the number, the
receiver reads the number and then the data, and never writes: nothing in the ring keeps the sender
from messages that were not read. Each of the four accesses is one step.
-/

def usizeMax : Nat := 2 ^ 64 - 1

structure Slot (T : Type) where
  generation : Nat
  data : Option T
deriving DecidableEq

def Slot.init (T : Type) : Slot T where
  generation := usizeMax
  data := none

structure RawSender where
  mask : Nat
  head : Nat

structure RawReceiver where
  mask : Nat
  tail : Nat

variable {T : Type}

namespace RawSender

def new (capacity : Nat) : RawSender where
  mask := capacity - 1
  head := 0

def slotIdx (sender : RawSender) : Nat := sender.head &&& sender.mask

def writeData (sender : RawSender) (slots : Nat → Slot T) (value : T) : Nat → Slot T :=
  update slots sender.slotIdx { slots sender.slotIdx with data := some value }

def writeGeneration (sender : RawSender) (slots : Nat → Slot T) : Nat → Slot T :=
  update slots sender.slotIdx { slots sender.slotIdx with generation := sender.head }

def advance (sender : RawSender) : RawSender := { sender with head := (sender.head + 1) % 2 ^ 64 }

end RawSender

namespace RawReceiver

def new (capacity : Nat) : RawReceiver where
  mask := capacity - 1
  tail := 0

def slotIdx (receiver : RawReceiver) : Nat := receiver.tail &&& receiver.mask

def readGeneration (receiver : RawReceiver) (slots : Nat → Slot T) : Nat :=
  (slots receiver.slotIdx).generation

def readData (receiver : RawReceiver) (slots : Nat → Slot T) : Option T :=
  (slots receiver.slotIdx).data

def advance (receiver : RawReceiver) : RawReceiver :=
  { receiver with tail := (receiver.tail + 1) % 2 ^ 64 }

end RawReceiver

/-- A step of `try_recv`: it goes on with the data, it found no message, it returned one. -/
inductive TryRecv (T : Type) where
  | busy
  | empty
  | got (slotIdx : Nat) (value : T)
  /-- The data were never written. -/
  | uninit

structure Spsc (T : Type) where
  slots : Nat → Slot T
  tx : RawSender
  rx : RawReceiver
  /-- The sender is between its two writes, the receiver between its two reads. -/
  writing : Option T
  matched : Bool
  /-- Auxiliary: all that was sent and received. No operation reads them. -/
  sent : List T
  received : List T

namespace Spsc

def new (T : Type) (capacity : Nat) : Spsc T where
  slots _ := .init T
  tx := .new capacity
  rx := .new capacity
  writing := none
  matched := false
  sent := []
  received := []

def startSend (ring : Spsc T) (value : T) : Spsc T :=
  { ring with slots := ring.tx.writeData ring.slots value, writing := some value }

/-- The second step of `try_send`, which returns the slot. -/
def finishSend (ring : Spsc T) : Option Nat × Spsc T :=
  match ring.writing with
  | none => (none, ring)
  | some value =>
    (some ring.tx.slotIdx,
      { ring with
        slots := ring.tx.writeGeneration ring.slots
        tx := ring.tx.advance
        writing := none
        sent := ring.sent ++ [value] })

def tryRecv (ring : Spsc T) : TryRecv T × Spsc T :=
  if ring.matched then
    match ring.rx.readData ring.slots with
    | none => (.uninit, ring)
    | some value =>
      (.got ring.rx.slotIdx value,
        { ring with
          rx := ring.rx.advance
          matched := false
          received := ring.received ++ [value] })
  else if ring.rx.readGeneration ring.slots ≠ ring.rx.tail then (.empty, ring)
  else (.busy, { ring with matched := true })

theorem sent_tryRecv (ring : Spsc T) :
    ring.tryRecv.2.sent = ring.sent ∧ ring.tryRecv.2.writing = ring.writing := by
  unfold tryRecv
  split
  · split <;> exact ⟨rfl, rfl⟩
  · split <;> exact ⟨rfl, rfl⟩

theorem received_tryRecv {ring : Spsc T}
    (other : ∀ slotIdx value, ring.tryRecv.1 ≠ .got slotIdx value) :
    ring.tryRecv.2.received = ring.received := by
  revert other
  unfold tryRecv
  split
  · split
    · intro _
      rfl
    · intro other
      exact absurd rfl (other _ _)
  · intro _
    split <;> rfl

/-- A number of slots that a `usize` can mask with. -/
structure IsDepth (capacity : Nat) : Prop where
  power : capacity.isPowerOfTwo
  usize : capacity < 2 ^ 64

namespace IsDepth

variable {capacity : Nat}

theorem pos (sized : IsDepth capacity) : 0 < capacity := Nat.pos_of_isPowerOfTwo sized.power

theorem slot_eq (sized : IsDepth capacity) (number : Nat) :
    number % 2 ^ 64 &&& (capacity - 1) = number % capacity := by
  change maskOffset (number % 2 ^ 64) capacity = _
  rw [maskOffset_eq_mod sized.power, Nat.mod_mod_of_dvd _
    (dvd_of_isPowerOfTwo_le sized.power ⟨64, rfl⟩ (Nat.le_of_lt sized.usize))]

end IsDepth

/-- The unread messages are in their slots, and each slot carries the number of its last message. -/
structure Sound (capacity : Nat) (ring : Spsc T) : Prop where
  txMask : ring.tx.mask = capacity - 1
  rxMask : ring.rx.mask = capacity - 1
  head : ring.tx.head = ring.sent.length % 2 ^ 64
  tail : ring.rx.tail = ring.received.length % 2 ^ 64
  received : ring.received <+: ring.sent
  window : ring.sent.length ≤ ring.received.length + capacity
  room : ring.writing.isSome → ring.sent.length < ring.received.length + capacity
  written : ∀ value, ring.writing = some value →
    (ring.slots (ring.sent.length % capacity)).data = some value
  ready : ring.matched → ring.received.length < ring.sent.length
  placed : ∀ number value, ring.received.length ≤ number → ring.sent[number]? = some value →
    ring.slots (number % capacity) = { generation := number % 2 ^ 64, data := some value }
  stamps : ∀ slot < capacity, ((ring.slots slot).generation = usizeMax ∧ ring.sent.length ≤ slot) ∨
      ∃ number < ring.sent.length, number % capacity = slot ∧
        ring.sent.length ≤ number + capacity ∧ (ring.slots slot).generation = number % 2 ^ 64

namespace Sound

variable {capacity : Nat} {ring : Spsc T}

theorem new (T : Type) (capacity : Nat) : Sound capacity (new T capacity) where
  txMask := rfl
  rxMask := rfl
  head := rfl
  tail := rfl
  received := List.nil_prefix
  window := Nat.zero_le _
  room started := by cases started
  written _ started := by cases started
  ready started := by cases started
  placed number value _ here := by simp [Spsc.new] at here
  stamps slot _ := .inl ⟨rfl, Nat.zero_le slot⟩

theorem txSlot (sound : Sound capacity ring) (sized : IsDepth capacity) :
    ring.tx.slotIdx = ring.sent.length % capacity := by
  rw [RawSender.slotIdx, sound.head, sound.txMask, sized.slot_eq]

theorem rxSlot (sound : Sound capacity ring) (sized : IsDepth capacity) :
    ring.rx.slotIdx = ring.received.length % capacity := by
  rw [RawReceiver.slotIdx, sound.tail, sound.rxMask, sized.slot_eq]

theorem apart (room : ring.sent.length < ring.received.length + capacity) {number : Nat} {value : T}
    (unread : ring.received.length ≤ number) (here : ring.sent[number]? = some value) :
    number % capacity ≠ ring.sent.length % capacity :=
  mod_ne_mod_of_window (List.getElem?_eq_some_iff.mp here).1 (by omega)

variable (sound : Sound capacity ring)
include sound

section

variable (sized : IsDepth capacity)
include sized

theorem startSend (room : ring.sent.length < ring.received.length + capacity) (value : T) :
    Sound capacity (ring.startSend value) := by
  have slots : ring.tx.writeData ring.slots value = update ring.slots (ring.sent.length % capacity)
      { ring.slots (ring.sent.length % capacity) with data := some value } := by
    rw [RawSender.writeData, sound.txSlot sized]
  rw [Spsc.startSend, slots]
  refine { sound with room := fun _ => room, written := ?_, placed := ?_, stamps := ?_ } <;>
    dsimp only
  · rintro _ ⟨⟩
    rw [update_self]
  · intro number other unread here
    rw [update_of_ne (apart room unread here)]
    exact sound.placed number other unread here
  · intro slot inside
    by_cases same : slot = ring.sent.length % capacity
    · subst same
      rw [update_self]
      exact sound.stamps _ inside
    · rw [update_of_ne same]
      exact sound.stamps slot inside

theorem writeGeneration {value : T} (started : ring.writing = some value) :
    Sound capacity { ring with
      slots := ring.tx.writeGeneration ring.slots
      tx := ring.tx.advance
      writing := none
      sent := ring.sent ++ [value] } := by
  have room := sound.room (by rw [started]; rfl)
  have slots : ring.tx.writeGeneration ring.slots = update ring.slots
      (ring.sent.length % capacity)
      { generation := ring.sent.length % 2 ^ 64, data := some value } := by
    rw [RawSender.writeGeneration, sound.txSlot sized, sound.head]
    dsimp only
    rw [sound.written value started]
  have more : (ring.sent ++ [value]).length = ring.sent.length + 1 := List.length_append
  rw [slots]
  refine { sound with
    head := ?head
    received := sound.received.trans (List.prefix_append ..)
    window := more.symm ▸ room
    room := ?room
    written := ?written
    ready := ?ready
    placed := ?placed
    stamps := ?stamps } <;> dsimp only
  case head =>
    change (ring.tx.head + 1) % 2 ^ 64 = _
    rw [more, sound.head, Nat.mod_add_mod]
  case room => intro later; cases later
  case written => intro _ later; cases later
  case ready =>
    intro matched
    exact Nat.lt_of_lt_of_le (sound.ready matched) (by rw [more]; exact Nat.le_succ _)
  case placed =>
    intro number other unread here
    rcases Nat.lt_or_ge number ring.sent.length with earlier | last
    · rw [List.getElem?_append_left earlier] at here
      rw [update_of_ne (apart room unread here)]
      exact sound.placed number other unread here
    · have inside := (List.getElem?_eq_some_iff.mp here).1
      obtain rfl : number = ring.sent.length := by omega
      rw [List.getElem?_append_right (Nat.le_refl _), Nat.sub_self] at here
      cases here
      rw [update_self]
  case stamps =>
    intro slot inside
    rw [more]
    by_cases same : slot = ring.sent.length % capacity
    · subst same
      rw [update_self]
      exact .inr ⟨ring.sent.length, Nat.lt_succ_self _, rfl, by have := sized.pos; omega, rfl⟩
    · rw [update_of_ne same]
      rcases sound.stamps slot inside with ⟨initial, unused⟩ | ⟨number, earlier, here, near, stamp⟩
      · refine .inl ⟨initial, Nat.lt_of_le_of_ne unused ?_⟩
        rintro rfl
        exact same (Nat.mod_eq_of_lt inside).symm
      · refine .inr ⟨number, Nat.lt_succ_of_lt earlier, here, Nat.lt_of_le_of_ne near ?_, stamp⟩
        intro turn
        rw [turn, Nat.add_mod_right] at same
        exact same here.symm

theorem finishSend : Sound capacity ring.finishSend.2 := by
  unfold Spsc.finishSend
  cases started : ring.writing with
  | none => exact sound
  | some value => exact sound.writeGeneration sized started

theorem readGeneration : ring.rx.readGeneration ring.slots = ring.rx.tail ↔
      ring.received.length < ring.sent.length := by
  rw [RawReceiver.readGeneration, sound.rxSlot sized, sound.tail]
  have order := sound.received.length_le
  constructor
  · intro found
    apply Nat.lt_of_le_of_ne order
    intro done
    rw [done] at found
    have usize := sized.usize
    rcases sound.stamps _ (Nat.mod_lt ring.sent.length sized.pos) with
      ⟨initial, unused⟩ | ⟨number, earlier, here, near, stamp⟩
    · have first := Nat.lt_of_le_of_lt unused (Nat.mod_lt _ sized.pos)
      rw [initial, Nat.mod_eq_of_lt (first.trans usize)] at found
      unfold usizeMax at found
      omega
    · rw [stamp] at found
      have different := mod_ne_mod_of_window earlier
        (show ring.sent.length < number + 2 ^ 64 by omega)
      exact different found
  · intro unread
    rw [sound.placed _ _ (Nat.le_refl _) (List.getElem?_eq_getElem unread)]

theorem readData (unread : ring.received.length < ring.sent.length) :
    ring.rx.readData ring.slots = some ring.sent[ring.received.length] := by
  rw [RawReceiver.readData, sound.rxSlot sized,
    sound.placed _ _ (Nat.le_refl _) (List.getElem?_eq_getElem unread)]

end

theorem advance (unread : ring.received.length < ring.sent.length) : Sound capacity { ring with
      rx := ring.rx.advance
      matched := false
      received := ring.received ++ [ring.sent[ring.received.length]] } := by
  have window := sound.window
  have more : (ring.received ++ [ring.sent[ring.received.length]]).length =
      ring.received.length + 1 := List.length_append
  refine { sound with
    tail := ?tail
    received := ?received
    window := ?window
    room := ?room
    ready := ?ready
    placed := ?placed } <;> dsimp only
  case tail =>
    change (ring.rx.tail + 1) % 2 ^ 64 = _
    rw [more, sound.tail, Nat.mod_add_mod]
  case received =>
    have whole := List.prefix_iff_eq_take.mp sound.received
    rw [List.prefix_iff_eq_take, more, List.take_succ_eq_append_getElem unread, ← whole]
  case window => omega
  case room =>
    intro started
    have := sound.room started
    omega
  case ready => intro later; cases later
  case placed =>
    intro number value later here
    exact sound.placed number value (by omega) here

/-- It ends without a message only if all were received, and returns the next one otherwise. -/
theorem tryRecv (sized : IsDepth capacity) : Sound capacity ring.tryRecv.2 ∧
      ((ring.matched = false ∧ ring.received.length = ring.sent.length ∧
          ring.tryRecv = (.empty, ring)) ∨
        (ring.matched = false ∧ ring.received.length < ring.sent.length ∧
          ring.tryRecv = (.busy, { ring with matched := true })) ∨
        (ring.matched = true ∧ ∃ value, ring.sent[ring.received.length]? = some value ∧
          ring.tryRecv = (.got (ring.received.length % capacity) value,
            { ring with
              rx := ring.rx.advance, matched := false, received := ring.received ++ [value] }))) := by
  have order := sound.received.length_le
  have found := sound.readGeneration sized
  cases matched : ring.matched with
  | false =>
    rcases Nat.lt_or_eq_of_le order with unread | done
    · have result : ring.tryRecv = (.busy, { ring with matched := true }) := by
        simp [Spsc.tryRecv, matched, found.mpr unread]
      rw [result]
      exact ⟨{ sound with ready := fun _ => unread }, .inr (.inl ⟨rfl, unread, rfl⟩)⟩
    · have missing : ring.rx.readGeneration ring.slots ≠ ring.rx.tail :=
        fun same => Nat.ne_of_lt (found.mp same) done
      have result : ring.tryRecv = (.empty, ring) := by
        simp [Spsc.tryRecv, matched, missing]
      rw [result]
      exact ⟨sound, .inl ⟨rfl, done, rfl⟩⟩
  | true =>
    have unread := sound.ready matched
    have result : ring.tryRecv = (.got (ring.received.length % capacity)
        ring.sent[ring.received.length], { ring with
          rx := ring.rx.advance
          matched := false
          received := ring.received ++ [ring.sent[ring.received.length]] }) := by
      simp only [Spsc.tryRecv, matched, if_true, sound.readData sized unread, sound.rxSlot sized]
    rw [result]
    exact ⟨sound.advance unread, .inr (.inr ⟨rfl, _, List.getElem?_eq_getElem unread, rfl⟩)⟩

end Sound

end Spsc

end Locasta.Mempc
