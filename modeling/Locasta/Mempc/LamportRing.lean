import Locasta.Mempc.Spsc

namespace Locasta.Mempc

open Data

/-! `lamport_channel`: a ring whose two ends publish their positions in batches.

A message is visible once its sender has published its head, a slot is free again once its receiver
has published its tail. The counters wrap around at `2 ^ 64`.
-/

namespace Lamport

def wrappingSub (left right : Nat) : Nat :=
  if right ≤ left then left - right else left + 2 ^ 64 - right

theorem wrappingSub_mod {low high : Nat} (order : low ≤ high) (near : high - low < 2 ^ 64) :
    wrappingSub (high % 2 ^ 64) (low % 2 ^ 64) = high - low := by
  unfold wrappingSub
  split <;> omega

/-- `Inner` with its `LamportSender` and its `LamportReceiver`. -/
structure Ring (T : Type) where
  buffer : Nat → Option T
  mask : Nat
  sharedHead : Nat
  sharedTail : Nat
  localHead : Nat
  cachedTail : Nat
  localTail : Nat
  cachedHead : Nat
  /-- A `send` that has found room, and a `recv` that has found a message. -/
  writing : Option T
  reading : Bool
  /-- Auxiliary: all that was sent and received, and how much of it was published. -/
  sent : List T
  received : List T
  published : Nat
  freed : Nat

namespace Ring

variable {T : Type}

/-- `lamport_channel` -/
def new (T : Type) (capacity : Nat) : Ring T where
  buffer _ := none
  mask := capacity - 1
  sharedHead := 0
  sharedTail := 0
  localHead := 0
  cachedTail := 0
  localTail := 0
  cachedHead := 0
  writing := none
  reading := false
  sent := []
  received := []
  published := 0
  freed := 0

def full (ring : Ring T) : Bool :=
  decide (wrappingSub ((ring.localHead + 1) % 2 ^ 64) ring.cachedTail > ring.mask)

/-- `send` up to the write. -/
def startSend (ring : Ring T) (value : T) : Bool × Ring T :=
  if ring.full then
    let ring := { ring with cachedTail := ring.sharedTail }
    if ring.full then (false, ring) else (true, { ring with writing := some value })
  else (true, { ring with writing := some value })

def finishSend (ring : Ring T) : Bool × Ring T :=
  match ring.writing with
  | none => (false, ring)
  | some value =>
    (true, { ring with
      buffer := Function.update ring.buffer (ring.localHead &&& ring.mask) (some value)
      localHead := (ring.localHead + 1) % 2 ^ 64
      writing := none
      sent := ring.sent ++ [value] })

/-- `LamportSender::sync` -/
def publish (ring : Ring T) : Ring T :=
  { ring with sharedHead := ring.localHead, published := ring.sent.length }

/-- `recv` up to the read. -/
def startRecv (ring : Ring T) : Bool × Ring T :=
  if ring.localTail = ring.cachedHead then
    let ring := { ring with cachedHead := ring.sharedHead }
    if ring.localTail = ring.cachedHead then (false, ring) else (true, { ring with reading := true })
  else (true, { ring with reading := true })

def finishRecv (ring : Ring T) : Option T × Ring T :=
  if ring.reading then
    match ring.buffer (ring.localTail &&& ring.mask) with
    | none => (none, ring)
    | some value =>
      (some value, { ring with
        localTail := (ring.localTail + 1) % 2 ^ 64
        reading := false
        received := ring.received ++ [value] })
  else (none, ring)

/-- `LamportReceiver::sync` -/
def release (ring : Ring T) : Ring T :=
  { ring with sharedTail := ring.localTail, freed := ring.received.length }

def refresh (ring : Ring T) : Ring T := { ring with cachedHead := ring.sharedHead }

def available (ring : Ring T) : Nat := wrappingSub ring.cachedHead ring.localTail

/-! What the operations leave alone. -/

theorem startSend_frame (ring : Ring T) (value : T) :
    (ring.startSend value).2.sent = ring.sent ∧ (ring.startSend value).2.received = ring.received ∧
      (ring.startSend value).2.published = ring.published ∧
      (ring.startSend value).2.freed = ring.freed ∧
      (ring.startSend value).2.reading = ring.reading ∧
      (ring.startSend value).2.writing =
        if (ring.startSend value).1 then some value else ring.writing := by
  unfold startSend
  dsimp only
  split
  · split <;> exact ⟨rfl, rfl, rfl, rfl, rfl, rfl⟩
  · exact ⟨rfl, rfl, rfl, rfl, rfl, rfl⟩

theorem startRecv_frame (ring : Ring T) :
    ring.startRecv.2.sent = ring.sent ∧ ring.startRecv.2.received = ring.received ∧
      ring.startRecv.2.published = ring.published ∧ ring.startRecv.2.freed = ring.freed ∧
      ring.startRecv.2.writing = ring.writing ∧
      ring.startRecv.2.reading = (ring.startRecv.1 || ring.reading) := by
  unfold startRecv
  dsimp only
  split
  · split <;> exact ⟨rfl, rfl, rfl, rfl, rfl, by simp⟩
  · exact ⟨rfl, rfl, rfl, rfl, rfl, by simp⟩

theorem finishSend_cases (ring : Ring T) : (ring.writing = none ∧ ring.finishSend = (false, ring)) ∨
      ∃ value after, ring.writing = some value ∧ ring.finishSend = (true, after) ∧
        after.sent = ring.sent ++ [value] ∧ after.received = ring.received ∧
        after.published = ring.published ∧ after.freed = ring.freed ∧ after.writing = none ∧
        after.reading = ring.reading := by
  unfold finishSend
  cases ring.writing with
  | none => exact .inl ⟨rfl, rfl⟩
  | some value => exact .inr ⟨value, _, rfl, rfl, rfl, rfl, rfl, rfl, rfl, rfl⟩

theorem finishRecv_cases (ring : Ring T) : ring.finishRecv = (none, ring) ∨
      ∃ value after, ring.finishRecv = (some value, after) ∧
        after.received = ring.received ++ [value] ∧ after.sent = ring.sent ∧
        after.published = ring.published ∧ after.freed = ring.freed ∧
        after.writing = ring.writing ∧ after.reading = false := by
  unfold finishRecv
  split
  · split
    · exact .inl rfl
    · rename_i value _
      exact .inr ⟨value, _, rfl, rfl, rfl, rfl, rfl, rfl, rfl⟩
  · exact .inl rfl

/-- The counters are those of the messages, each behind the one it follows. -/
structure Sound (capacity : Nat) (ring : Ring T) : Prop where
  mask : ring.mask = capacity - 1
  localHead : ring.localHead = ring.sent.length % 2 ^ 64
  localTail : ring.localTail = ring.received.length % 2 ^ 64
  sharedHead : ring.sharedHead = ring.published % 2 ^ 64
  sharedTail : ring.sharedTail = ring.freed % 2 ^ 64
  received : ring.received <+: ring.sent
  freed_le : ring.freed ≤ ring.received.length
  received_le : ring.received.length ≤ ring.published
  published_le : ring.published ≤ ring.sent.length
  cachedTail : ∃ known ≤ ring.freed, ring.cachedTail = known % 2 ^ 64 ∧
    ring.sent.length + ring.writing.toList.length < known + capacity
  cachedHead : ∃ known ≤ ring.published, ring.cachedHead = known % 2 ^ 64 ∧
    ring.received.length + ring.reading.toNat ≤ known
  placed : ∀ number value, ring.received.length ≤ number → ring.sent[number]? = some value →
    ring.buffer (number % capacity) = some value

namespace Sound

variable {capacity : Nat} {ring : Ring T}

theorem new (T : Type) (sized : Spsc.IsDepth capacity) : Sound capacity (new T capacity) where
  mask := rfl
  localHead := rfl
  localTail := rfl
  sharedHead := rfl
  sharedTail := rfl
  received := List.nil_prefix
  freed_le := Nat.le_refl _
  received_le := Nat.le_refl _
  published_le := Nat.le_refl _
  cachedTail := ⟨0, Nat.le_refl _, rfl, by simpa [Ring.new] using sized.pos⟩
  cachedHead := ⟨0, Nat.le_refl _, rfl, Nat.le_refl _⟩
  placed _ _ _ here := by simp [Ring.new] at here

theorem full_iff (sized : Spsc.IsDepth capacity) (mask : ring.mask = capacity - 1)
    (localHead : ring.localHead = ring.sent.length % 2 ^ 64) {known : Nat}
    (cached : ring.cachedTail = known % 2 ^ 64) (order : known ≤ ring.sent.length)
    (near : ring.sent.length < known + capacity) :
    ring.full = false ↔ ring.sent.length + 1 < known + capacity := by
  have usize := sized.usize
  have positive := sized.pos
  have head : (ring.localHead + 1) % 2 ^ 64 = (ring.sent.length + 1) % 2 ^ 64 := by
    rw [localHead, Nat.mod_add_mod]
  unfold full
  rw [head, cached, mask, decide_eq_false_iff_not]
  by_cases wrapped : ring.sent.length + 1 - known < 2 ^ 64
  · rw [wrappingSub_mod (by omega) wrapped]
    omega
  · omega

variable (sound : Sound capacity ring)
include sound

section

variable (sized : Spsc.IsDepth capacity)
include sized

theorem startSend (idle : ring.writing = none) (value : T) :
    Sound capacity (ring.startSend value).2 := by
  obtain ⟨known, old, cached, near⟩ := sound.cachedTail
  have order := sound.received.length_le
  have freed := sound.freed_le
  rw [idle, Option.toList_none, List.length_nil, Nat.add_zero] at near
  unfold Ring.startSend
  split
  · have again : Sound capacity { ring with cachedTail := ring.sharedTail } :=
      { sound with
        cachedTail := ⟨ring.freed, Nat.le_refl _, sound.sharedTail, by
          dsimp only
          rw [idle, Option.toList_none, List.length_nil]
          omega⟩ }
    dsimp only
    split
    · exact again
    · rename_i room
      have free := (full_iff sized again.mask again.localHead sound.sharedTail
        (by dsimp only; omega) (by dsimp only; omega)).mp (by simpa using room)
      exact { again with
        cachedTail := ⟨ring.freed, Nat.le_refl _, sound.sharedTail, free⟩ }
  · rename_i room
    have free := (full_iff sized sound.mask sound.localHead cached (by omega) near).mp
      (by simpa using room)
    exact { sound with cachedTail := ⟨known, old, cached, free⟩ }

theorem startSend_ok (room : ring.sent.length + 1 < ring.freed + capacity) (value : T) :
    (ring.startSend value).1 = true := by
  have order := sound.received.length_le
  have freed := sound.freed_le
  unfold Ring.startSend
  split
  · have free : Ring.full { ring with cachedTail := ring.sharedTail } = false := by
      refine (full_iff sized ?_ ?_ sound.sharedTail ?_ ?_).mpr room
      · exact sound.mask
      · exact sound.localHead
      · dsimp only
        omega
      · dsimp only
        omega
    dsimp only
    rw [free]
    rfl
  · rfl

theorem finishSend : Sound capacity ring.finishSend.2 := by
  unfold Ring.finishSend
  split
  · exact sound
  · rename_i value on
    obtain ⟨known, old, cached, near⟩ := sound.cachedTail
    have freed := sound.freed_le
    have order := sound.received.length_le
    rw [on, Option.toList_some, List.length_singleton] at near
    have more : (ring.sent ++ [value]).length = ring.sent.length + 1 := List.length_append
    have slot : ring.localHead &&& ring.mask = ring.sent.length % capacity := by
      rw [sound.localHead, sound.mask, sized.slot_eq]
    refine { sound with
      localHead := ?localHead
      received := sound.received.trans (List.prefix_append ..)
      published_le := ?published_le
      cachedTail := ⟨known, old, cached, ?near⟩
      placed := ?placed } <;> dsimp only
    case localHead => rw [more, sound.localHead, Nat.mod_add_mod]
    case published_le =>
      have := sound.published_le
      omega
    case near =>
      rw [more, Option.toList_none, List.length_nil]
      omega
    case placed =>
      intro number other unread here
      have inside := (List.getElem?_eq_some_iff.mp here).1
      rw [slot]
      by_cases last : number = ring.sent.length
      · subst last
        rw [List.getElem?_append_right (Nat.le_refl _), Nat.sub_self] at here
        cases here
        rw [Function.update_self]
      · rw [List.getElem?_append_left (by omega)] at here
        rw [Function.update_of_ne (mod_ne_mod_of_window (by omega) (by omega))]
        exact sound.placed number other unread here

end

theorem publish : Sound capacity ring.publish := by
  obtain ⟨known, old, cached, read⟩ := sound.cachedHead
  have grown := sound.published_le
  exact { sound with
    sharedHead := sound.localHead
    received_le := sound.received.length_le
    published_le := Nat.le_refl _
    cachedHead := ⟨known, Nat.le_trans old grown, cached, read⟩ }

section

variable (sized : Spsc.IsDepth capacity)
include sized

theorem empty_iff {known : Nat}
    (cached : ring.cachedHead = known % 2 ^ 64) (order : ring.received.length ≤ known)
    (old : known ≤ ring.published) :
    ring.localTail = ring.cachedHead ↔ ring.received.length = known := by
  obtain ⟨tail, _, _, near⟩ := sound.cachedTail
  have usize := sized.usize
  have freed := sound.freed_le
  have published := sound.published_le
  rw [sound.localTail, cached]
  constructor
  · intro same
    omega
  · rintro rfl
    rfl

theorem startRecv : Sound capacity ring.startRecv.2 := by
  obtain ⟨known, old, cached, read⟩ := sound.cachedHead
  have here : ring.received.length ≤ known := by omega
  have published := sound.received_le
  unfold Ring.startRecv
  split
  · rename_i empty
    have caught := (sound.empty_iff sized cached here old).mp empty
    have idle : ring.reading.toNat = 0 := by omega
    have again : Sound capacity { ring with cachedHead := ring.sharedHead } :=
      { sound with
        cachedHead := ⟨ring.published, Nat.le_refl _, sound.sharedHead, by
          dsimp only
          omega⟩ }
    dsimp only
    split
    · exact again
    · rename_i found
      have more := mt (again.empty_iff sized sound.sharedHead published (Nat.le_refl _)).mpr found
      exact { again with
        cachedHead := ⟨ring.published, Nat.le_refl _, sound.sharedHead,
          Nat.lt_of_le_of_ne published more⟩ }
  · rename_i found
    have more := mt (sound.empty_iff sized cached here old).mpr found
    exact { sound with cachedHead := ⟨known, old, cached, Nat.lt_of_le_of_ne here more⟩ }

theorem finishRecv : Sound capacity ring.finishRecv.2 := by
  unfold Ring.finishRecv
  split
  · rename_i reading
    obtain ⟨known, old, cached, read⟩ := sound.cachedHead
    have published := sound.published_le
    rw [reading, Bool.toNat_true] at read
    have slot : ring.localTail &&& ring.mask = ring.received.length % capacity := by
      rw [sound.localTail, sound.mask, sized.slot_eq]
    have inside : ring.received.length < ring.sent.length := by omega
    have next := List.getElem?_eq_getElem inside
    rw [slot, sound.placed _ _ (Nat.le_refl _) next]
    have more : (ring.received ++ [ring.sent[ring.received.length]]).length =
        ring.received.length + 1 := List.length_append
    have freed := sound.freed_le
    refine { sound with
      localTail := ?_
      received := prefix_snoc sound.received next
      freed_le := ?_
      received_le := ?_
      cachedHead := ⟨known, old, cached, ?_⟩
      placed := ?_ } <;> dsimp only
    · rw [more, sound.localTail, Nat.mod_add_mod]
    · omega
    · omega
    · rw [more, Bool.toNat_false]
      exact read
    · intro number other unread here
      exact sound.placed number other (by omega) here
  · exact sound

theorem finishRecv_none (result : ring.finishRecv = (none, ring)) : ring.reading = false := by
  cases reading : ring.reading with
  | false => rfl
  | true =>
    obtain ⟨known, old, cached, read⟩ := sound.cachedHead
    have published := sound.published_le
    rw [reading, Bool.toNat_true] at read
    have slot : ring.localTail &&& ring.mask = ring.received.length % capacity := by
      rw [sound.localTail, sound.mask, sized.slot_eq]
    have inside : ring.received.length < ring.sent.length := by omega
    rw [Ring.finishRecv, reading, if_pos rfl, slot,
      sound.placed _ _ (Nat.le_refl _) (List.getElem?_eq_getElem inside)] at result
    cases result

end

theorem release : Sound capacity ring.release := by
  obtain ⟨known, old, cached, near⟩ := sound.cachedTail
  have freed := sound.freed_le
  exact { sound with
    sharedTail := sound.localTail
    freed_le := Nat.le_refl _
    cachedTail := ⟨known, Nat.le_trans old freed, cached, near⟩ }

theorem refresh (idle : ring.reading = false) : Sound capacity ring.refresh :=
  { sound with
    cachedHead := ⟨ring.published, Nat.le_refl _, sound.sharedHead, by
      have published := sound.received_le
      change ring.received.length + ring.reading.toNat ≤ ring.published
      rw [idle, Bool.toNat_false]
      exact published⟩ }

end Sound

end Ring

end Lamport

end Locasta.Mempc
