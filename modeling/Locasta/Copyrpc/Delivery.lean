import Locasta.Copyrpc.Base
import Locasta.Copyrpc.Encoding

namespace Locasta.Copyrpc

open Data

/-! The message loop of `process_cqe_static`. The two transports run the same
loop over different message headers. -/

structure Wire (Header Request : Type) where
  framing : Framing Header
  callId : Header → UInt32
  request : Header → Nat → Nat → Request
  headerSize_pos : 0 < framing.headerSize
  aligned : ∀ length, alignment ∣ framing.padded length

/-- What one message of a received batch leads to. -/
inductive Event (Request U : Type) where
  | request (message : Request)
  | response (userData : U) (data : List UInt8)
  | unmatched

variable {Header Request U : Type} (wire : Wire Header Request)

/-- The new `lastRecvPos`, the calls still pending, and one event for each message. -/
def processMessages (ring : Memory) (ringLen : Nat) :
    Nat → Nat → Slab U → Nat × Slab U × List (Event Request U)
  | 0, pos, pending => (pos, pending, [])
  | count + 1, pos, pending =>
    let headerOffset := maskOffset pos ringLen
    let message := wire.framing.readFrame ring headerOffset
    let dataOffset := headerOffset + wire.framing.headerSize
    let newPos := pos + wire.framing.frameSize message
    let callId := wire.callId message.header
    if isResponse callId then
      let removed := pending.tryRemove (fromResponseId callId).toNat
      let rest := processMessages ring ringLen count newPos removed.2
      match removed.1 with
      | some userData => (rest.1, rest.2.1, .response userData message.payload :: rest.2.2)
      | none => (rest.1, rest.2.1, .unmatched :: rest.2.2)
    else
      let rest := processMessages ring ringLen count newPos pending
      let request := wire.request message.header dataOffset message.payload.length
      (rest.1, rest.2.1, .request request :: rest.2.2)

/-- The loop over messages that are already known, the first of them at `pos`. -/
def deliver (ringLen : Nat) : List (Frame Header) → Nat → Slab U → Slab U × List (Event Request U)
  | [], _, pending => (pending, [])
  | message :: rest, pos, pending =>
    let newPos := pos + wire.framing.frameSize message
    let callId := wire.callId message.header
    if isResponse callId then
      let removed := pending.tryRemove (fromResponseId callId).toNat
      let after := deliver ringLen rest newPos removed.2
      match removed.1 with
      | some userData => (after.1, .response userData message.payload :: after.2)
      | none => (after.1, .unmatched :: after.2)
    else
      let after := deliver ringLen rest newPos pending
      let request := wire.request message.header (pos % ringLen + wire.framing.headerSize)
        message.payload.length
      (after.1, .request request :: after.2)

variable {wire}

theorem frameSize_pos (message : Frame Header) : 0 < wire.framing.frameSize message := by
  have header := wire.headerSize_pos
  have size := wire.framing.frameSize_ge message
  omega

theorem Wire.totalSize_dvd (wire : Wire Header Request) (messages : List (Frame Header)) :
    alignment ∣ wire.framing.totalSize messages := by
  induction messages with
  | nil => simp
  | cons message rest ih =>
    rw [Framing.totalSize_cons]
    exact Nat.dvd_add (wire.aligned _) ih

theorem Wire.alignment_mul_length_le (wire : Wire Header Request) (messages : List (Frame Header)) :
    alignment * messages.length ≤ wire.framing.totalSize messages := by
  induction messages with
  | nil => simp
  | cons message rest ih =>
    have first : alignment ≤ wire.framing.frameSize message :=
      Nat.le_of_dvd (frameSize_pos message) (wire.aligned _)
    rw [Framing.totalSize_cons, List.length_cons, Nat.mul_add]
    omega

theorem le_processMessages (ring : Memory) (size count pos : Nat) (pending : Slab U) :
    pos ≤ (processMessages wire ring size count pos pending).1 := by
  induction count generalizing pos pending with
  | zero => exact Nat.le_refl _
  | succ count ih =>
    simp only [processMessages]
    split
    · split <;> exact (Nat.le_add_right ..).trans (ih ..)
    · exact (Nat.le_add_right ..).trans (ih ..)

theorem processMessages_eq_deliver (wire : Wire Header Request) (ring : Memory) {size : Nat}
    (power : size.isPowerOfTwo) (count pos : Nat) (pending : Slab U)
    (inside : pos % size +
      wire.framing.totalSize (wire.framing.readFrames ring (pos % size) count) ≤ size) :
    processMessages wire ring size count pos pending =
      (pos + wire.framing.totalSize (wire.framing.readFrames ring (pos % size) count),
        deliver wire size (wire.framing.readFrames ring (pos % size) count) pos pending) := by
  induction count generalizing pos pending with
  | zero => rfl
  | succ count ih =>
    simp only [Framing.readFrames, Framing.totalSize_cons] at inside ⊢
    have next : wire.framing.readFrames ring
          ((pos + wire.framing.frameSize (wire.framing.readFrame ring (pos % size))) % size) count =
        wire.framing.readFrames ring
          (pos % size + wire.framing.frameSize (wire.framing.readFrame ring (pos % size))) count := by
      cases count with
      | zero => rfl
      | succ count =>
        rw [mod_add_of_lt]
        simp only [Framing.readFrames, Framing.totalSize_cons] at inside
        have second : 0 < wire.framing.frameSize (wire.framing.readFrame ring
            (pos % size + wire.framing.frameSize (wire.framing.readFrame ring (pos % size)))) :=
          frameSize_pos _
        omega
    have rest (pending : Slab U) : processMessages wire ring size count
          (pos + wire.framing.frameSize (wire.framing.readFrame ring (pos % size))) pending =
        (pos + (wire.framing.frameSize (wire.framing.readFrame ring (pos % size)) +
            wire.framing.totalSize (wire.framing.readFrames ring
              (pos % size + wire.framing.frameSize (wire.framing.readFrame ring (pos % size)))
              count)),
          deliver wire size (wire.framing.readFrames ring
            (pos % size + wire.framing.frameSize (wire.framing.readFrame ring (pos % size))) count)
            (pos + wire.framing.frameSize (wire.framing.readFrame ring (pos % size))) pending) := by
      have offset : (pos + wire.framing.frameSize (wire.framing.readFrame ring (pos % size))) % size ≤
          pos % size + wire.framing.frameSize (wire.framing.readFrame ring (pos % size)) := by
        rw [Nat.add_mod]
        exact (Nat.mod_le ..).trans (Nat.add_le_add_left (Nat.mod_le ..) _)
      rw [ih _ pending (by rw [next]; omega), next, Nat.add_assoc]
    simp only [processMessages, deliver, maskOffset_eq_mod power, rest]
    split
    · split <;> rfl
    · rfl

theorem deliver_length (size : Nat) (messages : List (Frame Header)) (pos : Nat)
    (pending : Slab U) : (deliver wire size messages pos pending).2.length = messages.length := by
  induction messages generalizing pos pending with
  | nil => rfl
  | cons message rest ih =>
    simp only [deliver]
    split
    · split <;> simp [ih]
    · simp [ih]

theorem deliver_request {size index pos : Nat} {messages : List (Frame Header)} {pending : Slab U}
    {request : Request}
    (event : (deliver wire size messages pos pending).2[index]? = some (.request request)) :
    ∃ message, messages[index]? = some message ∧ isResponse (wire.callId message.header) = false ∧
      request = wire.request message.header
        ((pos + wire.framing.totalSize (messages.take index)) % size + wire.framing.headerSize)
        message.payload.length := by
  induction messages generalizing index pos pending with
  | nil => simp [deliver] at event
  | cons message rest ih =>
    cases index with
    | zero =>
      simp only [deliver] at event
      split at event
      · split at event <;> simp at event
      · rename_i isRequest
        simp only [List.getElem?_cons_zero, Option.some.injEq, Event.request.injEq] at event
        exact ⟨message, rfl, by simpa using isRequest, by simpa using event.symm⟩
    | succ index =>
      have later : ∃ pending : Slab U, (deliver wire size rest (pos + wire.framing.frameSize message)
          pending).2[index]? = some (.request request) := by
        simp only [deliver] at event
        split at event
        · split at event <;> exact ⟨_, by simpa using event⟩
        · exact ⟨_, by simpa using event⟩
      obtain ⟨pending, event⟩ := later
      obtain ⟨found, here, isRequest, shape⟩ := ih event
      refine ⟨found, by simpa using here, isRequest, ?_⟩
      rw [shape, List.take_succ_cons, Framing.totalSize_cons, Nat.add_assoc]

end Locasta.Copyrpc
