import Locasta.Mlx5.Cqe
import Locasta.Data.Ring
import Locasta.Data.Run

namespace Locasta.Mlx5

open Data

/-! The completion queue of `cq.rs` and `mono_cq.rs`.

The device writes entries around a ring and marks each with an owner bit that flips at every turn.
An entry of the turn before, or the pattern that the ring is created with, does not match the turn
of the reader's index.
-/

structure CqState where
  buf : Memory
  cqeCnt : Nat
  cqeCntLog2 : Nat
  cqeSize : Nat
  ci : Nat
  pendingMiniCqes : Option MiniCqeIterator
  titleOpcode : CqeOpcode

def trailingZeros (value : Nat) : Nat :=
  ((List.range 32).find? fun bit => value.testBit bit).getD 32

def opOwnInvalid : UInt8 := 0xf1

def signatureInvalid : UInt8 := 0xff

/-- The 64 bytes that matter are the second half of an entry of 128. -/
def cqe64Offset (cqeSize : Nat) : Nat :=
  if cqeSize = 128 then 64 else 0

/-- The entries of a new queue look as if the device owned them. -/
def createCq (buf : Memory) (cqeCnt cqeSize : Nat) : CqState where
  buf := (List.range cqeCnt).foldl (fun buf index =>
    let cqe64Ptr := index * cqeSize + cqe64Offset cqeSize
    buf.write (cqe64Ptr + 63) [opOwnInvalid]) buf
  cqeCnt
  cqeCntLog2 := trailingZeros cqeCnt
  cqeSize
  ci := 0
  pendingMiniCqes := none
  titleOpcode := .req

def createMonoCq (buf : Memory) (cqeCnt cqeSize : Nat) : CqState where
  buf := (List.range cqeCnt).foldl (fun buf index =>
    let cqe64Ptr := index * cqeSize + cqe64Offset cqeSize
    (buf.write (cqe64Ptr + 62) [signatureInvalid]).write (cqe64Ptr + 63) [opOwnInvalid]) buf
  cqeCnt
  cqeCntLog2 := trailingZeros cqeCnt
  cqeSize
  ci := 0
  pendingMiniCqes := none
  titleOpcode := .req

namespace CqState

def cqe64Ptr (state : CqState) : Nat :=
  maskOffset state.ci state.cqeCnt * state.cqeSize + cqe64Offset state.cqeSize

def opOwn (state : CqState) : Nat := (state.buf (state.cqe64Ptr + 63)).toNat

def swOwner (state : CqState) : Nat := (state.ci >>> state.cqeCntLog2) &&& 1

def hwOwner (state : CqState) : Nat := state.opOwn &&& 1

def hasPendingCqe (state : CqState) : Bool :=
  state.pendingMiniCqes.isSome || state.swOwner == state.hwOwner

/-- The part of `try_next_cqe` behind the pending mini entries. -/
def nextFromRing (state : CqState) : Option Cqe × CqState :=
  if state.swOwner ≠ state.hwOwner then (none, state)
  else
    let opcodeRaw := state.opOwn >>> 4
    let advanced := { state with ci := (state.ci + 1) % 2 ^ 32 }
    if opcodeRaw = 0x0f then
      let iter := MiniCqeIterator.new state.buf state.cqe64Ptr state.titleOpcode
      match iter.nextMiniCqe state.buf with
      | (some cqe, iter) =>
        (some cqe, if iter.hasMore then { advanced with pendingMiniCqes := some iter } else advanced)
      | (none, _) => (none, advanced)
    else
      match CqeOpcode.fromU8 opcodeRaw with
      | none => (none, state)
      | some _ =>
        let cqe := Cqe.fromPtr state.buf state.cqe64Ptr
        (some cqe, { advanced with titleOpcode := cqe.opcode })

def tryNextCqe (state : CqState) : Option Cqe × CqState :=
  match state.pendingMiniCqes with
  | none => state.nextFromRing
  | some iter =>
    match iter.nextMiniCqe state.buf with
    | (some cqe, iter) =>
      (some cqe, { state with pendingMiniCqes := if iter.hasMore then some iter else none })
    | (none, _) => nextFromRing { state with pendingMiniCqes := none }

def tryNextCqeSimple (state : CqState) : Option Cqe × CqState :=
  if state.swOwner ≠ state.hwOwner ∨ state.opOwn >>> 4 = 0x0f then (none, state)
  else (some (Cqe.fromPtr state.buf state.cqe64Ptr), { state with ci := (state.ci + 1) % 2 ^ 32 })

end CqState

/-- The reader's state and what the device has written: the finished entries, and the one that it
is writing. -/
structure CqSession where
  cq : CqState
  written : List (List UInt8)
  writing : Option (List UInt8)
  returned : List Cqe

namespace CqSession

def new (cq : CqState) : CqSession where
  cq
  written := []
  writing := none
  returned := []

inductive Action where
  | start (cqe : List UInt8)
  | byte (index : Nat)
  | finish
  | poll

/-- The entry that is being written goes to the slot behind the finished ones. -/
def slotPtr (session : CqSession) : Nat :=
  session.written.length % session.cq.cqeCnt * session.cq.cqeSize

def store (session : CqSession) (offset : Nat) (bytes : List UInt8) : CqSession :=
  { session with
    cq := { session.cq with buf := session.cq.buf.write (session.slotPtr + offset) bytes } }

/-- The last byte holds the owner bit and comes when all others are there. -/
def step (next : CqState → Option Cqe × CqState) (session : CqSession) : Action → CqSession
  | .start cqe => { session with writing := some cqe }
  | .byte index =>
    match session.writing with
    | none => session
    | some cqe =>
      if index + 1 < session.cq.cqeSize then session.store index [cqe.getD index 0] else session
  | .finish =>
    match session.writing with
    | none => session
    | some cqe =>
      { session.store 0 cqe with written := session.written ++ [cqe], writing := none }
  | .poll =>
    match next session.cq with
    | (none, cq) => { session with cq }
    | (some cqe, cq) => { session with cq, returned := session.returned ++ [cqe] }

def opOwnOf (cqe : List UInt8) : Nat := (cqe.getD (cqe.length - 1) 0).toNat

/-- The `number`th entry, as the device writes it: not compressed, and marked with its turn. -/
structure Marked (cqeCnt cqeSize number : Nat) (cqe : List UInt8) : Prop where
  length : cqe.length = cqeSize
  owner : opOwnOf cqe &&& 1 = number / cqeCnt % 2
  opcode : (CqeOpcode.fromU8 (opOwnOf cqe >>> 4)).isSome

instance (cqeCnt cqeSize number : Nat) (cqe : List UInt8) :
    Decidable (Marked cqeCnt cqeSize number cqe) :=
  decidable_of_iff (cqe.length = cqeSize ∧ opOwnOf cqe &&& 1 = number / cqeCnt % 2 ∧
      (CqeOpcode.fromU8 (opOwnOf cqe >>> 4)).isSome)
    ⟨fun ⟨length, owner, opcode⟩ => ⟨length, owner, opcode⟩,
      fun ⟨length, owner, opcode⟩ => ⟨length, owner, opcode⟩⟩

/-- The device writes one entry after the other, and no more than the ring has room for. -/
def Obeys (session : CqSession) : Action → Prop
  | .start cqe =>
    session.writing = none ∧ session.written.length < session.returned.length + session.cq.cqeCnt ∧
      Marked session.cq.cqeCnt session.cq.cqeSize session.written.length cqe
  | _ => True

instance (session : CqSession) : (action : Action) → Decidable (session.Obeys action)
  | .start _ => inferInstanceAs (Decidable (_ ∧ _ ∧ _))
  | .byte _ | .finish | .poll => isTrue trivial

def parse (cqe : List UInt8) : Cqe := Cqe.fromPtr (Memory.ofList cqe) (cqe64Offset cqe.length)

end CqSession

/-- A reader takes the next entry when the owner bits agree. -/
structure Reads (next : CqState → Option Cqe × CqState) : Prop where
  waits : ∀ state : CqState, state.pendingMiniCqes = none → state.swOwner ≠ state.hwOwner →
    next state = (none, state)
  takes : ∀ state : CqState, state.pendingMiniCqes = none → state.swOwner = state.hwOwner →
    (CqeOpcode.fromU8 (state.opOwn >>> 4)).isSome →
    ∃ titleOpcode, next state = (some (Cqe.fromPtr state.buf state.cqe64Ptr),
      { state with ci := (state.ci + 1) % 2 ^ 32, titleOpcode })

theorem fromU8_compressed : CqeOpcode.fromU8 0x0f = none := rfl

theorem reads_tryNextCqe : Reads CqState.tryNextCqe where
  waits state idle different := by
    simp only [CqState.tryNextCqe, idle, CqState.nextFromRing, if_pos different]
  takes state idle same known := by
    obtain ⟨opcode, known⟩ := Option.isSome_iff_exists.mp known
    have plain : state.opOwn >>> 4 ≠ 0x0f := by
      intro compressed
      rw [compressed, fromU8_compressed] at known
      cases known
    refine ⟨(Cqe.fromPtr state.buf state.cqe64Ptr).opcode, ?_⟩
    simp only [CqState.tryNextCqe, idle, CqState.nextFromRing, same, ne_eq, not_true_eq_false,
      if_false, plain, known]

theorem reads_tryNextCqeSimple : Reads CqState.tryNextCqeSimple where
  waits state idle different := by
    simp only [CqState.tryNextCqeSimple, ne_eq, different, not_false_eq_true, true_or, if_true]
  takes state idle same known := by
    have plain : state.opOwn >>> 4 ≠ 0x0f := by
      intro compressed
      rw [compressed, fromU8_compressed] at known
      cases known
    refine ⟨state.titleOpcode, ?_⟩
    simp only [CqState.tryNextCqeSimple, same, ne_eq, not_true_eq_false, plain, or_self, if_false]

theorem trailingZeros_two_pow : ∀ exponent < 32, trailingZeros (2 ^ exponent) = exponent := by
  decide

theorem turn_eq {exponent : Nat} (small : exponent < 32) (number : Nat) :
    ((number % 2 ^ 32) >>> exponent) &&& 1 = number / 2 ^ exponent % 2 := by
  have split : 2 ^ 32 = 2 ^ exponent * 2 ^ (32 - exponent) := by
    rw [← Nat.pow_add, Nat.add_sub_cancel' (Nat.le_of_lt small)]
  have even : 2 ∣ 2 ^ (32 - exponent) := Dvd.dvd.pow (Nat.dvd_refl 2) (by omega)
  rw [Nat.shiftRight_eq_div_pow, Nat.and_one_is_mod, split, Nat.mod_mul_right_div_self,
    Nat.mod_mod_of_dvd _ even]

theorem opOwn_last {cqeSize : Nat} (size : cqeSize = 64 ∨ cqeSize = 128) :
    cqe64Offset cqeSize + 63 = cqeSize - 1 ∧ 64 ≤ cqeSize := by
  rcases size with rfl | rfl <;> decide

namespace CqSession

/-- The reader is `returned` entries into what was written; the rest is in the ring, and the slots
behind that carry the mark of the turn before. -/
structure Synced (slots size : Nat) (session : CqSession) : Prop where
  cqeCnt : session.cq.cqeCnt = slots
  cqeCntLog2 : session.cq.cqeCntLog2 = trailingZeros slots
  cqeSize : session.cq.cqeSize = size
  idle : session.cq.pendingMiniCqes = none
  ci : session.cq.ci = session.returned.length % 2 ^ 32
  order : session.returned.length ≤ session.written.length
  writing : ∀ cqe, session.writing = some cqe →
    session.written.length < session.returned.length + slots ∧
      Marked slots size session.written.length cqe
  marked : ∀ number cqe, session.written[number]? = some cqe → Marked slots size number cqe
  held : ∀ number cqe, session.returned.length ≤ number → session.written[number]? = some cqe →
    session.cq.buf.read (number % slots * size) size = cqe
  stale : ∀ number, session.written.length ≤ number → number < session.written.length + slots →
    (session.cq.buf (number % slots * size + (size - 1))).toNat &&& 1 = (number / slots + 1) % 2
  delivered : session.returned = (session.written.take session.returned.length).map parse

namespace Synced

variable {slots size : Nat} {session : CqSession}

section

variable (synced : Synced slots size session)
include synced

theorem store_buf (offset : Nat) (bytes : List UInt8) : (session.store offset bytes).cq.buf =
      session.cq.buf.write (session.written.length % slots * size + offset) bytes := by
  rw [store, slotPtr, synced.cqeCnt, synced.cqeSize]

theorem held_store {offset : Nat} {bytes : List UInt8}
    (free : session.written.length < session.returned.length + slots)
    (inside : offset + bytes.length ≤ size) {number : Nat} {cqe : List UInt8}
    (unread : session.returned.length ≤ number) (here : session.written[number]? = some cqe) :
    (session.store offset bytes).cq.buf.read (number % slots * size) size = cqe := by
  have before := (List.getElem?_eq_some_iff.mp here).1
  have different : number % slots ≠ session.written.length % slots :=
    mod_ne_mod_of_window before (by omega)
  have apart := slots_apart different size
  rw [synced.store_buf, Memory.read_write_disjoint (by omega)]
  exact synced.held number cqe unread here

theorem stale_store {offset : Nat} {bytes : List UInt8}
    (positive : 0 < size) (inside : offset + bytes.length ≤ size) {number : Nat}
    (behind : session.written.length < number) (near : number < session.written.length + slots) :
    ((session.store offset bytes).cq.buf (number % slots * size + (size - 1))).toNat &&& 1 =
      (number / slots + 1) % 2 := by
  have different : session.written.length % slots ≠ number % slots :=
    mod_ne_mod_of_window behind near
  have apart := slots_apart different size
  rw [synced.store_buf, Memory.write_outside (by omega)]
  exact synced.stale number (Nat.le_of_lt behind) near

theorem byte {cqe : List UInt8} {index : Nat} (value : UInt8)
    (started : session.writing = some cqe) (inner : index + 1 < size) :
    Synced slots size (session.store index [value]) := by
  obtain ⟨free, _⟩ := synced.writing cqe started
  have inside : index + [value].length ≤ size := Nat.le_of_lt inner
  refine { synced with
    held := fun number cqe unread here => synced.held_store free inside unread here
    stale := fun number behind near => ?_ }
  rcases Nat.lt_or_eq_of_le behind with later | same
  · exact synced.stale_store (by omega) inside later near
  · have mark := synced.stale number behind near
    change session.written.length = number at same
    rw [synced.store_buf, same, Memory.write_outside (by rw [List.length_singleton]; omega)]
    exact mark

end

variable {cqe : List UInt8}

theorem opOwn_read {buf : Memory} {start : Nat} (length : cqe.length = size)
    (positive : 0 < size) (here : buf.read start size = cqe) :
    (buf (start + (size - 1))).toNat = opOwnOf cqe := by
  have last : (buf.read start size)[size - 1]? = some (buf (start + (size - 1))) :=
    Memory.read_getElem? (by omega)
  rw [here] at last
  rw [opOwnOf, length, List.getD_eq_getElem?_getD, last]
  rfl

theorem finish (synced : Synced slots size session) (positive : 0 < size)
    (turns : 0 < slots) (started : session.writing = some cqe) :
    Synced slots size
      { session.store 0 cqe with written := session.written ++ [cqe], writing := none } := by
  obtain ⟨free, marked⟩ := synced.writing cqe started
  have inside : 0 + cqe.length ≤ size := by rw [Nat.zero_add, marked.length]
  have stored : (session.store 0 cqe).cq.buf.read (session.written.length % slots * size) size =
      cqe := by
    have same := Memory.read_write_same session.cq.buf (session.written.length % slots * size) cqe
    rw [marked.length] at same
    rw [synced.store_buf]
    exact same
  have found {number : Nat} {other : List UInt8}
      (here : (session.written ++ [cqe])[number]? = some other) :
      session.written[number]? = some other ∨ number = session.written.length ∧ other = cqe := by
    rcases Nat.lt_trichotomy number session.written.length with old | rfl | beyond
    · rw [List.getElem?_append_left old] at here
      exact .inl here
    · rw [List.getElem?_concat_length] at here
      exact .inr ⟨rfl, (Option.some.inj here).symm⟩
    · rw [List.getElem?_eq_none (by simp; omega)] at here
      cases here
  refine { synced with
    order := ?_
    writing := fun _ wrong => by cases wrong
    marked := ?_
    held := ?_
    stale := ?_
    delivered := ?_ }
  · rw [List.length_append]
    exact Nat.le_add_right_of_le synced.order
  · intro number other here
    rcases found here with old | ⟨rfl, rfl⟩
    · exact synced.marked number other old
    · exact marked
  · intro number other unread here
    rcases found here with old | ⟨rfl, rfl⟩
    · exact synced.held_store free inside unread old
    · exact stored
  · intro number behind near
    rw [List.length_append, List.length_singleton] at behind near
    have last : number ≤ session.written.length + slots := by omega
    rcases Nat.lt_or_eq_of_le last with other | rfl
    · exact synced.stale_store positive inside (by omega) (by omega)
    · have mark := marked.owner
      rw [← opOwn_read marked.length positive stored] at mark
      have turn : (session.written.length + slots) / slots = session.written.length / slots + 1 :=
        Nat.add_div_right _ turns
      rw [Nat.add_mod_right, turn]
      rw [mark]
      omega
  · change session.returned = ((session.written ++ [cqe]).take session.returned.length).map parse
    rw [List.take_append_of_le_length synced.order]
    exact synced.delivered

theorem parse_read {buf : Memory} {start : Nat}
    (sizes : size = 64 ∨ size = 128) (here : buf.read start size = cqe) :
    Cqe.fromPtr buf (start + cqe64Offset size) = parse cqe := by
  obtain ⟨last, roomy⟩ := opOwn_last sizes
  subst here
  rw [parse, Memory.read_length]
  refine Cqe.fromPtr_congr fun index short => ?_
  rw [Memory.ofList_read (by omega), Nat.add_assoc]

section Poll

variable {next : CqState → Option Cqe × CqState}

variable (synced : Synced slots size session)
include synced

section

variable (power : slots.isPowerOfTwo) (small : slots < 2 ^ 32)
include power small

theorem cqe64Ptr_eq :
    session.cq.cqe64Ptr = session.returned.length % slots * size + cqe64Offset size := by
  have divides : slots ∣ 2 ^ 32 := dvd_of_isPowerOfTwo_le power ⟨32, rfl⟩ (Nat.le_of_lt small)
  rw [CqState.cqe64Ptr, synced.cqeCnt, synced.cqeSize, synced.ci, maskOffset_eq_mod power,
    Nat.mod_mod_of_dvd _ divides]

theorem opOwn_eq (sizes : size = 64 ∨ size = 128) :
    session.cq.opOwn =
      (session.cq.buf (session.returned.length % slots * size + (size - 1))).toNat := by
  rw [CqState.opOwn, synced.cqe64Ptr_eq power small, Nat.add_assoc, (opOwn_last sizes).1]

theorem swOwner_eq : session.cq.swOwner = session.returned.length / slots % 2 := by
  obtain ⟨exponent, rfl⟩ := power
  have exponentSmall : exponent < 32 := (Nat.pow_lt_pow_iff_right (by decide)).mp small
  rw [CqState.swOwner, synced.ci, synced.cqeCntLog2, trailingZeros_two_pow _ exponentSmall,
    turn_eq exponentSmall]

end

variable (reads : Reads next) (power : slots.isPowerOfTwo) (small : slots < 2 ^ 32)
  (sizes : size = 64 ∨ size = 128)
include reads power small sizes

theorem poll_drained (drained : session.returned.length = session.written.length) :
    session.cq.swOwner ≠ session.cq.hwOwner ∧ next session.cq = (none, session.cq) := by
  have turns : 0 < slots := Nat.pos_of_isPowerOfTwo power
  have mark := synced.stale session.returned.length (by omega) (by omega)
  have differ : session.cq.swOwner ≠ session.cq.hwOwner := by
    rw [synced.swOwner_eq power small, CqState.hwOwner, synced.opOwn_eq power small sizes, mark]
    omega
  exact ⟨differ, reads.waits session.cq synced.idle differ⟩

theorem poll_unread {cqe : List UInt8} (here : session.written[session.returned.length]? = some cqe) :
    session.cq.swOwner = session.cq.hwOwner ∧ ∃ cq, next session.cq = (some (parse cqe), cq) ∧
      Synced slots size { session with cq, returned := session.returned ++ [parse cqe] } := by
  have roomy := (opOwn_last sizes).2
  have unread := (List.getElem?_eq_some_iff.mp here).1
  have marked := synced.marked _ _ here
  have held := synced.held _ _ (Nat.le_refl _) here
  have opOwn : session.cq.opOwn = opOwnOf cqe :=
    (synced.opOwn_eq power small sizes).trans (opOwn_read marked.length (by omega) held)
  have agree : session.cq.swOwner = session.cq.hwOwner := by
    rw [synced.swOwner_eq power small, CqState.hwOwner, opOwn, marked.owner]
  obtain ⟨titleOpcode, taken⟩ := reads.takes session.cq synced.idle agree
    (by rw [opOwn]; exact marked.opcode)
  rw [synced.cqe64Ptr_eq power small, parse_read sizes held] at taken
  refine ⟨agree, _, taken, ?_⟩
  refine { synced with
    ci := ?_
    order := ?_
    writing := ?_
    held := ?_
    delivered := ?_ }
  · rw [synced.ci, List.length_append, Nat.mod_add_mod]
    rfl
  · rw [List.length_append]
    exact unread
  · intro other started
    obtain ⟨free, mark⟩ := synced.writing other started
    refine ⟨?_, mark⟩
    change session.written.length < (session.returned ++ [parse cqe]).length + slots
    rw [List.length_append]
    omega
  · intro number other later there
    rw [List.length_append, List.length_singleton] at later
    exact synced.held number other (by omega) there
  · rw [List.length_append, List.length_singleton, List.take_add_one, here, List.map_append,
      ← synced.delivered]
    rfl

end Poll

/-- Each step keeps the reader at the oldest entry that it has not returned. -/
theorem step (synced : Synced slots size session) {next : CqState → Option Cqe × CqState}
    (reads : Reads next) (power : slots.isPowerOfTwo) (small : slots < 2 ^ 32)
    (sizes : size = 64 ∨ size = 128) {action : Action} (obeys : session.Obeys action) :
    Synced slots size (session.step next action) := by
  have positive : 0 < size := Nat.lt_of_lt_of_le (by decide) (opOwn_last sizes).2
  cases action with
  | start cqe =>
    obtain ⟨_, free, marked⟩ := obeys
    rw [synced.cqeCnt] at free
    rw [synced.cqeCnt, synced.cqeSize] at marked
    refine { synced with writing := ?_ }
    intro other started
    cases started
    exact ⟨free, marked⟩
  | byte index =>
    cases started : session.writing with
    | none =>
      simp only [CqSession.step, started]
      exact synced
    | some cqe =>
      simp only [CqSession.step, started]
      split
      · rename_i inner
        rw [synced.cqeSize] at inner
        exact synced.byte _ started inner
      · exact synced
  | finish =>
    cases started : session.writing with
    | none =>
      simp only [CqSession.step, started]
      exact synced
    | some cqe =>
      simp only [CqSession.step, started]
      exact synced.finish positive (Nat.pos_of_isPowerOfTwo power) started
  | poll =>
    rcases Nat.lt_or_eq_of_le synced.order with unread | drained
    · obtain ⟨_, cq, taken, later⟩ :=
        synced.poll_unread reads power small sizes (List.getElem?_eq_getElem unread)
      simp only [CqSession.step, taken]
      exact later
    · simp only [CqSession.step, (synced.poll_drained reads power small sizes drained).2]
      exact synced

end Synced

theorem marks_foldl {size : Nat} {mark : Memory → Nat → Memory}
    (sets : ∀ buf index, mark buf index (index * size + (size - 1)) = opOwnInvalid)
    (frames : ∀ buf index address, address < index * size → mark buf index address = buf address)
    (positive : 0 < size) (buf : Memory) (count : Nat) :
    ∀ index < count, (List.range count).foldl mark buf (index * size + (size - 1)) =
      opOwnInvalid := by
  induction count with
  | zero => intro index inside; omega
  | succ count ih =>
    intro index inside
    rw [List.range_succ, List.foldl_append]
    change mark _ count _ = _
    rcases Nat.lt_succ_iff_lt_or_eq.mp inside with earlier | rfl
    · have order : index * size + size ≤ count * size := by
        rw [← Nat.succ_mul]
        exact Nat.mul_le_mul_right _ earlier
      rw [frames _ _ _ (by omega)]
      exact ih index earlier
    · exact sets ..

structure Created (slots size : Nat) (cq : CqState) : Prop where
  cqeCnt : cq.cqeCnt = slots
  cqeCntLog2 : cq.cqeCntLog2 = trailingZeros slots
  cqeSize : cq.cqeSize = size
  ci : cq.ci = 0
  idle : cq.pendingMiniCqes = none
  marks : ∀ index < slots, cq.buf (index * size + (size - 1)) = opOwnInvalid

variable {slots size : Nat} {buf : Memory} {cq : CqState}

theorem created_createCq (sizes : size = 64 ∨ size = 128) :
    Created slots size (createCq buf slots size) := by
  obtain ⟨last, roomy⟩ := opOwn_last sizes
  refine ⟨rfl, rfl, rfl, rfl, rfl, marks_foldl ?_ ?_ (by omega) buf slots⟩
  · intro buf index
    simp [Nat.add_assoc, last, Memory.write]
  · intro buf index address before
    exact Memory.write_outside (.inl (by omega))

theorem created_createMonoCq (sizes : size = 64 ∨ size = 128) :
    Created slots size (createMonoCq buf slots size) := by
  obtain ⟨last, roomy⟩ := opOwn_last sizes
  refine ⟨rfl, rfl, rfl, rfl, rfl, marks_foldl ?_ ?_ (by omega) buf slots⟩
  · intro buf index
    simp [Nat.add_assoc, last, Memory.write]
  · intro buf index address before
    exact (Memory.write_outside (.inl (by omega))).trans (Memory.write_outside (.inl (by omega)))

theorem Synced.new (created : Created slots size cq) : Synced slots size (new cq) where
  cqeCnt := created.cqeCnt
  cqeCntLog2 := created.cqeCntLog2
  cqeSize := created.cqeSize
  idle := created.idle
  ci := created.ci
  order := Nat.le_refl _
  writing _ started := by cases started
  marked _ _ here := by simp [CqSession.new] at here
  held _ _ _ here := by simp [CqSession.new] at here
  stale number _ near := by
    have inside : number < slots := by simpa [CqSession.new] using near
    have mark := created.marks number inside
    rw [Nat.mod_eq_of_lt inside, Nat.div_eq_of_lt inside]
    change (cq.buf _).toNat &&& 1 = _
    rw [mark]
    rfl
  delivered := rfl

/-- Both readers return the entries in their order, each once, and never one that is not finished.
`has_pending_cqe` tells whether there is one. -/
theorem owner_bit_protocol (slots size : Nat) (buf : Memory) (power : slots.isPowerOfTwo)
    (small : slots < 2 ^ 32) (sizes : size = 64 ∨ size = 128)
    (created : cq = createCq buf slots size ∨ cq = createMonoCq buf slots size)
    {next : CqState → Option Cqe × CqState}
    (reader : next = CqState.tryNextCqe ∨ next = CqState.tryNextCqeSimple) {actions : List Action}
    (obeys : Along (step next) Obeys (new cq) actions) :
    let session := run (step next) (new cq) actions
    session.returned = (session.written.take session.returned.length).map parse ∧
      session.returned.length ≤ session.written.length ∧
      (next session.cq).1 = session.written[session.returned.length]?.map parse ∧
      session.cq.hasPendingCqe = session.cq.tryNextCqe.1.isSome := by
  intro session
  have reads : Reads next := by
    rcases reader with rfl | rfl
    · exact reads_tryNextCqe
    · exact reads_tryNextCqeSimple
  have fresh : Created slots size cq := by
    rcases created with rfl | rfl
    · exact created_createCq sizes
    · exact created_createMonoCq sizes
  have synced : Synced slots size session :=
    run_invariant (fun _ _ synced obeys => synced.step reads power small sizes obeys) (.new fresh)
      obeys
  refine ⟨synced.delivered, synced.order, ?_⟩
  rcases Nat.lt_or_eq_of_le synced.order with unread | drained
  · have here := List.getElem?_eq_getElem unread
    obtain ⟨agree, _, taken, _⟩ := synced.poll_unread reads power small sizes here
    obtain ⟨_, _, peeked, _⟩ := synced.poll_unread reads_tryNextCqe power small sizes here
    rw [taken, here, peeked]
    exact ⟨rfl, by simp [CqState.hasPendingCqe, agree]⟩
  · obtain ⟨differ, waited⟩ := synced.poll_drained reads power small sizes drained
    have peeked := (synced.poll_drained reads_tryNextCqe power small sizes drained).2
    rw [waited, peeked, List.getElem?_eq_none (Nat.le_of_eq drained.symm)]
    exact ⟨rfl, by simp [CqState.hasPendingCqe, synced.idle, differ]⟩

def receiveCqe (counter owner : UInt8) : List UInt8 :=
  List.replicate 61 0 ++ [counter, 0, 0x10 ||| owner]

/-- A ring of two entries, once around. -/
def oneTurn : List Action :=
  [.start (receiveCqe 1 0), .byte 61, .poll, .finish, .poll, .start (receiveCqe 2 0), .finish,
    .start (receiveCqe 3 1), .byte 61, .finish, .poll, .poll]

theorem owner_bit_protocol_oneTurn :
    let session := run (step CqState.tryNextCqe) (new (createCq (fun _ => 0) 2 64)) oneTurn
    session.returned.map Cqe.wqeCounter = [1, 2, 3] ∧
      session.returned = (session.written.take session.returned.length).map parse ∧
      session.cq.hasPendingCqe = session.cq.tryNextCqe.1.isSome := by
  intro session
  have obeys : Along (step CqState.tryNextCqe) Obeys (new (createCq (fun _ => 0) 2 64)) oneTurn := by
    decide +kernel
  have exact := owner_bit_protocol 2 64 (fun _ => 0) ⟨1, rfl⟩ (by decide) (.inl rfl) (.inl rfl)
    (.inl rfl) obeys
  exact ⟨by decide +kernel, exact.1, exact.2.2.2⟩

end CqSession

end Locasta.Mlx5
