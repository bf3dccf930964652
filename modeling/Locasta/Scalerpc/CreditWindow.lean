import Locasta.Data.Run
import Mathlib.Data.List.Basic
import Mathlib.Logic.Function.Basic

namespace Locasta.Scalerpc

open Data Function

/-! The credit window of one connection that owns all slots of the server pool.

The client writes request `seq` to slot `seq % window`. `poll_request` reads the slot that it expects
the next request in, and if that is empty all the others, one after the other; RDMA WRITEs land in
between.

`call_direct` puts the request in the next of its local send slots and posts a WRITE from there. The
doorbell is rung by the client's `poll`, and only then does the device read the send slot.
-/

inductive PollPoint where
  | outside
  /-- before the read of the expected slot -/
  | expected
  /-- before the reads of these slots -/
  | scan (positions : List Nat)
deriving DecidableEq

/-- A posted WRITE from a send slot of the client to a slot of the server. -/
structure SlotWrite where
  sendSlot : Nat
  position : Nat
deriving DecidableEq

/-- The connection at both its ends. -/
structure CreditWindow where
  window : Nat
  /-- How many send slots `add_connection` has allocated. -/
  numSendSlots : Nat
  nextSlotSeq : Nat
  lastAckedSeq : Nat
  directSendSlotIndex : Nat
  /-- The request in each send slot. -/
  sendSlots : Nat → Nat
  /-- The WRITEs whose send slot the device has not read. -/
  unread : List SlotWrite
  /-- How many of them the doorbell covers. -/
  rung : Nat
  /-- The requests that were read and have not landed, with their slots at the server. -/
  inFlight : List (Nat × Nat)
  /-- The pool, with the sequence numbers of the valid requests. -/
  slots : Nat → Option Nat
  point : PollPoint
  nextExpectedSlot : Nat
  lastProcessedSeq : Nat
  /-- The acknowledgements in responses that were sent. -/
  acks : List Nat
  /-- Auxiliary: what `poll_request` returned. -/
  returned : List Nat

namespace CreditWindow

def new (window numSendSlots : Nat) : CreditWindow where
  window
  numSendSlots
  nextSlotSeq := 0
  lastAckedSeq := 0
  directSendSlotIndex := 0
  sendSlots _ := 0
  unread := []
  rung := 0
  inFlight := []
  slots _ := none
  point := .outside
  nextExpectedSlot := 0
  lastProcessedSeq := 0
  acks := []
  returned := []

inductive Action where
  | callDirect
  /-- `RpcClient::poll` rings the doorbell. -/
  | ring
  /-- The device reads the send slot of the next WRITE. -/
  | fetch
  | land
  /-- The server enters `poll_request`. -/
  | poll
  | readSlot
  | sendResponse (seq : Nat)
  | pollPending (acked : Nat)

def HasCredits (system : CreditWindow) : Prop :=
  ¬ system.nextSlotSeq - system.lastAckedSeq ≥ system.window

instance (system : CreditWindow) : Decidable system.HasCredits := inferInstanceAs (Decidable (¬ _))

def target (system : CreditWindow) : Nat := system.nextSlotSeq % system.window

/-- The send slot of the next call. -/
def sendSlot (system : CreditWindow) : Nat := system.directSendSlotIndex % system.numSendSlots

def take (system : CreditWindow) (position seq : Nat) : CreditWindow :=
  { system with
    slots := update system.slots position none
    nextExpectedSlot := (position + 1) % system.window
    point := .outside
    returned := system.returned ++ [seq] }

def next (system : CreditWindow) : Action → CreditWindow
  | .callDirect =>
    if system.HasCredits then
      { system with
        nextSlotSeq := system.nextSlotSeq + 1
        directSendSlotIndex := system.sendSlot + 1
        sendSlots := update system.sendSlots system.sendSlot system.nextSlotSeq
        unread := system.unread ++ [⟨system.sendSlot, system.target⟩] }
    else system
  | .ring => { system with rung := system.unread.length }
  | .fetch =>
    match system.rung, system.unread with
    | rung + 1, write :: rest =>
      { system with
        rung
        unread := rest
        inFlight := system.inFlight ++ [(system.sendSlots write.sendSlot, write.position)] }
    | _, _ => system
  | .land =>
    match system.inFlight with
    | [] => system
    | (seq, position) :: rest =>
      { system with
        inFlight := rest
        slots := update system.slots position (some seq) }
  | .poll => if system.point = .outside then { system with point := .expected } else system
  | .readSlot =>
    match system.point with
    | .outside => system
    | .expected =>
      let slotPos := system.nextExpectedSlot % system.window
      match system.slots slotPos with
      | some seq => system.take slotPos seq
      | none =>
        { system with point := .scan ((List.range system.window).filter (· ≠ slotPos)) }
    | .scan [] => { system with point := .outside }
    | .scan (position :: rest) =>
      match system.slots position with
      | some seq => system.take position seq
      | none => { system with point := .scan rest }
  | .sendResponse seq =>
    if seq ∈ system.returned then
      let lastProcessedSeq := max system.lastProcessedSeq seq
      { system with lastProcessedSeq, acks := system.acks ++ [lastProcessedSeq] }
    else system
  | .pollPending acked =>
    if acked ∈ system.acks then
      { system with lastAckedSeq := max system.lastAckedSeq acked }
    else system

/-- The reads of the other slots find nothing. -/
def InSync (system : CreditWindow) : Action → Prop
  | .readSlot =>
    match system.point with
    | .scan (position :: _) => system.slots position = none
    | _ => True
  | _ => True

instance (system : CreditWindow) (action : Action) : Decidable (InSync system action) := by
  unfold InSync
  repeat' split
  all_goals infer_instance

/-- No WRITE is unread in the send slot of an allowed call. -/
def SlotFree (system : CreditWindow) : Action → Prop
  | .callDirect => system.HasCredits → ∀ write ∈ system.unread, write.sendSlot ≠ system.sendSlot
  | _ => True

instance (system : CreditWindow) (action : Action) : Decidable (SlotFree system action) := by
  unfold SlotFree
  split <;> infer_instance

/-- A window no larger than the ring of send slots keeps the calls from it. -/
def Careful (system : CreditWindow) (action : Action) : Prop :=
  InSync system action ∧ (system.window ≤ system.numSendSlots ∨ SlotFree system action)

instance (system : CreditWindow) (action : Action) : Decidable (Careful system action) :=
  inferInstanceAs (Decidable (_ ∧ _))

/-- The requests are returned in order, and those that were not are where they belong. -/
structure InOrder (system : CreditWindow) (done landed fetched : Nat) : Prop where
  positive : 0 < system.window
  returned : system.returned = List.range done
  flying : system.inFlight =
    (List.range' landed (fetched - landed)).map fun seq => (seq, seq % system.window)
  unread : system.unread = (List.range' fetched (system.nextSlotSeq - fetched)).map fun seq =>
    ⟨seq % system.numSendSlots, seq % system.window⟩
  sendSlots : ∀ seq, fetched ≤ seq → seq < system.nextSlotSeq →
    system.sendSlots (seq % system.numSendSlots) = seq
  sendSlot : system.sendSlot = system.nextSlotSeq % system.numSendSlots
  arrived : done ≤ landed ∧ landed ≤ fetched ∧ fetched ≤ system.nextSlotSeq
  window : system.nextSlotSeq ≤ done + system.window
  slots : ∀ position seq, system.slots position = some seq ↔
    done ≤ seq ∧ seq < landed ∧ seq % system.window = position
  expected : system.nextExpectedSlot = done % system.window
  acked : system.lastAckedSeq = 0 ∨ system.lastAckedSeq < done
  processed : system.lastProcessedSeq = 0 ∨ system.lastProcessedSeq < done
  acks : ∀ acked ∈ system.acks, acked = 0 ∨ acked < done

namespace InOrder

variable {system : CreditWindow} {done landed fetched : Nat}

theorem same_slot (window low : Nat) {first second : Nat} (one : low ≤ first ∧ first < low + window)
    (two : low ≤ second ∧ second < low + window) (same : first % window = second % window) :
    first = second := by
  rcases Nat.le_total first second with less | more
  · have zero := Nat.sub_mod_eq_zero_of_mod_eq same.symm
    rw [Nat.mod_eq_of_lt (by omega)] at zero
    omega
  · have zero := Nat.sub_mod_eq_zero_of_mod_eq same
    rw [Nat.mod_eq_of_lt (by omega)] at zero
    omega

variable (inOrder : InOrder system done landed fetched)
include inOrder

theorem slotFree (roomy : system.window ≤ system.numSendSlots) : SlotFree system .callDirect := by
  intro credits write member same
  have acked := inOrder.acked
  have arrived := inOrder.arrived
  have positive := inOrder.positive
  unfold HasCredits at credits
  rw [inOrder.unread, List.mem_map] at member
  obtain ⟨seq, sent, rfl⟩ := member
  rw [List.mem_range'_1] at sent
  have equal : seq = system.nextSlotSeq := same_slot system.numSendSlots seq
    ⟨Nat.le_refl _, by omega⟩ ⟨by omega, by omega⟩ (same.trans inOrder.sendSlot)
  omega

theorem callDirect (free : SlotFree system .callDirect) :
    InOrder (system.next .callDirect) done landed fetched := by
  unfold CreditWindow.next
  dsimp only
  split
  · rename_i credits
    have bound := inOrder.arrived
    have acked := inOrder.acked
    have room := inOrder.window
    have positive := inOrder.positive
    have free := free credits
    unfold HasCredits at credits
    exact { inOrder with
      unread := by
        rw [inOrder.unread, inOrder.sendSlot, target, Nat.succ_sub bound.2.2, List.range'_concat,
          List.map_append, Nat.one_mul, Nat.add_sub_cancel' bound.2.2, List.map_singleton]
      sendSlots := by
        intro seq low high
        rcases Nat.lt_succ_iff_lt_or_eq.mp high with early | rfl
        · have apart : seq % system.numSendSlots ≠ system.sendSlot := by
            refine free ⟨_, seq % system.window⟩ ?_
            rw [inOrder.unread]
            exact List.mem_map.mpr ⟨seq, List.mem_range'_1.mpr (by omega), rfl⟩
          exact (update_of_ne apart _ _).trans (inOrder.sendSlots seq low early)
        · rw [← inOrder.sendSlot]
          exact update_self _ _ _
      sendSlot := by
        change (system.sendSlot + 1) % system.numSendSlots = _
        rw [inOrder.sendSlot, Nat.mod_add_mod]
      arrived := ⟨bound.1, bound.2.1, Nat.le_succ_of_le bound.2.2⟩
      window := by
        change system.nextSlotSeq + 1 ≤ done + system.window
        omega }
  · exact inOrder

theorem fetch_one (more : fetched < system.nextSlotSeq) (rung : 0 < system.rung) :
    InOrder (system.next .fetch) done landed (fetched + 1) ∧
      (system.next .fetch).rung = system.rung - 1 := by
  have bound := inOrder.arrived
  obtain ⟨left, count⟩ := Nat.exists_eq_add_of_lt more
  obtain ⟨covered, positive⟩ := Nat.exists_eq_add_of_lt rung
  have waiting := inOrder.unread
  rw [count, Nat.add_assoc, Nat.add_sub_cancel_left, List.range'_succ, List.map_cons] at waiting
  unfold CreditWindow.next
  rw [waiting, positive]
  dsimp only
  refine ⟨{ inOrder with
    flying := ?_
    unread := ?_
    sendSlots := fun seq low high => inOrder.sendSlots seq (Nat.le_of_succ_le low) high
    arrived := ⟨bound.1, Nat.le_succ_of_le bound.2.1, more⟩ }, by omega⟩
  · rw [inOrder.flying, inOrder.sendSlots fetched (Nat.le_refl _) more, Nat.succ_sub bound.2.1,
      List.range'_concat, List.map_append, Nat.one_mul, Nat.add_sub_cancel' bound.2.1,
      List.map_singleton]
  · dsimp only
    rw [show system.nextSlotSeq - (fetched + 1) = left by omega]

theorem fetch : ∃ fetched', InOrder (system.next .fetch) done landed fetched' := by
  by_cases ready : fetched < system.nextSlotSeq ∧ 0 < system.rung
  · exact ⟨fetched + 1, (inOrder.fetch_one ready.1 ready.2).1⟩
  · have same : system.next .fetch = system := by
      unfold CreditWindow.next
      dsimp only
      split
      · rename_i rung write rest covered waiting
        have nonempty := congrArg List.length (inOrder.unread.symm.trans waiting)
        simp at nonempty
        omega
      · rfl
    exact ⟨fetched, same.symm ▸ inOrder⟩

theorem land_one (more : landed < fetched) :
    InOrder (system.next .land) done (landed + 1) fetched := by
  have bound := inOrder.arrived
  have room := inOrder.window
  obtain ⟨left, rfl⟩ := Nat.exists_eq_add_of_lt more
  have waiting := inOrder.flying
  rw [Nat.add_assoc, Nat.add_sub_cancel_left, List.range'_succ, List.map_cons] at waiting
  unfold CreditWindow.next
  rw [waiting]
  refine { inOrder with
    flying := by
      rw [show landed + left + 1 - (landed + 1) = left by omega]
    arrived := ⟨Nat.le_succ_of_le bound.1, more, bound.2.2⟩
    slots := ?_ }
  · intro position seq
    dsimp only
    by_cases here : position = landed % system.window
    · subst here
      rw [update_self]
      constructor
      · rintro ⟨⟩
        exact ⟨bound.1, Nat.lt_succ_self _, rfl⟩
      · rintro ⟨low, high, same⟩
        rw [same_slot system.window done ⟨low, by omega⟩ ⟨bound.1, by omega⟩ same]
    · rw [update_of_ne here, inOrder.slots position]
      constructor
      · rintro ⟨low, high, same⟩
        exact ⟨low, by omega, same⟩
      · rintro ⟨low, high, same⟩
        refine ⟨low, ?_, same⟩
        rcases Nat.lt_or_eq_of_le (Nat.le_of_lt_succ high) with early | late
        · exact early
        · subst late
          exact absurd same.symm here

theorem land : ∃ landed', InOrder (system.next .land) done landed' fetched := by
  rcases Nat.lt_or_ge landed fetched with more | none_left
  · exact ⟨landed + 1, inOrder.land_one more⟩
  · have nothing : system.inFlight = [] := by
      rw [inOrder.flying, Nat.sub_eq_zero_of_le none_left]
      rfl
    have same : system.next .land = system := by
      unfold CreditWindow.next
      rw [nothing]
    rw [same]
    exact ⟨landed, inOrder⟩

theorem take {seq : Nat} (found : system.slots (done % system.window) = some seq) :
    seq = done ∧ InOrder (system.take (done % system.window) seq) (done + 1) landed fetched := by
  have positive := inOrder.positive
  have bound := inOrder.arrived
  have room := inOrder.window
  obtain ⟨low, high, same⟩ := (inOrder.slots _ seq).mp found
  have first : seq = done :=
    same_slot system.window done ⟨low, by omega⟩ ⟨Nat.le_refl _, by omega⟩ same
  subst first
  refine ⟨rfl, {
    positive := inOrder.positive
    returned := ?_
    flying := inOrder.flying
    unread := inOrder.unread
    sendSlots := inOrder.sendSlots
    sendSlot := inOrder.sendSlot
    arrived := ⟨high, bound.2⟩
    window := ?_
    slots := ?_
    expected := ?_
    acked := inOrder.acked.imp_right Nat.lt_succ_of_lt
    processed := inOrder.processed.imp_right Nat.lt_succ_of_lt
    acks := fun acked member => (inOrder.acks acked member).imp_right Nat.lt_succ_of_lt }⟩
  · change system.returned ++ [seq] = _
    rw [inOrder.returned, List.range_succ]
  · change system.nextSlotSeq ≤ seq + 1 + system.window
    omega
  · intro position other
    change update system.slots (seq % system.window) none position = some other ↔ _
    by_cases here : position = seq % system.window
    · subst here
      rw [update_self]
      constructor
      · exact nofun
      · rintro ⟨after, before, same⟩
        have equal := same_slot system.window seq
          ⟨by omega, by change other < _ at before; omega⟩ ⟨Nat.le_refl _, by omega⟩ same
        omega
    · rw [update_of_ne here, inOrder.slots position]
      constructor
      · rintro ⟨after, before, same⟩
        refine ⟨?_, before, same⟩
        rcases Nat.lt_or_eq_of_le after with later | equal
        · exact later
        · subst equal
          exact absurd same.symm here
      · rintro ⟨after, before, same⟩
        exact ⟨by omega, before, same⟩
  · change (seq % system.window + 1) % system.window = (seq + 1) % system.window
    rw [Nat.mod_add_mod]

theorem readSlot (inSync : InSync system .readSlot) :
    ∃ done', InOrder (system.next .readSlot) done' landed fetched := by
  unfold CreditWindow.next
  dsimp only
  have position : system.nextExpectedSlot % system.window = done % system.window := by
    rw [inOrder.expected, Nat.mod_mod]
  split
  · exact ⟨done, inOrder⟩
  · rw [position]
    split
    · rename_i seq found
      exact ⟨done + 1, (inOrder.take found).2⟩
    · exact ⟨done, { inOrder with }⟩
  · exact ⟨done, { inOrder with }⟩
  · rename_i first rest scanning
    have nothing : system.slots first = none := by
      simpa [InSync, scanning] using inSync
    rw [nothing]
    exact ⟨done, { inOrder with }⟩

theorem sendResponse (seq : Nat) : InOrder (system.next (.sendResponse seq)) done landed fetched := by
  unfold CreditWindow.next
  dsimp only
  split
  · rename_i member
    rw [inOrder.returned, List.mem_range] at member
    have processed : max system.lastProcessedSeq seq = 0 ∨
        max system.lastProcessedSeq seq < done := by
      have before := inOrder.processed
      omega
    exact { inOrder with
      processed
      acks := fun acked there => by
        rcases List.mem_append.mp there with old | new
        · exact inOrder.acks acked old
        · rw [List.mem_singleton.mp new]
          exact processed }
  · exact inOrder

theorem pollPending (acked : Nat) : InOrder (system.next (.pollPending acked)) done landed fetched := by
  unfold CreditWindow.next
  dsimp only
  split
  · rename_i member
    have known := inOrder.acks acked member
    have before := inOrder.acked
    exact { inOrder with
      acked := by
        change max system.lastAckedSeq acked = 0 ∨ max system.lastAckedSeq acked < done
        omega }
  · exact inOrder

end InOrder

/-- What one step keeps. -/
theorem InOrder.next {system : CreditWindow} {done landed fetched : Nat}
    (inOrder : InOrder system done landed fetched) {action : Action}
    (careful : Careful system action) :
    ∃ done landed fetched, InOrder (system.next action) done landed fetched := by
  cases action with
  | callDirect => exact ⟨done, landed, fetched, inOrder.callDirect (careful.2.elim inOrder.slotFree id)⟩
  | ring => exact ⟨done, landed, fetched, { inOrder with }⟩
  | fetch => exact ⟨done, landed, inOrder.fetch⟩
  | land =>
    obtain ⟨landed', reached⟩ := inOrder.land
    exact ⟨done, landed', fetched, reached⟩
  | poll =>
    refine ⟨done, landed, fetched, ?_⟩
    unfold CreditWindow.next
    dsimp only
    split
    · exact { inOrder with }
    · exact inOrder
  | readSlot =>
    obtain ⟨done', reached⟩ := inOrder.readSlot careful.1
    exact ⟨done', landed, fetched, reached⟩
  | sendResponse seq => exact ⟨done, landed, fetched, inOrder.sendResponse seq⟩
  | pollPending acked => exact ⟨done, landed, fetched, inOrder.pollPending acked⟩

/-- The WRITE of an allowed call goes to a slot whose requests were all returned. -/
def Safe (system : CreditWindow) (action : Action) : Prop :=
  action = .callDirect → system.HasCredits →
    ∀ seq < system.nextSlotSeq, seq % system.window = system.target → seq ∈ system.returned

theorem InOrder.safe {system : CreditWindow} {done landed fetched : Nat}
    (inOrder : InOrder system done landed fetched) (action : Action) : Safe system action := by
  intro _ credits seq sent same
  have acked := inOrder.acked
  have positive := inOrder.positive
  unfold HasCredits at credits
  unfold target at same
  rw [inOrder.returned, List.mem_range]
  have behind : seq + system.window ≤ system.nextSlotSeq := by
    by_contra near
    have equal := @same_slot system.window seq seq system.nextSlotSeq
      ⟨Nat.le_refl _, by omega⟩ ⟨Nat.le_of_lt sent, by omega⟩ same
    omega
  omega

theorem next_device (system : CreditWindow) {action : Action}
    (device : action = .fetch ∨ action = .land) :
    (system.next action).point = system.point ∧
      (system.next action).nextSlotSeq = system.nextSlotSeq := by
  rcases device with rfl | rfl <;> unfold CreditWindow.next <;> dsimp only <;> split <;>
    exact ⟨rfl, rfl⟩

theorem InOrder.fetchAll {done landed : Nat} (count : Nat) : ∀ {system : CreditWindow} {fetched : Nat},
    InOrder system done landed fetched → system.nextSlotSeq = fetched + count →
    count ≤ system.rung →
    let after := run CreditWindow.next system (List.replicate count .fetch)
    InOrder after done landed system.nextSlotSeq ∧ after.point = system.point ∧
      after.nextSlotSeq = system.nextSlotSeq := by
  induction count with
  | zero => exact fun inOrder all _ => ⟨all ▸ inOrder, rfl, rfl⟩
  | succ count ih =>
    intro system fetched inOrder all covered
    obtain ⟨read, rung⟩ := inOrder.fetch_one (by omega) (by omega)
    obtain ⟨point, sent⟩ := system.next_device (.inl rfl)
    rw [← point, ← sent]
    exact ih read (by omega) (by omega)

theorem InOrder.landAll {done fetched : Nat} (count : Nat) : ∀ {system : CreditWindow} {landed : Nat},
    InOrder system done landed fetched → fetched = landed + count →
    let after := run CreditWindow.next system (List.replicate count .land)
    InOrder after done fetched fetched ∧ after.point = system.point ∧
      after.nextSlotSeq = system.nextSlotSeq := by
  induction count with
  | zero => exact fun inOrder all => ⟨all ▸ inOrder, rfl, rfl⟩
  | succ count ih =>
    intro system landed inOrder all
    obtain ⟨point, sent⟩ := system.next_device (.inr rfl)
    rw [← point, ← sent]
    exact ih (inOrder.land_one (by omega)) (by omega)

/-- `poll_request` that finds its request at once. -/
def pollExpected : List Action := [.poll, .readSlot]

theorem InOrder.drain {landed fetched : Nat} (count : Nat) : ∀ {done : Nat} {system : CreditWindow},
    InOrder system done landed fetched → system.point = .outside → landed = done + count →
    (run CreditWindow.next system (List.replicate count pollExpected).flatten).returned =
      List.range landed := by
  induction count with
  | zero =>
    intro done system inOrder _ all
    rw [all]
    exact inOrder.returned
  | succ count ih =>
    intro done system inOrder outside all
    have found : system.slots (done % system.window) = some done :=
      (inOrder.slots _ done).mpr ⟨Nat.le_refl _, by omega, rfl⟩
    have polled : (system.next .poll).next .readSlot =
        { system with point := .expected }.take (done % system.window) done := by
      have first : system.next .poll = { system with point := .expected } := if_pos outside
      rw [first]
      unfold CreditWindow.next
      dsimp only
      rw [inOrder.expected, Nat.mod_mod, found]
    have expecting : InOrder { system with point := .expected } done landed fetched :=
      { inOrder with }
    rw [List.replicate_succ, List.flatten_cons]
    change (run CreditWindow.next ((system.next .poll).next .readSlot) _).returned = _
    rw [polled]
    exact ih (expecting.take found).2 rfl (by omega)

/-- The doorbell is rung, the device reads and delivers all WRITEs, and the server polls. -/
def settle (system : CreditWindow) : List Action :=
  .ring :: (List.replicate system.unread.length .fetch ++
    (List.replicate (system.inFlight.length + system.unread.length) .land ++
      (List.replicate (system.nextSlotSeq - system.returned.length) pollExpected).flatten))

theorem InOrder.settle {system : CreditWindow} {done landed fetched : Nat}
    (inOrder : InOrder system done landed fetched) (outside : system.point = .outside) :
    (run CreditWindow.next system system.settle).returned = List.range system.nextSlotSeq := by
  have bound := inOrder.arrived
  have unread : system.unread.length = system.nextSlotSeq - fetched := by
    rw [inOrder.unread, List.length_map, List.length_range']
  have flying : system.inFlight.length = fetched - landed := by
    rw [inOrder.flying, List.length_map, List.length_range']
  have count : system.returned.length = done := by rw [inOrder.returned, List.length_range]
  have ringing : InOrder (system.next .ring) done landed fetched := { inOrder with }
  obtain ⟨read, point, sent⟩ := ringing.fetchAll system.unread.length
    (by change system.nextSlotSeq = _; omega) (Nat.le_refl _)
  obtain ⟨arrived, point', -⟩ := read.landAll (system.inFlight.length + system.unread.length)
    (by change system.nextSlotSeq = _; omega)
  unfold CreditWindow.settle
  unfold run at *
  rw [List.foldl_cons, List.foldl_append, List.foldl_append]
  exact arrived.drain _ (point'.trans (point.trans outside)) (by change system.nextSlotSeq = _; omega)

theorem InOrder.new {window : Nat} (positive : 0 < window) (numSendSlots : Nat) :
    InOrder (.new window numSendSlots) 0 0 0 where
  positive
  returned := rfl
  flying := rfl
  unread := rfl
  sendSlots _ _ below := absurd below (Nat.not_lt_zero _)
  sendSlot := rfl
  arrived := ⟨Nat.le_refl _, Nat.le_refl _, Nat.le_refl _⟩
  window := Nat.zero_le _
  slots _ _ := ⟨nofun, fun ⟨_, below, _⟩ => absurd below (Nat.not_lt_zero _)⟩
  expected := (Nat.zero_mod _).symm
  acked := .inl rfl
  processed := .inl rfl
  acks := nofun

/-- If the reads of the other slots find nothing and no send slot is written again before it was
read, each allowed call writes to a slot whose requests were returned, and the requests are returned
in their order, each once. -/
theorem credit_window_protects (window numSendSlots : Nat) (positive : 0 < window)
    (actions : List Action) (careful : Along next Careful (new window numSendSlots) actions) :
    Along next Safe (new window numSendSlots) actions ∧
      let system := run next (new window numSendSlots) actions
      (∃ done, system.returned = List.range done ∧ done ≤ system.nextSlotSeq) ∧
      (system.point = .outside →
        (run next system system.settle).returned = List.range system.nextSlotSeq) := by
  let Sound (system : CreditWindow) : Prop := ∃ done landed fetched, InOrder system done landed fetched
  have preserved : ∀ system action, Sound system → Careful system action →
      Sound (system.next action) :=
    fun _ _ ⟨_, _, _, inOrder⟩ careful => inOrder.next careful
  have safe : ∀ system action, Sound system → Careful system action → Safe system action :=
    fun _ action ⟨_, _, _, inOrder⟩ _ => inOrder.safe action
  have initial : Sound (new window numSendSlots) := ⟨0, 0, 0, .new positive numSendSlots⟩
  refine ⟨along_of_invariant preserved safe initial careful, ?_⟩
  obtain ⟨done, landed, fetched, inOrder⟩ := run_invariant preserved initial careful
  have bound := inOrder.arrived
  exact ⟨⟨done, inOrder.returned, by omega⟩, inOrder.settle⟩

/-- The second call waits until the one send slot was read, and the request that arrives after the
end of `poll_request` is found where it is expected. -/
theorem credit_window_protects_twoCalls :
    let actions : List Action := [.callDirect, .ring, .fetch, .callDirect, .poll, .readSlot,
      .readSlot, .land, .readSlot, .poll, .readSlot, .sendResponse 0, .pollPending 0]
    (run next (new 2 1) actions).returned = [0] ∧
      (run next (run next (new 2 1) actions) [.ring, .fetch, .land, .poll, .readSlot]).returned =
        List.range 2 := by
  refine ⟨rfl, ?_⟩
  exact (credit_window_protects 2 1 Nat.two_pos
    [.callDirect, .ring, .fetch, .callDirect, .poll, .readSlot, .readSlot, .land, .readSlot, .poll,
      .readSlot, .sendResponse 0, .pollPending 0] (by decide +kernel)).2.2 rfl

/-- `poll_request` returns the second request, and the next call overwrites the first one. With one
send slot the second call writes over the first request before the device reads it. -/
theorem unreturned_request_overwritten :
    (let before := run next (new 2 2) [.callDirect, .callDirect, .ring, .fetch, .fetch, .poll,
      .readSlot, .land, .land, .readSlot, .sendResponse 1, .pollPending 1]
    let after := run next before [.callDirect, .ring, .fetch, .land]
    before.HasCredits ∧ before.target = 0 ∧ before.slots 0 = some 0 ∧ before.returned = [1] ∧
      after.slots 0 = some 2 ∧ 0 ∉ after.returned) ∧
    (run next (new 2 1) [.callDirect, .callDirect, .ring, .fetch, .fetch, .land, .land, .poll,
      .readSlot, .poll, .readSlot]).returned = [1, 1] := by
  decide +kernel

end CreditWindow

end Locasta.Scalerpc
