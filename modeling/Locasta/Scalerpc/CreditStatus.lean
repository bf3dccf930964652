import Locasta.Scalerpc.CreditWindow

namespace Locasta.Scalerpc

open Data

/-! `credit_status` counts from the last acknowledged request, which is no longer in flight. -/

/-- `credit_status`: the requests in flight, the available credits and the window. -/
def CreditWindow.creditStatus (system : CreditWindow) : Nat × Nat × Nat :=
  let inFlight := system.nextSlotSeq - system.lastAckedSeq
  (inFlight, system.window - inFlight, system.window)

structure CreditAccount where
  system : CreditWindow
  /-- Auxiliary: the requests up to that of the highest acknowledgement `poll_pending` processed. -/
  acknowledged : Nat

namespace CreditAccount

def new (window numSendSlots : Nat) : CreditAccount :=
  ⟨.new window numSendSlots, 0⟩

def next (account : CreditAccount) (action : CreditWindow.Action) : CreditAccount where
  system := account.system.next action
  acknowledged :=
    match action with
    | .pollPending acked =>
      if acked ∈ account.system.acks then max account.acknowledged (acked + 1)
      else account.acknowledged
    | _ => account.acknowledged

/-- The requests sent whose acknowledgement was not processed. -/
def unacknowledged (account : CreditAccount) : Nat :=
  account.system.nextSlotSeq - account.acknowledged

/-- No request is anywhere before `call_direct` has sent it. -/
structure Sent (system : CreditWindow) : Prop where
  unread : ∀ write ∈ system.unread, system.sendSlots write.sendSlot < system.nextSlotSeq
  flying : ∀ flight ∈ system.inFlight, flight.1 < system.nextSlotSeq
  slots : ∀ position seq, system.slots position = some seq → seq < system.nextSlotSeq
  returned : ∀ seq ∈ system.returned, seq < system.nextSlotSeq
  processed : system.lastProcessedSeq = 0 ∨ system.lastProcessedSeq < system.nextSlotSeq
  acks : ∀ acked ∈ system.acks, acked < system.nextSlotSeq

namespace Sent

variable {system : CreditWindow} (sent : Sent system)
include sent

theorem callDirect : Sent (system.next .callDirect) := by
  dsimp only [CreditWindow.next]
  split
  · refine ⟨fun write member => ?_, fun flight member => Nat.lt_succ_of_lt (sent.flying _ member),
      fun position seq here => Nat.lt_succ_of_lt (sent.slots _ _ here),
      fun seq member => Nat.lt_succ_of_lt (sent.returned _ member),
      sent.processed.imp_right Nat.lt_succ_of_lt,
      fun acked member => Nat.lt_succ_of_lt (sent.acks _ member)⟩
    dsimp only
    by_cases own : write.sendSlot = system.sendSlot
    · rw [own, Function.update_self]
      exact Nat.lt_succ_self _
    · rw [Function.update_of_ne own]
      refine Nat.lt_succ_of_lt (sent.unread write ((List.mem_append.mp member).resolve_right ?_))
      exact fun new => own (congrArg _ (List.mem_singleton.mp new))
  · exact sent

theorem take {position seq : Nat} (here : system.slots position = some seq) :
    Sent (system.take position seq) := by
  refine { sent with slots := ?_, returned := ?_ }
  · intro other number there
    by_cases same : other = position
    · simp [CreditWindow.take, same] at there
    · exact sent.slots other number ((Function.update_of_ne same _ _).symm.trans there)
  · intro number member
    rcases List.mem_append.mp member with old | new
    · exact sent.returned number old
    · exact List.mem_singleton.mp new ▸ sent.slots position seq here

/-- Requests appear only where `call_direct` has sent them. -/
theorem next (action : CreditWindow.Action) : Sent (system.next action) := by
  cases action with
  | callDirect => exact sent.callDirect
  | ring => exact { sent with }
  | fetch =>
    dsimp only [CreditWindow.next]
    split
    · rename_i write rest _ waiting
      refine { sent with
        unread := fun other member => sent.unread other (waiting ▸ List.mem_cons_of_mem _ member)
        flying := fun flight member => ?_ }
      rcases List.mem_append.mp member with old | new
      · exact sent.flying flight old
      · cases List.mem_singleton.mp new
        exact sent.unread write (waiting ▸ List.mem_cons_self)
    · exact sent
  | land =>
    dsimp only [CreditWindow.next]
    split
    · exact sent
    · rename_i seq position rest waiting
      refine { sent with
        flying := fun flight member => sent.flying flight (waiting ▸ List.mem_cons_of_mem _ member)
        slots := fun other number there => ?_ }
      by_cases same : other = position
      · subst same
        cases (Function.update_self _ _ _).symm.trans there
        exact sent.flying _ (waiting ▸ List.mem_cons_self)
      · exact sent.slots other number ((Function.update_of_ne same _ _).symm.trans there)
  | poll =>
    dsimp only [CreditWindow.next]
    split <;> exact { sent with }
  | readSlot =>
    dsimp only [CreditWindow.next]
    repeat' split
    all_goals first | exact { sent with } | exact sent.take (by assumption)
  | sendResponse seq =>
    dsimp only [CreditWindow.next]
    split
    · rename_i member
      have own := sent.returned seq member
      have before := sent.processed
      have processed : max system.lastProcessedSeq seq < system.nextSlotSeq := by omega
      refine { sent with processed := .inr processed, acks := fun acked there => ?_ }
      rcases List.mem_append.mp there with old | new
      · exact sent.acks acked old
      · exact List.mem_singleton.mp new ▸ processed
    · exact sent
  | pollPending acked =>
    dsimp only [CreditWindow.next]
    split <;> exact { sent with }

end Sent

structure Counted (account : CreditAccount) : Prop where
  sent : Sent account.system
  acknowledged : account.acknowledged ≤ account.system.nextSlotSeq
  acked : account.acknowledged = 0 ∧ account.system.lastAckedSeq = 0 ∨
    account.acknowledged = account.system.lastAckedSeq + 1

theorem next_keeps (system : CreditWindow) (action : CreditWindow.Action) :
    system.nextSlotSeq ≤ (system.next action).nextSlotSeq ∧
      (system.next action).lastAckedSeq = (match action with
        | .pollPending acked =>
          if acked ∈ system.acks then max system.lastAckedSeq acked else system.lastAckedSeq
        | _ => system.lastAckedSeq) ∧
      (system.next action).window = system.window := by
  cases action <;> dsimp only [CreditWindow.next, CreditWindow.take] <;> repeat' split
  all_goals exact ⟨by first | exact Nat.le_refl _ | exact Nat.le_succ _, rfl, rfl⟩

theorem Counted.next {account : CreditAccount} (counted : Counted account)
    (action : CreditWindow.Action) : Counted (account.next action) := by
  obtain ⟨more, last, -⟩ := next_keeps account.system action
  have known := counted.acknowledged
  have acked := counted.acked
  have counts : (account.next action).acknowledged ≤ account.system.nextSlotSeq ∧
      ((account.next action).acknowledged = 0 ∧ (account.system.next action).lastAckedSeq = 0 ∨
        (account.next action).acknowledged = (account.system.next action).lastAckedSeq + 1) := by
    rw [last]
    unfold CreditAccount.next
    dsimp only
    split
    · split
      · rename_i member
        have := counted.sent.acks _ member
        omega
      · exact ⟨known, acked⟩
    · exact ⟨known, acked⟩
  exact ⟨counted.sent.next action, Nat.le_trans counts.1 more, counts.2⟩

/-- `in_flight` is exact before the first acknowledgement, then counts one request too many, and
with all requests acknowledged a window of one has no credits. -/
theorem credit_status_counts (window numSendSlots : Nat) (positive : 0 < window)
    (actions : List CreditWindow.Action) :
    let account := run next (new window numSendSlots) actions
    (account.acknowledged = 0 → account.system.creditStatus.1 = account.unacknowledged) ∧
    (0 < account.acknowledged → account.system.creditStatus.1 = account.unacknowledged + 1) ∧
    (account.unacknowledged = 0 →
      (account.system.HasCredits ↔ account.acknowledged = 0 ∨ 1 < window)) := by
  have counted : Counted (run next (new window numSendSlots) actions) :=
    run_always (fun _ action counted => counted.next action)
      ⟨⟨nofun, nofun, nofun, nofun, .inl rfl, nofun⟩, Nat.le_refl _, .inl ⟨rfl, rfl⟩⟩
  have kept : (run next (new window numSendSlots) actions).system.window = window :=
    @run_always _ _ next (·.system.window = window)
      (fun account action same => (next_keeps account.system action).2.2.trans same) _ actions rfl
  have known := counted.acknowledged
  have acked := counted.acked
  unfold unacknowledged CreditWindow.creditStatus CreditWindow.HasCredits
  dsimp only
  rw [kept]
  omega

/-- With a window of two, one credit is left when the only request is acknowledged. -/
theorem credit_status_counts_oneCall :
    let account := run next (new 2 2) [.callDirect, .ring, .fetch, .land, .poll, .readSlot,
      .sendResponse 0, .pollPending 0]
    account.unacknowledged = 0 ∧ account.system.creditStatus.1 = 1 ∧ account.system.HasCredits := by
  have counts := credit_status_counts 2 2 Nat.two_pos
    [.callDirect, .ring, .fetch, .land, .poll, .readSlot, .sendResponse 0, .pollPending 0]
  exact ⟨rfl, counts.2.1 (by decide +kernel), (counts.2.2 rfl).mpr (.inr Nat.one_lt_two)⟩

theorem window_of_one_blocks :
    let account := run next (new 1 1) [.callDirect, .ring, .fetch, .land, .poll, .readSlot,
      .sendResponse 0, .pollPending 0]
    account.acknowledged = 1 ∧ account.unacknowledged = 0 ∧
      account.system.creditStatus = (1, 0, 1) ∧ ¬ account.system.HasCredits := by
  decide +kernel

end CreditAccount

end Locasta.Scalerpc
