import Locasta.Mempc.QueueMpsc

namespace Locasta.Mempc.Bbq

open Data Function

/-! `BbqServer::reply` and callers that are dropped.

`try_push` refuses when `rx_alive` is down, as it does when the slot is taken, and `reply` tries again
in both cases.
-/

structure ReplySystem (Resp : Type) where
  respRings : Nat → FlagRing (Nat × Resp)
  rxAlive : Nat → Bool
  /-- The caller, the token with the response, and whether `try_push` has found `rx_alive` up. -/
  replying : Option (Nat × (Nat × Resp) × Bool)

namespace ReplySystem

variable {Resp : Type} {system : ReplySystem Resp} {id : Nat} {response : Nat × Resp}

inductive Action where
  | reply
  | tryPop (id : Nat)
  | drop (id : Nat)
deriving DecidableEq

/-- What `try_push` does up to the load of `rx_alive`, and what it does from there on. -/
def reply (system : ReplySystem Resp) : ReplySystem Resp :=
  match system.replying with
  | none => system
  | some (id, response, false) =>
    if system.rxAlive id then { system with replying := some (id, response, true) } else system
  | some (id, response, true) =>
    let (free, ring) := (system.respRings id).startPush response
    if free then
      { system with
        respRings := update system.respRings id ring.push.2.push.2
        replying := none }
    else { system with replying := some (id, response, false) }

/-- With `rx_alive` up, the accesses to the ring are those of `Desk.reply`. -/
theorem reply_eq_desk {desk : Desk Resp} {index : Nat} (same : system.respRings id = desk.respRing)
    (idle : desk.respRing.writer = .idle) (busy : desk.replying = some (index, response))
    (replying : system.replying = some (id, response, true)) :
    let free := (desk.respRing.startPush response).1
    let after := (fun desk => (Desk.reply desk).2)^[if free then 3 else 1] desk
    system.reply.respRings id = after.respRing ∧
      (system.reply.replying = none ↔ after.replying = none) := by
  cases taken : (desk.respRing.slots (desk.respRing.index desk.respRing.writePos)).valid <;>
    simp [reply, replying, same, FlagRing.startPush, FlagRing.push, FlagRing.update, taken,
      Desk.reply, busy, idle]

/-- A caller that was dropped takes nothing from its ring. -/
def next (system : ReplySystem Resp) : Action → ReplySystem Resp
  | .reply => system.reply
  | .tryPop id =>
    let (full, ring) := (system.respRings id).startPop
    if system.rxAlive id && full then
      { system with respRings := update system.respRings id ring.pop.2.pop.2 }
    else system
  | .drop id => { system with rxAlive := update system.rxAlive id false }

/-- The caller was dropped, and the slot of its response is free or not. -/
structure Dropped (id : Nat) (response : Nat × Resp) (checked free : Bool)
    (system : ReplySystem Resp) : Prop where
  replying : system.replying = some (id, response, checked)
  rxAlive : system.rxAlive id = false
  slot : ((system.respRings id).startPush response).1 = free

section

variable {checked free : Bool} (dropped : Dropped id response checked free system)
include dropped

theorem Dropped.others {action : Action} (other : action ≠ .reply) :
    Dropped id response checked free (system.next action) := by
  cases action with
  | reply => exact absurd rfl other
  | tryPop caller =>
    dsimp only [next]
    split
    · rename_i taken
      have different : id ≠ caller := by
        rintro rfl
        rw [dropped.rxAlive] at taken
        cases taken
      refine { dropped with slot := ?_ }
      dsimp only
      rw [update_of_ne different]
      exact dropped.slot
    · exact dropped
  | drop caller =>
    refine { dropped with rxAlive := ?_ }
    by_cases same : id = caller
    · rw [same]
      exact update_self ..
    · exact (update_of_ne same ..).trans dropped.rxAlive

/-- The loop goes on as long as `rx_alive` is down or the slot is taken. -/
theorem Dropped.refused (no : (checked && free) = false) (actions : List Action) :
    (run next system actions).replying ≠ none := by
  have stuck : ∃ checked, Dropped id response checked free (run next system actions) ∧
      (checked && free) = false := by
    refine @run_always _ _ next (fun system => ∃ checked, Dropped id response checked free system ∧
      (checked && free) = false) ?_ _ actions ⟨_, dropped, no⟩
    rintro system action ⟨checked, dropped, no⟩
    by_cases other : action = .reply
    · subst other
      refine ⟨false, ?_, rfl⟩
      cases checked with
      | false => simpa [next, reply, dropped.replying, dropped.rxAlive] using dropped
      | true =>
        have taken := dropped.slot.trans no
        simp only [next, reply, dropped.replying, taken]
        exact { dropped with replying := rfl }
    · exact ⟨checked, dropped.others other, no⟩
  obtain ⟨_, after, _⟩ := stuck
  rw [after.replying]
  nofun

end

/-- A `reply` that has read `rx_alive` before the caller was dropped, and whose slot is free,
returns with its next access. Any other one never returns. -/
theorem reply_after_drop (system : ReplySystem Resp) (id : Nat) (response : Nat × Resp)
    (checked free : Bool) (dropped : Dropped id response checked free system)
    (actions : List Action) :
    (checked && free → .reply ∉ actions →
        (run next system (actions ++ [.reply])).replying = none) ∧
      (¬ (checked && free) → (run next system actions).replying ≠ none) ∧
      ∀ other ≠ id, system.reply.respRings other = system.respRings other := by
  refine ⟨?_, fun no => dropped.refused (Bool.eq_false_iff.mpr no) actions, fun other different => ?_⟩
  · rw [Bool.and_eq_true]
    rintro ⟨rfl, rfl⟩ absent
    induction actions generalizing system with
    | nil =>
      simp only [run, next, reply, List.nil_append, List.foldl, dropped.replying, dropped.slot,
        if_true]
    | cons action rest ih =>
      rw [List.mem_cons, not_or] at absent
      exact ih _ (dropped.others (Ne.symm absent.1)) absent.2
  · unfold reply
    rw [dropped.replying]
    cases checked with
    | false => dsimp only; split <;> rfl
    | true =>
      dsimp only
      split
      · exact update_of_ne different _ _
      · rfl

def twoCallers (dropped : Bool) : ReplySystem Unit where
  respRings _ := ResponseRing.new Unit 2
  rxAlive id := !(dropped && id = 0)
  replying := some (0, (0, ()), false)

/-- The caller is dropped behind the load of `rx_alive`. -/
theorem reply_after_drop_late : let system := run next (twoCallers false) [.reply, .drop 0]
    system.rxAlive 0 = false ∧ (run next system [.tryPop 1, .reply]).replying = none :=
  ⟨rfl, (reply_after_drop (run next (twoCallers false) [.reply, .drop 0]) 0 (0, ()) true true
    ⟨rfl, rfl, rfl⟩ [.tryPop 1]).1 rfl (by decide)⟩

theorem reply_never_returns : (twoCallers true).rxAlive 0 = false ∧
    ∀ actions, (run next (twoCallers true) actions).replying ≠ none :=
  ⟨rfl, @Dropped.refused Unit (twoCallers true) 0 (0, ()) false true ⟨rfl, rfl, rfl⟩ rfl⟩

end ReplySystem

end Locasta.Mempc.Bbq
