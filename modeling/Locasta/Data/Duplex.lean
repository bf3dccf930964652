import Locasta.Data.Run
import Mathlib.Logic.Function.Basic

namespace Locasta.Data

open Function

/-! Runs of two parties. Each action belongs to one party, reads both sides and
changes only its own. -/

inductive Party where
  | a
  | b
deriving DecidableEq

def Party.peer : Party → Party
  | .a => .b
  | .b => .a

theorem Party.peer_ne (party : Party) : party.peer ≠ party := by
  cases party <;> decide

@[simp] theorem Party.peer_peer (party : Party) : party.peer.peer = party := by
  cases party <;> rfl

variable {Side Action : Type} (act : Side → Side → Action → Side)

/-- `act own peer action` is the acting party's side after the action. -/
def duplexStep (system : Party → Side) (action : Party × Action) : Party → Side :=
  update system action.1 (act (system action.1) (system action.1.peer) action.2)

def Duplex (condition : Side → Side → Action → Prop) (system : Party → Side)
    (action : Party × Action) : Prop :=
  condition (system action.1) (system action.1.peer) action.2

instance (condition : Side → Side → Action → Prop)
    [∀ own peer action, Decidable (condition own peer action)] (system : Party → Side)
    (action : Party × Action) : Decidable (Duplex condition system action) :=
  inferInstanceAs (Decidable (condition _ _ _))

def Linked (link : Side → Side → Prop) (system : Party → Side) : Prop :=
  ∀ party : Party, link (system party) (system party.peer)

variable {act} {condition fact : Side → Side → Action → Prop} {link : Side → Side → Prop}
  {system : Party → Side} {actions : List (Party × Action)}

section

variable (acting : ∀ own peer action, link own peer → link peer own → condition own peer action →
    link (act own peer action) peer)
include acting

variable (observing : ∀ own peer action, link own peer → link peer own →
    condition own peer action → link peer (act own peer action))
include observing

/-- A step of one side keeps the links of both directions. -/
theorem Linked.step (system : Party → Side) (action : Party × Action) (linked : Linked link system)
    (allowed : Duplex condition system action) : Linked link (duplexStep act system action) := by
  obtain ⟨actor, action⟩ := action
  have there := linked actor
  have back := linked actor.peer
  rw [Party.peer_peer] at back
  intro party
  by_cases same : party = actor
  · subst same
    rw [duplexStep, update_self, update_of_ne party.peer_ne]
    exact acting _ _ _ there back allowed
  · have other : party = actor.peer := by
      cases party <;> cases actor <;> first | rfl | exact absurd rfl same
    subst other
    rw [duplexStep, update_of_ne same, Party.peer_peer, update_self]
    exact observing _ _ _ there back allowed

theorem Linked.run (initial : Linked link system)
    (guarded : Along (duplexStep act) (Duplex condition) system actions) :
    Linked link (run (duplexStep act) system actions) :=
  run_invariant (Linked.step acting observing) initial guarded

theorem Linked.along
    (holds : ∀ own peer action, link own peer → link peer own → condition own peer action →
      fact own peer action)
    (initial : Linked link system)
    (guarded : Along (duplexStep act) (Duplex condition) system actions) :
    Along (duplexStep act) (Duplex fact) system actions := by
  refine along_of_invariant (Linked.step acting observing) ?_ initial guarded
  intro system action linked allowed
  have back := linked action.1.peer
  rw [Party.peer_peer] at back
  exact holds _ _ _ (linked action.1) back allowed

end

theorem run_each (each : Party → Side → Prop)
    (kept : ∀ party own peer action, each party own → each party.peer peer →
      each party (act own peer action))
    (initial : ∀ party, each party (system party)) (actions : List (Party × Action))
    (party : Party) : each party (run (duplexStep act) system actions party) := by
  induction actions generalizing system with
  | nil => exact initial party
  | cons action rest ih =>
    apply ih
    intro other
    by_cases same : other = action.1
    · subst same
      rw [duplexStep, update_self]
      exact kept _ _ _ _ (initial _) (initial _)
    · rw [duplexStep, update_of_ne same]
      exact initial other

theorem run_party (keeps : Side → Prop) {allowed : Action → Prop}
    (kept : ∀ own peer action, keeps own → allowed action → keeps (act own peer action))
    (party : Party) (initial : keeps (system party))
    (guarded : ∀ action, (party, action) ∈ actions → allowed action) :
    keeps (run (duplexStep act) system actions party) := by
  induction actions generalizing system with
  | nil => exact initial
  | cons first rest ih =>
    obtain ⟨actor, action⟩ := first
    refine ih ?_ fun other member => guarded other (List.mem_cons_of_mem _ member)
    by_cases same : party = actor
    · subst same
      rw [duplexStep, update_self]
      exact kept _ _ _ initial (guarded action List.mem_cons_self)
    · rw [duplexStep, update_of_ne same]
      exact initial

theorem along_each (each : Party → Side → Prop)
    (kept : ∀ party own peer action, each party own → each party.peer peer →
      each party (act own peer action))
    (holds : ∀ party own peer action, each party own → each party.peer peer → fact own peer action)
    (initial : ∀ party, each party (system party)) (actions : List (Party × Action)) :
    Along (duplexStep act) (Duplex fact) system actions := by
  induction actions generalizing system with
  | nil => trivial
  | cons action rest ih =>
    refine ⟨holds _ _ _ _ (initial _) (initial _), ih fun party => ?_⟩
    exact run_each each kept initial [action] party

end Locasta.Data
