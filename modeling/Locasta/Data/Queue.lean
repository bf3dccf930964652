import Locasta.Data.Run
import Mathlib.Data.List.Basic
import Mathlib.Logic.Function.Basic

namespace Locasta.Data

open Function

/-! Queues with any number of producers and one consumer, given by their code.

A push or a pop is a thread with a program point; each of its steps is one access to what the
threads share. A run is any interleaving of such steps.
-/

/-- What an operation comes to at one access: it goes on, or it returns. -/
inductive Progress (Pc Result : Type) where
  | more (pc : Pc)
  | done (result : Result)

/-- What an operation of the consumer returns. -/
inductive Answer (Item : Type) where
  | empty
  | item (id : Nat) (item : Item)
  | count (number : Nat)
deriving DecidableEq

/-- What an answer adds to what was returned. -/
def Answer.items {Item : Type} : Answer Item → List (Nat × Item)
  | .item id value => [(id, value)]
  | .empty | .count _ => []

structure QueueCode (Item : Type) where
  Shared : Type
  Push : Type
  Pop : Type
  Query : Type
  startPush : Push
  /-- A step of a push by the producer `id`. A push returns whether its item was accepted. -/
  push (id : Nat) (item : Item) : Push → Shared → Progress Push Bool × Shared
  startPop : Query → Pop
  pop : Pop → Shared → Progress Pop (Answer Item) × Shared

structure Queue {Item : Type} (code : QueueCode Item) where
  shared : code.Shared
  /-- The push that each producer is in, with its item. -/
  pushes : Nat → Option (Item × code.Push)
  popping : Option code.Pop
  /-- Auxiliary: what the pushes accepted and the pops returned, each with its producer. -/
  accepted : List (Nat × Item)
  popped : List (Nat × Item)

/-- What `log` has of one producer. -/
def itemsOf {Item : Type} (id : Nat) (log : List (Nat × Item)) : List Item :=
  (log.filter (·.1 = id)).map Prod.snd

section ItemsOf

variable {Item : Type}

@[simp] theorem itemsOf_nil (id : Nat) : itemsOf id ([] : List (Nat × Item)) = [] :=
  rfl

@[simp] theorem itemsOf_append (id : Nat) (first second : List (Nat × Item)) :
    itemsOf id (first ++ second) = itemsOf id first ++ itemsOf id second := by
  simp [itemsOf]

@[simp] theorem itemsOf_self (id : Nat) (item : Item) : itemsOf id [(id, item)] = [item] := by
  simp [itemsOf]

theorem itemsOf_other {id other : Nat} (different : other ≠ id) (item : Item) :
    itemsOf id [(other, item)] = [] := by
  simp [itemsOf, different]

theorem itemsOf_mono {first second : List (Nat × Item)} (id : Nat) (kept : first <+: second) :
    itemsOf id first <+: itemsOf id second :=
  (kept.filter _).map _

end ItemsOf

namespace Queue

variable {Item : Type} {code : QueueCode Item}

def new (shared : code.Shared) : Queue code where
  shared
  pushes _ := none
  popping := none
  accepted := []
  popped := []

inductive Action (code : QueueCode Item) where
  | startPush (id : Nat) (item : Item)
  | push (id : Nat)
  | startPop (query : code.Query)
  | pop

def startPush (queue : Queue code) (id : Nat) (item : Item) : Queue code :=
  { queue with
    pushes := update queue.pushes id (some (item, code.startPush)) }

/-- The push of `id` has come to `outcome`. -/
def pushed (queue : Queue code) (id : Nat) (item : Item) :
    Progress code.Push Bool × code.Shared → Option Bool × Queue code
  | (.more pc, shared) =>
    (none, { queue with shared, pushes := update queue.pushes id (some (item, pc)) })
  | (.done ok, shared) =>
    (some ok, { queue with
      shared
      pushes := update queue.pushes id none
      accepted := if ok then queue.accepted ++ [(id, item)] else queue.accepted })

def push (queue : Queue code) (id : Nat) : Option Bool × Queue code :=
  match queue.pushes id with
  | none => (none, queue)
  | some (item, pc) => queue.pushed id item (code.push id item pc queue.shared)

def startPop (queue : Queue code) (query : code.Query) : Queue code :=
  { queue with popping := some (code.startPop query) }

/-- The operation of the consumer has come to `outcome`. -/
def answered (queue : Queue code) :
    Progress code.Pop (Answer Item) × code.Shared → Option (Answer Item) × Queue code
  | (.more pc, shared) => (none, { queue with shared, popping := some pc })
  | (.done answer, shared) =>
    (some answer, { queue with
      shared, popping := none, popped := queue.popped ++ answer.items })

def pop (queue : Queue code) : Option (Answer Item) × Queue code :=
  match queue.popping with
  | none => (none, queue)
  | some pc => queue.answered (code.pop pc queue.shared)

/-- A thread begins only what it is not in the middle of. -/
def step (queue : Queue code) : Action code → Queue code
  | .startPush id item => if (queue.pushes id).isNone then queue.startPush id item else queue
  | .push id => (queue.push id).2
  | .startPop query => if queue.popping.isNone then queue.startPop query else queue
  | .pop => queue.pop.2

/-- A step is the start or the next access of a push or of a pop, or it does nothing. -/
theorem step_invariant {invariant : Queue code → Prop} {queue : Queue code} {action : Action code}
    (holds : invariant queue)
    (startPush : ∀ id item, action = .startPush id item → queue.pushes id = none →
      invariant (queue.startPush id item))
    (push : ∀ id item pc, action = .push id → queue.pushes id = some (item, pc) →
      invariant (queue.pushed id item (code.push id item pc queue.shared)).2)
    (startPop : ∀ query, queue.popping = none → invariant (queue.startPop query))
    (pop : ∀ pc, queue.popping = some pc →
      invariant (queue.answered (code.pop pc queue.shared)).2) : invariant (queue.step action) := by
  cases action with
  | startPush id item =>
    unfold step
    dsimp only
    split
    · rename_i idle
      exact startPush id item rfl (Option.isNone_iff_eq_none.mp idle)
    · exact holds
  | push id =>
    unfold step Queue.push
    dsimp only
    split
    · exact holds
    · rename_i item pc busy
      exact push id item pc rfl busy
  | startPop query =>
    unfold step
    dsimp only
    split
    · rename_i idle
      exact startPop query (Option.isNone_iff_eq_none.mp idle)
    · exact holds
  | pop =>
    unfold step Queue.pop
    dsimp only
    split
    · exact holds
    · rename_i pc busy
      exact pop pc busy

/-! What a thread does is not changed by the steps of the others. -/

/-- The steps of the push of `id`. -/
def Action.isPush (id : Nat) : Action code → Bool
  | .push other => other = id
  | .startPush .. | .startPop _ | .pop => false

/-- The steps of the operation of the consumer. -/
def Action.isPop : Action code → Bool
  | .pop => true
  | .startPush .. | .push _ | .startPop _ => false

theorem step_keeps_push {queue : Queue code} {id : Nat} {push : Item × code.Push}
    (running : queue.pushes id = some push) {action : Action code} (other : action.isPush id = false) :
    (queue.step action).pushes id = some push ∧
      itemsOf id (queue.step action).accepted = itemsOf id queue.accepted := by
  refine @step_invariant _ _ (fun later => later.pushes id = some push ∧
    itemsOf id later.accepted = itemsOf id queue.accepted) queue action ⟨running, rfl⟩ ?_ ?_ ?_ ?_
  · intro third item _ idle
    have apart : id ≠ third := by
      rintro rfl
      rw [running] at idle
      cases idle
    exact ⟨(update_of_ne apart ..).trans running, rfl⟩
  · rintro third item pc rfl _
    have apart : id ≠ third := by
      rintro rfl
      simp [Action.isPush] at other
    obtain ⟨progress, shared⟩ := code.push third item pc queue.shared
    cases progress with
    | more later => exact ⟨(update_of_ne apart ..).trans running, rfl⟩
    | done ok =>
      refine ⟨(update_of_ne apart ..).trans running, ?_⟩
      cases ok with
      | false => rfl
      | true => simp [pushed, itemsOf_other apart.symm]
  · exact fun _ _ => ⟨running, rfl⟩
  · intro pc _
    obtain ⟨progress, shared⟩ := code.pop pc queue.shared
    cases progress <;> exact ⟨running, rfl⟩

/-! What the steps do to the logs. -/

theorem push_logs (queue : Queue code) (id : Nat) : (queue.push id).2.popped = queue.popped ∧
      (((queue.push id).1 = some true ∧
          ∃ item, (queue.push id).2.accepted = queue.accepted ++ [(id, item)]) ∨
        ((queue.push id).1 ≠ some true ∧ (queue.push id).2.accepted = queue.accepted)) := by
  unfold push
  split
  · exact ⟨rfl, .inr ⟨nofun, rfl⟩⟩
  · rename_i item pc busy
    obtain ⟨progress, shared⟩ := code.push id item pc queue.shared
    cases progress with
    | more pc => exact ⟨rfl, .inr ⟨nofun, rfl⟩⟩
    | done ok =>
      cases ok with
      | false => exact ⟨rfl, .inr ⟨nofun, rfl⟩⟩
      | true => exact ⟨rfl, .inl ⟨rfl, item, rfl⟩⟩

theorem pop_logs (queue : Queue code) : queue.pop.2.accepted = queue.accepted ∧
      queue.pop.2.popped = queue.popped ++ (queue.pop.1.elim [] Answer.items) := by
  unfold pop
  split
  · exact ⟨rfl, (List.append_nil _).symm⟩
  · rename_i pc busy
    obtain ⟨progress, shared⟩ := code.pop pc queue.shared
    cases progress with
    | more pc => exact ⟨rfl, (List.append_nil _).symm⟩
    | done answer => exact ⟨rfl, rfl⟩

end Queue

theorem forall_thread_update {Thread : Type} {threads : Nat → Option Thread} {id : Nat}
    {moved : Option Thread} {fact : Nat → Thread → Prop}
    (here : ∀ thread, moved = some thread → fact id thread)
    (others : ∀ other thread, other ≠ id → threads other = some thread → fact other thread) :
    ∀ other thread, update threads id moved other = some thread → fact other thread := by
  intro other thread running
  by_cases same : other = id
  · subst same
    rw [update_self] at running
    exact here thread running
  · rw [update_of_ne same] at running
    exact others other thread same running

theorem bind_update {Thread Known : Type} (threads : Nat → Option Thread) (id : Nat)
    (moved : Option Thread) (known : Thread → Option Known) :
    (fun other => (update threads id moved other).bind known) =
      update (fun other => (threads other).bind known) id (moved.bind known) := by
  funext other
  by_cases same : other = id
  · subst same
    simp
  · simp [same]

theorem bind_update_same {Thread Known : Type} {threads : Nat → Option Thread} (id : Nat)
    (moved : Option Thread) {known : Thread → Option Known}
    (same : moved.bind known = (threads id).bind known) :
    (fun other => (update threads id moved other).bind known) =
      fun other => (threads other).bind known := by
  rw [bind_update, same]
  exact update_eq_self id _

/-! Tickets: a producer takes a ticket for its item, and its push returns later. -/

/-- A producer holds at most one ticket whose item was not accepted yet, its last one. -/
structure Ticketed {Item : Type} (tickets accepted : List (Nat × Item))
    (held : Nat → Option Nat) : Prop where
  free : ∀ id, held id = none → itemsOf id tickets = itemsOf id accepted
  holding : ∀ id pos, held id = some pos → itemsOf id (tickets.take pos) = itemsOf id accepted ∧
      ∃ item, tickets[pos]? = some (id, item) ∧ itemsOf id (tickets.drop (pos + 1)) = []

namespace Ticketed

variable {Item : Type} {tickets accepted : List (Nat × Item)} {held : Nat → Option Nat}

theorem nil : Ticketed ([] : List (Nat × Item)) [] (fun _ => none) where
  free _ _ := rfl
  holding _ _ busy := by cases busy

variable (ticketed : Ticketed tickets accepted held)
include ticketed

theorem lt_length {id pos : Nat} (busy : held id = some pos) : pos < tickets.length := by
  obtain ⟨_, item, here, _⟩ := ticketed.holding id pos busy
  exact (List.getElem?_eq_some_iff.mp here).1

theorem holder_unique {id other pos : Nat}
    (busy : held id = some pos) (too : held other = some pos) : id = other := by
  obtain ⟨_, item, here, _⟩ := ticketed.holding id pos busy
  obtain ⟨_, item', here', _⟩ := ticketed.holding other pos too
  rw [here] at here'
  exact congrArg Prod.fst (Option.some.inj here')

theorem take {id : Nat} (idle : held id = none) (item : Item) :
    Ticketed (tickets ++ [(id, item)]) accepted (update held id (some tickets.length)) where
  free other free := by
    have different : other ≠ id := by
      rintro rfl
      rw [update_self] at free
      cases free
    rw [update_of_ne different] at free
    rw [itemsOf_append, itemsOf_other different.symm, List.append_nil]
    exact ticketed.free other free
  holding other pos busy := by
    by_cases same : other = id
    · subst same
      rw [update_self] at busy
      cases busy
      refine ⟨?_, item, ?_, ?_⟩
      · rw [List.take_left]
        exact ticketed.free other idle
      · simp
      · simp
    · rw [update_of_ne same] at busy
      have inside := ticketed.lt_length busy
      obtain ⟨before, own, here, after⟩ := ticketed.holding other pos busy
      refine ⟨?_, own, ?_, ?_⟩
      · rw [List.take_append_of_le_length (by omega)]
        exact before
      · rwa [List.getElem?_append_left inside]
      · rw [List.drop_append_of_le_length (by omega), itemsOf_append, itemsOf_other (Ne.symm same),
          List.append_nil]
        exact after

theorem accept {id pos : Nat} {item : Item}
    (busy : held id = some pos) (here : tickets[pos]? = some (id, item)) :
    Ticketed tickets (accepted ++ [(id, item)]) (update held id none) where
  free other free := by
    by_cases same : other = id
    · subst same
      obtain ⟨before, _, _, after⟩ := ticketed.holding other pos busy
      obtain ⟨inside, there⟩ := List.getElem?_eq_some_iff.mp here
      have split : tickets = tickets.take pos ++ [(other, item)] ++ tickets.drop (pos + 1) := by
        rw [← there, List.append_assoc, List.singleton_append, List.getElem_cons_drop,
          List.take_append_drop]
      rw [split, itemsOf_append, itemsOf_append, after, before, List.append_nil, itemsOf_append]
    · rw [update_of_ne same] at free
      rw [itemsOf_append, itemsOf_other (Ne.symm same), List.append_nil]
      exact ticketed.free other free
  holding other place taken := by
    have different : other ≠ id := by
      rintro rfl
      rw [update_self] at taken
      cases taken
    rw [update_of_ne different] at taken
    obtain ⟨before, own, there, after⟩ := ticketed.holding other place taken
    refine ⟨?_, own, there, after⟩
    rw [itemsOf_append, itemsOf_other different.symm, List.append_nil]
    exact before

/-- What was served was accepted, and each producer's items come in the order of its pushes. -/
theorem served {popped : List (Nat × Item)}
    (order : popped <+: tickets) (before : ∀ id pos, held id = some pos → popped.length ≤ pos)
    (id : Nat) : itemsOf id popped <+: itemsOf id accepted := by
  cases holding : held id with
  | none =>
    rw [← ticketed.free id holding]
    exact itemsOf_mono id order
  | some pos =>
    rw [← (ticketed.holding id pos holding).1]
    apply itemsOf_mono
    rw [List.prefix_iff_eq_take.mp order]
    exact List.take_prefix_take_left (before id pos holding)

end Ticketed

end Locasta.Data
