import Locasta.Scalerpc.Schedule
import Mathlib.Data.Nat.Nth

namespace Locasta.Scalerpc

open Data

/-! The groups with connections take turns. -/

/-- The scheduler, with the `context_switch_seq` of each group. -/
structure GroupContexts where
  scheduler : GroupScheduler
  groupSeqs : List Nat

namespace GroupContexts

/-- The new sequence number is returned. -/
def doContextSwitch (contexts : GroupContexts) : Nat × GroupContexts :=
  let scheduler := contexts.scheduler.doContextSwitch
  (scheduler.contextSwitchSeq, { contexts with scheduler })

def contextSwitch (contexts : GroupContexts) : Nat × GroupContexts :=
  let scheduler := contexts.scheduler.doContextSwitch
  (scheduler.contextSwitchSeq,
    { scheduler
      groupSeqs := contexts.groupSeqs.set scheduler.currentGroup scheduler.contextSwitchSeq })

def switch (contexts : GroupContexts) (mutably : Bool) : Nat × GroupContexts :=
  if mutably then contexts.contextSwitch else contexts.doContextSwitch

def step (contexts : GroupContexts) (mutably : Bool) : GroupContexts := (contexts.switch mutably).2

theorem switch_scheduler (contexts : GroupContexts) (mutably : Bool) :
    (contexts.switch mutably).2.scheduler = contexts.scheduler.doContextSwitch ∧
      (contexts.switch mutably).1 = contexts.scheduler.contextSwitchSeq + 1 := by
  cases mutably <;> exact ⟨rfl, rfl⟩

end GroupContexts

namespace GroupScheduler

variable {scheduler : GroupScheduler}

/-- The loop stops at the first group with connections. -/
theorem skipEmpty_first {first : Nat} : ∀ {start turns : Nat}, first < turns →
    scheduler.connectionsOf ((start + first) % scheduler.groups.length) ≠ [] →
    (∀ distance < first, scheduler.connectionsOf ((start + distance) % scheduler.groups.length) = []) →
    scheduler.skipEmpty turns (start % scheduler.groups.length) =
      (start + first) % scheduler.groups.length := by
  induction first with
  | zero => exact fun some used _ => skipEmpty_here some used
  | succ first ih =>
    intro start turns enough used before
    obtain ⟨turns, rfl⟩ := Nat.exists_eq_add_one_of_ne_zero (Nat.ne_zero_of_lt enough)
    have here : scheduler.connectionsOf (start % scheduler.groups.length) = [] :=
      before 0 (Nat.succ_pos _)
    rw [skipEmpty, if_neg (not_not.mpr here), Nat.mod_add_mod, ih (Nat.lt_of_succ_lt_succ enough)]
    · rw [Nat.add_assoc, Nat.add_comm 1]
    · rwa [Nat.add_assoc, Nat.add_comm 1]
    · intro distance less
      rw [Nat.add_assoc, Nat.add_comm 1]
      exact before (distance + 1) (Nat.succ_lt_succ less)

/-- The group `distance` places behind the one after the current group has connections. -/
def Used (scheduler : GroupScheduler) (distance : Nat) : Prop :=
  scheduler.connectionsOf ((scheduler.currentGroup + 1 + distance) % scheduler.groups.length) ≠ []

instance (scheduler : GroupScheduler) : DecidablePred scheduler.Used :=
  fun _ => inferInstanceAs (Decidable (_ ≠ _))

theorem exists_used {group : Nat} (used : scheduler.connectionsOf group ≠ []) (scanned : Nat) :
    ∃ first < scheduler.groups.length, scheduler.Used (scanned + first) ∧
      ∀ distance < first, ¬ scheduler.Used (scanned + distance) := by
  have inside : group < scheduler.groups.length := by
    by_contra outside
    exact used (List.getD_eq_default _ _ (Nat.not_lt.mp outside))
  have positive : 0 < scheduler.groups.length := Nat.zero_lt_of_lt inside
  let start := scheduler.currentGroup + 1 + scanned
  have there : scheduler.Used (scanned +
      (group + (scheduler.groups.length - start % scheduler.groups.length)) %
        scheduler.groups.length) := by
    have below := Nat.mod_lt start positive
    unfold Used
    rw [← Nat.add_assoc, Nat.add_mod_mod, ← Nat.mod_add_mod,
      show start % scheduler.groups.length + (group + (scheduler.groups.length -
        start % scheduler.groups.length)) = group + scheduler.groups.length by omega,
      Nat.add_mod_right, Nat.mod_eq_of_lt inside]
    exact used
  have some : ∃ distance, scheduler.Used (scanned + distance) := ⟨_, there⟩
  exact ⟨Nat.find some, Nat.lt_of_le_of_lt (Nat.find_min' some there) (Nat.mod_lt _ positive),
    Nat.find_spec some, fun _ => Nat.find_min some⟩

/-- `switches` groups with connections were passed on the way from the group of `origin`. -/
structure Passed (origin scheduler : GroupScheduler) (switches scanned : Nat) : Prop where
  groups : scheduler.groups = origin.groups
  seq : scheduler.contextSwitchSeq = origin.contextSwitchSeq + switches
  place : (scheduler.currentGroup + 1) % origin.groups.length =
    (origin.currentGroup + 1 + scanned) % origin.groups.length
  count : Nat.count origin.Used scanned = switches

theorem Passed.doContextSwitch {origin : GroupScheduler} {switches scanned group : Nat}
    (passed : Passed origin scheduler switches scanned) (used : origin.connectionsOf group ≠ []) :
    scheduler.doContextSwitch.currentGroup =
        (origin.currentGroup + 1 + Nat.nth origin.Used switches) % origin.groups.length ∧
      ∃ scanned, Passed origin scheduler.doContextSwitch (switches + 1) scanned := by
  obtain ⟨first, less, here, before⟩ := exists_used used scanned
  have stop : scheduler.doContextSwitch.currentGroup =
      (origin.currentGroup + 1 + (scanned + first)) % origin.groups.length := by
    unfold GroupScheduler.doContextSwitch
    dsimp only
    have same (group : Nat) : scheduler.connectionsOf group = origin.connectionsOf group :=
      congrArg (·.getD group []) passed.groups
    have loop := @skipEmpty_first scheduler first (origin.currentGroup + 1 + scanned)
    simp only [passed.groups, same, Nat.add_assoc _ scanned] at loop
    rw [passed.groups, passed.place]
    exact loop less here fun distance early => not_not.mp (before distance early)
  have count : Nat.count origin.Used (scanned + first) = switches := by
    rw [Nat.count_add, passed.count, Nat.count_of_forall_not before, Nat.add_zero]
  refine ⟨?_, scanned + first + 1, passed.groups, ?_, ?_, ?_⟩
  · rw [stop, ← count, Nat.nth_count here]
  · exact congrArg (· + 1) passed.seq
  · rw [stop, Nat.mod_add_mod, Nat.add_assoc]
  · rw [Nat.count_succ, if_pos here, count]

end GroupScheduler

namespace GroupContexts

/-- The next call returns the initial sequence number plus the number of calls, and goes to the
group with connections whose turn it is. -/
theorem round_robin (contexts : GroupContexts)
    (some : ∃ group, contexts.scheduler.connectionsOf group ≠ []) (calls : List Bool) (last : Bool) :
    let origin := contexts.scheduler
    let result := (run step contexts calls).switch last
    result.2.scheduler.currentGroup =
        (origin.currentGroup + 1 + Nat.nth origin.Used calls.length) % origin.groups.length ∧
      result.2.scheduler.nextGroup = (result.2.scheduler.currentGroup + 1) % origin.groups.length ∧
      result.1 = origin.contextSwitchSeq + (calls.length + 1) ∧
      ∀ contexts : GroupContexts,
        contexts.doContextSwitch.2.scheduler = contexts.contextSwitch.2.scheduler ∧
          contexts.doContextSwitch.1 = contexts.contextSwitch.1 := by
  obtain ⟨group, used⟩ := some
  have passed : ∃ scanned, GroupScheduler.Passed contexts.scheduler
      (run step contexts calls).scheduler calls.length scanned := by
    induction calls using List.reverseRecOn with
    | nil => exact ⟨0, rfl, rfl, rfl, Nat.count_zero _⟩
    | append_singleton calls call ih =>
      obtain ⟨scanned, passed⟩ := ih
      have after := (switch_scheduler (run step contexts calls) call).1
      rw [run, List.foldl_append, List.length_append]
      exact after ▸ (passed.doContextSwitch used).2
  obtain ⟨scanned, before⟩ := passed
  obtain ⟨scheduler, seq⟩ := switch_scheduler (run step contexts calls) last
  intro origin result
  rw [scheduler, seq, before.seq]
  refine ⟨(before.doContextSwitch used).1, ?_, Nat.add_assoc .., fun _ => ⟨rfl, rfl⟩⟩
  rw [← before.groups]
  rfl

/-- With connections in the groups 0 and 2 of three, the second switch comes back to group 0. -/
theorem round_robin_twoOfThree :
    let contexts : GroupContexts :=
      ⟨((GroupScheduler.new 3).addConnection 0).addConnection 2, [0, 0, 0]⟩
    (contexts.switch true).2.scheduler.currentGroup = 2 ∧
      ((contexts.switch true).2.switch false).1 = 2 :=
  ⟨by decide, (round_robin _ ⟨2, by decide⟩ [true] false).2.2.1⟩

end GroupContexts

end Locasta.Scalerpc
