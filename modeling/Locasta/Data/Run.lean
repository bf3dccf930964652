namespace Locasta.Data

/-! Runs of a deterministic machine under a guard on its steps. -/

universe u v

variable {State : Type u} {Action : Type v} (step : State → Action → State)

def run (state : State) (actions : List Action) : State := actions.foldl step state

/-- `guard` holds at every step of the run, each time in the state before it. -/
def Along (guard : State → Action → Prop) : State → List Action → Prop
  | _, [] => True
  | state, action :: rest => guard state action ∧ Along guard (step state action) rest

instance decidableAlong (guard : State → Action → Prop)
    [∀ state action, Decidable (guard state action)] :
    (state : State) → (actions : List Action) → Decidable (Along step guard state actions)
  | _, [] => isTrue trivial
  | state, action :: rest =>
    have := decidableAlong guard (step state action) rest
    inferInstanceAs (Decidable (guard state action ∧ Along step guard (step state action) rest))

variable {step} {guard : State → Action → Prop} {invariant : State → Prop}

theorem along_append {state : State} {first second : List Action} :
    Along step guard state (first ++ second) ↔
      Along step guard state first ∧ Along step guard (run step state first) second := by
  induction first generalizing state with
  | nil => exact ⟨fun later => ⟨trivial, later⟩, fun both => both.2⟩
  | cons action rest ih =>
    constructor
    · rintro ⟨here, later⟩
      obtain ⟨early, late⟩ := ih.mp later
      exact ⟨⟨here, early⟩, late⟩
    · rintro ⟨⟨here, early⟩, late⟩
      exact ⟨here, ih.mpr ⟨early, late⟩⟩

/-- What every guarded step preserves holds after every guarded run. -/
theorem run_invariant (preserved : ∀ state action, invariant state → guard state action →
      invariant (step state action))
    {state : State} {actions : List Action} (initial : invariant state)
    (guarded : Along step guard state actions) : invariant (run step state actions) := by
  induction actions generalizing state with
  | nil => exact initial
  | cons action rest ih => exact ih (preserved state action initial guarded.1) guarded.2

theorem run_always (preserved : ∀ state action, invariant state → invariant (step state action))
    {state : State} {actions : List Action} (initial : invariant state) :
    invariant (run step state actions) := by
  induction actions generalizing state with
  | nil => exact initial
  | cons action rest ih => exact ih (preserved state action initial)

/-- An invariant of the guarded steps may be used to establish a further fact
about each step. -/
theorem along_of_invariant {fact : State → Action → Prop}
    (preserved : ∀ state action, invariant state → guard state action →
      invariant (step state action))
    (holds : ∀ state action, invariant state → guard state action → fact state action)
    {state : State} {actions : List Action} (initial : invariant state)
    (guarded : Along step guard state actions) : Along step fact state actions := by
  induction actions generalizing state with
  | nil => trivial
  | cons action rest ih =>
    exact ⟨holds state action initial guarded.1,
      ih (preserved state action initial guarded.1) guarded.2⟩

/-- A thread whose own steps bring it nearer to its goal, and which the others do not throw back,
reaches it. -/
theorem run_reaches {goal : State → Prop} {mine : Action → Bool} {left : State → Nat}
    (positive : ∀ state, invariant state → 0 < left state)
    (own : ∀ state action, invariant state → guard state action → mine action = true →
      goal (step state action) ∨ invariant (step state action) ∧ left (step state action) < left state)
    (others : ∀ state action, invariant state → guard state action → mine action = false →
      invariant (step state action) ∧ left (step state action) ≤ left state)
    {state : State} {actions : List Action} (initial : invariant state)
    (guarded : Along step guard state actions) (enough : left state ≤ actions.countP mine) :
    ∃ first, first <+: actions ∧ goal (run step state first) := by
  induction actions generalizing state with
  | nil => exact absurd enough (Nat.not_le_of_lt (positive state initial))
  | cons action rest ih =>
    have later : invariant (step state action) → left (step state action) ≤ rest.countP mine →
        ∃ first, first <+: action :: rest ∧ goal (run step state first) := by
      intro holds near
      obtain ⟨first, early, reached⟩ := ih holds guarded.2 near
      exact ⟨action :: first, List.cons_prefix_cons.mpr ⟨rfl, early⟩, reached⟩
    cases turn : mine action with
    | true =>
      rw [List.countP_cons_of_pos turn] at enough
      obtain reached | ⟨holds, nearer⟩ := own state action initial guarded.1 turn
      · exact ⟨[action], List.cons_prefix_cons.mpr ⟨rfl, List.nil_prefix⟩, reached⟩
      · exact later holds (by omega)
    | false =>
      rw [List.countP_cons_of_neg (by simp [turn])] at enough
      obtain ⟨holds, near⟩ := others state action initial guarded.1 turn
      exact later holds (Nat.le_trans near enough)

/-! What a run records only grows: an early part of a log stays where it is. -/

variable {Entry : Type u} {short long : List Entry}

theorem take_extend {count : Nat} (kept : short <+: long) (inside : count ≤ short.length) :
    long.take count = short.take count := by
  obtain ⟨rest, rfl⟩ := kept
  exact List.take_append_of_le_length inside

theorem getElem?_extend {index : Nat} {entry : Entry} (kept : short <+: long)
    (here : short[index]? = some entry) : long[index]? = some entry := by
  obtain ⟨rest, rfl⟩ := kept
  rwa [List.getElem?_append_left (List.getElem?_eq_some_iff.mp here).1]

theorem prefix_snoc {entry : Entry} (kept : short <+: long)
    (here : long[short.length]? = some entry) : short ++ [entry] <+: long := by
  obtain ⟨inside, rfl⟩ := List.getElem?_eq_some_iff.mp here
  have whole := List.prefix_iff_eq_take.mp kept
  rw [List.prefix_iff_eq_take, List.length_append, List.length_singleton,
    List.take_succ_eq_append_getElem inside, ← whole]

end Locasta.Data
