import Mathlib.Data.List.Basic

namespace Locasta.Data

/-! What a reader gets from a partial source that it reads from a place on until something is
missing. -/

variable {Item : Type}

def readable (source : Nat → Option Item) : Nat → Nat → List Item
  | _, 0 => []
  | start, count + 1 =>
    match source start with
    | some item => item :: readable source (start + 1) count
    | none => []

variable {source : Nat → Option Item} {start count : Nat}

theorem readable_some {item : Item} (found : source start = some item) (count : Nat) :
    readable source start (count + 1) = item :: readable source (start + 1) count := by
  rw [readable, found]

theorem readable_none (missing : source start = none) (count : Nat) :
    readable source start count = [] := by
  cases count with
  | zero => rfl
  | succ count => rw [readable, missing]

theorem readable_unique {items : List Item} (short : items.length ≤ count)
    (same : ∀ index < items.length, source (start + index) = items[index]?)
    (stop : items.length < count → source (start + items.length) = none) :
    readable source start count = items := by
  induction count generalizing start items with
  | zero => rw [List.length_eq_zero_iff.mp (Nat.le_zero.mp short)]; rfl
  | succ count ih =>
    cases items with
    | nil => exact readable_none (stop (Nat.zero_lt_succ count)) _
    | cons item items =>
      have first : source start = some item := same 0 (Nat.zero_lt_succ _)
      rw [readable_some first, ih (Nat.le_of_succ_le_succ short)]
      · intro index inside
        have next := same (index + 1) (Nat.succ_lt_succ inside)
        rwa [List.getElem?_cons_succ, ← Nat.add_assoc, Nat.add_right_comm] at next
      · intro more
        have next := stop (Nat.succ_lt_succ more)
        rwa [List.length_cons, ← Nat.add_assoc, Nat.add_right_comm] at next

theorem readable_length_le (source : Nat → Option Item) (start count : Nat) :
    (readable source start count).length ≤ count := by
  induction count generalizing start with
  | zero => exact Nat.le_refl 0
  | succ count ih =>
    unfold readable
    split
    · exact Nat.succ_le_succ (ih (start + 1))
    · exact Nat.zero_le _

theorem readable_getElem? {index : Nat} (inside : index < (readable source start count).length) :
    (readable source start count)[index]? = source (start + index) := by
  induction count generalizing start index with
  | zero => exact absurd inside (Nat.not_lt_zero index)
  | succ count ih =>
    cases found : source start with
    | none =>
      rw [readable_none found] at inside
      exact absurd inside (Nat.not_lt_zero index)
    | some item =>
      rw [readable_some found] at inside ⊢
      cases index with
      | zero => rw [List.getElem?_cons_zero, Nat.add_zero, found]
      | succ index =>
        rw [List.getElem?_cons_succ, ih (Nat.lt_of_succ_lt_succ inside), Nat.add_right_comm,
          Nat.add_assoc]

theorem le_readable_length {bound : Nat} (inside : bound ≤ count)
    (present : ∀ index < bound, source (start + index) ≠ none) :
    bound ≤ (readable source start count).length := by
  induction count generalizing start bound with
  | zero => exact inside
  | succ count ih =>
    cases bound with
    | zero => exact Nat.zero_le _
    | succ bound =>
      cases found : source start with
      | none => exact absurd found (present 0 (Nat.zero_lt_succ bound))
      | some item =>
        rw [readable_some found]
        refine Nat.succ_le_succ (ih (Nat.le_of_succ_le_succ inside) ?_)
        intro index below
        have next := present (index + 1) (Nat.succ_lt_succ below)
        rwa [← Nat.add_assoc, Nat.add_right_comm] at next

theorem readable_add (source : Nat → Option Item) (start first second : Nat) :
    readable source start (first + second) =
      if (readable source start first).length < first then readable source start first
      else readable source start first ++ readable source (start + first) second := by
  induction first generalizing start with
  | zero => simp [readable]
  | succ first ih =>
    cases found : source start with
    | none => simp [readable_none found]
    | some item =>
      rw [Nat.add_right_comm, readable_some found, readable_some found, ih (start + 1),
        Nat.add_right_comm start 1 first, Nat.add_assoc start first 1]
      simp only [List.length_cons, Nat.add_lt_add_iff_right]
      split <;> rfl

end Locasta.Data
