import Locasta.Data.Ring
import Mathlib.Data.List.Perm.Subperm
import Mathlib.Logic.Function.Basic

namespace Locasta.Data

open Function

/-! Numbers that are given out one after the other and settled in any order, with a ring of places.

The place of a number is given to the next one only when the number is settled, so the numbers that
are still open lie within one turn of the ring.
-/

/-- The open ones among the first `count` numbers are among the last `size` of them. -/
def OpenWithin (size count : Nat) (settled : List Nat) : Prop :=
  ∀ number < count, number ∉ settled → count ≤ number + size

namespace OpenWithin

variable {size count : Nat} {settled : List Nat}

theorem nil (size : Nat) (settled : List Nat) : OpenWithin size 0 settled :=
  fun _ inside => absurd inside (Nat.not_lt_zero _)

variable (within : OpenWithin size count settled)
include within

theorem apart {first second : Nat}
    (firstInside : first < count) (secondInside : second < count) (firstOpen : first ∉ settled)
    (secondOpen : second ∉ settled) (different : first ≠ second) : first % size ≠ second % size := by
  have firstWindow := within first firstInside firstOpen
  have secondWindow := within second secondInside secondOpen
  exact mod_ne_mod_of_near different (by omega) (by omega)

theorem extend (positive : 0 < size)
    (free : ∀ number < count, number ∉ settled → number % size ≠ count % size) :
    OpenWithin size (count + 1) settled := by
  intro number inside unsettled
  rcases Nat.lt_succ_iff_lt_or_eq.mp inside with earlier | rfl
  · apply Nat.lt_of_le_of_ne (within number earlier unsettled)
    intro turn
    apply free number earlier unsettled
    rw [turn, Nat.add_mod_right]
  · omega

theorem count_le : count ≤ settled.length + size := by
  have done : List.range (count - size) ⊆ settled := by
    intro number member
    have inside := List.mem_range.mp member
    apply Decidable.byContradiction
    intro unsettled
    have window := within number (by omega) unsettled
    omega
  have fewer := (List.subperm_of_subset List.nodup_range done).length_le
  rw [List.length_range] at fewer
  omega

theorem settle (number : Nat) : OpenWithin size count (settled ++ [number]) := by
  intro other inside unsettled
  rw [List.mem_append, not_or] at unsettled
  exact within other inside unsettled.1

end OpenWithin

structure Labels {Label : Type} (size : Nat) (settled : List Nat) (places : Nat → Option Label)
    (log : List Label) : Prop where
  within : OpenWithin size log.length settled
  held : ∀ number label, log[number]? = some label → number ∉ settled →
    places (number % size) = some label

namespace Labels

variable {Label : Type} {size : Nat} {settled : List Nat} {places : Nat → Option Label}
  {log : List Label}

theorem nil (size : Nat) (settled : List Nat) (places : Nat → Option Label) :
    Labels size settled places [] where
  within := .nil size settled
  held _ _ here := by simp at here

variable (labels : Labels size settled places log)
include labels

theorem free (empty : places (log.length % size) = none) :
    ∀ number < log.length, number ∉ settled → number % size ≠ log.length % size := by
  intro number inside unsettled same
  have held := labels.held number _ (List.getElem?_eq_getElem inside) unsettled
  rw [same, empty] at held
  cases held

theorem put (positive : 0 < size) (empty : places (log.length % size) = none) (label : Label) :
    Labels size settled (update places (log.length % size) (some label)) (log ++ [label]) := by
  have free := labels.free empty
  refine ⟨?_, ?_⟩
  · rw [List.length_append]
    exact labels.within.extend positive free
  · intro number other here unsettled
    rcases Nat.lt_or_ge number log.length with earlier | last
    · rw [update_of_ne (free number earlier unsettled)]
      rw [List.getElem?_append_left earlier] at here
      exact labels.held number other here unsettled
    · have inside := (List.getElem?_eq_some_iff.mp here).1
      rw [List.length_append, List.length_singleton] at inside
      obtain rfl : number = log.length := by omega
      rw [List.getElem?_append_right (Nat.le_refl _), Nat.sub_self] at here
      cases here
      rw [update_self]

theorem settle {number : Nat} {label : Label}
    (here : log[number]? = some label) (unsettled : number ∉ settled) :
    places (number % size) = some label ∧
      Labels size (settled ++ [number]) (update places (number % size) none) log := by
  have inside := (List.getElem?_eq_some_iff.mp here).1
  refine ⟨labels.held number label here unsettled, labels.within.settle number, ?_⟩
  intro other otherLabel otherHere otherOpen
  rw [List.mem_append, not_or, List.mem_singleton] at otherOpen
  have otherInside := (List.getElem?_eq_some_iff.mp otherHere).1
  rw [update_of_ne (labels.within.apart otherInside inside otherOpen.1 unsettled otherOpen.2)]
  exact labels.held other otherLabel otherHere otherOpen.1

end Labels

end Locasta.Data
