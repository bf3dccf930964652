import Mathlib.Algebra.BigOperators.Group.Finset.Basic
import Mathlib.Algebra.BigOperators.Intervals
import Mathlib.Data.List.GetD

namespace Locasta.Data

/-! Debts that are opened one after the other and settled one by one, by number. -/

def outstanding (weights settled : List Nat) : Nat :=
  ∑ number ∈ Finset.range weights.length, if number ∈ settled then 0 else weights.getD number 0

variable {weights settled : List Nat} {number weight : Nat}

theorem outstanding_append (known : ∀ number ∈ settled, number < weights.length) (weight : Nat) :
    outstanding (weights ++ [weight]) settled = outstanding weights settled + weight := by
  have fresh : weights.length ∉ settled := fun member => Nat.lt_irrefl _ (known _ member)
  rw [outstanding, List.length_append, List.length_singleton, Finset.sum_range_succ, if_neg fresh,
    List.getD_append_right _ _ _ _ (Nat.le_refl _), Nat.sub_self]
  congr 1
  apply Finset.sum_congr rfl
  intro number inside
  rw [List.getD_append _ _ _ _ (Finset.mem_range.mp inside)]

variable (here : weights[number]? = some weight) (fresh : number ∉ settled)
include here fresh

theorem outstanding_settle :
    outstanding weights (number :: settled) + weight = outstanding weights settled := by
  have inside : number ∈ Finset.range weights.length :=
    Finset.mem_range.mpr (List.getElem?_eq_some_iff.mp here).1
  have value : weights.getD number 0 = weight := by
    rw [List.getD_eq_getElem?_getD, here]
    rfl
  rw [outstanding, outstanding, ← Finset.sum_erase_add _ _ inside, ← Finset.sum_erase_add _ _ inside,
    if_pos (List.mem_cons_self ..), if_neg fresh, value, Nat.add_zero]
  congr 1
  apply Finset.sum_congr rfl
  intro other member
  have different := (Finset.mem_erase.mp member).1
  simp only [List.mem_cons, different, false_or]

theorem le_outstanding :
    weight ≤ outstanding weights settled := by
  rw [← outstanding_settle here fresh]
  exact Nat.le_add_left ..

end Locasta.Data
