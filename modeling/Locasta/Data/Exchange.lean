import Mathlib.Data.List.Basic

namespace Locasta.Data

/-! Requests and the replies to them, by number.

Requests are answered at most once each and in any order; the answers are returned in the order in
which they were given.
-/

/-- Of the delivered requests each one is open or answered. -/
structure Exchange (requested delivered returned : Nat) (opened answered : List Nat) : Prop where
  delivered_le : delivered ≤ requested
  split : (answered ++ opened).Perm (List.range delivered)
  returned_le : returned ≤ answered.length

namespace Exchange

variable {requested delivered returned : Nat} {opened answered : List Nat}

theorem nil : Exchange 0 0 0 [] [] := ⟨Nat.le_refl 0, .refl [], Nat.le_refl 0⟩

variable (exchange : Exchange requested delivered returned opened answered)
include exchange

theorem request : Exchange (requested + 1) delivered returned opened answered :=
  { exchange with delivered_le := Nat.le_succ_of_le exchange.delivered_le }

theorem deliver (waiting : delivered < requested) :
    Exchange requested (delivered + 1) returned (opened ++ [delivered]) answered where
  delivered_le := waiting
  split := by
    rw [← List.append_assoc, List.range_succ]
    exact exchange.split.append_right _
  returned_le := exchange.returned_le

theorem reply {index number : Nat} (here : opened[index]? = some number) :
    Exchange requested delivered returned (opened.eraseIdx index) (answered ++ [number]) where
  delivered_le := exchange.delivered_le
  split := by
    refine List.Perm.trans ?_ exchange.split
    obtain ⟨inside, rfl⟩ := List.getElem?_eq_some_iff.mp here
    rw [List.append_assoc, List.eraseIdx_eq_take_drop_succ]
    apply List.Perm.append_left
    have split : opened = opened.take index ++ opened[index] :: opened.drop (index + 1) := by
      rw [List.getElem_cons_drop, List.take_append_drop]
    refine List.Perm.trans ?_ (.of_eq split.symm)
    rw [List.singleton_append]
    exact List.perm_middle.symm
  returned_le := by
    rw [List.length_append]
    exact Nat.le_add_right_of_le exchange.returned_le

theorem giveBack (unread : returned < answered.length) :
    Exchange requested delivered (returned + 1) opened answered :=
  { exchange with returned_le := unread }

theorem length_add : answered.length + opened.length = delivered := by
  rw [← List.length_append, exchange.split.length_eq, List.length_range]

theorem nodup : answered.Nodup :=
  (List.nodup_append.mp (exchange.split.nodup_iff.mpr List.nodup_range)).1

theorem lt_of_mem_answered {number : Nat} (member : number ∈ answered) : number < delivered :=
  List.mem_range.mp (exchange.split.mem_iff.mp (List.mem_append_left _ member))

end Exchange

end Locasta.Data
