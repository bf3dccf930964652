import Mathlib.Data.List.Basic
import Mathlib.Data.List.Nodup

namespace Locasta.Data

/-! Lists whose links are kept in a table: entry `id` of the table is the element behind `id`, and
`stop`, which is no element, ends the list. -/

/-- What follows `head` in the table are `ids`. -/
def Chain (next : List Nat) (stop : Nat) : Nat → List Nat → Prop
  | head, [] => head = stop
  | head, id :: rest => head = id ∧ id ≠ stop ∧ ∃ after, next[id]? = some after ∧
      Chain next stop after rest

/-- The links from `head` on, as far as `fuel` goes. -/
def walk (next : List Nat) (stop : Nat) : Nat → Nat → List Nat
  | 0, _ => []
  | fuel + 1, head =>
    if head = stop then [] else head :: walk next stop fuel (next[head]?.getD stop)

namespace Chain

variable {next : List Nat} {stop head : Nat} {ids : List Nat}

section

variable (chain : Chain next stop head ids)
include chain

theorem ne_stop : ∀ id ∈ ids, id ≠ stop := by
  induction ids generalizing head with
  | nil => simp
  | cons first rest ih =>
    obtain ⟨_, real, after, _, behind⟩ := chain
    intro id member
    rcases List.mem_cons.mp member with rfl | later
    · exact real
    · exact ih behind id later

theorem lt_length : ∀ id ∈ ids, id < next.length := by
  induction ids generalizing head with
  | nil => simp
  | cons first rest ih =>
    obtain ⟨_, _, after, link, behind⟩ := chain
    intro id member
    rcases List.mem_cons.mp member with rfl | later
    · exact (List.getElem?_eq_some_iff.mp link).1
    · exact ih behind id later

theorem congr {other : List Nat}
    (same : ∀ id ∈ ids, other[id]? = next[id]?) : Chain other stop head ids := by
  induction ids generalizing head with
  | nil => exact chain
  | cons first rest ih =>
    obtain ⟨here, real, after, link, behind⟩ := chain
    refine ⟨here, real, after, (same first (List.mem_cons_self ..)).trans link, ih behind ?_⟩
    intro id member
    exact same id (List.mem_cons_of_mem _ member)

theorem set_other {id : Nat} (absent : id ∉ ids) (value : Nat) :
    Chain (next.set id value) stop head ids := by
  refine chain.congr fun other member => List.getElem?_set_ne ?_
  rintro rfl
  exact absent member

end

theorem snoc {last id : Nat} (chain : Chain next stop head (ids ++ [last]))
    (nodup : (ids ++ [last]).Nodup) (fresh : id ∉ ids ++ [last]) (real : id ≠ stop)
    (ends : next[id]? = some stop) :
    Chain (next.set last id) stop head (ids ++ [last] ++ [id]) := by
  induction ids generalizing head with
  | nil =>
    obtain ⟨here, genuine, after, link, _⟩ := chain
    have inside := (List.getElem?_eq_some_iff.mp link).1
    have apart : last ≠ id := fun same => fresh (by simp [same])
    exact ⟨here, genuine, id, List.getElem?_set_self inside, rfl, real, stop,
      (List.getElem?_set_ne apart).trans ends, rfl⟩
  | cons first rest ih =>
    obtain ⟨here, genuine, after, link, behind⟩ := chain
    rw [List.cons_append, List.nodup_cons] at nodup
    have apart : last ≠ first := fun same => nodup.1 (by simp [same])
    refine ⟨here, genuine, after, (List.getElem?_set_ne apart).trans link, ih behind nodup.2 ?_⟩
    exact fun member => fresh (List.mem_cons_of_mem _ member)

theorem walk_eq {fuel : Nat} (chain : Chain next stop head ids) (enough : ids.length < fuel) :
    walk next stop fuel head = ids := by
  induction fuel generalizing head ids with
  | zero => exact absurd enough (Nat.not_lt_zero _)
  | succ fuel ih =>
    cases ids with
    | nil =>
      obtain rfl : head = stop := chain
      exact if_pos rfl
    | cons id rest =>
      obtain ⟨rfl, real, after, link, behind⟩ := chain
      unfold walk
      rw [if_neg real, link, Option.getD_some, ih behind (Nat.lt_of_succ_lt_succ enough)]

end Chain

end Locasta.Data
