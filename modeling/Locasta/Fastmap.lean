import Mathlib.Algebra.Order.Ring.Nat
import Mathlib.Data.Set.Card

namespace Locasta.Fastmap

open Function

/-! `FastMap`: a map from `u32` as a vector that begins at the smallest key it has seen.

Removed keys leave holes, and the vector never gets shorter. An index out of bounds is `none`.
-/

structure FastMap (V : Type) where
  entries : List (Option V)
  base : UInt32
  len : Nat

variable {V : Type}

inductive Operation (V : Type) where
  | insert (key : UInt32) (value : V)
  | remove (key : UInt32)
  | get (key : UInt32)
  | getMut (key : UInt32) (update : V → V)
  | len

inductive Answer (V : Type) where
  | value (value : Option V)
  | count (count : Nat)

namespace FastMap

def new : FastMap V where
  entries := []
  base := 0
  len := 0

/-- `Vec::resize_with` with `None`. -/
def resizeWith (entries : List (Option V)) (newLen : Nat) : List (Option V) :=
  entries.take newLen ++ List.replicate (newLen - entries.length) none

def insert (map : FastMap V) (key : UInt32) (value : V) : Option (Option V × FastMap V) :=
  if map.entries.isEmpty then some (none, { entries := [some value], base := key, len := 1 })
  else if key < map.base then do
    let shift := (map.base - key).toNat
    let entries := resizeWith [] shift ++ map.entries
    let _ ← entries[0]?
    return (none, { entries := entries.set 0 (some value), base := key, len := map.len + 1 })
  else do
    let offset := (key - map.base).toNat
    let entries :=
      if offset ≥ map.entries.length then resizeWith map.entries (offset + 1) else map.entries
    let old ← entries[offset]?
    return (old, { map with
      entries := entries.set offset (some value)
      len := if old.isNone then map.len + 1 else map.len })

def get (map : FastMap V) (key : UInt32) : Option V :=
  if map.entries.isEmpty || key < map.base then none
  else map.entries[(key - map.base).toNat]?.join

/-- What is done to the value behind the reference is `update`. -/
def getMut (map : FastMap V) (key : UInt32) (update : V → V) : Option V × FastMap V :=
  if map.entries.isEmpty || key < map.base then (none, map)
  else
    let offset := (key - map.base).toNat
    match map.entries[offset]?.join with
    | none => (none, map)
    | some value => (some value, { map with entries := map.entries.set offset (some (update value)) })

def remove (map : FastMap V) (key : UInt32) : Option V × FastMap V :=
  if map.entries.isEmpty || key < map.base then (none, map)
  else
    let offset := (key - map.base).toNat
    if offset ≥ map.entries.length then (none, map)
    else
      let old := map.entries[offset]?.join
      (old, { map with
        entries := map.entries.set offset none
        len := if old.isSome then map.len - 1 else map.len })

def iter (map : FastMap V) : List (UInt32 × V) :=
  map.entries.zipIdx.filterMap fun (entry, i) =>
    entry.map fun value => (map.base + UInt32.ofNat i, value)

def perform (map : FastMap V) : Operation V → Option (Answer V × FastMap V)
  | .insert key value => (map.insert key value).map fun (old, map) => (.value old, map)
  | .remove key => some (.value (map.remove key).1, (map.remove key).2)
  | .get key => some (.value (map.get key), map)
  | .getMut key update => some (.value (map.getMut key update).1, (map.getMut key update).2)
  | .len => some (.count map.len, map)

def performAll (map : FastMap V) : List (Operation V) → Option (List (Answer V) × FastMap V)
  | [] => some ([], map)
  | operation :: rest => do
    let (answer, map) ← map.perform operation
    let (answers, map) ← map.performAll rest
    return (answer :: answers, map)

end FastMap

/-- A finite map from `u32`: there are finitely many keys. -/
abbrev FiniteMap (V : Type) := UInt32 → Option V

namespace FiniteMap

noncomputable def perform (spec : FiniteMap V) : Operation V → Answer V × FiniteMap V
  | .insert key value => (.value (spec key), update spec key (some value))
  | .remove key => (.value (spec key), update spec key none)
  | .get key => (.value (spec key), spec)
  | .getMut key change => (.value (spec key), update spec key ((spec key).map change))
  | .len => (.count {key | (spec key).isSome}.ncard, spec)

noncomputable def performAll (spec : FiniteMap V) :
    List (Operation V) → List (Answer V) × FiniteMap V
  | [] => ([], spec)
  | operation :: rest =>
    let (answer, spec) := spec.perform operation
    let (answers, spec) := performAll spec rest
    (answer :: answers, spec)

end FiniteMap

namespace FastMap

/-- What the vector has for the key `position`. -/
def entryAt (map : FastMap V) (position : Nat) : Option V :=
  if map.base.toNat ≤ position then map.entries[position - map.base.toNat]?.join else none

structure Represents (map : FastMap V) (spec : FiniteMap V) : Prop where
  bounded : map.base.toNat + map.entries.length ≤ 2 ^ 32
  counted : map.len = map.entries.countP Option.isSome
  entries : ∀ key, map.entryAt key.toNat = spec key

namespace Represents

variable {map : FastMap V} {spec : FiniteMap V} (represents : map.Represents spec) {key : UInt32}
include represents

theorem below (before : key < map.base) : spec key = none := by
  rw [← represents.entries key]
  exact if_neg (Nat.not_le.mpr before)

theorem reached (after : ¬ key < map.base) :
    key.toNat = map.base.toNat + (key - map.base).toNat ∧
      spec key = map.entries[(key - map.base).toNat]?.join := by
  have order : map.base ≤ key := UInt32.not_lt.mp after
  have natOrder : map.base.toNat ≤ key.toNat := order
  rw [← represents.entries key, entryAt, if_pos natOrder, UInt32.toNat_sub_of_le _ _ order]
  exact ⟨by omega, rfl⟩

theorem get : map.get key = spec key := by
  unfold FastMap.get
  by_cases before : key < map.base
  · simp [before, represents.below before]
  · rw [(represents.reached before).2]
    cases map.entries <;> simp [before]

/-- Empty entries at the ends stand for no key. -/
theorem pad (front back : Nat) (base : UInt32) (start : base.toNat + front = map.base.toNat)
    (room : map.base.toNat + map.entries.length + back ≤ 2 ^ 32) :
    Represents { map with
      entries := List.replicate front none ++ map.entries ++ List.replicate back none
      base } spec where
  bounded := by
    simp
    omega
  counted := by simp [represents.counted, List.countP_replicate]
  entries := by
    intro key
    rw [← represents.entries key]
    simp only [entryAt, List.append_assoc, List.getElem?_append, List.length_replicate,
      List.getElem?_replicate]
    grind

theorem taken_le {offset : Nat} {old : Option V} (there : map.entries[offset]? = some old) :
    old.toList.length ≤ map.len := by
  cases old with
  | none => exact Nat.zero_le _
  | some value =>
    rw [represents.counted]
    exact List.countP_pos_iff.mpr ⟨_, List.mem_of_getElem? there, rfl⟩

theorem set (offset len : Nat) {old entry : Option V}
    (position : key.toNat = map.base.toNat + offset) (there : map.entries[offset]? = some old)
    (counted : len + old.toList.length = map.len + entry.toList.length) :
    Represents { map with entries := map.entries.set offset entry, len }
      (update spec key entry) := by
  obtain ⟨inside, was⟩ := List.getElem?_eq_some_iff.mp there
  have taken := represents.taken_le there
  refine ⟨by simpa using represents.bounded, ?_, ?_⟩
  · rw [List.countP_set inside, was, ← represents.counted]
    cases old <;> cases entry <;> simp at counted taken ⊢ <;> omega
  · intro other
    simp only [entryAt]
    by_cases same : other = key
    · rw [same, update_self, if_pos (by omega), position, Nat.add_sub_cancel_left,
        List.getElem?_set_self inside]
      rfl
    · have apart : other.toNat ≠ key.toNat := fun equal => same (UInt32.toNat_inj.mp equal)
      rw [update_of_ne same, ← represents.entries other, entryAt]
      split
      · rw [List.getElem?_set_ne (by omega)]
      · rfl

theorem insert (key : UInt32) (value : V) :
    ∃ after, map.insert key value = some (spec key, after) ∧
      after.Represents (update spec key (some value)) := by
  have bounded := represents.bounded
  unfold FastMap.insert
  split
  · rename_i empty
    have nothing (other : UInt32) : spec other = none := by
      rw [← represents.entries other, entryAt, List.isEmpty_iff.mp empty]
      simp
    have start : Represents { entries := [none], base := key, len := 0 } spec := by
      refine ⟨key.toNat_lt, rfl, ?_⟩
      intro other
      rw [nothing other]
      simp only [entryAt]
      grind
    rw [nothing key]
    exact ⟨_, rfl, start.set 0 1 rfl rfl rfl⟩
  · split
    · rename_i before
      have natBefore : key.toNat < map.base.toNat := before
      have shift : (map.base - key).toNat = map.base.toNat - key.toNat :=
        UInt32.toNat_sub_of_le _ _ (UInt32.le_of_lt before)
      obtain ⟨less, positive⟩ : ∃ less, (map.base - key).toNat = less + 1 :=
        Nat.exists_eq_add_one.mpr (by omega)
      have padded := represents.pad (less + 1) 0 key (by omega) bounded
      rw [List.replicate_zero, List.append_nil] at padded
      rw [represents.below before, positive]
      exact ⟨_, rfl, padded.set 0 (map.len + 1) rfl rfl rfl⟩
    · rename_i after
      obtain ⟨position, -⟩ := represents.reached after
      have top := key.toNat_lt
      generalize found : (key - map.base).toNat = offset at position
      have padded := represents.pad 0 (offset + 1 - map.entries.length) map.base rfl (by omega)
      generalize grown : List.replicate 0 none ++ map.entries ++
        List.replicate (offset + 1 - map.entries.length) none = entries at padded
      have resized : (if offset ≥ map.entries.length then resizeWith map.entries (offset + 1)
          else map.entries) = entries := by
        rw [← grown, resizeWith]
        split
        · rw [List.take_of_length_le (by omega)]
          rfl
        · rw [Nat.sub_eq_zero_of_le (by omega)]
          simp
      have long : offset < entries.length := by
        rw [← grown]
        simp
        omega
      have there := List.getElem?_eq_getElem long
      have present := (padded.reached after).2
      simp only [found, there] at present
      simp only [resized, there, present]
      refine ⟨_, rfl, padded.set offset _ position there ?_⟩
      cases entries[offset] <;> rfl

theorem absent (nothing : spec key = none) : map.Represents (update spec key none) := by
  rwa [← nothing, update_eq_self]

theorem remove (key : UInt32) : (map.remove key).1 = spec key ∧
    (map.remove key).2.Represents (update spec key none) := by
  unfold FastMap.remove
  by_cases before : key < map.base
  · have nothing := represents.below before
    simpa [before, nothing] using represents.absent nothing
  · obtain ⟨position, present⟩ := represents.reached before
    generalize (key - map.base).toNat = offset at present position
    by_cases inside : offset < map.entries.length
    · have there := List.getElem?_eq_getElem inside
      have nonempty := List.ne_nil_of_length_pos (Nat.zero_lt_of_lt inside)
      have taken := represents.taken_le there
      rw [there] at present
      simp only [List.isEmpty_iff, nonempty, before, decide_false, Bool.or_false, if_false,
        if_neg (Nat.not_le.mpr inside), there]
      refine ⟨present.symm, represents.set offset _ position there ?_⟩
      cases old : map.entries[offset] with
      | none => rfl
      | some value =>
        rw [old] at taken
        exact Nat.sub_add_cancel taken
    · rw [List.getElem?_eq_none (Nat.not_lt.mp inside)] at present
      simpa [Nat.not_lt.mp inside, present] using represents.absent present

theorem getMut (key : UInt32) (change : V → V) : (map.getMut key change).1 = spec key ∧
    (map.getMut key change).2.Represents (update spec key ((spec key).map change)) := by
  unfold FastMap.getMut
  by_cases before : key < map.base
  · have nothing := represents.below before
    simpa [before, nothing] using represents.absent nothing
  · obtain ⟨position, present⟩ := represents.reached before
    generalize (key - map.base).toNat = offset at present position
    cases there : map.entries[offset]?.join with
    | none =>
      rw [there] at present
      simpa [there, present] using represents.absent present
    | some value =>
      have stored := Option.join_eq_some_iff.mp there
      obtain ⟨inside, -⟩ := List.getElem?_eq_some_iff.mp stored
      have nonempty := List.ne_nil_of_length_pos (Nat.zero_lt_of_lt inside)
      simp only [List.isEmpty_iff, nonempty, before, decide_false, Bool.or_false, if_false, there,
        present]
      exact ⟨trivial, represents.set offset _ position stored rfl⟩

theorem iter_key {i : Nat} (inside : i < map.entries.length) :
    (map.base + UInt32.ofNat i).toNat = map.base.toNat + i := by
  have bounded := represents.bounded
  simp
  omega

theorem mem_iter (key : UInt32) (value : V) : (key, value) ∈ map.iter ↔ spec key = some value := by
  rw [← represents.entries key]
  simp only [iter, List.mem_filterMap, Prod.exists, List.mem_zipIdx_iff_getElem?,
    Option.map_eq_some_iff, Prod.mk.injEq]
  constructor
  · rintro ⟨entry, i, there, found, rfl, same, rfl⟩
    obtain ⟨inside, -⟩ := List.getElem?_eq_some_iff.mp there
    rw [← same, entryAt, represents.iter_key inside, if_pos (by omega), Nat.add_sub_cancel_left,
      there]
    rfl
  · intro found
    unfold entryAt at found
    split at found
    · have there := Option.join_eq_some_iff.mp found
      obtain ⟨inside, -⟩ := List.getElem?_eq_some_iff.mp there
      refine ⟨_, _, there, value, rfl, UInt32.toNat_inj.mp ?_, rfl⟩
      rw [represents.iter_key inside]
      omega
    · contradiction

theorem iter_sorted : map.iter.Pairwise (·.1 < ·.1) := by
  rw [iter, List.pairwise_filterMap, List.pairwise_iff_getElem]
  intro i j low high before
  simp only [List.getElem_zipIdx, Nat.zero_add, Option.map_eq_some_iff]
  rintro _ ⟨_, -, rfl⟩ _ ⟨_, -, rfl⟩
  rw [List.length_zipIdx] at low high
  rw [UInt32.lt_iff_toNat_lt, represents.iter_key low, represents.iter_key high]
  omega

theorem len : map.len = {key | (spec key).isSome}.ncard := by
  have keys : {key | (spec key).isSome} = ((map.iter.map Prod.fst).toFinset : Set UInt32) := by
    ext key
    simp [represents.mem_iter, Option.isSome_iff_exists]
  have once : (map.iter.map Prod.fst).Nodup := by
    refine List.pairwise_map.mpr (represents.iter_sorted.imp ?_)
    intro first second less same
    exact UInt32.lt_irrefl _ (same ▸ less)
  rw [keys, Set.ncard_coe_finset, List.toFinset_card_of_nodup once, List.length_map, iter,
    List.length_filterMap_eq_countP, represents.counted]
  nth_rewrite 1 [← List.zipIdx_map_fst 0 map.entries]
  rw [List.countP_map]
  simp [comp_def]

theorem perform (operation : Operation V) :
    ∃ after, map.perform operation = some ((spec.perform operation).1, after) ∧
      after.Represents (spec.perform operation).2 := by
  cases operation with
  | insert key value =>
    obtain ⟨after, inserted, kept⟩ := represents.insert key value
    exact ⟨after, by rw [FastMap.perform, inserted]; rfl, kept⟩
  | remove key =>
    obtain ⟨old, kept⟩ := represents.remove key
    exact ⟨_, by rw [FastMap.perform, old]; rfl, kept⟩
  | get key => exact ⟨map, by rw [FastMap.perform, represents.get]; rfl, represents⟩
  | getMut key change =>
    obtain ⟨old, kept⟩ := represents.getMut key change
    exact ⟨_, by rw [FastMap.perform, old]; rfl, kept⟩
  | len => exact ⟨map, by rw [FastMap.perform, represents.len]; rfl, represents⟩

theorem performAll (operations : List (Operation V)) :
    ∃ after, map.performAll operations = some ((spec.performAll operations).1, after) ∧
      after.Represents (spec.performAll operations).2 := by
  induction operations generalizing map spec with
  | nil => exact ⟨map, rfl, represents⟩
  | cons operation rest ih =>
    obtain ⟨between, first, kept⟩ := represents.perform operation
    obtain ⟨after, others, final⟩ := ih kept
    refine ⟨after, ?_, final⟩
    simp [FastMap.performAll, first, others, FiniteMap.performAll]

end Represents

theorem refines_finite_map (operations : List (Operation V)) :
    ∃ after : FastMap V, new.performAll operations =
        some ((FiniteMap.performAll (fun _ => none) operations).1, after) ∧
      after.iter.Pairwise (·.1 < ·.1) ∧
      ∀ key value, (key, value) ∈ after.iter ↔
        (FiniteMap.performAll (fun _ => none) operations).2 key = some value := by
  have start : (new : FastMap V).Represents fun _ => none :=
    ⟨by simp [new], rfl, fun key => by simp [entryAt, new]⟩
  obtain ⟨after, performed, represents⟩ := start.performAll operations
  exact ⟨after, performed, represents.iter_sorted, represents.mem_iter⟩

end FastMap

end Locasta.Fastmap
