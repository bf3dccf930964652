import Mathlib.Data.List.Nodup
import Mathlib.Data.List.Perm.Basic
import Mathlib.Logic.Function.Basic

namespace Locasta.Data

/-! Numbered obligations: each is settled once, or waits in one place. -/

structure Custody (Place : Type) where
  issued : Nat
  held : Place → Option Nat
  settled : List Nat

namespace Custody

variable {Place : Type} {custody : Custody Place} {place : Place} {number : Nat}

/-- No number is settled twice, held twice, or both. -/
structure Sound (custody : Custody Place) : Prop where
  nodup : custody.settled.Nodup
  alone : ∀ {place other number}, custody.held place = some number →
    custody.held other = some number → place = other
  waits : ∀ {place number}, custody.held place = some number → number ∉ custody.settled
  issued : ∀ {number}, number < custody.issued ↔
    number ∈ custody.settled ∨ ∃ place, custody.held place = some number

namespace Sound

theorem new : Sound ({ issued := 0, held := fun _ => none, settled := [] } : Custody Place) where
  nodup := List.nodup_nil
  alone := nofun
  waits := nofun
  issued := by simp

section

variable (sound : custody.Sound)
include sound

theorem settled_lt (member : number ∈ custody.settled) : number < custody.issued :=
  sound.issued.mpr (.inl member)

theorem held_lt (held : custody.held place = some number) : number < custody.issued :=
  sound.issued.mpr (.inr ⟨place, held⟩)

theorem fresh : custody.issued ∉ custody.settled :=
  fun member => Nat.lt_irrefl _ (sound.settled_lt member)

theorem fresh_held : custody.held place ≠ some custody.issued :=
  fun held => Nat.lt_irrefl _ (sound.held_lt held)

theorem nodup_snoc (absent : number ∉ custody.settled) : (custody.settled ++ [number]).Nodup := by
  rw [List.nodup_append]
  refine ⟨sound.nodup, List.nodup_singleton number, ?_⟩
  rintro other member same last rfl
  exact absent (List.mem_singleton.mp last ▸ member)

/-- A number that was issued is settled once, or held at one place. -/
theorem once (inside : number < custody.issued) :
    (custody.settled.count number = 1 ∧ ∀ place, custody.held place ≠ some number) ∨
      (custody.settled.count number = 0 ∧ ∃ place, custody.held place = some number ∧
        ∀ other, custody.held other = some number → other = place) := by
  rcases sound.issued.mp inside with settled | ⟨place, waiting⟩
  · refine .inl ⟨List.count_eq_one_of_mem sound.nodup settled, ?_⟩
    intro place waiting
    exact sound.waits waiting settled
  · refine .inr ⟨List.count_eq_zero.mpr (sound.waits waiting), place, waiting, ?_⟩
    intro other also
    exact sound.alone also waiting

end

variable {after : Custody Place}

theorem settleNew (sound : custody.Sound) (issued : after.issued = custody.issued + 1)
    (held : after.held = custody.held) (settled : after.settled = custody.settled ++ [custody.issued]) :
    after.Sound where
  nodup := settled ▸ sound.nodup_snoc sound.fresh
  alone := fun one two => sound.alone (held ▸ one) (held ▸ two)
  waits := fun there member => by
    rw [held] at there
    rw [settled] at member
    rcases List.mem_append.mp member with old | new
    · exact sound.waits there old
    · exact sound.fresh_held (List.mem_singleton.mp new ▸ there)
  issued := fun {number} => by
    have before := @sound.issued number
    rw [issued, held, settled]
    simp only [List.mem_append, List.mem_singleton, Nat.lt_succ_iff_lt_or_eq, before]
    constructor
    · rintro ((old | waiting) | last)
      · exact .inl (.inl old)
      · exact .inr waiting
      · exact .inl (.inr last)
    · rintro ((old | last) | waiting)
      · exact .inl (.inl old)
      · exact .inr last
      · exact .inl (.inr waiting)

variable [DecidableEq Place]

theorem holdNew (sound : custody.Sound) (free : custody.held place = none)
    (issued : after.issued = custody.issued + 1)
    (held : ∀ other, after.held other =
      if other = place then some custody.issued else custody.held other)
    (settled : after.settled = custody.settled) : after.Sound where
  nodup := settled ▸ sound.nodup
  alone := fun {first second number} one two => by
    rw [held] at one two
    split at one <;> split at two
    · rename_i here there
      rw [here, there]
    · exact absurd (Option.some.inj one ▸ two) sound.fresh_held
    · exact absurd (Option.some.inj two ▸ one) sound.fresh_held
    · exact sound.alone one two
  waits := fun {other number} there member => by
    rw [held] at there
    rw [settled] at member
    split at there
    · exact sound.fresh (Option.some.inj there ▸ member)
    · exact sound.waits there member
  issued := fun {number} => by
    have before := @sound.issued number
    rw [issued, settled, Nat.lt_succ_iff_lt_or_eq, before]
    constructor
    · rintro ((old | ⟨other, waiting⟩) | rfl)
      · exact .inl old
      · refine .inr ⟨other, ?_⟩
        rw [held, if_neg, waiting]
        rintro rfl
        rw [free] at waiting
        cases waiting
      · exact .inr ⟨place, by rw [held, if_pos rfl]⟩
    · rintro (old | ⟨other, waiting⟩)
      · exact .inl (.inl old)
      · rw [held] at waiting
        split at waiting
        · exact .inr (Option.some.inj waiting).symm
        · exact .inl (.inr ⟨other, waiting⟩)

theorem settle (sound : custody.Sound) (here : custody.held place = some number)
    (issued : after.issued = custody.issued)
    (held : ∀ other, after.held other = if other = place then none else custody.held other)
    (settled : after.settled = custody.settled ++ [number]) : after.Sound where
  nodup := settled ▸ sound.nodup_snoc (sound.waits here)
  alone := fun {first second number} one two => by
    rw [held] at one two
    split at one
    · cases one
    · split at two
      · cases two
      · exact sound.alone one two
  waits := fun {other later} there member => by
    rw [held] at there
    rw [settled] at member
    split at there
    · cases there
    · rename_i different
      rcases List.mem_append.mp member with old | new
      · exact sound.waits there old
      · exact different (sound.alone there (List.mem_singleton.mp new ▸ here))
  issued := fun {other} => by
    have before := @sound.issued other
    rw [issued, settled, before, List.mem_append, List.mem_singleton]
    constructor
    · rintro (old | ⟨position, waiting⟩)
      · exact .inl (.inl old)
      · by_cases same : position = place
        · rw [same, here] at waiting
          exact .inl (.inr (Option.some.inj waiting).symm)
        · exact .inr ⟨position, by rw [held, if_neg same, waiting]⟩
    · rintro ((old | rfl) | ⟨position, waiting⟩)
      · exact .inl old
      · exact .inr ⟨place, here⟩
      · rw [held] at waiting
        split at waiting
        · cases waiting
        · exact .inr ⟨position, waiting⟩

end Sound

end Custody

/-! Each place that holds a number has one entry on its way back, and no other place has one. -/

structure Tracks {Place : Type} (held : Place → Option Nat) (entries : List (Place × Nat)) :
    Prop where
  nodup : (entries.map Prod.fst).Nodup
  mem : ∀ {place number}, (place, number) ∈ entries ↔ held place = some number

theorem perm_eraseIdx {Entry : Type} {entries : List Entry} {position : Nat} {entry : Entry}
    (here : entries[position]? = some entry) :
    entries.Perm (entry :: entries.eraseIdx position) := by
  obtain ⟨inside, rfl⟩ := List.getElem?_eq_some_iff.mp here
  exact (List.getElem_cons_eraseIdx_perm inside).symm

namespace Tracks

variable {Place : Type} {held after : Place → Option Nat} {place : Place} {number : Nat}
  {entries others : List (Place × Nat)}

theorem perm (tracks : Tracks held entries) (same : others.Perm entries) : Tracks held others where
  nodup := (same.map Prod.fst).nodup_iff.mpr tracks.nodup
  mem := same.mem_iff.trans tracks.mem

theorem count [DecidableEq Place] (tracks : Tracks held entries) (here : held place = some number) :
    (entries.map Prod.fst).count place = 1 :=
  List.count_eq_one_of_mem tracks.nodup
    (List.mem_map.mpr ⟨(place, number), tracks.mem.mpr here, rfl⟩)

variable [DecidableEq Place]

theorem hold (tracks : Tracks held entries) (free : held place = none)
    (now : ∀ other, after other = if other = place then some number else held other) :
    Tracks after ((place, number) :: entries) where
  nodup := by
    rw [List.map_cons, List.nodup_cons]
    refine ⟨?_, tracks.nodup⟩
    rintro member
    obtain ⟨⟨other, held⟩, there, rfl⟩ := List.mem_map.mp member
    rw [tracks.mem.mp there] at free
    cases free
  mem := fun {other count} => by
    rw [List.mem_cons, tracks.mem, now, Prod.mk.injEq]
    split
    · rename_i same
      rw [same, free]
      simp [eq_comm]
    · rename_i different
      simp [different]

theorem release (tracks : Tracks held ((place, number) :: entries))
    (now : ∀ other, after other = if other = place then none else held other) :
    Tracks after entries where
  nodup := (List.nodup_cons.mp tracks.nodup).2
  mem := fun {other count} => by
    have before := @tracks.mem other count
    rw [List.mem_cons, Prod.mk.injEq] at before
    rw [now]
    split
    · rename_i same
      have absent : (other, count) ∉ entries := by
        intro member
        refine (List.nodup_cons.mp tracks.nodup).1 ?_
        exact List.mem_map.mpr ⟨(other, count), member, same⟩
      simp [absent]
    · rename_i different
      rw [← before]
      simp [different]

end Tracks

end Locasta.Data
