import Mathlib.Algebra.Order.Ring.Nat
import Mathlib.Data.List.Basic

namespace Locasta.Data

/-! Little-endian words and byte memories.

A memory is a total function, so an access past the end of a buffer is visible
as an address and not as a failure; the clients state the bounds they need.
-/

/-- The `width` low bytes of `value`, least significant first. -/
def leBytes : Nat → Nat → List UInt8
  | 0, _ => []
  | width + 1, value => UInt8.ofNat value :: leBytes width (value / 256)

def ofLeBytes : List UInt8 → Nat
  | [] => 0
  | byte :: rest => byte.toNat + 256 * ofLeBytes rest

@[simp] theorem leBytes_length (width value : Nat) : (leBytes width value).length = width := by
  induction width generalizing value with
  | zero => rfl
  | succ width ih => simp [leBytes, ih]

theorem ofLeBytes_leBytes (width value : Nat) :
    ofLeBytes (leBytes width value) = value % 256 ^ width := by
  induction width generalizing value with
  | zero => simp [leBytes, ofLeBytes, Nat.mod_one]
  | succ width ih =>
    have lowByte : (UInt8.ofNat value).toNat = value % 256 := by simp
    have split : value % (256 * 256 ^ width) = value % 256 + 256 * (value / 256 % 256 ^ width) :=
      Nat.mod_mul
    rw [Nat.pow_succ', split]
    simp only [leBytes, ofLeBytes, ih, lowByte]

/-- The `width` low bytes of `value`, most significant first. -/
def beBytes (width value : Nat) : List UInt8 := (leBytes width value).reverse

@[simp] theorem beBytes_length (width value : Nat) : (beBytes width value).length = width := by
  simp [beBytes]

def ofBeBytes (bytes : List UInt8) : Nat := ofLeBytes bytes.reverse

abbrev Memory := Nat → UInt8

namespace Memory

variable {memory other : Memory} {offset start count : Nat} {bytes : List UInt8}

def read (memory : Memory) : Nat → Nat → List UInt8
  | _, 0 => []
  | offset, count + 1 => memory offset :: memory.read (offset + 1) count

/-- Store `bytes` from `offset` on. -/
def write (memory : Memory) (offset : Nat) (bytes : List UInt8) : Memory := fun address =>
  if offset ≤ address then (bytes[address - offset]?).getD (memory address) else memory address

/-- The memory that holds `bytes` at its start. -/
def ofList (bytes : List UInt8) : Memory := fun address => bytes.getD address 0

@[simp] theorem read_length (memory : Memory) (offset count : Nat) :
    (memory.read offset count).length = count := by
  induction count generalizing offset with
  | zero => rfl
  | succ count ih => simp [read, ih]

theorem read_getElem? {index : Nat} (inside : index < count) :
    (memory.read offset count)[index]? = some (memory (offset + index)) := by
  induction count generalizing offset index with
  | zero => omega
  | succ count ih =>
    cases index with
    | zero => simp [read]
    | succ index =>
      have rest : (memory.read (offset + 1) count)[index]? = some (memory (offset + 1 + index)) :=
        ih (by omega)
      simpa [read, Nat.add_assoc, Nat.add_comm 1 index] using rest

theorem read_add (memory : Memory) (offset first second : Nat) :
    memory.read offset (first + second) =
      memory.read offset first ++ memory.read (offset + first) second := by
  induction first generalizing offset with
  | zero => simp [read]
  | succ first ih =>
    rw [Nat.succ_add_eq_add_succ, Nat.add_succ]
    simp only [read, List.cons_append, List.cons.injEq, true_and]
    rw [ih (offset + 1)]
    simp only [Nat.add_assoc, Nat.add_comm 1 first]

theorem read_take {part : Nat} (short : part ≤ count) :
    (memory.read offset count).take part = memory.read offset part := by
  have split := memory.read_add offset part (count - part)
  rw [Nat.add_sub_cancel' short] at split
  rw [split, List.take_left' (read_length ..)]

theorem read_eq_read_iff : memory.read offset count = other.read start count ↔
      ∀ index < count, memory (offset + index) = other (start + index) := by
  constructor
  · intro same index inside
    have left : (memory.read offset count)[index]? = some (memory (offset + index)) :=
      read_getElem? inside
    rw [same, read_getElem? inside] at left
    exact (Option.some.inj left).symm
  · intro same
    apply List.ext_getElem?
    intro index
    by_cases inside : index < count
    · rw [read_getElem? inside, read_getElem? inside, same index inside]
    · rw [List.getElem?_eq_none (by simp; omega), List.getElem?_eq_none (by simp; omega)]

theorem read_part {size : Nat} (same : memory.read offset size = other.read start size) {skip : Nat}
    (inside : skip + count ≤ size) :
    memory.read (offset + skip) count = other.read (start + skip) count := by
  rw [read_eq_read_iff] at same ⊢
  intro index below
  simpa [Nat.add_assoc] using same (skip + index) (by omega)

theorem write_inside {index : Nat} (inside : index < bytes.length) :
    memory.write offset bytes (offset + index) = bytes[index] := by
  simp [write, inside]

theorem write_outside {address : Nat}
    (outside : address < offset ∨ offset + bytes.length ≤ address) :
    memory.write offset bytes address = memory address := by
  unfold write
  split
  · rw [List.getElem?_eq_none (by omega)]
    rfl
  · rfl

theorem read_write_same (memory : Memory) (offset : Nat) (bytes : List UInt8) :
    (memory.write offset bytes).read offset bytes.length = bytes := by
  apply List.ext_getElem?
  intro index
  by_cases inside : index < bytes.length
  · rw [read_getElem? inside, write_inside inside, List.getElem?_eq_getElem inside]
  · rw [List.getElem?_eq_none (by simp; omega), List.getElem?_eq_none (by omega)]

theorem read_write_disjoint (disjoint : start + count ≤ offset ∨ offset + bytes.length ≤ start) :
    (memory.write offset bytes).read start count = memory.read start count := by
  apply read_eq_read_iff.mpr
  intro index inside
  exact write_outside (by omega)

/-- The two memories differ at most in the `count` bytes from `offset` on. -/
def SameOutside (offset count : Nat) (before after : Memory) : Prop :=
  ∀ address, address < offset ∨ offset + count ≤ address → after address = before address

namespace SameOutside

variable {before between after : Memory}

theorem trans (first : SameOutside offset count before between)
    (second : SameOutside offset count between after) : SameOutside offset count before after :=
  fun address outside => (second address outside).trans (first address outside)

theorem refl (offset count : Nat) (memory : Memory) : SameOutside offset count memory memory :=
  fun _ _ => rfl

variable (same : SameOutside offset count before after)
include same

theorem write (low : offset ≤ start) (high : start + bytes.length ≤ offset + count) :
    SameOutside offset count before (after.write start bytes) :=
  fun address outside => (write_outside (by omega)).trans (same address outside)

theorem mono {outer outerCount : Nat}
    (low : outer ≤ offset) (high : offset + count ≤ outer + outerCount) :
    SameOutside outer outerCount before after :=
  fun address outside => same address (by omega)

theorem read {other : Nat} (disjoint : start + other ≤ offset ∨ offset + count ≤ start) :
    after.read start other = before.read start other :=
  read_eq_read_iff.mpr fun _ _ => same _ (by omega)

theorem eq_write : before.write offset (after.read offset count) = after := by
  funext address
  by_cases inside : offset ≤ address ∧ address < offset + count
  · obtain ⟨index, rfl⟩ := Nat.exists_eq_add_of_le inside.1
    have short : index < (after.read offset count).length := by
      rw [read_length]
      omega
    rw [write_inside short]
    have here : (after.read offset count)[index]? = some (after (offset + index)) :=
      read_getElem? (by omega)
    rw [List.getElem?_eq_getElem short] at here
    exact Option.some.inj here
  · rw [write_outside (by rw [read_length]; omega)]
    exact (same address (by omega)).symm

end SameOutside

theorem ofList_read {index : Nat} (inside : index < count) :
    ofList (memory.read offset count) index = memory (offset + index) := by
  simp [ofList, List.getD_eq_getElem?_getD, read_getElem? inside]

end Memory

end Locasta.Data
