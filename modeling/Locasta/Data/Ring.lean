import Locasta.Data.Bytes
import Mathlib.Data.Nat.Log

namespace Locasta.Data

/-! Virtual positions over a ring of bytes.

A virtual position only grows; its place in the ring is the remainder by the
ring size. A cycle is one pass over the ring.
-/

variable {size position start count : Nat}

/-- The place of a virtual position in a ring whose size is a power of two. -/
def maskOffset (position size : Nat) : Nat := position &&& (size - 1)

theorem maskOffset_eq_mod (power : size.isPowerOfTwo) (position : Nat) :
    maskOffset position size = position % size := by
  obtain ⟨exponent, rfl⟩ := power
  exact Nat.and_two_pow_sub_one_eq_mod position exponent

/-- The size that a ring of at least `count` places is given. -/
def nextPowerOfTwo (count : Nat) : Nat := 2 ^ Nat.clog 2 count

theorem nextPowerOfTwo_eq (power : size.isPowerOfTwo) : nextPowerOfTwo size = size := by
  obtain ⟨exponent, rfl⟩ := power
  rw [nextPowerOfTwo, Nat.clog_pow 2 exponent (by decide)]

theorem le_nextPowerOfTwo (count : Nat) : count ≤ nextPowerOfTwo count :=
  Nat.le_pow_clog (by decide) count

theorem nextPowerOfTwo_le {exponent : Nat} (bound : count ≤ 2 ^ exponent) :
    nextPowerOfTwo count ≤ 2 ^ exponent :=
  Nat.pow_le_pow_right (by decide) (Nat.clog_le_of_le_pow bound)

/-- The first position of the cycle after the one that holds `position`. -/
def cycleEnd (position size : Nat) : Nat := position + (size - position % size)

theorem cycleEnd_mod (positive : 0 < size) (position : Nat) :
    cycleEnd position size % size = 0 := by
  have split := Nat.div_add_mod position size
  have below := Nat.mod_lt position positive
  have whole : cycleEnd position size = size * (position / size + 1) := by
    rw [Nat.mul_add, Nat.mul_one, cycleEnd]
    omega
  rw [whole, Nat.mul_mod_right]

theorem lt_cycleEnd (positive : 0 < size) (position : Nat) : position < cycleEnd position size := by
  have below := Nat.mod_lt position positive
  unfold cycleEnd
  omega

theorem dvd_cycleEnd {unit : Nat} (aligned : unit ∣ position) (ring : unit ∣ size) :
    unit ∣ cycleEnd position size :=
  Nat.dvd_add aligned (Nat.dvd_sub ring ((Nat.dvd_mod_iff ring).mpr aligned))

theorem add_unit_le_cycleEnd {unit : Nat} (positive : 0 < size) (aligned : unit ∣ position)
    (ring : unit ∣ size) : position + unit ≤ cycleEnd position size := by
  have forward := lt_cycleEnd positive position
  have gap : unit ≤ cycleEnd position size - position :=
    Nat.le_of_dvd (by omega) (Nat.dvd_sub (dvd_cycleEnd aligned ring) aligned)
  omega

theorem dvd_of_isPowerOfTwo_le {small large : Nat} (smallPower : small.isPowerOfTwo)
    (largePower : large.isPowerOfTwo) (order : small ≤ large) : small ∣ large := by
  obtain ⟨low, rfl⟩ := smallPower
  obtain ⟨high, rfl⟩ := largePower
  exact Nat.pow_dvd_pow 2 ((Nat.pow_le_pow_iff_right (by decide)).mp order)

theorem mod_add_of_lt (inside : position % size + count < size) :
    (position + count) % size = position % size + count := by
  have small : count < size := by omega
  rw [Nat.add_mod, Nat.mod_eq_of_lt small, Nat.mod_eq_of_lt inside]

/-- A range inside one cycle stays inside one cycle of a ring whose size is a multiple. -/
theorem inside_of_dvd {small large : Nat} (positive : 0 < large) (divides : small ∣ large)
    (inside : position % small + count ≤ small) : position % large + count ≤ large := by
  obtain ⟨factor, rfl⟩ := divides
  have block : position % (small * factor) = position % small + small * (position / small % factor) :=
    Nat.mod_mul
  have below : position / small % factor < factor := Nat.mod_lt _ (Nat.pos_of_mul_pos_left positive)
  have last : small * (position / small % factor + 1) ≤ small * factor :=
    Nat.mul_le_mul_left small below
  rw [Nat.mul_add, Nat.mul_one] at last
  omega

theorem offsets_disjoint {length : Nat} (before : position + count ≤ start)
    (window : start + length ≤ position + size) :
    position % size + count ≤ start % size ∨ start % size + length ≤ position % size := by
  have positionSplit := Nat.div_add_mod position size
  have startSplit := Nat.div_add_mod start size
  rcases Nat.lt_trichotomy (position / size) (start / size) with less | same | more
  · right
    have oneCycle : size * (position / size + 1) ≤ size * (start / size) :=
      Nat.mul_le_mul_left size less
    rw [Nat.mul_add, Nat.mul_one] at oneCycle
    omega
  · left
    rw [same] at positionSplit
    omega
  · have backwards : size * (start / size + 1) ≤ size * (position / size) :=
      Nat.mul_le_mul_left size more
    rw [Nat.mul_add, Nat.mul_one] at backwards
    omega

theorem mod_ne_mod_of_window {first second : Nat} (order : first < second)
    (window : second < first + size) : first % size ≠ second % size := by
  have apart : first % size + 1 ≤ second % size ∨ second % size + 1 ≤ first % size :=
    offsets_disjoint order window
  omega

theorem mod_ne_mod_of_near {first second : Nat} (different : first ≠ second)
    (near : second < first + size) (far : first < second + size) :
    first % size ≠ second % size := by
  rcases Nat.lt_or_gt_of_ne different with before | after
  · exact mod_ne_mod_of_window before near
  · exact (mod_ne_mod_of_window after far).symm

theorem slots_apart {first second : Nat} (different : first ≠ second) (size : Nat) :
    first * size + size ≤ second * size ∨ second * size + size ≤ first * size := by
  rcases Nat.lt_or_gt_of_ne different with less | greater
  · left
    rw [← Nat.succ_mul]
    exact Nat.mul_le_mul_right _ less
  · right
    rw [← Nat.succ_mul]
    exact Nat.mul_le_mul_right _ greater

/-- A write at most one ring size ahead of a range leaves its bytes alone. -/
theorem read_write_window {memory : Memory} {bytes : List UInt8}
    (before : position + count ≤ start) (window : start + bytes.length ≤ position + size) :
    (memory.write (start % size) bytes).read (position % size) count =
      memory.read (position % size) count :=
  Memory.read_write_disjoint (offsets_disjoint before window)

end Locasta.Data
