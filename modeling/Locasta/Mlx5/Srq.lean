import Locasta.Mlx5.Wqe
import Mathlib.Logic.Function.Basic

namespace Locasta.Mlx5

open Data Function

/-! The shared receive queue of `srq.rs`.

Its producer and consumer index are 32-bit counters that run freely. The consumer index moves when
the owner of the queue says so: with `process_completion`, one by one, or with `advance_ci`.
-/

structure SrqState (T : Type) where
  buf : Memory
  wqeCnt : Nat
  stride : Nat
  pi : Nat
  ci : Nat
  table : Nat → Option T
  /-- Auxiliary: the number of receives that were accepted. No operation reads it. -/
  posted : Nat

namespace SrqState

variable {T : Type}

/-- `create_srq`, for a queue of which the device granted `actualMaxWr` entries. -/
def create (buf : Memory) (stride actualMaxWr : Nat) : SrqState T where
  buf
  wqeCnt := nextPowerOfTwo actualMaxWr
  stride
  pi := 0
  ci := 0
  table _ := none
  posted := 0

def getWqePtr (srq : SrqState T) (idx : Nat) : Nat := maskOffset idx srq.wqeCnt * srq.stride

/-- `wqe_cnt - pi.wrapping_sub(ci)` -/
def available (srq : SrqState T) : Nat := srq.wqeCnt - (srq.pi + 2 ^ 32 - srq.ci) % 2 ^ 32

def postRecv (srq : SrqState T) (entry : T) (addr len lkey : Nat) :
    Except IoError Unit × SrqState T :=
  if srq.available = 0 then (.error ⟨.wouldBlock, "SRQ full"⟩, srq)
  else
    let wqeIdx := srq.pi
    (.ok (),
      { srq with
        buf := writeRecvWqe srq.buf (srq.getWqePtr wqeIdx) addr len lkey
        table := update srq.table (maskOffset wqeIdx srq.wqeCnt) (some entry)
        pi := (srq.pi + 1) % 2 ^ 32
        posted := srq.posted + 1 })

/-- The index of the completion is not used: receives complete in their order. -/
def processCompletion (srq : SrqState T) (_wqeIdx : Nat) : Option T × SrqState T :=
  let idx := maskOffset srq.ci srq.wqeCnt
  (srq.table idx, { srq with ci := (srq.ci + 1) % 2 ^ 32, table := update srq.table idx none })

def advanceCi (srq : SrqState T) (count : Nat) : SrqState T :=
  { srq with ci := (srq.ci + count) % 2 ^ 32 }

/-- The consumer index stands behind the first `retired` receives, and the others fit the queue. -/
structure Counted (srq : SrqState T) (retired : Nat) : Prop where
  pi : srq.pi = srq.posted % 2 ^ 32
  ci : srq.ci = retired % 2 ^ 32
  order : retired ≤ srq.posted
  window : srq.posted ≤ retired + srq.wqeCnt
  bound : srq.wqeCnt ≤ 2 ^ 31

namespace Counted

variable {srq : SrqState T} {retired : Nat}

theorem create {actualMaxWr : Nat} (bound : actualMaxWr ≤ 2 ^ 31) (buf : Memory) (stride : Nat) :
    Counted (SrqState.create (T := T) buf stride actualMaxWr) 0 where
  pi := rfl
  ci := rfl
  order := Nat.le_refl 0
  window := Nat.zero_le _
  bound := nextPowerOfTwo_le bound

variable (counted : Counted srq retired)
include counted

theorem available_eq :
    srq.available = srq.wqeCnt - (srq.posted - retired) := by
  obtain ⟨pi, ci, order, window, bound⟩ := counted
  rw [available, pi, ci]
  omega

theorem postRecv (entry : T) (addr len lkey : Nat) :
    let after := (srq.postRecv entry addr len lkey).2
    Counted after retired ∧ after.wqeCnt = srq.wqeCnt ∧
      after.posted = min (srq.posted + 1) (retired + srq.wqeCnt) := by
  have available := counted.available_eq
  obtain ⟨pi, ci, order, window, bound⟩ := counted
  unfold SrqState.postRecv
  split
  · rename_i full
    exact ⟨⟨pi, ci, order, window, bound⟩, rfl, by change srq.posted = _; omega⟩
  · rename_i room
    refine ⟨⟨?_, ci, by change _ ≤ srq.posted + 1; omega, ?_, bound⟩, rfl, ?_⟩
    · rw [pi, Nat.mod_add_mod]
    · change srq.posted + 1 ≤ retired + srq.wqeCnt
      omega
    · change srq.posted + 1 = _
      omega

theorem advanceCi {count : Nat}
    (order : retired + count ≤ srq.posted) : Counted (srq.advanceCi count) (retired + count) :=
  { counted with
    ci := by
      change (srq.ci + count) % 2 ^ 32 = _
      rw [counted.ci, Nat.mod_add_mod]
    order
    window := counted.window.trans (by change _ ≤ retired + count + srq.wqeCnt; omega) }

end Counted

end SrqState

end Locasta.Mlx5
