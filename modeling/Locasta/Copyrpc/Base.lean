import Mathlib.Logic.Function.Basic

namespace Locasta.Copyrpc

open Function

/-! What both transports use: errors, memory regions, the slab of pending calls and the
send queue of the device. -/

inductive Error where
  | io
  | ringFull
  | remoteConsumerUnknown
deriving DecidableEq

inductive CallError (U : Type) where
  | ringFull (userData : U)
  | insufficientCredit (userData : U)
  | other (error : Error)

/-- The `?` operator on a step whose value is not used; `convert` is the `map_err`. -/
def tryThen {E F A B S : Type} (convert : E → F) (result : Except E A × S)
    (next : S → Except F B × S) : Except F B × S :=
  match result with
  | (.error error, state) => (.error (convert error), state)
  | (.ok _, state) => next state

@[simp] theorem tryThen_error {E F A B S : Type} (convert : E → F) (error : E) (state : S)
    (next : S → Except F B × S) :
    tryThen convert ((.error error, state) : Except E A × S) next =
      (.error (convert error), state) := rfl

@[simp] theorem tryThen_ok {E F A B S : Type} (convert : E → F) (value : A) (state : S)
    (next : S → Except F B × S) :
    tryThen convert ((.ok value, state) : Except E A × S) next = next state := rfl

structure MemoryRegion where
  addr : Nat
  rkey : Nat

structure RemoteRingInfo where
  addr : Nat
  rkey : Nat
  size : Nat

/-- `slab::Slab`, seen through its entries. The caller of `insert` names the vacant key. -/
abbrev Slab (U : Type) := Nat → Option U

namespace Slab

variable {U : Type}

def new : Slab U := fun _ => none

def insert (slab : Slab U) (key : Nat) (value : U) : Slab U := update slab key (some value)

def tryRemove (slab : Slab U) (key : Nat) : Option U × Slab U := (slab key, update slab key none)

end Slab

/-- The work requests that were taken, and the answers to the coming posts (`true` where it is
full). -/
structure SendQueue (Request : Type) where
  posted : List Request
  answers : List Bool

namespace SendQueue

variable {Request : Type}

def full (queue : SendQueue Request) : Bool := queue.answers.headD false

def refuse (queue : SendQueue Request) : SendQueue Request :=
  { queue with answers := queue.answers.tail }

def accept (queue : SendQueue Request) (request : Request) : SendQueue Request :=
  { posted := queue.posted ++ [request], answers := queue.answers.tail }

/-- No coming post will be refused. -/
def Room (queue : SendQueue Request) : Prop := ∀ answer ∈ queue.answers, answer = false

theorem Room.not_full {queue : SendQueue Request} (room : queue.Room) : queue.full = false := by
  obtain ⟨posted, answers⟩ := queue
  cases answers with
  | nil => rfl
  | cons answer rest => exact room answer (List.mem_cons_self ..)

theorem Room.accept {queue : SendQueue Request} (room : queue.Room) (request : Request) :
    (queue.accept request).Room :=
  fun answer member => room answer (List.mem_of_mem_tail member)

end SendQueue

end Locasta.Copyrpc
