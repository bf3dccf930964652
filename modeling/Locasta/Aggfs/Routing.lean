import Mathlib.Data.List.Basic
import Mathlib.Algebra.Order.Ring.Nat

namespace Locasta.Aggfs

/-! Where a chunk belongs, and which daemons are connected. -/

def isAsciiDigit (byte : UInt8) : Bool := 48 ≤ byte.toNat && byte.toNat ≤ 57

/-- The loop of `koyama_hash`, with the number whose digits it is in the middle of. -/
def koyamaHashFrom : List UInt8 → Nat → Option Nat → Nat
  | [], hash, number => (hash + number.getD 0) % 2 ^ 64
  | byte :: rest, hash, number =>
    if isAsciiDigit byte then
      koyamaHashFrom rest hash (some ((number.getD 0 * 10 + (byte.toNat - 48)) % 2 ^ 64))
    else
      koyamaHashFrom rest ((((hash + number.getD 0) % 2 ^ 64) * 31 + byte.toNat) % 2 ^ 64) none

def koyamaHash (path : List UInt8) : Nat := koyamaHashFrom path 0 none

example : koyamaHash [97, 49, 50] = 109 := by decide

def route (pathHash chunkIndex totalDaemons : Nat) : Nat :=
  (pathHash + chunkIndex) % 2 ^ 64 % totalDaemons

def globalToLocal (globalId daemonsPerNode : Nat) : Nat × Nat :=
  (globalId / daemonsPerNode % 2 ^ 32, globalId % daemonsPerNode)

/-- The MPI ranks, whose number is a `u32`, and the daemons of each. -/
structure Topology where
  nodes : Nat
  daemonsPerNode : Nat
  nodes_pos : 0 < nodes
  nodes_lt : nodes < 2 ^ 32
  daemons_pos : 0 < daemonsPerNode

namespace Topology

def onlyNode : Topology where
  nodes := 1
  daemonsPerNode := 1
  nodes_pos := Nat.one_pos
  nodes_lt := by decide
  daemons_pos := Nat.one_pos

/-- Two ranks with one daemon each. -/
def twoNodes : Topology where
  nodes := 2
  daemonsPerNode := 1
  nodes_pos := Nat.two_pos
  nodes_lt := by decide
  daemons_pos := Nat.one_pos

variable (topology : Topology)

def totalDaemons : Nat := topology.daemonsPerNode * topology.nodes

/-- `my_remote_ranks`: one endpoint for each. -/
def remoteRanks (rank : Nat) : List Nat := (List.range topology.nodes).filter (· ≠ rank)

/-- An endpoint is connected to the daemon with the same index on the other node. -/
def connectedDaemon (self node : Nat) : Nat :=
  node * topology.daemonsPerNode + self % topology.daemonsPerNode

/-- `remote_rank_to_ep_idx` has the other nodes only. -/
def forward (self target : Nat) : Option Nat :=
  let node := (globalToLocal target topology.daemonsPerNode).1
  if node ∈ topology.remoteRanks (self / topology.daemonsPerNode) then
    some (topology.connectedDaemon self node)
  else none

theorem totalDaemons_pos : 0 < topology.totalDaemons :=
  Nat.mul_pos topology.daemons_pos topology.nodes_pos

theorem route_lt (pathHash chunkIndex : Nat) :
    route pathHash chunkIndex topology.totalDaemons < topology.totalDaemons :=
  Nat.mod_lt _ topology.totalDaemons_pos

/-- `target` is the daemon itself, or its counterpart on another node. -/
def Direct (self target : Nat) : Prop :=
  target = self ∨ (target / topology.daemonsPerNode ≠ self / topology.daemonsPerNode ∧
      target % topology.daemonsPerNode = self % topology.daemonsPerNode)

instance (self target : Nat) : Decidable (topology.Direct self target) :=
  inferInstanceAs (Decidable (_ ∨ _))

theorem direct_of_single (single : topology.daemonsPerNode = 1) (self target : Nat) :
    topology.Direct self target := by
  unfold Direct
  rw [single, Nat.div_one, Nat.div_one, Nat.mod_one, Nat.mod_one]
  rcases Nat.decEq target self with different | same
  · exact .inr ⟨different, rfl⟩
  · exact .inl same

variable {topology}

theorem node_lt {target : Nat} (inside : target < topology.totalDaemons) :
    target / topology.daemonsPerNode < topology.nodes :=
  Nat.div_lt_of_lt_mul inside

theorem globalToLocal_fst {target : Nat} (inside : target < topology.totalDaemons) :
    (globalToLocal target topology.daemonsPerNode).1 = target / topology.daemonsPerNode :=
  Nat.mod_eq_of_lt (Nat.lt_trans (node_lt inside) topology.nodes_lt)

theorem forward_eq_some_iff {self target : Nat} (inside : target < topology.totalDaemons)
    (other : target ≠ self) :
    topology.forward self target = some target ↔ topology.Direct self target := by
  unfold forward Direct remoteRanks connectedDaemon
  rw [globalToLocal_fst inside]
  have split := Nat.div_add_mod target topology.daemonsPerNode
  rw [Nat.mul_comm] at split
  dsimp only
  simp only [List.mem_filter, List.mem_range, node_lt inside, true_and, decide_eq_true_eq, other,
    false_or]
  constructor
  · intro sent
    split at sent
    · rename_i far
      have same := Option.some.inj sent
      exact ⟨far, by omega⟩
    · cases sent
  · rintro ⟨far, index⟩
    rw [if_pos far, ← index, split]

theorem forwarded_to {self target executor : Nat} (inside : target < topology.totalDaemons)
    (other : target ≠ self) (direct : topology.Direct self target)
    (sent : topology.forward self target = some executor) : executor = target := by
  rw [(forward_eq_some_iff inside other).mpr direct] at sent
  exact (Option.some.inj sent).symm

end Topology

end Locasta.Aggfs
