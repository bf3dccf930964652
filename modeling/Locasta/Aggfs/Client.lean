import Locasta.Aggfs.Cluster

namespace Locasta.Aggfs

open Data Function

/-! `FsClient`: reads and writes are cut at the ends of the chunks and at the size of the data area.
A call that runs alone is answered by the owner of what it asks for.
-/

/-- What one turn of the loop of `pwrite` or `pread` asks for, as it is sent. -/
structure Piece where
  chunkIndex : Nat
  chunkOffset : Nat
  len : Nat

/-- The turns of the loop, while every response is as expected. -/
def pieces (chunkSize dataCapacity : Nat) : Nat → Nat → Nat → List Piece
  | 0, _, _ => []
  | fuel + 1, fileOffset, remaining =>
    if remaining = 0 then []
    else
      let chunkOffset := fileOffset % chunkSize
      let thisLen := min (min remaining (chunkSize - chunkOffset)) dataCapacity
      { chunkIndex := fileOffset / chunkSize % 2 ^ 32
        chunkOffset := chunkOffset % 2 ^ 32
        len := thisLen % 2 ^ 32 } ::
        pieces chunkSize dataCapacity fuel (fileOffset + thisLen) (remaining - thisLen)

namespace Piece

def start (chunkSize : Nat) (piece : Piece) : Nat :=
  piece.chunkIndex * chunkSize + piece.chunkOffset

end Piece

/-- Pieces one after the other from `start` to `stop`, each inside one chunk. -/
def Covers (chunkSize dataCapacity : Nat) : Nat → List Piece → Nat → Prop
  | start, [], stop => start = stop
  | start, piece :: rest, stop =>
    piece.start chunkSize = start ∧ piece.chunkOffset + piece.len ≤ chunkSize ∧ 0 < piece.len ∧
      piece.len ≤ dataCapacity ∧ piece.chunkIndex < 2 ^ 32 ∧
      Covers chunkSize dataCapacity (start + piece.len) rest stop

section

variable {chunkSize dataCapacity : Nat}

theorem pieces_covers (positive : 0 < chunkSize) (narrow : chunkSize < 2 ^ 32)
    (capacity : 0 < dataCapacity) {fuel fileOffset remaining : Nat} (enough : remaining ≤ fuel)
    (inside : fileOffset + remaining ≤ chunkSize * 2 ^ 32) :
    Covers chunkSize dataCapacity fileOffset
      (pieces chunkSize dataCapacity fuel fileOffset remaining) (fileOffset + remaining) := by
  induction fuel generalizing fileOffset remaining with
  | zero =>
    have nothing : remaining = 0 := Nat.le_zero.mp enough
    rw [nothing]
    rfl
  | succ fuel ih =>
    unfold pieces
    split
    · rename_i nothing
      rw [nothing]
      rfl
    · rename_i more
      have below := Nat.mod_lt fileOffset positive
      have index : fileOffset / chunkSize < 2 ^ 32 := Nat.div_lt_of_lt_mul (by omega)
      have split := Nat.div_add_mod fileOffset chunkSize
      rw [Nat.mul_comm] at split
      obtain ⟨thisLen, length⟩ : ∃ thisLen, thisLen =
          min (min remaining (chunkSize - fileOffset % chunkSize)) dataCapacity := ⟨_, rfl⟩
      dsimp only
      rw [← length, Nat.mod_eq_of_lt index,
        Nat.mod_eq_of_lt (by omega : fileOffset % chunkSize < 2 ^ 32),
        Nat.mod_eq_of_lt (by omega : thisLen < 2 ^ 32)]
      refine ⟨split, ?_, ?_, ?_, index, ?_⟩
      · change fileOffset % chunkSize + thisLen ≤ chunkSize
        omega
      · change 0 < thisLen
        omega
      · change thisLen ≤ dataCapacity
        omega
      · have rest := @ih (fileOffset + thisLen) (remaining - thisLen) (by omega) (by omega)
        rwa [show fileOffset + thisLen + (remaining - thisLen) = fileOffset + remaining by omega]
          at rest

end

/-- A call of `pwrite`, with the capacity of the data area of its client. -/
structure Pwrite where
  offset : Nat
  len : Nat
  dataCapacity : Nat

namespace Pwrite

variable {chunkSize : Nat} {pwrite : Pwrite}

/-- The pieces that are sent when every response is `Ok`. -/
def pieces (pwrite : Pwrite) (chunkSize : Nat) : List Piece :=
  Aggfs.pieces chunkSize pwrite.dataCapacity pwrite.len pwrite.offset pwrite.len

/-- The buffer is not empty and the indices of its chunks have 32 bits. -/
def Fits (pwrite : Pwrite) (chunkSize : Nat) : Prop :=
  0 < pwrite.len ∧ 0 < pwrite.dataCapacity ∧ pwrite.offset + pwrite.len ≤ chunkSize * 2 ^ 32

instance : Decidable (pwrite.Fits chunkSize) := inferInstanceAs (Decidable (_ ∧ _))

end Pwrite

section

variable {chunkSize dataCapacity start stop : Nat} {pieces : List Piece}
  (covers : Covers chunkSize dataCapacity start pieces stop)
include covers

theorem Covers.stop_le :
    start ≤ stop ∧ ∀ piece ∈ pieces, piece.start chunkSize + piece.len ≤ stop := by
  induction pieces generalizing start with
  | nil => exact ⟨Nat.le_of_eq covers, nofun⟩
  | cons piece rest ih =>
    obtain ⟨first, _, _, _, _, later⟩ := covers
    obtain ⟨bound, inside⟩ := ih later
    refine ⟨by omega, ?_⟩
    intro other member
    rcases List.mem_cons.mp member with rfl | tail
    · omega
    · exact inside other tail

theorem Covers.stop_mem (some_bytes : start < stop) :
    ∃ piece ∈ pieces, piece.start chunkSize + piece.len = stop := by
  induction pieces generalizing start with
  | nil => exact absurd covers (Nat.ne_of_lt some_bytes)
  | cons piece rest ih =>
    obtain ⟨first, _, _, _, _, later⟩ := covers
    rcases Nat.lt_or_eq_of_le later.stop_le.1 with more | last
    · obtain ⟨found, member, same⟩ := ih later more
      exact ⟨found, List.mem_cons_of_mem _ member, same⟩
    · exact ⟨piece, List.mem_cons_self, by omega⟩

end

/-- The rest of a forwarded request: what the executor does until it replies. -/
def Daemon.finish (daemon : Daemon) (topology : Topology) (self : Nat) (area : Memory)
    (request : FsRequest) : Daemon.Received → Option (RemoteReply × Memory × Daemon)
  | .reply reply => some (reply, area, daemon)
  | .fetch pointer =>
    match request with
    | .write pathHash chunkIndex offset len =>
      ((daemon.transfer pointer (area.read 0 len)).commit topology self pathHash chunkIndex offset
        len).map fun daemon => (.plain 0 len, area, daemon)
    | _ => none
  | .deliver pointer actual =>
    some (.plain 0 actual, area.write 0 (daemon.store.region.read pointer actual), daemon)

namespace Cluster

variable {cluster : Cluster} {client : Nat} {request : FsRequest} {area : Memory}
  {response : FsResponse}

def served (cluster : Cluster) (client : Nat) (request : FsRequest) (response : FsResponse)
    (area : Memory) (daemons : Nat → Daemon) : Cluster :=
  { cluster with
    daemons
    areas := update cluster.areas client area
    log := cluster.log ++ [(request, response)] }

/-- What a call comes to that nothing interferes with. -/
def outcome (cluster : Cluster) (client : Nat) (request : FsRequest) (area : Memory) :
    Option (FsResponse × Memory × (Nat → Daemon)) :=
  let self := cluster.attached client
  let target := request.owner cluster.topology
  if target = self then
    ((cluster.daemons self).serve cluster.topology self area request).map
      fun (response, area, daemon) =>
        (response, area, update cluster.daemons self daemon)
  else if request.forwarded then
    match cluster.topology.forward self target with
    | none => some (.error (-2), area, cluster.daemons)
    | some executor =>
      match (cluster.daemons executor).receive request with
      | none => none
      | some (received, daemon) =>
        (daemon.finish cluster.topology executor area request received).map
          fun (reply, area, daemon) =>
            let daemons := update cluster.daemons executor daemon
            let (response, here) := (daemons self).complete cluster.topology self request reply
            (response, area, update daemons self here)
  else some (.error (-38), area, cluster.daemons)

/-- The steps of the call, one after the other. -/
theorem callBlocking_outcome (idle : cluster.calls client = none) :
    cluster.callBlocking client request area =
      (cluster.outcome client request area).map fun (response, filled, daemons) =>
        (response, cluster.served client request response filled daemons) := by
  have forget : update cluster.calls client none = cluster.calls := by
    rw [← idle, update_eq_self]
  unfold callBlocking outcome
  by_cases mine : request.owner cluster.topology = cluster.attached client
  · cases result : (cluster.daemons (cluster.attached client)).serve cluster.topology
      (cluster.attached client) area request <;>
      simp [run, next, step, idle, setCall, setArea, setDaemon, answer, advance, dispatch, mine,
        result, served, forget]
  cases kind : request.forwarded with
  | false =>
    simp [run, next, step, idle, setCall, setArea, answer, advance, dispatch, mine, kind, served,
      forget]
  | true =>
    cases sent : cluster.topology.forward (cluster.attached client)
      (request.owner cluster.topology) with
    | none =>
      simp [run, next, step, idle, setCall, setArea, answer, advance, dispatch, mine, kind, sent,
        served, forget]
    | some executor =>
      cases result : (cluster.daemons executor).receive request with
      | none =>
        simp [run, next, step, idle, setCall, setArea, advance, dispatch, mine, kind, sent,
          result, receive]
      | some pair =>
        obtain ⟨received, daemon⟩ := pair
        cases received with
        | reply reply | deliver pointer actual =>
          simp [run, next, step, idle, setCall, setArea, setDaemon, answer, advance, dispatch,
            mine, kind, sent, result, receive, deliver, complete, served, forget,
            Daemon.finish]
        | fetch pointer =>
          cases request with
          | write pathHash chunkIndex offset len =>
            cases committed : (daemon.transfer pointer (area.read 0 len)).commit
              cluster.topology executor pathHash chunkIndex offset len <;>
              simp [run, next, step, idle, setCall, setArea, setDaemon, answer, advance,
                dispatch, mine, kind, sent, result, receive, fetch, commit, committed,
                complete, served, forget, Daemon.finish]
          | _ =>
            simp [run, next, step, idle, setCall, setArea, setDaemon, advance, dispatch, mine,
              kind, sent, result, receive, fetch, Daemon.finish]

theorem callBlocking_own {filled : Memory} {daemon : Daemon} (idle : cluster.calls client = none)
    (mine : request.owner cluster.topology = cluster.attached client)
    (result : (cluster.daemons (cluster.attached client)).serve cluster.topology
      (cluster.attached client) area request = some (response, filled, daemon)) :
    cluster.callBlocking client request area =
      some (response, cluster.served client request response filled
        (update cluster.daemons (cluster.attached client) daemon)) := by
  rw [callBlocking_outcome idle]
  simp [outcome, mine, result]

theorem callBlocking_stuck (idle : cluster.calls client = none)
    (mine : request.owner cluster.topology = cluster.attached client)
    (result : (cluster.daemons (cluster.attached client)).serve cluster.topology
      (cluster.attached client) area request = none) :
    cluster.callBlocking client request area = none := by
  rw [callBlocking_outcome idle]
  simp [outcome, mine, result]

theorem callBlocking_remote {executor : Nat} {reply : RemoteReply} {there here : Daemon}
    (idle : cluster.calls client = none)
    (other : request.owner cluster.topology ≠ cluster.attached client)
    (kind : request.forwarded = true)
    (sent : cluster.topology.forward (cluster.attached client) (request.owner cluster.topology) =
      some executor)
    (result : (cluster.daemons executor).receive request = some (.reply reply, there))
    (answered : (update cluster.daemons executor there (cluster.attached client)).complete
      cluster.topology (cluster.attached client) request reply = (response, here)) :
    cluster.callBlocking client request area =
      some (response, cluster.served client request response area
        (update (update cluster.daemons executor there) (cluster.attached client) here)) := by
  rw [callBlocking_outcome idle]
  simp [outcome, other, kind, sent, result, answered, Daemon.finish]

theorem callBlocking_owner {reply : RemoteReply} {daemon : Daemon}
    (idle : cluster.calls client = none) (kind : request.forwarded = true)
    (direct : cluster.topology.Direct (cluster.attached client) (request.owner cluster.topology))
    (serves : (cluster.daemons (request.owner cluster.topology)).serve cluster.topology
      (request.owner cluster.topology) area request = some (response, area, daemon))
    (receives : (cluster.daemons (request.owner cluster.topology)).receive request =
      some (.reply reply, daemon))
    (answers : ∀ (here : Daemon),
      here.complete cluster.topology (cluster.attached client) request reply = (response, here)) :
    cluster.callBlocking client request area =
      some (response, cluster.served client request response area
        (update cluster.daemons (request.owner cluster.topology) daemon)) := by
  by_cases mine : request.owner cluster.topology = cluster.attached client
  · rw [mine] at serves ⊢
    exact callBlocking_own idle mine serves
  · have inside : request.owner cluster.topology < cluster.topology.totalDaemons :=
      cluster.topology.route_lt _ _
    have sent := (Topology.forward_eq_some_iff inside mine).mpr direct
    rw [callBlocking_remote idle mine kind sent receives (answers _), update_eq_self]

theorem callBlocking_create {pathHash mode chunkSize : Nat} (idle : cluster.calls client = none)
    (direct : cluster.topology.Direct (cluster.attached client)
      (route pathHash 0 cluster.topology.totalDaemons)) :
    cluster.callBlocking client (.create pathHash mode chunkSize) area =
      some (.ok, cluster.served client (.create pathHash mode chunkSize) .ok area
        (update cluster.daemons (route pathHash 0 cluster.topology.totalDaemons)
          ((cluster.daemons (route pathHash 0 cluster.topology.totalDaemons)).create pathHash mode
            chunkSize))) :=
  callBlocking_owner idle rfl direct rfl rfl fun _ => rfl

theorem callBlocking_stat {pathHash : Nat} {header : InodeHeader}
    (idle : cluster.calls client = none)
    (direct : cluster.topology.Direct (cluster.attached client)
      (route pathHash 0 cluster.topology.totalDaemons))
    (found : (cluster.daemons (route pathHash 0 cluster.topology.totalDaemons)).fileMetadata pathHash
      = some header) :
    cluster.callBlocking client (.stat pathHash) area =
      some (.statOk header, cluster.served client (.stat pathHash) (.statOk header) area
        cluster.daemons) := by
  have serves : (cluster.daemons (route pathHash 0 cluster.topology.totalDaemons)).serve
      cluster.topology (route pathHash 0 cluster.topology.totalDaemons) area (.stat pathHash) =
      some (.statOk header, area,
        cluster.daemons (route pathHash 0 cluster.topology.totalDaemons)) := by
    unfold Daemon.serve
    dsimp only
    rw [found]
  have receives : (cluster.daemons (route pathHash 0 cluster.topology.totalDaemons)).receive
      (.stat pathHash) = some (.reply (.stat 0 header),
        cluster.daemons (route pathHash 0 cluster.topology.totalDaemons)) := by
    unfold Daemon.receive
    dsimp only
    rw [found]
  have answered := @callBlocking_owner cluster client (.stat pathHash) area _ _ _ idle rfl direct
    serves receives fun _ => rfl
  have same : update cluster.daemons ((FsRequest.stat pathHash).owner cluster.topology)
      (cluster.daemons (route pathHash 0 cluster.topology.totalDaemons)) = cluster.daemons :=
    update_eq_self ..
  rwa [same] at answered

end Cluster

end Locasta.Aggfs
