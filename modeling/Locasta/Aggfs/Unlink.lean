import Locasta.Aggfs.FileSize
import Locasta.Aggfs.FsClient

namespace Locasta.Aggfs

open Data Function

/-! What is left of a file that was removed.

`unlink` drops chunk 0 at its owner and nothing else. So it matters which chunks of the file there
are, and where.
-/

/-- The daemon has no chunks of the file but these. -/
def Daemon.Within (pathHash : Nat) (allowed : Nat → Prop) (daemon : Daemon) : Prop :=
  ∀ chunkIdx, daemon.store.chunkTable (pathHash, chunkIdx) ≠ none → allowed chunkIdx

/-- The request writes to no other chunk of the file. -/
def FsRequest.Permits (pathHash : Nat) (allowed : Nat → Prop) (request : FsRequest) : Prop :=
  ∀ chunkIndex offset len, request = .write pathHash chunkIndex offset len → allowed chunkIndex

namespace Daemon.Within

variable {pathHash : Nat} {allowed : Nat → Prop} {daemon after : Daemon}

variable (within : daemon.Within pathHash allowed)
include within

theorem of_table
    (same : after.store.chunkTable = daemon.store.chunkTable) : after.Within pathHash allowed := by
  intro chunkIdx found
  rw [same] at found
  exact within chunkIdx found

theorem of_others (hash chunkIndex : Nat) (others : ∀ chunk, chunk ≠ (hash, chunkIndex) →
      after.store.chunkTable chunk = daemon.store.chunkTable chunk)
    (here : hash = pathHash → allowed chunkIndex) : after.Within pathHash allowed := by
  intro chunkIdx found
  by_cases same : (pathHash, chunkIdx) = (hash, chunkIndex)
  · cases same
    exact here rfl
  · rw [others _ same] at found
    exact within chunkIdx found

theorem unlink (hash : Nat) : (daemon.unlink hash).Within pathHash allowed := by
  intro chunkIdx found
  by_cases same : (pathHash, chunkIdx) = (hash, 0)
  · rw [same] at found
    exact absurd (PmemStore.remove_self daemon.store hash 0) found
  · exact within chunkIdx (by rwa [← PmemStore.remove_other same])

theorem serve {topology : Topology} {self : Nat}
    {request : FsRequest} (permits : request.Permits pathHash allowed) {area area' : Memory}
    {response : FsResponse}
    (result : daemon.serve topology self area request = some (response, area', after)) :
    after.Within pathHash allowed := by
  cases request with
  | write hash chunkIndex offset len =>
    obtain ⟨store, written, same⟩ := Option.map_eq_some_iff.mp result
    cases same
    obtain ⟨_, location, between, ensured, rfl⟩ := PmemStore.write_spec written
    refine within.of_others hash chunkIndex (fun chunk different => ?_)
      fun same => permits chunkIndex offset len (by rw [same])
    rw [updateFileSize_store]
    exact (PmemStore.setChunk_other different).trans (ensured.others chunk different)
  | stat hash =>
    unfold Daemon.serve at result
    dsimp only at result
    split at result <;>
    · cases result
      exact within
  | unlink hash =>
    cases result
    exact within.unlink hash
  | _ =>
    cases result
    exact within.of_table rfl

theorem receive {request : FsRequest}
    (permits : request.Permits pathHash allowed) {received : Daemon.Received}
    (result : daemon.receive request = some (received, after)) : after.Within pathHash allowed := by
  cases request with
  | write hash chunkIndex offset len =>
    obtain ⟨⟨_, store⟩, prepared, same⟩ := Option.map_eq_some_iff.mp result
    cases same
    unfold PmemStore.prepareWrite at prepared
    dsimp only at prepared
    split at prepared
    · obtain ⟨⟨location, between⟩, ensured, same⟩ := Option.map_eq_some_iff.mp prepared
      cases same
      exact within.of_others hash chunkIndex (PmemStore.ensureChunk_spec ensured).others
        fun same => permits chunkIndex offset len (by rw [same])
    · cases prepared
  | read hash chunkIndex offset len =>
    unfold Daemon.receive at result
    dsimp only at result
    split at result
    · split at result <;> cases result <;> exact within
    · cases result
      exact within
  | stat hash =>
    unfold Daemon.receive at result
    dsimp only at result
    split at result <;> cases result <;> exact within
  | create hash mode chunk =>
    cases result
    exact within.of_table rfl
  | unlink hash =>
    cases result
    exact within.unlink hash
  | mkdir hash mode => cases result
  | readdir hash => cases result

theorem commit {topology : Topology} {self hash chunkIndex offset len : Nat}
    (result : daemon.commit topology self hash chunkIndex offset len = some after) :
    after.Within pathHash allowed := by
  obtain ⟨store, committed, rfl⟩ := Option.map_eq_some_iff.mp result
  obtain ⟨location, found, rfl⟩ := Option.map_eq_some_iff.mp committed
  refine within.of_others hash chunkIndex (fun chunk different => ?_) fun same => ?_
  · rw [updateFileSize_store]
    exact PmemStore.setChunk_other different
  · subst same
    exact within chunkIndex (by rw [found]; exact nofun)

theorem complete (topology : Topology) (self : Nat) (request : FsRequest) (reply : RemoteReply) :
    (daemon.complete topology self request reply).2.Within pathHash allowed := by
  unfold Daemon.complete
  split
  · split
    · exact within
    · split <;> exact within
  · split
    · split
      · exact within.of_table (by rw [updateFileSize_store])
      all_goals exact within
    · exact within

end Daemon.Within

namespace Cluster

/-- Each daemon has no chunks of the file but these, and no request will write to others. -/
structure Confined (topology : Topology) (attached : Nat → Nat) (pathHash : Nat)
    (allowed : Nat → Nat → Prop) (cluster : Cluster) : Prop where
  placed : Placed topology attached cluster
  stores : ∀ id, (cluster.daemons id).Within pathHash (allowed id)
  begun : ∀ client call, cluster.calls client = some call →
    (∀ response, call.phase ≠ .answered response) →
    call.request.Permits pathHash (allowed (call.request.owner topology))

namespace Confined

variable {topology : Topology} {attached : Nat → Nat} {pathHash : Nat}
  {allowed : Nat → Nat → Prop} {cluster after : Cluster}

section

variable (confined : Confined topology attached pathHash allowed cluster)
include confined

theorem move {client : Nat}
    {call moved : Call} (busy : cluster.calls client = some call)
    (running : ∀ response, call.phase ≠ .answered response)
    (placed : Placed topology attached after)
    (calls : after.calls = update cluster.calls client (some moved))
    (request : moved.request = call.request)
    (stores : ∀ id, (after.daemons id).Within pathHash (allowed id)) :
    Confined topology attached pathHash allowed after where
  placed
  stores
  begun := by
    rw [calls]
    refine forall_thread_update ?_ fun other there _ found => confined.begun other there found
    rintro _ ⟨⟩ _
    rw [request]
    exact confined.begun client call busy running

theorem setDaemon {id : Nat}
    {daemon : Daemon} (here : daemon.Within pathHash (allowed id)) (other : Nat) :
    ((cluster.setDaemon id daemon).daemons other).Within pathHash (allowed other) := by
  unfold Cluster.setDaemon
  dsimp only
  by_cases same : other = id
  · rw [same, update_self]
    exact here
  · rw [update_of_ne same]
    exact confined.stores other

end

theorem executor_eq (direct : ∀ client chunkIndex,
      topology.Direct (attached client) (route pathHash chunkIndex topology.totalDaemons))
    {request : FsRequest} {client executor : Nat} (file : request.pathHash = pathHash)
    (other : request.owner topology ≠ attached client)
    (sent : topology.forward (attached client) (request.owner topology) = some executor) :
    executor = request.owner topology := by
  have near : topology.Direct (attached client) (request.owner topology) := by
    unfold FsRequest.owner
    rw [file]
    exact direct client request.chunkIndex
  exact Topology.forwarded_to (topology.route_lt _ _) other near sent

section

variable (confined : Confined topology attached pathHash allowed cluster)
include confined

theorem dispatch {client : Nat}
    {call : Call} (busy : cluster.calls client = some call) (phase : call.phase = .queued)
    (result : cluster.dispatch client call = some after) :
    Confined topology attached pathHash allowed after := by
  have running : ∀ response, call.phase ≠ .answered response := by rw [phase]; exact nofun
  have permits := confined.begun client call busy running
  have known := confined.placed.calls client call busy
  unfold Call.Placed at known
  rw [phase] at known
  have placed := confined.placed.dispatch known result
  unfold Cluster.dispatch at result
  rw [confined.placed.sameTopology, confined.placed.sameAttached] at result
  dsimp only at result
  split at result
  · rename_i mine
    obtain ⟨⟨response, area, daemon⟩, served, same⟩ := Option.map_eq_some_iff.mp result
    subst same
    rw [mine] at permits
    exact confined.move busy running placed rfl rfl
      (confined.setDaemon ((confined.stores _).serve permits served))
  · split at result
    · split at result <;>
      · cases result
        exact confined.move busy running placed rfl rfl confined.stores
    · cases result
      exact confined.move busy running placed rfl rfl confined.stores

variable (direct : ∀ client chunkIndex,
    topology.Direct (attached client) (route pathHash chunkIndex topology.totalDaemons))
include direct

theorem receive {client executor : Nat} {call : Call} (busy : cluster.calls client = some call)
    (phase : call.phase = .sent executor)
    (result : cluster.receive client call executor = some after) :
    Confined topology attached pathHash allowed after := by
  have running : ∀ response, call.phase ≠ .answered response := by rw [phase]; exact nofun
  have known := confined.placed.calls client call busy
  have placed := confined.placed.receive known phase result
  unfold Call.Placed at known
  rw [phase] at known
  obtain ⟨⟨other, sent⟩, _⟩ := known
  have permits : call.request.Permits pathHash (allowed executor) := by
    intro chunkIndex offset len request
    rw [executor_eq direct (by rw [request]; rfl) other sent]
    exact confined.begun client call busy running chunkIndex offset len request
  obtain ⟨⟨received, daemon⟩, found, same⟩ := Option.map_eq_some_iff.mp result
  subst same
  exact confined.move busy running placed rfl rfl
    (confined.setDaemon ((confined.stores _).receive permits found))

theorem advance {client : Nat} {call : Call} (busy : cluster.calls client = some call)
    (result : cluster.advance client call = some after) :
    Confined topology attached pathHash allowed after := by
  have placed := confined.placed.advance busy result
  unfold Cluster.advance at result
  split at result
  · rename_i phase
    exact confined.dispatch busy phase result
  · rename_i executor phase
    exact confined.receive direct busy phase result
  · rename_i executor pointer phase
    unfold Cluster.fetch at result
    split at result
    · cases result
      exact confined.move busy (by rw [phase]; exact nofun) placed rfl rfl
        (confined.setDaemon ((confined.stores _).of_table rfl))
    · cases result
  · rename_i executor phase
    unfold Cluster.commit at result
    split at result
    · obtain ⟨daemon, committed, same⟩ := Option.map_eq_some_iff.mp result
      subst same
      exact confined.move busy (by rw [phase]; exact nofun) placed rfl rfl
        (confined.setDaemon ((confined.stores _).commit committed))
    · cases result
  · rename_i executor pointer actual phase
    cases result
    exact confined.move busy (by rw [phase]; exact nofun) placed rfl rfl confined.stores
  · rename_i executor reply phase
    cases result
    exact confined.move busy (by rw [phase]; exact nofun) placed rfl rfl
      (confined.setDaemon ((confined.stores _).complete _ _ _ _))
  · cases result

end

/-- The requests that are begun write to these chunks of the file only. -/
def Starts (topology : Topology) (pathHash : Nat) (allowed : Nat → Nat → Prop)
    (actions : List Action) : Prop :=
  ∀ client request area, Action.begin client request area ∈ actions →
    request.Permits pathHash (allowed (request.owner topology))

section

variable (confined : Confined topology attached pathHash allowed cluster)
  (direct : ∀ client chunkIndex,
    topology.Direct (attached client) (route pathHash chunkIndex topology.totalDaemons))
include confined direct

/-- No step stores a chunk of the file that is not allowed. -/
theorem next {action : Action} (started : Starts topology pathHash allowed [action]) :
    Confined topology attached pathHash allowed (cluster.next action) := by
  apply next_invariant confined
  · intro client request area begun _
    refine ⟨?_, confined.stores, ?_⟩
    · exact confined.placed.begun client request area
    · refine forall_thread_update ?_ fun other there _ found => confined.begun other there found
      rintro _ ⟨⟩ _
      exact started client request area (by rw [begun]; exact List.mem_singleton_self _)
  · intro client call after busy result
    exact confined.advance direct busy result
  · intro client call code busy waiting allowed
    exact confined.move busy (by rw [waiting]; exact nofun)
      (confined.placed.refused busy waiting allowed) rfl rfl confined.stores
  · intro client call response _ _
    refine ⟨confined.placed.setCall rfl rfl rfl nofun, confined.stores, ?_⟩
    exact forall_thread_update nofun fun other there _ found => confined.begun other there found

theorem run {actions : List Action} (started : Starts topology pathHash allowed actions) :
    Confined topology attached pathHash allowed (run Cluster.next cluster actions) := by
  induction actions generalizing cluster with
  | nil => exact confined
  | cons action rest ih =>
    refine ih (confined.next direct ?_) fun client request area later =>
      started client request area (List.mem_cons_of_mem _ later)
    intro client request area here
    exact started client request area (List.mem_singleton.mp here ▸ List.mem_cons_self)

end

theorem new (topology : Topology) (attached : Nat → Nat) (regions : Nat → Memory)
    (regionLen maxChunkCapacity : Nat) :
    Confined topology attached pathHash allowed
      (Cluster.new topology attached fun id => .new (regions id) regionLen maxChunkCapacity) where
  placed := { sameTopology := rfl, sameAttached := rfl, calls := nofun }
  stores _ _ found := absurd rfl found
  begun := nofun

end Confined

theorem callBlocking_unlink {cluster : Cluster} {client pathHash : Nat} {area : Memory}
    (idle : cluster.calls client = none)
    (direct : cluster.topology.Direct (cluster.attached client)
      (route pathHash 0 cluster.topology.totalDaemons)) :
    cluster.callBlocking client (.unlink pathHash) area =
      some (.ok, cluster.served client (.unlink pathHash) .ok area
        (update cluster.daemons (route pathHash 0 cluster.topology.totalDaemons)
          ((cluster.daemons (route pathHash 0 cluster.topology.totalDaemons)).unlink pathHash))) :=
  callBlocking_owner idle rfl direct rfl rfl fun _ => rfl

theorem callBlocking_read_none {cluster : Cluster} {client pathHash chunkIndex : Nat}
    {area : Memory}
    (idle : cluster.calls client = none)
    (direct : cluster.topology.Direct (cluster.attached client)
      (route pathHash chunkIndex cluster.topology.totalDaemons))
    (empty : (cluster.daemons (route pathHash chunkIndex
      cluster.topology.totalDaemons)).store.chunkTable (pathHash, chunkIndex) = none) (offset len : Nat) :
    ∃ after, cluster.callBlocking client (.read pathHash chunkIndex offset len) area =
      some (.readOk 0, after) := by
  by_cases mine : route pathHash chunkIndex cluster.topology.totalDaemons = cluster.attached client
  · rw [mine] at empty
    have nothing : (cluster.daemons (cluster.attached client)).store.read pathHash chunkIndex offset
        len = [] := by
      unfold PmemStore.read
      rw [empty]
    have served : (cluster.daemons (cluster.attached client)).serve cluster.topology
        (cluster.attached client) area (.read pathHash chunkIndex offset len) =
        some (.readOk 0, area.write 0 [], cluster.daemons (cluster.attached client)) := by
      unfold Daemon.serve
      dsimp only
      rw [nothing]
      rfl
    exact ⟨_, callBlocking_own idle mine served⟩
  · have sent := (Topology.forward_eq_some_iff (cluster.topology.route_lt _ _) mine).mpr direct
    have received : (cluster.daemons (route pathHash chunkIndex
        cluster.topology.totalDaemons)).receive (.read pathHash chunkIndex offset len) =
        some (.reply (.plain 0 0),
          cluster.daemons (route pathHash chunkIndex cluster.topology.totalDaemons)) := by
      unfold Daemon.receive PmemStore.ptrForChunkRead
      dsimp only
      rw [empty]
      simp
    exact ⟨_, callBlocking_remote idle mine rfl sent received rfl⟩

theorem Confined.unlinked {topology : Topology} {attached : Nat → Nat} {pathHash : Nat}
    {cluster : Cluster} (quiet : cluster.Quiet pathHash)
    (confined : Confined topology attached pathHash
      (fun id chunkIdx => id = route pathHash 0 topology.totalDaemons ∧ chunkIdx = 0) cluster)
    (client : Nat) (request : FsRequest) (response : FsResponse) (area : Memory) :
    Confined topology attached pathHash (fun _ _ => False)
      (cluster.served client request response area
        (update cluster.daemons (route pathHash 0 cluster.topology.totalDaemons)
          ((cluster.daemons (route pathHash 0 cluster.topology.totalDaemons)).unlink pathHash))) where
  placed := ⟨confined.placed.sameTopology, confined.placed.sameAttached, confined.placed.calls⟩
  stores := by
    intro id chunkIdx found
    unfold served at found
    dsimp only at found
    rw [confined.placed.sameTopology] at found
    by_cases same : id = route pathHash 0 topology.totalDaemons
    · rw [same, update_self] at found
      obtain ⟨_, rfl⟩ := (confined.stores _).unlink pathHash chunkIdx found
      exact found (PmemStore.remove_self _ pathHash 0)
    · rw [update_of_ne same] at found
      exact same (confined.stores id chunkIdx found).1
  begun := by
    intro other call busy running chunkIndex offset len write
    obtain ⟨response, answered⟩ := quiet other call busy (by rw [write]; rfl)
    exact running response answered

theorem Confined.created {topology : Topology} {attached : Nat → Nat} {pathHash : Nat}
    {allowed : Nat → Nat → Prop} {cluster : Cluster}
    (confined : Confined topology attached pathHash allowed cluster)
    (client mode chunkSize : Nat) (request : FsRequest) (response : FsResponse) (area : Memory) :
    Confined topology attached pathHash allowed (cluster.served client request response area
        (update cluster.daemons (route pathHash 0 cluster.topology.totalDaemons)
          ((cluster.daemons (route pathHash 0 cluster.topology.totalDaemons)).create pathHash mode
            chunkSize))) where
  placed := ⟨confined.placed.sameTopology, confined.placed.sameAttached, confined.placed.calls⟩
  stores := confined.setDaemon ((confined.stores _).of_table rfl)
  begun := confined.begun

theorem Confined.pread_empty {topology : Topology} {attached : Nat → Nat} {pathHash : Nat}
    {cluster : Cluster} (confined : Confined topology attached pathHash (fun _ _ => False) cluster)
    (direct : ∀ client chunkIndex,
      topology.Direct (attached client) (route pathHash chunkIndex topology.totalDaemons))
    {reader : FsClient} (chunkSize : 0 < reader.chunkSize) (capacity : 0 < reader.dataCapacity)
    (idle : cluster.calls reader.id = none) {fd : Nat}
    (found : reader.fdPathHash fd = .ok pathHash) (len offset : Nat) :
    ∃ after, reader.pread cluster fd len offset = some (.ok [], after) := by
  unfold FsClient.pread
  rw [found]
  cases len with
  | zero => exact ⟨cluster, rfl⟩
  | succ len =>
    obtain ⟨after, answered⟩ := @callBlocking_read_none cluster reader.id pathHash
      (offset / reader.chunkSize % 2 ^ 32) (cluster.areas reader.id) idle
      (confined.placed.near (direct reader.id _))
      (by
        by_contra present
        exact confined.stores _ _ present)
      (offset % reader.chunkSize % 2 ^ 32) (reader.thisLen offset (len + 1) % 2 ^ 32)
    have asked : 0 < reader.thisLen offset (len + 1) := by
      have below := Nat.mod_lt offset chunkSize
      unfold FsClient.thisLen
      omega
    refine ⟨after, ?_⟩
    unfold FsClient.preadLoop FsClient.call
    dsimp only
    rw [answered]
    dsimp only
    rw [if_pos asked]
    rfl

/-- A file whose writes all went to chunk 0 is gone when it is removed. -/
theorem unlink_discards (topology : Topology) (attached : Nat → Nat) (regions : Nat → Memory)
    (regionLen maxChunkCapacity : Nat) (earlier between : List Action)
    (remover creator reader : FsClient) (path : List UInt8) (mode : Nat)
    (cluster gone again fresh : Cluster)
    (direct : ∀ client chunkIndex, topology.Direct (attached client)
      (route (koyamaHash path) chunkIndex topology.totalDaemons))
    (chunkSize : 0 < reader.chunkSize) (capacity : 0 < reader.dataCapacity)
    (reached : run next (new topology attached fun id => .new (regions id) regionLen
      maxChunkCapacity) earlier = cluster)
    (first : ∀ client chunkIndex offset len area,
      Action.begin client (.write (koyamaHash path) chunkIndex offset len) area ∈ earlier →
      chunkIndex = 0)
    (quiet : cluster.Quiet (koyamaHash path)) (free : cluster.calls remover.id = none)
    (unlinked : remover.unlink cluster path = some (.ok (), gone))
    (later : run next gone between = again)
    (unwritten : ∀ client chunkIndex offset len area,
      Action.begin client (.write (koyamaHash path) chunkIndex offset len) area ∉ between)
    (ready : again.calls creator.id = none)
    (created : creator.create again path mode = some (.ok (), fresh))
    (idle : fresh.calls reader.id = none) :
    (∃ header after, reader.stat fresh path = some (.ok header, after) ∧ header.size = 0) ∧
      ∀ fd len offset, reader.fdPathHash fd = .ok (koyamaHash path) →
        ∃ after, reader.pread fresh fd len offset = some (.ok [], after) := by
  have confined : Confined topology attached (koyamaHash path) (fun id chunkIdx =>
      id = route (koyamaHash path) 0 topology.totalDaemons ∧ chunkIdx = 0) cluster := by
    rw [← reached]
    refine (Confined.new topology attached regions regionLen maxChunkCapacity).run direct ?_
    rintro client _ area member chunkIndex offset len rfl
    obtain rfl := first client chunkIndex offset len area member
    exact ⟨rfl, rfl⟩
  have cleared : Confined topology attached (koyamaHash path) (fun _ _ => False) gone := by
    unfold FsClient.unlink FsClient.call at unlinked
    rw [callBlocking_unlink free (confined.placed.near (direct remover.id 0))] at unlinked
    cases unlinked
    exact confined.unlinked quiet ..
  have still : Confined topology attached (koyamaHash path) (fun _ _ => False) again := by
    rw [← later]
    refine cleared.run direct ?_
    rintro client _ area member chunkIndex offset len rfl
    exact unwritten client chunkIndex offset len area member
  unfold FsClient.create FsClient.call at created
  rw [callBlocking_create ready (still.placed.near (direct creator.id 0))] at created
  cases created
  have opened := still.created creator.id mode (creator.chunkSize % 2 ^ 32)
    (.create (koyamaHash path) mode (creator.chunkSize % 2 ^ 32)) .ok (again.areas creator.id)
  refine ⟨?_, fun fd len offset found =>
    opened.pread_empty direct chunkSize capacity idle found len offset⟩
  have beside := still.placed.near (direct reader.id 0)
  obtain ⟨after, answered⟩ := @FsClient.stat_found reader _ path
    { mode, size := 0, chunkSize := creator.chunkSize % 2 ^ 32 } idle beside (by
      unfold served
      dsimp only
      rw [update_self]
      exact update_self ..)
  exact ⟨_, after, answered, rfl⟩

def readerOfB : FsClient where
  id := 0
  chunkSize := 4
  dataCapacity := 8
  fdTable := [some 98]

theorem unlink_discards_readerOfB :
    ∃ gone again, readerOfB.unlink (run next twoNodes (blocking 0 (.create 98 0 4) ++
        blocking 1 (.write 98 0 0 4))) [98] = some (.ok (), gone) ∧
      readerOfB.create gone [98] 0 = some (.ok (), again) ∧
      (∃ header after, readerOfB.stat again [98] = some (.ok header, after) ∧ header.size = 0) ∧
      ∀ fd len offset, readerOfB.fdPathHash fd = .ok (koyamaHash [98]) →
        ∃ after, readerOfB.pread again fd len offset = some (.ok [], after) := by
  refine ⟨_, _, rfl, rfl, ?_⟩
  refine unlink_discards twoNodes.topology twoNodes.attached (fun _ _ => 0) 64 4
    (blocking 0 (.create 98 0 4) ++ blocking 1 (.write 98 0 0 4)) [] readerOfB readerOfB readerOfB
    [98] 0 _ _ _ _ ?_ (by decide) (by decide) rfl ?_ ?_ rfl rfl rfl (by simp) rfl rfl rfl
  · exact fun client chunkIndex => Topology.direct_of_single _ rfl _ _
  · intro client chunkIndex offset len area member
    simp [blocking, List.replicate] at member
    omega
  · intro client call busy _
    cases client with
    | zero => cases busy
    | succ client => cases client <;> cases busy

def oneDaemon : Cluster := new .onlyNode (fun _ => 0) fun _ => .new (fun _ => 0) 64 4

/-- A file of eight bytes is removed and created again: the second chunk is still there. -/
theorem unlink_leaves_chunks : (do
      let (_, cluster) ← readerOfB.create oneDaemon [98] 0
      let (written, cluster) ← readerOfB.pwrite cluster 0 [1, 2, 3, 4, 5, 6, 7, 8] 0
      let (unlinked, cluster) ← readerOfB.unlink cluster [98]
      let (created, cluster) ← readerOfB.create cluster [98] 0
      let (read, _) ← readerOfB.pread cluster 0 4 4
      some (written, unlinked, created, read)) =
      some (.ok 8, .ok (), .ok (), .ok [5, 6, 7, 8]) := by
  rfl

end Cluster

end Locasta.Aggfs
