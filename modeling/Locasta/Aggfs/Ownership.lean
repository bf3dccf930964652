import Locasta.Aggfs.Cluster

namespace Locasta.Aggfs

open Data

/-! Which daemon executes a request. -/

/-- The replies to forwarded requests are no errors. -/
def RemoteReply.Proper (request : FsRequest) : RemoteReply → Prop
  | .plain status _ => status = 0 ∧ ∀ pathHash, request ≠ .stat pathHash
  | .stat status _ => (status = 0 ∨ status = -2) ∧ ∃ pathHash, request = .stat pathHash

/-- Only a write waits for bytes of the client, and only a read for bytes to it. -/
def Daemon.Received.Proper (request : FsRequest) : Daemon.Received → Prop
  | .reply answer => answer.Proper request ∧ ∀ pathHash chunkIndex offset len,
      request ≠ .write pathHash chunkIndex offset len
  | .fetch _ => ∃ pathHash chunkIndex offset len, request = .write pathHash chunkIndex offset len
  | .deliver .. => ∃ pathHash chunkIndex offset len, request = .read pathHash chunkIndex offset len

theorem Daemon.receive_proper {daemon after : Daemon} {request : FsRequest}
    {received : Daemon.Received} (result : daemon.receive request = some (received, after)) :
    received.Proper request := by
  cases request with
  | create pathHash mode chunkSize =>
    cases result
    exact ⟨⟨rfl, nofun⟩, nofun⟩
  | stat pathHash =>
    unfold Daemon.receive at result
    dsimp only at result
    split at result
    · cases result
      exact ⟨⟨.inl rfl, pathHash, rfl⟩, nofun⟩
    · cases result
      exact ⟨⟨.inr rfl, pathHash, rfl⟩, nofun⟩
  | read pathHash chunkIndex offset len =>
    unfold Daemon.receive at result
    dsimp only at result
    split at result
    · split at result
      · cases result
        exact ⟨pathHash, chunkIndex, offset, len, rfl⟩
      · cases result
        exact ⟨⟨rfl, nofun⟩, nofun⟩
    · cases result
      exact ⟨⟨rfl, nofun⟩, nofun⟩
  | write pathHash chunkIndex offset len =>
    obtain ⟨_, _, same⟩ := Option.map_eq_some_iff.mp result
    cases same
    exact ⟨pathHash, chunkIndex, offset, len, rfl⟩
  | unlink pathHash =>
    cases result
    exact ⟨⟨rfl, nofun⟩, nofun⟩
  | mkdir pathHash mode => cases result
  | readdir pathHash => cases result

/-- What `executed` records at each phase, for a request of the daemon `self` for `target`. -/
def Call.Placed (topology : Topology) (self : Nat) (call : Call) : Prop :=
  let target := call.request.owner topology
  let forwardedTo := fun executor =>
    target ≠ self ∧ topology.forward self target = some executor
  match call.phase with
  | .queued => call.executed = []
  | .sent executor => forwardedTo executor ∧ call.executed = []
  | .fetching executor _ | .fetched executor =>
    forwardedTo executor ∧ call.executed = [executor] ∧
      ∃ pathHash chunkIndex offset len, call.request = .write pathHash chunkIndex offset len
  | .delivering executor _ _ =>
    forwardedTo executor ∧ call.executed = [executor] ∧
      ∃ pathHash chunkIndex offset len, call.request = .read pathHash chunkIndex offset len
  | .returned executor reply =>
    forwardedTo executor ∧ call.executed = [executor] ∧ reply.Proper call.request
  | .answered response =>
    (target = self ∧ call.executed = [self]) ∨
    (∃ executor, forwardedTo executor ∧ call.executed = [executor]) ∨
    (call.executed = [] ∧ (response = .error (-1) ∨ response = .error (-11) ∨
      (target ≠ self ∧ topology.forward self target = none ∧ response = .error (-2)) ∨
      call.request.forwarded = false))

namespace Cluster

/-- The topology and the clients' places stay, and every request is where it should be. -/
structure Placed (topology : Topology) (attached : Nat → Nat) (cluster : Cluster) : Prop where
  sameTopology : cluster.topology = topology
  sameAttached : cluster.attached = attached
  calls : ∀ client call, cluster.calls client = some call → call.Placed topology (attached client)

namespace Placed

variable {topology : Topology} {attached : Nat → Nat} {cluster : Cluster}

variable (placed : Placed topology attached cluster)
include placed

variable {after : Cluster} {client : Nat}

theorem setCall
    (same : after.topology = cluster.topology) (clients : after.attached = cluster.attached)
    {call : Option Call}
    (calls : after.calls = Function.update cluster.calls client call)
    (here : ∀ moved, call = some moved → moved.Placed topology (attached client)) :
    Placed topology attached after where
  sameTopology := same.trans placed.sameTopology
  sameAttached := clients.trans placed.sameAttached
  calls := by
    rw [calls]
    exact forall_thread_update here fun other moved _ there => placed.calls other moved there

theorem near {pathHash chunkIndex : Nat}
    (direct : topology.Direct (attached client) (route pathHash chunkIndex topology.totalDaemons)) :
    cluster.topology.Direct (cluster.attached client)
      (route pathHash chunkIndex cluster.topology.totalDaemons) := by
  rw [placed.sameTopology, placed.sameAttached]
  exact direct

variable {call : Call}

theorem dispatch (waiting : call.executed = [])
    (result : cluster.dispatch client call = some after) : Placed topology attached after := by
  unfold Cluster.dispatch at result
  rw [placed.sameTopology, placed.sameAttached] at result
  dsimp only at result
  split at result
  · rename_i mine
    obtain ⟨⟨response, area, daemon⟩, _, rfl⟩ := Option.map_eq_some_iff.mp result
    refine placed.setCall rfl rfl rfl ?_
    rintro _ ⟨⟩
    refine .inl ⟨mine, ?_⟩
    rw [waiting, List.nil_append]
  · rename_i other
    split at result
    · split at result
      · rename_i executor sent
        cases result
        refine placed.setCall rfl rfl rfl ?_
        rintro _ ⟨⟩
        exact ⟨⟨other, sent⟩, waiting⟩
      · rename_i nowhere
        cases result
        refine placed.setCall rfl rfl rfl ?_
        rintro _ ⟨⟩
        exact .inr (.inr ⟨waiting, .inr (.inr (.inl ⟨other, nowhere, rfl⟩))⟩)
    · rename_i unknown
      cases result
      refine placed.setCall rfl rfl rfl ?_
      rintro _ ⟨⟩
      refine .inr (.inr ⟨waiting, .inr (.inr (.inr ?_))⟩)
      simpa using unknown

theorem receive {executor : Nat} (known : call.Placed topology (attached client))
    (phase : call.phase = .sent executor)
    (result : cluster.receive client call executor = some after) :
    Placed topology attached after := by
  unfold Call.Placed at known
  rw [phase] at known
  obtain ⟨sent, waiting⟩ := known
  obtain ⟨⟨received, daemon⟩, found, rfl⟩ := Option.map_eq_some_iff.mp result
  refine placed.setCall rfl rfl rfl ?_
  rintro _ ⟨⟩
  have once : call.executed ++ [executor] = [executor] := by rw [waiting, List.nil_append]
  have proper := Daemon.receive_proper found
  cases received with
  | reply reply => exact ⟨sent, once, proper.1⟩
  | fetch pointer => exact ⟨sent, once, proper⟩
  | deliver pointer actual => exact ⟨sent, once, proper⟩

theorem advance (busy : cluster.calls client = some call)
    (result : cluster.advance client call = some after) : Placed topology attached after := by
  have known := placed.calls client call busy
  unfold Cluster.advance at result
  split at result
  · rename_i phase
    unfold Call.Placed at known
    rw [phase] at known
    exact placed.dispatch known result
  · rename_i executor phase
    exact placed.receive known phase result
  · rename_i executor pointer phase
    unfold Call.Placed at known
    rw [phase] at known
    unfold Cluster.fetch at result
    split at result
    · cases result
      refine placed.setCall rfl rfl rfl ?_
      rintro _ ⟨⟩
      exact known
    · cases result
  · rename_i executor phase
    unfold Call.Placed at known
    rw [phase] at known
    unfold Cluster.commit at result
    split at result
    · rename_i request
      obtain ⟨daemon, _, rfl⟩ := Option.map_eq_some_iff.mp result
      refine placed.setCall rfl rfl rfl ?_
      rintro _ ⟨⟩
      exact ⟨known.1, known.2.1, rfl, by rw [request]; exact nofun⟩
    · cases result
  · rename_i executor pointer actual phase
    unfold Call.Placed at known
    rw [phase] at known
    obtain ⟨sent, once, _, _, _, _, request⟩ := known
    cases result
    refine placed.setCall rfl rfl rfl ?_
    rintro _ ⟨⟩
    exact ⟨sent, once, rfl, by rw [request]; exact nofun⟩
  · rename_i executor reply phase
    unfold Call.Placed at known
    rw [phase] at known
    cases result
    refine placed.setCall rfl rfl rfl ?_
    rintro _ ⟨⟩
    exact .inr (.inl ⟨executor, known.1, known.2.1⟩)
  · cases result

theorem begun (client : Nat) (request : FsRequest) (area : Memory) :
    Placed topology attached ((cluster.setArea client area).setCall client
      (some { request, phase := .queued, executed := [] })) := by
  refine placed.setCall rfl rfl rfl ?_
  rintro _ ⟨⟩
  rfl

theorem refused {code : Int}
    (busy : cluster.calls client = some call) (waiting : call.phase = .queued)
    (allowed : code = -1 ∨ code = -11) :
    Placed topology attached (cluster.answer client call (.error code)) := by
  have known := placed.calls client call busy
  unfold Call.Placed at known
  rw [waiting] at known
  refine placed.setCall rfl rfl rfl ?_
  rintro _ ⟨⟩
  refine .inr (.inr ⟨known, ?_⟩)
  rcases allowed with rfl | rfl
  · exact .inl rfl
  · exact .inr (.inl rfl)

/-- Every step leaves each request where it should be. -/
theorem next (action : Action) : Placed topology attached (cluster.next action) := by
  apply next_invariant placed
  · intro client request area _ _
    exact placed.begun client request area
  · intro client call after busy result
    exact placed.advance busy result
  · intro client call code busy waiting allowed
    exact placed.refused busy waiting allowed
  · intro client call response _ _
    exact placed.setCall rfl rfl rfl nofun

end Placed

theorem placed_run (topology : Topology) (attached : Nat → Nat) (stores : Nat → PmemStore)
    (actions : List Action) :
    Placed topology attached (run next (new topology attached stores) actions) := by
  have kept : ∀ (cluster : Cluster) (action : Action), Placed topology attached cluster →
      Placed topology attached (cluster.next action) := fun _ action placed => placed.next action
  exact run_always kept { sameTopology := rfl, sameAttached := rfl, calls := nofun }

/-- A request is executed on its owner only, if that is the daemon of the client or the daemon with
the same index on another node. -/
theorem request_executed_at_owner (topology : Topology) (attached : Nat → Nat)
    (stores : Nat → PmemStore) (actions : List Action) (client : Nat) (call : Call)
    (response : FsResponse)
    (answered : (run next (new topology attached stores) actions).calls client = some call)
    (phase : call.phase = .answered response) (kind : call.request.forwarded = true)
    (direct : topology.Direct (attached client) (call.request.owner topology)) :
    call.executed = [call.request.owner topology] ∨
      (call.executed = [] ∧ (response = .error (-1) ∨ response = .error (-11))) := by
  have known := (placed_run topology attached stores actions).calls client call answered
  have inside : call.request.owner topology < topology.totalDaemons := topology.route_lt _ _
  unfold Call.Placed at known
  rw [phase] at known
  rcases known with ⟨mine, executed⟩ | ⟨executor, ⟨other, sent⟩, executed⟩ | ⟨none_yet, refused⟩
  · left
    rw [executed, mine]
  · left
    rw [executed, Topology.forwarded_to inside other direct sent]
  · right
    refine ⟨none_yet, ?_⟩
    rcases refused with code | code | ⟨other, nowhere, _⟩ | unknown
    · exact .inl code
    · exact .inr code
    · rw [(Topology.forward_eq_some_iff inside other).mpr direct] at nowhere
      cases nowhere
    · rw [kind] at unknown
      cases unknown

/-- Two nodes with two daemons each; the clients 0 and 1 are at the daemons 0 and 3. -/
def twoByTwo : Cluster :=
  new { Topology.twoNodes with daemonsPerNode := 2, daemons_pos := Nat.two_pos }
    (fun client => 3 * client) fun _ => .new (fun _ => 0) 64 4

/-- The file 2 belongs to the counterpart of daemon 0. -/
def createAtCounterpart : List Action :=
  [.begin 0 (.create 2 0 4) (fun _ => 0), .advance 0, .advance 0, .advance 0]

theorem request_executed_at_owner_createAtCounterpart :
    ∃ call, (run next twoByTwo createAtCounterpart).calls 0 = some call ∧
      call.phase = .answered .ok ∧ (call.executed = [call.request.owner twoByTwo.topology] ∨
        (call.executed = [] ∧ (FsResponse.ok = .error (-1) ∨ FsResponse.ok = .error (-11)))) := by
  refine ⟨⟨.create 2 0 4, .answered .ok, [2]⟩, rfl, rfl, ?_⟩
  exact request_executed_at_owner twoByTwo.topology twoByTwo.attached
    (fun _ => .new (fun _ => 0) 64 4) createAtCounterpart 0 _ .ok rfl rfl rfl (by decide)

/-- The file 3 belongs to daemon 3, the file 1 to daemon 1. -/
def misrouted : List Action :=
  [.begin 0 (.create 3 0 4) (fun _ => 0), .advance 0, .advance 0, .advance 0,
    .begin 1 (.stat 3) (fun _ => 0), .advance 1]

def misroutedThenRefused : List Action :=
  misrouted ++ [.finish 0, .begin 0 (.create 1 0 4) (fun _ => 0), .advance 0]

/-- A file is created on a daemon that does not own it; and a request is refused. -/
theorem request_executed_elsewhere :
    ((run next twoByTwo misrouted).calls 0).map (fun call => (call.phase, call.executed)) =
        some (.answered .ok, [2]) ∧
      (FsRequest.create 3 0 4).owner twoByTwo.topology = 3 ∧
      ((run next twoByTwo misrouted).calls 1).map (fun call => (call.phase, call.executed)) =
        some (.answered .notFound, [3]) ∧
      ((run next twoByTwo misroutedThenRefused).calls 0).map (·.phase) =
        some (.answered (.error (-2))) ∧
      (FsRequest.create 1 0 4).owner twoByTwo.topology / 2 = 0 := by
  decide +kernel

end Cluster

end Locasta.Aggfs
