import Locasta.Aggfs.Client
import Locasta.Aggfs.Ownership
import Mathlib.Data.List.MinMax

namespace Locasta.Aggfs

open Data Function

/-! The size of a file.

The owner of chunk 0 keeps it. It learns of a write when it executes it, or when the writing client
is its own; of the other writes it does not learn.
-/

namespace FsRequest

def writes (pathHash : Nat) : FsRequest → Bool
  | .write hash _ _ _ => hash = pathHash
  | _ => false

def stopIn (pathHash chunkSize : Nat) : FsRequest → Nat
  | .write hash chunkIndex offset len =>
    if hash = pathHash then chunkIndex * chunkSize + offset + len else 0
  | _ => 0

/-- The request does not create or remove the entry of the file. -/
def keeps (pathHash : Nat) : FsRequest → Bool
  | .create hash _ _ | .unlink hash | .mkdir hash _ => hash ≠ pathHash
  | _ => true

/-- A write to the file that the owner of chunk 0 takes part in. -/
def tracked (topology : Topology) (pathHash self : Nat) : FsRequest → Bool
  | .write hash chunkIndex _ _ =>
    hash ≠ pathHash ∨ self = route pathHash 0 topology.totalDaemons ∨
      route hash chunkIndex topology.totalDaemons = route pathHash 0 topology.totalDaemons
  | _ => true

variable {request : FsRequest}

theorem writes_of_stopIn {pathHash chunkSize : Nat}
    (positive : 0 < request.stopIn pathHash chunkSize) : request.writes pathHash = true := by
  cases request with
  | write hash chunkIndex offset len =>
    by_cases same : hash = pathHash
    · simp [writes, same]
    · simp [stopIn, same] at positive
  | _ => exact absurd positive (Nat.lt_irrefl 0)

theorem pathHash_of_writes {pathHash : Nat}
    (found : request.writes pathHash = true) : request.pathHash = pathHash := by
  cases request with
  | write hash chunkIndex offset len => exact of_decide_eq_true found
  | _ => cases found

theorem other_file {pathHash : Nat}
    (other : request.pathHash ≠ pathHash) (topology : Topology) (self chunkSize : Nat) :
    request.stopIn pathHash chunkSize = 0 ∧ request.keeps pathHash = true ∧
      request.tracked topology pathHash self = true := by
  unfold FsRequest.pathHash at other
  cases request <;> simp_all [stopIn, keeps, tracked]

end FsRequest

/-- The daemon knows the file with this size. -/
structure Daemon.Sees (pathHash chunkSize size : Nat) (daemon : Daemon) : Prop where
  entry : ∃ header, daemon.fileMetadata pathHash = some header ∧ header.size = size
  registered : daemon.store.fileChunkSize pathHash = some chunkSize

namespace Daemon.Sees

variable {pathHash chunkSize size : Nat} {daemon after : Daemon}

section

variable (sees : Sees pathHash chunkSize size daemon)
include sees

theorem of_store {store : PmemStore} (files : store.fileChunkSize = daemon.store.fileChunkSize) :
    Sees pathHash chunkSize size { daemon with store } where
  entry := sees.entry
  registered := by rw [files]; exact sees.registered

theorem updateFileSize (topology : Topology) (hash chunkIndex offset len : Nat) :
    Sees pathHash chunkSize
      (max size ((FsRequest.write hash chunkIndex offset len).stopIn pathHash chunkSize))
      (daemon.updateFileSize topology (route pathHash 0 topology.totalDaemons) hash chunkIndex offset
        len) := by
  obtain ⟨⟨header, found, rfl⟩, registered⟩ := sees
  unfold Daemon.updateFileSize FsRequest.stopIn
  by_cases same : hash = pathHash
  · subst same
    have effective : daemon.store.effectiveChunkSize hash = chunkSize := by
      rw [PmemStore.effectiveChunkSize, registered]
      rfl
    rw [if_pos rfl, found, effective]
    dsimp only
    rw [if_pos rfl]
    split
    · rename_i larger
      refine ⟨⟨_, update_self .., ?_⟩, registered⟩
      exact (Nat.max_eq_right (Nat.le_of_lt larger)).symm
    · rename_i smaller
      rw [Nat.max_eq_left (Nat.le_of_not_lt smaller)]
      exact ⟨⟨header, found, rfl⟩, registered⟩
  · dsimp only
    rw [if_neg same, Nat.max_zero]
    split
    · split
      · split
        · exact ⟨⟨header, (update_of_ne (Ne.symm same) ..).trans found, rfl⟩, registered⟩
        · exact ⟨⟨header, found, rfl⟩, registered⟩
      · exact ⟨⟨header, found, rfl⟩, registered⟩
    · exact ⟨⟨header, found, rfl⟩, registered⟩

variable {hash : Nat} (other : hash ≠ pathHash)
include other

theorem create (mode size' : Nat) : Sees pathHash chunkSize size (daemon.create hash mode size') where
  entry := by
    obtain ⟨header, found, same⟩ := sees.entry
    exact ⟨header, (update_of_ne (Ne.symm other) ..).trans found, same⟩
  registered := (update_of_ne (Ne.symm other) ..).trans sees.registered

theorem unlink :
    Sees pathHash chunkSize size (daemon.unlink hash) where
  entry := by
    obtain ⟨header, found, same⟩ := sees.entry
    exact ⟨header, (update_of_ne (Ne.symm other) ..).trans found, same⟩
  registered := (update_of_ne (Ne.symm other) ..).trans sees.registered

theorem mkdir (mode : Nat) : Sees pathHash chunkSize size (daemon.mkdir hash mode) where
  entry := by
    obtain ⟨header, found, same⟩ := sees.entry
    exact ⟨header, (update_of_ne (Ne.symm other) ..).trans found, same⟩
  registered := sees.registered

end

theorem write_files {store after : PmemStore} {hash chunkIdx offset : Nat} {data : List UInt8}
    (result : store.write hash chunkIdx offset data = some after) :
    after.fileChunkSize = store.fileChunkSize := by
  obtain ⟨_, location, between, ensured, rfl⟩ := PmemStore.write_spec result
  exact ensured.files

variable (sees : Sees pathHash chunkSize size daemon)
include sees

theorem serve {topology : Topology}
    {request : FsRequest} (keeps : request.keeps pathHash = true) {area area' : Memory}
    {response : FsResponse}
    (result : daemon.serve topology (route pathHash 0 topology.totalDaemons) area request =
      some (response, area', after)) :
    Sees pathHash chunkSize (max size (request.stopIn pathHash chunkSize)) after ∧
      (response = .ok ∨ request.stopIn pathHash chunkSize = 0) := by
  cases request with
  | write hash chunkIndex offset len =>
    obtain ⟨store, written, same⟩ := Option.map_eq_some_iff.mp result
    cases same
    exact ⟨(sees.of_store (write_files written)).updateFileSize topology _ _ _ _, .inl rfl⟩
  | read hash chunkIndex offset len =>
    cases result
    exact ⟨(Nat.max_zero size).symm ▸ sees, .inr rfl⟩
  | stat hash =>
    unfold Daemon.serve at result
    dsimp only at result
    split at result <;>
    · cases result
      exact ⟨(Nat.max_zero size).symm ▸ sees, .inr rfl⟩
  | create hash mode chunk =>
    cases result
    exact ⟨(Nat.max_zero size).symm ▸ sees.create (by simpa [FsRequest.keeps] using keeps) mode chunk,
      .inr rfl⟩
  | unlink hash =>
    cases result
    exact ⟨(Nat.max_zero size).symm ▸ sees.unlink (by simpa [FsRequest.keeps] using keeps), .inr rfl⟩
  | mkdir hash mode =>
    cases result
    exact ⟨(Nat.max_zero size).symm ▸ sees.mkdir (by simpa [FsRequest.keeps] using keeps) mode,
      .inr rfl⟩
  | readdir hash =>
    cases result
    exact ⟨(Nat.max_zero size).symm ▸ sees, .inr rfl⟩

theorem receive {request : FsRequest}
    (keeps : request.keeps pathHash = true) {received : Daemon.Received}
    (result : daemon.receive request = some (received, after)) :
    Sees pathHash chunkSize size after := by
  cases request with
  | write hash chunkIndex offset len =>
    obtain ⟨⟨_, store⟩, prepared, same⟩ := Option.map_eq_some_iff.mp result
    cases same
    unfold PmemStore.prepareWrite at prepared
    dsimp only at prepared
    split at prepared
    · obtain ⟨⟨location, between⟩, ensured, same⟩ := Option.map_eq_some_iff.mp prepared
      cases same
      exact sees.of_store (PmemStore.ensureChunk_spec ensured).files
    · cases prepared
  | read hash chunkIndex offset len =>
    unfold Daemon.receive at result
    dsimp only at result
    split at result
    · split at result <;> cases result <;> exact sees
    · cases result
      exact sees
  | stat hash =>
    unfold Daemon.receive at result
    dsimp only at result
    split at result <;> cases result <;> exact sees
  | create hash mode chunk =>
    cases result
    exact sees.create (by simpa [FsRequest.keeps] using keeps) mode chunk
  | unlink hash =>
    cases result
    exact sees.unlink (by simpa [FsRequest.keeps] using keeps)
  | mkdir hash mode => cases result
  | readdir hash => cases result

theorem commit {topology : Topology} {hash chunkIndex offset len : Nat}
    (result : daemon.commit topology (route pathHash 0 topology.totalDaemons) hash chunkIndex offset
      len = some after) :
    Sees pathHash chunkSize
      (max size ((FsRequest.write hash chunkIndex offset len).stopIn pathHash chunkSize)) after := by
  obtain ⟨store, committed, rfl⟩ := Option.map_eq_some_iff.mp result
  obtain ⟨location, _, same⟩ := Option.map_eq_some_iff.mp committed
  have files : store.fileChunkSize = daemon.store.fileChunkSize := by rw [← same]; rfl
  exact (sees.of_store files).updateFileSize topology hash chunkIndex offset len

theorem complete (topology : Topology)
    (request : FsRequest) (reply : RemoteReply) (proper : reply.Proper request) :
    Sees pathHash chunkSize (max size (request.stopIn pathHash chunkSize))
      (daemon.complete topology (route pathHash 0 topology.totalDaemons) request reply).2 := by
  have same : request.stopIn pathHash chunkSize = 0 →
      Sees pathHash chunkSize (max size (request.stopIn pathHash chunkSize)) daemon := by
    intro nothing
    rw [nothing, Nat.max_zero]
    exact sees
  cases reply with
  | stat status header =>
    obtain ⟨code, _, rfl⟩ := proper
    rcases code with rfl | rfl <;> exact same rfl
  | plain status len =>
    obtain ⟨rfl, _⟩ := proper
    cases request with
    | write hash chunkIndex offset count =>
      exact sees.updateFileSize topology hash chunkIndex offset count
    | _ => exact same rfl

end Daemon.Sees

namespace Cluster

/-- The size is the end of a write that is done, or that the owner has executed. -/
def Attained (topology : Topology) (pathHash chunkSize : Nat)
    (before : List (FsRequest × FsResponse)) (size : Nat) (cluster : Cluster) : Prop :=
  size = 0 ∨ (∃ request, (request, .ok) ∈ cluster.log.drop before.length ∧
      request.stopIn pathHash chunkSize = size) ∨
    ∃ client call reply, cluster.calls client = some call ∧
      call.phase = .returned (route pathHash 0 topology.totalDaemons) reply ∧
      call.request.stopIn pathHash chunkSize = size

/-- The owner of chunk 0 has the largest end of the writes done or executed. -/
structure Sized (topology : Topology) (attached : Nat → Nat) (pathHash chunkSize : Nat)
    (before : List (FsRequest × FsResponse)) (size : Nat) (cluster : Cluster) : Prop where
  placed : Placed topology attached cluster
  sees : (cluster.daemons (route pathHash 0 topology.totalDaemons)).Sees pathHash chunkSize size
  grown : before <+: cluster.log
  bounded : ∀ request, (request, .ok) ∈ cluster.log.drop before.length →
    request.stopIn pathHash chunkSize ≤ size
  applied : ∀ client call reply, cluster.calls client = some call →
    call.phase = .returned (route pathHash 0 topology.totalDaemons) reply →
    call.request.stopIn pathHash chunkSize ≤ size
  attained : Attained topology pathHash chunkSize before size cluster
  begun : ∀ client call, cluster.calls client = some call →
    (∀ response, call.phase ≠ .answered response) →
    call.request.keeps pathHash = true ∧
      call.request.tracked topology pathHash (attached client) = true

namespace Sized

variable {topology : Topology} {attached : Nat → Nat} {pathHash chunkSize size : Nat}
  {before : List (FsRequest × FsResponse)} {cluster after : Cluster}

theorem mem_drop_append {log new : List (FsRequest × FsResponse)} {entry : FsRequest × FsResponse}
    (grown : before <+: log) :
    entry ∈ (log ++ new).drop before.length ↔ entry ∈ log.drop before.length ∨ entry ∈ new := by
  rw [List.drop_append_of_le_length grown.length_le, List.mem_append]

section

variable (sized : Sized topology attached pathHash chunkSize before size cluster)
include sized

theorem move {client : Nat} {call moved : Call} {size' : Nat} {new : List (FsRequest × FsResponse)}
    (busy : cluster.calls client = some call)
    (running : ∀ response, call.phase ≠ .answered response)
    (placed : Placed topology attached after)
    (calls : after.calls = update cluster.calls client (some moved))
    (request : moved.request = call.request)
    (sees : (after.daemons (route pathHash 0 topology.totalDaemons)).Sees pathHash chunkSize size')
    (log : after.log = cluster.log ++ new) (own : ∀ entry ∈ new, entry.1 = call.request)
    (larger : size' = size ∨ size' = max size (call.request.stopIn pathHash chunkSize))
    (counted : (∃ reply, moved.phase = .returned (route pathHash 0 topology.totalDaemons) reply) ∨
      (call.request, .ok) ∈ new → call.request.stopIn pathHash chunkSize ≤ size')
    (settled : (∃ reply, moved.phase = .returned (route pathHash 0 topology.totalDaemons) reply) ∨
      (call.request, .ok) ∈ new ∨ call.request.stopIn pathHash chunkSize = 0 ∨
      (size' = size ∧
        ∀ reply, call.phase ≠ .returned (route pathHash 0 topology.totalDaemons) reply)) :
    Sized topology attached pathHash chunkSize before size' after := by
  have grows : size ≤ size' := by
    rcases larger with same | same
    · exact same.ge
    · exact same ▸ Nat.le_max_left ..
  have here : after.calls client = some moved := by rw [calls, update_self]
  have others : ∀ other, other ≠ client → after.calls other = cluster.calls other :=
    fun other different => by rw [calls, update_of_ne different]
  have mine : call.request.stopIn pathHash chunkSize = size' →
      Attained topology pathHash chunkSize before size' after ∨ (size' = size ∧
        ∀ reply, call.phase ≠ .returned (route pathHash 0 topology.totalDaemons) reply) := by
    intro largest
    rcases settled with ⟨reply, phase⟩ | logged | nothing | quiet
    · exact .inl (.inr (.inr ⟨client, moved, reply, here, phase, by rw [request, largest]⟩))
    · refine .inl (.inr (.inl ⟨call.request, ?_, largest⟩))
      rw [log]
      exact (mem_drop_append sized.grown).mpr (.inr logged)
    · exact .inl (.inl (largest.symm.trans nothing))
    · exact .inr quiet
  have old : size' = size → Attained topology pathHash chunkSize before size' after := by
    intro same
    rcases sized.attained with zero | ⟨found, member, largest⟩ |
      ⟨other, there, reply, waiting, phase, largest⟩
    · exact .inl (same.trans zero)
    · refine .inr (.inl ⟨found, ?_, largest.trans same.symm⟩)
      rw [log]
      exact (mem_drop_append sized.grown).mpr (.inl member)
    · by_cases self : other = client
      · subst self
        obtain rfl := Option.some.inj (busy.symm.trans waiting)
        rcases mine (largest.trans same.symm) with done | ⟨_, quiet⟩
        · exact done
        · exact absurd phase (quiet reply)
      · exact .inr (.inr ⟨other, there, reply, (others other self).trans waiting, phase,
          largest.trans same.symm⟩)
  exact {
    placed
    sees
    grown := log ▸ sized.grown.trans (List.prefix_append ..)
    bounded := fun found member => by
      rw [log] at member
      rcases (mem_drop_append sized.grown).mp member with early | late
      · exact Nat.le_trans (sized.bounded found early) grows
      · have same : found = call.request := own _ late
        subst same
        exact counted (.inr late)
    applied := fun other there reply waiting phase => by
      by_cases self : other = client
      · subst self
        obtain rfl := Option.some.inj (here.symm.trans waiting)
        rw [request]
        exact counted (.inl ⟨reply, phase⟩)
      · exact Nat.le_trans (sized.applied other there reply ((others other self).symm.trans waiting)
          phase) grows
    attained := by
      rcases larger with same | same
      · exact old same
      · rcases Nat.le_total size (call.request.stopIn pathHash chunkSize) with up | down
        · rw [Nat.max_eq_right up] at same
          rcases mine same.symm with done | ⟨kept, _⟩
          · exact done
          · exact old kept
        · rw [Nat.max_eq_left down] at same
          exact old same
    begun := fun other there waiting active => by
      by_cases self : other = client
      · subst self
        obtain rfl := Option.some.inj (here.symm.trans waiting)
        rw [request]
        exact sized.begun other call busy running
      · exact sized.begun other there ((others other self).symm.trans waiting) active }

theorem pass {client : Nat} {call moved : Call}
    (busy : cluster.calls client = some call)
    (running : ∀ response, call.phase ≠ .answered response)
    (placed : Placed topology attached after)
    (calls : after.calls = update cluster.calls client (some moved))
    (request : moved.request = call.request) {new : List (FsRequest × FsResponse)}
    (log : after.log = cluster.log ++ new)
    (errors : ∀ entry ∈ new, entry.1 = call.request ∧ entry.2 ≠ .ok)
    (sees : (after.daemons (route pathHash 0 topology.totalDaemons)).Sees pathHash chunkSize size)
    (returned : ∀ executor reply, moved.phase = .returned executor reply →
      executor = route pathHash 0 topology.totalDaemons →
      call.request.stopIn pathHash chunkSize = 0)
    (waiting : ∀ reply, call.phase ≠ .returned (route pathHash 0 topology.totalDaemons) reply) :
    Sized topology attached pathHash chunkSize before size after := by
  refine sized.move busy running placed calls request sees log (fun entry member => (errors entry
    member).1) (.inl rfl) ?_ (.inr (.inr (.inr ⟨rfl, waiting⟩)))
  rintro (⟨reply, phase⟩ | logged)
  · rw [returned _ reply phase rfl]
    exact Nat.zero_le _
  · exact absurd rfl (errors _ logged).2

theorem setDaemon {id : Nat} {daemon : Daemon} (here : id = route pathHash 0 topology.totalDaemons →
      daemon.Sees pathHash chunkSize size) :
    ((cluster.setDaemon id daemon).daemons (route pathHash 0 topology.totalDaemons)).Sees pathHash
      chunkSize size := by
  unfold Cluster.setDaemon
  dsimp only
  by_cases same : id = route pathHash 0 topology.totalDaemons
  · rw [same, update_self]
    exact here same
  · rw [update_of_ne (Ne.symm same)]
    exact sized.sees

end

theorem stopIn_of_not_write {request : FsRequest}
    (other : ∀ hash chunkIndex offset len, request ≠ .write hash chunkIndex offset len) :
    request.stopIn pathHash chunkSize = 0 := by
  cases request with
  | write hash chunkIndex offset len => exact absurd rfl (other hash chunkIndex offset len)
  | _ => rfl

theorem tracked_cases {request : FsRequest} {self : Nat}
    (tracked : request.tracked topology pathHash self = true) :
    request.stopIn pathHash chunkSize = 0 ∨ self = route pathHash 0 topology.totalDaemons ∨
      request.owner topology = route pathHash 0 topology.totalDaemons := by
  cases request with
  | write hash chunkIndex offset len =>
    have split : hash ≠ pathHash ∨ self = route pathHash 0 topology.totalDaemons ∨
        route hash chunkIndex topology.totalDaemons = route pathHash 0 topology.totalDaemons := by
      simpa [FsRequest.tracked] using tracked
    rcases split with other | mine | owned
    · exact .inl (if_neg other)
    · exact .inr (.inl mine)
    · exact .inr (.inr owned)
  | _ => exact .inl rfl

variable (sized : Sized topology attached pathHash chunkSize before size cluster)
include sized

variable {call : Call}

theorem dispatch {client : Nat} (busy : cluster.calls client = some call)
    (phase : call.phase = .queued) (result : cluster.dispatch client call = some after) :
    ∃ size', Sized topology attached pathHash chunkSize before size' after := by
  have running : ∀ response, call.phase ≠ .answered response := by rw [phase]; exact nofun
  have waiting : ∀ reply,
      call.phase ≠ .returned (route pathHash 0 topology.totalDaemons) reply := by
    rw [phase]
    exact nofun
  obtain ⟨keeps, tracked⟩ := sized.begun client call busy running
  have known := sized.placed.calls client call busy
  unfold Call.Placed at known
  rw [phase] at known
  have placed := sized.placed.dispatch known result
  unfold Cluster.dispatch at result
  rw [sized.placed.sameTopology, sized.placed.sameAttached] at result
  dsimp only at result
  split at result
  · rename_i mine
    obtain ⟨⟨response, area, daemon⟩, served, same⟩ := Option.map_eq_some_iff.mp result
    subst same
    by_cases here : attached client = route pathHash 0 topology.totalDaemons
    · rw [here] at served
      obtain ⟨sees, answer⟩ := sized.sees.serve keeps served
      refine ⟨_, sized.move busy running placed rfl rfl ?_ rfl ?_ (.inr rfl)
        (fun _ => Nat.le_max_right ..) ?_⟩
      · change ((cluster.setDaemon (attached client) daemon).daemons _).Sees _ _ _
        rw [here]
        unfold Cluster.setDaemon
        dsimp only
        rw [update_self]
        exact sees
      · intro entry member
        rw [List.mem_singleton.mp member]
      · rcases answer with rfl | nothing
        · exact .inr (.inl (List.mem_singleton.mpr rfl))
        · exact .inr (.inr (.inl nothing))
    · have nothing : call.request.stopIn pathHash chunkSize = 0 := by
        rcases tracked_cases tracked with none_left | self | owned
        · exact none_left
        · exact absurd self here
        · exact absurd (mine.symm.trans owned) here
      refine ⟨size, sized.move busy running placed rfl rfl
        (sized.setDaemon fun same => absurd same here) rfl ?_ (.inl rfl) ?_
        (.inr (.inr (.inl nothing)))⟩
      · intro entry member
        rw [List.mem_singleton.mp member]
      · intro _
        rw [nothing]
        exact Nat.zero_le _
  · split at result
    · split at result
      · cases result
        exact ⟨size, sized.pass busy running placed rfl rfl (List.append_nil _).symm nofun sized.sees
          nofun waiting⟩
      · cases result
        refine ⟨size, sized.pass busy running placed rfl rfl rfl ?_ sized.sees nofun waiting⟩
        intro entry member
        rw [List.mem_singleton.mp member]
        exact ⟨rfl, nofun⟩
    · cases result
      refine ⟨size, sized.pass busy running placed rfl rfl rfl ?_ sized.sees nofun waiting⟩
      intro entry member
      rw [List.mem_singleton.mp member]
      exact ⟨rfl, nofun⟩

variable {executor : Nat}

theorem receive {client : Nat} (busy : cluster.calls client = some call)
    (phase : call.phase = .sent executor)
    (result : cluster.receive client call executor = some after) :
    Sized topology attached pathHash chunkSize before size after := by
  have running : ∀ response, call.phase ≠ .answered response := by rw [phase]; exact nofun
  obtain ⟨keeps, _⟩ := sized.begun client call busy running
  have placed := sized.placed.receive (sized.placed.calls client call busy) phase result
  obtain ⟨⟨received, daemon⟩, found, same⟩ := Option.map_eq_some_iff.mp result
  subst same
  have proper := Daemon.receive_proper found
  refine sized.pass busy running placed rfl rfl (List.append_nil _).symm nofun
    (sized.setDaemon fun here => ?_) ?_ (by rw [phase]; exact nofun)
  · rw [here] at found
    exact sized.sees.receive keeps found
  · intro other reply returned _
    cases received with
    | reply answer => exact stopIn_of_not_write proper.2
    | fetch pointer => cases returned
    | deliver pointer actual => cases returned

theorem fetch {client pointer : Nat} (busy : cluster.calls client = some call)
    (phase : call.phase = .fetching executor pointer)
    (result : cluster.fetch client call executor pointer = some after)
    (placed : Placed topology attached after) :
    Sized topology attached pathHash chunkSize before size after := by
  unfold Cluster.fetch at result
  split at result
  · cases result
    refine sized.pass busy (by rw [phase]; exact nofun) placed rfl rfl (List.append_nil _).symm nofun
      (sized.setDaemon fun here => ?_) nofun (by rw [phase]; exact nofun)
    rw [here]
    exact sized.sees.of_store rfl
  · cases result

theorem commit {client : Nat} (busy : cluster.calls client = some call)
    (phase : call.phase = .fetched executor)
    (result : cluster.commit client call executor = some after)
    (placed : Placed topology attached after) :
    ∃ size', Sized topology attached pathHash chunkSize before size' after := by
  have running : ∀ response, call.phase ≠ .answered response := by rw [phase]; exact nofun
  unfold Cluster.commit at result
  rw [sized.placed.sameTopology] at result
  split at result
  · rename_i hash chunkIndex offset len request
    obtain ⟨daemon, committed, same⟩ := Option.map_eq_some_iff.mp result
    subst same
    by_cases here : executor = route pathHash 0 topology.totalDaemons
    · rw [here] at committed
      refine ⟨_, sized.move busy running placed rfl rfl ?_ (List.append_nil _).symm nofun (.inr rfl)
        (fun _ => Nat.le_max_right ..) (.inl ⟨_, by rw [here]⟩)⟩
      change ((cluster.setDaemon executor daemon).daemons _).Sees _ _ _
      rw [here, request]
      unfold Cluster.setDaemon
      dsimp only
      rw [update_self]
      exact sized.sees.commit committed
    · refine ⟨size, sized.pass busy running placed rfl rfl (List.append_nil _).symm nofun
        (sized.setDaemon fun same => absurd same here) ?_ (by rw [phase]; exact nofun)⟩
      rintro _ reply ⟨⟩ there
      exact absurd there here
  · cases result

theorem complete (single : topology.daemonsPerNode = 1) {client : Nat}
    {reply : RemoteReply} (busy : cluster.calls client = some call)
    (phase : call.phase = .returned executor reply)
    (placed : Placed topology attached (cluster.complete client call reply)) :
    ∃ size', Sized topology attached pathHash chunkSize before size'
      (cluster.complete client call reply) := by
  have running : ∀ response, call.phase ≠ .answered response := by rw [phase]; exact nofun
  obtain ⟨_, tracked⟩ := sized.begun client call busy running
  have known := sized.placed.calls client call busy
  unfold Call.Placed at known
  rw [phase] at known
  obtain ⟨⟨other, sent⟩, _, proper⟩ := known
  have there : executor = call.request.owner topology :=
    Topology.forwarded_to (topology.route_lt _ _) other (topology.direct_of_single single ..) sent
  have answer : ((cluster.daemons (attached client)).complete topology (attached client) call.request
        reply).1 = .ok ∨ call.request.stopIn pathHash chunkSize = 0 := by
    cases reply with
    | stat status header =>
      obtain ⟨_, hash, request⟩ := proper
      exact .inr (stopIn_of_not_write (by rw [request]; exact nofun))
    | plain status len =>
      obtain ⟨rfl, _⟩ := proper
      cases request : call.request with
      | write hash chunkIndex offset count => exact .inl rfl
      | _ => exact .inr rfl
  unfold Cluster.complete at placed ⊢
  rw [sized.placed.sameTopology, sized.placed.sameAttached] at placed ⊢
  have own : ∀ entry ∈ [(call.request, ((cluster.daemons (attached client)).complete topology
      (attached client) call.request reply).1)], entry.1 = call.request := by
    intro entry member
    rw [List.mem_singleton.mp member]
  have settled : (call.request, FsResponse.ok) ∈ [(call.request, ((cluster.daemons
      (attached client)).complete topology (attached client) call.request reply).1)] ∨
      call.request.stopIn pathHash chunkSize = 0 := by
    rcases answer with ok | nothing
    · exact .inl (List.mem_singleton.mpr (by rw [ok]))
    · exact .inr nothing
  by_cases here : attached client = route pathHash 0 topology.totalDaemons
  · refine ⟨_, sized.move busy running placed rfl rfl ?_ rfl own (.inr rfl)
      (fun _ => Nat.le_max_right ..) (.inr (settled.imp_right .inl))⟩
    change ((cluster.setDaemon (attached client) _).daemons _).Sees _ _ _
    rw [here]
    unfold Cluster.setDaemon
    dsimp only
    rw [update_self]
    exact sized.sees.complete topology call.request reply proper
  · refine ⟨size, sized.move busy running placed rfl rfl
      (sized.setDaemon fun same => absurd same here) rfl own (.inl rfl) ?_
      (.inr (settled.imp_right .inl))⟩
    intro _
    rcases tracked_cases tracked with nothing | self | owned
    · rw [nothing]
      exact Nat.zero_le _
    · exact absurd self here
    · exact sized.applied client call reply busy (by rw [phase, there, owned])

theorem advance (single : topology.daemonsPerNode = 1) {client : Nat}
    (busy : cluster.calls client = some call)
    (result : cluster.advance client call = some after) :
    ∃ size', Sized topology attached pathHash chunkSize before size' after := by
  have placed := sized.placed.advance busy result
  have known := sized.placed.calls client call busy
  unfold Cluster.advance at result
  split at result
  · rename_i phase
    exact sized.dispatch busy phase result
  · rename_i executor phase
    exact ⟨size, sized.receive busy phase result⟩
  · rename_i executor pointer phase
    exact ⟨size, sized.fetch busy phase result placed⟩
  · rename_i executor phase
    exact sized.commit busy phase result placed
  · rename_i executor pointer actual phase
    unfold Call.Placed at known
    rw [phase] at known
    obtain ⟨_, _, _, _, _, _, request⟩ := known
    cases result
    refine ⟨size, sized.pass busy (by rw [phase]; exact nofun) placed rfl rfl
      (List.append_nil _).symm nofun sized.sees ?_ (by rw [phase]; exact nofun)⟩
    intro _ _ _ _
    exact stopIn_of_not_write (by rw [request]; exact nofun)
  · rename_i executor reply phase
    cases result
    exact sized.complete single busy phase placed
  · cases result

theorem exchange {client : Nat} {call : Option Call} (daemons : after.daemons = cluster.daemons)
    (log : after.log = cluster.log) (placed : Placed topology attached after)
    (calls : after.calls = update cluster.calls client call)
    (was : ∀ call reply, cluster.calls client = some call →
      call.phase ≠ .returned (route pathHash 0 topology.totalDaemons) reply)
    (now : ∀ moved, call = some moved → moved.phase = .queued ∧
      moved.request.keeps pathHash = true ∧
      moved.request.tracked topology pathHash (attached client) = true) :
    Sized topology attached pathHash chunkSize before size after where
  placed
  sees := by rw [daemons]; exact sized.sees
  grown := by rw [log]; exact sized.grown
  bounded := by rw [log]; exact sized.bounded
  applied := by
    rw [calls]
    intro other there reply waiting
    refine @forall_thread_update Call cluster.calls client call (fun _ call =>
      call.phase = .returned (route pathHash 0 topology.totalDaemons) reply →
      call.request.stopIn pathHash chunkSize ≤ size) ?_ ?_ other there waiting
    · intro moved same phase
      rw [(now moved same).1] at phase
      cases phase
    · intro other there _ found phase
      exact sized.applied other there reply found phase
  attained := by
    rw [Attained, log, calls]
    rcases sized.attained with zero | logged | ⟨other, there, reply, waiting, phase, largest⟩
    · exact .inl zero
    · exact .inr (.inl logged)
    · refine .inr (.inr ⟨other, there, reply, ?_, phase, largest⟩)
      have different : other ≠ client := by
        rintro rfl
        exact was there reply waiting phase
      rw [update_of_ne different]
      exact waiting
  begun := by
    rw [calls]
    refine forall_thread_update ?_ ?_
    · intro moved same _
      exact (now moved same).2
    · intro other there _ found
      exact sized.begun other there found

/-- With one daemon for each node the owner of chunk 0 learns of every tracked write. -/
theorem next (single : topology.daemonsPerNode = 1) {action : Action}
    (started : ∀ client request area, action = .begin client request area →
      request.keeps pathHash = true ∧ request.tracked topology pathHash (attached client) = true) :
    ∃ size', Sized topology attached pathHash chunkSize before size' (cluster.next action) := by
  have kept : ∃ size', Sized topology attached pathHash chunkSize before size' cluster :=
    ⟨size, sized⟩
  refine @next_invariant (fun cluster =>
    ∃ size', Sized topology attached pathHash chunkSize before size' cluster) cluster action kept
    ?_ ?_ ?_ ?_
  · intro client request area begun idle
    refine ⟨size, sized.exchange rfl rfl ?_ rfl (by rw [idle]; exact nofun) ?_⟩
    · exact sized.placed.begun client request area
    · rintro _ ⟨⟩
      exact ⟨rfl, started client request area begun⟩
  · intro client call after busy result
    exact sized.advance single busy result
  · intro client call code busy waiting allowed
    refine ⟨size, sized.pass busy (by rw [waiting]; exact nofun)
      (sized.placed.refused busy waiting allowed) rfl rfl rfl ?_ sized.sees nofun
      (by rw [waiting]; exact nofun)⟩
    intro entry member
    rw [List.mem_singleton.mp member]
    exact ⟨rfl, nofun⟩
  · intro client call response busy phase
    refine ⟨size, sized.exchange rfl rfl (sized.placed.setCall rfl rfl rfl nofun) rfl ?_ nofun⟩
    intro there reply found returned
    obtain rfl := Option.some.inj (busy.symm.trans found)
    rw [phase] at returned
    cases returned

theorem run (single : topology.daemonsPerNode = 1) {actions : List Action}
    (started : ∀ client request area, Action.begin client request area ∈ actions →
      request.keeps pathHash = true ∧ request.tracked topology pathHash (attached client) = true) :
    ∃ size', Sized topology attached pathHash chunkSize before size'
      (run Cluster.next cluster actions) := by
  induction actions generalizing size cluster with
  | nil => exact ⟨size, sized⟩
  | cons action rest ih =>
    obtain ⟨size', moved⟩ := sized.next single fun client request area same =>
      started client request area (same ▸ List.mem_cons_self)
    exact ih moved fun client request area later =>
      started client request area (List.mem_cons_of_mem _ later)

end Sized

/-- No request about the file is under way. -/
def Quiet (pathHash : Nat) (cluster : Cluster) : Prop :=
  ∀ client call, cluster.calls client = some call → call.request.pathHash = pathHash →
    ∃ response, call.phase = .answered response

theorem Sized.initial {topology : Topology} {attached : Nat → Nat} {pathHash chunkSize : Nat}
    {cluster : Cluster} (placed : Placed topology attached cluster) (quiet : cluster.Quiet pathHash)
    (sees : (cluster.daemons (route pathHash 0 topology.totalDaemons)).Sees pathHash chunkSize 0) :
    Sized topology attached pathHash chunkSize cluster.log 0 cluster where
  placed
  sees
  grown := List.prefix_rfl
  bounded := by
    rw [List.drop_length]
    exact nofun
  applied := by
    intro client call reply busy phase
    have other : call.request.pathHash ≠ pathHash := by
      intro same
      obtain ⟨response, answered⟩ := quiet client call busy same
      rw [phase] at answered
      cases answered
    rw [(FsRequest.other_file other topology 0 chunkSize).1]
  attained := .inl rfl
  begun := by
    intro client call busy running
    have other : call.request.pathHash ≠ pathHash := by
      intro same
      obtain ⟨response, answered⟩ := quiet client call busy same
      exact running response answered
    exact (FsRequest.other_file other topology (attached client) chunkSize).2

theorem Sized.created {topology : Topology} {attached : Nat → Nat}
    {creator pathHash mode chunkSize : Nat} {area : Memory} {cluster fresh : Cluster}
    (placed : Placed topology attached cluster) (single : topology.daemonsPerNode = 1)
    (quiet : cluster.Quiet pathHash) (free : cluster.calls creator = none)
    (created : cluster.callBlocking creator (.create pathHash mode chunkSize) area =
      some (.ok, fresh)) :
    Sized topology attached pathHash chunkSize fresh.log 0 fresh := by
  have direct := topology.direct_of_single single (attached creator)
    (route pathHash 0 topology.totalDaemons)
  rw [callBlocking_create free (placed.near direct)] at created
  cases created
  refine Sized.initial ⟨placed.sameTopology, placed.sameAttached, placed.calls⟩ quiet ?_
  unfold served
  dsimp only
  rw [placed.sameTopology, update_self]
  exact ⟨⟨_, update_self .., rfl⟩, update_self ..⟩

theorem Sized.size_eq {topology : Topology} {attached : Nat → Nat}
    {pathHash chunkSize size : Nat} {before : List (FsRequest × FsResponse)} {cluster : Cluster}
    (sized : Sized topology attached pathHash chunkSize before size cluster)
    (quiet : cluster.Quiet pathHash) (positive : 0 < chunkSize) (narrow : chunkSize < 2 ^ 32)
    {pwrites : List Pwrite} (fits : ∀ pwrite ∈ pwrites, pwrite.Fits chunkSize)
    (wrote : ((cluster.log.drop before.length).filter fun entry => entry.1.writes pathHash).Perm
      (pwrites.flatMap fun pwrite => (pwrite.pieces chunkSize).map fun piece =>
        (.write pathHash piece.chunkIndex piece.chunkOffset piece.len, .ok))) :
    size = (pwrites.map fun pwrite => pwrite.offset + pwrite.len).foldr max 0 := by
  have covers : ∀ pwrite ∈ pwrites, Covers chunkSize pwrite.dataCapacity pwrite.offset
      (pwrite.pieces chunkSize) (pwrite.offset + pwrite.len) := by
    intro pwrite member
    obtain ⟨_, capacity, inside⟩ := fits pwrite member
    exact pieces_covers positive narrow capacity (Nat.le_refl _) inside
  have stop : ∀ piece : Piece,
      (FsRequest.write pathHash piece.chunkIndex piece.chunkOffset piece.len).stopIn pathHash
        chunkSize = piece.start chunkSize + piece.len := fun _ => if_pos rfl
  apply Nat.le_antisymm
  · rcases Nat.eq_zero_or_pos size with zero | some_bytes
    · rw [zero]
      exact Nat.zero_le _
    rcases sized.attained with zero | ⟨request, logged, largest⟩ |
      ⟨client, call, reply, busy, phase, largest⟩
    · omega
    · have written := FsRequest.writes_of_stopIn (largest ▸ some_bytes)
      have among := wrote.mem_iff.mp (List.mem_filter.mpr ⟨logged, written⟩)
      obtain ⟨pwrite, member, inside⟩ := List.mem_flatMap.mp among
      obtain ⟨piece, part, same⟩ := List.mem_map.mp inside
      cases same
      rw [stop] at largest
      have bound := (covers pwrite member).stop_le.2 piece part
      exact List.le_max_of_le (List.mem_map_of_mem member) (by omega)
    · have written := FsRequest.writes_of_stopIn (largest ▸ some_bytes)
      obtain ⟨response, answered⟩ := quiet client call busy (FsRequest.pathHash_of_writes written)
      rw [phase] at answered
      cases answered
  · apply List.max_le_of_forall_le
    intro bound member
    obtain ⟨pwrite, found, rfl⟩ := List.mem_map.mp member
    obtain ⟨piece, part, last⟩ := (covers pwrite found).stop_mem
      (by have := (fits pwrite found).1; omega)
    have among := wrote.mem_iff.mpr (List.mem_flatMap.mpr ⟨pwrite, found, List.mem_map_of_mem part⟩)
    have known := sized.bounded _ (List.mem_filter.mp among).1
    rwa [stop, last] at known

/-- With one daemon on each node, `stat` gives the largest end of the writes since the file was
created, if the owner of chunk 0 takes part in them. -/
theorem stat_size_of_pwrites (topology : Topology) (single : topology.daemonsPerNode = 1)
    (attached : Nat → Nat) (stores : Nat → PmemStore) (earlier later : List Action)
    (creator reader pathHash mode chunkSize : Nat) (area filled : Memory) (fresh : Cluster)
    (pwrites : List Pwrite) (positive : 0 < chunkSize) (narrow : chunkSize < 2 ^ 32)
    (free : (run next (new topology attached stores) earlier).calls creator = none)
    (alone : (run next (new topology attached stores) earlier).Quiet pathHash)
    (created : (run next (new topology attached stores) earlier).callBlocking creator
      (.create pathHash mode chunkSize) area = some (.ok, fresh))
    (started : ∀ client request area, Action.begin client request area ∈ later →
      request.keeps pathHash = true ∧ request.tracked topology pathHash (attached client) = true)
    (returned : (run next fresh later).Quiet pathHash)
    (fits : ∀ pwrite ∈ pwrites, pwrite.Fits chunkSize)
    (wrote : (((run next fresh later).log.drop fresh.log.length).filter
      fun entry => entry.1.writes pathHash).Perm
      (pwrites.flatMap fun pwrite => (pwrite.pieces chunkSize).map fun piece =>
        (.write pathHash piece.chunkIndex piece.chunkOffset piece.len, .ok)))
    (idle : (run next fresh later).calls reader = none) :
    ∃ header after, (run next fresh later).callBlocking reader (.stat pathHash) filled =
        some (.statOk header, after) ∧
      header.size = (pwrites.map fun pwrite => pwrite.offset + pwrite.len).foldr max 0 := by
  have opened := Sized.created (placed_run topology attached stores earlier) single alone free created
  obtain ⟨size, sized⟩ := opened.run single started
  obtain ⟨header, found, known⟩ := sized.sees.entry
  have answered := @callBlocking_stat _ reader filled pathHash header idle
    (sized.placed.near (topology.direct_of_single single _ _))
    (by rw [sized.placed.sameTopology]; exact found)
  refine ⟨header, _, answered, ?_⟩
  rw [known]
  exact sized.size_eq returned positive narrow fits wrote

def twoNodes : Cluster := new .twoNodes (fun client => client) fun _ => .new (fun _ => 0) 64 4

def blocking (client : Nat) (request : FsRequest) : List Action :=
  .begin client request (fun _ => 7) :: List.replicate 5 (.advance client) ++ [.finish client]

/-- The file 0 belongs to daemon 0, its chunk 1 to daemon 1. -/
def createdByOne : Cluster := run next twoNodes (blocking 1 (.create 0 0 4))

def pwriteByZero : List Action := blocking 0 (.write 0 0 0 4) ++ blocking 0 (.write 0 1 0 4)

theorem stat_size_of_pwriteByZero :
    ∃ header after, (run next createdByOne pwriteByZero).callBlocking 1 (.stat 0) (fun _ => 0) =
      some (.statOk header, after) ∧ header.size = 8 := by
  refine stat_size_of_pwrites twoNodes.topology rfl twoNodes.attached
    (fun _ => .new (fun _ => 0) 64 4) [] pwriteByZero 1 1 0 0 4 (fun _ => 7) (fun _ => 0)
    createdByOne [⟨0, 8, 8⟩] (by decide) (by decide) rfl nofun rfl ?_ ?_ (by decide) ?_ rfl
  · intro client request area member
    simp [pwriteByZero, blocking, List.replicate] at member
    rcases member with ⟨rfl, rfl, _⟩ | ⟨rfl, rfl, _⟩ <;> decide
  · intro client call busy _
    match client with
    | 0 => cases busy
    | 1 => cases busy
    | other + 2 => cases busy
  · decide +kernel

/-- Client 1 writes to a chunk of its own daemon: the owner of chunk 0 never hears of it. -/
theorem stat_misses_local_write : (Pwrite.pieces ⟨4, 4, 8⟩ 4).map (fun piece =>
        FsRequest.write 0 piece.chunkIndex piece.chunkOffset piece.len) = [.write 0 1 0 4] ∧
      (run next createdByOne (blocking 1 (.write 0 1 0 4))).log =
        [(.create 0 0 4, .ok), (.write 0 1 0 4, .ok)] ∧
      ((run next createdByOne (blocking 1 (.write 0 1 0 4))).callBlocking 1 (.stat 0)
        fun _ => 0).map Prod.fst = some (.statOk { mode := 0, size := 0, chunkSize := 4 }) := by
  decide +kernel

end Cluster

end Locasta.Aggfs
