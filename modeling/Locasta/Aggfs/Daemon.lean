import Locasta.Aggfs.Routing
import Locasta.Aggfs.Store

namespace Locasta.Aggfs

open Data Function

/-! One daemon: its store, the metadata of the files it owns, and what it does with a request. -/

/-- The fields that are ever set. -/
structure InodeHeader where
  mode : Nat
  size : Nat
  chunkSize : Nat
deriving DecidableEq

inductive FsRequest where
  | create (pathHash mode chunkSize : Nat)
  | stat (pathHash : Nat)
  | read (pathHash chunkIndex offset len : Nat)
  | write (pathHash chunkIndex offset len : Nat)
  | unlink (pathHash : Nat)
  | mkdir (pathHash mode : Nat)
  | readdir (pathHash : Nat)
deriving DecidableEq

inductive FsResponse where
  | ok
  | statOk (header : InodeHeader)
  | readOk (len : Nat)
  | notFound
  | error (code : Int)
deriving DecidableEq

/-- `RemoteResponse` or `RemoteStatResponse` -/
inductive RemoteReply where
  | plain (status : Int) (len : Nat)
  | stat (status : Int) (header : InodeHeader)
deriving DecidableEq

namespace FsRequest

def pathHash : FsRequest → Nat
  | .create pathHash _ _ | .stat pathHash | .read pathHash _ _ _ | .write pathHash _ _ _
  | .unlink pathHash | .mkdir pathHash _ | .readdir pathHash => pathHash

def chunkIndex : FsRequest → Nat
  | .read _ chunkIndex _ _ | .write _ chunkIndex _ _ => chunkIndex
  | .create .. | .stat _ | .unlink _ | .mkdir .. | .readdir _ => 0

/-- `mkdir` and `readdir` are not implemented for other daemons. -/
def forwarded : FsRequest → Bool
  | .mkdir .. | .readdir _ => false
  | _ => true

def owner (request : FsRequest) (topology : Topology) : Nat :=
  route request.pathHash request.chunkIndex topology.totalDaemons

end FsRequest

structure Daemon where
  store : PmemStore
  fileMetadata : Nat → Option InodeHeader

namespace Daemon

def new (store : PmemStore) : Daemon where
  store
  fileMetadata _ := none

def create (daemon : Daemon) (pathHash mode chunkSize : Nat) : Daemon where
  store := daemon.store.registerFile pathHash chunkSize
  fileMetadata := update daemon.fileMetadata pathHash (some { mode, size := 0, chunkSize })

def unlink (daemon : Daemon) (pathHash : Nat) : Daemon where
  store := (daemon.store.remove pathHash 0).2
  fileMetadata := update daemon.fileMetadata pathHash none

/-- With `S_IFDIR` -/
def mkdir (daemon : Daemon) (pathHash mode : Nat) : Daemon :=
  { daemon with
    fileMetadata := update daemon.fileMetadata pathHash
      (some { mode := mode ||| 0o040000, size := 0, chunkSize := 0 }) }

/-- Only the owner of the metadata has the size. -/
def updateFileSize (daemon : Daemon) (topology : Topology)
    (self pathHash chunkIndex offset len : Nat) : Daemon :=
  if route pathHash 0 topology.totalDaemons = self then
    let fileEnd := chunkIndex * daemon.store.effectiveChunkSize pathHash + offset + len
    match daemon.fileMetadata pathHash with
    | some header =>
      if fileEnd > header.size then
        { daemon with
          fileMetadata := update daemon.fileMetadata pathHash
            (some { header with size := fileEnd }) }
      else daemon
    | none => daemon
  else daemon

/-- A request of a local client whose owner is this daemon, with the data area of the client. -/
def serve (daemon : Daemon) (topology : Topology) (self : Nat) (area : Memory) :
    FsRequest → Option (FsResponse × Memory × Daemon)
  | .write pathHash chunkIndex offset len =>
    (daemon.store.write pathHash chunkIndex offset (area.read 0 len)).map fun store =>
      (.ok, area, { daemon with store }.updateFileSize topology self pathHash chunkIndex offset len)
  | .read pathHash chunkIndex offset len =>
    let bytes := daemon.store.read pathHash chunkIndex offset len
    some (.readOk bytes.length, area.write 0 bytes, daemon)
  | .stat pathHash =>
    match daemon.fileMetadata pathHash with
    | some header => some (.statOk header, area, daemon)
    | none => some (.notFound, area, daemon)
  | .create pathHash mode chunkSize => some (.ok, area, daemon.create pathHash mode chunkSize)
  | .unlink pathHash => some (.ok, area, daemon.unlink pathHash)
  | .mkdir pathHash mode => some (.ok, area, daemon.mkdir pathHash mode)
  | .readdir _ => some (.error (-38), area, daemon)

/-- A request from another daemon is replied to, or waits for a transfer. -/
inductive Received where
  | reply (reply : RemoteReply)
  /-- RDMA READ from the client to the pointer -/
  | fetch (pointer : Nat)
  /-- RDMA WRITE of so many bytes from the pointer to the client -/
  | deliver (pointer actual : Nat)

/-- A write is given its pointer whatever capacity is left behind it. -/
def receive (daemon : Daemon) : FsRequest → Option (Received × Daemon)
  | .write pathHash chunkIndex offset _ =>
    (daemon.store.prepareWrite pathHash chunkIndex offset).map fun ((pointer, _), store) =>
      (.fetch pointer, { daemon with store })
  | .read pathHash chunkIndex offset len =>
    let (pointer, available) :=
      (daemon.store.ptrForChunkRead pathHash chunkIndex offset).getD (none, 0)
    let actual := min available len
    match pointer with
    | some pointer =>
      if actual > 0 then some (.deliver pointer actual, daemon)
      else some (.reply (.plain 0 actual), daemon)
    | none => some (.reply (.plain 0 actual), daemon)
  | .create pathHash mode chunkSize =>
    some (.reply (.plain 0 0), daemon.create pathHash mode chunkSize)
  | .stat pathHash =>
    match daemon.fileMetadata pathHash with
    | some header => some (.reply (.stat 0 header), daemon)
    | none => some (.reply (.stat (-2) { mode := 0, size := 0, chunkSize := 0 }), daemon)
  | .unlink pathHash => some (.reply (.plain 0 0), daemon.unlink pathHash)
  | .mkdir .. | .readdir _ => none

/-- The bytes of a write have arrived. -/
def transfer (daemon : Daemon) (pointer : Nat) (bytes : List UInt8) : Daemon :=
  { daemon with store := { daemon.store with region := daemon.store.region.write pointer bytes } }

/-- The end of a write from another daemon. -/
def commit (daemon : Daemon) (topology : Topology) (self pathHash chunkIndex offset len : Nat) :
    Option Daemon :=
  (daemon.store.commitWrite pathHash chunkIndex offset len).map fun store =>
    { daemon with store }.updateFileSize topology self pathHash chunkIndex offset len

/-- The reply has come back to the daemon of the client. A short one to `stat` is an error. -/
def complete (daemon : Daemon) (topology : Topology) (self : Nat) (request : FsRequest) :
    RemoteReply → FsResponse × Daemon
  | .stat status header =>
    if status = 0 then (.statOk header, daemon)
    else if status = -2 then (.notFound, daemon)
    else (.error status, daemon)
  | .plain status len =>
    if status = 0 then
      match request with
      | .write pathHash chunkIndex offset len =>
        (.ok, daemon.updateFileSize topology self pathHash chunkIndex offset len)
      | .read .. => (.readOk len, daemon)
      | .stat _ => (.error (-1), daemon)
      | _ => (.ok, daemon)
    else (.error status, daemon)

variable {daemon : Daemon}

theorem updateFileSize_store (topology : Topology) (self pathHash chunkIndex offset len : Nat) :
    (daemon.updateFileSize topology self pathHash chunkIndex offset len).store = daemon.store := by
  unfold updateFileSize
  split
  · dsimp only
    split
    · split <;> rfl
    · rfl
  · rfl

theorem updateFileSize_known {topology : Topology} {self hash chunkIndex offset len pathHash : Nat}
    (found : (daemon.updateFileSize topology self hash chunkIndex offset len).fileMetadata pathHash ≠
      none) : daemon.fileMetadata pathHash ≠ none := by
  unfold updateFileSize at found
  split at found
  · dsimp only at found
    split at found
    · rename_i header there
      by_cases same : pathHash = hash
      · rw [same, there]
        exact nofun
      · split at found
        · dsimp only at found
          rwa [update_of_ne same] at found
        · exact found
    · exact found
  · exact found

end Daemon

end Locasta.Aggfs
