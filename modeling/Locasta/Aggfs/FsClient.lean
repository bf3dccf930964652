import Locasta.Aggfs.Client

namespace Locasta.Aggfs

open Data

/-! The methods of `FsClient`, each a sequence of blocking calls. -/

inductive FsError where
  | notFound
  | noSuchFd
  | serverError (code : Int)

structure FsClient where
  /-- Auxiliary: the client of the cluster. -/
  id : Nat
  chunkSize : Nat
  dataCapacity : Nat
  /-- The path hashes of the open files. -/
  fdTable : List (Option Nat)

namespace FsClient

def unitResult : FsResponse → Except FsError Unit
  | .ok => .ok ()
  | .error code => .error (.serverError code)
  | _ => .error (.serverError (-1))

def statResult : FsResponse → Except FsError InodeHeader
  | .statOk header => .ok header
  | .notFound => .error .notFound
  | .error code => .error (.serverError code)
  | _ => .error (.serverError (-1))

def call (client : FsClient) (cluster : Cluster) (request : FsRequest) :
    Option (FsResponse × Cluster) :=
  cluster.callBlocking client.id request (cluster.areas client.id)

def create (client : FsClient) (cluster : Cluster) (path : List UInt8) (mode : Nat) :
    Option (Except FsError Unit × Cluster) :=
  (client.call cluster (.create (koyamaHash path) mode (client.chunkSize % 2 ^ 32))).map
    fun (response, cluster) => (unitResult response, cluster)

def unlink (client : FsClient) (cluster : Cluster) (path : List UInt8) :
    Option (Except FsError Unit × Cluster) :=
  (client.call cluster (.unlink (koyamaHash path))).map
    fun (response, cluster) => (unitResult response, cluster)

def stat (client : FsClient) (cluster : Cluster) (path : List UInt8) :
    Option (Except FsError InodeHeader × Cluster) :=
  (client.call cluster (.stat (koyamaHash path))).map
    fun (response, cluster) => (statResult response, cluster)

/-- `open`: the first free entry of the table, or a new one. -/
def openFile (client : FsClient) (path : List UInt8) : Nat × FsClient :=
  match client.fdTable.findIdx? (·.isNone) with
  | some fd => (fd, { client with fdTable := client.fdTable.set fd (some (koyamaHash path)) })
  | none =>
    (client.fdTable.length, { client with fdTable := client.fdTable ++ [some (koyamaHash path)] })

def close (client : FsClient) (fd : Nat) : Except FsError FsClient :=
  match client.fdTable[fd]? with
  | some (some _) => .ok { client with fdTable := client.fdTable.set fd none }
  | _ => .error .noSuchFd

def fdPathHash (client : FsClient) (fd : Nat) : Except FsError Nat :=
  match client.fdTable[fd]? with
  | some (some pathHash) => .ok pathHash
  | _ => .error .noSuchFd

/-- How many bytes a turn of the loops asks for. -/
def thisLen (client : FsClient) (fileOffset remaining : Nat) : Nat :=
  min (min remaining (client.chunkSize - fileOffset % client.chunkSize)) client.dataCapacity

/-- The request of a turn of `pwrite`, and the data area with its bytes. -/
def pwriteTurn (client : FsClient) (pathHash : Nat) (cluster : Cluster) (fileOffset : Nat)
    (bytes : List UInt8) : FsRequest × Memory :=
  let thisLen := client.thisLen fileOffset bytes.length
  (.write pathHash (fileOffset / client.chunkSize % 2 ^ 32) (fileOffset % client.chunkSize % 2 ^ 32)
    (thisLen % 2 ^ 32), (cluster.areas client.id).write 0 (bytes.take thisLen))

/-- The loop of `pwrite`. Without capacity it does not end. -/
def pwriteLoop (client : FsClient) (pathHash : Nat) :
    Nat → Cluster → Nat → List UInt8 → Option (Except FsError Unit × Cluster)
  | _, cluster, _, [] => some (.ok (), cluster)
  | 0, _, _, _ :: _ => none
  | fuel + 1, cluster, fileOffset, byte :: bytes =>
    let thisLen := client.thisLen fileOffset (byte :: bytes).length
    let (request, area) := client.pwriteTurn pathHash cluster fileOffset (byte :: bytes)
    match cluster.callBlocking client.id request area with
    | none => none
    | some (response, cluster) =>
      match unitResult response with
      | .ok () =>
        client.pwriteLoop pathHash fuel cluster (fileOffset + thisLen)
          ((byte :: bytes).drop thisLen)
      | .error code => some (.error code, cluster)

/-- `Ok` has the number of bytes. -/
def pwrite (client : FsClient) (cluster : Cluster) (fd : Nat) (buf : List UInt8) (offset : Nat) :
    Option (Except FsError Nat × Cluster) :=
  match client.fdPathHash fd with
  | .error code => some (.error code, cluster)
  | .ok pathHash =>
    (client.pwriteLoop pathHash buf.length cluster offset buf).map
      fun (result, cluster) => (result.map fun _ => buf.length, cluster)

/-- The loop of `pread`, which ends early at a short read. -/
def preadLoop (client : FsClient) (pathHash : Nat) :
    Nat → Cluster → Nat → Nat → Option (Except FsError (List UInt8) × Cluster)
  | _, cluster, _, 0 => some (.ok [], cluster)
  | 0, _, _, _ + 1 => none
  | fuel + 1, cluster, fileOffset, remaining + 1 =>
    let thisLen := client.thisLen fileOffset (remaining + 1)
    let request := .read pathHash (fileOffset / client.chunkSize % 2 ^ 32)
      (fileOffset % client.chunkSize % 2 ^ 32) (thisLen % 2 ^ 32)
    match client.call cluster request with
    | none => none
    | some (.readOk actual, cluster) =>
      let bytes := (cluster.areas client.id).read 0 actual
      if actual < thisLen then some (.ok bytes, cluster)
      else
        (client.preadLoop pathHash fuel cluster (fileOffset + actual) (remaining + 1 - actual)).map
          fun (result, cluster) => (result.map (bytes ++ ·), cluster)
    | some (.error code, cluster) => some (.error (.serverError code), cluster)
    | some (_, cluster) => some (.error (.serverError (-1)), cluster)

/-- `Ok` has the bytes that were copied to a buffer of `len` bytes. -/
def pread (client : FsClient) (cluster : Cluster) (fd len offset : Nat) :
    Option (Except FsError (List UInt8) × Cluster) :=
  match client.fdPathHash fd with
  | .error code => some (.error code, cluster)
  | .ok pathHash => client.preadLoop pathHash len cluster offset len

theorem stat_found {client : FsClient} {cluster : Cluster} {path : List UInt8}
    {header : InodeHeader} (idle : cluster.calls client.id = none)
    (direct : cluster.topology.Direct (cluster.attached client.id)
      (route (koyamaHash path) 0 cluster.topology.totalDaemons))
    (found : (cluster.daemons (route (koyamaHash path) 0
      cluster.topology.totalDaemons)).fileMetadata (koyamaHash path) = some header) :
    ∃ after, client.stat cluster path = some (.ok header, after) := by
  refine ⟨cluster.served client.id (.stat (koyamaHash path)) (.statOk header)
    (cluster.areas client.id) cluster.daemons, ?_⟩
  unfold stat call
  rw [Cluster.callBlocking_stat idle direct found]
  rfl

/-- A `pwrite` that returns `Ok` has made the calls of its pieces, one after the other. -/
theorem pwriteLoop_log {client : FsClient} {cluster after : Cluster} {pathHash fuel fileOffset : Nat}
    {bytes : List UInt8} (idle : cluster.calls client.id = none)
    (wrote : client.pwriteLoop pathHash fuel cluster fileOffset bytes = some (.ok (), after)) :
    after.log = cluster.log ++
      (pieces client.chunkSize client.dataCapacity fuel fileOffset bytes.length).map fun piece =>
        (.write pathHash piece.chunkIndex piece.chunkOffset piece.len, .ok) := by
  induction fuel generalizing cluster fileOffset bytes with
  | zero =>
    cases bytes with
    | nil =>
      cases wrote
      simp [pieces]
    | cons byte rest => cases wrote
  | succ fuel ih =>
    cases bytes with
    | nil =>
      cases wrote
      simp [pieces]
    | cons byte rest =>
      unfold pwriteLoop pwriteTurn at wrote
      dsimp only at wrote
      split at wrote
      · cases wrote
      · rename_i response between called
        rw [Cluster.callBlocking_outcome idle] at called
        obtain ⟨⟨_, filled, daemons⟩, _, same⟩ := Option.map_eq_some_iff.mp called
        cases same
        split at wrote
        · rename_i done
          have ok : response = .ok := by
            cases response <;> first | rfl | cases done
          refine (ih ?_ wrote).trans ?_
          · exact idle
          · simp [pieces, Cluster.served, thisLen, ok]
        · cases wrote

end FsClient

end Locasta.Aggfs
