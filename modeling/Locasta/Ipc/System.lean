import Locasta.Mempc.Labelled

namespace Locasta.Ipc

open Data Mempc Function

/-! The shared-memory RPC of `ipc`: one server and its clients.

A step is one access to a slot of a ring or to a flag in shared memory; what a thread computes in
between belongs to the access before or after. Neither side goes away.
-/

inductive CallError where
  | serverDisconnected

/-- A `poll` that `call` makes while it waits for its slot keeps what is to be sent. -/
inductive ClientPc (Req U : Type) where
  | idle
  /-- At the head of the loop of `call`. -/
  | waiting (req : Req) (userData : U)
  /-- Between the two writes of `try_send`. -/
  | sending (userData : U)
  /-- In the loop of `poll`, with `count` responses so far. -/
  | polling (count : Nat) (next : Option (Req × U))
  /-- An `expect` failed. -/
  | panicked

def ClientPc.isIdle {Req U : Type} : ClientPc Req U → Bool
  | .idle => true
  | .waiting .. | .sending _ | .polling .. | .panicked => false

structure Client (Req Resp U : Type) where
  ringDepth : Nat
  inFlight : Nat
  userData : Nat → Option U
  pc : ClientPc Req U
  /-- Auxiliary: the user data of the calls, and what `on_response` was invoked with. -/
  calls : List U
  callbacks : List (U × Resp)

inductive Returned (Req : Type) where
  | call (result : Except CallError Unit)
  | poll (result : Except CallError Nat)
  | serverPoll (count : Nat)
  | recv (request : Option (Nat × Nat × Req))
  | reply

namespace Client

variable {Req Resp U : Type}

def connect (Req Resp U : Type) (ringDepth : Nat) : Client Req Resp U where
  ringDepth
  inFlight := 0
  userData _ := none
  pc := .idle
  calls := []
  callbacks := []

def call (client : Client Req Resp U) (serverAlive : Bool) (req : Req) (userData : U) :
    Option (Returned Req) × Client Req Resp U :=
  if !serverAlive then (some (.call (.error .serverDisconnected)), client)
  else (none, { client with pc := .waiting req userData })

/-- The end of `poll`, which may have been called by `call`. -/
def finishPoll (client : Client Req Resp U) (serverAlive : Bool) (count : Nat)
    (next : Option (Req × U)) : Option (Returned Req) × Client Req Resp U :=
  if count = 0 ∧ client.inFlight > 0 ∧ !serverAlive then
    let result := match next with
      | none => .poll (.error .serverDisconnected)
      | some _ => .call (.error .serverDisconnected)
    (some result, { client with pc := .idle })
  else
    match next with
    | none => (some (.poll (.ok count)), { client with pc := .idle })
    | some (req, userData) => (none, { client with pc := .waiting req userData })

/-- A response in the loop of `poll`. -/
def respond (client : Client Req Resp U) (response : Response Resp) (count : Nat)
    (next : Option (Req × U)) : Client Req Resp U :=
  match client.userData response.token with
  | none => { client with inFlight := client.inFlight - 1, pc := .panicked }
  | some userData =>
    { client with
      inFlight := client.inFlight - 1
      userData := update client.userData response.token none
      pc := .polling (count + 1) next
      callbacks := client.callbacks ++ [(userData, response.data)] }

def advance (client : Client Req Resp U) (lane : Lane Req Resp) (serverAlive : Bool) :
    Option (Returned Req) × Lane Req Resp × Client Req Resp U :=
  match client.pc with
  | .idle | .panicked => (none, lane, client)
  | .waiting req userData =>
    let nextSlot := lane.requests.tx.head &&& (client.ringDepth - 1)
    if (client.userData nextSlot).isNone then
      (none, lane.startCall req, { client with pc := .sending userData })
    else (none, lane, { client with pc := .polling 0 (some (req, userData)) })
  | .sending userData =>
    match lane.finishCall with
    | (none, lane) => (none, lane, { client with pc := .panicked })
    | (some slotIdx, lane) =>
      (some (.call (.ok ())), lane,
        { client with
          userData := update client.userData slotIdx (some userData)
          inFlight := client.inFlight + 1
          pc := .idle
          calls := client.calls ++ [userData] })
  | .polling count next =>
    if client.inFlight > 0 then
      match lane.recvResponse with
      | (.busy, lane) => (none, lane, client)
      | (.got _ response, lane) => (none, lane, client.respond response count next)
      | (.empty, lane) | (.uninit, lane) =>
        let (result, client) := client.finishPoll serverAlive count next
        (result, lane, client)
    else
      let (result, client) := client.finishPoll serverAlive count next
      (result, lane, client)

end Client

inductive ServerPc where
  | idle
  /-- At the head of the loop of `poll`, with `left` turns to go. -/
  | polling (skip : List Bool) (left scan count : Nat)
  /-- In `count_available` for the client `idx`. -/
  | counting (skip : List Bool) (left scan count idx avail pos : Nat)
  /-- In the loop of `recv`. -/
  | receiving
  | replying (clientIdx : Nat)

structure Server where
  maxClients : Nat
  ringDepth : Nat
  scanPos : Nat
  recvScanPos : Nat
  reqAvail : Nat → Nat
  recvStart : Nat
  pc : ServerPc

structure System (Req Resp U : Type) where
  serverAlive : Bool
  nextClientId : Nat
  alive : Nat → Bool
  lanes : Nat → Lane Req Resp
  clients : Nat → Client Req Resp U
  server : Server

namespace System

variable {Req Resp U : Type}

/-- `Server::create`, before any client has connected. -/
def create (Req Resp U : Type) (maxClients ringDepth : Nat) : System Req Resp U where
  serverAlive := true
  nextClientId := 0
  alive _ := false
  lanes _ := .new Req Resp ringDepth
  clients _ := .connect Req Resp U ringDepth
  server := {
    maxClients, ringDepth
    scanPos := 0
    recvScanPos := 0
    reqAvail _ := 0
    recvStart := 0
    pc := .idle }

inductive Action (Req Resp U : Type) where
  | connect
  | call (id : Nat) (req : Req) (userData : U)
  | poll (id : Nat)
  /-- The client goes on with what it is in. -/
  | client (id : Nat)
  | pollWithSkip (skip : List Bool)
  | recv
  | reply (id index : Nat) (resp : Resp)
  /-- The server goes on with what it is in. -/
  | server

def setLane (system : System Req Resp U) (id : Nat) (lane : Lane Req Resp) : System Req Resp U :=
  { system with lanes := update system.lanes id lane }

def setClient (system : System Req Resp U) (id : Nat) (client : Client Req Resp U) :
    System Req Resp U :=
  { system with clients := update system.clients id client }

def setServer (system : System Req Resp U) (server : Server) : System Req Resp U :=
  { system with server }

/-- `Client::connect` takes the next block of the shared memory. -/
def connect (system : System Req Resp U) : System Req Resp U :=
  let clientIdx := system.nextClientId
  let system := { system with nextClientId := clientIdx + 1 }
  if clientIdx ≥ system.server.maxClients then system
  else { system with alive := update system.alive clientIdx true }

/-- A turn of the loop of `poll_with_skip`; `poll` skips no client. -/
def pollTurn (system : System Req Resp U) (skip : List Bool) (left scan count : Nat) : Server :=
  let server := system.server
  let idx := scan
  let scan := (scan + 1) % server.maxClients
  let none := { server with
    reqAvail := update server.reqAvail idx 0, pc := .polling skip left scan count }
  if skip[idx]? = some true then none
  else if !system.alive idx then none
  else
    let pos := (system.lanes idx).requests.rx.tail
    { server with pc := .counting skip left scan count idx 0 pos }

def countTurn (system : System Req Resp U) (skip : List Bool)
    (left scan count idx avail pos : Nat) : Server :=
  let server := system.server
  let slot := (system.lanes idx).requests.slots (pos &&& (server.ringDepth - 1))
  if avail < server.ringDepth ∧ slot.generation = pos then
    { server with pc := .counting skip left scan count idx (avail + 1) ((pos + 1) % 2 ^ 64) }
  else
    { server with
      reqAvail := update server.reqAvail idx avail
      pc := .polling skip left scan (count + avail) }

def recvTurn (system : System Req Resp U) : Option (Returned Req) × System Req Resp U :=
  let server := system.server
  if server.recvScanPos < server.maxClients then
    let clientIdx := (server.recvStart + server.recvScanPos) % server.maxClients
    let next := { server with recvScanPos := server.recvScanPos + 1 }
    if server.reqAvail clientIdx > 0 then
      match (system.lanes clientIdx).recvRequest with
      | (.busy, lane) => (none, system.setLane clientIdx lane)
      | (.got slotIdx data, lane) =>
        let avail := server.reqAvail clientIdx
        (some (.recv (some (clientIdx, slotIdx, data))), (system.setLane clientIdx lane).setServer
            { server with
              reqAvail := update server.reqAvail clientIdx (avail - 1)
              pc := .idle })
      | (.empty, lane) | (.uninit, lane) =>
        (none, (system.setLane clientIdx lane).setServer next)
    else (none, system.setServer next)
  else (some (.recv none), system.setServer { server with pc := .idle })

/-- The next step of what the server is in. -/
def serve (system : System Req Resp U) : Option (Returned Req) × System Req Resp U :=
  let server := system.server
  match server.pc with
  | .idle => (none, system)
  | .polling _ 0 scan count =>
    (some (.serverPoll count), system.setServer
      { server with scanPos := scan, recvStart := scan, recvScanPos := 0, pc := .idle })
  | .polling skip (left + 1) scan count =>
    (none, system.setServer (system.pollTurn skip left scan count))
  | .counting skip left scan count idx avail pos =>
    (none, system.setServer (system.countTurn skip left scan count idx avail pos))
  | .receiving => system.recvTurn
  | .replying clientIdx =>
    (some .reply, (system.setLane clientIdx (system.lanes clientIdx).finishReply).setServer
      { server with pc := .idle })

/-- The server starts a function of its interface. -/
def serverCall (system : System Req Resp U) : Action Req Resp U → System Req Resp U
  | .pollWithSkip skip =>
    let server := system.server
    system.setServer { server with pc := .polling skip server.maxClients server.scanPos 0 }
  | .recv => system.setServer { system.server with pc := .receiving }
  | .reply id index resp =>
    if index < (system.lanes id).handles.length then
      (system.setLane id ((system.lanes id).startReply index resp)).setServer
        { system.server with pc := .replying id }
    else system
  | _ => system

def step (system : System Req Resp U) :
    Action Req Resp U → Option (Returned Req) × System Req Resp U
  | .connect => (none, system.connect)
  | .call id req userData =>
    if system.alive id ∧ (system.clients id).pc.isIdle then
      let (result, client) := (system.clients id).call system.serverAlive req userData
      (result, system.setClient id client)
    else (none, system)
  | .poll id =>
    if system.alive id ∧ (system.clients id).pc.isIdle then
      (none, system.setClient id { system.clients id with pc := .polling 0 none })
    else (none, system)
  | .client id =>
    let (result, lane, client) := (system.clients id).advance (system.lanes id) system.serverAlive
    (result, (system.setLane id lane).setClient id client)
  | .server => system.serve
  | action@(.pollWithSkip _) | action@.recv | action@(.reply ..) =>
    match system.server.pc with
    | .idle => (none, system.serverCall action)
    | _ => (none, system)

def next (system : System Req Resp U) (action : Action Req Resp U) : System Req Resp U :=
  (system.step action).2

end System

end Locasta.Ipc
