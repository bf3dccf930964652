import Locasta.Data.Run
import Mathlib.Data.List.Basic
import Mathlib.Data.List.Nodup
import Mathlib.Data.List.Perm.Basic
import Mathlib.Logic.Function.Basic

namespace Locasta.Scalerpc

open Data Function

/-! Who owns the slots of the client's message pool: its free list, the slots that `add_connection` sets
aside, and the handles of pending calls.
-/

inductive SlotState where
  | free
  | reserved
deriving DecidableEq

structure SlotPool where
  numSlots : Nat
  freeList : List Nat
  state : Nat → SlotState

namespace SlotPool

def new (numSlots : Nat) : SlotPool where
  numSlots
  freeList := List.range numSlots
  state _ := .free

/-- A slot that is not free is put back. -/
def alloc (pool : SlotPool) : Option (Nat × SlotPool) :=
  match pool.freeList.getLast? with
  | none => none
  | some index =>
    if pool.state index = .free then
      some (index, { pool with
        freeList := pool.freeList.dropLast
        state := update pool.state index .reserved })
    else none

def freeSlotByIndex (pool : SlotPool) (index : Nat) : SlotPool :=
  if index < pool.numSlots then
    { pool with
      freeList := pool.freeList ++ [index]
      state := update pool.state index .free }
  else pool

/-- `count` calls of `alloc`, up to the first that fails. -/
def preallocate : Nat → SlotPool → List Nat × SlotPool
  | 0, pool => ([], pool)
  | count + 1, pool =>
    match pool.alloc with
    | none => ([], pool)
    | some (index, pool) =>
      let (rest, pool) := preallocate count pool
      (index :: rest, pool)

/-- The slots of `held` are all different and none of them is in the free list. -/
structure Owned (pool : SlotPool) (held : List Nat) : Prop where
  distinct : (pool.freeList ++ held).Nodup
  inside : ∀ index ∈ pool.freeList ++ held, index < pool.numSlots
  free : ∀ index ∈ pool.freeList, pool.state index = .free

namespace Owned

variable {pool : SlotPool} {held : List Nat} {index : Nat}

theorem perm {other : List Nat} (owned : Owned pool held) (same : held.Perm other) :
    Owned pool other where
  distinct := (same.append_left pool.freeList).nodup owned.distinct
  inside index member := owned.inside index ((same.append_left pool.freeList).mem_iff.mpr member)
  free := owned.free

theorem of_new (numSlots : Nat) : Owned (.new numSlots) [] where
  distinct := by
    rw [List.append_nil]
    exact List.nodup_range
  inside index member := by
    rw [List.append_nil] at member
    exact List.mem_range.mp member
  free _ _ := rfl

theorem held_nodup (owned : Owned pool held) : held.Nodup :=
  (List.nodup_append.mp owned.distinct).2.1

theorem not_free (owned : Owned pool held) (member : index ∈ held) : index ∉ pool.freeList :=
  fun isFree => (List.nodup_append.mp owned.distinct).2.2 index isFree index member rfl

theorem alloc {after : SlotPool} (owned : Owned pool held)
    (found : pool.alloc = some (index, after)) : Owned after (index :: held) := by
  unfold SlotPool.alloc at found
  split at found
  · cases found
  rename_i last lastOf
  split at found
  · cases found
    obtain ⟨rest, whole⟩ := List.getLast?_eq_some_iff.mp lastOf
    have kept : pool.freeList.dropLast = rest := by rw [whole, List.dropLast_concat]
    have distinct := owned.distinct
    have inside := owned.inside
    rw [whole, List.append_assoc] at distinct inside
    constructor
    · rw [kept]
      exact distinct
    · rw [kept]
      exact inside
    · intro other member
      rw [kept] at member
      have different : other ≠ index :=
        (List.nodup_append.mp distinct).2.2 other member index List.mem_cons_self
      change update pool.state index .reserved other = .free
      rw [update_of_ne different]
      apply owned.free
      rw [whole]
      exact List.mem_append_left _ member
  · cases found

theorem freeSlotByIndex (owned : Owned pool (index :: held)) :
    Owned (pool.freeSlotByIndex index) held := by
  have inside : index < pool.numSlots :=
    owned.inside index (List.mem_append_right _ List.mem_cons_self)
  unfold SlotPool.freeSlotByIndex
  rw [if_pos inside]
  have same : pool.freeList ++ [index] ++ held = pool.freeList ++ index :: held := by
    rw [List.append_assoc, List.singleton_append]
  constructor
  · rw [same]
    exact owned.distinct
  · rw [same]
    exact owned.inside
  · intro other member
    dsimp only
    rcases List.mem_append.mp member with old | new
    · have different : other ≠ index := fun equal => owned.not_free List.mem_cons_self (equal ▸ old)
      rw [update_of_ne different]
      exact owned.free other old
    · rw [List.mem_singleton.mp new, update_self]

theorem preallocate (count : Nat) : ∀ {pool : SlotPool} {held : List Nat}, Owned pool held →
    Owned (pool.preallocate count).2 ((pool.preallocate count).1 ++ held) := by
  induction count with
  | zero =>
    intro pool held owned
    exact owned
  | succ count ih =>
    intro pool held owned
    unfold SlotPool.preallocate
    split
    · exact owned
    · rename_i index after found
      exact (ih (owned.alloc found)).perm List.perm_middle

end Owned

end SlotPool

structure ClientConnection where
  /-- The state is `Process`. -/
  inProcess : Bool
  sendSlots : List Nat
  responseSlots : List Nat
  responseSlotIndex : Nat

def ClientConnection.slots (conn : ClientConnection) : List Nat :=
  conn.sendSlots ++ conn.responseSlots

structure PendingRpc where
  slotIndex : Nat
  reqId : Nat
  connId : Nat
  sendSlotIndex : Option Nat
  /-- Auxiliary: the handle is one of `call_direct`. -/
  direct : Bool

inductive DirectAnswer where
  /-- no credits, or no remote slots -/
  | refused
  /-- The send queue does not take the WRITE. -/
  | failed
  | sent

/-- How `send_warmup` ends, if there is a free slot. -/
inductive WarmupAnswer where
  /-- A notification is pending, or the warmup buffer is full. -/
  | refused
  /-- `write_request` finds the buffer full, which the check before it excludes. -/
  | failed
  | written

def ClientConnection.nextResponseSlot (conn : ClientConnection) : Option Nat :=
  conn.responseSlots[conn.responseSlotIndex % conn.responseSlots.length]?

structure RpcClient where
  maxConnections : Nat
  pool : SlotPool
  connections : List ClientConnection
  nextReqId : Nat
  /-- Auxiliary: the handles that were neither released nor dropped. -/
  live : List PendingRpc

namespace RpcClient

def new (numSlots maxConnections : Nat) : RpcClient where
  maxConnections
  pool := .new numSlots
  connections := []
  nextReqId := 1
  live := []

def addConnection (client : RpcClient) : RpcClient :=
  if client.connections.length ≥ client.maxConnections then client
  else
    let sends := client.pool.preallocate (max (min 2048 (client.pool.freeList.length / 4)) 1)
    let responses := sends.2.preallocate (max (min 2048 (sends.2.freeList.length / 2)) 8)
    { client with
      pool := responses.2
      connections := client.connections ++
        [{ inProcess := false, sendSlots := sends.1, responseSlots := responses.1,
           responseSlotIndex := 0 }] }

def setConnection (client : RpcClient) (connId : Nat) (conn : ClientConnection) : RpcClient :=
  { client with connections := client.connections.set connId conn }

def callDirect (client : RpcClient) (connId : Nat) (answer : DirectAnswer) : RpcClient :=
  match client.connections[connId]? with
  | none => client
  | some conn =>
    match answer with
    | .refused => client
    | answer =>
      match conn.nextResponseSlot with
      | none => client
      | some slotIndex =>
        let advanced := client.setConnection connId
          { conn with responseSlotIndex := conn.responseSlotIndex + 1 }
        let reqId := client.nextReqId
        match answer with
        | .sent =>
          { advanced with
            nextReqId := reqId + 1
            live := { slotIndex, reqId, connId, sendSlotIndex := none, direct := true } ::
              client.live }
        | _ => { advanced with nextReqId := reqId + 1 }

def sendWarmup (client : RpcClient) (connId : Nat) (answer : WarmupAnswer) : RpcClient :=
  match client.connections[connId]? with
  | none => client
  | some _ =>
    match answer with
    | .refused => client
    | answer =>
      match client.pool.alloc with
      | none => client
      | some (slotIndex, pool) =>
        let reqId := client.nextReqId
        match answer with
        | .written =>
          { client with
            pool
            nextReqId := reqId + 1
            live := { slotIndex, reqId, connId, sendSlotIndex := none, direct := false } ::
              client.live }
        | _ =>
          { client with
            pool := pool.freeSlotByIndex slotIndex
            nextReqId := reqId + 1 }

def callAsync (client : RpcClient) (connId : Nat) (direct : DirectAnswer)
    (warmup : WarmupAnswer) : RpcClient :=
  match client.connections[connId]? with
  | none => client
  | some conn => if conn.inProcess then client.callDirect connId direct
      else client.sendWarmup connId warmup

/-- `notify_warmup_ready` sends its message from a slot that it gives back. -/
def notifyWarmupReady (client : RpcClient) : RpcClient :=
  match client.pool.alloc with
  | none => client
  | some (slotIndex, pool) => { client with pool := pool.freeSlotByIndex slotIndex }

/-- `PendingRpc::release` of the live handle at a position. -/
def release (client : RpcClient) (position : Nat) : RpcClient :=
  match client.live[position]? with
  | none => client
  | some handle =>
    { client with
      pool := client.pool.freeSlotByIndex handle.slotIndex
      live := client.live.eraseIdx position }

/-- `PendingRpc::drop` of the live handle at a position. -/
def drop (client : RpcClient) (position : Nat) : RpcClient :=
  match client.live[position]? with
  | none => client
  | some handle =>
    let pool := client.pool.freeSlotByIndex handle.slotIndex
    { client with
      pool := match handle.sendSlotIndex with
        | none => pool
        | some sendSlotIndex => pool.freeSlotByIndex sendSlotIndex
      live := client.live.eraseIdx position }

inductive Action where
  | addConnection
  | callDirect (connId : Nat) (answer : DirectAnswer)
  | callAsync (connId : Nat) (direct : DirectAnswer) (warmup : WarmupAnswer)
  | notifyWarmupReady
  /-- An event or a response changes the state of the connection. -/
  | setState (connId : Nat) (inProcess : Bool)
  | release (position : Nat)
  | drop (position : Nat)

def next (client : RpcClient) : Action → RpcClient
  | .addConnection => client.addConnection
  | .callDirect connId answer => client.callDirect connId answer
  | .callAsync connId direct warmup => client.callAsync connId direct warmup
  | .notifyWarmupReady => client.notifyWarmupReady
  | .setState connId inProcess =>
    match client.connections[connId]? with
    | none => client
    | some conn => client.setConnection connId { conn with inProcess }
  | .release position => client.release position
  | .drop position => client.drop position

/-- The slots in use: those of the warmup handles and those set aside. -/
def held (client : RpcClient) : List Nat :=
  (client.live.filter (!·.direct)).map PendingRpc.slotIndex ++
    client.connections.flatMap ClientConnection.slots

/-- The handle was given a response slot that its connection's index has passed. -/
def Given (client : RpcClient) (handle : PendingRpc) : Prop :=
  ∃ conn position, client.connections[handle.connId]? = some conn ∧
    position < conn.responseSlotIndex ∧ conn.responseSlots[position]? = some handle.slotIndex

/-- Every slot in use has one owner, and the live handles have slots of their own. -/
structure Custody (client : RpcClient) : Prop where
  owned : client.pool.Owned client.held
  distinct : (client.live.map PendingRpc.slotIndex).Nodup
  given : ∀ handle ∈ client.live, handle.direct = true → client.Given handle
  noSend : ∀ handle ∈ client.live, handle.sendSlotIndex = none

/-- Handles of `call_direct` are kept, and there are response slots for all direct calls. -/
def Sparing (client : RpcClient) (action : Action) : Prop :=
  let room (connId : Nat) := ∀ conn, client.connections[connId]? = some conn →
    conn.responseSlotIndex < conn.responseSlots.length
  let kept (position : Nat) := ∀ handle, client.live[position]? = some handle → handle.direct = false
  match action with
  | .callDirect connId _ => room connId
  | .callAsync connId _ _ => (client.connections[connId]?.any (·.inProcess)) = true → room connId
  | .release position => kept position
  | .drop position => kept position
  | _ => True

theorem slots_owner {connections : List ClientConnection} {first second index : Nat}
    {one two : ClientConnection}
    (distinct : (connections.flatMap ClientConnection.slots).Nodup)
    (atFirst : connections[first]? = some one) (atSecond : connections[second]? = some two)
    (inOne : index ∈ one.slots) (inTwo : index ∈ two.slots) : first = second := by
  obtain ⟨below, rfl⟩ := List.getElem?_eq_some_iff.mp atFirst
  obtain ⟨under, rfl⟩ := List.getElem?_eq_some_iff.mp atSecond
  have apart := List.pairwise_iff_getElem.mp (List.nodup_flatMap.mp distinct).2
  rcases Nat.lt_trichotomy first second with less | equal | more
  · exact absurd inTwo (apart first second below under less inOne)
  · exact equal
  · exact absurd inOne (apart second first under below more inTwo)

theorem flatMap_slots_set {connections : List ClientConnection} {connId : Nat}
    {conn other : ClientConnection} (found : connections[connId]? = some conn)
    (same : other.slots = conn.slots) :
    (connections.set connId other).flatMap ClientConnection.slots =
      connections.flatMap ClientConnection.slots := by
  obtain ⟨inside, rfl⟩ := List.getElem?_eq_some_iff.mp found
  rw [List.flatMap_def, List.flatMap_def, List.map_set, same]
  congr 1
  rw [← List.getElem_map ClientConnection.slots, List.set_getElem_self]
  rwa [List.length_map]

namespace Custody

variable {client : RpcClient}

variable (custody : Custody client)
include custody

theorem live_held {handle : PendingRpc} (member : handle ∈ client.live) :
    handle.slotIndex ∈ client.held := by
  cases kind : handle.direct with
  | false =>
    refine List.mem_append_left _ (List.mem_map.mpr ⟨handle, List.mem_filter.mpr ⟨member, ?_⟩, rfl⟩)
    rw [kind]
    rfl
  | true =>
    obtain ⟨conn, position, found, _, here⟩ := custody.given handle member kind
    exact List.mem_append_right _ (List.mem_flatMap.mpr ⟨conn, List.mem_of_getElem? found,
      List.mem_append_right _ (List.mem_of_getElem? here)⟩)

variable {connId : Nat}

theorem setConnection {conn other : ClientConnection}
    (found : client.connections[connId]? = some conn) (sends : other.sendSlots = conn.sendSlots)
    (responses : other.responseSlots = conn.responseSlots)
    (forward : conn.responseSlotIndex ≤ other.responseSlotIndex) :
    Custody (client.setConnection connId other) := by
  have slots : other.slots = conn.slots := by
    unfold ClientConnection.slots
    rw [sends, responses]
  have same : (client.setConnection connId other).held = client.held := by
    unfold held
    exact congrArg _ (flatMap_slots_set found slots)
  refine { custody with owned := by rw [same]; exact custody.owned, given := ?_ }
  intro handle member direct
  obtain ⟨holder, position, has, passed, here⟩ := custody.given handle member direct
  by_cases equal : connId = handle.connId
  · rw [equal, has] at found
    cases found
    refine ⟨other, position, ?_, Nat.lt_of_lt_of_le passed forward, by rw [responses]; exact here⟩
    rw [equal]
    exact List.getElem?_set_self (List.getElem?_eq_some_iff.mp has).1
  · exact ⟨holder, position, by rw [← has]; exact List.getElem?_set_ne equal, passed, here⟩

theorem addConnection : Custody client.addConnection := by
  unfold RpcClient.addConnection
  split
  · exact custody
  have owned := (custody.owned.preallocate
    (max (min 2048 (client.pool.freeList.length / 4)) 1)).preallocate
    (max (min 2048 ((client.pool.preallocate
      (max (min 2048 (client.pool.freeList.length / 4)) 1)).2.freeList.length / 2)) 8)
  refine { custody with owned := owned.perm ?_, given := ?_ }
  · unfold held
    rw [List.flatMap_append, List.flatMap_singleton, ← List.append_assoc,
      ← List.append_assoc (List.map _ _)]
    exact (List.perm_append_comm.append_right _).trans List.perm_append_comm
  · intro handle member direct
    obtain ⟨conn, position, found, passed, here⟩ := custody.given handle member direct
    exact ⟨conn, position, getElem?_extend ⟨_, rfl⟩ found, passed, here⟩

theorem fresh {conn : ClientConnection} (found : client.connections[connId]? = some conn)
    (inside : conn.responseSlotIndex < conn.responseSlots.length) {handle : PendingRpc}
    (member : handle ∈ client.live) :
    handle.slotIndex ≠ conn.responseSlots[conn.responseSlotIndex] := by
  intro same
  have apart := List.nodup_append.mp custody.owned.held_nodup
  have mine : handle.slotIndex ∈ conn.slots :=
    List.mem_append_right _ (same ▸ List.getElem_mem inside)
  cases kind : handle.direct with
  | false =>
    refine apart.2.2 handle.slotIndex
      (List.mem_map.mpr ⟨handle, List.mem_filter.mpr ⟨member, ?_⟩, rfl⟩) handle.slotIndex
      (List.mem_flatMap.mpr ⟨conn, List.mem_of_getElem? found, mine⟩) rfl
    rw [kind]
    rfl
  | true =>
    obtain ⟨holder, position, has, passed, here⟩ := custody.given handle member kind
    have owner := slots_owner apart.2.1 has found
      (List.mem_append_right _ (List.mem_of_getElem? here)) mine
    rw [owner, found] at has
    cases has
    have distinct : conn.responseSlots.Nodup :=
      (List.nodup_append.mp ((List.nodup_flatMap.mp apart.2.1).1 conn
        (List.mem_of_getElem? found))).2.1
    obtain ⟨below, there⟩ := List.getElem?_eq_some_iff.mp here
    have equal := (List.Nodup.getElem_inj_iff distinct).mp (there.trans same)
    omega

theorem callDirect {answer : DirectAnswer} (room : ∀ conn, client.connections[connId]? = some conn →
      conn.responseSlotIndex < conn.responseSlots.length) :
    Custody (client.callDirect connId answer) := by
  unfold RpcClient.callDirect
  split
  · exact custody
  rename_i conn found
  have inside := room conn found
  have slot : conn.nextResponseSlot =
      some conn.responseSlots[conn.responseSlotIndex] := by
    unfold ClientConnection.nextResponseSlot
    rw [Nat.mod_eq_of_lt inside]
    exact List.getElem?_eq_getElem inside
  have advanced : Custody (client.setConnection connId
      { conn with responseSlotIndex := conn.responseSlotIndex + 1 }) :=
    custody.setConnection found rfl rfl (Nat.le_succ _)
  cases answer with
  | refused => exact custody
  | failed =>
    rw [slot]
    exact { advanced with }
  | sent =>
    rw [slot]
    refine { advanced with distinct := ?_, given := ?_, noSend := ?_ }
    · refine List.nodup_cons.mpr ⟨?_, custody.distinct⟩
      intro taken
      obtain ⟨handle, member, same⟩ := List.mem_map.mp taken
      exact custody.fresh found inside member same
    · intro handle member direct
      rcases List.mem_cons.mp member with rfl | old
      · exact ⟨_, conn.responseSlotIndex,
          List.getElem?_set_self (List.getElem?_eq_some_iff.mp found).1, Nat.lt_succ_self _,
          List.getElem?_eq_getElem inside⟩
      · exact advanced.given handle old direct
    · intro handle member
      rcases List.mem_cons.mp member with rfl | old
      · rfl
      · exact custody.noSend handle old

theorem sendWarmup {answer : WarmupAnswer} : Custody (client.sendWarmup connId answer) := by
  unfold RpcClient.sendWarmup
  split
  · exact custody
  cases answer with
  | refused => exact custody
  | failed =>
    dsimp only
    split
    · exact custody
    · rename_i slotIndex pool found
      exact { custody with owned := (custody.owned.alloc found).freeSlotByIndex }
  | written =>
    dsimp only
    split
    · exact custody
    · rename_i slotIndex pool found
      have owned := custody.owned.alloc found
      refine { owned, distinct := ?_, given := ?_, noSend := ?_ }
      · refine List.nodup_cons.mpr ⟨?_, custody.distinct⟩
        intro taken
        obtain ⟨handle, member, same⟩ := List.mem_map.mp taken
        have inUse := custody.live_held member
        rw [same] at inUse
        exact (List.nodup_cons.mp owned.held_nodup).1 inUse
      · intro handle member direct
        rcases List.mem_cons.mp member with rfl | old
        · cases direct
        · exact custody.given handle old direct
      · intro handle member
        rcases List.mem_cons.mp member with rfl | old
        · rfl
        · exact custody.noSend handle old

theorem notifyWarmupReady : Custody client.notifyWarmupReady := by
  unfold RpcClient.notifyWarmupReady
  split
  · exact custody
  · rename_i slotIndex pool found
    exact { custody with owned := (custody.owned.alloc found).freeSlotByIndex }

theorem release {position : Nat}
    (kept : ∀ handle, client.live[position]? = some handle → handle.direct = false) :
    Custody (client.release position) := by
  unfold RpcClient.release
  split
  · exact custody
  rename_i handle found
  obtain ⟨inside, rfl⟩ := List.getElem?_eq_some_iff.mp found
  have order := List.getElem_cons_eraseIdx_perm inside
  have remain : ∀ other ∈ client.live.eraseIdx position, other ∈ client.live :=
    fun other member => List.mem_of_mem_eraseIdx member
  refine {
    owned := ?_
    distinct := ((List.eraseIdx_sublist _ _).map _).nodup custody.distinct
    given := fun other member => custody.given other (remain other member)
    noSend := fun other member => custody.noSend other (remain other member) }
  have handles := (order.filter (!·.direct)).map PendingRpc.slotIndex
  rw [List.filter_cons_of_pos (by rw [kept _ found]; rfl), List.map_cons] at handles
  exact (custody.owned.perm (handles.symm.append_right _)).freeSlotByIndex

theorem drop_eq_release (position : Nat) : client.drop position = client.release position := by
  unfold RpcClient.drop RpcClient.release
  split
  · rfl
  · rename_i handle found
    rw [custody.noSend handle (List.mem_of_getElem? found)]

/-- A sparing step keeps every slot with one owner. -/
theorem next {action : Action} (sparing : Sparing client action) :
    Custody (client.next action) := by
  cases action with
  | addConnection => exact custody.addConnection
  | callDirect connId answer => exact custody.callDirect sparing
  | callAsync connId direct warmup =>
    change Custody (client.callAsync connId direct warmup)
    unfold RpcClient.callAsync
    split
    · exact custody
    · rename_i conn found
      split
      · rename_i process
        refine custody.callDirect (sparing ?_)
        rw [found]
        exact process
      · exact custody.sendWarmup
  | notifyWarmupReady => exact custody.notifyWarmupReady
  | setState connId inProcess =>
    unfold RpcClient.next
    dsimp only
    split
    · exact custody
    · rename_i conn found
      exact custody.setConnection found rfl rfl (Nat.le_refl _)
  | release position => exact custody.release sparing
  | drop position =>
    change Custody (client.drop position)
    rw [custody.drop_eq_release]
    exact custody.release sparing

end Custody

/-- If the handles of `call_direct` are kept and there are response slots for all direct calls, no
slot has two owners. -/
theorem response_slots_owned (numSlots maxConnections : Nat) (actions : List Action)
    (sparing : Along next Sparing (new numSlots maxConnections) actions) :
    let client := run next (new numSlots maxConnections) actions
    client.pool.freeList.Nodup ∧ (∀ index ∈ client.pool.freeList,
        (∀ conn ∈ client.connections, index ∉ conn.sendSlots ∧ index ∉ conn.responseSlots) ∧
        ∀ handle ∈ client.live, handle.slotIndex ≠ index) ∧
      (client.live.map PendingRpc.slotIndex).Nodup := by
  have preserved : ∀ (client : RpcClient) (action : Action),
      Custody client → Sparing client action → Custody (client.next action) :=
    fun client action custody sparing => custody.next sparing
  have initial : Custody (new numSlots maxConnections) :=
    { owned := SlotPool.Owned.of_new numSlots
      distinct := List.nodup_nil
      given := nofun
      noSend := nofun }
  have custody := run_invariant preserved initial sparing
  intro client
  refine ⟨(List.nodup_append.mp custody.owned.distinct).1, ?_, custody.distinct⟩
  intro index isFree
  constructor
  · intro conn member
    have apart : index ∉ conn.slots := fun mine =>
      custody.owned.not_free
        (List.mem_append_right _ (List.mem_flatMap.mpr ⟨conn, member, mine⟩)) isFree
    exact ⟨fun mine => apart (List.mem_append_left _ mine),
      fun mine => apart (List.mem_append_right _ mine)⟩
  · intro handle member same
    exact custody.owned.not_free (custody.live_held member) (same ▸ isFree)

/-- A warmup call is answered and released while a direct call is pending. -/
theorem response_slots_owned_bothKinds :
    let client := run next (new 16 1) [.addConnection, .callAsync 0 .sent .written, .setState 0 true,
      .callAsync 0 .sent .written, .release 1]
    client.live.map PendingRpc.slotIndex = [11] ∧ client.pool.freeList = [0, 1, 2, 3] ∧
      ∀ index ∈ client.pool.freeList, ∀ handle ∈ client.live, handle.slotIndex ≠ index := by
  refine ⟨rfl, rfl, ?_⟩
  have owned := response_slots_owned 16 1 [.addConnection, .callAsync 0 .sent .written,
    .setState 0 true, .callAsync 0 .sent .written, .release 1]
    ⟨trivial, nofun, trivial, by rintro - conn ⟨⟩; decide, by rintro handle ⟨⟩; rfl, trivial⟩
  exact fun index isFree => (owned.2.1 index isFree).2

/-- The slot is free and still set aside: a warmup and a direct call both get it. -/
theorem dropped_slot_given_twice :
    let dropped := run next (new 16 1) [.addConnection, .callDirect 0 .sent, .drop 0]
    let reused := run next dropped
      (.callAsync 0 .sent .written :: List.replicate 8 (.callDirect 0 .sent))
    (11 ∈ dropped.pool.freeList ∧ dropped.connections.any (11 ∈ ·.responseSlots)) ∧
      (reused.live.map PendingRpc.slotIndex).count 11 = 2 := by
  decide +kernel

end RpcClient

end Locasta.Scalerpc
