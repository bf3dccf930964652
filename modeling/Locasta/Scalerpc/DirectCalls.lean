import Locasta.Scalerpc.ContextSwitch

namespace Locasta.Scalerpc

open Data Function

/-! Where the WRITEs of `call_direct` go.

The server gives each connection a range of its processing pool. The client goes through the pool
with `next_slot_seq`, from the address that it got last; the two pools change their roles at every
swap.
-/

def slotSize : Nat := 4096

def slotHeaderSize : Nat := 16

/-- What a client knows of its connection's slots. -/
structure DirectLink where
  remoteSlotAddr : Nat
  serverPoolNumSlots : Nat
  creditWindowSize : Nat
  nextSlotSeq : Nat
  lastAckedSeq : Nat
  directSlotIndex : Nat

def DirectLink.new : DirectLink where
  remoteSlotAddr := 0
  serverPoolNumSlots := 64
  creditWindowSize := 64
  nextSlotSeq := 0
  lastAckedSeq := 0
  directSlotIndex := 0

/-- The slot that `call_direct` writes to, unless it is refused. -/
def DirectLink.serverSlotIdx (link : DirectLink) : Option Nat :=
  if link.creditWindowSize > 0 ∧ link.nextSlotSeq - link.lastAckedSeq ≥ link.creditWindowSize then none
  else if link.remoteSlotAddr = 0 then none
  else if link.serverPoolNumSlots = 0 then none
  else if link.creditWindowSize > 0 then some (link.nextSlotSeq % link.creditWindowSize)
  else some (link.directSlotIndex % link.serverPoolNumSlots)

namespace RpcServer

variable {server : RpcServer}

theorem next_config (server : RpcServer) (action : Action) :
    (server.next action).numSlots = server.numSlots ∧
      (server.next action).maxConnections = server.maxConnections ∧
      server.numConnections ≤ (server.next action).numConnections := by
  by_cases adds : action = .addConnection
  · rw [adds]
    change server.addConnection.numSlots = _ ∧ server.addConnection.maxConnections = _ ∧
      _ ≤ server.addConnection.numConnections
    unfold RpcServer.addConnection
    dsimp only
    split
    · exact ⟨rfl, rfl, Nat.le_refl _⟩
    · exact ⟨rfl, rfl, Nat.le_succ _⟩
  · have same := @next_sameLayout server action adds
    exact ⟨same.numSlots, same.maxConnections, Nat.le_of_eq same.numConnections.symm⟩

theorem pollConnection_examines {connId slot : Nat} (member : slot ∈ server.mapping connId)
    (inside : slot < server.numSlots) (request : Request) :
    ((server.write true slot request).pollConnection connId).isSome = true := by
  obtain ⟨idx, here⟩ := List.getElem?_of_mem member
  have below := (List.getElem?_eq_some_iff.mp here).1
  unfold RpcServer.write
  rw [if_pos inside]
  unfold pollConnection
  rw [List.findSome?_isSome_iff]
  refine ⟨idx, ?_, ?_⟩
  · rw [List.mem_cons, List.mem_filter]
    by_cases expected : idx = server.nextExpectedSlot connId % (server.mapping connId).length
    · exact .inl expected
    · exact .inr ⟨List.mem_range.mpr below, by simpa using expected⟩
  · rw [if_pos rfl]
    rw [here, Option.bind_some, Option.isSome_map]
    unfold checkSlotForRequest
    dsimp only
    rw [if_pos inside, Option.isSome_map, update_self]
    rfl

end RpcServer

structure DirectSystem where
  server : RpcServer
  /-- The addresses of the two pools; the first one has requests processed first. -/
  firstAddr : Nat
  secondAddr : Nat
  links : Nat → DirectLink

namespace DirectSystem

def new (server : RpcServer) (firstAddr secondAddr : Nat) : DirectSystem where
  server
  firstAddr
  secondAddr
  links _ := .new

def processingAddr (system : DirectSystem) : Nat :=
  if system.server.swaps.length % 2 = 0 then system.firstAddr else system.secondAddr

def slotDataAddr (system : DirectSystem) (index : Nat) : Option Nat :=
  if index ≥ system.server.numSlots then none
  else some (system.processingAddr + index * slotSize + slotHeaderSize)

def setLink (system : DirectSystem) (connId : Nat) (link : DirectLink) : DirectSystem :=
  { system with links := update system.links connId link }

/-- The client connects with the endpoint that the server has now. -/
def connect (system : DirectSystem) (connId : Nat) : DirectSystem :=
  if connId < system.server.numConnections then
    match system.slotDataAddr 0 with
    | none => system
    | some slotAddr =>
      let poolNumSlots := system.server.numSlots % 4294967296
      let link := { system.links connId with remoteSlotAddr := slotAddr }
      system.setLink connId (if poolNumSlots > 0 then
          { link with serverPoolNumSlots := poolNumSlots, creditWindowSize := poolNumSlots }
        else link)
  else system

inductive Action where
  | server (action : RpcServer.Action)
  | connect (connId : Nat)
  /-- A response, maybe an old one, has the address of one of the pools. -/
  | learnPool (connId : Nat) (second : Bool)
  | processCreditAck (connId acked : Nat)
  | callDirect (connId : Nat)

def next (system : DirectSystem) : Action → DirectSystem
  | .server action => { system with server := system.server.next action }
  | .connect connId => system.connect connId
  | .learnPool connId second =>
    let link := system.links connId
    if link.remoteSlotAddr = 0 then system
    else
      let poolAddr := if second then system.secondAddr else system.firstAddr
      system.setLink connId { link with remoteSlotAddr := poolAddr + slotHeaderSize }
  | .processCreditAck connId acked =>
    let link := system.links connId
    if acked < link.nextSlotSeq ∧ acked > link.lastAckedSeq then
      system.setLink connId { link with lastAckedSeq := acked }
    else system
  | .callDirect connId =>
    let link := system.links connId
    match link.serverSlotIdx with
    | none => system
    | some _ =>
      system.setLink connId
        { link with
          nextSlotSeq := link.nextSlotSeq + 1
          directSlotIndex := link.directSlotIndex + 1 }

/-- The WRITE goes to a slot that is bound to the connection only, and is seen when that is polled.
-/
def Bound (system : DirectSystem) (connId address : Nat) : Prop :=
  ∃ slot ∈ system.server.mapping connId, system.slotDataAddr slot = some address ∧
    (∀ other, slot ∈ system.server.mapping other → other = connId) ∧
    ∀ request, ((system.server.write true slot request).pollConnection connId).isSome = true

/-- A call that is not refused writes to the connection's slots. -/
def OwnSlot (system : DirectSystem) : Action → Prop
  | .callDirect connId => ∀ idx, (system.links connId).serverSlotIdx = some idx →
      system.Bound connId ((system.links connId).remoteSlotAddr + idx * slotSize)
  | _ => True

/-- The first connection calls, has not gone through its slots, and knows the processing pool. -/
def Confined (system : DirectSystem) : Action → Prop
  | .callDirect connId => (system.links connId).serverSlotIdx.isSome = true → connId = 0 ∧
      (system.server.maxConnections = 1 ∨
        (system.links 0).nextSlotSeq < system.server.numSlots / system.server.maxConnections) ∧
      system.slotDataAddr 0 = some (system.links 0).remoteSlotAddr
  | _ => True

/-- The addresses that the clients know are those of the two pools. -/
structure Linked (system : DirectSystem) : Prop where
  laid : RpcServer.Laid system.server
  few : system.server.numSlots < 4294967296
  apart : system.firstAddr + system.server.numSlots * slotSize ≤ system.secondAddr ∨
    system.secondAddr + system.server.numSlots * slotSize ≤ system.firstAddr
  known : ∀ connId, (system.links connId).remoteSlotAddr ≠ 0 →
    (connId < system.server.numConnections ∧ 0 < system.server.numSlots) ∧
    (system.links connId).creditWindowSize = system.server.numSlots ∧
    (system.links connId).serverPoolNumSlots = system.server.numSlots ∧
    ((system.links connId).remoteSlotAddr = system.firstAddr + slotHeaderSize ∨
      (system.links connId).remoteSlotAddr = system.secondAddr + slotHeaderSize)
  unused : ∀ connId ≠ 0, (system.links connId).nextSlotSeq = 0
  within : system.server.maxConnections = 1 ∨
    (system.links 0).nextSlotSeq ≤ system.server.numSlots / system.server.maxConnections

namespace Linked

variable {system : DirectSystem}

theorem processingAddr_cases (system : DirectSystem) :
    system.processingAddr = system.firstAddr ∨ system.processingAddr = system.secondAddr := by
  unfold processingAddr
  split
  · exact .inl rfl
  · exact .inr rfl

variable (linked : Linked system)
include linked

variable {connId : Nat}

theorem serverSlotIdx {idx : Nat} (found : (system.links connId).serverSlotIdx = some idx) :
    (system.links connId).remoteSlotAddr ≠ 0 ∧
      idx = (system.links connId).nextSlotSeq % system.server.numSlots := by
  unfold DirectLink.serverSlotIdx at found
  split at found
  · cases found
  split at found
  · cases found
  rename_i connected
  obtain ⟨⟨_, positive⟩, window, size, _⟩ := linked.known connId connected
  rw [window, size, if_neg (Nat.pos_iff_ne_zero.mp positive), if_pos positive] at found
  cases found
  exact ⟨connected, rfl⟩

theorem mem_mapping_zero (some_connection : 0 < system.server.numConnections)
    {slot : Nat} (below : slot < system.server.numSlots / system.server.maxConnections) :
    slot ∈ system.server.mapping 0 := by
  rw [linked.laid.mapping, if_pos some_connection, List.mem_range'_1]
  omega

variable {action : Action}

theorem ownSlot (confined : Confined system action) :
    OwnSlot system action := by
  cases action with
  | callDirect connId =>
    intro idx found
    obtain ⟨rfl, room, current⟩ := confined (by rw [found]; rfl)
    obtain ⟨connected, index⟩ := linked.serverSlotIdx found
    obtain ⟨⟨numbered, positive⟩, _⟩ := linked.known 0 connected
    have below : idx < system.server.numSlots / system.server.maxConnections := by
      rcases room with single | early
      · rw [single, Nat.div_one, index]
        exact Nat.mod_lt _ positive
      · rw [index]
        exact Nat.lt_of_le_of_lt (Nat.mod_le _ _) early
    have member := linked.mem_mapping_zero numbered below
    have inside := linked.laid.inside member
    refine ⟨idx, member, ?_, fun other mapped => linked.laid.apart mapped member,
      RpcServer.pollConnection_examines member inside⟩
    unfold slotDataAddr at current ⊢
    rw [if_neg (Nat.not_le.mpr positive), Option.some.injEq] at current
    rw [if_neg (Nat.not_le.mpr inside), ← current, Nat.zero_mul, Nat.add_zero, Nat.add_right_comm]
  | server action => trivial
  | connect connId => trivial
  | learnPool connId second => trivial
  | processCreditAck connId acked => trivial

theorem same_slot {idx slot : Nat}
    (connected : (system.links connId).remoteSlotAddr ≠ 0) (below : idx < system.server.numSlots)
    (inside : slot < system.server.numSlots)
    (same : system.slotDataAddr slot =
      some ((system.links connId).remoteSlotAddr + idx * slotSize)) :
    slot = idx ∧ (system.links connId).remoteSlotAddr = system.processingAddr + slotHeaderSize := by
  unfold slotDataAddr at same
  rw [if_neg (Nat.not_le.mpr inside), Option.some.injEq] at same
  obtain ⟨_, _, _, address⟩ := linked.known connId connected
  have apart := linked.apart
  unfold slotSize at same apart
  rcases processingAddr_cases system with pool | pool <;> rw [pool] at same ⊢ <;> omega

theorem confined (own : OwnSlot system action) :
    Confined system action := by
  cases action with
  | callDirect connId =>
    intro called
    obtain ⟨idx, found⟩ := Option.isSome_iff_exists.mp called
    obtain ⟨slot, member, address, _⟩ := own idx found
    obtain ⟨connected, index⟩ := linked.serverSlotIdx found
    obtain ⟨⟨numbered, positive⟩, _⟩ := linked.known connId connected
    have below : idx < system.server.numSlots := by
      rw [index]
      exact Nat.mod_lt _ positive
    obtain ⟨rfl, remote⟩ := linked.same_slot connected below (linked.laid.inside member) address
    obtain ⟨_, low, high⟩ := linked.laid.slot_bounds member
    have first : connId = 0 := by
      by_contra other
      rw [linked.unused connId other, Nat.zero_mod] at index
      rw [index] at low high
      have none_each := (Nat.mul_eq_zero.mp (Nat.le_zero.mp low)).resolve_left other
      rw [none_each] at high
      omega
    subst first
    refine ⟨rfl, ?_, ?_⟩
    · rw [Nat.zero_add, Nat.one_mul] at high
      rcases linked.within with single | early
      · exact .inl single
      · rcases Nat.lt_or_eq_of_le early with room | full
        · exact .inr room
        · rw [index, full] at high
          rcases Nat.lt_or_eq_of_le (Nat.div_le_self system.server.numSlots
            system.server.maxConnections) with less | all
          · rw [Nat.mod_eq_of_lt less] at high
            exact absurd high (Nat.lt_irrefl _)
          · exact .inl ((Nat.div_eq_self.mp all).resolve_left (Nat.pos_iff_ne_zero.mp positive))
    · unfold slotDataAddr
      rw [if_neg (Nat.not_le.mpr positive), remote, Nat.zero_mul, Nat.add_zero]
  | server action => trivial
  | connect connId => trivial
  | learnPool connId second => trivial
  | processCreditAck connId acked => trivial

section

variable {link : DirectLink}
  (known : link.remoteSlotAddr ≠ 0 →
    (connId < system.server.numConnections ∧ 0 < system.server.numSlots) ∧
    link.creditWindowSize = system.server.numSlots ∧
    link.serverPoolNumSlots = system.server.numSlots ∧
    (link.remoteSlotAddr = system.firstAddr + slotHeaderSize ∨
      link.remoteSlotAddr = system.secondAddr + slotHeaderSize))
include known

theorem setLink (unused : connId ≠ 0 → link.nextSlotSeq = 0)
    (within : connId = 0 → system.server.maxConnections = 1 ∨
      link.nextSlotSeq ≤ system.server.numSlots / system.server.maxConnections) :
    Linked (system.setLink connId link) := by
  refine { linked with known := ?_, unused := ?_, within := ?_ }
  · intro other
    change (update system.links connId link other).remoteSlotAddr ≠ 0 →
      _ ∧ (update system.links connId link other).creditWindowSize = _ ∧
      (update system.links connId link other).serverPoolNumSlots = _ ∧
      ((update system.links connId link other).remoteSlotAddr = _ ∨
        (update system.links connId link other).remoteSlotAddr = _)
    by_cases same : other = connId
    · subst same
      rw [update_self]
      exact known
    · rw [update_of_ne same]
      exact linked.known other
  · intro other nonzero
    change (update system.links connId link other).nextSlotSeq = 0
    by_cases same : other = connId
    · subst same
      rw [update_self]
      exact unused nonzero
    · rw [update_of_ne same]
      exact linked.unused other nonzero
  · change _ ∨ (update system.links connId link 0).nextSlotSeq ≤ _
    by_cases same : 0 = connId
    · subst same
      rw [update_self]
      exact within rfl
    · rw [update_of_ne same]
      exact linked.within

theorem setLink_same (same : link.nextSlotSeq = (system.links connId).nextSlotSeq) :
    Linked (system.setLink connId link) := by
  refine linked.setLink known ?_ ?_
  · intro nonzero
    rw [same]
    exact linked.unused connId nonzero
  · rintro rfl
    rw [same]
    exact linked.within

end

theorem connect (connId : Nat) : Linked (system.connect connId) := by
  unfold DirectSystem.connect
  split
  · rename_i numbered
    unfold slotDataAddr
    split
    · exact linked
    · rename_i slotAddr found
      split at found
      · cases found
      rename_i positive
      cases found
      have few := Nat.mod_eq_of_lt linked.few
      dsimp only
      rw [few, if_pos (Nat.not_le.mp positive)]
      refine linked.setLink_same (fun _ => ⟨⟨numbered, Nat.not_le.mp positive⟩, rfl, rfl, ?_⟩) rfl
      rw [Nat.zero_mul, Nat.add_zero]
      rcases processingAddr_cases system with pool | pool
      · exact .inl (by rw [pool])
      · exact .inr (by rw [pool])
  · exact linked

/-- A confined step keeps the links to the pools of the server. -/
theorem next (confined : Confined system action) : Linked (system.next action) := by
  cases action with
  | server action =>
    obtain ⟨numSlots, maxConnections, numConnections⟩ := system.server.next_config action
    exact { linked with
      laid := linked.laid.next action
      few := by
        change (system.server.next action).numSlots < _
        rw [numSlots]
        exact linked.few
      apart := by
        change _ + (system.server.next action).numSlots * _ ≤ _ ∨
          _ + (system.server.next action).numSlots * _ ≤ _
        rw [numSlots]
        exact linked.apart
      known := fun connId connected => by
        obtain ⟨⟨numbered, positive⟩, rest⟩ := linked.known connId connected
        change (_ < (system.server.next action).numConnections ∧
          0 < (system.server.next action).numSlots) ∧
          _ = (system.server.next action).numSlots ∧ _ = (system.server.next action).numSlots ∧ _
        rw [numSlots]
        exact ⟨⟨Nat.lt_of_lt_of_le numbered numConnections, positive⟩, rest⟩
      within := by
        change (system.server.next action).maxConnections = 1 ∨
          _ ≤ (system.server.next action).numSlots / (system.server.next action).maxConnections
        rw [numSlots, maxConnections]
        exact linked.within }
  | connect connId => exact linked.connect connId
  | learnPool connId second =>
    unfold DirectSystem.next
    dsimp only
    split
    · exact linked
    · rename_i connected
      obtain ⟨numbered, window, size, _⟩ := linked.known connId connected
      refine linked.setLink_same (fun _ => ⟨numbered, window, size, ?_⟩) rfl
      cases second
      · exact .inl rfl
      · exact .inr rfl
  | processCreditAck connId acked =>
    unfold DirectSystem.next
    dsimp only
    split
    · exact linked.setLink_same (linked.known connId) rfl
    · exact linked
  | callDirect connId =>
    unfold DirectSystem.next
    dsimp only
    split
    · exact linked
    · rename_i idx found
      obtain ⟨rfl, room, _⟩ := confined (by rw [found]; rfl)
      exact linked.setLink (linked.known 0) (fun nonzero => absurd rfl nonzero)
        (fun _ => room.imp_right Nat.succ_le_of_lt)

end Linked

/-- Direct calls go to the slots of their connections exactly as long as only the first connection
makes them, within its own slots, and knows the processing pool. -/
theorem direct_calls_isolated (numSlots maxConnections numGroups firstAddr secondAddr : Nat)
    (few : numSlots < 4294967296)
    (apart : firstAddr + numSlots * slotSize ≤ secondAddr ∨
      secondAddr + numSlots * slotSize ≤ firstAddr) (actions : List Action) :
    let system := new (.new numSlots maxConnections numGroups) firstAddr secondAddr
    Along next OwnSlot system actions ↔ Along next Confined system actions := by
  have preserved : ∀ (system : DirectSystem) (action : Action),
      Linked system → Confined system action → Linked (system.next action) :=
    fun system action linked confined => linked.next confined
  have still : ∀ (system : DirectSystem) (action : Action),
      Linked system → OwnSlot system action → Linked (system.next action) :=
    fun system action linked own => linked.next (linked.confined own)
  have initial : Linked (new (.new numSlots maxConnections numGroups) firstAddr secondAddr) :=
    { laid := RpcServer.laid_new numSlots maxConnections numGroups
      few
      apart
      known := fun _ connected => absurd rfl connected
      unused := fun _ _ => rfl
      within := .inr (Nat.zero_le _) }
  exact ⟨along_of_invariant still (fun system action linked own => linked.confined own) initial,
    along_of_invariant preserved (fun system action linked confined => linked.ownSlot confined)
      initial⟩

def twoConnected : List Action :=
  [.server .addConnection, .server .addConnection, .connect 0, .connect 1]

/-- The first connection has used one of its two slots. -/
theorem direct_calls_isolated_firstTwo :
    Along next OwnSlot (new (.new 4 2 2) 4096 40960) (twoConnected ++ [.callDirect 0, .callDirect 0]) ∧
      ((run next (new (.new 4 2 2) 4096 40960) (twoConnected ++ [.callDirect 0])).links
        0).serverSlotIdx = some 1 := by
  refine ⟨?_, by decide +kernel⟩
  exact (direct_calls_isolated 4 2 2 4096 40960 (by decide) (by decide)
    [.server .addConnection, .server .addConnection, .connect 0, .connect 1, .callDirect 0,
      .callDirect 0]).mpr
    ⟨trivial, trivial, trivial, trivial, fun _ => ⟨rfl, .inr (by decide +kernel), by decide +kernel⟩,
      fun _ => ⟨rfl, .inr (by decide +kernel), by decide +kernel⟩, trivial⟩

/-- Both first calls go to slot 0; and after a swap a client writes to the other pool. -/
theorem first_calls_share_slot :
    let system := run next (new (.new 4 2 2) 4096 40960) twoConnected
    let swapped := system.next (.server (.performContextSwitch true))
    (∀ connId < 2, ((system.links connId).serverSlotIdx = some 0 ∧
      system.slotDataAddr 0 = some ((system.links connId).remoteSlotAddr + 0 * slotSize))) ∧
      0 ∈ system.server.mapping 0 ∧ 0 ∉ system.server.mapping 1 ∧
      ∀ slot < 4, swapped.slotDataAddr slot ≠
        some ((swapped.links 0).remoteSlotAddr + 0 * slotSize) := by
  decide +kernel

end DirectSystem

end Locasta.Scalerpc
