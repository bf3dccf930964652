import Locasta.Benchkv.Storage
import Locasta.Data.Custody
import Locasta.Data.Run
import Mathlib.Logic.Function.Basic

namespace Locasta.Benchkv

open Data Function

/-! The slots of the clients of one daemon, in shared memory.

A client writes its request, then the sequence number, and waits for that number in the response.
The ground queue holds the slots that the daemon scans; a slot with an accepted call is out of it
until the response comes.
-/

structure Slot (Payload : Type) where
  seq : Nat
  payload : Payload

inductive ClientPhase where
  | idle
  | writing
  | waiting
deriving DecidableEq

structure Client where
  seq : Nat
  phase : ClientPhase
deriving DecidableEq

inductive CallResult where
  | ok
  | ringFull
  | insufficientCredit
  | other

structure SlotDaemon where
  myRank : Nat
  /-- `rank_to_ep_index`, if there is a copyrpc context -/
  copyrpc : Option (Nat → Option Nat)
  maxClients : Nat
  store : ShardedStore
  clients : Nat → Client
  req : Nat → Slot Request
  resp : Nat → Slot Response
  lastReqSeq : Nat → Nat
  groundQueue : List Nat
  connectedCount : Nat
  /-- The rest of `for _ in 0..scan_len`, and the slot and sequence number that it has just taken.
  -/
  scanLeft : Nat
  turn : Option (Nat × Nat)
  /-- Slots of the copyrpc calls that were accepted and have no response yet. -/
  inflight : List Nat
  /-- Auxiliary: slots and sequence numbers that were written, acted on, refused and answered. -/
  written : List (Nat × Nat)
  acted : List (Nat × Nat)
  refused : List (Nat × Nat)
  answered : List (Nat × Nat)

inductive SlotAction where
  | prepare (client : Nat) (request : Request)
  | publish (client : Nat)
  | observe (client : Nat)
  | elsewhere (client : Nat)
  | discover
  | beginScan
  | scan
  | act (result : CallResult)
  | response (position : Nat) (response : Response)

namespace SlotDaemon

def new (myRank : Nat) (copyrpc : Option (Nat → Option Nat)) (maxClients : Nat)
    (store : ShardedStore) : SlotDaemon where
  myRank
  copyrpc
  maxClients
  store
  clients _ := { seq := 1, phase := .idle }
  req _ := { seq := 0, payload := .aggPut 0 0 0 }
  resp _ := { seq := 0, payload := .aggPutOk }
  lastReqSeq _ := 0
  groundQueue := []
  connectedCount := 0
  scanLeft := 0
  turn := none
  inflight := []
  written := []
  acted := []
  refused := []
  answered := []

/-- The payload of `slot_write`. -/
def prepare (daemon : SlotDaemon) (slot : Nat) (request : Request) : SlotDaemon :=
  let client := daemon.clients slot
  if client.phase = .idle then
    { daemon with
      clients := update daemon.clients slot { client with phase := .writing }
      req := update daemon.req slot { daemon.req slot with payload := request } }
  else daemon

/-- The sequence number of `slot_write`. -/
def publish (daemon : SlotDaemon) (slot : Nat) : SlotDaemon :=
  let client := daemon.clients slot
  if client.phase = .writing then
    { daemon with
      clients := update daemon.clients slot { client with phase := .waiting }
      req := update daemon.req slot { daemon.req slot with seq := client.seq }
      written := daemon.written ++ [(slot, client.seq)] }
  else daemon

def observe (daemon : SlotDaemon) (slot : Nat) : SlotDaemon :=
  let client := daemon.clients slot
  if client.phase = .waiting ∧ (daemon.resp slot).seq = client.seq then
    { daemon with
      clients := update daemon.clients slot { seq := client.seq + 1, phase := .idle } }
  else daemon

/-- A request to another daemon of the node takes a number as well. -/
def elsewhere (daemon : SlotDaemon) (slot : Nat) : SlotDaemon :=
  let client := daemon.clients slot
  if client.phase = .idle then
    { daemon with
      clients := update daemon.clients slot { client with seq := client.seq + 1 } }
  else daemon

def discover (daemon : SlotDaemon) : SlotDaemon :=
  if daemon.connectedCount < daemon.maxClients then
    { daemon with
      groundQueue := daemon.groundQueue ++ [daemon.connectedCount]
      connectedCount := daemon.connectedCount + 1 }
  else daemon

def ground (daemon : SlotDaemon) (slot : Nat) : SlotDaemon :=
  { daemon with groundQueue := daemon.groundQueue ++ [slot] }

/-- `slot_write` to the response slot. -/
def reply (daemon : SlotDaemon) (slot seq : Nat) (response : Response) : SlotDaemon :=
  { daemon with
    resp := update daemon.resp slot { seq, payload := response }
    answered := daemon.answered ++ [(slot, seq)] }

def beginScan (daemon : SlotDaemon) : SlotDaemon :=
  if daemon.turn = none ∧ daemon.scanLeft = 0 then
    { daemon with scanLeft := daemon.groundQueue.length }
  else daemon

/-- The front of the queue, up to reading its sequence number. -/
def scan (daemon : SlotDaemon) : SlotDaemon :=
  match daemon.turn, daemon.scanLeft, daemon.groundQueue with
  | none, left + 1, slot :: rest =>
    let seq := (daemon.req slot).seq
    if seq ≤ daemon.lastReqSeq slot then
      { daemon with groundQueue := rest ++ [slot], scanLeft := left }
    else
      { daemon with
        groundQueue := rest
        scanLeft := left
        lastReqSeq := update daemon.lastReqSeq slot seq
        turn := some (slot, seq) }
  | _, _, _ => daemon

def execute (daemon : SlotDaemon) (slot seq : Nat) (request : Request) : SlotDaemon :=
  let (store, response) := handleLocal daemon.store request
  ({ daemon with store, acted := daemon.acted ++ [(slot, seq)] }.reply slot seq response).ground slot

def refuse (daemon : SlotDaemon) (slot seq : Nat) : SlotDaemon :=
  ({ daemon with refused := daemon.refused ++ [(slot, seq)] }.reply slot seq
    .aggGetNotFound).ground slot

def accept (daemon : SlotDaemon) (slot seq : Nat) : SlotDaemon :=
  { daemon with
    inflight := daemon.inflight ++ [slot]
    acted := daemon.acted ++ [(slot, seq)] }

/-- The slot is read again in the next scan. -/
def rollback (daemon : SlotDaemon) (slot seq : Nat) : SlotDaemon :=
  { daemon with lastReqSeq := update daemon.lastReqSeq slot (seq - 1) }.ground slot

/-- The rest of a turn. The daemon stops at a rank that it has no endpoint for. -/
def act (daemon : SlotDaemon) (result : CallResult) : SlotDaemon :=
  match daemon.turn with
  | none => daemon
  | some (slot, seq) =>
    let request := (daemon.req slot).payload
    let ended := { daemon with turn := none }
    if request.rank = daemon.myRank then ended.execute slot seq request
    else
      match daemon.copyrpc with
      | none => ended.refuse slot seq
      | some rankToEpIndex =>
        match rankToEpIndex request.rank with
        | none => daemon
        | some _ =>
          match result with
          | .ok => ended.accept slot seq
          | .ringFull | .insufficientCredit => ended.rollback slot seq
          | .other => ended.refuse slot seq

/-- The callback of `ctx.poll`, wherever the daemon polls. -/
def response (daemon : SlotDaemon) (position : Nat) (response : Response) : SlotDaemon :=
  match daemon.inflight[position]? with
  | none => daemon
  | some slot =>
    ({ daemon with inflight := daemon.inflight.eraseIdx position }.reply slot
      (daemon.req slot).seq response).ground slot

def step (daemon : SlotDaemon) : SlotAction → SlotDaemon
  | .prepare client request => daemon.prepare client request
  | .publish client => daemon.publish client
  | .observe client => daemon.observe client
  | .elsewhere client => daemon.elsewhere client
  | .discover => daemon.discover
  | .beginScan => daemon.beginScan
  | .scan => daemon.scan
  | .act result => daemon.act result
  | .response position response => daemon.response position response

end SlotDaemon

/-- All that concerns one slot. Logs are seen as counts of each sequence number. -/
structure View where
  discovered : Bool
  queued : Nat
  inflight : Nat
  turn : Option Nat
  last : Nat
  reqSeq : Nat
  respSeq : Nat
  client : Client
  written : Nat → Nat
  acted : Nat → Nat
  refused : Nat → Nat
  answered : Nat → Nat

def SlotDaemon.view (daemon : SlotDaemon) (slot : Nat) : View where
  discovered := slot.blt daemon.connectedCount
  queued := daemon.groundQueue.count slot
  inflight := daemon.inflight.count slot
  turn := daemon.turn.bind fun (taken, seq) => if taken = slot then some seq else none
  last := daemon.lastReqSeq slot
  reqSeq := (daemon.req slot).seq
  respSeq := (daemon.resp slot).seq
  client := daemon.clients slot
  written seq := daemon.written.count (slot, seq)
  acted seq := daemon.acted.count (slot, seq)
  refused seq := daemon.refused.count (slot, seq)
  answered seq := daemon.answered.count (slot, seq)

/-- One more entry for `seq`. -/
def noted (log : Nat → Nat) (seq : Nat) : Nat → Nat :=
  fun other => log other + if other = seq then 1 else 0

namespace View

/-- The daemon has nothing left to do for the slot. -/
def Closed (view : View) : Prop := view.last = view.reqSeq ∧ view.turn = none ∧ view.inflight = 0

/-- The slot is at one place, and every earlier request was resolved and answered once. -/
structure Sound (view : View) : Prop where
  once : view.queued + view.inflight + (if view.turn = none then 0 else 1) =
    if view.discovered then 1 else 0
  seen : view.last ≤ view.reqSeq
  turn : ∀ seq, view.turn = some seq → seq = view.reqSeq ∧ view.last = view.reqSeq ∧ 0 < seq
  flight : 0 < view.inflight → view.last = view.reqSeq ∧ 0 < view.reqSeq
  waits : view.client.phase = .waiting → view.client.seq = view.reqSeq ∧ 0 < view.reqSeq
  ahead : view.client.phase ≠ .waiting → view.reqSeq < view.client.seq ∧ view.Closed
  heard : 0 < view.respSeq → view.answered view.respSeq ≠ 0
  current : 0 < view.reqSeq → view.written view.reqSeq ≠ 0
  bound : ∀ seq, view.written seq ≠ 0 → 0 < seq ∧ seq ≤ view.reqSeq
  unwritten : ∀ seq, view.written seq = 0 →
    view.acted seq = 0 ∧ view.refused seq = 0 ∧ view.answered seq = 0
  past : ∀ seq, view.written seq ≠ 0 → seq < view.reqSeq →
    view.acted seq + view.refused seq = 1 ∧ view.answered seq = 1
  untouched : view.last < view.reqSeq ∨ view.turn ≠ none →
    view.acted view.reqSeq = 0 ∧ view.refused view.reqSeq = 0 ∧ view.answered view.reqSeq = 0
  accepted : 0 < view.inflight →
    view.acted view.reqSeq = 1 ∧ view.refused view.reqSeq = 0 ∧ view.answered view.reqSeq = 0
  closed : view.Closed → 0 < view.reqSeq →
    view.acted view.reqSeq + view.refused view.reqSeq = 1 ∧ view.answered view.reqSeq = 1

variable {view : View}

variable (sound : view.Sound)
include sound

theorem Sound.prepare (idle : view.client.phase = .idle) :
    Sound { view with client := { view.client with phase := .writing } } := by
  have ahead := sound.ahead (by simp [idle])
  exact { sound with
    waits := nofun
    ahead := fun _ => ahead }

theorem Sound.publish (writing : view.client.phase = .writing) : Sound { view with
      client := { view.client with phase := .waiting }
      reqSeq := view.client.seq
      written := noted view.written view.client.seq } := by
  obtain ⟨ahead, last, turn, inflight⟩ := sound.ahead (by simp [writing])
  have old := sound.closed ⟨last, turn, inflight⟩
  have unwritten : view.written view.client.seq = 0 := by
    by_contra already
    have bound := (sound.bound _ already).2
    omega
  have untouched := sound.unwritten _ unwritten
  constructor <;> simp only [noted, Closed]
  · exact sound.once
  · omega
  · simp [turn]
  · simp [inflight]
  · simp only [true_and]
    omega
  · simp
  · exact sound.heard
  · simp
  · intro seq
    have bound := sound.bound seq
    split <;> omega
  · intro seq
    have before := sound.unwritten seq
    split
    · omega
    · simpa using before
  · intro seq member early
    rw [if_neg (Nat.ne_of_lt early)] at member
    rcases Nat.lt_or_ge seq view.reqSeq with earlier | later
    · exact sound.past seq member earlier
    · have bound := sound.bound seq member
      have same : seq = view.reqSeq := Nat.le_antisymm bound.2 later
      rw [same] at bound ⊢
      exact old bound.1
  · exact fun _ => untouched
  · simp [inflight]
  · omega

theorem Sound.closed_of_answered (answered : view.answered view.reqSeq ≠ 0) : view.Closed := by
  have untouched := sound.untouched
  have accepted := sound.accepted
  have seen := sound.seen
  refine ⟨?_, ?_, ?_⟩
  · by_contra unseen
    exact answered (untouched (.inl (by omega))).2.2
  · by_contra taken
    exact answered (untouched (.inr taken)).2.2
  · by_contra flying
    exact answered (accepted (Nat.pos_of_ne_zero flying)).2.2

theorem Sound.observe (waiting : view.client.phase = .waiting)
    (seen : view.respSeq = view.client.seq) :
    Sound { view with client := { seq := view.client.seq + 1, phase := .idle } } := by
  obtain ⟨same, positive⟩ := sound.waits waiting
  have heard := sound.heard (by omega)
  rw [seen, same] at heard
  have closed := sound.closed_of_answered heard
  exact { sound with
    waits := nofun
    ahead := fun _ => ⟨by simp only; omega, closed⟩ }

theorem Sound.elsewhere (idle : view.client.phase = .idle) :
    Sound { view with client := { view.client with seq := view.client.seq + 1 } } := by
  obtain ⟨ahead, closed⟩ := sound.ahead (by simp [idle])
  exact { sound with
    waits := fun waiting => by simp [idle] at waiting
    ahead := fun _ => ⟨Nat.lt_succ_of_lt ahead, closed⟩ }

theorem Sound.discover (hidden : view.discovered = false) :
    Sound { view with discovered := true, queued := view.queued + 1 } := by
  have once := sound.once
  rw [hidden] at once
  exact { sound with
    once := by
      simp only [Bool.false_eq_true, ↓reduceIte] at once ⊢
      omega }

theorem Sound.take (queued : 0 < view.queued) (fresh : view.last < view.reqSeq) : Sound { view with
      queued := view.queued - 1
      last := view.reqSeq
      turn := some view.reqSeq } := by
  have once := sound.once
  have untouched := sound.untouched (.inl fresh)
  have ahead := sound.ahead
  have alone : view.inflight = 0 := by
    split at once <;> split at once <;> omega
  have free : view.turn = none := by
    by_contra taken
    rw [if_neg taken] at once
    split at once <;> omega
  exact { sound with
    once := by
      rw [if_pos free] at once
      simp only [reduceCtorEq, ↓reduceIte]
      omega
    seen := Nat.le_refl _
    turn := fun seq same => ⟨(Option.some.inj same).symm, rfl, Option.some.inj same ▸ by omega⟩
    flight := fun flying => by simp only at flying; omega
    ahead := fun quiet => by
      have closed := (ahead quiet).2.1
      omega
    untouched := fun _ => untouched
    accepted := fun flying => by simp only at flying; omega
    closed := fun closed => by cases closed.2.1 }

theorem Sound.alone_of_turn (taken : view.turn ≠ none) :
    view.queued = 0 ∧ view.inflight = 0 ∧ view.discovered = true := by
  have once := sound.once
  rw [if_neg taken] at once
  cases found : view.discovered with
  | false => simp [found] at once
  | true =>
    simp only [found, ↓reduceIte] at once
    exact ⟨by omega, by omega, rfl⟩

theorem Sound.rollback {seq : Nat} (taken : view.turn = some seq) :
    Sound { view with queued := view.queued + 1, turn := none, last := seq - 1 } := by
  obtain ⟨rfl, last, positive⟩ := sound.turn seq taken
  have untouched := sound.untouched (.inr (by simp [taken]))
  obtain ⟨queued, inflight, found⟩ := sound.alone_of_turn (by simp [taken])
  exact { sound with
    once := by
      rw [queued, inflight, found]
      rfl
    seen := Nat.sub_le _ _
    turn := nofun
    flight := fun flying => by simp only at flying; omega
    ahead := fun quiet => by
      have closed := (sound.ahead quiet).2.2.1
      rw [taken] at closed
      cases closed
    untouched := fun _ => untouched
    closed := fun closed => by
      have same := closed.1
      simp only at same
      omega }

theorem Sound.accept {seq : Nat} (taken : view.turn = some seq) : Sound { view with
      turn := none
      inflight := view.inflight + 1
      acted := noted view.acted seq } := by
  obtain ⟨rfl, last, positive⟩ := sound.turn seq taken
  obtain ⟨unacted, unrefused, unanswered⟩ := sound.untouched (.inr (by simp [taken]))
  obtain ⟨queued, inflight, found⟩ := sound.alone_of_turn (by simp [taken])
  have written := sound.current positive
  constructor <;> simp only [noted, Closed, ↓reduceIte]
  · rw [queued, inflight, found]
    rfl
  · exact sound.seen
  · nofun
  · exact fun _ => ⟨last, positive⟩
  · exact sound.waits
  · intro quiet
    have closed := (sound.ahead quiet).2.2.1
    rw [taken] at closed
    cases closed
  · exact sound.heard
  · exact sound.current
  · exact sound.bound
  · intro seq absent
    rw [if_neg]
    · exact sound.unwritten seq absent
    · rintro rfl
      exact written absent
  · intro seq member early
    rw [if_neg (Nat.ne_of_lt early)]
    exact sound.past seq member early
  · simp only [ne_eq, not_true_eq_false, or_false]
    omega
  · omega
  · omega

theorem Sound.response (flying : 0 < view.inflight) : Sound { view with
      queued := view.queued + 1
      inflight := view.inflight - 1
      respSeq := view.reqSeq
      answered := noted view.answered view.reqSeq } := by
  obtain ⟨last, positive⟩ := sound.flight flying
  obtain ⟨acted, unrefused, unanswered⟩ := sound.accepted flying
  have written := sound.current positive
  have free : view.turn = none := by
    by_contra taken
    have alone := sound.alone_of_turn taken
    omega
  have once := sound.once
  rw [if_pos free] at once
  have single : view.inflight = 1 := by
    split at once <;> omega
  constructor <;> simp only [noted, Closed, ↓reduceIte]
  · rw [if_pos free]
    omega
  · exact sound.seen
  · exact sound.turn
  · exact fun _ => ⟨last, positive⟩
  · exact sound.waits
  · exact fun quiet => ⟨(sound.ahead quiet).1, last, free, by omega⟩
  · omega
  · exact sound.current
  · exact sound.bound
  · intro seq absent
    rw [if_neg]
    · exact sound.unwritten seq absent
    · rintro rfl
      exact written absent
  · intro seq member early
    rw [if_neg (Nat.ne_of_lt early)]
    exact sound.past seq member early
  · rw [free]
    simp only [ne_eq, not_true_eq_false, or_false]
    omega
  · omega
  · omega

theorem Sound.request {seq : Nat} (written : view.written seq ≠ 0) :
    (view.acted seq + view.refused seq = 1 ∧ view.answered seq = 1) ∨
      (view.client = { seq, phase := .waiting } ∧ view.refused seq = 0 ∧ view.answered seq = 0 ∧
        view.acted seq = view.inflight) := by
  obtain ⟨positive, bound⟩ := sound.bound seq written
  rcases Nat.lt_or_eq_of_le bound with early | rfl
  · exact .inl (sound.past seq written early)
  by_cases answered : view.answered view.reqSeq = 0
  · have opened : ¬ view.Closed := by
      intro closed
      have done := (sound.closed closed positive).2
      omega
    have waiting : view.client.phase = .waiting := by
      by_contra quiet
      exact opened (sound.ahead quiet).2
    have same := (sound.waits waiting).1
    have client : view.client = { seq := view.reqSeq, phase := .waiting } := by
      rw [← same, ← waiting]
    rcases Nat.eq_zero_or_pos view.inflight with landed | flying
    · have untouched := sound.untouched (by
        by_contra neither
        rw [not_or, not_not] at neither
        exact opened ⟨Nat.le_antisymm sound.seen (Nat.le_of_not_lt neither.1), neither.2, landed⟩)
      exact .inr ⟨client, untouched.2.1, answered, by omega⟩
    · have accepted := sound.accepted flying
      have once := sound.once
      have single : view.inflight = 1 := by
        split at once <;> split at once <;> omega
      exact .inr ⟨client, accepted.2.1, answered, by omega⟩
  · exact .inl (sound.closed (sound.closed_of_answered answered) positive)

end View

namespace SlotDaemon

variable {daemon after : SlotDaemon} {slot : Nat}

def Sound (daemon : SlotDaemon) : Prop := ∀ slot, (daemon.view slot).Sound

theorem new_sound {myRank : Nat} {copyrpc : Option (Nat → Option Nat)} {maxClients : Nat}
    {store : ShardedStore} (slot : Nat) :
    ((new myRank copyrpc maxClients store).view slot).Sound := by
  constructor <;> simp [new, view, View.Closed]

section

variable (sound : daemon.Sound)
include sound

end

theorem act_elim {P : SlotDaemon → Prop} {result : CallResult} (stay : P daemon)
    (execute : ∀ slot seq request, daemon.turn = some (slot, seq) →
      P ({ daemon with turn := none }.execute slot seq request))
    (refuse : ∀ slot seq, daemon.turn = some (slot, seq) →
      daemon.copyrpc = none ∨ result = .other → P ({ daemon with turn := none }.refuse slot seq))
    (accept : ∀ slot seq, daemon.turn = some (slot, seq) →
      P ({ daemon with turn := none }.accept slot seq))
    (rollback : ∀ slot seq, daemon.turn = some (slot, seq) →
      P ({ daemon with turn := none }.rollback slot seq)) :
    P (daemon.act result) := by
  unfold act
  cases taken : daemon.turn with
  | none => exact stay
  | some pair =>
    obtain ⟨slot, seq⟩ := pair
    dsimp only
    split
    · exact execute slot seq _ taken
    · split
      · rename_i missing
        exact refuse slot seq taken (.inl missing)
      · split
        · exact stay
        · cases result with
          | ok => exact accept slot seq taken
          | ringFull | insufficientCredit => exact rollback slot seq taken
          | other => exact refuse slot seq taken (.inr rfl)

/-- There is a copyrpc context, and no call of it fails for good. -/
def Served (daemon : SlotDaemon) (action : SlotAction) : Prop :=
  daemon.copyrpc ≠ none ∧ action ≠ .act .other

end SlotDaemon

end Locasta.Benchkv
