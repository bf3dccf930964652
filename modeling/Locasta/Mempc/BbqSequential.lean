import Locasta.Mempc.BbqOrder

namespace Locasta.Mempc

open Data Function

/-! `BbqMpsc` used by one thread: when a call is refused as `Full`.

Each function runs to its end before the next one begins. The producers' side moves `phead` only in a
call that finds the block full, so the server may recycle that block before.
-/

namespace Bbq

variable {Req : Type}

/-- The push acts on the block of `phead`. -/
def TryPush.AtHead (phead : Nat) : TryPush → Prop
  | .loadVersion block | .allocate block | .advance block => block = phead
  | _ => True

def TryPush.leaving : TryPush → Bool
  | .advance _ => true
  | _ => false

/-- The next access begins to recycle the block. -/
def TryPop.recycles : TryPop → Bool
  | .resetAllocated _ => true
  | _ => false

/-- One function runs at a time, and the server has not gone beyond the producers. -/
structure Calm (queue : Queue (code Req)) : Prop where
  alone : ∀ id push, queue.pushes id = some push →
    queue.popping = none ∧ ∀ other, other ≠ id → queue.pushes other = none
  behind : queue.shared.ctail ≤ queue.shared.phead
  left : ∀ pc, queue.popping = some pc → pc.resetting = true →
    queue.shared.ctail < queue.shared.phead
  known : ∀ id push, queue.pushes id = some push → push.2.AtHead queue.shared.phead
  counted : queue.shared.phead < queue.shared.ctail + 4 →
    (∀ id push, queue.pushes id = some push → push.2.leaving = false) →
    (queue.shared.block queue.shared.phead).allocated ≤ queue.shared.blockSize

/-- Nothing else is under way, and a block is recycled only when the producers have left it. -/
def Orderly (queue : Queue (code Req)) : Queue.Action (code Req) → Prop
  | .startPush .. => (∀ id, queue.pushes id = none) ∧ queue.popping = none
  | .startPop _ => ∀ id, queue.pushes id = none
  | .pop => queue.popping.any TryPop.recycles = true → queue.shared.ctail < queue.shared.phead
  | .push _ => True

namespace RequestRing

theorem allocated_setBlock (ring : RequestRing Req) {phead : Nat} {block : BbqBlock}
    (same : block.allocated = (ring.block phead).allocated) (other : Nat) :
    ((ring.setBlock phead block).block other).allocated = (ring.block other).allocated := by
  unfold setBlock RequestRing.block at *
  by_cases here : maskOffset other 4 = maskOffset phead 4
  · simp only [here, update_self, same]
  · simp only [update_of_ne here]

end RequestRing

open RequestRing

namespace Calm

variable {queue : Queue (code Req)} {id : Nat} {req : Req}

variable (calm : Calm queue)
include calm

theorem only {push : Req × TryPush} (running : queue.pushes id = some push)
    {moved : Option (Req × TryPush)} : ∀ other later,
      update queue.pushes id moved other = some later → other = id ∧ moved = some later :=
  forall_thread_update (fun _ here => ⟨rfl, here⟩) fun other _ different busy => by
    rw [(calm.alone id push running).2 other different] at busy
    cases busy

variable {shared : RequestRing Req}

theorem more {push : Req × TryPush} (running : queue.pushes id = some push) {pc : TryPush}
    (behind : shared.ctail ≤ shared.phead)
    (known : pc.AtHead shared.phead)
    (counted : shared.phead < shared.ctail + 4 → pc.leaving = false →
      (shared.block shared.phead).allocated ≤ shared.blockSize) :
    Calm { queue with shared, pushes := update queue.pushes id (some (req, pc)) } where
  alone other later busy := by
    obtain ⟨rfl, _⟩ := calm.only running other later busy
    refine ⟨(calm.alone other push running).1, fun third different => ?_⟩
    exact (update_of_ne different ..).trans ((calm.alone other push running).2 third different)
  behind
  left pc' busy := by
    have none := (calm.alone id push running).1
    rw [show queue.popping = some pc' from busy] at none
    cases none
  known other later busy := by
    obtain ⟨_, same⟩ := calm.only running other later busy
    cases same
    exact known
  counted near still := counted near (still id (req, pc) (update_self ..))

theorem finished {push : Req × TryPush} (running : queue.pushes id = some push)
    {accepted : List (Nat × Req)} (behind : shared.ctail ≤ shared.phead)
    (counted : shared.phead < shared.ctail + 4 →
      (shared.block shared.phead).allocated ≤ shared.blockSize) :
    Calm { queue with shared, pushes := update queue.pushes id none, accepted } where
  alone other later busy := by
    obtain ⟨_, same⟩ := calm.only running other later busy
    cases same
  behind
  left pc' busy := by
    have none := (calm.alone id push running).1
    rw [show queue.popping = some pc' from busy] at none
    cases none
  known other later busy := by
    obtain ⟨_, same⟩ := calm.only running other later busy
    cases same
  counted near _ := counted near

theorem timely {shift : Nat} (sound : Sound shift queue) (width : shift < 32)
    (id : Nat) : Timely queue (.push id) := by
  intro push running
  obtain ⟨req, pc⟩ := push
  cases pc with
  | allocate phead =>
    have steady : first queue = queue.shared.ctail := by
      rw [first, (calm.alone id _ running).1]
      rfl
    have here : phead = queue.shared.phead := calm.known id _ running
    have near := (sound.pushes id _ running).2
    have counted := calm.counted (here ▸ near) fun other later busy => by
      by_cases same : other = id
      · subst same
        rw [show queue.pushes other = some (req, .allocate phead) from running] at busy
        cases busy
        rfl
      · rw [(calm.alone id _ running).2 other same] at busy
        cases busy
    have small : 2 ^ shift ≤ 2 ^ 31 := Nat.pow_le_pow_right (by decide) (by omega)
    refine ⟨steady ▸ here ▸ calm.behind, ?_⟩
    rw [sound.blockSize] at counted
    rw [here]
    omega
  | loadPhead => trivial
  | loadVersion phead => trivial
  | advance phead => trivial
  | writeCallerId phead pos => trivial
  | writeData phead pos => trivial
  | loadCommitted phead pos => trivial
  | storeCommitted phead pos => trivial

theorem push {shift : Nat} (sound : Sound shift queue) (width : shift < 32)
    {pc : TryPush} (running : queue.pushes id = some (req, pc)) :
    Calm (queue.pushed id req (tryPush id req pc queue.shared)).2 := by
  have behind := calm.behind
  have known := calm.known id _ running
  have steady : pc.leaving = false → queue.shared.phead < queue.shared.ctail + 4 →
      (queue.shared.block queue.shared.phead).allocated ≤ queue.shared.blockSize := by
    intro stays near
    refine calm.counted near fun other later busy => ?_
    by_cases same : other = id
    · subst same
      rw [running] at busy
      cases busy
      exact stays
    · rw [(calm.alone id _ running).2 other same] at busy
      cases busy
  cases pc with
  | loadPhead => exact calm.more running behind rfl fun near _ => steady rfl near
  | loadVersion phead =>
    unfold tryPush
    dsimp only
    split
    · exact calm.finished running behind (steady rfl)
    · exact calm.more running behind known fun near _ => steady rfl near
  | allocate phead =>
    have here : phead = queue.shared.phead := known
    subst here
    have near := (sound.pushes id _ running).2
    have counted := steady rfl near
    have bound := (calm.timely sound width id _ running).2
    unfold tryPush
    dsimp only
    split
    · exact calm.more running behind rfl fun _ leaving => by cases leaving
    · rename_i room
      refine calm.more running behind trivial fun _ _ => ?_
      change ((queue.shared.setBlock queue.shared.phead _).block queue.shared.phead).allocated ≤
        queue.shared.blockSize
      rw [block_setBlock_self, Nat.mod_eq_of_lt bound]
      exact Nat.lt_of_not_le room
  | advance phead =>
    have here : phead = queue.shared.phead := known
    subst here
    have after := sound.push running (calm.timely sound width id)
    have popping := (calm.alone id _ running).1
    unfold tryPush at after ⊢
    dsimp only at after ⊢
    rw [if_pos rfl] at after ⊢
    refine calm.more running (Nat.le_succ_of_le behind) trivial fun near _ => ?_
    have begun : first (queue.pushed id req (.more .loadPhead,
        { queue.shared with phead := queue.shared.phead + 1 })).2 = queue.shared.ctail := by
      change (if queue.popping.any TryPop.resetting then _ else _) = _
      rw [popping]
      rfl
    have live := (after.live (queue.shared.phead + 1)
      (Nat.le_trans (Nat.le_of_eq begun) (Nat.le_succ_of_le behind)) near).allocated
    have within := sound.within
    have size := sound.blockSize
    have positive := Nat.two_pow_pos shift
    change ((queue.shared.phead + 1) * 2 ^ shift + 2 ^ shift ≤ queue.shared.tickets.length ∧ _) ∨
      (queue.shared.tickets.length < (queue.shared.phead + 1) * 2 ^ shift + 2 ^ shift ∧
        (queue.shared.block (queue.shared.phead + 1)).allocated =
          queue.shared.tickets.length - (queue.shared.phead + 1) * 2 ^ shift) at live
    rw [Nat.succ_mul] at live
    change (queue.shared.block (queue.shared.phead + 1)).allocated ≤ queue.shared.blockSize
    omega
  | writeCallerId phead pos => exact calm.more running behind trivial fun near _ => steady rfl near
  | writeData phead pos => exact calm.more running behind trivial fun near _ => steady rfl near
  | loadCommitted phead pos =>
    unfold tryPush
    dsimp only
    split <;> exact calm.more running behind trivial fun near _ => steady rfl near
  | storeCommitted phead pos =>
    refine calm.finished running behind fun near => ?_
    rw [allocated_setBlock]
    · exact steady rfl near
    · rfl

variable {pc : TryPop}

theorem silent (running : queue.popping = some pc) (id : Nat) : queue.pushes id = none := by
  cases busy : queue.pushes id with
  | none => rfl
  | some push =>
    rw [(calm.alone id push busy).1] at running
    cases running

theorem answered (running : queue.popping = some pc) {popping : Option TryPop}
    {popped : List (Nat × Req)}
    (behind : shared.ctail ≤ shared.phead)
    (left : ∀ later, popping = some later → later.resetting = true → shared.ctail < shared.phead)
    (counted : shared.phead < shared.ctail + 4 →
      (shared.block shared.phead).allocated ≤ shared.blockSize) :
    Calm { queue with shared, popping, popped } where
  alone id push busy := by
    have none := calm.silent running id
    rw [show queue.pushes id = some push from busy] at none
    cases none
  behind
  left
  known id push busy := by
    have none := calm.silent running id
    rw [show queue.pushes id = some push from busy] at none
    cases none
  counted near _ := counted near

theorem pop {shift : Nat} (sound : Sound shift queue) (running : queue.popping = some pc)
    (left : pc.recycles = true → queue.shared.ctail < queue.shared.phead) :
    Calm (queue.answered (tryPop pc queue.shared)).2 := by
  have behind := calm.behind
  have counted : queue.shared.phead < queue.shared.ctail + 4 →
      (queue.shared.block queue.shared.phead).allocated ≤ queue.shared.blockSize :=
    fun near => calm.counted near fun id push busy => by
      rw [calm.silent running id] at busy
      cases busy
  have steady : ∀ query later, some (queue.shared.afterAdvance query) = some later →
      later.resetting = true → queue.shared.ctail < queue.shared.phead := by
    rintro query _ ⟨⟩ resetting
    rw [(Sound.popping_afterAdvance queue.shared shift query).1] at resetting
    cases resetting
  have popping := sound.popping pc running
  cases pc with
  | loadAllocated query =>
    unfold tryPop
    dsimp only
    split
    · exact calm.answered running behind (steady query) counted
    · split
      · exact calm.answered running behind (steady query) counted
      · exact calm.answered running behind (by rintro _ ⟨⟩ ⟨⟩) counted
  | resetAllocated query =>
    have beyond := left rfl
    refine calm.answered running behind (fun _ _ _ => beyond) fun near => ?_
    change ((queue.shared.setBlock queue.shared.ctail _).block queue.shared.phead).allocated ≤ _
    rw [block_setBlock_of_ne _ _ (Nat.ne_of_gt beyond) near (by omega)]
    exact counted near
  | resetCommitted query =>
    have beyond := calm.left _ running rfl
    refine calm.answered running behind (fun _ _ _ => beyond) fun near => ?_
    rw [allocated_setBlock]
    · exact counted near
    · rfl
  | storeVersion query =>
    have beyond := calm.left _ running rfl
    have emptied : (queue.shared.block queue.shared.ctail).allocated = 0 := popping.2.1
    have fewer : queue.shared.phead < queue.shared.ctail + 1 + 4 →
        (queue.shared.block queue.shared.phead).allocated ≤ queue.shared.blockSize := by
      intro near
      rcases Nat.lt_or_eq_of_le (Nat.le_of_lt_succ near) with inside | around
      · exact counted (by omega)
      · have same : queue.shared.block queue.shared.phead = queue.shared.block queue.shared.ctail := by
          unfold block
          rw [maskOffset_four, maskOffset_four, around, Nat.add_mod_right]
        rw [same, emptied]
        exact Nat.zero_le _
    cases query with
    | poll =>
      refine calm.answered running beyond (by rintro _ ⟨⟩ ⟨⟩) fun near => ?_
      change ((queue.shared.setBlock queue.shared.ctail _).block queue.shared.phead).allocated ≤ _
      rw [allocated_setBlock]
      · exact fewer near
      · rfl
    | tryRecv =>
      refine calm.answered running beyond ?_ fun near => ?_
      · rintro _ ⟨⟩ resetting
        rw [(Sound.popping_afterAdvance _ shift .tryRecv).1] at resetting
        cases resetting
      · change ((queue.shared.setBlock queue.shared.ctail _).block queue.shared.phead).allocated ≤ _
        rw [allocated_setBlock]
        · exact fewer near
        · rfl
  | loadCommitted query =>
    unfold tryPop
    cases query with
    | poll => exact calm.answered running behind nofun counted
    | tryRecv =>
      dsimp only
      split
      · exact calm.answered running behind nofun counted
      · exact calm.answered running behind (by rintro _ ⟨⟩ ⟨⟩) counted
  | readCallerId => exact calm.answered running behind (by rintro _ ⟨⟩ ⟨⟩) counted
  | readData callerId =>
    unfold tryPop
    dsimp only
    split <;> exact calm.answered running behind nofun counted

/-- An orderly step keeps the functions one after the other. -/
theorem step {shift : Nat} (sound : Sound shift queue) (width : shift < 32)
    {action : Queue.Action (code Req)} (orderly : Orderly queue action) :
    Calm (queue.step action) := by
  cases action with
  | startPush id req =>
    obtain ⟨idle, resting⟩ := orderly
    unfold Queue.step
    dsimp only
    split
    · have started : ∀ other push,
          update queue.pushes id (some (req, TryPush.loadPhead)) other = some push →
          other = id ∧ push = (req, .loadPhead) :=
        forall_thread_update (by rintro _ ⟨⟩; exact ⟨rfl, rfl⟩) fun other push _ busy => by
          rw [idle other] at busy
          cases busy
      exact { calm with
        alone := fun other push busy => ⟨resting, fun third different => by
          obtain ⟨rfl, _⟩ := started other push busy
          exact (update_of_ne different ..).trans (idle third)⟩
        known := fun other push busy => by
          rw [(started other push busy).2]
          trivial
        counted := fun near _ => calm.counted near fun other push busy => by
          rw [idle other] at busy
          cases busy }
    · exact calm
  | push id =>
    unfold Queue.step Queue.push
    dsimp only
    split
    · exact calm
    · rename_i item pc running
      exact calm.push sound width running
  | startPop query =>
    unfold Queue.step
    dsimp only
    split
    · exact { calm with
        alone := fun id push busy => by
          have none := orderly id
          rw [show queue.pushes id = some push from busy] at none
          cases none
        left := by rintro _ ⟨⟩ ⟨⟩ }
    · exact calm
  | pop =>
    unfold Queue.step Queue.pop
    dsimp only
    split
    · exact calm
    · rename_i pc running
      exact calm.pop sound running fun recycles => orderly (by rw [running]; exact recycles)

end Calm

/-! A whole call. -/

namespace RequestRing

variable (id : Nat) (req : Req)

def pushFrom : Nat → TryPush → RequestRing Req → Option Bool
  | 0, _, _ => none
  | fuel + 1, pc, ring =>
    match tryPush id req pc ring with
    | (.more pc, ring) => pushFrom fuel pc ring
    | (.done ok, _) => some ok

variable {ring : RequestRing Req}

theorem pushFrom_more {pc later : TryPush} {after : RequestRing Req} (fuel : Nat)
    (moved : tryPush id req pc ring = (.more later, after)) :
    pushFrom id req (fuel + 1) pc ring = pushFrom id req fuel later after := by
  rw [pushFrom, moved]

theorem pushFrom_commit (fuel : Nat) {phead pos : Nat} (turn : (ring.block phead).committed = pos) :
    pushFrom id req (fuel + 4) (.writeCallerId phead pos) ring = some true := by
  rw [pushFrom_more id req (fuel + 3) rfl, pushFrom_more id req (fuel + 2) rfl]
  have waited : ∀ callerId data, tryPush id req (.loadCommitted phead pos)
      ((ring.setEntry phead pos callerId).setEntry phead pos data) =
      (.more (.storeCommitted phead pos),
        (ring.setEntry phead pos callerId).setEntry phead pos data) :=
    fun _ _ => if_pos turn
  rw [pushFrom_more id req (fuel + 1) (waited ..)]
  rfl

variable (fuel : Nat) (version : (ring.block ring.phead).version = lap ring.phead)
include fuel version

theorem pushFrom_version :
    pushFrom id req (fuel + 2) .loadPhead ring = pushFrom id req fuel (.allocate ring.phead) ring := by
  have seen : tryPush id req (.loadVersion ring.phead) ring = (.more (.allocate ring.phead), ring) :=
    if_neg (not_not.mpr version)
  rw [pushFrom_more id req (fuel + 1) rfl, pushFrom_more id req fuel seen]

theorem pushFrom_room (room : (ring.block ring.phead).allocated < ring.blockSize)
    (turn : (ring.block ring.phead).committed = (ring.block ring.phead).allocated) :
    pushFrom id req (fuel + 7) .loadPhead ring = some true := by
  let block := ring.block ring.phead
  let entered := ring.setBlock ring.phead { block with allocated := (block.allocated + 1) % 2 ^ 32 }
  have granted : tryPush id req (.allocate ring.phead) ring =
      (.more (.writeCallerId ring.phead block.allocated),
        { entered with tickets := ring.tickets ++ [(id, req)] }) :=
    if_neg (Nat.not_le.mpr room)
  rw [pushFrom_version id req (fuel + 5) version, pushFrom_more id req (fuel + 4) granted]
  apply pushFrom_commit
  change ((ring.setBlock ring.phead _).block ring.phead).committed = _
  rw [block_setBlock_self]
  exact turn

theorem pushFrom_full (full : ring.blockSize ≤ (ring.block ring.phead).allocated)
    (nextVersion : (ring.block (ring.phead + 1)).version = lap (ring.phead + 1))
    (empty : (ring.block (ring.phead + 1)).allocated = 0 ∧ (ring.block (ring.phead + 1)).committed = 0)
    (positive : 0 < ring.blockSize) :
    pushFrom id req (fuel + 11) .loadPhead ring = some true := by
  have refused : tryPush id req (.allocate ring.phead) ring =
      (.more (.advance ring.phead), ring.setBlock ring.phead { ring.block ring.phead with
        allocated := ((ring.block ring.phead).allocated + 1) % 2 ^ 32 }) :=
    if_pos full
  have block : ∀ block, (ring.setBlock ring.phead block).block (ring.phead + 1) =
      ring.block (ring.phead + 1) := fun block =>
    block_setBlock_of_ne ring block (Nat.succ_ne_self _) (by omega) (by omega)
  have moved : ∀ block, tryPush id req (.advance ring.phead) (ring.setBlock ring.phead block) =
      (.more .loadPhead, { ring.setBlock ring.phead block with phead := ring.phead + 1 }) :=
    fun _ => congrArg (Prod.mk _) (if_pos rfl)
  rw [pushFrom_version id req (fuel + 9) version, pushFrom_more id req (fuel + 8) refused,
    pushFrom_more id req (fuel + 7) (moved _)]
  apply pushFrom_room
  · change ((ring.setBlock ring.phead _).block (ring.phead + 1)).version = lap (ring.phead + 1)
    rw [block]
    exact nextVersion
  · change ((ring.setBlock ring.phead _).block (ring.phead + 1)).allocated < ring.blockSize
    rw [block, empty.1]
    exact positive
  · change ((ring.setBlock ring.phead _).block (ring.phead + 1)).committed =
      ((ring.setBlock ring.phead _).block (ring.phead + 1)).allocated
    rw [block, empty.1, empty.2]

end RequestRing

end Bbq

namespace QueueMpsc

variable {Req Resp : Type} {code : QueueCode Req}

def AtRest (mpsc : QueueMpsc code Resp) : Prop :=
  (∀ id < mpsc.numCallers, (mpsc.queue.pushes id).isNone = true ∧
    (mpsc.desks id).respRing.reader.isIdle = true) ∧ mpsc.serverIdle = true

instance (mpsc : QueueMpsc code Resp) : Decidable mpsc.AtRest := inferInstanceAs (Decidable (_ ∧ _))

def finish (id : Nat) : Nat → QueueMpsc code Resp → Option (Outcome Req Resp)
  | 0, _ => none
  | fuel + 1, mpsc =>
    match mpsc.step (.caller id) with
    | (some outcome, _) => some outcome
    | (none, mpsc) => finish id fuel mpsc

def wholeCall (mpsc : QueueMpsc code Resp) (id : Nat) (req : Req) (fuel : Nat) :
    Option (Outcome Req Resp) :=
  match mpsc.step (.call id req) with
  | (some outcome, _) => some outcome
  | (none, mpsc) => finish id fuel mpsc

theorem pushes_step {queue : Queue code} {id : Nat} {action : Queue.Action code}
    (idle : queue.pushes id = none) (other : ∀ item, action ≠ .startPush id item) :
    (queue.step action).pushes id = none := by
  cases action with
  | startPush owner item =>
    have different : id ≠ owner := fun same => other item (by rw [same])
    unfold Queue.step
    dsimp only
    split
    · exact (update_of_ne different ..).trans idle
    · exact idle
  | push owner =>
    unfold Queue.step Queue.push
    dsimp only
    split
    · exact idle
    · rename_i item pc running
      have different : id ≠ owner := by
        rintro rfl
        rw [idle] at running
        cases running
      unfold Queue.pushed
      split <;> exact (update_of_ne different ..).trans idle
  | startPop query =>
    unfold Queue.step
    dsimp only
    split <;> exact idle
  | pop =>
    unfold Queue.step Queue.pop
    dsimp only
    split
    · exact idle
    · unfold Queue.answered
      split <;> exact idle

theorem numCallers_next (mpsc : QueueMpsc code Resp) (action : Action code Resp) :
    (mpsc.next action).numCallers = mpsc.numCallers := by
  unfold next step
  cases action with
  | call id req =>
    dsimp only
    split
    · unfold startCall
      dsimp only
      split <;> rfl
    · rfl
  | tryRecvResponse id =>
    dsimp only
    split
    · unfold startResponse
      split <;> rfl
    · rfl
  | caller id =>
    dsimp only
    split
    · unfold call
      split <;> rfl
    · rfl
  | query query =>
    dsimp only
    split <;> rfl
  | reply id index resp =>
    dsimp only
    split
    · unfold startReply
      dsimp only
      split <;> rfl
    · rfl
  | server =>
    dsimp only
    split
    · unfold reply
      split <;> rfl
    · unfold receive
      split <;> rfl

end QueueMpsc

namespace Bbq

open QueueMpsc

variable {Req Resp : Type}

/-- No other function is under way, and a block is recycled only when the producers have left it. -/
def InTurn (mpsc : QueueMpsc (code Req) Resp) : Action (code Req) Resp → Prop
  | .call .. | .tryRecvResponse _ | .query _ | .reply .. => mpsc.AtRest
  | .caller _ => True
  | .server => mpsc.replying.isNone = true → mpsc.queue.popping.any TryPop.recycles = true →
      mpsc.queue.shared.ctail < mpsc.queue.shared.phead

instance (mpsc : QueueMpsc (code Req) Resp) :
    (action : Action (code Req) Resp) → Decidable (InTurn mpsc action)
  | .call .. | .tryRecvResponse _ | .query _ | .reply .. => inferInstanceAs (Decidable mpsc.AtRest)
  | .caller _ => isTrue trivial
  | .server => inferInstanceAs (Decidable (_ → _))

structure Steady (shift : Nat) (mpsc : QueueMpsc (code Req) Resp) : Prop where
  sound : Sound shift mpsc.queue
  calm : Calm mpsc.queue
  outside : ∀ id, mpsc.numCallers ≤ id → mpsc.queue.pushes id = none

namespace Steady

variable {shift : Nat} {mpsc : QueueMpsc (code Req) Resp}

theorem idle (steady : Steady shift mpsc) (rest : mpsc.AtRest) (id : Nat) :
    mpsc.queue.pushes id = none := by
  rcases Nat.lt_or_ge id mpsc.numCallers with inside | outside
  · exact Option.isNone_iff_eq_none.mp (rest.1 id inside).1
  · exact steady.outside id outside

theorem resting (rest : mpsc.AtRest) : mpsc.queue.popping = none := by
  have server := rest.2
  simp only [serverIdle, Bool.and_eq_true, Option.isNone_iff_eq_none] at server
  exact server.1

theorem orderly (steady : Steady shift mpsc) {action : Action (code Req) Resp}
    (inTurn : InTurn mpsc action) {step : Queue.Action (code Req)}
    (taken : mpsc.queueAction action = some step) : Orderly mpsc.queue step := by
  cases action with
  | call id req =>
    simp only [queueAction, Option.ite_none_right_eq_some, Option.some.injEq] at taken
    rw [← taken.2]
    exact ⟨steady.idle inTurn, resting inTurn⟩
  | tryRecvResponse id => cases taken
  | caller id =>
    simp only [queueAction, Option.ite_none_right_eq_some, Option.some.injEq] at taken
    rw [← taken.2]
    trivial
  | query query =>
    simp only [queueAction, Option.ite_none_right_eq_some, Option.some.injEq] at taken
    rw [← taken.2]
    exact steady.idle inTurn
  | reply id index resp => cases taken
  | server =>
    simp only [queueAction, Option.ite_none_left_eq_some, Option.some.injEq] at taken
    rw [← taken.2]
    exact inTurn (by simpa using taken.1)

/-- Functions that run in turn keep the queue calm. -/
theorem next (steady : Steady shift mpsc) (width : shift < 32)
    {action : Action (code Req) Resp} (inTurn : InTurn mpsc action) :
    Steady shift (mpsc.next action) := by
  have timely : ∀ step, Timely mpsc.queue step := by
    intro step
    cases step with
    | push id => exact steady.calm.timely steady.sound width id
    | startPush id req => trivial
    | startPop query => trivial
    | pop => trivial
  refine {
    sound := next_queue steady.sound fun step _ => steady.sound.step (timely step)
    calm := next_queue steady.calm fun step taken =>
      steady.calm.step steady.sound width (steady.orderly inTurn taken)
    outside := ?_ }
  intro id outside
  rw [numCallers_next] at outside
  refine @next_queue _ _ _ (fun queue => queue.pushes id = none) mpsc
    (steady.outside id outside) action fun step taken => ?_
  refine pushes_step (steady.outside id outside) ?_
  rintro item rfl
  cases action with
  | call owner req =>
    simp only [queueAction, Option.ite_none_right_eq_some, Option.some.injEq,
      Queue.Action.startPush.injEq, callerIdle, Bool.and_eq_true,
      decide_eq_true_eq] at taken
    omega
  | tryRecvResponse owner => cases taken
  | caller owner => simp [queueAction] at taken
  | query query => simp [queueAction] at taken
  | reply owner index resp => cases taken
  | server => simp [queueAction] at taken

theorem create (Req Resp : Type) {ringDepth : Nat} (depth : ringDepth = 4 * 2 ^ shift)
    (width : shift < 32) (maxCallers maxInflight : Nat) :
    Steady shift (create Req Resp maxCallers ringDepth maxInflight) where
  sound := .new Req depth width
  calm :=
    { alone := nofun
      behind := Nat.le_refl _
      left := nofun
      known := nofun
      counted := fun _ _ => Nat.zero_le _ }
  outside _ _ := rfl

section

variable (steady : Steady shift mpsc) (rest : mpsc.AtRest)
include steady rest

theorem tickets :
    mpsc.queue.shared.tickets.length = mpsc.queue.accepted.length := by
  have items : ∀ id, itemsOf id mpsc.queue.shared.tickets = itemsOf id mpsc.queue.accepted := by
    intro id
    apply steady.sound.ticketed.free
    unfold held
    rw [steady.idle rest id]
    rfl
  have counts : ∀ (log : List (Nat × Req)) (id : Nat),
      (log.map Prod.fst).count id = (itemsOf id log).length := by
    intro log id
    rw [itemsOf, List.length_map, List.count_eq_countP, List.countP_map, List.countP_eq_length_filter]
    rfl
  have perm : (mpsc.queue.shared.tickets.map Prod.fst).Perm (mpsc.queue.accepted.map Prod.fst) := by
    rw [List.perm_iff_count]
    intro id
    rw [counts, counts, items]
  have lengths := perm.length_eq
  rwa [List.length_map, List.length_map] at lengths

theorem untouched {phead : Nat}
    (low : mpsc.queue.shared.ctail ≤ phead) (high : phead < mpsc.queue.shared.ctail + 4)
    (ahead : mpsc.queue.shared.tickets.length ≤ phead * 2 ^ shift) :
    (mpsc.queue.shared.block phead).allocated = 0 ∧
      (mpsc.queue.shared.block phead).committed = 0 := by
  have begun : first mpsc.queue = mpsc.queue.shared.ctail := by
    rw [first, resting rest]
    rfl
  have live := steady.sound.live phead (begun ▸ low) high
  have allocated := live.allocated
  have committed := live.committed
  have positive := Nat.two_pow_pos shift
  omega

theorem pushFrom (drained : mpsc.queue.popped.length = mpsc.queue.accepted.length) (id : Nat)
    (req : Req) :
    RequestRing.pushFrom id req 11 .loadPhead mpsc.queue.shared = some true := by
  have sound := steady.sound
  have tickets := (steady.tickets rest).trans drained.symm
  rw [sound.popped] at tickets
  have size := sound.blockSize
  have positive := Nat.two_pow_pos shift
  have idx := sound.idx_le
  have cached := sound.cached_le
  have behind := steady.calm.behind
  have begun : first mpsc.queue = mpsc.queue.shared.ctail := by
    rw [first, resting rest]
    rfl
  have reached := sound.reached
  have near : mpsc.queue.shared.phead ≤ mpsc.queue.shared.ctail + 1 := by
    refine Nat.le_of_mul_le_mul_right ?_ positive
    rw [Nat.succ_mul]
    omega
  have version := sound.version mpsc.queue.shared.phead behind (by omega)
  rcases Nat.lt_or_eq_of_le behind with before | same
  · have next : mpsc.queue.shared.phead = mpsc.queue.shared.ctail + 1 := by omega
    have empty := steady.untouched rest behind (by omega) (by rw [next, Nat.succ_mul]; omega)
    refine RequestRing.pushFrom_room id req 4 version ?_ (empty.2.trans empty.1.symm)
    rw [empty.1, size]
    exact positive
  · have live := sound.live mpsc.queue.shared.phead (begun ▸ behind) (by omega)
    have committed := sound.cached begun
    rw [same] at tickets committed
    have all := live.committed
    rcases live.allocated with ⟨full, allocated⟩ | ⟨_, allocated⟩
    · have ahead : mpsc.queue.shared.tickets.length ≤ (mpsc.queue.shared.phead + 1) * 2 ^ shift := by
        rw [Nat.succ_mul]
        omega
      exact RequestRing.pushFrom_full id req 0 version (size ▸ allocated)
        (sound.version _ (by omega) (by omega))
        (steady.untouched rest (by omega) (by omega) ahead) (size ▸ positive)
    · refine RequestRing.pushFrom_room id req 4 version ?_ ?_
      · rw [size]
        omega
      · omega

end

theorem finish_eq {id : Nat} {req : Req} (fuel : Nat) :
    ∀ {pc : TryPush} {mpsc : QueueMpsc (code Req) Resp}, mpsc.queue.pushes id = some (req, pc) →
      mpsc.finish id fuel = (RequestRing.pushFrom id req fuel pc mpsc.queue.shared).map fun ok =>
        .call id (if ok then .ok (mpsc.desks id).sendCount else .error (.full req)) := by
  induction fuel with
  | zero => intros; rfl
  | succ fuel ih =>
    intro pc mpsc running
    have stepped : mpsc.step (.caller id) = mpsc.call id req := by
      unfold step
      dsimp only
      rw [running]
    rw [finish, stepped, RequestRing.pushFrom]
    unfold call Queue.push
    rw [running]
    dsimp only
    cases moved : RequestRing.tryPush id req pc mpsc.queue.shared with
    | mk progress shared =>
      cases progress with
      | more later => exact ih (update_self ..)
      | done ok => cases ok <;> rfl

end Steady

/-- Below 2^34 entries, and if no block is recycled before the producers have left it: once all
requests were received, a call is accepted. -/
theorem drained_call_accepted {ringDepth : Nat} (power : ringDepth.isPowerOfTwo)
    (four : 4 ≤ ringDepth) (fits : ringDepth < 2 ^ 34) (maxCallers maxInflight : Nat)
    (actions : List (Action (code Req) Resp))
    (inTurn : Along next InTurn (create Req Resp maxCallers ringDepth maxInflight) actions) :
    let mpsc := run next (create Req Resp maxCallers ringDepth maxInflight) actions
    mpsc.AtRest → mpsc.queue.popped.length = mpsc.queue.accepted.length →
      ∀ id < mpsc.numCallers, (mpsc.desks id).inflight < (mpsc.desks id).maxInflight →
      ∀ req, mpsc.wholeCall id req 11 = some (.call id (.ok (mpsc.desks id).sendCount)) := by
  obtain ⟨exponent, rfl⟩ := power
  have two : 2 ≤ exponent := (Nat.pow_le_pow_iff_right (by decide : 1 < 2)).mp four
  have width : exponent - 2 < 32 := by
    have := (Nat.pow_lt_pow_iff_right (by decide : 1 < 2)).mp fits
    omega
  have depth : 2 ^ exponent = 4 * 2 ^ (exponent - 2) := by
    rw [show (4 : Nat) = 2 ^ 2 from rfl, ← Nat.pow_add, Nat.add_sub_cancel' two]
  have preserved : ∀ (mpsc : QueueMpsc (code Req) Resp) (action : Action (code Req) Resp),
      Steady (exponent - 2) mpsc → InTurn mpsc action → Steady (exponent - 2) (mpsc.next action) :=
    fun mpsc action steady inTurn => steady.next width inTurn
  have steady := run_invariant preserved
    (Steady.create Req Resp depth width maxCallers maxInflight) inTurn
  intro mpsc rest drained id inside room req
  have idle : mpsc.callerIdle id = true := by
    have here := rest.1 id inside
    simp only [callerIdle, inside, decide_true, here.1, here.2, Bool.and_self]
  have begun : mpsc.step (.call id req) =
      (none, { mpsc with queue := mpsc.queue.startPush id req }) := by
    unfold step startCall
    dsimp only
    rw [if_pos idle, if_neg (Nat.not_le.mpr room)]
  have pushed := steady.pushFrom rest drained id req
  unfold wholeCall
  rw [begun]
  dsimp only
  rw [Steady.finish_eq 11 (update_self ..)]
  change (RequestRing.pushFrom id req 11 .loadPhead mpsc.queue.shared).map _ = _
  rw [pushed]
  rfl

/-- Two requests, each received before the next call, fill a block of two. -/
def oneByOne : List (Action (code Nat) Nat) :=
  .call 0 100 :: goOn 0 7 ++ serve .tryRecv ++ .call 1 200 :: goOn 1 7 ++ serve .tryRecv

theorem drained_call_accepted_oneByOne :
    Along next InTurn (create Nat Nat 2 8 4) oneByOne ∧
      (run next (create Nat Nat 2 8 4) oneByOne).wholeCall 0 101 11 =
        some (.call 0 (.ok 1)) := by
  have inTurn : Along next InTurn (create Nat Nat 2 8 4) oneByOne := by decide +kernel
  have power : Nat.isPowerOfTwo 8 := ⟨3, rfl⟩
  exact ⟨inTurn, drained_call_accepted power (by decide) (by decide) 2 4 oneByOne inTurn
    (by decide +kernel) (by decide +kernel) 0 (by decide +kernel) (by decide +kernel) 101⟩

/-- A `poll` has recycled the block of the only request: the next call is refused. -/
theorem recycled_block_refuses_call :
    let mpsc := run next (create Nat Nat 1 4 4)
      (.call 0 100 :: goOn 0 7 ++ serve .tryRecv ++ serve .poll)
    mpsc.AtRest ∧ mpsc.queue.accepted = [(0, 100)] ∧ mpsc.queue.popped = [(0, 100)] ∧
      (mpsc.desks 0).inflight < (mpsc.desks 0).maxInflight ∧
      mpsc.wholeCall 0 101 11 = some (.call 0 (.error (.full 101))) :=
  ⟨by decide +kernel, by decide +kernel, by decide +kernel, by decide +kernel, rfl⟩

end Bbq

end Locasta.Mempc
