import Locasta.Mlx5.SendQueue
import Locasta.Mlx5.Cqe
import Locasta.Data.Run

namespace Locasta.Mlx5

open Data Function

/-! The unordered receives of `tm_srq`.

A bitmap says how many receives may still be posted, and from where it is searched; the slot of a
receive and its place in the table come from the producer index. Receives complete in any order.
-/

structure UnorderedWqeEntry (T : Type) where
  data : T
  wqebbStart : Nat
  wqebbCount : Nat

structure UnorderedWqeTable (T : Type) where
  entries : Nat → Option (UnorderedWqeEntry T)
  /-- One bit for each block, set while it is in use. -/
  bitmap : Nat → BitVec 64
  wqebbCnt : Nat
  mask : Nat
  allocHint : Nat

namespace UnorderedWqeTable

variable {T : Type}

def new (wqebbCnt : Nat) : UnorderedWqeTable T where
  entries _ := none
  bitmap _ := 0
  wqebbCnt
  mask := (wqebbCnt + 2 ^ 16 - 1) % 2 ^ 16
  allocHint := 0

def bit (idx : Nat) : BitVec 64 := 1#64 <<< (idx % 64)

def isFree (table : UnorderedWqeTable T) (idx : Nat) : Bool :=
  table.bitmap (idx / 64) &&& bit idx == 0

def tryAllocateFirst (table : UnorderedWqeTable T) : Option (Nat × UnorderedWqeTable T) :=
  let candidates :=
    (List.range table.wqebbCnt).map fun offset => (table.allocHint + offset) &&& table.mask
  (candidates.find? table.isFree).map fun idx =>
    let current := table.bitmap (idx / 64)
    (idx,
      { table with
        bitmap := update table.bitmap (idx / 64) (current ||| bit idx)
        allocHint := (idx + 1) &&& table.mask })

theorem tryAllocateFirst_spec {table after : UnorderedWqeTable T} {idx : Nat}
    (found : table.tryAllocateFirst = some (idx, after)) :
    0 < table.wqebbCnt ∧ after.entries = table.entries ∧ after.mask = table.mask ∧
      after.wqebbCnt = table.wqebbCnt := by
  simp only [tryAllocateFirst, Option.map_eq_some_iff, Prod.mk.injEq] at found
  obtain ⟨candidate, first, _, rfl⟩ := found
  refine ⟨?_, rfl, rfl, rfl⟩
  obtain ⟨offset, inside, _⟩ := List.mem_map.mp (List.mem_of_find?_eq_some first)
  exact Nat.zero_lt_of_lt (List.mem_range.mp inside)

def release (table : UnorderedWqeTable T) (start count : Nat) : UnorderedWqeTable T :=
  { table with
    bitmap := (List.range count).foldl
      (fun bitmap i =>
        let idx := (start + i) &&& table.mask
        update bitmap (idx / 64) (bitmap (idx / 64) &&& ~~~bit idx))
      table.bitmap }

def store (table : UnorderedWqeTable T) (wqeIdx wqebbStart wqebbCount : Nat) (data : T) :
    UnorderedWqeTable T :=
  { table with
    entries := update table.entries (wqeIdx &&& table.mask)
      (some { data, wqebbStart, wqebbCount }) }

def take (table : UnorderedWqeTable T) (wqeIdx : Nat) : Option T × UnorderedWqeTable T :=
  let slot := wqeIdx &&& table.mask
  match table.entries slot with
  | none => (none, table)
  | some entry =>
    (some entry.data,
      { table with entries := update table.entries slot none }.release entry.wqebbStart
        entry.wqebbCount)

theorem take_spec {table : UnorderedWqeTable T} {wqeIdx : Nat} {entry : UnorderedWqeEntry T}
    (stored : table.entries (wqeIdx &&& table.mask) = some entry) :
    ∃ after, table.take wqeIdx = (some entry.data, after) ∧
      after.entries = update table.entries (wqeIdx &&& table.mask) none ∧
      after.mask = table.mask ∧ after.wqebbCnt = table.wqebbCnt := by
  refine ⟨{ table with entries := update table.entries _ none }.release entry.wqebbStart
    entry.wqebbCount, ?_, rfl, rfl, rfl⟩
  simp only [take, stored]

end UnorderedWqeTable

structure TmSrqState (RecvEntry : Type) where
  buf : Memory
  wqeCnt : Nat
  stride : Nat
  head : Nat
  table : UnorderedWqeTable RecvEntry

namespace TmSrqState

variable {RecvEntry : Type}

def new (buf : Memory) (wqeCnt stride : Nat) : TmSrqState RecvEntry where
  buf
  wqeCnt
  stride
  head := 0
  table := .new (wqeCnt % 2 ^ 16)

def getWqePtr (state : TmSrqState RecvEntry) (idx : Nat) : Nat :=
  maskOffset idx state.wqeCnt * state.stride

def postUnorderedRecv (state : TmSrqState RecvEntry) (addr len lkey : Nat) (entry : RecvEntry) :
    Except IoError Unit × TmSrqState RecvEntry :=
  match state.table.tryAllocateFirst with
  | none => (.error ⟨.wouldBlock, "RQ full"⟩, state)
  | some (wqebbStart, table) =>
    let wqeIdx := state.head
    (.ok (),
      { state with
        buf := writeRecvWqe state.buf (state.getWqePtr wqeIdx) addr len lkey
        table := table.store (wqeIdx % 2 ^ 16) wqebbStart 1 entry
        head := (wqeIdx + 1) % 2 ^ 32 })

def processCompletion (state : TmSrqState RecvEntry) (wqeIdx : Nat) :
    Option RecvEntry × TmSrqState RecvEntry :=
  let (entry, table) := state.table.take wqeIdx
  (entry, { state with table })

end TmSrqState

inductive TmSrqCompletion (CmdEntry RecvEntry : Type) where
  | cmdQp (cqe : Cqe) (entry : CmdEntry)
  | recv (cqe : Cqe) (entry : RecvEntry)
  | tagMatch (cqe : Cqe)
  | error (cqe : Cqe) (entry : Option CmdEntry)
deriving DecidableEq

structure TmSrq (CmdEntry RecvEntry : Type) where
  srqState : TmSrqState RecvEntry
  cmdQp : SendQueueState CmdEntry

namespace TmSrq

variable {CmdEntry RecvEntry : Type}

def dispatchCqe (srq : TmSrq CmdEntry RecvEntry) (cqe : Cqe) :
    Option (TmSrqCompletion CmdEntry RecvEntry) × TmSrq CmdEntry RecvEntry :=
  match cqe.opcode with
  | .req | .tmFinish =>
    let (entry, cmdQp) := srq.cmdQp.processCompletion cqe.wqeCounter
    (entry.map (.cmdQp cqe), { srq with cmdQp })
  | .tmMatchContext => (some (.tagMatch cqe), srq)
  | .respSend | .respSendImm | .respSendInv | .respRdmaWriteImm =>
    let (entry, srqState) := srq.srqState.processCompletion cqe.wqeCounter
    (entry.map (.recv cqe), { srq with srqState })
  | .reqErr | .respErr =>
    let (entry, cmdQp) := srq.cmdQp.processCompletion cqe.wqeCounter
    (some (.error cqe entry), { srq with cmdQp })

def IsReceive (opcode : CqeOpcode) : Prop :=
  opcode = .respSend ∨ opcode = .respSendImm ∨ opcode = .respSendInv ∨ opcode = .respRdmaWriteImm

instance (opcode : CqeOpcode) : Decidable (IsReceive opcode) :=
  inferInstanceAs (Decidable (_ ∨ _ ∨ _ ∨ _))

theorem dispatchCqe_receive {cqe : Cqe} (receives : IsReceive cqe.opcode)
    (srq : TmSrq CmdEntry RecvEntry) :
    srq.dispatchCqe cqe = ((srq.srqState.processCompletion cqe.wqeCounter).1.map (.recv cqe),
        { srq with srqState := (srq.srqState.processCompletion cqe.wqeCounter).2 }) := by
  rcases receives with send | sendImm | sendInv | writeImm <;> simp only [dispatchCqe, *]

end TmSrq

/-- A receive that was accepted, with what its slot held then. -/
structure Receive (RecvEntry : Type) where
  entry : RecvEntry
  image : List UInt8

/-- The completion of the receive `number`, with what was called back. -/
structure Completion (CmdEntry RecvEntry : Type) where
  number : Nat
  cqe : Cqe
  report : Option (TmSrqCompletion CmdEntry RecvEntry)

/-- A queue with its history. Receives are numbered in the order in which they were accepted. -/
structure TmSession (CmdEntry RecvEntry : Type) where
  srq : TmSrq CmdEntry RecvEntry
  posted : List (Receive RecvEntry)
  completions : List (Completion CmdEntry RecvEntry)

namespace TmSession

variable {CmdEntry RecvEntry : Type}

inductive Action (RecvEntry : Type) where
  | post (addr len lkey : Nat) (entry : RecvEntry)
  | complete (number : Nat) (cqe : Cqe)

def new (buf : Memory) (wqeCnt stride : Nat) (cmdQp : SendQueueState CmdEntry) :
    TmSession CmdEntry RecvEntry where
  srq := { srqState := .new buf wqeCnt stride, cmdQp }
  posted := []
  completions := []

def completed (session : TmSession CmdEntry RecvEntry) : List Nat :=
  session.completions.map Completion.number

theorem completed_append (session : TmSession CmdEntry RecvEntry) (srq : TmSrq CmdEntry RecvEntry)
    (completion : Completion CmdEntry RecvEntry) :
    { session with srq, completions := session.completions ++ [completion] }.completed =
      session.completed ++ [completion.number] :=
  List.map_append

def step (session : TmSession CmdEntry RecvEntry) : Action RecvEntry → TmSession CmdEntry RecvEntry
  | .post addr len lkey entry =>
    let state := session.srq.srqState
    match state.postUnorderedRecv addr len lkey entry with
    | (.error _, _) => session
    | (.ok (), after) =>
      { session with
        srq := { session.srq with srqState := after }
        posted := session.posted ++
          [{ entry, image := after.buf.read (state.getWqePtr state.head) recvWqeSize }] }
  | .complete number cqe =>
    let (report, srq) := session.srq.dispatchCqe cqe
    { session with srq, completions := session.completions ++ [{ number, cqe, report }] }

/-- The device completes each posted receive at most once, and names it by its index. -/
def Completes (session : TmSession CmdEntry RecvEntry) : Action RecvEntry → Prop
  | .post .. => True
  | .complete number cqe =>
    number < session.posted.length ∧ number ∉ session.completed ∧ TmSrq.IsReceive cqe.opcode ∧
      cqe.wqeCounter = number % 2 ^ 16

instance (session : TmSession CmdEntry RecvEntry) :
    (action : Action RecvEntry) → Decidable (session.Completes action)
  | .post .. => isTrue trivial
  | .complete .. => inferInstanceAs (Decidable (_ ∧ _ ∧ _ ∧ _))

/-- A post the bitmap allows finds the receive that used its slot completed. -/
def SlotFree (session : TmSession CmdEntry RecvEntry) : Action RecvEntry → Prop
  | .post .. =>
    session.srq.srqState.table.tryAllocateFirst.isSome →
      session.posted.length < session.srq.srqState.wqeCnt ∨
        session.posted.length - session.srq.srqState.wqeCnt ∈ session.completed
  | .complete .. => True

instance (session : TmSession CmdEntry RecvEntry) :
    (action : Action RecvEntry) → Decidable (session.SlotFree action)
  | .post .. => inferInstanceAs (Decidable (_ → _ ∨ _))
  | .complete .. => isTrue trivial

theorem slot_eq {slots : Nat} (power : slots.isPowerOfTwo) (small : slots < 2 ^ 16)
    (number : Nat) : number % 2 ^ 16 &&& (slots % 2 ^ 16 + 2 ^ 16 - 1) % 2 ^ 16 = number % slots := by
  have positive := Nat.pos_of_isPowerOfTwo power
  have mask : (slots % 2 ^ 16 + 2 ^ 16 - 1) % 2 ^ 16 = slots - 1 := by omega
  rw [mask]
  change maskOffset (number % 2 ^ 16) slots = _
  rw [maskOffset_eq_mod power,
    Nat.mod_mod_of_dvd _ (dvd_of_isPowerOfTwo_le power ⟨16, rfl⟩ (Nat.le_of_lt small))]

theorem lt_of_mod_pos {slots : Nat} (power : slots.isPowerOfTwo) (positive : 0 < slots % 2 ^ 16) :
    slots < 2 ^ 16 := by
  apply Nat.lt_of_not_le
  intro large
  have divides := dvd_of_isPowerOfTwo_le ⟨16, rfl⟩ power large
  rw [Nat.mod_eq_zero_of_dvd divides] at positive
  exact Nat.lt_irrefl 0 positive

/-- Every receive that did not complete is in its slot and in the table, one of the last that fit.
-/
structure Kept (slots size : Nat) (session : TmSession CmdEntry RecvEntry) : Prop where
  wqeCnt : session.srq.srqState.wqeCnt = slots
  stride : session.srq.srqState.stride = size
  wqebbCnt : session.srq.srqState.table.wqebbCnt = slots % 2 ^ 16
  mask : session.srq.srqState.table.mask = (slots % 2 ^ 16 + 2 ^ 16 - 1) % 2 ^ 16
  head : session.srq.srqState.head = session.posted.length % 2 ^ 32
  small : 0 < session.posted.length → slots < 2 ^ 16
  once : session.completed.Nodup
  reported : ∀ completion ∈ session.completions, ∃ receive,
    session.posted[completion.number]? = some receive ∧
      completion.report = some (.recv completion.cqe receive.entry)
  window : ∀ number < session.posted.length, number ∉ session.completed →
    session.posted.length ≤ number + slots
  held : ∀ number receive, session.posted[number]? = some receive → number ∉ session.completed →
    (session.srq.srqState.table.entries (number % slots)).map UnorderedWqeEntry.data =
        some receive.entry ∧
      session.srq.srqState.buf.read (number % slots * size) recvWqeSize = receive.image

namespace Kept

variable {slots size : Nat} {session : TmSession CmdEntry RecvEntry}

theorem new (buf : Memory) (slots size : Nat) (cmdQp : SendQueueState CmdEntry) :
    Kept slots size (.new buf slots size cmdQp : TmSession CmdEntry RecvEntry) where
  wqeCnt := rfl
  stride := rfl
  wqebbCnt := rfl
  mask := rfl
  head := rfl
  small some := (Nat.lt_irrefl 0 some).elim
  once := .nil
  reported _ member := by cases member
  window _ inside := (Nat.not_lt_zero _ inside).elim
  held _ _ here := by simp [TmSession.new] at here

variable (kept : Kept slots size session)
include kept

theorem slot (power : slots.isPowerOfTwo) (small : slots < 2 ^ 16) :
    session.srq.srqState.head % 2 ^ 16 &&& session.srq.srqState.table.mask =
      session.posted.length % slots := by
  rw [kept.head, kept.mask, Nat.mod_mod_of_dvd _ (Nat.pow_dvd_pow 2 (by decide : 16 ≤ 32)),
    slot_eq power small]

theorem ptr (power : slots.isPowerOfTwo) (small : slots < 2 ^ 16) :
    session.srq.srqState.getWqePtr session.srq.srqState.head =
      session.posted.length % slots * size := by
  rw [TmSrqState.getWqePtr, kept.wqeCnt, kept.stride, kept.head, maskOffset_eq_mod power,
    Nat.mod_mod_of_dvd _ (dvd_of_isPowerOfTwo_le power ⟨32, rfl⟩
      (Nat.le_of_lt (small.trans (by decide))))]

theorem apart {first second : Nat}
    (firstInside : first < session.posted.length) (secondInside : second < session.posted.length)
    (firstOpen : first ∉ session.completed) (secondOpen : second ∉ session.completed)
    (different : first ≠ second) : first % slots ≠ second % slots := by
  have firstWindow := kept.window first firstInside firstOpen
  have secondWindow := kept.window second secondInside secondOpen
  exact mod_ne_mod_of_near different (by omega) (by omega)

/-- All receives that did not complete stay in the window. -/
theorem window_post
    (free : session.posted.length < slots ∨ session.posted.length - slots ∈ session.completed)
    {number : Nat} (inside : number < session.posted.length)
    (unfinished : number ∉ session.completed) : session.posted.length < number + slots := by
  rcases Nat.lt_or_eq_of_le (kept.window number inside unfinished) with less | last
  · exact less
  · rcases free with early | done
    · omega
    · rw [last, Nat.add_sub_cancel] at done
      exact absurd done unfinished

theorem post (power : slots.isPowerOfTwo)
    (roomy : recvWqeSize ≤ size) {addr len lkey : Nat} {entry : RecvEntry}
    (free : session.SlotFree (.post addr len lkey entry)) :
    Kept slots size (session.step (.post addr len lkey entry)) := by
  cases found : session.srq.srqState.table.tryAllocateFirst with
  | none =>
    simp only [step, TmSrqState.postUnorderedRecv, found]
    exact kept
  | some allocated =>
    obtain ⟨wqebbStart, table⟩ := allocated
    obtain ⟨positive, entries, mask, wqebbCnt⟩ := UnorderedWqeTable.tryAllocateFirst_spec found
    rw [kept.wqebbCnt] at positive
    have small := lt_of_mod_pos power positive
    have slot := kept.slot power small
    have ptr := kept.ptr power small
    have vacant := free (by rw [found]; rfl)
    rw [kept.wqeCnt] at vacant
    simp only [step, TmSrqState.postUnorderedRecv, found]
    refine { kept with
      wqebbCnt := wqebbCnt.trans kept.wqebbCnt
      mask := mask.trans kept.mask
      head := ?head
      small := fun _ => small
      reported := ?reported
      window := ?window
      held := ?held }
    case head =>
      rw [kept.head, Nat.mod_add_mod, List.length_append, List.length_singleton]
    case reported =>
      intro completion member
      obtain ⟨receive, here, report⟩ := kept.reported completion member
      exact ⟨receive, getElem?_extend (List.prefix_append ..) here, report⟩
    case window =>
      intro number inside unfinished
      rw [List.length_append, List.length_singleton] at inside ⊢
      rcases Nat.lt_succ_iff_lt_or_eq.mp inside with earlier | rfl
      · exact kept.window_post vacant earlier unfinished
      · have := Nat.pos_of_isPowerOfTwo power
        omega
    case held =>
      intro number receive here unfinished
      change Option.map _ (update table.entries
        (session.srq.srqState.head % 2 ^ 16 &&& table.mask) _ _) = _ ∧ _
      rw [mask, slot, entries, ptr]
      rcases Nat.lt_trichotomy number session.posted.length with earlier | rfl | later
      · rw [List.getElem?_append_left earlier] at here
        obtain ⟨data, image⟩ := kept.held number receive here unfinished
        have different : number % slots ≠ session.posted.length % slots :=
          mod_ne_mod_of_window earlier (kept.window_post vacant earlier unfinished)
        have disjoint := slots_apart different size
        refine ⟨?_, ?_⟩
        · rw [update_of_ne different]
          exact data
        · rw [Memory.SameOutside.read (sameOutside_recvWqe _ _ _ _ _) (by omega)]
          exact image
      · rw [List.getElem?_append_right (Nat.le_refl _), Nat.sub_self] at here
        cases here
        rw [update_self]
        exact ⟨rfl, by rw [ptr]⟩
      · rw [List.getElem?_eq_none (by rw [List.length_append, List.length_singleton]; omega)]
          at here
        cases here

theorem complete (power : slots.isPowerOfTwo) {number : Nat}
    {cqe : Cqe} (completes : session.Completes (.complete number cqe)) :
    Kept slots size (session.step (.complete number cqe)) := by
  obtain ⟨inside, fresh, receives, counter⟩ := completes
  have small := kept.small (Nat.zero_lt_of_lt inside)
  have here := List.getElem?_eq_getElem inside
  obtain ⟨entry, stored, data⟩ :=
    Option.map_eq_some_iff.mp (kept.held number _ here fresh).1
  have slot : cqe.wqeCounter &&& session.srq.srqState.table.mask = number % slots := by
    rw [counter, kept.mask, slot_eq power small]
  rw [← slot] at stored
  obtain ⟨table, taken, entries, mask, wqebbCnt⟩ := UnorderedWqeTable.take_spec stored
  rw [slot] at entries
  simp only [step, TmSrq.dispatchCqe_receive receives, TmSrqState.processCompletion, taken]
  refine { kept with
    wqebbCnt := wqebbCnt.trans kept.wqebbCnt
    mask := mask.trans kept.mask
    once := ?once
    reported := ?reported
    window := ?window
    held := ?held }
  case once =>
    rw [completed_append]
    exact List.nodup_append.mpr ⟨kept.once, List.pairwise_singleton .., by grind⟩
  case reported =>
    intro completion member
    rcases List.mem_append.mp member with earlier | last
    · exact kept.reported completion earlier
    · cases List.mem_singleton.mp last
      exact ⟨_, here, by rw [← data]; rfl⟩
  case window =>
    intro other otherInside unfinished
    rw [completed_append, List.mem_append, not_or] at unfinished
    exact kept.window other otherInside unfinished.1
  case held =>
    intro other receive otherHere unfinished
    rw [completed_append, List.mem_append, not_or, List.mem_singleton] at unfinished
    obtain ⟨otherData, image⟩ := kept.held other receive otherHere unfinished.1
    have otherInside := (List.getElem?_eq_some_iff.mp otherHere).1
    refine ⟨?_, image⟩
    rw [entries, update_of_ne]
    · exact otherData
    · exact kept.apart otherInside inside unfinished.1 fresh unfinished.2

/-- A receive keeps its slot until it completes, if no slot in use is posted to again. -/
theorem step (power : slots.isPowerOfTwo)
    (roomy : recvWqeSize ≤ size) {action : Action RecvEntry} (completes : session.Completes action)
    (free : session.SlotFree action) : Kept slots size (session.step action) := by
  cases action with
  | post addr len lkey entry => exact kept.post power roomy free
  | complete number cqe => exact kept.complete power completes

end Kept

/-- If an accepted receive finds its slot free, each completion is reported once, with the entry of
its receive, and every other receive keeps its slot and its place in the table. -/
theorem unordered_receives_kept {slots size : Nat} (power : slots.isPowerOfTwo)
    (roomy : recvWqeSize ≤ size) (buf : Memory) (cmdQp : SendQueueState CmdEntry)
    {actions : List (Action RecvEntry)}
    (guarded : Along step (fun session action => session.Completes action ∧ session.SlotFree action)
      (new buf slots size cmdQp) actions) :
    let session := run step (new buf slots size cmdQp) actions
    let state := session.srq.srqState
    (∀ completion ∈ session.completions, ∃ receive,
        session.posted[completion.number]? = some receive ∧
          completion.report = some (.recv completion.cqe receive.entry)) ∧
      session.completed.Nodup ∧
      (∀ number receive, session.posted[number]? = some receive → number ∉ session.completed →
        (state.table.entries (number % 2 ^ 16 &&& state.table.mask)).map UnorderedWqeEntry.data =
            some receive.entry ∧
          state.buf.read (state.getWqePtr number) recvWqeSize = receive.image) ∧
      ∀ first second, first < session.posted.length → second < session.posted.length →
        first ∉ session.completed → second ∉ session.completed → first ≠ second →
          state.getWqePtr first ≠ state.getWqePtr second := by
  intro session state
  have kept : Kept slots size session :=
    run_invariant (fun _ _ kept guard => kept.step power roomy guard.1 guard.2)
      (.new buf slots size cmdQp) guarded
  have ptr (number : Nat) : state.getWqePtr number = number % slots * size := by
    rw [TmSrqState.getWqePtr, kept.wqeCnt, kept.stride, maskOffset_eq_mod power]
  refine ⟨kept.reported, kept.once, ?_, ?_⟩
  · intro number receive here unfinished
    have inside := (List.getElem?_eq_some_iff.mp here).1
    rw [kept.mask, slot_eq power (kept.small (Nat.zero_lt_of_lt inside)), ptr]
    exact kept.held number receive here unfinished
  · intro first second firstInside secondInside firstOpen secondOpen different same
    rw [ptr, ptr] at same
    have sameSlot : first % slots = second % slots :=
      Nat.eq_of_mul_eq_mul_right (Nat.lt_of_lt_of_le (by decide) roomy) same
    exact kept.apart firstInside secondInside firstOpen secondOpen different sameSlot

/-- The completion of a send that landed in the receive `number`. -/
def sendCqe (number : Nat) : Cqe where
  opcode := .respSend
  wqeCounter := number % 2 ^ 16
  qpNum := 0
  byteCnt := 0
  imm := 0
  syndrome := 0
  vendorErr := 0
  appInfo := 0
  isInlineScatter := false
  inlineData := []

def fourReceives : List (Action Nat) :=
  [.post 0 8 0 10, .post 0 8 0 11, .post 0 8 0 12, .post 0 8 0 13]

def emptyQueue : TmSession Unit Nat := new (fun _ => 0) 4 64 (.new 4 0 fun _ => 0)

theorem unordered_receives_kept_swapped :
    let actions := fourReceives ++
      [.complete 1 (sendCqe 1), .complete 0 (sendCqe 0), .post 0 8 0 14, .complete 3 (sendCqe 3)]
    let session := run step emptyQueue actions
    session.completions.map Completion.report =
        [some (.recv (sendCqe 1) 11), some (.recv (sendCqe 0) 10), some (.recv (sendCqe 3) 13)] ∧
      session.completed.Nodup := by
  intro actions session
  have guarded : Along step
      (fun session action => session.Completes action ∧ session.SlotFree action) emptyQueue
      actions := by
    decide +kernel
  exact ⟨by decide +kernel,
    (unordered_receives_kept ⟨2, rfl⟩ (by decide) (fun _ => 0) (.new 4 0 fun _ => 0) guarded).2.1⟩

/-- The bitmap has room for a fifth receive, which takes the slot of the first. -/
theorem fifth_receive_overwrites_first :
    let actions := fourReceives ++
      [.complete 1 (sendCqe 1), .post 0 8 0 14, .complete 0 (sendCqe 0), .complete 4 (sendCqe 4)]
    Along step Completes emptyQueue actions ∧
      (run step emptyQueue actions).posted.map Receive.entry = [10, 11, 12, 13, 14] ∧
      (run step emptyQueue actions).completions.map Completion.report =
        [some (.recv (sendCqe 1) 11), some (.recv (sendCqe 0) 14), none] := by
  intro actions
  exact ⟨by decide +kernel, by decide +kernel, by decide +kernel⟩

end TmSession

end Locasta.Mlx5
