import Locasta.Mlx5.Wqe
import Locasta.Data.Channel

namespace Locasta.Mlx5

open Data Function

/-! The send queue of `emit.rs`.

Entries are written into a ring of 64-byte blocks. The producer and the consumer index are 16-bit
counters that run freely; the consumer index only moves when a signaled entry completes. An entry
that does not fit before the end of the buffer starts at its beginning, behind a NOP.
-/

structure WqeEntry (Entry : Type) where
  data : Entry
  ciDelta : Nat

structure OrderedWqeTable (Entry : Type) where
  entries : Nat → Option (WqeEntry Entry)
  mask : Nat

namespace OrderedWqeTable

variable {Entry : Type}

def new (wqeCnt : Nat) : OrderedWqeTable Entry where
  entries _ := none
  mask := wqeCnt - 1

def store (table : OrderedWqeTable Entry) (idx : Nat) (entry : Entry) (ciDelta : Nat) :
    OrderedWqeTable Entry :=
  { table with
    entries := update table.entries (idx &&& table.mask) (some { data := entry, ciDelta }) }

def take (table : OrderedWqeTable Entry) (idx : Nat) :
    Option (WqeEntry Entry) × OrderedWqeTable Entry :=
  let slot := idx &&& table.mask
  (table.entries slot, { table with entries := update table.entries slot none })

end OrderedWqeTable

inductive SubmissionError where
  | sqFull

structure EmitResult where
  wqePtr : Nat
  wqeIdx : Nat
  wqeSize : Nat
  wqebbCnt : Nat

/-- `position` counts the blocks before the entry; `image` is what its blocks held when posted. -/
structure Wqe (Entry : Type) where
  position : Nat
  wqebbCnt : Nat
  entry : Option Entry
  image : List UInt8

namespace Wqe

variable {Entry : Type}

def stop (wqe : Wqe Entry) : Nat := wqe.position + wqe.wqebbCnt

/-- The entry as a segment of the byte stream that runs through the buffer. -/
def segment (wqe : Wqe Entry) : Segment where
  start := wqebbSize * wqe.position
  stop := wqebbSize * wqe.stop
  payload := wqe.image

end Wqe

def endOf {Entry : Type} (wqes : List (Wqe Entry)) : Nat := (wqes.getLast?.map Wqe.stop).getD 0

structure SendQueueState (Entry : Type) where
  buf : Memory
  wqeCnt : Nat
  sqn : Nat
  pi : Nat
  ci : Nat
  lastWqe : Option (Nat × Nat)
  table : OrderedWqeTable Entry
  /-- Auxiliary: all that was posted. No operation reads it. -/
  posted : List (Wqe Entry)

namespace SendQueueState

variable {Entry : Type}

def new (wqeCnt sqn : Nat) (buf : Memory) : SendQueueState Entry where
  buf
  wqeCnt
  sqn
  pi := 0
  ci := 0
  lastWqe := none
  table := .new wqeCnt
  posted := []

/-- `pi.wrapping_sub(ci)` -/
def inFlight (sq : SendQueueState Entry) : Nat := (sq.pi + 2 ^ 16 - sq.ci) % 2 ^ 16

def available (sq : SendQueueState Entry) : Nat := sq.wqeCnt - sq.inFlight

def getWqePtr (sq : SendQueueState Entry) (idx : Nat) : Nat := maskOffset idx sq.wqeCnt * wqebbSize

def slotsToEnd (sq : SendQueueState Entry) : Nat := sq.wqeCnt - maskOffset sq.pi sq.wqeCnt

/-- The next entry, once it stands in `buf`. -/
def nextWqe (sq : SendQueueState Entry) (wqebbCnt : Nat) (entry : Option Entry) (buf : Memory) :
    Wqe Entry where
  position := endOf sq.posted
  wqebbCnt
  entry
  image := buf.read (sq.getWqePtr sq.pi) (wqebbSize * wqebbCnt)

/-- A signaled entry is noted in the table, with the producer index behind it. -/
def post (sq : SendQueueState Entry) (wqebbCnt wqeSize : Nat) (entry : Option Entry)
    (fill : (wqePtr wqeIdx : Nat) → Memory → Memory) : EmitResult × SendQueueState Entry :=
  let wqeIdx := sq.pi
  let wqePtr := sq.getWqePtr wqeIdx
  let buf := fill wqePtr wqeIdx sq.buf
  let pi := (wqeIdx + wqebbCnt) % 2 ^ 16
  ({ wqePtr, wqeIdx, wqeSize, wqebbCnt },
    { sq with
      buf, pi
      lastWqe := some (wqePtr, wqeSize)
      table := match entry with
        | none => sq.table
        | some entry => sq.table.store wqeIdx entry pi
      posted := sq.posted ++ [sq.nextWqe wqebbCnt entry buf] })

def postNop (sq : SendQueueState Entry) (nopWqebbCnt : Nat) : SendQueueState Entry :=
  (sq.post nopWqebbCnt (nopWqebbCnt * wqebbSize) none fun wqePtr wqeIdx buf =>
    writeNopWqe buf wqePtr wqeIdx sq.sqn nopWqebbCnt).2

/-- The cold path: the entry does not fit before the end of the buffer. -/
def emitWrap (sq : SendQueueState Entry) (wqeSize : Nat) (entry : Option Entry)
    (fill : (wqePtr wqeIdx : Nat) → Memory → Memory) :
    Except SubmissionError EmitResult × SendQueueState Entry :=
  let wqebbCnt := calcWqebbCnt wqeSize
  let slotsToEnd := sq.slotsToEnd
  let totalNeeded := (slotsToEnd + wqebbCnt) % 2 ^ 16
  if sq.available < totalNeeded then (.error .sqFull, sq)
  else
    let (result, sq) := (sq.postNop slotsToEnd).post wqebbCnt wqeSize entry fill
    (.ok result, sq)

/-- What the emissions have in common: the fast path writes `fill`, the cold path `wrapFill`. -/
def emit (sq : SendQueueState Entry) (wqeSize wrapSize : Nat) (entry : Option Entry)
    (fill wrapFill : (wqePtr wqeIdx : Nat) → Memory → Memory) :
    Except SubmissionError EmitResult × SendQueueState Entry :=
  let wqebbCnt := calcWqebbCnt wqeSize
  if sq.available < wqebbCnt then (.error .sqFull, sq)
  else if wqebbCnt > sq.slotsToEnd ∧ sq.slotsToEnd < sq.wqeCnt then
    sq.emitWrap wrapSize entry wrapFill
  else
    let (result, sq) := sq.post wqebbCnt wqeSize entry fill
    (.ok result, sq)

/-- A signaled emission asks for a completion. -/
def withCompletion (flags : WqeFlags) (entry : Option Entry) : WqeFlags :=
  match entry with
  | none => flags
  | some _ => flags ||| WqeFlags.completion

/-- `emit_wqe!` with `write_imm`. The cold path leaves out the data segment of an empty SGE. -/
def emitWriteImm (sq : SendQueueState Entry) (params : WriteImmParams) (entry : Option Entry) :
    Except SubmissionError EmitResult × SendQueueState Entry :=
  let flags := withCompletion params.flags entry
  let wrapSge : Bool := 0 < params.sge.len
  sq.emit (params.wqeSize true) (params.wqeSize wrapSge) entry (params.fill true flags sq.sqn)
    (params.fill wrapSge flags sq.sqn)

/-- `emit_dci_wqe!` with `write_imm` and an SGE. -/
def emitDciWriteImm (sq : SendQueueState Entry) (params : DciWriteImmParams)
    (entry : Option Entry) : Except SubmissionError EmitResult × SendQueueState Entry :=
  let flags := withCompletion params.flags entry
  let fill := params.fill flags sq.sqn
  sq.emit DciWriteImmParams.wqeSize DciWriteImmParams.wqeSize entry fill fill

def processCompletion (sq : SendQueueState Entry) (wqeIdx : Nat) :
    Option Entry × SendQueueState Entry :=
  match sq.table.take wqeIdx with
  | (none, _) => (none, sq)
  | (some entry, table) => (some entry.data, { sq with table, ci := entry.ciDelta })

end SendQueueState

end Locasta.Mlx5
