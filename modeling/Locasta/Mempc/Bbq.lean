import Locasta.Mempc.QueueMpsc
import Mathlib.Tactic.Ring

namespace Locasta.Mempc

open Data Function

/-! `BbqMpsc`: the request queue is a ring of blocks.

Producers allocate entries within the block of `phead` and commit them in their order. The consumer
reads the committed entries of the block of `ctail` and recycles the block when it has read all.
Only the consumer uses `ctail`, so its accesses belong to those next to them.
-/

namespace Bbq

structure BbqEntry (Req : Type) where
  callerId : Nat
  data : Option Req

structure BbqBlock where
  allocated : Nat
  committed : Nat
  version : Nat

/-- `u32::trailing_zeros` with 32 for the width. -/
def trailingZeros : Nat → Nat → Nat
  | 0, _ => 0
  | width + 1, number => if number % 2 = 1 then 0 else trailingZeros width (number / 2) + 1

/-- `BbqRequestRing`, and the server's place in it. There are `DEFAULT_BLOCK_COUNT` = 4 blocks. -/
structure RequestRing (Req : Type) where
  entries : Nat → BbqEntry Req
  blocks : Nat → BbqBlock
  phead : Nat
  ctail : Nat
  blockSize : Nat
  blockSizeShift : Nat
  consumerEntryIdx : Nat
  cachedCommitted : Nat
  /-- Auxiliary: who was given the entries, and for what. -/
  tickets : List (Nat × Req)

inductive Query where
  | tryRecv
  | poll

inductive TryPush where
  | loadPhead
  | loadVersion (phead : Nat)
  | allocate (phead : Nat)
  | advance (phead : Nat)
  | writeCallerId (phead pos : Nat)
  | writeData (phead pos : Nat)
  | loadCommitted (phead pos : Nat)
  | storeCommitted (phead pos : Nat)

/-- The next access of `try_recv` or `poll`. The first four are those of `try_advance_block`. -/
inductive TryPop where
  | loadAllocated (query : Query)
  | resetAllocated (query : Query)
  | resetCommitted (query : Query)
  | storeVersion (query : Query)
  | loadCommitted (query : Query)
  | readCallerId
  | readData (callerId : Nat)

namespace RequestRing

variable {Req : Type}

def new (Req : Type) (ringDepth : Nat) : RequestRing Req where
  entries _ := { callerId := 0, data := none }
  blocks _ := { allocated := 0, committed := 0, version := 0 }
  phead := 0
  ctail := 0
  blockSize := ringDepth / 4 % 2 ^ 32
  blockSizeShift := trailingZeros 32 (ringDepth / 4 % 2 ^ 32)
  consumerEntryIdx := 0
  cachedCommitted := 0
  tickets := []

def block (ring : RequestRing Req) (phead : Nat) : BbqBlock := ring.blocks (maskOffset phead 4)

def setBlock (ring : RequestRing Req) (phead : Nat) (block : BbqBlock) : RequestRing Req :=
  { ring with blocks := update ring.blocks (maskOffset phead 4) block }

def entryIdx (ring : RequestRing Req) (phead pos : Nat) : Nat :=
  (maskOffset phead 4 <<< ring.blockSizeShift) + pos

def entry (ring : RequestRing Req) (phead pos : Nat) : BbqEntry Req :=
  ring.entries (ring.entryIdx phead pos)

def setEntry (ring : RequestRing Req) (phead pos : Nat) (entry : BbqEntry Req) :
    RequestRing Req :=
  { ring with entries := update ring.entries (ring.entryIdx phead pos) entry }

/-- `(phead >> block_count_shift) as u32` -/
def lap (phead : Nat) : Nat := (phead >>> 2) % 2 ^ 32

def tryPush (callerId : Nat) (data : Req) (pc : TryPush) (ring : RequestRing Req) :
    Progress TryPush Bool × RequestRing Req :=
  match pc with
  | .loadPhead => (.more (.loadVersion ring.phead), ring)
  | .loadVersion phead =>
    if (ring.block phead).version ≠ lap phead then (.done false, ring)
    else (.more (.allocate phead), ring)
  | .allocate phead =>
    let block := ring.block phead
    let pos := block.allocated
    let ring := ring.setBlock phead { block with allocated := (pos + 1) % 2 ^ 32 }
    if pos ≥ ring.blockSize then (.more (.advance phead), ring)
    else
      (.more (.writeCallerId phead pos),
        { ring with tickets := ring.tickets ++ [(callerId, data)] })
  | .advance phead =>
    (.more .loadPhead, if ring.phead = phead then { ring with phead := phead + 1 } else ring)
  | .writeCallerId phead pos =>
    (.more (.writeData phead pos), ring.setEntry phead pos { ring.entry phead pos with callerId })
  | .writeData phead pos =>
    (.more (.loadCommitted phead pos),
      ring.setEntry phead pos { ring.entry phead pos with data := some data })
  | .loadCommitted phead pos =>
    if (ring.block phead).committed = pos then (.more (.storeCommitted phead pos), ring)
    else (.more (.loadCommitted phead pos), ring)
  | .storeCommitted phead pos =>
    (.done true, ring.setBlock phead { ring.block phead with committed := pos + 1 })

/-- Where `try_recv` and `poll` go once `try_advance_block` returned. -/
def afterAdvance (ring : RequestRing Req) (query : Query) : TryPop :=
  match query with
  | .poll => .loadCommitted .poll
  | .tryRecv =>
    if ring.consumerEntryIdx ≥ ring.cachedCommitted then .loadCommitted .tryRecv
    else .readCallerId

def tryPop (pc : TryPop) (ring : RequestRing Req) :
    Progress TryPop (Answer Req) × RequestRing Req :=
  let block := ring.block ring.ctail
  match pc with
  | .loadAllocated query =>
    if ring.consumerEntryIdx < ring.blockSize then (.more (ring.afterAdvance query), ring)
    else if block.allocated < ring.blockSize then (.more (ring.afterAdvance query), ring)
    else (.more (.resetAllocated query), ring)
  | .resetAllocated query =>
    (.more (.resetCommitted query), ring.setBlock ring.ctail { block with allocated := 0 })
  | .resetCommitted query =>
    (.more (.storeVersion query), ring.setBlock ring.ctail { block with committed := 0 })
  | .storeVersion query =>
    let version := (lap ring.ctail + 1) % 2 ^ 32
    let ring :=
      { ring.setBlock ring.ctail { block with version } with
        ctail := ring.ctail + 1, consumerEntryIdx := 0, cachedCommitted := 0 }
    match query with
    | .poll => (.more (.loadAllocated .poll), ring)
    | .tryRecv => (.more (ring.afterAdvance .tryRecv), ring)
  | .loadCommitted query =>
    let ring := { ring with cachedCommitted := block.committed }
    match query with
    | .poll => (.done (.count (block.committed - ring.consumerEntryIdx)), ring)
    | .tryRecv =>
      if ring.consumerEntryIdx ≥ block.committed then (.done .empty, ring)
      else (.more .readCallerId, ring)
  | .readCallerId => (.more (.readData (ring.entry ring.ctail ring.consumerEntryIdx).callerId), ring)
  | .readData callerId =>
    match (ring.entry ring.ctail ring.consumerEntryIdx).data with
    | none => (.done .empty, ring)
    | some data =>
      (.done (.item callerId data), { ring with consumerEntryIdx := ring.consumerEntryIdx + 1 })

end RequestRing

@[reducible] def code (Req : Type) : QueueCode Req where
  Shared := RequestRing Req
  Push := TryPush
  Pop := TryPop
  Query := Query
  startPush := .loadPhead
  push := RequestRing.tryPush
  startPop := .loadAllocated
  pop := RequestRing.tryPop

def create (Req Resp : Type) (maxCallers ringDepth maxInflight : Nat) : QueueMpsc (code Req) Resp :=
  .create Resp (RequestRing.new Req ringDepth) maxCallers ringDepth maxInflight

/-! Positions: the entry `pos` of the block `phead` is the ticket `phead * blockSize + pos`. -/

theorem trailingZeros_two_pow {width shift : Nat} (inside : shift < width) :
    trailingZeros width (2 ^ shift) = shift := by
  induction shift generalizing width with
  | zero =>
    cases width with
    | zero => cases inside
    | succ width => rfl
  | succ shift ih =>
    cases width with
    | zero => cases inside
    | succ width =>
      have even : 2 ^ (shift + 1) % 2 = 0 := by
        rw [Nat.pow_succ, Nat.mul_mod_left]
      have half : 2 ^ (shift + 1) / 2 = 2 ^ shift := by
        rw [Nat.pow_succ, Nat.mul_div_cancel _ (by decide)]
      rw [trailingZeros, even, half, ih (by omega)]
      simp

theorem maskOffset_four (phead : Nat) : maskOffset phead 4 = phead % 4 :=
  maskOffset_eq_mod ⟨2, rfl⟩ phead

theorem block_le {first second : Nat} (order : first < second) (size : Nat) :
    first * size + size ≤ second * size := by
  rw [← Nat.succ_mul]
  exact Nat.mul_le_mul_right size order

theorem le_of_block {first second pos size : Nat} (inside : pos < size)
    (order : first * size ≤ second * size + pos) : first ≤ second := by
  by_contra later
  have := block_le (Nat.lt_of_not_le later) size
  omega

variable {Req : Type}

namespace RequestRing

theorem block_setBlock_self (ring : RequestRing Req) (phead : Nat) (block : BbqBlock) :
    (ring.setBlock phead block).block phead = block :=
  update_self ..

theorem block_setBlock_of_ne (ring : RequestRing Req) {phead other : Nat} (block : BbqBlock)
    (different : other ≠ phead) (near : other < phead + 4) (close : phead < other + 4) :
    (ring.setBlock phead block).block other = ring.block other := by
  apply update_of_ne
  rw [maskOffset_four, maskOffset_four]
  omega

theorem entryIdx_eq {ring : RequestRing Req} {shift : Nat} (places : ring.blockSizeShift = shift)
    {phead pos : Nat} (inside : pos < 2 ^ shift) :
    ring.entryIdx phead pos = (phead * 2 ^ shift + pos) % (4 * 2 ^ shift) := by
  unfold entryIdx
  rw [places, maskOffset_four, Nat.shiftLeft_eq]
  have whole : phead * 2 ^ shift + pos =
      phead % 4 * 2 ^ shift + pos + 4 * 2 ^ shift * (phead / 4) := by
    conv_lhs => rw [← Nat.div_add_mod phead 4]
    ring
  have small : phead % 4 * 2 ^ shift + pos < 4 * 2 ^ shift := by
    have := block_le (Nat.mod_lt phead (by decide : 0 < 4)) (2 ^ shift)
    omega
  rw [whole, Nat.add_mul_mod_self_left, Nat.mod_eq_of_lt small]

theorem entry_setEntry_self (ring : RequestRing Req) (phead pos : Nat) (entry : BbqEntry Req) :
    (ring.setEntry phead pos entry).entry phead pos = entry :=
  update_self ..

theorem entry_setEntry_of_ne {ring : RequestRing Req} {shift : Nat}
    (places : ring.blockSizeShift = shift) {phead pos other place base : Nat} (entry : BbqEntry Req)
    (inside : pos < 2 ^ shift) (within : place < 2 ^ shift)
    (different : other * 2 ^ shift + place ≠ phead * 2 ^ shift + pos)
    (low : base ≤ phead) (high : phead < base + 4) (otherLow : base ≤ other)
    (otherHigh : other < base + 4) :
    (ring.setEntry phead pos entry).entry other place = ring.entry other place := by
  have first := Nat.mul_le_mul_right (2 ^ shift) low
  have second := Nat.mul_le_mul_right (2 ^ shift) otherLow
  have third := block_le high (2 ^ shift)
  have fourth := block_le otherHigh (2 ^ shift)
  have four : (base + 4) * 2 ^ shift = base * 2 ^ shift + 4 * 2 ^ shift := Nat.add_mul ..
  apply update_of_ne
  change ring.entryIdx other place ≠ ring.entryIdx phead pos
  rw [entryIdx_eq places inside, entryIdx_eq places within]
  exact mod_ne_mod_of_near different (by omega) (by omega)

end RequestRing

end Bbq

end Locasta.Mempc
