import Locasta.Data.Bytes

namespace Locasta.Mlx5

open Data

/-! Completion queue entries as `cq.rs` parses them. -/

inductive CqeOpcode where
  | req
  | respRdmaWriteImm
  | respSend
  | respSendImm
  | respSendInv
  | tmMatchContext
  | tmFinish
  | reqErr
  | respErr
deriving DecidableEq

def CqeOpcode.fromU8 : Nat → Option CqeOpcode
  | 0x00 => some .req
  | 0x01 => some .respRdmaWriteImm
  | 0x02 => some .respSend
  | 0x03 => some .respSendImm
  | 0x04 => some .respSendInv
  | 0x05 => some .tmMatchContext
  | 0x06 => some .tmFinish
  | 0x0d => some .reqErr
  | 0x0e => some .respErr
  | _ => none

def maxInlineScatterSize : Nat := 32

def inlineScatter32 : Nat := 0x04

def inlineScatter64 : Nat := 0x08

structure Cqe where
  opcode : CqeOpcode
  wqeCounter : Nat
  qpNum : Nat
  byteCnt : Nat
  imm : Nat
  syndrome : UInt8
  vendorErr : UInt8
  appInfo : Nat
  isInlineScatter : Bool
  inlineData : List UInt8
deriving DecidableEq

def readBe (buf : Memory) (ptr width : Nat) : Nat := ofBeBytes (buf.read ptr width)

def Cqe.fromPtr (buf : Memory) (ptr : Nat) : Cqe :=
  let opOwn := (buf (ptr + 63)).toNat
  let opcode := (CqeOpcode.fromU8 (opOwn >>> 4)).getD .reqErr
  let isInlineScatter := opOwn &&& (inlineScatter32 ||| inlineScatter64) != 0
  let byteCnt := readBe buf (ptr + 44) 4
  let failed := opcode = .reqErr ∨ opcode = .respErr
  let copyLen := if isInlineScatter then min byteCnt maxInlineScatterSize else 0
  { opcode
    wqeCounter := readBe buf (ptr + 60) 2
    qpNum := readBe buf (ptr + 56) 4 &&& 0x00FFFFFF
    byteCnt
    imm := readBe buf (ptr + 36) 4
    syndrome := if failed then buf (ptr + 55) else 0
    vendorErr := if failed then buf (ptr + 54) else 0
    appInfo := readBe buf (ptr + 50) 2
    isInlineScatter
    inlineData := buf.read ptr copyLen ++ List.replicate (maxInlineScatterSize - copyLen) 0 }

theorem Cqe.fromPtr_congr {first second : Memory} {ptr other : Nat}
    (same : ∀ index < 64, first (ptr + index) = second (other + index)) :
    fromPtr first ptr = fromPtr second other := by
  have word (offset width : Nat) (inside : offset + width ≤ 64) :
      first.read (ptr + offset) width = second.read (other + offset) width := by
    apply Memory.read_eq_read_iff.mpr
    intro index short
    rw [Nat.add_assoc, Nat.add_assoc]
    exact same _ (by omega)
  have start (width : Nat) (inside : width ≤ 64) : first.read ptr width = second.read other width :=
    word 0 width (by omega)
  simp only [fromPtr, readBe, same 63 (by decide), same 55 (by decide), same 54 (by decide),
    word 60 2 (by decide), word 56 4 (by decide), word 44 4 (by decide), word 36 4 (by decide),
    word 50 2 (by decide)]
  rw [start]
  split
  · exact (Nat.min_le_right ..).trans (by decide)
  · exact Nat.zero_le _

inductive MiniCqeFormat where
  | responder
  | requester
  | responderCsum
  | l3L4Hash

structure CompressedCqeHeader where
  count : Nat
  format : MiniCqeFormat
  baseWqeCounter : Nat
  qpNum : Nat
  opcode : CqeOpcode

def CompressedCqeHeader.fromPtr (buf : Memory) (ptr : Nat) (titleOpcode : CqeOpcode) :
    CompressedCqeHeader :=
  let miniCqeCnt := (buf (ptr + 62)).toNat
  { count := ((miniCqeCnt >>> 2) &&& 0x0f) + 1
    format := match (miniCqeCnt >>> 6) &&& 0x03 with
      | 0 => .responder
      | 1 => .requester
      | 2 => .responderCsum
      | _ => .l3L4Hash
    baseWqeCounter := readBe buf (ptr + 60) 2
    qpNum := readBe buf (ptr + 56) 4 &&& 0x00FFFFFF
    opcode := titleOpcode }

/-- The iterator keeps a pointer into the buffer of the queue. -/
structure MiniCqeIterator where
  header : CompressedCqeHeader
  current : Nat
  miniCqePtr : Nat

namespace MiniCqeIterator

def new (buf : Memory) (ptr : Nat) (titleOpcode : CqeOpcode) : MiniCqeIterator where
  header := .fromPtr buf ptr titleOpcode
  current := 0
  miniCqePtr := ptr

def hasMore (iter : MiniCqeIterator) : Bool := iter.current < iter.header.count

def fields (iter : MiniCqeIterator) (buf : Memory) : Nat × Nat :=
  let miniPtr := iter.miniCqePtr + iter.current * 8
  match iter.header.format with
  | .requester => (readBe buf miniPtr 4 >>> 16, readBe buf (miniPtr + 4) 4)
  | .responder | .responderCsum | .l3L4Hash =>
    ((iter.header.baseWqeCounter + iter.current) % 2 ^ 16, readBe buf miniPtr 4)

def nextMiniCqe (iter : MiniCqeIterator) (buf : Memory) : Option Cqe × MiniCqeIterator :=
  if iter.current ≥ iter.header.count then (none, iter)
  else
    let (wqeCounter, byteCnt) := iter.fields buf
    (some {
      opcode := iter.header.opcode, wqeCounter, qpNum := iter.header.qpNum, byteCnt, imm := 0,
      syndrome := 0, vendorErr := 0, appInfo := 0, isInlineScatter := false,
      inlineData := List.replicate maxInlineScatterSize 0 },
    { iter with current := iter.current + 1 })

end MiniCqeIterator

end Locasta.Mlx5
