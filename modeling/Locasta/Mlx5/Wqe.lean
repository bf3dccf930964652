import Locasta.Data.Ring

namespace Locasta.Mlx5

open Data

/-! Work queue entries, as the segments that are written into the buffer of a queue. Pointers
are offsets into that buffer. -/

def wqebbSize : Nat := 64

def ctrlSegSize : Nat := 16

def rdmaSegSize : Nat := 16

def dataSegSize : Nat := 16

def addressVectorSize : Nat := 48

def calcWqebbCnt (wqeSize : Nat) : Nat := (wqeSize + 63) / wqebbSize % 2 ^ 16

/-- The four-byte header and the data, padded to 16 bytes. -/
def inlinePaddedSize (dataLen : Nat) : Nat := (4 + dataLen + 15) / 16 * 16

inductive ErrorKind where
  | wouldBlock

structure IoError where
  kind : ErrorKind
  message : String

inductive WqeOpcode where
  | nop
  | rdmaWriteImm

def WqeOpcode.code : WqeOpcode → Nat
  | .nop => 0x00
  | .rdmaWriteImm => 0x09

abbrev WqeFlags := Nat

namespace WqeFlags

def completion : WqeFlags := 0x0008

def fmCeSe (flags : WqeFlags) : Nat := flags &&& 0xFF

def pcieCtrl (flags : WqeFlags) : Nat := (flags >>> 8) &&& 0xFF

end WqeFlags

structure CtrlSegParams where
  opmod : Nat
  opcode : WqeOpcode
  wqeIdx : Nat
  qpn : Nat
  dsCnt : Nat
  flags : WqeFlags
  imm : Nat

def CtrlSegParams.bytes (params : CtrlSegParams) : List UInt8 :=
  beBytes 4 ((params.opmod <<< 24) ||| (params.wqeIdx <<< 8) ||| params.opcode.code) ++
    beBytes 4 ((params.qpn <<< 8) ||| params.dsCnt) ++
    beBytes 4 ((params.flags.pcieCtrl <<< 24) ||| params.flags.fmCeSe) ++
    beBytes 4 params.imm

def writeCtrlSeg (buf : Memory) (ptr : Nat) (params : CtrlSegParams) : Memory :=
  buf.write ptr params.bytes

def writeRdmaSeg (buf : Memory) (ptr remoteAddr rkey : Nat) : Memory :=
  buf.write ptr (beBytes 8 remoteAddr ++ beBytes 4 rkey ++ beBytes 4 0)

def writeDataSeg (buf : Memory) (ptr byteCount lkey addr : Nat) : Memory :=
  buf.write ptr (beBytes 4 byteCount ++ beBytes 4 lkey ++ beBytes 8 addr)

def writeInlineHeader (buf : Memory) (ptr byteCount : Nat) : Memory :=
  buf.write ptr (beBytes 4 (0x80000000 ||| byteCount))

def copyInlineData (buf : Memory) (ptr : Nat) (data : List UInt8) : Memory := buf.write ptr data

def writeAddressVectorIb (buf : Memory) (ptr dcKey dctn dlid : Nat) : Memory :=
  buf.write ptr (beBytes 8 dcKey ++ beBytes 4 (0x80000000 ||| (dctn &&& 0x00FFFFFF)) ++ [0, 0] ++
    beBytes 2 dlid ++ List.replicate 32 0)

def recvWqeSize : Nat := 32

/-- A receive entry: the next segment, cleared, and one data segment. -/
def writeRecvWqe (buf : Memory) (wqePtr addr len lkey : Nat) : Memory :=
  writeDataSeg (buf.write wqePtr (List.replicate 16 0)) (wqePtr + 16) len lkey addr

def writeNopWqe (buf : Memory) (wqePtr wqeIdx sqn nopWqebbCnt : Nat) : Memory :=
  writeCtrlSeg buf wqePtr {
    opmod := 0, opcode := .nop, wqeIdx, qpn := sqn, dsCnt := nopWqebbCnt % 256 * 4 % 256,
    flags := 0, imm := 0 }

structure SgeParams where
  addr : Nat
  len : Nat
  lkey : Nat

structure RdmaParams where
  remoteAddr : Nat
  rkey : Nat

/-- The arguments of `write_imm` with inline data and an SGE. -/
structure WriteImmParams where
  flags : WqeFlags
  rdma : RdmaParams
  imm : Nat
  data : List UInt8
  sge : SgeParams

/-- The size of the entry, with or without the data segment of the SGE. -/
def WriteImmParams.wqeSize (params : WriteImmParams) (withSge : Bool) : Nat :=
  ctrlSegSize + rdmaSegSize + inlinePaddedSize params.data.length +
    if withSge then dataSegSize else 0

def WriteImmParams.ctrlSeg (params : WriteImmParams) (withSge : Bool) (flags : WqeFlags)
    (sqn wqeIdx : Nat) : CtrlSegParams where
  opmod := 0
  opcode := .rdmaWriteImm
  wqeIdx
  qpn := sqn
  dsCnt := params.wqeSize withSge / 16 % 256
  flags
  imm := params.imm

/-- One behind the other. The padding of the inline data keeps what the buffer held. -/
def WriteImmParams.fill (params : WriteImmParams) (withSge : Bool) (flags : WqeFlags) (sqn : Nat)
    (wqePtr wqeIdx : Nat) (buf : Memory) : Memory :=
  let buf := writeCtrlSeg buf wqePtr (params.ctrlSeg withSge flags sqn wqeIdx)
  let buf := writeRdmaSeg buf (wqePtr + ctrlSegSize) params.rdma.remoteAddr params.rdma.rkey
  let dataPtr := wqePtr + ctrlSegSize + rdmaSegSize
  let buf := writeInlineHeader buf dataPtr (params.data.length % 2 ^ 32)
  let buf := copyInlineData buf (dataPtr + 4) params.data
  if withSge then
    writeDataSeg buf (dataPtr + inlinePaddedSize params.data.length) params.sge.len params.sge.lkey
      params.sge.addr
  else buf

structure DcAvIb where
  dcKey : Nat
  dctn : Nat
  dlid : Nat

/-- The arguments of the DCI's `write_imm` with an SGE. -/
structure DciWriteImmParams where
  av : DcAvIb
  flags : WqeFlags
  rdma : RdmaParams
  sge : SgeParams
  imm : Nat

namespace DciWriteImmParams

def wqeSize : Nat := ctrlSegSize + addressVectorSize + rdmaSegSize + dataSegSize

def ctrlSeg (params : DciWriteImmParams) (flags : WqeFlags) (sqn wqeIdx : Nat) : CtrlSegParams where
  opmod := 0
  opcode := .rdmaWriteImm
  wqeIdx
  qpn := sqn
  dsCnt := wqeSize / 16 % 256
  flags
  imm := params.imm

def fill (params : DciWriteImmParams) (flags : WqeFlags) (sqn wqePtr wqeIdx : Nat) (buf : Memory) :
    Memory :=
  let buf := writeCtrlSeg buf wqePtr (params.ctrlSeg flags sqn wqeIdx)
  let buf := writeAddressVectorIb buf (wqePtr + ctrlSegSize) params.av.dcKey params.av.dctn
    params.av.dlid
  let buf := writeRdmaSeg buf (wqePtr + ctrlSegSize + addressVectorSize) params.rdma.remoteAddr
    params.rdma.rkey
  writeDataSeg buf (wqePtr + ctrlSegSize + addressVectorSize + rdmaSegSize) params.sge.len
    params.sge.lkey params.sge.addr

end DciWriteImmParams

/-- The opcode and the number of 16-byte segments in the control segment of an entry. -/
def opcodeOf (image : List UInt8) : Nat := (image.getD 3 0).toNat

def dsCntOf (image : List UInt8) : Nat := (image.getD 7 0).toNat

theorem CtrlSegParams.bytes_length (params : CtrlSegParams) :
    params.bytes.length = ctrlSegSize := by
  simp [bytes, ctrlSegSize]

theorem shifted_or_mod (high low : Nat) (small : low < 256) : (high <<< 8 ||| low) % 256 = low := by
  have shifted : high <<< 8 % 2 ^ 8 = 0 := by
    rw [Nat.shiftLeft_eq]
    exact Nat.mul_mod_left ..
  rw [show 256 = 2 ^ 8 from rfl, Nat.or_mod_two_pow, shifted, Nat.zero_or]
  exact Nat.mod_eq_of_lt small

variable {buf after : Memory} {wqePtr count : Nat} {params : CtrlSegParams}

theorem read_ctrlSeg (small : params.dsCnt < 256) (enough : ctrlSegSize ≤ count)
    (rest : Memory.SameOutside (wqePtr + ctrlSegSize) count (writeCtrlSeg buf wqePtr params) after) :
    opcodeOf (after.read wqePtr count) = params.opcode.code ∧
      dsCntOf (after.read wqePtr count) = params.dsCnt := by
  have byte (index : Nat) (inside : index < ctrlSegSize) :
      (after.read wqePtr count).getD index 0 = params.bytes.getD index 0 := by
    have short : index < params.bytes.length := by
      rw [params.bytes_length]
      exact inside
    rw [List.getD_eq_getElem?_getD, Memory.read_getElem? (by omega), Option.getD_some,
      rest _ (by omega), writeCtrlSeg, Memory.write_inside short, List.getD_eq_getElem?_getD,
      List.getElem?_eq_getElem short, Option.getD_some]
  have opcodeSmall : params.opcode.code < 256 := by cases params.opcode <;> decide
  constructor
  · rw [opcodeOf, byte 3 (by decide)]
    have last : params.bytes.getD 3 0 = UInt8.ofNat
        ((params.opmod <<< 24) ||| (params.wqeIdx <<< 8) ||| params.opcode.code) := rfl
    rw [last, UInt8.toNat_ofNat', show 2 ^ 8 = 256 from rfl]
    have joined : (params.opmod <<< 24) ||| (params.wqeIdx <<< 8) =
        ((params.opmod <<< 16) ||| params.wqeIdx) <<< 8 := by
      rw [Nat.shiftLeft_or_distrib, ← Nat.shiftLeft_add]
    rw [joined, shifted_or_mod _ _ opcodeSmall]
  · rw [dsCntOf, byte 7 (by decide)]
    have last : params.bytes.getD 7 0 = UInt8.ofNat ((params.qpn <<< 8) ||| params.dsCnt) := rfl
    rw [last, UInt8.toNat_ofNat', show 2 ^ 8 = 256 from rfl, shifted_or_mod _ _ small]

/-- `fill` writes an entry of `wqeSize` bytes, and no byte beside it. -/
structure Writes (opcode : WqeOpcode) (wqeSize : Nat)
    (fill : (wqePtr wqeIdx : Nat) → Memory → Memory) : Prop where
  confined : ∀ wqePtr wqeIdx buf, Memory.SameOutside wqePtr wqeSize buf (fill wqePtr wqeIdx buf)
  described : ∀ wqePtr wqeIdx buf count, wqeSize ≤ count →
    opcodeOf ((fill wqePtr wqeIdx buf).read wqePtr count) = opcode.code ∧
      dsCntOf ((fill wqePtr wqeIdx buf).read wqePtr count) = wqeSize / 16 % 256

theorem Writes.of_ctrlSeg {opcode : WqeOpcode} {wqeSize : Nat}
    {fill : (wqePtr wqeIdx : Nat) → Memory → Memory} (params : Nat → CtrlSegParams)
    (enough : ctrlSegSize ≤ wqeSize) (opcodes : ∀ wqeIdx, (params wqeIdx).opcode = opcode)
    (dsCnts : ∀ wqeIdx, (params wqeIdx).dsCnt = wqeSize / 16 % 256)
    (rest : ∀ wqePtr wqeIdx buf, Memory.SameOutside (wqePtr + ctrlSegSize) (wqeSize - ctrlSegSize)
      (writeCtrlSeg buf wqePtr (params wqeIdx)) (fill wqePtr wqeIdx buf)) :
    Writes opcode wqeSize fill where
  confined wqePtr wqeIdx buf := by
    have first : Memory.SameOutside wqePtr wqeSize buf (writeCtrlSeg buf wqePtr (params wqeIdx)) :=
      (Memory.SameOutside.refl _ _ _).write (Nat.le_refl _)
      (by rw [CtrlSegParams.bytes_length]; omega)
    exact first.trans ((rest wqePtr wqeIdx buf).mono (by omega) (by omega))
  described wqePtr wqeIdx buf count inside := by
    have small : (params wqeIdx).dsCnt < 256 := by
      rw [dsCnts]
      exact Nat.mod_lt _ (by decide)
    have behind : Memory.SameOutside (wqePtr + ctrlSegSize) count
        (writeCtrlSeg buf wqePtr (params wqeIdx)) (fill wqePtr wqeIdx buf) :=
      (rest wqePtr wqeIdx buf).mono (Nat.le_refl _) (by omega)
    have read := read_ctrlSeg small (by omega) behind
    rwa [opcodes, dsCnts] at read

theorem writes_nop {sqn nopWqebbCnt : Nat} (positive : 0 < nopWqebbCnt) :
    Writes .nop (nopWqebbCnt * wqebbSize) fun wqePtr wqeIdx buf =>
      writeNopWqe buf wqePtr wqeIdx sqn nopWqebbCnt := by
  refine .of_ctrlSeg (fun _ => _) ?_ (fun _ => rfl) (fun _ => ?_) fun _ _ _ _ _ => rfl
  · unfold ctrlSegSize wqebbSize
    omega
  · change nopWqebbCnt % 256 * 4 % 256 = nopWqebbCnt * wqebbSize / 16 % 256
    unfold wqebbSize
    omega

theorem inlinePaddedSize_ge (dataLen : Nat) : 4 + dataLen ≤ inlinePaddedSize dataLen := by
  unfold inlinePaddedSize
  omega

section Segments

variable {before after : Memory} {offset count : Nat}

section

variable (same : Memory.SameOutside offset count before after)
include same

theorem sameOutside_rdmaSeg
    (ptr remoteAddr rkey : Nat) (low : offset ≤ ptr) (high : ptr + rdmaSegSize ≤ offset + count) :
    Memory.SameOutside offset count before (writeRdmaSeg after ptr remoteAddr rkey) :=
  same.write low (by simpa [rdmaSegSize] using high)

theorem sameOutside_dataSeg (ptr byteCount lkey addr : Nat) (low : offset ≤ ptr)
    (high : ptr + dataSegSize ≤ offset + count) :
    Memory.SameOutside offset count before (writeDataSeg after ptr byteCount lkey addr) :=
  same.write low (by simpa [dataSegSize] using high)

theorem sameOutside_inlineHeader
    (ptr byteCount : Nat) (low : offset ≤ ptr) (high : ptr + 4 ≤ offset + count) :
    Memory.SameOutside offset count before (writeInlineHeader after ptr byteCount) :=
  same.write low (by simpa using high)

theorem sameOutside_inlineData (ptr : Nat) (data : List UInt8) (low : offset ≤ ptr)
    (high : ptr + data.length ≤ offset + count) :
    Memory.SameOutside offset count before (copyInlineData after ptr data) :=
  same.write low high

theorem sameOutside_addressVector (ptr dcKey dctn dlid : Nat) (low : offset ≤ ptr)
    (high : ptr + addressVectorSize ≤ offset + count) :
    Memory.SameOutside offset count before (writeAddressVectorIb after ptr dcKey dctn dlid) :=
  same.write low (by simpa [addressVectorSize] using high)

end

theorem sameOutside_recvWqe (buf : Memory) (wqePtr addr len lkey : Nat) :
    Memory.SameOutside wqePtr recvWqeSize buf (writeRecvWqe buf wqePtr addr len lkey) :=
  sameOutside_dataSeg (.write (.refl _ _ _) (Nat.le_refl _) (by simp [recvWqeSize]))
    _ _ _ _ (by omega) (by simp [recvWqeSize, dataSegSize])

end Segments

theorem WriteImmParams.writes (params : WriteImmParams) (withSge : Bool) (flags : WqeFlags)
    (sqn : Nat) : Writes .rdmaWriteImm (params.wqeSize withSge) (params.fill withSge flags sqn) := by
  refine .of_ctrlSeg (params.ctrlSeg withSge flags sqn) ?_ (fun _ => rfl) (fun _ => rfl)
    fun wqePtr wqeIdx buf => ?_
  · unfold wqeSize
    omega
  · have padded := inlinePaddedSize_ge params.data.length
    have size : params.wqeSize withSge = ctrlSegSize + rdmaSegSize +
        inlinePaddedSize params.data.length + if withSge then dataSegSize else 0 := rfl
    have rdma := sameOutside_rdmaSeg
      (.refl (wqePtr + ctrlSegSize) (params.wqeSize withSge - ctrlSegSize)
        (writeCtrlSeg buf wqePtr (params.ctrlSeg withSge flags sqn wqeIdx)))
      _ params.rdma.remoteAddr params.rdma.rkey (Nat.le_refl _) (by omega)
    have header := sameOutside_inlineHeader rdma (wqePtr + ctrlSegSize + rdmaSegSize)
      (params.data.length % 2 ^ 32) (by omega) (by omega)
    have inline := sameOutside_inlineData header (wqePtr + ctrlSegSize + rdmaSegSize + 4) params.data
      (by omega) (by omega)
    unfold fill
    cases withSge with
    | false => exact inline
    | true =>
      simp only [if_true] at size
      exact sameOutside_dataSeg inline _ _ _ _ (by omega) (by omega)

theorem DciWriteImmParams.writes (params : DciWriteImmParams) (flags : WqeFlags) (sqn : Nat) :
    Writes .rdmaWriteImm wqeSize (params.fill flags sqn) := by
  refine .of_ctrlSeg (params.ctrlSeg flags sqn) (by decide) (fun _ => rfl) (fun _ => rfl)
    fun wqePtr wqeIdx buf => ?_
  have size : wqeSize = ctrlSegSize + addressVectorSize + rdmaSegSize + dataSegSize := rfl
  refine sameOutside_dataSeg (sameOutside_rdmaSeg (sameOutside_addressVector (.refl _ _ _)
    _ _ _ _ ?_ ?_) _ _ _ ?_ ?_) _ _ _ _ ?_ ?_
  all_goals omega

end Locasta.Mlx5
