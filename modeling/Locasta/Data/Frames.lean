import Locasta.Data.Bytes

namespace Locasta.Data

/-! Streams of padded frames in a byte memory.

A frame is a header of fixed size that records the payload's length, the payload, and padding whose
bytes nobody reads. Frames are laid out one after the other.
-/

/-- The layout of a frame. A length survives the round trip only modulo `lengthLimit`. -/
structure Framing (Header : Type) where
  headerSize : Nat
  lengthLimit : Nat
  encode : Header → Nat → List UInt8
  decode : List UInt8 → Header × Nat
  padded : Nat → Nat
  encode_length : ∀ header length, (encode header length).length = headerSize
  decode_encode : ∀ header length, decode (encode header length) = (header, length % lengthLimit)
  fits : ∀ length, headerSize + length ≤ padded length

structure Frame (Header : Type) where
  header : Header
  payload : List UInt8

namespace Framing

variable {Header : Type} (framing : Framing Header)

def readFrame (memory : Memory) (offset : Nat) : Frame Header :=
  let decoded := framing.decode (memory.read offset framing.headerSize)
  { header := decoded.1, payload := memory.read (offset + framing.headerSize) decoded.2 }

def frameSize (frame : Frame Header) : Nat := framing.padded frame.payload.length

def totalSize (frames : List (Frame Header)) : Nat := (frames.map framing.frameSize).sum

/-- The `count` frames that start at `offset`. -/
def readFrames (memory : Memory) : Nat → Nat → List (Frame Header)
  | _, 0 => []
  | offset, count + 1 =>
    let frame := framing.readFrame memory offset
    frame :: readFrames memory (offset + framing.frameSize frame) count

/-- Lay out a frame at `offset`; the padding keeps its old bytes. -/
def writeFrame (memory : Memory) (offset : Nat) (header : Header) (data : List UInt8) : Memory :=
  (memory.write offset (framing.encode header data.length)).write (offset + framing.headerSize) data

/-- The frame a reader finds where `data` was laid out. -/
def stored (header : Header) (data : List UInt8) : Frame Header :=
  { header, payload := data.take (data.length % framing.lengthLimit) }

variable {framing} {memory other : Memory} {offset start count : Nat}

@[simp] theorem totalSize_nil : framing.totalSize [] = 0 := rfl

@[simp] theorem totalSize_cons (frame : Frame Header) (rest : List (Frame Header)) :
    framing.totalSize (frame :: rest) = framing.frameSize frame + framing.totalSize rest := by
  simp [totalSize]

@[simp] theorem totalSize_append (first second : List (Frame Header)) :
    framing.totalSize (first ++ second) = framing.totalSize first + framing.totalSize second := by
  simp [totalSize]

theorem readFrames_length (memory : Memory) (offset count : Nat) :
    (framing.readFrames memory offset count).length = count := by
  induction count generalizing offset with
  | zero => rfl
  | succ count ih => simp [readFrames, ih]

theorem frameSize_ge (frame : Frame Header) :
    framing.headerSize + frame.payload.length ≤ framing.frameSize frame :=
  framing.fits _

theorem readFrame_congr (same : ∀ index < framing.frameSize (framing.readFrame memory offset),
      memory (offset + index) = other (start + index)) :
    framing.readFrame other start = framing.readFrame memory offset := by
  have size := framing.frameSize_ge (framing.readFrame memory offset)
  have header : other.read start framing.headerSize = memory.read offset framing.headerSize :=
    Memory.read_eq_read_iff.mpr fun index inside => (same index (by omega)).symm
  simp only [readFrame, Memory.read_length] at size same ⊢
  rw [header]
  congr 1
  apply Memory.read_eq_read_iff.mpr
  intro index inside
  have byte := same (framing.headerSize + index) (by omega)
  simpa only [Nat.add_assoc] using byte.symm

theorem readFrames_congr
    (same : ∀ index < framing.totalSize (framing.readFrames memory offset count),
      memory (offset + index) = other (start + index)) :
    framing.readFrames other start count = framing.readFrames memory offset count := by
  induction count generalizing offset start with
  | zero => rfl
  | succ count ih =>
    simp only [readFrames, totalSize_cons] at same
    have first : framing.readFrame other start = framing.readFrame memory offset :=
      readFrame_congr fun index inside => same index (by omega)
    simp only [readFrames, first, List.cons.injEq, true_and]
    apply ih
    intro index inside
    have byte := same (framing.frameSize (framing.readFrame memory offset) + index) (by omega)
    simpa only [Nat.add_assoc] using byte

theorem readFrames_write_before {bytes : List UInt8} (before : start + bytes.length ≤ offset) :
    framing.readFrames (memory.write start bytes) offset count =
      framing.readFrames memory offset count :=
  readFrames_congr fun _ _ => (Memory.write_outside (by omega)).symm

theorem readFrames_succ (memory : Memory) (offset count : Nat) :
    framing.readFrames memory offset (count + 1) = framing.readFrames memory offset count ++
        [framing.readFrame memory
          (offset + framing.totalSize (framing.readFrames memory offset count))] := by
  induction count generalizing offset with
  | zero => simp [readFrames]
  | succ count ih =>
    have tail := ih (offset + framing.frameSize (framing.readFrame memory offset))
    rw [readFrames, tail, readFrames]
    simp only [totalSize_cons, List.cons_append, Nat.add_assoc]

theorem readFrame_writeFrame (memory : Memory) (offset : Nat) (header : Header)
    (data : List UInt8) :
    framing.readFrame (framing.writeFrame memory offset header data) offset =
      framing.stored header data := by
  have width := framing.encode_length header data.length
  have headerBytes : (framing.writeFrame memory offset header data).read offset framing.headerSize =
      framing.encode header data.length := by
    rw [writeFrame, Memory.read_write_disjoint (by omega)]
    conv_lhs => rw [← width]
    exact Memory.read_write_same ..
  have payload : (framing.writeFrame memory offset header data).read
      (offset + framing.headerSize) data.length = data := Memory.read_write_same ..
  simp only [readFrame, headerBytes, framing.decode_encode, stored, Frame.mk.injEq, true_and]
  rw [← Memory.read_take (Nat.mod_le data.length framing.lengthLimit), payload]

theorem readFrames_writeFrame (header : Header) (data : List UInt8)
    (behind : start = offset + framing.totalSize (framing.readFrames memory offset count)) :
    framing.readFrames (framing.writeFrame memory start header data) offset (count + 1) =
      framing.readFrames memory offset count ++ [framing.stored header data] := by
  have kept : framing.readFrames (framing.writeFrame memory start header data) offset count =
      framing.readFrames memory offset count := by
    apply readFrames_congr
    intro index inside
    rw [writeFrame, Memory.write_outside (by omega), Memory.write_outside (by omega)]
  rw [readFrames_succ, kept, ← behind, readFrame_writeFrame]

end Framing

end Locasta.Data
