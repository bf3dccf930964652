import Locasta.Copyrpc.Delivery
import Locasta.Data.Channel
import Mathlib.Data.List.Infix

namespace Locasta.Copyrpc

open Data Framing

/-! The sending half of an endpoint, as both transports run it.

A batch opens with a block of 32 bytes at `metaPos`, and its messages follow up to
the producer. One WRITE carries it to the peer, and the next batch starts where
it ends.
-/

/-- The bytes of a WRITE, and the block and the messages laid out in its range. -/
structure Parcel (Header : Type) extends Segment where
  block : List UInt8
  messages : List (Frame Header)

structure Outlet (Write : Type) where
  ring : Memory
  size : Nat
  flushStart : Nat
  metaPos : Nat
  producer : Nat
  count : Nat
  posted : List Write

variable {Header Request Write : Type} {wire : Wire Header Request} {limit size : Nat}
  {parcel : Parcel Header}

/-- A parcel as it is cut from a send ring, complete up to `limit` bytes. -/
structure Parcel.Sound (wire : Wire Header Request) (limit : Nat) (parcel : Parcel Header) :
    Prop where
  aligned : alignment ∣ parcel.start
  ends : alignment ∣ parcel.stop
  width : parcel.block.length = flowMetadataSize
  covers : flowMetadataSize + wire.framing.totalSize parcel.messages ≤ parcel.stop - parcel.start
  bounded : parcel.payload.length < 2 ^ 33
  short : parcel.stop - parcel.start ≤ limit → parcel.payload.length = parcel.stop - parcel.start
  block : parcel.payload.length = parcel.stop - parcel.start →
    parcel.payload.take flowMetadataSize = parcel.block
  parsed : parcel.payload.length = parcel.stop - parcel.start →
    wire.framing.readFrames (Memory.ofList parcel.payload) flowMetadataSize
      parcel.messages.length = parcel.messages

namespace Parcel.Sound

variable {memory : Memory}

variable (sound : parcel.Sound wire limit)
include sound

theorem whole (word : size ≤ limit)
    (inside : parcel.start % size + (parcel.stop - parcel.start) ≤ size) : parcel.Whole size :=
  ⟨sound.short (by omega), inside⟩

theorem block_recvRing (intact : parcel.Intact size memory) :
    memory.read (parcel.start % size) flowMetadataSize = parcel.block := by
  obtain ⟨⟨complete, _⟩, bytes⟩ := intact
  have long : flowMetadataSize ≤ parcel.payload.length := by
    have covers := sound.covers
    omega
  rw [← sound.block complete, ← Memory.read_take long, bytes]

theorem messages_length_lt (intact : parcel.Intact size memory) :
    parcel.messages.length < wrapMessageCount := by
  have bounded := sound.bounded
  have complete := intact.1.1
  have covers := sound.covers
  have count := wire.alignment_mul_length_le parcel.messages
  unfold alignment at count
  unfold wrapMessageCount
  omega

theorem frames_at {pos : Nat} (intact : parcel.Intact size memory) (positive : 0 < size)
    (position : pos % size = parcel.start % size) :
    wire.framing.readFrames memory ((pos + flowMetadataSize) % size) parcel.messages.length =
        parcel.messages ∧
      (pos + flowMetadataSize) % size + wire.framing.totalSize parcel.messages ≤ size := by
  obtain ⟨⟨complete, inside⟩, bytes⟩ := intact
  have covers := sound.covers
  have parsed := sound.parsed complete
  cases messages : parcel.messages with
  | nil =>
    rw [totalSize_nil]
    exact ⟨rfl, Nat.le_of_lt (Nat.mod_lt _ positive)⟩
  | cons first rest =>
    rw [messages] at covers parsed
    have some : 0 < wire.framing.frameSize first := frameSize_pos first
    rw [totalSize_cons] at covers ⊢
    rw [mod_add_of_lt (by omega), position]
    refine ⟨?_, by omega⟩
    conv_rhs => rw [← parsed]
    apply readFrames_congr
    rw [parsed, totalSize_cons]
    intro index within
    rw [← bytes, Memory.ofList_read (by omega), Nat.add_assoc]

end Parcel.Sound

namespace Outlet

variable {parcelOf : Write → Parcel Header} {Valid : Write → Prop} {stream : List (Frame Header)}
  {outlet : Outlet Write}

def openMessages (wire : Wire Header Request) (outlet : Outlet Write) : List (Frame Header) :=
  wire.framing.readFrames outlet.ring
    (maskOffset outlet.metaPos outlet.size + flowMetadataSize) outlet.count

def segments (parcelOf : Write → Parcel Header) (outlet : Outlet Write) : List Segment :=
  outlet.posted.map fun write => (parcelOf write).toSegment

/-- The messages laid out so far, those of the open batch last. -/
def laidOut (wire : Wire Header Request) (parcelOf : Write → Parcel Header)
    (outlet : Outlet Write) : List (Frame Header) :=
  outlet.posted.flatMap (fun write => (parcelOf write).messages) ++ outlet.openMessages wire

def carried (parcelOf : Write → Parcel Header) (outlet : Outlet Write) (count : Nat) :
    List (Frame Header) :=
  (outlet.posted.take count).flatMap fun write => (parcelOf write).messages

/-- The batch with `count` more bytes would reach the end of the cycle. -/
def Crowded (count : Nat) (outlet : Outlet Write) : Prop :=
  outlet.size ≤ maskOffset outlet.metaPos outlet.size + ((outlet.producer - outlet.metaPos) + count)

instance (count : Nat) (outlet : Outlet Write) : Decidable (outlet.Crowded count) :=
  inferInstanceAs (Decidable (_ ≤ _))

/-- The open batch keeps clear of the end of the cycle, or has just been started there. -/
def Placed (count : Nat) (outlet : Outlet Write) : Prop :=
  ¬ outlet.Crowded count ∨ (outlet.count = 0 ∧ outlet.metaPos % outlet.size = 0 ∧
      outlet.producer = outlet.metaPos + flowMetadataSize)

/-- The outlet with `block` stored at the head of the open batch. -/
def fill (outlet : Outlet Write) (block : List UInt8) : Outlet Write :=
  { outlet with ring := outlet.ring.write (maskOffset outlet.metaPos outlet.size) block }

/-- The outlet behind a posted WRITE that ends at `stop`. -/
def next (outlet : Outlet Write) (ring : Memory) (write : Write) (stop : Nat) : Outlet Write :=
  { outlet with
    ring
    flushStart := stop
    metaPos := stop
    producer := stop + flowMetadataSize
    count := 0
    posted := outlet.posted ++ [write] }

/-- What the sending half keeps, whatever the send queue refuses. After a refused wrap the producer
waits at the end of the cycle. -/
structure Sending (wire : Wire Header Request) (parcelOf : Write → Parcel Header)
    (Valid : Write → Prop) (stream : List (Frame Header)) (outlet : Outlet Write) : Prop where
  power : outlet.size.isPowerOfTwo
  roomy : 2 * flowMetadataSize ≤ outlet.size
  start : outlet.flushStart = outlet.metaPos
  reserved : outlet.metaPos < outlet.producer
  aligned : alignment ∣ outlet.metaPos
  layout : outlet.producer = outlet.metaPos + flowMetadataSize +
        wire.framing.totalSize (outlet.openMessages wire) ∨
      (outlet.count = 0 ∧ outlet.producer = cycleEnd outlet.metaPos outlet.size)
  valid : ∀ write ∈ outlet.posted, Valid write
  contiguous : Contiguous (outlet.segments parcelOf)
  frontier : frontier (outlet.segments parcelOf) = outlet.flushStart
  laidOut : outlet.laidOut wire parcelOf = stream

theorem openMessages_length (outlet : Outlet Write) :
    (outlet.openMessages wire).length = outlet.count :=
  readFrames_length ..

theorem openMessages_of_empty (empty : outlet.count = 0) : outlet.openMessages wire = [] := by
  rw [openMessages, empty]
  rfl

theorem openMessages_fill {block : List UInt8} (width : block.length = flowMetadataSize) :
    (outlet.fill block).openMessages wire = outlet.openMessages wire :=
  readFrames_write_before (by rw [width]; exact Nat.le_refl _)

namespace Sending

theorem new {ring : Memory} (power : size.isPowerOfTwo) (roomy : 2 * flowMetadataSize ≤ size) :
    Sending wire parcelOf Valid [] ⟨ring, size, 0, 0, flowMetadataSize, 0, []⟩ where
  power
  roomy
  start := rfl
  reserved := Nat.zero_lt_succ _
  aligned := Nat.dvd_zero _
  layout := .inl rfl
  valid := by simp
  contiguous := .nil
  frontier := rfl
  laidOut := rfl

variable (sending : Sending wire parcelOf Valid stream outlet)
include sending

theorem positive : 0 < outlet.size := Nat.pos_of_isPowerOfTwo sending.power

theorem ringDvd : alignment ∣ outlet.size := by
  have roomy := sending.roomy
  refine dvd_of_isPowerOfTwo_le ⟨5, rfl⟩ sending.power ?_
  unfold flowMetadataSize at roomy
  unfold alignment
  omega

theorem producer (nonempty : 0 < outlet.count) :
    outlet.producer = outlet.metaPos + flowMetadataSize +
      wire.framing.totalSize (outlet.openMessages wire) := by
  rcases sending.layout with whole | ⟨empty, _⟩
  · exact whole
  · omega

theorem producer_dvd (whole : outlet.producer = outlet.metaPos + flowMetadataSize +
      wire.framing.totalSize (outlet.openMessages wire)) : alignment ∣ outlet.producer := by
  rw [whole]
  exact Nat.dvd_add (Nat.dvd_add sending.aligned (Nat.dvd_refl _)) (wire.totalSize_dvd _)

theorem add_block_le_cycleEnd :
    outlet.metaPos + flowMetadataSize ≤ cycleEnd outlet.metaPos outlet.size :=
  add_unit_le_cycleEnd sending.positive sending.aligned sending.ringDvd

theorem sound
    (start : parcel.start = outlet.metaPos) (messages : parcel.messages = outlet.openMessages wire)
    (covers : outlet.metaPos + flowMetadataSize +
      wire.framing.totalSize (outlet.openMessages wire) ≤ parcel.stop)
    (ends : alignment ∣ parcel.stop) (width : parcel.block.length = flowMetadataSize)
    (bounded : parcel.payload.length < 2 ^ 33)
    (short : parcel.stop - parcel.start ≤ limit →
      parcel.payload.length = parcel.stop - parcel.start)
    (cut : parcel.payload.length = parcel.stop - parcel.start → parcel.payload =
      (outlet.fill parcel.block).ring.read (maskOffset outlet.metaPos outlet.size)
        (parcel.stop - parcel.start)) :
    parcel.Sound wire limit where
  aligned := start ▸ sending.aligned
  ends
  width
  covers := by
    rw [messages, start]
    omega
  bounded
  short
  block := by
    intro complete
    rw [cut complete, Memory.read_take (by omega)]
    have stored := Memory.read_write_same outlet.ring (maskOffset outlet.metaPos outlet.size)
      parcel.block
    rwa [width] at stored
  parsed := by
    intro complete
    have filled : (outlet.fill parcel.block).openMessages wire = outlet.openMessages wire :=
      openMessages_fill width
    rw [messages, openMessages_length]
    conv_rhs => rw [← filled]
    apply readFrames_congr
    change ∀ index < wire.framing.totalSize ((outlet.fill parcel.block).openMessages wire), _
    rw [filled]
    intro index inside
    rw [cut complete, Memory.ofList_read (by omega), Nat.add_assoc]
    rfl

theorem refill {block : List UInt8} (width : block.length = flowMetadataSize) :
    Sending wire parcelOf Valid stream (outlet.fill block) := by
  have messages : (outlet.fill block).openMessages wire = outlet.openMessages wire :=
    openMessages_fill width
  exact { sending with
    layout := by rw [messages]; exact sending.layout
    laidOut := by rw [Outlet.laidOut, messages]; exact sending.laidOut }

theorem stall (empty : outlet.count = 0) (ring : Memory) : Sending wire parcelOf Valid stream
      { outlet with ring, producer := cycleEnd outlet.metaPos outlet.size } :=
  { sending with
    reserved := lt_cycleEnd sending.positive _
    layout := .inr ⟨empty, rfl⟩
    laidOut := by
      have before := sending.laidOut
      rw [Outlet.laidOut, openMessages_of_empty empty] at before
      rw [Outlet.laidOut, openMessages_of_empty (by exact empty)]
      exact before }

theorem post (ring : Memory) {write : Write}
    (valid : Valid write) (sound : (parcelOf write).Sound wire limit)
    (start : (parcelOf write).start = outlet.metaPos)
    (messages : (parcelOf write).messages = outlet.openMessages wire) :
    Sending wire parcelOf Valid stream (outlet.next ring write (parcelOf write).stop) := by
  have segments : (outlet.next ring write (parcelOf write).stop).segments parcelOf =
      outlet.segments parcelOf ++ [(parcelOf write).toSegment] := by
    simp [Outlet.segments, next]
  have forward : (parcelOf write).start ≤ (parcelOf write).stop := by
    have covers := sound.covers
    unfold flowMetadataSize at covers
    omega
  exact { sending with
    start := rfl
    reserved := Nat.lt_add_of_pos_right (by decide)
    aligned := sound.ends
    layout := .inl rfl
    valid := List.forall_mem_append.mpr ⟨sending.valid, List.forall_mem_singleton.mpr valid⟩
    contiguous := by
      rw [segments]
      refine sending.contiguous.append ?_ forward
      rw [sending.frontier, sending.start]
      exact start
    frontier := by
      rw [segments, frontier_append]
      rfl
    laidOut := by
      have fresh : (outlet.next ring write (parcelOf write).stop).openMessages wire = [] :=
        openMessages_of_empty rfl
      rw [Outlet.laidOut, fresh, List.append_nil]
      change (outlet.posted ++ [write]).flatMap _ = _
      rw [List.flatMap_append, List.flatMap_singleton, messages]
      exact sending.laidOut }

/-- A message at the producer is the next frame of the batch. -/
theorem append_offset {count : Nat} (placed : outlet.Placed count) :
    outlet.producer = outlet.metaPos + flowMetadataSize +
        wire.framing.totalSize (outlet.openMessages wire) ∧
      maskOffset outlet.producer outlet.size =
        maskOffset outlet.metaPos outlet.size + flowMetadataSize +
          wire.framing.totalSize (outlet.openMessages wire) := by
  have power := sending.power
  have positive := sending.positive
  have reserved := sending.reserved
  rw [maskOffset_eq_mod power, maskOffset_eq_mod power]
  rcases placed with fits | ⟨empty, start, producer⟩
  · have inside : outlet.metaPos % outlet.size + ((outlet.producer - outlet.metaPos) + count) <
        outlet.size := by
      simpa [Crowded, maskOffset_eq_mod power] using fits
    have layout : outlet.producer = outlet.metaPos + flowMetadataSize +
        wire.framing.totalSize (outlet.openMessages wire) := by
      rcases sending.layout with whole | ⟨_, boundary⟩
      · exact whole
      · have order := Nat.mod_lt outlet.metaPos positive
        unfold cycleEnd at boundary
        omega
    refine ⟨layout, ?_⟩
    have advance := mod_add_of_lt (show outlet.metaPos % outlet.size +
      (outlet.producer - outlet.metaPos) < outlet.size by omega)
    rw [Nat.add_sub_cancel' (Nat.le_of_lt reserved)] at advance
    omega
  · have small : flowMetadataSize < outlet.size := by
      have roomy := sending.roomy
      unfold flowMetadataSize at *
      omega
    have advance := mod_add_of_lt (show outlet.metaPos % outlet.size + flowMetadataSize <
      outlet.size by omega)
    rw [openMessages_of_empty empty, totalSize_nil, producer]
    exact ⟨rfl, advance⟩

theorem append (header : Header) {data : List UInt8} {count : Nat} (placed : outlet.Placed count)
    (stored : wire.framing.frameSize (wire.framing.stored header data) = count) :
    Sending wire parcelOf Valid (stream ++ [wire.framing.stored header data])
      { outlet with
        ring := wire.framing.writeFrame outlet.ring (maskOffset outlet.producer outlet.size)
          header data
        producer := outlet.producer + count
        count := outlet.count + 1 } := by
  obtain ⟨layout, offset⟩ := sending.append_offset placed
  have messages : Outlet.openMessages wire
      { outlet with
        ring := wire.framing.writeFrame outlet.ring (maskOffset outlet.producer outlet.size)
          header data
        producer := outlet.producer + count
        count := outlet.count + 1 } =
      outlet.openMessages wire ++ [wire.framing.stored header data] :=
    readFrames_writeFrame header data offset
  exact { sending with
    reserved := Nat.lt_add_right _ sending.reserved
    layout := by
      left
      rw [messages, totalSize_append, totalSize_cons, totalSize_nil, stored]
      change outlet.producer + count = outlet.metaPos + _ + _
      omega
    laidOut := by
      rw [Outlet.laidOut, messages, ← List.append_assoc]
      change outlet.laidOut wire parcelOf ++ _ = _
      rw [sending.laidOut] }

theorem next_messages {count : Nat} {write : Write} (next : outlet.posted[count]? = some write) :
    (stream.drop (outlet.carried parcelOf count).length).take (parcelOf write).messages.length =
      (parcelOf write).messages := by
  have split : outlet.posted =
      outlet.posted.take count ++ write :: outlet.posted.drop (count + 1) := by
    obtain ⟨bound, rfl⟩ := List.getElem?_eq_some_iff.mp next
    rw [← List.drop_eq_getElem_cons bound, List.take_append_drop]
  have parts : stream = outlet.carried parcelOf count ++ ((parcelOf write).messages ++
      ((outlet.posted.drop (count + 1)).flatMap (fun write => (parcelOf write).messages) ++
        outlet.openMessages wire)) := by
    rw [← sending.laidOut, Outlet.laidOut]
    conv_lhs => rw [split, List.flatMap_append, List.flatMap_cons]
    simp only [carried, List.append_assoc]
  rw [parts, List.drop_left, List.take_left]

theorem carried_length (count : Nat) : (outlet.carried parcelOf count).length ≤ stream.length ∧
      (outlet.count = 0 → count = outlet.posted.length →
        (outlet.carried parcelOf count).length = stream.length) := by
  have parts := congrArg List.length sending.laidOut
  rw [Outlet.laidOut, List.length_append] at parts
  constructor
  · have early := List.IsPrefix.flatMap (List.take_prefix count outlet.posted)
      fun write => (parcelOf write).messages
    rw [← parts]
    exact early.length_le.trans (Nat.le_add_right ..)
  · intro empty all
    rw [openMessages_of_empty empty, List.length_nil, Nat.add_zero] at parts
    rw [carried, all, List.take_length, parts]

end Sending

end Outlet

end Locasta.Copyrpc
