import Locasta.Data.Bytes

namespace Locasta.Scalerpc.MessageBlock

open Data Memory

/-! Requests in message blocks.

Header and payload stand at the start of a block and the trailer at its end. Neither of the two
writers looks at the length of the payload.
-/

def messageBlockSize : Nat := 4080

structure RequestHeader where
  magic : UInt32
  reqId : UInt64
  rpcType : UInt16
  payloadLen : UInt16
  clientSlotAddr : UInt64
  clientSlotRkey : UInt32
  senderConnId : UInt32
  slotSeq : UInt64

namespace RequestHeader

def size : Nat := 40

/-- `new` and `new_with_seq` as their callers use them, with `payload.len() as u16`. -/
def forPayload (header : RequestHeader) (payload : List UInt8) : RequestHeader :=
  { header with magic := 0xDEADBEEF, payloadLen := .ofNat payload.length }

def encode (header : RequestHeader) : List UInt8 :=
  leBytes 4 header.magic.toNat ++ leBytes 8 header.reqId.toNat ++ leBytes 2 header.rpcType.toNat ++
    leBytes 2 header.payloadLen.toNat ++ leBytes 8 header.clientSlotAddr.toNat ++
    leBytes 4 header.clientSlotRkey.toNat ++ leBytes 4 header.senderConnId.toNat ++
    leBytes 8 header.slotSeq.toNat

def decode (bytes : List UInt8) : RequestHeader :=
  let field offset width := ofLeBytes ((bytes.drop offset).take width)
  { magic := .ofNat (field 0 4), reqId := .ofNat (field 4 8), rpcType := .ofNat (field 12 2),
    payloadLen := .ofNat (field 14 2), clientSlotAddr := .ofNat (field 16 8),
    clientSlotRkey := .ofNat (field 24 4), senderConnId := .ofNat (field 28 4),
    slotSeq := .ofNat (field 32 8) }

theorem encode_length (header : RequestHeader) : header.encode.length = size := by
  simp [encode, size]

theorem decode_encode (header : RequestHeader) : decode header.encode = header := by
  have past {width offset : Nat} (value : Nat) (far : width ≤ offset) :
      (leBytes width value).drop offset = [] :=
    List.drop_eq_nil_of_le (by simpa using far)
  have whole (width value : Nat) : (leBytes width value).take width = leBytes width value :=
    List.take_of_length_le (by simp)
  simp [decode, encode, List.drop_append, ofLeBytes_leBytes, past, whole]

end RequestHeader

/-- `MessageTrailer::write_to` with `MESSAGE_VALID`. -/
def writeTrailer (memory : Memory) (dst msgLen : Nat) : Memory :=
  (memory.write (dst + 4072) (leBytes 4 msgLen)).write (dst + 4076) (leBytes 4 1)

/-- What both `write_request` and `call_direct` store at the slot they have chosen. -/
def writeMessage (memory : Memory) (slotPtr : Nat) (header : RequestHeader)
    (payload : List UInt8) : Memory :=
  writeTrailer ((memory.write slotPtr header.encode).write (slotPtr + RequestHeader.size) payload)
    slotPtr (RequestHeader.size + payload.length)

structure WarmupBuffer where
  buffer : Nat
  size : Nat
  requestCount : Nat

/-- The slot index with the buffer and the memory after it, or `none` for `NoFreeSlots`. -/
def WarmupBuffer.writeRequest (warmup : WarmupBuffer) (memory : Memory) (header : RequestHeader)
    (payload : List UInt8) : Option (Nat × WarmupBuffer × Memory) :=
  if warmup.requestCount ≥ warmup.size / messageBlockSize then none
  else
    let slotIndex := warmup.requestCount
    let slotPtr := warmup.buffer + slotIndex * messageBlockSize
    some (slotIndex, { warmup with requestCount := slotIndex + 1 },
      writeMessage memory slotPtr header payload)

structure IncomingRequest where
  reqId : UInt64
  rpcType : UInt16
  payloadPtr : Nat
  payloadLen : Nat
  clientSlotAddr : UInt64
  clientSlotRkey : UInt32
  connId : Nat
  slotIndex : Nat
  slotSeq : UInt64

/-- `slots` are the data addresses of the processing pool. -/
def checkSlotForRequest (slots : List Nat) (memory : Memory) (slotIndex : Nat) :
    Option IncomingRequest × Memory :=
  match slots[slotIndex]? with
  | none => (none, memory)
  | some slotPtr =>
    let valid := ofLeBytes (memory.read (slotPtr + 4076) 4)
    let msgLen := ofLeBytes (memory.read (slotPtr + 4072) 4)
    if valid = 0 ∨ msgLen = 0 then (none, memory)
    else
      let header := RequestHeader.decode (memory.read slotPtr RequestHeader.size)
      (some {
        reqId := header.reqId, rpcType := header.rpcType
        payloadPtr := slotPtr + RequestHeader.size, payloadLen := header.payloadLen.toNat
        clientSlotAddr := header.clientSlotAddr, clientSlotRkey := header.clientSlotRkey
        connId := header.senderConnId.toNat, slotIndex, slotSeq := header.slotSeq },
       memory.write (slotPtr + 4076) (leBytes 4 0))

/-- Only the block at `slotPtr` has changed, and a server takes the request from a copy of it. -/
def Received (before after : Memory) (slotPtr : Nat) (header : RequestHeader)
    (payload : List UInt8) : Prop :=
  SameOutside slotPtr messageBlockSize before after ∧
    ∀ (slots : List Nat) (server : Memory) (slotIndex remote : Nat),
      slots[slotIndex]? = some remote →
      server.read remote messageBlockSize = after.read slotPtr messageBlockSize →
      ∃ request server', checkSlotForRequest slots server slotIndex = (some request, server') ∧
        request.reqId = header.reqId ∧ request.rpcType = header.rpcType ∧
        request.slotSeq = header.slotSeq ∧ request.connId = header.senderConnId.toNat ∧
        server'.read request.payloadPtr request.payloadLen = payload

/-- The trailer once the server has cleared its valid flag, for a payload of `length` bytes. -/
def trailerRead (length : Nat) : List UInt8 := leBytes 4 (40 + length) ++ leBytes 4 0

/-- The payload ends before the trailer, or has the bytes of the trailer where it meets it. -/
def Fits (payload : List UInt8) : Prop :=
  payload.length ≤ 4040 ∧
    payload.drop 4032 = (trailerRead payload.length).take (payload.length - 4032)

theorem Fits.of_length_le {payload : List UInt8} (short : payload.length ≤ 4032) :
    Fits payload := by
  constructor
  · omega
  · rw [List.drop_eq_nil_of_le short, Nat.sub_eq_zero_of_le short, List.take_zero]

theorem Fits.all_iff (length : Nat) :
    (∀ bytes : List UInt8, bytes.length = length → Fits bytes) ↔ length ≤ 4032 := by
  constructor
  · intro all
    by_contra long
    have reached := (all (List.replicate length (UInt8.ofNat (40 + length) + 1)) (by simp)).2
    have first := congrArg (·[0]?) reached
    simp [trailerRead, leBytes, show 0 < length - 4032 by omega] at first
  · rintro short bytes rfl
    exact .of_length_le short

section

variable (memory : Memory) (slotPtr : Nat) (header : RequestHeader) {payload : List UInt8}

theorem writeMessage_header :
    (writeMessage memory slotPtr header payload).read slotPtr 40 = header.encode := by
  have headerLength : header.encode.length = 40 := header.encode_length
  unfold writeMessage writeTrailer RequestHeader.size
  rw [read_write_disjoint (by omega), read_write_disjoint (by omega),
    read_write_disjoint (by omega), ← headerLength, read_write_same]

theorem writeMessage_trailer :
    (writeMessage memory slotPtr header payload).read (slotPtr + 4072) 4 =
        leBytes 4 (40 + payload.length) ∧
      (writeMessage memory slotPtr header payload).read (slotPtr + 4076) 4 = leBytes 4 1 := by
  unfold writeMessage writeTrailer
  constructor
  · rw [read_write_disjoint (by omega)]
    exact read_write_same _ _ (leBytes 4 _)
  · exact read_write_same _ _ (leBytes 4 1)

variable {slots : List Nat} {server : Memory} {slotIndex remote : Nat}

theorem checkSlotForRequest_written (bounded : payload.length < 65536)
    (slot : slots[slotIndex]? = some remote)
    (copied : server.read remote messageBlockSize =
      (writeMessage memory slotPtr (header.forPayload payload) payload).read slotPtr
        messageBlockSize) :
    checkSlotForRequest slots server slotIndex =
      (some {
        reqId := header.reqId, rpcType := header.rpcType
        payloadPtr := remote + 40, payloadLen := payload.length
        clientSlotAddr := header.clientSlotAddr, clientSlotRkey := header.clientSlotRkey
        connId := header.senderConnId.toNat, slotIndex, slotSeq := header.slotSeq },
       server.write (remote + 4076) (leBytes 4 0)) := by
  have part {offset count : Nat} (inside : offset + count ≤ messageBlockSize) :=
    read_part copied inside
  have headerRead : RequestHeader.decode (server.read remote RequestHeader.size) =
      header.forPayload payload := by
    have same : server.read remote 40 = _ := @part 0 40 (by decide)
    rw [RequestHeader.size, same, Nat.add_zero, writeMessage_header, RequestHeader.decode_encode]
  obtain ⟨msgLen, valid⟩ := writeMessage_trailer memory slotPtr (header.forPayload payload)
  have marked : ¬ (ofLeBytes (server.read (remote + 4076) 4) = 0 ∨
      ofLeBytes (server.read (remote + 4072) 4) = 0) := by
    rw [part (by decide), part (by decide), msgLen, valid, ofLeBytes_leBytes, ofLeBytes_leBytes]
    omega
  have length : (UInt16.ofNat payload.length).toNat = payload.length := by
    simp
    omega
  simp [checkSlotForRequest, slot, marked, headerRead, RequestHeader.forPayload, length]
  rfl

theorem checkSlotForRequest_payloadLen {request : IncomingRequest} {server' : Memory}
    (checked : checkSlotForRequest slots server slotIndex = (some request, server')) :
    request.payloadLen < 65536 := by
  unfold checkSlotForRequest at checked
  split at checked
  · cases checked
  · dsimp only at checked
    split at checked
    · cases checked
    · rw [← Option.some.inj (Prod.mk.inj checked).1]
      exact UInt16.toNat_lt _

/-- The payload as the server reads it: from byte 4032 on, it is the trailer. -/
theorem written_payload (short : payload.length ≤ 4040)
    (copied : server.read remote messageBlockSize =
      (writeMessage memory slotPtr header payload).read slotPtr messageBlockSize) :
    (server.write (remote + 4076) (leBytes 4 0)).read (remote + 40) payload.length =
      payload.take 4032 ++ (trailerRead payload.length).take (payload.length - 4032) := by
  have before {count : Nat} (inside : count ≤ 4032) (within : count ≤ payload.length) :
      (server.write (remote + 4076) (leBytes 4 0)).read (remote + 40) count =
        payload.take count := by
    have whole := read_write_same (memory.write slotPtr header.encode) (slotPtr + 40) payload
    rw [read_write_disjoint (by omega), read_part copied (by unfold messageBlockSize; omega)]
    unfold writeMessage writeTrailer RequestHeader.size
    rw [read_write_disjoint (by omega), read_write_disjoint (by omega), ← read_take within, whole]
  have cleared := read_write_same server (remote + 4076) (leBytes 4 0)
  have msgLen : (server.write (remote + 4076) (leBytes 4 0)).read (remote + 4072) 4 =
      leBytes 4 (40 + payload.length) := by
    rw [read_write_disjoint (by omega), read_part copied (by decide),
      (writeMessage_trailer memory slotPtr header).1]
  rcases Nat.le_total payload.length 4032 with inside | beyond
  · rw [before inside le_rfl, Nat.sub_eq_zero_of_le inside, List.take_of_length_le inside]
    simp
  · have split := (server.write (remote + 4076) (leBytes 4 0)).read_add (remote + 40) 4032
      (payload.length - 4032)
    rw [Nat.add_sub_cancel' beyond] at split
    have trailer : trailerRead payload.length =
        (server.write (remote + 4076) (leBytes 4 0)).read (remote + 4072) 8 := by
      rw [trailerRead, read_add _ _ 4 4, msgLen]
      exact congrArg (_ ++ ·) cleared.symm
    rw [split, before le_rfl beyond, trailer, read_take (by omega)]

/-- A server whose memory behind the block differs from the payload sees the bytes that left it. -/
theorem Fits.of_received (received : Received memory
    (writeMessage memory slotPtr (header.forPayload payload) payload) slotPtr header payload) :
    Fits payload := by
  let after := writeMessage memory slotPtr (header.forPayload payload) payload
  let server : Memory := fun address =>
    if address < 4080 then after (slotPtr + address) else (payload[4040]?).getD 0 + 1
  have copied : server.read 0 messageBlockSize = after.read slotPtr messageBlockSize := by
    apply read_eq_read_iff.mpr
    intro index inside
    simp [server, show index < 4080 from inside]
  obtain ⟨request, server', checked, -, -, -, -, same⟩ := received.2 [0] server 0 0 rfl copied
  have bounded : payload.length < 65536 := by
    rw [← same, read_length]
    exact checkSlotForRequest_payloadLen checked
  rw [checkSlotForRequest_written _ _ _ bounded rfl copied] at checked
  cases checked
  dsimp only at same
  have short : payload.length ≤ 4040 := by
    by_contra long
    have byte : (payload[4040]?).getD 0 + 1 = (payload[4040]?).getD 0 := by
      nth_rewrite 2 [← same]
      rw [read_getElem? (Nat.lt_of_not_le long), Option.getD_some, write_outside (by simp)]
      exact (if_neg (by omega)).symm
    exact absurd byte (by simp)
  rw [written_payload _ _ _ short copied] at same
  have parts := same.trans (List.take_append_drop 4032 payload).symm
  exact ⟨short, (List.append_cancel_left parts).symm⟩

theorem Fits.received (fits : Fits payload) : Received memory
    (writeMessage memory slotPtr (header.forPayload payload) payload) slotPtr header payload := by
  obtain ⟨short, reached⟩ := fits
  have headerLength : (header.forPayload payload).encode.length = 40 := RequestHeader.encode_length _
  constructor
  · unfold writeMessage writeTrailer messageBlockSize RequestHeader.size
    intro address outside
    rw [write_outside (by rw [leBytes_length]; omega),
      write_outside (by rw [leBytes_length]; omega), write_outside (by omega),
      write_outside (by omega)]
  · intro slots server slotIndex remote slot copied
    refine ⟨_, _, checkSlotForRequest_written _ _ _ (by omega) slot copied, rfl, rfl, rfl, rfl, ?_⟩
    rw [written_payload _ _ _ short copied, ← reached, List.take_append_drop]

theorem writeMessage_received :
    Received memory (writeMessage memory slotPtr (header.forPayload payload) payload) slotPtr header
      payload ↔ Fits payload :=
  ⟨Fits.of_received _ _ _, Fits.received _ _ _⟩

end

/-- For both writers a request comes through exactly if its payload fits, and all payloads of a
length fit exactly if they end before the trailer. -/
theorem WarmupBuffer.request_round_trip (header : RequestHeader) (payload : List UInt8)
    (memory : Memory) :
    (∀ (warmup : WarmupBuffer) (index : Nat) (warmup' : WarmupBuffer) (memory' : Memory),
      warmup.writeRequest memory (header.forPayload payload) payload =
        some (index, warmup', memory') →
      (Received memory memory' (warmup.buffer + index * messageBlockSize) header payload ↔
        Fits payload)) ∧
    (∀ localSlotPtr, Received memory
      (writeMessage memory localSlotPtr (header.forPayload payload) payload) localSlotPtr header
      payload ↔ Fits payload) ∧
    ∀ length, (∀ bytes : List UInt8, bytes.length = length → Fits bytes) ↔ length ≤ 4032 := by
  refine ⟨?_, fun _ => writeMessage_received _ _ _, Fits.all_iff⟩
  intro warmup index warmup' memory' accepted
  unfold writeRequest at accepted
  split at accepted
  · contradiction
  · cases accepted
    exact writeMessage_received _ _ _

theorem WarmupBuffer.request_round_trip_oneByte :
    let header : RequestHeader := ⟨0, 7, 1, 0, 0, 0, 3, 0⟩
    Received (fun _ => 0) (writeMessage (fun _ => 0) 4080 (header.forPayload [5]) [5]) 4080 header
      [5] :=
  ((WarmupBuffer.request_round_trip _ [5] _).1 ⟨0, 8160, 1⟩ 1 _ _ rfl).mpr
    (.of_length_le (by decide))

/-- The length of the message stands on the last byte of the payload. -/
theorem long_payload_overwritten :
    let payload := List.replicate 4033 0
    let header : RequestHeader := ⟨0, 7, 1, 0, 0, 0, 3, 0⟩
    ∃ warmup memory, WarmupBuffer.writeRequest ⟨0, 4080, 0⟩ (fun _ => 0)
        (header.forPayload payload) payload = some (0, warmup, memory) ∧
      ¬ Received (fun _ => 0) memory 0 header payload := by
  intro payload header
  refine ⟨_, _, rfl, fun received => ?_⟩
  have reached := (Fits.of_received _ _ _ received).2
  rw [List.drop_replicate, List.length_replicate] at reached
  exact absurd reached (by decide)

end Locasta.Scalerpc.MessageBlock
