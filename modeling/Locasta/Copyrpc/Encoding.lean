import Locasta.Data.Frames
import Locasta.Data.Ring
import Mathlib.Data.Nat.Bitwise

namespace Locasta.Copyrpc

open Data

/-! Wire encoding shared by the RC and DC transports. -/

def alignment : Nat := 32

def headerSize : Nat := 12

def responseFlag : UInt32 := 0x80000000

def wrapMessageCount : Nat := 2 ^ 32 - 1

def flowMetadataSize : Nat := 32

/-- `value & !(ALIGNMENT - 1)` -/
def alignDown (value : Nat) : Nat := value / alignment * alignment

/-- `(value + ALIGNMENT - 1) & !(ALIGNMENT - 1)` -/
def alignUp (value : Nat) : Nat := alignDown (value + alignment - 1)

/-- `value as u32` -/
def asU32 (value : Nat) : Nat := value % 2 ^ 32

def encodeImm (delta : Nat) : Nat := asU32 (delta / alignment)

def decodeImm (imm : Nat) : Nat := imm * alignment

def isResponse (callId : UInt32) : Bool := callId &&& responseFlag != 0

def toResponseId (callId : UInt32) : UInt32 := callId ||| responseFlag

def fromResponseId (callId : UInt32) : UInt32 := callId &&& ~~~responseFlag

def paddedMessageSize (payloadLen : Nat) : Nat := alignUp (headerSize + payloadLen)

structure MessageHeader where
  callId : UInt32
  piggyback : UInt32

def encodeHeader (header : MessageHeader) (payloadLen : Nat) : List UInt8 :=
  leBytes 4 header.callId.toNat ++ leBytes 4 header.piggyback.toNat ++ leBytes 4 payloadLen

def decodeHeader (bytes : List UInt8) : MessageHeader × Nat :=
  ({ callId := UInt32.ofNat (ofLeBytes (bytes.take 4)),
     piggyback := UInt32.ofNat (ofLeBytes ((bytes.drop 4).take 4)) },
   ofLeBytes ((bytes.drop 8).take 4))

/-- The 32 bytes at the head of a batch: two `u64` fields, the message count and padding. -/
def encodeBlock (first second messageCount : Nat) : List UInt8 :=
  leBytes 8 first ++ leBytes 8 second ++ leBytes 4 messageCount ++ List.replicate 12 0

def decodeBlock (bytes : List UInt8) : Nat × Nat × Nat :=
  (ofLeBytes (bytes.take 8), ofLeBytes ((bytes.drop 8).take 8), ofLeBytes ((bytes.drop 16).take 4))

/-- The flow control block at the head of every RC batch. -/
structure FlowMetadata where
  ringCreditReturn : Nat
  creditGrant : Nat
  messageCount : Nat

def encodeFlowMetadata (metadata : FlowMetadata) : List UInt8 :=
  encodeBlock metadata.ringCreditReturn metadata.creditGrant metadata.messageCount

def decodeFlowMetadata (bytes : List UInt8) : FlowMetadata :=
  let (ringCreditReturn, creditGrant, messageCount) := decodeBlock bytes
  { ringCreditReturn, creditGrant, messageCount }

theorem alignUp_ge (value : Nat) : value ≤ alignUp value := by
  unfold alignUp alignDown alignment
  omega

theorem alignUp_dvd (value : Nat) : alignment ∣ alignUp value := Nat.dvd_mul_left ..

theorem alignDown_le (value : Nat) : alignDown value ≤ value := Nat.div_mul_le_self ..

theorem alignDown_rest (value : Nat) {rest : Nat} (left : rest + alignDown value ≤ value) :
    alignDown rest = 0 := by
  unfold alignDown alignment at *
  omega

theorem paddedMessageSize_ge (payloadLen : Nat) :
    headerSize + payloadLen ≤ paddedMessageSize payloadLen :=
  alignUp_ge _

theorem paddedMessageSize_dvd (payloadLen : Nat) : alignment ∣ paddedMessageSize payloadLen :=
  alignUp_dvd _

theorem alignment_le_paddedMessageSize (payloadLen : Nat) :
    alignment ≤ paddedMessageSize payloadLen := by
  apply Nat.le_of_dvd _ (paddedMessageSize_dvd payloadLen)
  have size := paddedMessageSize_ge payloadLen
  unfold headerSize at size
  omega

theorem paddedMessageSize_mono {short long : Nat} (order : short ≤ long) :
    paddedMessageSize short ≤ paddedMessageSize long := by
  unfold paddedMessageSize alignUp alignDown alignment
  omega

theorem decodeImm_encodeImm {delta : Nat} (aligned : alignment ∣ delta)
    (short : delta < alignment * 2 ^ 32) : decodeImm (encodeImm delta) = delta := by
  obtain ⟨blocks, rfl⟩ := aligned
  unfold decodeImm encodeImm asU32 alignment at *
  omega

/-! The response flag is bit 31, so ids below 2^31 survive it. -/

theorem isResponse_toResponseId (callId : UInt32) : isResponse (toResponseId callId) = true := by
  have absorbed : (callId ||| responseFlag) &&& responseFlag = responseFlag := by
    apply UInt32.toBitVec_inj.mp
    ext index
    rw [UInt32.toBitVec_and, UInt32.toBitVec_or, BitVec.getElem_and, BitVec.getElem_or]
    cases responseFlag.toBitVec[index] <;> simp
  rw [isResponse, toResponseId, absorbed]
  decide

section

variable {key : Nat} (small : key < 2 ^ 31)
include small

theorem toNat_ofNat_key : (UInt32.ofNat key).toNat = key :=
  UInt32.toNat_ofNat_of_lt' (small.trans (by decide))

theorem isResponse_ofNat :
    isResponse (UInt32.ofNat key) = false := by
  have clear : UInt32.ofNat key &&& responseFlag = 0 := by
    apply UInt32.toNat_inj.mp
    rw [UInt32.toNat_and, toNat_ofNat_key small]
    change key &&& 2 ^ 31 = 0
    rw [Nat.and_two_pow, Nat.testBit_lt_two_pow small]
    rfl
  simp [isResponse, clear]

theorem fromResponseId_toResponseId :
    (fromResponseId (toResponseId (UInt32.ofNat key))).toNat = key := by
  have flag : (~~~responseFlag).toNat = 2 ^ 31 - 1 := by decide
  have joined : 2 ^ 31 + key = 2 ^ 31 ||| key := by
    simpa using Nat.two_pow_add_eq_or_of_lt small 1
  rw [fromResponseId, toResponseId, UInt32.toNat_and, UInt32.toNat_or, toNat_ofNat_key small,
    flag, Nat.and_two_pow_sub_one_eq_mod, Nat.or_comm]
  change (2 ^ 31 ||| key) % 2 ^ 31 = key
  rw [← joined, Nat.add_mod_left, Nat.mod_eq_of_lt small]

end

@[simp] theorem encodeHeader_length (header : MessageHeader) (payloadLen : Nat) :
    (encodeHeader header payloadLen).length = headerSize := by
  simp [encodeHeader, headerSize]

theorem decodeHeader_encodeHeader (header : MessageHeader) (payloadLen : Nat) :
    decodeHeader (encodeHeader header payloadLen) = (header, payloadLen % 2 ^ 32) := by
  have short (value : Nat) : (leBytes 4 value).drop 8 = [] := List.drop_eq_nil_of_le (by simp)
  have whole (value : Nat) : (leBytes 4 value).take 4 = leBytes 4 value :=
    List.take_of_length_le (by simp)
  simp [decodeHeader, encodeHeader, List.drop_append, ofLeBytes_leBytes, short, whole]

def messageFraming : Framing MessageHeader where
  headerSize := headerSize
  lengthLimit := 2 ^ 32
  encode := encodeHeader
  decode := decodeHeader
  padded := paddedMessageSize
  encode_length := encodeHeader_length
  decode_encode := decodeHeader_encodeHeader
  fits := paddedMessageSize_ge

@[simp] theorem encodeBlock_length (first second messageCount : Nat) :
    (encodeBlock first second messageCount).length = flowMetadataSize := by
  simp [encodeBlock, flowMetadataSize]

theorem decodeBlock_encodeBlock (first second messageCount : Nat) :
    decodeBlock (encodeBlock first second messageCount) =
      (first % 2 ^ 64, second % 2 ^ 64, messageCount % 2 ^ 32) := by
  have short (value : Nat) : (leBytes 8 value).drop 16 = [] := List.drop_eq_nil_of_le (by simp)
  simp [decodeBlock, encodeBlock, List.drop_append, ofLeBytes_leBytes, short]

@[simp] theorem encodeFlowMetadata_length (metadata : FlowMetadata) :
    (encodeFlowMetadata metadata).length = flowMetadataSize :=
  encodeBlock_length ..

theorem decodeFlowMetadata_encodeFlowMetadata (metadata : FlowMetadata) :
    decodeFlowMetadata (encodeFlowMetadata metadata) =
      { ringCreditReturn := metadata.ringCreditReturn % 2 ^ 64,
        creditGrant := metadata.creditGrant % 2 ^ 64,
        messageCount := metadata.messageCount % 2 ^ 32 } := by
  rw [decodeFlowMetadata, encodeFlowMetadata, decodeBlock_encodeBlock]

end Locasta.Copyrpc
