import Locasta.Copyrpc.Session
import Mathlib.Data.List.Forall2

namespace Locasta.Copyrpc

open Data Function

/-! Matching responses with calls. A call waits in the slab under its key until its
response takes it out; keys are reused, so what tells calls apart is their number. -/

variable {Header Handle Write Endpoint U V : Type} {wire : Wire Header Handle}

namespace Sent

def data : Sent Handle U → List UInt8
  | .request _ data _ _ => data
  | .response _ data => data

/-- Keys leave room for the response flag, and lengths fit the header. -/
def Small (lengthLimit : Nat) : Sent Handle U → Prop
  | .request key data _ _ => key < 2 ^ 31 ∧ data.length < lengthLimit
  | .response _ data => data.length < lengthLimit

end Sent

/-- How a transport writes the header of an accepted message. -/
structure Codec (wire : Wire Header Handle) (U : Type) where
  header : Sent Handle U → Header
  callId : Handle → UInt32
  request_callId : ∀ key data userData responseAllowance,
    wire.callId (header (.request key data userData responseAllowance)) = UInt32.ofNat key
  response_callId : ∀ request data,
    wire.callId (header (.response request data)) = toResponseId (callId request.message)

/-- The numbers of the calls that the messages answer. -/
def answerSeqs (sent : List (Sent Handle U)) : List Nat :=
  sent.filterMap fun
    | .request .. => none
    | .response request _ => some request.seq

/-- The calls among the messages, numbered from `seq` on. -/
def callsFrom (expect : Nat → V) : Nat → List (Sent Handle U) → List (Nat × List UInt8 × V)
  | _, [] => []
  | seq, .request _ data _ responseAllowance :: rest =>
    (seq, data, expect responseAllowance) :: callsFrom expect (seq + 1) rest
  | seq, .response .. :: rest => callsFrom expect (seq + 1) rest

def userDataOf (calls : List (Sent Handle U)) (seq : Nat) : Option U :=
  match calls[seq]? with
  | some (.request _ _ userData _) => some userData
  | _ => none

/-- The responses among the messages, with the user data of the calls they answer. -/
def answersTo (calls : List (Sent Handle U)) (sent : List (Sent Handle U)) :
    List (Option U × List UInt8) :=
  sent.filterMap fun
    | .request .. => none
    | .response request data => some (userDataOf calls request.seq, data)

/-- The requests as they were pushed on the receive stack: number, bytes, allowance. -/
def receivedLog (view : Handle → V) (side : Side Endpoint Handle U) : List (Nat × List UInt8 × V) :=
  side.received.map fun entry => (entry.1.seq, entry.2, view entry.1.message)

def responseLog (side : Side Endpoint Handle U) : List (Option U × List UInt8) :=
  side.responses.map fun entry => (some entry.1, entry.2)

theorem callsFrom_append (expect : Nat → V) (seq : Nat) (first second : List (Sent Handle U)) :
    callsFrom expect seq (first ++ second) =
      callsFrom expect seq first ++ callsFrom expect (seq + first.length) second := by
  induction first generalizing seq with
  | nil => rfl
  | cons entry rest ih =>
    cases entry <;> simp [callsFrom, ih, Nat.add_assoc, Nat.add_comm 1]

theorem answerSeqs_append (first second : List (Sent Handle U)) :
    answerSeqs (first ++ second) = answerSeqs first ++ answerSeqs second :=
  List.filterMap_append

theorem answersTo_append (calls first second : List (Sent Handle U)) :
    answersTo calls (first ++ second) = answersTo calls first ++ answersTo calls second :=
  List.filterMap_append

theorem mem_answerSeqs {sent : List (Sent Handle U)} {seq : Nat} :
    seq ∈ answerSeqs sent ↔ ∃ request data, .response request data ∈ sent ∧ request.seq = seq := by
  simp only [answerSeqs, List.mem_filterMap]
  constructor
  · rintro ⟨entry, member, here⟩
    cases entry with
    | request key data userData responseAllowance => cases here
    | response request data => exact ⟨request, data, member, by simpa using here⟩
  · rintro ⟨request, data, member, rfl⟩
    exact ⟨_, member, rfl⟩

/-- Call number `index` is under way under `key`. -/
def OpenCall (calls : List (Sent Handle U)) (done : List Nat) (index key : Nat) (userData : U) :
    Prop :=
  index ∉ done ∧
    ∃ data responseAllowance, calls[index]? = some (.request key data userData responseAllowance)

/-- Calls without an answer wait under their keys, each under its own. -/
structure Pending (calls : List (Sent Handle U)) (done : List Nat) (slab : Slab U) : Prop where
  waits : ∀ index key userData, OpenCall calls done index key userData → slab key = some userData
  distinct : ∀ index other key userData userData', OpenCall calls done index key userData →
    OpenCall calls done other key userData' → index = other

namespace Pending

variable {calls : List (Sent Handle U)} {done : List Nat} {slab : Slab U}

theorem nil (slab : Slab U) : Pending ([] : List (Sent Handle U)) [] slab where
  waits := by simp [OpenCall]
  distinct := by simp [OpenCall]

theorem answer {seq key : Nat} {userData : U} (pending : Pending calls done slab)
    (here : OpenCall calls done seq key userData) :
    Pending calls (done ++ [seq]) (slab.tryRemove key).2 := by
  have narrow {index key' : Nat} {userData' : U}
      (there : OpenCall calls (done ++ [seq]) index key' userData') :
      OpenCall calls done index key' userData' ∧ index ≠ seq := by
    obtain ⟨unanswered, call⟩ := there
    simp only [List.mem_append, List.mem_singleton, not_or] at unanswered
    exact ⟨⟨unanswered.1, call⟩, unanswered.2⟩
  constructor
  · intro index key' userData' there
    obtain ⟨there, different⟩ := narrow there
    have other : key' ≠ key := by
      rintro rfl
      exact different (pending.distinct _ _ _ _ _ there here)
    change update slab key none key' = some userData'
    rw [update_of_ne other]
    exact pending.waits _ _ _ there
  · intro index other key userData userData' first second
    exact pending.distinct _ _ _ _ _ (narrow first).1 (narrow second).1

theorem appendResponse {request : Request Handle} {data : List UInt8}
    (pending : Pending calls done slab) : Pending (calls ++ [.response request data]) done slab := by
  have old {index key : Nat} {userData : U}
      (call : OpenCall (calls ++ [.response request data]) done index key userData) :
      OpenCall calls done index key userData := by
    obtain ⟨unanswered, bytes, responseAllowance, here⟩ := call
    rw [List.getElem?_append] at here
    split at here
    · exact ⟨unanswered, bytes, responseAllowance, here⟩
    · cases gap : index - calls.length <;> simp [gap] at here
  exact ⟨fun _ _ _ call => pending.waits _ _ _ (old call),
    fun _ _ _ _ _ first second => pending.distinct _ _ _ _ _ (old first) (old second)⟩

theorem appendRequest {key responseAllowance : Nat} {data : List UInt8} {userData : U}
    (pending : Pending calls done slab) (vacant : slab key = none) :
    Pending (calls ++ [.request key data userData responseAllowance]) done
      (slab.insert key userData) := by
  have split {index key' : Nat} {userData' : U}
      (call : OpenCall (calls ++ [.request key data userData responseAllowance]) done index key'
        userData') :
      (OpenCall calls done index key' userData' ∧ key' ≠ key) ∨
        (index = calls.length ∧ key' = key ∧ userData' = userData) := by
    obtain ⟨unanswered, data', responseAllowance', here⟩ := call
    rw [List.getElem?_append] at here
    split at here
    · have old : OpenCall calls done index key' userData' := ⟨unanswered, _, _, here⟩
      refine .inl ⟨old, ?_⟩
      rintro rfl
      have waits := pending.waits _ _ _ old
      rw [vacant] at waits
      cases waits
    · cases gap : index - calls.length with
      | zero =>
        simp only [gap, List.getElem?_cons_zero, Option.some.injEq, Sent.request.injEq] at here
        exact .inr ⟨by omega, here.1.symm, here.2.2.1.symm⟩
      | succ _ => simp [gap] at here
  constructor
  · intro index key' userData' call
    rcases split call with ⟨old, other⟩ | ⟨_, rfl, rfl⟩
    · rw [Slab.insert, update_of_ne other]
      exact pending.waits _ _ _ old
    · exact update_self ..
  · intro index other key' userData' userData'' first second
    rcases split first with ⟨old, different⟩ | ⟨new, same, _⟩ <;>
      rcases split second with ⟨old', different'⟩ | ⟨new', same', _⟩
    · exact pending.distinct _ _ _ _ _ old old'
    · exact absurd same' different
    · exact absurd same different'
    · exact new.trans new'.symm

end Pending

namespace Codec

variable {codec : Codec wire U} {calls : List (Sent Handle U)} {memory : Memory}

def message (codec : Codec wire U) (entry : Sent Handle U) : Frame Header :=
  wire.framing.stored (codec.header entry) entry.data

/-- A response goes to a call of `calls`, under the id of that call. -/
def Answers (codec : Codec wire U) (calls : List (Sent Handle U)) : Sent Handle U → Prop
  | .request .. => True
  | .response request _ => ∃ key data userData responseAllowance,
      calls[request.seq]? = some (.request key data userData responseAllowance) ∧
      key < 2 ^ 31 ∧ codec.callId request.message = UInt32.ofNat key

/-- The event that a message should lead to. -/
inductive Faithful (codec : Codec wire U) (calls : List (Sent Handle U)) (memory : Memory) :
    Sent Handle U → Event Handle U → Prop where
  | request {key responseAllowance dataOffset : Nat} {data : List UInt8} {userData : U} :
      memory.read dataOffset data.length = data →
      Faithful codec calls memory (.request key data userData responseAllowance)
        (.request (wire.request (codec.header (.request key data userData responseAllowance))
          dataOffset data.length))
  | response {request : Request Handle} {data : List UInt8} {userData : U} :
      userDataOf calls request.seq = some userData →
      Faithful codec calls memory (.response request data) (.response userData data)

theorem Answers.mono {entry : Sent Handle U} {later : List (Sent Handle U)}
    (answers : codec.Answers calls entry) (kept : calls <+: later) : codec.Answers later entry := by
  cases entry with
  | request key data userData responseAllowance => trivial
  | response request data =>
    obtain ⟨key, bytes, userData, responseAllowance, here, fields⟩ := answers
    exact ⟨key, bytes, userData, responseAllowance, getElem?_extend kept here, fields⟩

theorem answersTo_extend {sent later : List (Sent Handle U)}
    (answers : ∀ entry ∈ sent, codec.Answers calls entry) (kept : calls <+: later) :
    answersTo later sent = answersTo calls sent := by
  apply List.filterMap_congr
  intro entry member
  cases entry with
  | request key data userData responseAllowance => rfl
  | response request data =>
    obtain ⟨key, bytes, userData, responseAllowance, here, _⟩ := answers _ member
    simp only [userDataOf, here, getElem?_extend kept here]

theorem message_payload {entry : Sent Handle U}
    (small : entry.data.length < wire.framing.lengthLimit) :
    (codec.message entry).payload = entry.data := by
  rw [message, Framing.stored, Nat.mod_eq_of_lt small, List.take_length]

theorem Answers.openCall {request : Request Handle} {data : List UInt8} {done : List Nat}
    (answers : codec.Answers calls (.response request data)) (unanswered : request.seq ∉ done) :
    ∃ key userData, OpenCall calls done request.seq key userData ∧
      userDataOf calls request.seq = some userData ∧
      (fromResponseId (wire.callId (codec.header (.response request data)))).toNat = key := by
  obtain ⟨key, bytes, userData, responseAllowance, here, smallKey, callId⟩ := answers
  refine ⟨key, userData, ⟨unanswered, bytes, responseAllowance, here⟩, ?_, ?_⟩
  · rw [userDataOf, here]
  · rw [codec.response_callId, callId, fromResponseId_toResponseId smallKey]

/-- A batch in the ring is delivered message by message. -/
theorem deliver_faithful {size pos : Nat} {done : List Nat} {slab : Slab U}
    {entries : List (Sent Handle U)} (pending : Pending calls done slab)
    (small : ∀ entry ∈ entries, entry.Small wire.framing.lengthLimit)
    (answers : ∀ entry ∈ entries, codec.Answers calls entry)
    (fresh : ∀ seq ∈ answerSeqs entries, seq ∉ done) (distinct : (answerSeqs entries).Nodup)
    (frames : wire.framing.readFrames memory (pos % size) entries.length =
      entries.map codec.message)
    (inside : pos % size + wire.framing.totalSize (entries.map codec.message) ≤ size) :
    Pending calls (done ++ answerSeqs entries)
        (deliver wire size (entries.map codec.message) pos slab).1 ∧
      List.Forall₂ (codec.Faithful calls memory) entries
        (deliver wire size (entries.map codec.message) pos slab).2 := by
  induction entries generalizing pos done slab with
  | nil =>
    rw [show answerSeqs ([] : List (Sent Handle U)) = [] from rfl, List.append_nil]
    exact ⟨pending, .nil⟩
  | cons entry rest ih =>
    simp only [List.length_cons, Framing.readFrames, List.map_cons, List.cons.injEq] at frames
    simp only [List.map_cons, Framing.totalSize_cons] at inside
    obtain ⟨first, following⟩ := frames
    rw [first] at following
    have smallRest : ∀ entry ∈ rest, entry.Small wire.framing.lengthLimit := fun _ member =>
      small _ (List.mem_cons_of_mem _ member)
    have answersRest : ∀ entry ∈ rest, codec.Answers calls entry := fun _ member =>
      answers _ (List.mem_cons_of_mem _ member)
    have offset : (pos + wire.framing.frameSize (codec.message entry)) % size ≤
        pos % size + wire.framing.frameSize (codec.message entry) := by
      rw [Nat.add_mod]
      exact (Nat.mod_le ..).trans (Nat.add_le_add_left (Nat.mod_le ..) _)
    have framesRest : wire.framing.readFrames memory
        ((pos + wire.framing.frameSize (codec.message entry)) % size) rest.length =
        rest.map codec.message := by
      cases rest with
      | nil => rfl
      | cons second _ =>
        have positive : 0 < wire.framing.frameSize (codec.message second) := frameSize_pos _
        simp only [List.map_cons, Framing.totalSize_cons] at inside
        rw [mod_add_of_lt (by omega), following]
    have bytes : memory.read (pos % size + wire.framing.headerSize)
        (codec.message entry).payload.length = (codec.message entry).payload := by
      rw [← first, Framing.readFrame, Memory.read_length]
    cases entry with
    | request key data userData responseAllowance =>
      obtain ⟨smallKey, smallData⟩ : key < 2 ^ 31 ∧ data.length < wire.framing.lengthLimit :=
        small _ (List.mem_cons_self ..)
      have payload : (codec.message (.request key data userData responseAllowance)).payload =
          data := message_payload smallData
      have isRequest : isResponse (wire.callId
          (codec.message (.request key data userData responseAllowance)).header) = false := by
        rw [message, Framing.stored, codec.request_callId]
        exact isResponse_ofNat smallKey
      obtain ⟨after, events⟩ := ih pending smallRest answersRest fresh distinct framesRest
        (by omega)
      rw [payload] at bytes
      simp only [List.map_cons, deliver, isRequest, Bool.false_eq_true, if_false, payload]
      exact ⟨after, .cons (.request bytes) events⟩
    | response request data =>
      have unanswered : request.seq ∉ done := fresh _ (List.mem_cons_self ..)
      obtain ⟨key, userData, call, known, callId⟩ :=
        (answers _ (List.mem_cons_self ..)).openCall unanswered
      have payload : (codec.message (.response request data)).payload = data :=
        message_payload (small _ (List.mem_cons_self ..))
      have isResponse : isResponse (wire.callId
          (codec.message (.response request data)).header) = true := by
        rw [message, Framing.stored, codec.response_callId]
        exact isResponse_toResponseId _
      obtain ⟨notLater, distinctRest⟩ := List.nodup_cons.mp distinct
      obtain ⟨after, events⟩ := ih (pending.answer call) smallRest answersRest (by
        intro seq member
        simp only [List.mem_append, List.mem_singleton, not_or]
        refine ⟨fresh seq (List.mem_cons_of_mem _ member), ?_⟩
        rintro rfl
        exact notLater member) distinctRest framesRest (by omega)
      have slot : (fromResponseId (wire.callId
          (codec.message (.response request data)).header)).toNat = key := callId
      have found : (slab.tryRemove key).1 = some userData := pending.waits _ _ _ call
      simp only [List.map_cons, deliver, isResponse, if_true, slot, found, payload]
      rw [List.append_assoc] at after
      exact ⟨after, .cons (.response known) events⟩

theorem observe_faithful (transport : Transport Endpoint Handle Write U) (view : Handle → V)
    (expect : Nat → V) (side : Side Endpoint Handle U) {entries : List (Sent Handle U)}
    {events : List (Event Handle U)}
    (faithful : List.Forall₂ (codec.Faithful calls memory) entries events)
    (bytes : ∀ header dataOffset dataLen,
      transport.data side.ep (wire.request header dataOffset dataLen) =
        memory.read dataOffset dataLen)
    (viewed : ∀ key data userData responseAllowance dataOffset dataLen,
      view (wire.request (codec.header (.request key data userData responseAllowance)) dataOffset
        dataLen) = expect responseAllowance) :
    receivedLog view (events.foldl (Side.observe transport) side) =
        receivedLog view side ++ callsFrom expect side.seen entries ∧
      responseLog (events.foldl (Side.observe transport) side) =
        responseLog side ++ answersTo calls entries := by
  induction faithful generalizing side with
  | nil => simp [callsFrom, answersTo]
  | cons head tail ih =>
    cases head with
    | request stored =>
      obtain ⟨received, responses⟩ := ih (side.observe transport (.request _)) bytes
      rw [List.foldl_cons, received, responses]
      simp [receivedLog, responseLog, Side.observe, callsFrom, answersTo, bytes, stored, viewed]
    | response known =>
      obtain ⟨received, responses⟩ := ih (side.observe transport (.response _ _)) bytes
      rw [List.foldl_cons, received, responses]
      simp [receivedLog, responseLog, Side.observe, callsFrom, answersTo, known]

/-- The messages of a side are small, and answer each call of the peer at most once. -/
structure Outbox (codec : Codec wire U) (calls sent : List (Sent Handle U)) (replied : List Nat) :
    Prop where
  small : ∀ entry ∈ sent, entry.Small wire.framing.lengthLimit
  answers : ∀ entry ∈ sent, codec.Answers calls entry
  replied : ∀ seq ∈ answerSeqs sent, seq ∈ replied
  distinct : (answerSeqs sent).Nodup

namespace Outbox

variable {sent : List (Sent Handle U)} {replied : List Nat}

theorem nil (codec : Codec wire U) (calls : List (Sent Handle U)) : codec.Outbox calls [] [] where
  small := by simp
  answers := by simp
  replied := by simp [answerSeqs]
  distinct := .nil

variable (outbox : codec.Outbox calls sent replied)
include outbox

theorem mono {later : List (Sent Handle U)}
    (kept : calls <+: later) : codec.Outbox later sent replied :=
  ⟨outbox.small, fun entry member => (outbox.answers entry member).mono kept, outbox.replied,
    outbox.distinct⟩

theorem append {entry : Sent Handle U} {now : List Nat}
    (small : entry.Small wire.framing.lengthLimit) (answers : codec.Answers calls entry)
    (kept : ∀ seq ∈ replied, seq ∈ now) (booked : ∀ seq ∈ answerSeqs [entry], seq ∈ now)
    (fresh : ∀ seq ∈ answerSeqs [entry], seq ∉ replied) :
    codec.Outbox calls (sent ++ [entry]) now where
  small := List.forall_mem_append.mpr ⟨outbox.small, List.forall_mem_singleton.mpr small⟩
  answers := List.forall_mem_append.mpr ⟨outbox.answers, List.forall_mem_singleton.mpr answers⟩
  replied := by
    intro seq member
    rw [answerSeqs_append] at member
    rcases List.mem_append.mp member with old | new
    · exact kept seq (outbox.replied seq old)
    · exact booked seq new
  distinct := by
    rw [answerSeqs_append, List.nodup_append]
    refine ⟨outbox.distinct, ?_, ?_⟩
    · cases entry <;> simp [answerSeqs]
    · rintro seq old _ new rfl
      exact fresh seq new (outbox.replied seq old)

theorem appendRequest {key responseAllowance : Nat}
    {data : List UInt8} {userData : U} (smallKey : key < 2 ^ 31)
    (short : data.length < wire.framing.lengthLimit) :
    codec.Outbox calls (sent ++ [.request key data userData responseAllowance]) replied :=
  outbox.append ⟨smallKey, short⟩ trivial (fun _ member => member) (by simp [answerSeqs])
    (by simp [answerSeqs])

theorem appendResponse {request : Request Handle}
    {data : List UInt8} (short : data.length < wire.framing.lengthLimit)
    (answers : codec.Answers calls (.response request data)) (once : request.seq ∉ replied) :
    codec.Outbox calls (sent ++ [.response request data]) (request.seq :: replied) :=
  outbox.append short answers (fun _ member => List.mem_cons_of_mem _ member)
    (by simp [answerSeqs]) (by simpa [answerSeqs] using once)

end Outbox

/-- What the receiver has seen of the sender is what it has processed. -/
structure Conversation (codec : Codec wire U) (view : Handle → V) (expect : Nat → V)
    (sender receiver : Side Endpoint Handle U) (slab : Slab U) : Prop where
  seen : receiver.seen ≤ sender.sent.length
  outbox : codec.Outbox receiver.sent sender.sent sender.replied
  pending : Pending receiver.sent (answerSeqs (sender.sent.take receiver.seen)) slab
  received : receivedLog view receiver = callsFrom expect 0 (sender.sent.take receiver.seen)
  responses : responseLog receiver = answersTo receiver.sent (sender.sent.take receiver.seen)

namespace Conversation

variable {view : Handle → V} {expect : Nat → V} {sender receiver after : Side Endpoint Handle U}
  {slab now : Slab U}

theorem new (codec : Codec wire U) (view : Handle → V) (expect : Nat → V) (ep other : Endpoint)
    (slab : Slab U) : codec.Conversation view expect (.new ep) (.new other) slab where
  seen := Nat.le_refl _
  outbox := .nil ..
  pending := .nil _
  received := rfl
  responses := rfl

variable (conversation : codec.Conversation view expect sender receiver slab)
include conversation

theorem extend (kept : sender.sent <+: after.sent)
    (outbox : codec.Outbox receiver.sent after.sent after.replied) :
    codec.Conversation view expect after receiver slab := by
  have early := take_extend kept conversation.seen
  exact {
    seen := conversation.seen.trans kept.length_le
    outbox
    pending := by rw [early]; exact conversation.pending
    received := by rw [early]; exact conversation.received
    responses := by rw [early]; exact conversation.responses }

theorem respond (kept : receiver.sent <+: after.sent)
    (logs : after.seen = receiver.seen ∧ after.received = receiver.received ∧
      after.responses = receiver.responses)
    (pending : Pending after.sent (answerSeqs (sender.sent.take receiver.seen)) now) :
    codec.Conversation view expect sender after now := by
  obtain ⟨seen, received, responses⟩ := logs
  exact {
    seen := seen ▸ conversation.seen
    outbox := conversation.outbox.mono kept
    pending := seen ▸ pending
    received := by
      rw [receivedLog, received, seen]
      exact conversation.received
    responses := by
      rw [responseLog, responses, seen, answersTo_extend (fun entry early =>
        conversation.outbox.answers entry (List.mem_of_mem_take early)) kept]
      exact conversation.responses }

theorem process {messages : List (Frame Header)} {size pos : Nat} {memory : Memory}
    (transport : Transport Endpoint Handle Write U) (ep : Endpoint) (processed : Nat)
    (batch : ((sender.sent.drop receiver.seen).take messages.length).map codec.message = messages)
    (frames : wire.framing.readFrames memory (pos % size) messages.length = messages)
    (inside : pos % size + wire.framing.totalSize messages ≤ size)
    (bytes : ∀ header dataOffset dataLen,
      transport.data ep (wire.request header dataOffset dataLen) = memory.read dataOffset dataLen)
    (viewed : ∀ key data userData responseAllowance dataOffset dataLen,
      view (wire.request (codec.header (.request key data userData responseAllowance)) dataOffset
        dataLen) = expect responseAllowance) :
    codec.Conversation view expect sender
      ((deliver wire size messages pos slab).2.foldl (Side.observe transport)
        { receiver with ep, processed })
      (deliver wire size messages pos slab).1 := by
  obtain ⟨entries, batch, later⟩ : ∃ entries, entries.map codec.message = messages ∧
      sender.sent.take (receiver.seen + messages.length) =
        sender.sent.take receiver.seen ++ entries := ⟨_, batch, List.take_add⟩
  have count : entries.length = messages.length := by rw [← batch, List.length_map]
  have start : (sender.sent.take receiver.seen).length = receiver.seen :=
    List.length_take_of_le conversation.seen
  have reach : receiver.seen + messages.length ≤ sender.sent.length := by
    have parts := congrArg List.length later
    rw [List.length_append, start, count, List.length_take] at parts
    omega
  have member : ∀ entry ∈ entries, entry ∈ sender.sent := by
    intro entry inside
    have early : entry ∈ sender.sent.take (receiver.seen + messages.length) := by
      rw [later]
      exact List.mem_append_right _ inside
    exact List.mem_of_mem_take early
  have unique : (answerSeqs (sender.sent.take receiver.seen) ++ answerSeqs entries).Nodup := by
    rw [← answerSeqs_append, ← later]
    exact conversation.outbox.distinct.sublist ((List.take_sublist ..).filterMap _)
  obtain ⟨_, distinct, apart⟩ := List.nodup_append.mp unique
  rw [← batch, List.length_map] at frames
  rw [← batch] at inside
  obtain ⟨pending, faithful⟩ := codec.deliver_faithful conversation.pending
    (fun entry here => conversation.outbox.small entry (member entry here))
    (fun entry here => conversation.outbox.answers entry (member entry here))
    (fun seq new old => apart seq old seq new rfl) distinct frames inside
  rw [batch] at pending faithful
  obtain ⟨received, responses⟩ := codec.observe_faithful transport view expect
    { receiver with ep, processed } faithful bytes viewed
  obtain ⟨recvStack, receivedNow, responsesNow, observed⟩ := Side.foldl_observe transport
    (deliver wire size messages pos slab).2 { receiver with ep, processed }
  rw [deliver_length] at observed
  rw [observed] at received responses ⊢
  change receivedLog view _ = receivedLog view receiver ++ _ at received
  change responseLog _ = responseLog receiver ++ _ at responses
  exact {
    seen := reach
    outbox := conversation.outbox
    pending := by
      rw [later, answerSeqs_append]
      exact pending
    received := by
      rw [received, later, callsFrom_append, start, Nat.zero_add, ← conversation.received]
    responses := by
      rw [responses, later, answersTo_append, ← conversation.responses] }

end Conversation

end Codec

end Locasta.Copyrpc
