import Locasta.Copyrpc.Addressing
import Locasta.Copyrpc.Rc.EmissionFailure

namespace Locasta.Copyrpc.Rc

open Data EndpointInner

/-! Batches and the cycles of the ring, whatever the send queue refuses.

That a message fits behind the metadata block of its batch is checked nowhere: it follows from the
space of the peer, or from the reservation.
-/

/-- The WRITE begins with the metadata block of its batch. -/
structure WriteImm.Headed (write : WriteImm) : Prop where
  covers : flowMetadataSize ≤ write.stop - write.start
  block : write.payload.take flowMetadataSize = encodeFlowMetadata write.batch.metadata

variable {U : Type} {ring : RemoteRingInfo} {size : Nat} {ep : EndpointInner U}

/-- The block at the start of what is emitted is the one that was last encoded. -/
def EndpointInner.Filled (ep : EndpointInner U) : Prop :=
  ep.sendRing.read (maskOffset ep.flushStartPos ep.sendRingLen) flowMetadataSize =
    encodeFlowMetadata ep.filled.metadata

theorem wireBytes_take {offset delta : Nat} (covers : flowMetadataSize ≤ delta) :
    (ep.wireBytes offset delta).take flowMetadataSize = ep.sendRing.read offset flowMetadataSize := by
  unfold wireBytes
  split
  · exact Memory.read_take covers
  · rw [List.take_append_of_le_length (by rw [Memory.read_length]; decide)]
    exact Memory.read_take (by decide)

theorem encodeMetadata_filled (start : ep.flushStartPos = ep.metaPos) (messageCount : Nat)
    (messages : List Message) : (ep.encodeMetadata messageCount messages).Filled := by
  change (ep.sendRing.write (maskOffset ep.metaPos ep.sendRingLen) _).read
    (maskOffset ep.flushStartPos ep.sendRingLen) flowMetadataSize = _
  rw [start]
  exact Memory.read_write_same ..

theorem placeWrap_filled (start : ep.flushStartPos = ep.metaPos) : ep.placeWrap.Filled :=
  @encodeMetadata_filled U { ep with sendRingProducer := ep.metaPos } start wrapMessageCount []

/-- WRITEs begin with their block, at most half the ring is reserved, and the peer has returned no
more than it was sent. -/
structure Batched (ring : RemoteRingInfo) (size : Nat) (ep : EndpointInner U) : Prop where
  addressing : Addressing ring size ep
  headed : ∀ write ∈ ep.qp.posted, write.Headed
  half : 2 * ep.respReservation ≤ ring.size
  behind : ep.remoteConsumerPos ≤ ep.metaPos

namespace Batched

section

variable (batched : Batched ring size ep)
include batched

theorem opened (roomy : flowMetadataSize ≤ size) :
    ep.metaPos + flowMetadataSize ≤ ep.sendRingProducer := by
  have confined := batched.addressing.confined roomy
  have reserved := confined.reserved
  have gap := Nat.dvd_sub confined.ends confined.aligned
  change ep.metaPos < ep.sendRingProducer at reserved
  change 32 ∣ ep.sendRingProducer - ep.metaPos at gap
  unfold flowMetadataSize
  omega

theorem grantAt_half (position : Nat) :
    2 * (ep.respReservation + ep.grantAt position) ≤ ring.size := by
  have half := batched.half
  have bound : ep.grantAt position ≤
      (ring.size - (position - ep.remoteConsumerPos)) / 2 - ep.respReservation := by
    rw [grantAt_eq batched.addressing.ready.connected]
    exact Nat.le_trans (alignDown_le _) (Nat.min_le_left ..)
  omega

theorem fill : Batched ring size ep.fillMetadata :=
  { batched with
    addressing := batched.addressing.fill
    half := batched.grantAt_half ep.sendRingProducer }

theorem placeWrap (roomy : flowMetadataSize ≤ size) : Batched ring size ep.placeWrap :=
  { batched with
    addressing := batched.addressing.placeWrap roomy
    half := batched.grantAt_half ep.metaPos }

theorem post (roomy : flowMetadataSize ≤ size)
    (filled : ep.Filled) : Batched ring size (ep.posting ring).prepareNextBatch where
  addressing := batched.addressing.post roomy
  headed := by
    have opened := batched.opened roomy
    have start := batched.addressing.ready.start
    have covers : flowMetadataSize ≤ ep.sendRingProducer - ep.flushStartPos := by omega
    exact List.forall_mem_append.mpr
      ⟨batched.headed, List.forall_mem_singleton.mpr ⟨covers, (wireBytes_take covers).trans filled⟩⟩
  half := batched.half
  behind := Nat.le_trans batched.behind (Nat.le_of_lt batched.addressing.ready.reserved)

theorem refused : Batched ring size ep.refused :=
  { batched with addressing := batched.addressing.congr rfl rfl }

end

theorem stable (roomy : flowMetadataSize ≤ size) :
    Stable ring (fun _ => flowMetadataSize ≤ size) (Batched (U := U) ring size) where
  ready batched := batched.addressing.ready
  doorbell := by
    intro ep batched
    unfold ringDoorbell
    split
    · exact { batched with addressing := batched.addressing.congr rfl rfl }
    · exact batched
  close batched _ _ :=
    batched.fill.post roomy (encodeMetadata_filled batched.addressing.ready.start ..)
  closeRefused batched _ _ := batched.fill.refused
  wrap batched _ _ _ :=
    (batched.placeWrap roomy).post roomy (placeWrap_filled batched.addressing.ready.start)
  wrapRefused batched _ _ _ := (batched.placeWrap roomy).refused

theorem append (batched : Batched ring size ep) (header : MessageHeader) {data : List UInt8}
    (placed : ep.Placed (paddedMessageSize (asU32 data.length)))
    (fits : flowMetadataSize + paddedMessageSize (asU32 data.length) ≤ size) :
    Batched ring size (ep.appendMessage header data) :=
  { batched with addressing := batched.addressing.append header placed fits }

theorem call_fits (batched : Batched ring size ep) (roomy : flowMetadataSize ≤ size)
    (same : ring.size = size) {count : Nat} (placed : ep.Placed count)
    (space : count + 2 * ep.respReservation ≤
      ring.size - (ep.sendRingProducer - ep.remoteConsumerPos)) :
    flowMetadataSize + count ≤ size := by
  have opened := batched.opened roomy
  have len := batched.addressing.len
  rcases placed with fits | ⟨_, _, producer⟩
  · have power := batched.addressing.ready.ringLen
    simp only [wrapNeeded, decide_eq_false_iff_not, Nat.not_le, maskOffset_eq_mod power] at fits
    omega
  · have behind := batched.behind
    omega

end Batched

/-- A reply keeps to its allowance, and the peer returns no more than was sent to it. -/
def Regular (own : RcSide U) (event : RcSide U × Action U) : Prop :=
  match event.2 with
  | .reply _ index data =>
    ∀ request ∈ own.handles[index]?, paddedMessageSize (asU32 data.length) + flowMetadataSize ≤
          request.message.responseAllowance ∧
        request.message.responseAllowance ≤ own.ep.respReservation
  | .process => own.processed < own.landed → ∀ write ∈ event.1.ep.qp.posted[own.processed]?,
        (own.ep.processCqeStatic write.imm).1.remoteConsumerPos ≤ own.ep.metaPos
  | _ => True

instance (own : RcSide U) : (event : RcSide U × Action U) → Decidable (Regular own event)
  | (_, .reply _ _ _) => inferInstanceAs (Decidable (∀ request ∈ (_ : Option _), _))
  | (_, .process) => inferInstanceAs (Decidable (_ → ∀ write ∈ (_ : Option _), _))
  | (_, .call ..) | (_, .flush _) | (_, .recv) | (_, .drop _) | (_, .land) => isTrue trivial

theorem Batched.act {own : RcSide U} (batched : Batched ring size own.ep)
    (roomy : flowMetadataSize ≤ size) (same : ring.size = size) {event : RcSide U × Action U}
    (regular : Regular own event) : Batched ring size (localStep own event).ep := by
  obtain ⟨peer, action⟩ := event
  have kept (ep : EndpointInner U) (remote : ep.remoteRecvRing = own.ep.remoteRecvRing)
      (outlet : ep.outlet = own.ep.outlet) (reservation : ep.respReservation = own.ep.respReservation)
      (behind : ep.remoteConsumerPos ≤ own.ep.metaPos) : Batched ring size ep := {
    addressing := batched.addressing.congr remote outlet
    headed := by
      have posted : ep.qp.posted = own.ep.qp.posted := congrArg Outlet.posted outlet
      rw [posted]
      exact batched.headed
    half := by
      rw [reservation]
      exact batched.half
    behind := by
      have position : ep.metaPos = own.ep.metaPos := congrArg Outlet.metaPos outlet
      rw [position]
      exact behind }
  by_cases idle : action = .process ∧ ¬ own.processed < own.landed
  · obtain ⟨rfl, none⟩ := idle
    have same : localStep own (peer, .process) = own := if_neg none
    rw [same]
    exact batched
  refine act_rule own peer (P := fun _ _ => Batched ring size) action
    (fun _ _ => Batched.stable roomy) batched (kept _ rfl rfl rfl batched.behind) ?_ ?_ ?_ ?_ ?_ ?_
  · intro _ _ _ _ _ _ _ _ _
    exact roomy
  · intro _ _ _ _ _ _
    exact roomy
  · rintro answers key data userData responseAllowance ep rfl before placed _ space
    have inserted : Batched ring size
        { ep with pendingCalls := ep.pendingCalls.insert key userData } :=
      { before with addressing := before.addressing.congr rfl rfl }
    have appended := inserted.append (requestHeader key responseAllowance) placed
      (before.call_fits roomy same placed space)
    exact { appended with addressing := appended.addressing.congr rfl rfl }
  · rintro answers index data request ep rfl live before placed
    obtain ⟨short, held⟩ := regular request live
    have half := batched.half
    have released : Batched ring size
        { ep with respReservation := ep.respReservation - request.message.responseAllowance } :=
      { before with
        addressing := before.addressing.congr rfl rfl
        half := Nat.le_trans (Nat.mul_le_mul_left 2 (Nat.sub_le ..)) before.half }
    exact released.append (responseHeader request.message) placed (by omega)
  · intro write
    exact kept _ rfl rfl rfl batched.behind
  · rintro write rfl next
    have landed : own.processed < own.landed := Decidable.not_not.mp fun none => idle ⟨rfl, none⟩
    have returned := regular landed write next
    obtain ⟨_, _, _, _, _, _, _, shape⟩ := own.ep.processCqeStatic_shape write.imm
    rw [shape] at returned ⊢
    exact kept _ rfl rfl rfl returned

/-- Each WRITE starts with its metadata block and keeps to one cycle, whatever the send queue
refuses. -/
theorem batches_keep_to_cycles {config : EndpointConfig} {region : MemoryRegion}
    {remote : LocalEndpointInfo} {events : List (RcSide U × Action U)}
    (same : remote.recvRingSize = config.sendRingSize.nextPowerOfTwo)
    (roomy : 64 ≤ config.sendRingSize.nextPowerOfTwo)
    (guarded : Along localStep Regular (attached config region remote) events) :
    let size := config.sendRingSize.nextPowerOfTwo
    let ep := (run localStep (attached config region remote) events).ep
    (∀ write ∈ ep.qp.posted, flowMetadataSize ≤ write.stop - write.start ∧
      write.start % size + (write.stop - write.start) ≤ size ∧
      write.payload.take flowMetadataSize = encodeFlowMetadata write.batch.metadata) ∧
    (∀ ring answers count atWrap, WrapsFrom ring count (ep.offer answers) atWrap →
      flowMetadataSize ≤ atWrap.sendRingLen - maskOffset atWrap.metaPos atWrap.sendRingLen) := by
  intro size ep
  let ring : RemoteRingInfo := ⟨remote.recvRingAddr, remote.recvRingRkey, remote.recvRingSize⟩
  have enough : flowMetadataSize ≤ size := Nat.le_trans (by decide) roomy
  have power : size.isPowerOfTwo := Nat.isPowerOfTwo_nextPowerOfTwo _
  have start : Batched ring size (attached (U := U) config region remote).ep := {
    addressing := {
      ready := ⟨rfl, rfl, Nat.zero_lt_succ _, power⟩
      len := rfl
      confined := fun roomy => .new power roomy _
      silent := fun _ => ⟨rfl, rfl⟩ }
    headed := nofun
    half := by
      have quarter := Nat.min_le_right (attached (U := U) config region remote).ep.maxRespReservation
        (remote.recvRingSize / 4)
      change 2 * min _ (remote.recvRingSize / 4) ≤ remote.recvRingSize
      omega
    behind := Nat.le_refl _ }
  have preserved (own : RcSide U) (event : RcSide U × Action U)
      (batched : Batched ring size own.ep) (regular : Regular own event) :
      Batched ring size (localStep own event).ep := batched.act enough same regular
  have batched : Batched ring size ep := run_invariant preserved start guarded
  have confined := batched.addressing.confined enough
  refine ⟨?_, ?_⟩
  · intro write member
    obtain ⟨covers, block⟩ := batched.headed write member
    exact ⟨covers, batched.addressing.len ▸ confined.posted write member, block⟩
  · intro ring answers count atWrap wraps
    have positive := Nat.pos_of_isPowerOfTwo power
    have ringLen : atWrap.sendRingLen = size := by
      obtain ⟨_, ⟨_, rfl⟩ | ⟨_, _, rfl⟩⟩ := wraps <;> exact batched.addressing.len
    have aligned : alignment ∣ atWrap.metaPos := by
      obtain ⟨_, ⟨_, rfl⟩ | ⟨_, _, rfl⟩⟩ := wraps
      · exact confined.aligned
      · exact confined.ends
    have divides : alignment ∣ size := dvd_of_isPowerOfTwo_le ⟨5, rfl⟩ power enough
    have room := add_unit_le_cycleEnd positive aligned divides
    have below := Nat.mod_lt atWrap.metaPos positive
    rw [ringLen, maskOffset_eq_mod power]
    unfold cycleEnd alignment at room
    unfold flowMetadataSize
    omega

theorem batches_keep_to_cycles_reply : Along localStep Regular serverAlone (replyRun true) ∧
      ∀ write ∈ (run localStep serverAlone (replyRun true)).ep.qp.posted,
        flowMetadataSize ≤ write.stop - write.start ∧
          write.start % 256 + (write.stop - write.start) ≤ 256 := by
  have regular : Along localStep Regular serverAlone (replyRun true) := by decide +kernel
  have same : (EndpointInner.new (U := Unit) (clientAndServer .a)
      (sameRegion .a)).localInfo.recvRingSize = (clientAndServer .b).sendRingSize.nextPowerOfTwo := by decide +kernel
  have roomy : 64 ≤ (clientAndServer .b).sendRingSize.nextPowerOfTwo := by decide +kernel
  have size : (clientAndServer .b).sendRingSize.nextPowerOfTwo = 256 := by decide +kernel
  refine ⟨regular, fun write member => ?_⟩
  obtain ⟨covers, inside, _⟩ := (batches_keep_to_cycles same roomy regular).1 write member
  rw [size] at inside
  exact ⟨covers, inside⟩

/-- Two wraps in the last block of a cycle, and then a call of the size of the ring. -/
def twoLastBlocks : List (Party × Action Unit) :=
  [(.a, .call [] 0 (List.replicate 180 0) () 0), (.a, .flush []),
    (.b, .land), (.b, .process), (.b, .recv), (.b, .reply [] 0 []), (.b, .flush []),
    (.a, .land), (.a, .process), (.a, .call [] 1 [] () 0), (.a, .flush []),
    (.b, .land), (.b, .process), (.b, .land), (.b, .process), (.b, .recv), (.b, .reply [] 1 []),
    (.b, .flush []), (.a, .land), (.a, .process),
    (.a, .call [] 0 (List.replicate 116 0) () 0), (.a, .flush []),
    (.b, .land), (.b, .process), (.b, .recv), (.b, .reply [] 2 []), (.b, .flush []),
    (.a, .land), (.a, .process), (.a, .call [] 1 [] () 0), (.a, .flush []),
    (.b, .land), (.b, .process), (.b, .land), (.b, .process), (.b, .recv), (.b, .reply [] 3 []),
    (.b, .flush []), (.a, .land), (.a, .process), (.a, .land), (.a, .process),
    (.a, .call [] 0 (List.replicate 244 0) () 0), (.a, .flush [])]

/-- The last batch of 288 bytes leaves the ring of 256 bytes. -/
theorem twoLastBlocks_straddles :
    (run step (connected clientAndServer sameRegion) twoLastBlocks .a).ep.qp.posted.map
      (fun write => (write.start, write.stop)) =
        [(0, 224), (224, 256), (256, 320), (320, 480), (480, 512), (512, 576), (576, 768),
          (768, 1056)] := by
  decide +kernel

end Locasta.Copyrpc.Rc
