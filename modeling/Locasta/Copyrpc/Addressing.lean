import Locasta.Copyrpc.Rc.System
import Locasta.Copyrpc.Dc.System

namespace Locasta.Copyrpc

open Data

/-! WRITEs in two rings of different sizes.

Wraps look at the send ring only, so a WRITE keeps to one cycle of the send ring. It keeps to one
cycle of the peer's ring as well when that ring is no smaller.
-/

namespace Outlet

variable {Write : Type} {segmentOf : Write → Segment} {outlet : Outlet Write}

/-- The open batch and all that was posted lie within cycles of the send ring. -/
structure Confined (segmentOf : Write → Segment) (outlet : Outlet Write) : Prop where
  power : outlet.size.isPowerOfTwo
  ring : alignment ∣ outlet.size
  start : outlet.flushStart = outlet.metaPos
  reserved : outlet.metaPos < outlet.producer
  aligned : alignment ∣ outlet.metaPos
  ends : alignment ∣ outlet.producer
  inside : outlet.metaPos % outlet.size + (outlet.producer - outlet.metaPos) ≤ outlet.size
  posted : ∀ write ∈ outlet.posted, (segmentOf write).Inside outlet.size

namespace Confined

theorem new {size : Nat} (power : size.isPowerOfTwo) (roomy : flowMetadataSize ≤ size)
    (ring : Memory) : Confined segmentOf ⟨ring, size, 0, 0, flowMetadataSize, 0, []⟩ where
  power
  ring := dvd_of_isPowerOfTwo_le ⟨5, rfl⟩ power roomy
  start := rfl
  reserved := Nat.zero_lt_succ _
  aligned := Nat.dvd_zero _
  ends := Nat.dvd_refl _
  inside := by
    change 0 % size + (flowMetadataSize - 0) ≤ size
    rw [Nat.zero_mod]
    omega
  posted := nofun

variable (confined : Confined segmentOf outlet)
include confined

theorem stall (ring : Memory) :
    Confined segmentOf { outlet with ring, producer := cycleEnd outlet.metaPos outlet.size } :=
  { confined with
    reserved := lt_cycleEnd (Nat.pos_of_isPowerOfTwo confined.power) _
    ends := dvd_cycleEnd confined.aligned confined.ring
    inside := by
      have slot := Nat.mod_lt outlet.metaPos (Nat.pos_of_isPowerOfTwo confined.power)
      change outlet.metaPos % outlet.size + (cycleEnd outlet.metaPos outlet.size - outlet.metaPos) ≤
        outlet.size
      unfold cycleEnd
      omega }

theorem post (ring : Memory) {write : Write} (start : (segmentOf write).start = outlet.metaPos)
    (stop : (segmentOf write).stop = outlet.producer) :
    Confined segmentOf (outlet.next ring write outlet.producer) where
  power := confined.power
  ring := confined.ring
  start := rfl
  reserved := Nat.lt_add_of_pos_right (by decide)
  aligned := confined.ends
  ends := Nat.dvd_add confined.ends (Nat.dvd_refl _)
  inside := by
    have room := add_unit_le_cycleEnd (Nat.pos_of_isPowerOfTwo confined.power) confined.ends
      confined.ring
    have slot := Nat.mod_lt outlet.producer (Nat.pos_of_isPowerOfTwo confined.power)
    change outlet.producer % outlet.size + (outlet.producer + flowMetadataSize - outlet.producer) ≤
      outlet.size
    unfold cycleEnd alignment at room
    unfold flowMetadataSize
    omega
  posted := by
    intro other member
    rcases List.mem_append.mp member with old | new
    · exact confined.posted other old
    · rw [List.mem_singleton.mp new, Segment.Inside, start, stop]
      exact confined.inside

theorem append (ring : Memory) {count : Nat}
    (placed : outlet.Placed count) (whole : alignment ∣ count)
    (fits : flowMetadataSize + count ≤ outlet.size) :
    Confined segmentOf { outlet with
      ring, producer := outlet.producer + count, count := outlet.count + 1 } :=
  { confined with
    reserved := Nat.lt_add_right _ confined.reserved
    ends := Nat.dvd_add confined.ends whole
    inside := by
      have reserved := confined.reserved
      change outlet.metaPos % outlet.size + (outlet.producer + count - outlet.metaPos) ≤ outlet.size
      rcases placed with fits | ⟨_, start, producer⟩
      · rw [Crowded, maskOffset_eq_mod confined.power] at fits
        omega
      · omega }

theorem both {size : Nat} (power : size.isPowerOfTwo) (order : outlet.size ≤ size) :
    ∀ write ∈ outlet.posted, (segmentOf write).Inside outlet.size ∧ (segmentOf write).Inside size := by
  intro write member
  have inside := confined.posted write member
  have divides := dvd_of_isPowerOfTwo_le confined.power power order
  exact ⟨inside, inside_of_dvd (Nat.pos_of_isPowerOfTwo power) divides inside⟩

end Confined

end Outlet

namespace Rc

open EndpointInner

variable {U : Type} {ring : RemoteRingInfo}

/-- The message fits into the send ring, behind the metadata block of its batch. -/
def MessageFits (size : Nat) : Action U → Prop
  | .call _ _ data _ _ | .reply _ _ data =>
    flowMetadataSize + paddedMessageSize (asU32 data.length) ≤ size
  | _ => True

instance (size : Nat) : (action : Action U) → Decidable (MessageFits size action)
  | .call .. | .reply .. => inferInstanceAs (Decidable (_ ≤ _))
  | .flush _ | .recv | .drop _ | .land | .process => isTrue trivial

/-- A ring without room for a metadata block never sends anything. -/
structure Addressing (ring : RemoteRingInfo) (size : Nat) (ep : EndpointInner U) : Prop where
  ready : ep.Ready ring
  len : ep.sendRingLen = size
  confined : flowMetadataSize ≤ size → ep.outlet.Confined WriteImm.toSegment
  silent : size < flowMetadataSize → ep.batchMessageCount = 0 ∧ ep.qp.posted = []

namespace Addressing

variable {size : Nat} {ep : EndpointInner U}

section

variable (addressing : Addressing ring size ep)
include addressing

theorem congr {other : EndpointInner U}
    (remote : other.remoteRecvRing = ep.remoteRecvRing) (same : other.outlet = ep.outlet) :
    Addressing ring size other := by
  obtain ⟨⟨connected, start, reserved, power⟩, len, confined, silent⟩ := addressing
  change ep.outlet.flushStart = ep.outlet.metaPos at start
  change ep.outlet.metaPos < ep.outlet.producer at reserved
  change ep.outlet.size.isPowerOfTwo at power
  change ep.outlet.size = size at len
  change size < flowMetadataSize → ep.outlet.count = 0 ∧ ep.outlet.posted = [] at silent
  rw [← same] at start reserved power len confined silent
  exact ⟨⟨remote.trans connected, start, reserved, power⟩, len, confined, silent⟩

theorem placeWrap (roomy : flowMetadataSize ≤ size) : Addressing ring size ep.placeWrap := by
  have boundary := placeWrap_producer addressing.ready.ringLen
  have stalled := (addressing.confined roomy).stall ep.placeWrap.sendRing
  have same : ep.placeWrap.outlet =
      { ep.outlet with
        ring := ep.placeWrap.sendRing
        producer := cycleEnd ep.metaPos ep.sendRingLen } := by
    rw [← boundary]
    rfl
  exact { addressing with
    ready := ⟨addressing.ready.connected, addressing.ready.start, by
      rw [boundary]
      exact lt_cycleEnd (Nat.pos_of_isPowerOfTwo addressing.ready.ringLen) _,
      addressing.ready.ringLen⟩
    confined := fun _ => same ▸ stalled
    silent := fun cramped => absurd roomy (by omega) }

theorem post (roomy : flowMetadataSize ≤ size) :
    Addressing ring size (ep.posting ring).prepareNextBatch where
  ready := {
    connected := addressing.ready.connected
    start := rfl
    reserved := Nat.lt_add_of_pos_right (by decide)
    ringLen := addressing.ready.ringLen }
  len := addressing.len
  confined roomy := (addressing.confined roomy).post _ addressing.ready.start rfl
  silent cramped := absurd roomy (by omega)

theorem fill : Addressing ring size ep.fillMetadata where
  ready := ⟨addressing.ready.connected, addressing.ready.start, addressing.ready.reserved,
    addressing.ready.ringLen⟩
  len := addressing.len
  confined roomy := { addressing.confined roomy with }
  silent := addressing.silent

theorem roomy (nonempty : 0 < ep.batchMessageCount) : flowMetadataSize ≤ size := by
  apply Nat.le_of_not_lt
  intro cramped
  have silent := (addressing.silent cramped).1
  omega

end

theorem stable : Stable ring (fun _ => flowMetadataSize ≤ size)
    (Addressing (U := U) ring size) where
  ready addressing := addressing.ready
  doorbell := by
    intro ep addressing
    unfold ringDoorbell
    split
    · exact addressing.congr rfl rfl
    · exact addressing
  close addressing nonempty _ := addressing.fill.post (addressing.roomy nonempty)
  closeRefused addressing _ _ := addressing.fill.congr rfl rfl
  wrap addressing _ roomy _ := (addressing.placeWrap roomy).post roomy
  wrapRefused addressing _ roomy _ := (addressing.placeWrap roomy).congr rfl rfl

theorem append (addressing : Addressing ring size ep) (header : MessageHeader) {data : List UInt8}
    (placed : ep.Placed (paddedMessageSize (asU32 data.length)))
    (fits : flowMetadataSize + paddedMessageSize (asU32 data.length) ≤ size) :
    Addressing ring size (ep.appendMessage header data) where
  ready := {
    connected := addressing.ready.connected
    start := addressing.ready.start
    reserved := Nat.lt_add_right _ addressing.ready.reserved
    ringLen := addressing.ready.ringLen }
  len := addressing.len
  confined roomy := (addressing.confined roomy).append _ placed.outlet (paddedMessageSize_dvd _)
    (fits.trans_eq addressing.len.symm)
  silent cramped := absurd fits (by omega)

theorem act {own : RcSide U} (addressing : Addressing ring size own.ep) (peer : RcSide U)
    {action : Action U} (fits : MessageFits size action) :
    Addressing ring size (own.act transport peer action).ep := by
  refine act_rule own peer (P := fun _ _ => Addressing ring size) action (fun _ _ => stable)
    addressing (addressing.congr rfl rfl) ?_ ?_ ?_ ?_ ?_ ?_
  · rintro answers key data userData responseAllowance rfl _ atWrap _
    exact (Nat.le_add_right ..).trans fits
  · rintro answers index data rfl atWrap _
    exact (Nat.le_add_right ..).trans fits
  · rintro answers key data userData responseAllowance ep rfl before placed _ _
    have inserted : Addressing ring size
        { ep with pendingCalls := ep.pendingCalls.insert key userData } := before.congr rfl rfl
    exact (inserted.append _ placed fits).congr rfl rfl
  · rintro answers index data request ep rfl _ before placed
    have released : Addressing ring size
        { ep with respReservation := ep.respReservation - request.message.responseAllowance } :=
      before.congr rfl rfl
    exact released.append _ placed fits
  · intro write
    exact addressing.congr rfl rfl
  · intro write _ _
    obtain ⟨_, _, _, _, _, _, _, shape⟩ := own.ep.processCqeStatic_shape write.imm
    rw [shape]
    exact addressing.congr rfl rfl

end Addressing

end Rc

namespace Dc

open EndpointInner

variable {U : Type} {ring : RemoteRingInfo}

structure Addressing (ring : RemoteRingInfo) (size : Nat) (ep : EndpointInner U) : Prop where
  attached : ep.Attached ring
  len : ep.sendRingLen = size
  confined : ep.outlet.Confined WriteImm.toSegment

namespace Addressing

variable {size : Nat} {ep : EndpointInner U}

section

variable (addressing : Addressing ring size ep)
include addressing

theorem congr {other : EndpointInner U}
    (remote : other.remoteRecvRing = ep.remoteRecvRing) (dct : other.remoteDct = ep.remoteDct)
    (same : other.outlet = ep.outlet) : Addressing ring size other where
  attached := addressing.attached.congr remote dct
  len := (congrArg Outlet.size same).trans addressing.len
  confined := same ▸ addressing.confined

theorem placeWrap : Addressing ring size ep.placeWrap where
  attached := addressing.attached.congr rfl rfl
  len := addressing.len
  confined := by
    have stalled := addressing.confined.stall ep.sendRing
    have same : ep.placeWrap.outlet = { ep.outlet with
        ring := ep.sendRing, producer := cycleEnd ep.outlet.metaPos ep.outlet.size } := by
      change _ = { ep.outlet with
        ring := ep.sendRing, producer := cycleEnd ep.metaPos ep.sendRingLen }
      rw [← placeWrap_producer addressing.confined.power]
      rfl
    exact same ▸ stalled

theorem post (dct : RemoteDctInfo) (messageCount : Nat) :
    Addressing ring size (ep.postBatch ring dct messageCount) where
  attached := addressing.attached.congr rfl rfl
  len := addressing.len
  confined := addressing.confined.post _ addressing.confined.start rfl

theorem refuse (messageCount : Nat) : Addressing ring size (ep.refuseBatch messageCount) where
  attached := addressing.attached.congr rfl rfl
  len := addressing.len
  confined := { addressing.confined with }

end

theorem stable : Stable ring (fun _ => True) (fun _ => True) (Addressing (U := U) ring size) where
  attached addressing := addressing.attached
  flags addressing _ _ _ _ := addressing.congr rfl rfl rfl
  close addressing _ _ := addressing.post ..
  closeRefused addressing _ _ := addressing.refuse _
  wrap addressing _ _ _ := (addressing.placeWrap.post ..).congr rfl rfl rfl
  wrapRefused addressing _ _ _ _ := addressing.placeWrap.refuse _
  credit addressing _ _ _ _ := addressing.post ..
  creditRefused addressing _ _ _ _ := addressing.refuse _

theorem append (addressing : Addressing ring size ep) (callId : UInt32) {data : List UInt8}
    (room : ep.hasCycleRoomFor (dcPaddedMessageSize (asU32 data.length)) = true) :
    Addressing ring size (ep.appendMessage callId data) where
  attached := addressing.attached.congr rfl rfl
  len := addressing.len
  confined := by
    have confined := addressing.confined
    have behind : ep.metaPos + flowMetadataSize ≤ ep.sendRingProducer := by
      have reserved := confined.reserved
      have gap := Nat.dvd_sub confined.ends confined.aligned
      change ep.metaPos < ep.sendRingProducer at reserved
      change 32 ∣ ep.sendRingProducer - ep.metaPos at gap
      unfold flowMetadataSize
      omega
    have fits : flowMetadataSize + dcPaddedMessageSize (asU32 data.length) ≤ ep.sendRingLen := by
      have inside := (hasCycleRoomFor_iff confined.power (Nat.le_of_lt confined.reserved)).mp room
      omega
    exact confined.append _ (placed_of_hasCycleRoomFor confined.reserved room) (alignUp_dvd _) fits

theorem act {own : DcSide U} (addressing : Addressing ring size own.ep) (peer : DcSide U)
    (action : Action U) : Addressing ring size (own.act transport peer action).ep := by
  refine act_rule own peer (P := fun _ _ => Addressing ring size) action (fun _ _ => stable)
    addressing (addressing.congr rfl rfl rfl) (by intros; trivial) (by intros; trivial) ?_ ?_ ?_ ?_
  · rintro answers key data userData responseAllowance ep rfl before room
    have inserted : Addressing ring size
        { ep with pendingCalls := ep.pendingCalls.insert key userData } := before.congr rfl rfl rfl
    exact (inserted.append _ room.1).congr rfl rfl rfl
  · rintro answers index data request ep rfl _ before room
    exact (before.append _ room.1).congr rfl rfl rfl
  · intro write
    exact addressing.congr rfl rfl rfl
  · intro write _ _
    obtain ⟨_, _, _, _, _, _, shape⟩ := own.ep.processCqeStatic_shape write.imm
    rw [shape]
    exact addressing.congr rfl rfl rfl

end Addressing

end Dc

/-- A send ring no larger than the peer's receive ring keeps every WRITE inside both. -/
theorem writes_inside_both_rings {U : Type} (party : Party) :
    (∀ (config : Party → Rc.EndpointConfig) (region : Party → MemoryRegion)
        (actions : List (Party × Action U)),
      let sendSize := (config party).sendRingSize.nextPowerOfTwo
      let recvSize := (config party.peer).recvRingSize.nextPowerOfTwo
      sendSize ≤ recvSize →
      (∀ action, (party, action) ∈ actions → Rc.MessageFits sendSize action) →
      ∀ write ∈ (run Rc.step (Rc.connected config region) actions party).ep.qp.posted,
        write.start % sendSize + (write.stop - write.start) ≤ sendSize ∧
          write.start % recvSize + (write.stop - write.start) ≤ recvSize) ∧
    (∀ (config : Party → Dc.EndpointConfig) (host : Party → Dc.Host)
        (actions : List (Party × Action U)),
      let sendSize := (config party).sendRingSize.nextPowerOfTwo
      let recvSize := (config party.peer).recvRingSize.nextPowerOfTwo
      sendSize ≤ recvSize → Dc.batchHeaderSize ≤ sendSize →
      ∀ write ∈ (run Dc.step (Dc.connected config host) actions party).ep.dci.posted,
        write.start % sendSize + (write.stop - write.start) ≤ sendSize ∧
          write.start % recvSize + (write.stop - write.start) ≤ recvSize) := by
  constructor
  · intro config region actions sendSize recvSize order fits write member
    let peerRing := (Rc.connected (U := U) config region party.peer).ep.ringInfo
    have initial : Rc.Addressing peerRing sendSize (Rc.connected (U := U) config region party).ep := {
      ready := ⟨rfl, rfl, Nat.zero_lt_succ _, Nat.isPowerOfTwo_nextPowerOfTwo _⟩
      len := rfl
      confined := fun roomy => .new (Nat.isPowerOfTwo_nextPowerOfTwo _) roomy _
      silent := fun _ => ⟨rfl, rfl⟩ }
    have addressing : Rc.Addressing peerRing sendSize
        (run Rc.step (Rc.connected config region) actions party).ep := by
      refine run_party (fun side : Rc.RcSide U => Rc.Addressing peerRing sendSize side.ep) ?_
        party initial fits
      intro own peer action addressing fits
      exact addressing.act peer fits
    have roomy : flowMetadataSize ≤ sendSize := by
      apply Nat.le_of_not_lt
      intro cramped
      rw [(addressing.silent cramped).2] at member
      cases member
    have inside := (addressing.confined roomy).both (Nat.isPowerOfTwo_nextPowerOfTwo _)
      (addressing.len.trans_le order) write member
    exact ⟨addressing.len ▸ inside.1, inside.2⟩
  · intro config host actions sendSize recvSize order roomy write member
    let peerRing := (Dc.connected (U := U) config host party.peer).ep.target.ring
    have initial : Dc.Addressing peerRing sendSize (Dc.connected (U := U) config host party).ep := {
      attached := ⟨_, rfl, rfl⟩
      len := rfl
      confined := .new (Nat.isPowerOfTwo_nextPowerOfTwo _) roomy _ }
    have addressing : Dc.Addressing peerRing sendSize
        (run Dc.step (Dc.connected config host) actions party).ep := by
      refine run_party (fun side : Dc.DcSide U => Dc.Addressing peerRing sendSize side.ep) ?_
        party initial fun _ _ => trivial
      intro own peer action addressing _
      exact addressing.act peer action
    have inside := addressing.confined.both (Nat.isPowerOfTwo_nextPowerOfTwo _)
      (addressing.len.trans_le order) write member
    exact ⟨addressing.len ▸ inside.1, inside.2⟩

/-- Send rings of 512 bytes and receive rings of 1024 bytes. -/
def wideReceivers (party : Party) : Rc.EndpointConfig :=
  { Rc.twoCalls party with recvRingSize := 1024, maxRespReservation := 4096 }

def wideDcReceivers (_ : Party) : Dc.EndpointConfig where
  sendRingSize := 128
  recvRingSize := 256

/-- Two calls that need two cycles over RC. -/
def wrappingCalls : List (Party × Action Nat) :=
  [(.a, .call [] 0 (List.replicate 300 1) 7 0), (.a, .call [] 1 (List.replicate 200 2) 8 0)]

def batchAndWrap : List (Party × Action Nat) :=
  [(.a, .call [] 0 [1, 2, 3] 7 0), (.a, .flush []), (.a, .call [] 1 (List.replicate 60 2) 8 0),
    (.a, .flush [])]

theorem writes_inside_both_rings_wrapping :
    let rcWrites :=
      (run Rc.step (Rc.connected wideReceivers Rc.sameRegion) wrappingCalls .a).ep.qp.posted
    let dcWrites :=
      (run Dc.step (Dc.connected wideDcReceivers Dc.sameHost) batchAndWrap .a).ep.dci.posted
    rcWrites.map (fun write => (write.start, write.stop)) = [(0, 352), (352, 512)] ∧
      (∀ write ∈ rcWrites, write.start % 1024 + (write.stop - write.start) ≤ 1024) ∧
      dcWrites.map (fun write => (write.start, write.stop)) = [(0, 64), (64, 128)] ∧
      (∀ write ∈ dcWrites, write.start % 256 + (write.stop - write.start) ≤ 256) := by
  intro rcWrites dcWrites
  obtain ⟨rc, dc⟩ := writes_inside_both_rings (U := Nat) .a
  have rcSizes : Nat.nextPowerOfTwo 512 = 512 ∧ Nat.nextPowerOfTwo 1024 = 1024 := by decide +kernel
  have dcSizes : Nat.nextPowerOfTwo 128 = 128 ∧ Nat.nextPowerOfTwo 256 = 256 := by decide +kernel
  have fits : ∀ action, (Party.a, action) ∈ wrappingCalls → Rc.MessageFits 512 action := by
    intro action member
    simp only [wrappingCalls, List.mem_cons, Prod.mk.injEq, true_and, List.not_mem_nil,
      or_false] at member
    rcases member with rfl | rfl <;> decide +kernel
  refine ⟨by decide +kernel, fun write member => ?_, by decide +kernel, fun write member => ?_⟩
  · have inside := rc wideReceivers Rc.sameRegion wrappingCalls
    simp only [wideReceivers, Rc.twoCalls, rcSizes] at inside
    exact (inside (by decide) fits write member).2
  · have inside := dc wideDcReceivers Dc.sameHost batchAndWrap
    simp only [wideDcReceivers, dcSizes] at inside
    exact (inside (by decide) (by decide) write member).2

/-- Send rings of 512 bytes and receive rings of 256 bytes. -/
def wideSenders (party : Party) : Rc.EndpointConfig :=
  { Rc.twoCalls party with recvRingSize := 256, maxRespReservation := 4096 }

def wideDcSenders (_ : Party) : Dc.EndpointConfig where
  sendRingSize := 128
  recvRingSize := 64

/-- A wrap over the whole send ring goes beyond the peer's receive ring, and over RC a reply larger
than the send ring leaves that as well. -/
theorem wrap_leaves_smaller_ring : (run Rc.step (Rc.connected wideSenders Rc.sameRegion)
        [(.a, .call [] 0 (List.replicate 480 1) 7 0)] .a).ep.qp.posted.map
          (fun write => (write.start, write.stop)) = [(0, 512)] ∧
      (run Dc.step (Dc.connected wideDcSenders Dc.sameHost)
        [(.a, .call [] 0 (List.replicate 100 1) 7 0), (.a, .flush [])] .a).ep.dci.posted.map
          (fun write => (write.start, write.stop)) = [(0, 128)] ∧
      (run Rc.step (Rc.connected Rc.clientAndServer Rc.sameRegion)
        [(.a, .call [] 0 [1, 2, 3] 7 20), (.a, .flush []), (.b, .land), (.b, .process), (.b, .recv),
          (.b, .reply [] 0 (List.replicate 250 9)), (.b, .flush [])] .b).ep.qp.posted.map
          (fun write => (write.start, write.stop)) = [(0, 256), (256, 576)] := by
  refine ⟨?_, ?_, ?_⟩
  · decide +kernel
  · decide +kernel
  · decide +kernel

end Locasta.Copyrpc
