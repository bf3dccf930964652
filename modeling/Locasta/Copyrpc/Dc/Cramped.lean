import Locasta.Copyrpc.Dc.Lockstep

namespace Locasta.Copyrpc.Dc

open Data

/-! Rings that cannot hold a header and a message. No call or reply is accepted there, and what
the endpoints still exchange, wraps and batches that return credit, brings no message. -/

variable {U : Type} {size : Nat} {ring : RemoteRingInfo}

/-- A WRITE without messages. In a short ring a wrap does not even carry the count. -/
def WriteImm.Bare (size : Nat) (ring : RemoteRingInfo) (write : WriteImm) : Prop :=
  write.remoteAddr = ring.addr ∧ ((size ≤ 16 ∧ write.payload.length ≤ 16) ∨
      ∃ header, write.payload = encodeBatchHeader header ∧ (header.messageCount = 0 ∨
          size = 32 ∧ header.messageCount = wrapMessageCount ∧ header.delta = 32))

/-- The header at the start of the receive ring announces no messages. -/
def Blank (size : Nat) (memory : Memory) : Prop :=
  let header := decodeBatchHeader (memory.read 0 batchHeaderSize)
  header.messageCount = 0 ∨ size = 32 ∧ header.messageCount = wrapMessageCount ∧ header.delta = 32

theorem decodeBatchHeader_messageCount (memory : Memory) :
    (decodeBatchHeader (memory.read 0 batchHeaderSize)).messageCount =
      ofLeBytes (memory.read 16 4) := by
  change ofLeBytes (((memory.read 0 (16 + 16)).drop 16).take 4) = _
  rw [memory.read_add, List.drop_left' (Memory.read_length ..), Memory.read_take (by decide)]

theorem Blank.write {memory : Memory} {write : WriteImm} (blank : Blank size memory)
    (bare : write.Bare size ring) : Blank size (memory.write 0 write.payload) := by
  rcases bare.2 with ⟨tiny, short⟩ | ⟨header, payload, shape⟩
  · have count := decodeBatchHeader_messageCount (memory.write 0 write.payload)
    have kept : (memory.write 0 write.payload).read 16 4 = memory.read 16 4 :=
      Memory.read_write_disjoint (.inr (by omega))
    rw [kept, ← decodeBatchHeader_messageCount] at count
    rcases blank with zero | ⟨large, _⟩
    · exact .inl (count.trans zero)
    · omega
  · have stored : (memory.write 0 write.payload).read 0 batchHeaderSize = encodeBatchHeader header := by
      have same := Memory.read_write_same memory 0 (encodeBatchHeader header)
      rw [encodeBatchHeader_length] at same
      rw [payload]
      exact same
    simp only [Blank, stored, decodeBatchHeader_encodeBatchHeader]
    rcases shape with zero | ⟨large, wrap, delta⟩
    · left
      rw [zero, Nat.zero_mod]
    · right
      rw [wrap, delta]
      exact ⟨large, by decide, by decide⟩

namespace EndpointInner

variable {ep : EndpointInner U} {dct : RemoteDctInfo}

/-- A sender without messages: every batch starts at the start of the ring. -/
structure Cramped (ring : RemoteRingInfo) (size : Nat) (ep : EndpointInner U) : Prop where
  attached : ep.Attached ring
  ringLen : ep.sendRingLen = size
  remoteLen : ring.size = size
  divides : size ∣ 32
  power : size.isPowerOfTwo
  empty : ep.batchMessageCount = 0
  start : ep.flushStartPos = ep.metaPos
  aligned : ep.metaPos % size = 0
  reserved : ep.metaPos ≤ ep.sendRingProducer
  settled : ep.wrapPending = false → ep.sendRingProducer = ep.metaPos + batchHeaderSize
  bare : ∀ write ∈ ep.dci.posted, write.Bare size ring

namespace Cramped

section

variable (cramped : Cramped ring size ep)
include cramped

theorem congr {other : EndpointInner U}
    (attached : other.remoteRecvRing = ep.remoteRecvRing ∧ other.remoteDct = ep.remoteDct)
    (same : { other.outlet with ring := ep.sendRing } = ep.outlet)
    (settled : other.wrapPending = false → ep.wrapPending = false) : Cramped ring size other := by
  have start : other.flushStartPos = ep.flushStartPos := congrArg Outlet.flushStart same
  have metaPos : other.metaPos = ep.metaPos := congrArg Outlet.metaPos same
  have producer : other.sendRingProducer = ep.sendRingProducer := congrArg Outlet.producer same
  have posted : other.dci.posted = ep.dci.posted := congrArg Outlet.posted same
  exact { cramped with
    attached := cramped.attached.congr attached.1 attached.2
    ringLen := (congrArg Outlet.size same).trans cramped.ringLen
    empty := (congrArg Outlet.count same).trans cramped.empty
    start := by rw [start, metaPos, cramped.start]
    aligned := metaPos ▸ cramped.aligned
    reserved := by rw [metaPos, producer]; exact cramped.reserved
    settled := fun none => by rw [metaPos, producer]; exact cramped.settled (settled none)
    bare := posted ▸ cramped.bare }

theorem offset : maskOffset ep.metaPos size = 0 := by
  rw [maskOffset_eq_mod cramped.power, cramped.aligned]

theorem not_hasRoom (length : Nat) : ¬ ep.HasRoom ring (dcPaddedMessageSize length) := by
  rintro ⟨room, _⟩
  have small : size ≤ 32 := Nat.le_of_dvd (by decide) cramped.divides
  have reserved := cramped.reserved
  have message : alignment ≤ dcPaddedMessageSize length := by
    have fits : dcHeaderSize + length ≤ dcPaddedMessageSize length := alignUp_ge _
    unfold dcHeaderSize at fits
    exact Nat.le_of_dvd (by omega) (alignUp_dvd _)
  unfold alignment at message
  rw [hasCycleRoomFor_iff (cramped.ringLen ▸ cramped.power) reserved, cramped.ringLen] at room
  omega

theorem placeWrap_producer : ep.placeWrap.sendRingProducer = ep.metaPos + size := by
  change ep.metaPos + (ep.sendRingLen - maskOffset ep.metaPos ep.sendRingLen) = _
  rw [cramped.ringLen, cramped.offset, Nat.sub_zero]

theorem currentWrite_payload (messageCount : Nat) {length : Nat}
    (producer : ep.sendRingProducer = ep.metaPos + length) (short : length ≤ 32) :
    (ep.currentWrite ring dct messageCount).payload =
      (encodeBatchHeader (ep.currentBatch messageCount).header).take length := by
  have word : asU32 (ep.sendRingProducer - ep.flushStartPos) = length := by
    rw [producer, cramped.start, Nat.add_sub_cancel_left]
    exact Nat.mod_eq_of_lt (by omega)
  have whole := Memory.read_write_same ep.sendRing 0
    (encodeBatchHeader (ep.currentBatch messageCount).header)
  rw [encodeBatchHeader_length] at whole
  change Memory.read (ep.sendRing.write (maskOffset ep.flushStartPos ep.sendRingLen) _)
    (maskOffset ep.flushStartPos ep.sendRingLen) (asU32 (ep.sendRingProducer - ep.flushStartPos)) = _
  rw [word, cramped.start, cramped.ringLen, cramped.offset, ← Memory.read_take (show length ≤
    flowMetadataSize from short), whole]

theorem remoteAddr (messageCount : Nat) :
    (ep.currentWrite ring dct messageCount).remoteAddr = ring.addr := by
  change ring.addr + maskOffset ep.flushStartPos ring.size = _
  rw [cramped.start, cramped.remoteLen, cramped.offset, Nat.add_zero]

theorem post {messageCount length : Nat}
    (producer : ep.sendRingProducer = ep.metaPos + length) (divides : size ∣ length)
    (bare : (ep.currentWrite ring dct messageCount).Bare size ring) :
    Cramped ring size (ep.postBatch ring dct messageCount) where
  attached := cramped.attached.congr rfl rfl
  ringLen := cramped.ringLen
  remoteLen := cramped.remoteLen
  divides := cramped.divides
  power := cramped.power
  empty := rfl
  start := rfl
  aligned := by
    change ep.sendRingProducer % size = 0
    rw [producer, Nat.add_mod, cramped.aligned, Nat.mod_eq_zero_of_dvd divides, Nat.zero_mod]
  reserved := Nat.le_add_right ..
  settled _ := rfl
  bare := List.forall_mem_append.mpr ⟨cramped.bare, List.forall_mem_singleton.mpr bare⟩

theorem refuse (messageCount : Nat) : Cramped ring size (ep.refuseBatch messageCount) :=
  cramped.congr ⟨rfl, rfl⟩ rfl id

theorem placeWrap (pending : ep.wrapPending = true) : Cramped ring size ep.placeWrap :=
  ⟨cramped.attached.congr rfl rfl, cramped.ringLen, cramped.remoteLen, cramped.divides,
    cramped.power, cramped.empty, cramped.start, cramped.aligned, Nat.le_add_right ..,
    fun none => absurd (pending.symm.trans none) (by decide), cramped.bare⟩

theorem credit (noWrap : ep.wrapPending = false) : Cramped ring size (ep.postBatch ring dct 0) := by
  have producer := cramped.settled noWrap
  refine cramped.post producer cramped.divides ⟨cramped.remoteAddr 0,
    .inr ⟨(ep.currentBatch 0).header, ?_, .inl rfl⟩⟩
  rw [cramped.currentWrite_payload 0 producer (Nat.le_refl _)]
  exact List.take_of_length_le (encodeBatchHeader_length _).le

theorem wrap (pending : ep.wrapPending = true) :
    Cramped ring size (ep.placeWrap.postBatch ring dct wrapMessageCount) := by
  have placed := cramped.placeWrap pending
  have producer : ep.placeWrap.sendRingProducer = ep.placeWrap.metaPos + size :=
    cramped.placeWrap_producer
  have small : size ≤ 32 := Nat.le_of_dvd (by decide) cramped.divides
  have payload : (ep.placeWrap.currentWrite ring dct wrapMessageCount).payload = _ :=
    placed.currentWrite_payload wrapMessageCount producer small
  refine placed.post producer (Nat.dvd_refl _) ⟨placed.remoteAddr _, ?_⟩
  by_cases large : size = 32
  · subst large
    refine .inr ⟨(ep.placeWrap.currentBatch wrapMessageCount).header, ?_, .inr ⟨rfl, rfl, ?_⟩⟩
    · rw [payload]
      exact List.take_of_length_le (encodeBatchHeader_length _).le
    · change ep.placeWrap.sendRingProducer - ep.flushStartPos = 32
      rw [cramped.placeWrap_producer, cramped.start, Nat.add_sub_cancel_left]
  · have half : size ≤ 16 := by
      obtain ⟨factor, product⟩ := cramped.divides
      rcases factor with _ | _ | factor
      · omega
      · omega
      · rw [Nat.mul_add, Nat.mul_add] at product
        omega
    refine .inl ⟨half, ?_⟩
    rw [payload, List.length_take]
    exact (Nat.min_le_left ..).trans half

end

theorem stable : Stable ring (fun ep : EndpointInner U => ep.wrapPending = true) (fun _ => True)
    (Cramped ring size) where
  attached cramped := cramped.attached
  flags := by
    intro ep cramped isDirty newlySignaledCount wrapPending noted
    refine cramped.congr ⟨rfl, rfl⟩ rfl ?_
    rintro rfl
    exact Bool.eq_false_of_not_eq_true fun pending => absurd (noted pending) (by decide)
  close cramped nonempty _ := absurd cramped.empty (Nat.ne_of_gt nonempty)
  closeRefused cramped nonempty _ := absurd cramped.empty (Nat.ne_of_gt nonempty)
  wrap := by
    intro ep dct cramped _ pending _
    have wrapped : Cramped ring size (ep.placeWrap.postBatch ring dct wrapMessageCount) :=
      cramped.wrap pending
    exact ⟨wrapped.attached.congr rfl rfl, wrapped.ringLen, wrapped.remoteLen, wrapped.divides,
      wrapped.power, wrapped.empty, wrapped.start, wrapped.aligned, wrapped.reserved,
      fun _ => rfl, wrapped.bare⟩
  wrapRefused cramped _ pending _ _ := (cramped.placeWrap pending).refuse _
  credit cramped _ noWrap _ _ := cramped.credit noWrap
  creditRefused cramped _ _ _ _ := cramped.refuse _

end Cramped

end EndpointInner

open EndpointInner

variable {own peer : DcSide U} {address : Nat}

/-- Nothing was sent, received or answered. -/
structure Mute (side : DcSide U) : Prop where
  sent : side.sent = []
  seen : side.seen = 0
  recvStack : side.recvStack = []
  handles : side.handles = []
  received : side.received = []
  responses : side.responses = []

/-- An endpoint of a cramped connection. `ring` is its peer's, `address` that of its own. -/
structure CrampedEnd (ring : RemoteRingInfo) (address size : Nat) (ep : EndpointInner U) :
    Prop where
  sending : ep.Cramped ring size
  address : ep.recvRingMr.addr = address
  recvRingLen : ep.recvRingLen = size
  position : ep.lastRecvPos % size = 0
  blank : Blank size ep.recvRing

theorem CrampedEnd.stable : Stable ring (fun ep : EndpointInner U => ep.wrapPending = true)
    (fun _ => True) (CrampedEnd ring address size) where
  attached holds := holds.sending.attached
  flags holds isDirty newlySignaledCount wrapPending noted :=
    ⟨Cramped.stable.flags holds.sending isDirty newlySignaledCount wrapPending noted,
      holds.address, holds.recvRingLen, holds.position, holds.blank⟩
  close holds nonempty room := ⟨Cramped.stable.close holds.sending nonempty room, holds.address,
    holds.recvRingLen, holds.position, holds.blank⟩
  closeRefused holds nonempty full := ⟨Cramped.stable.closeRefused holds.sending nonempty full,
    holds.address, holds.recvRingLen, holds.position, holds.blank⟩
  wrap holds empty pending room := ⟨Cramped.stable.wrap holds.sending empty pending room,
    holds.address, holds.recvRingLen, holds.position, holds.blank⟩
  wrapRefused holds empty pending wrappable full :=
    ⟨Cramped.stable.wrapRefused holds.sending empty pending wrappable full, holds.address,
      holds.recvRingLen, holds.position, holds.blank⟩
  credit holds empty noWrap _ room := ⟨Cramped.stable.credit holds.sending empty noWrap trivial room,
    holds.address, holds.recvRingLen, holds.position, holds.blank⟩
  creditRefused holds empty noWrap _ full :=
    ⟨Cramped.stable.creditRefused holds.sending empty noWrap trivial full, holds.address,
      holds.recvRingLen, holds.position, holds.blank⟩

namespace CrampedEnd

variable {ep : EndpointInner U}

variable (cramped : CrampedEnd ring address size ep)
include cramped

theorem offer (answers : List Bool) : CrampedEnd ring address size (ep.offer answers) :=
  ⟨cramped.sending.congr ⟨rfl, rfl⟩ rfl id, cramped.address, cramped.recvRingLen, cramped.position,
    cramped.blank⟩

theorem store {back : RemoteRingInfo} {write : WriteImm}
    (bare : write.Bare size back) (here : back.addr = address) :
    CrampedEnd ring address size (ep.store write) := by
  refine ⟨cramped.sending.congr ⟨rfl, rfl⟩ rfl id, cramped.address, cramped.recvRingLen,
    cramped.position, ?_⟩
  change Blank size (ep.recvRing.write (write.remoteAddr - ep.recvRingMr.addr) write.payload)
  rw [bare.1, cramped.address, here, Nat.sub_self]
  exact cramped.blank.write bare

theorem process (imm : UInt32) :
    CrampedEnd ring address size (ep.processCqeStatic imm).1 ∧ (ep.processCqeStatic imm).2 = [] := by
  have moved {recvRingProducer remoteConsumerPos lastRecvPos : Nat}
      (position : lastRecvPos % size = 0) : CrampedEnd ring address size
      { ep with recvRingProducer, remoteConsumerPos, lastRecvPos } :=
    ⟨cramped.sending.congr ⟨rfl, rfl⟩ rfl id, cramped.address, cramped.recvRingLen, position,
      cramped.blank⟩
  have offset : maskOffset ep.lastRecvPos ep.recvRingLen = 0 := by
    rw [cramped.recvRingLen, maskOffset_eq_mod cramped.sending.power, cramped.position]
  have next : (ep.lastRecvPos + batchHeaderSize) % size = 0 := by
    have cycles : size ∣ batchHeaderSize := cramped.sending.divides
    rw [Nat.add_mod, cramped.position, Nat.mod_eq_zero_of_dvd cycles, Nat.zero_mod]
  have blank := cramped.blank
  simp only [Blank] at blank
  simp only [processCqeStatic, offset]
  split
  · exact ⟨cramped, rfl⟩
  · rcases blank with zero | ⟨_, wrap, delta⟩
    · have noWrap : ¬ (0 = wrapMessageCount) := by decide
      simp only [zero, if_neg noWrap, processMessages]
      exact ⟨moved next, trivial⟩
    · simp only [wrap, delta, if_true]
      exact ⟨moved next, trivial⟩

end CrampedEnd

theorem CrampedEnd.act {back : RemoteRingInfo} {peerAddress : Nat}
    (cramped : CrampedEnd ring address size own.ep) (mute : Mute own)
    (peerCramped : CrampedEnd back peerAddress size peer.ep) (here : back.addr = address)
    (action : Action U) :
    CrampedEnd ring address size (own.act transport peer action).ep ∧
      Mute (own.act transport peer action) := by
  have same {ep : EndpointInner U} (kept : CrampedEnd ring address size ep) :
      CrampedEnd ring address size ep ∧ Mute { own with ep } :=
    ⟨kept, mute.sent, mute.seen, mute.recvStack, mute.handles, mute.received, mute.responses⟩
  refine Side.act_elim (motive := fun side => CrampedEnd ring address size side.ep ∧ Mute side)
    action ⟨cramped, mute⟩ ?_ ?_ ?_ ?_ ?_ ?_ ?_ ?_ ?_
  · intro answers key data userData responseAllowance callId ep _ outcome
    exact (stable.call (Q := fun _ => False) (cramped.offer answers) responseAllowance
      ((cramped.offer answers).sending.not_hasRoom _)).1 callId ep outcome |>.elim
  · intro answers key data userData responseAllowance error ep _ outcome
    exact same ((stable.call (Q := fun _ => True) (cramped.offer answers) responseAllowance
      (fun _ => trivial)).2 error ep outcome)
  · intro answers index data request value ep _ live
    rw [mute.handles] at live
    cases live
  · intro answers index data request error ep _ live
    rw [mute.handles] at live
    cases live
  · intro answers _
    exact same (stable.flushEndpoint (cramped.offer answers)
      (fun _ _ wraps => wraps.pending) (fun _ _ _ => trivial))
  · intro request rest waiting
    rw [mute.recvStack] at waiting
    cases waiting
  · intro index
    exact ⟨cramped, mute.sent, mute.seen, mute.recvStack, by rw [mute.handles]; rfl, mute.received,
      mute.responses⟩
  · intro write _ next
    have bare := peerCramped.sending.bare write (List.mem_of_getElem? next)
    exact ⟨cramped.store bare here, mute.sent, mute.seen, mute.recvStack, mute.handles, mute.received,
      mute.responses⟩
  · intro write _ _ _ _ _ _ observed
    obtain ⟨kept, none⟩ := cramped.process write.imm
    have silent : (transport.process own.ep write).2 = [] := none
    rw [← observed, silent, List.foldl_nil]
    exact ⟨kept, mute.sent, mute.seen, mute.recvStack, mute.handles, mute.received, mute.responses⟩

/-- With rings below 64 bytes nothing is ever sent or received. -/
theorem mute_run {config : Party → EndpointConfig} (rings : EqualRings config size)
    (small : size < 64) (host : Party → Host) (actions : List (Party × Action U)) (party : Party) :
    Mute (run step (connected config host) actions party) ∧
      (run step (connected config host) actions party).ep.Attached
        ((connected (U := U) config host party.peer).ep.target.ring) := by
  have power : size.isPowerOfTwo := (rings .a).1 ▸ Nat.isPowerOfTwo_nextPowerOfTwo _
  have divides : size ∣ 32 := by
    obtain ⟨exponent, rfl⟩ := power
    have short : exponent ≤ 5 := by
      by_contra long
      have : 2 ^ 6 ≤ 2 ^ exponent := Nat.pow_le_pow_right (by decide) (by omega)
      omega
    exact Nat.pow_dvd_pow 2 short
  have initial (party : Party) :
      CrampedEnd (connected (U := U) config host party.peer).ep.target.ring (host party).region.addr
        size (connected (U := U) config host party).ep ∧
      Mute (connected (U := U) config host party) := by
    refine ⟨⟨⟨⟨_, rfl, rfl⟩, (rings party).1, (rings party.peer).2, divides, power, rfl, rfl,
      Nat.zero_mod _, Nat.zero_le _, fun _ => rfl, ?_⟩, rfl, (rings party).2, Nat.zero_mod _, ?_⟩,
      rfl, rfl, rfl, rfl, rfl, rfl⟩
    · intro write member
      cases member
    · left
      rw [decodeBatchHeader_messageCount]
      rfl
  obtain ⟨cramped, mute⟩ := run_each (fun party side =>
      CrampedEnd (connected (U := U) config host party.peer).ep.target.ring (host party).region.addr
        size side.ep ∧ Mute side)
    (fun party own peer action kept peerKept =>
      kept.1.act kept.2 peerKept.1 (by rw [Party.peer_peer]; rfl) action) initial actions party
  exact ⟨mute, cramped.sending.attached⟩

end Locasta.Copyrpc.Dc
