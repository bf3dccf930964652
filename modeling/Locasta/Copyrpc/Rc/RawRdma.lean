import Locasta.Data.Run
import Locasta.Mlx5.Cqe
import Mathlib.Data.Nat.ModEq

namespace Locasta.Copyrpc.Rc

open Data Mlx5

/-! Raw RDMA operations of an RC endpoint, and the two counters that tell how many are outstanding.

They go to the send queue of the endpoint, which also takes the WRITEs of its batches. -/

/-- The entry of a raw operation, where a batch has the number of its queue pair. -/
def rawRdmaSentinelQpn : Nat := 2 ^ 32 - 1

structure RawParams where
  remoteAddr : Nat
  remoteRkey : Nat
  localAddr : Nat
  localLkey : Nat
  len : Nat

inductive SendWqe
  | read (params : RawParams)
  | write (params : RawParams)
  | writeImm (signaled : Bool)

namespace SendWqe

/-- Raw operations are always signaled. -/
def entry (qpn : Nat) : SendWqe → Option Nat
  | read _ | write _ => some rawRdmaSentinelQpn
  | writeImm signaled => if signaled then some qpn else none

def isRaw : SendWqe → Bool
  | read _ | write _ => true
  | writeImm _ => false

end SendWqe

/-- Queue pairs are numbered with 24 bits, and the size of the send queue is a `u16`. -/
structure RawEndpoint where
  qpn : Nat
  qpn_lt : qpn < 2 ^ 24
  wqeCnt : Nat
  wqeCnt_lt : wqeCnt < 2 ^ 16
  rawRdmaPosted : Nat
  rawRdmaDone : Nat
  /-- What the device has not completed, oldest first. -/
  sq : List SendWqe
  sendCqeBuffer : List Nat
  /-- Auxiliary: raw operations by what became of them. No operation reads these. -/
  accepted : Nat
  refused : Nat
  succeeded : Nat
  errored : Nat

namespace RawEndpoint

def new (qpn wqeCnt : Nat) (qpn_lt : qpn < 2 ^ 24) (wqeCnt_lt : wqeCnt < 2 ^ 16) : RawEndpoint where
  qpn
  qpn_lt
  wqeCnt
  wqeCnt_lt
  rawRdmaPosted := 0
  rawRdmaDone := 0
  sq := []
  sendCqeBuffer := []
  accepted := 0
  refused := 0
  succeeded := 0
  errored := 0

/-- The body that both operations share. A refused post has increased the counter already. -/
def postRaw (ep : RawEndpoint) (wqe : SendWqe) (refuses : Bool) : Except Unit Unit × RawEndpoint :=
  let ep := { ep with rawRdmaPosted := (ep.rawRdmaPosted + 1) % 2 ^ 32 }
  if refuses || ep.wqeCnt ≤ ep.sq.length then (.error (), { ep with refused := ep.refused + 1 })
  else (.ok (), { ep with sq := ep.sq ++ [wqe], accepted := ep.accepted + 1 })

def postRdmaRead (ep : RawEndpoint) (params : RawParams) (refuses : Bool) :
    Except Unit Unit × RawEndpoint :=
  ep.postRaw (.read params) refuses

def postRdmaWrite (ep : RawEndpoint) (params : RawParams) (refuses : Bool) :
    Except Unit Unit × RawEndpoint :=
  ep.postRaw (.write params) refuses

/-- The WRITE of a batch, for its place in the queue. -/
def emitRaw (ep : RawEndpoint) (signaled refuses : Bool) : RawEndpoint :=
  if refuses || ep.wqeCnt ≤ ep.sq.length then ep
  else { ep with sq := ep.sq ++ [.writeImm signaled] }

/-- `wrapping_sub` -/
def rawRdmaPending (ep : RawEndpoint) : Nat := (ep.rawRdmaPosted + 2 ^ 32 - ep.rawRdmaDone) % 2 ^ 32

def sqCallback (ep : RawEndpoint) (opcode : CqeOpcode) (entryQpn : Nat) : RawEndpoint :=
  if opcode = .reqErr ∨ opcode = .respErr then ep
  else if entryQpn = rawRdmaSentinelQpn then
    { ep with rawRdmaDone := (ep.rawRdmaDone + 1) % 2 ^ 32 }
  else { ep with sendCqeBuffer := ep.sendCqeBuffer ++ [entryQpn] }

def countCompletion (ep : RawEndpoint) (opcode : CqeOpcode) (wqe : SendWqe) : RawEndpoint :=
  if !wqe.isRaw then ep
  else if opcode = .req then { ep with succeeded := ep.succeeded + 1 }
  else { ep with errored := ep.errored + 1 }

/-- A completion for `wqe`, which is looked up in the table of the signaled ones. -/
def dispatchCqe (ep : RawEndpoint) (opcode : CqeOpcode) (wqe : SendWqe) : RawEndpoint :=
  let ep := ep.countCompletion opcode wqe
  match wqe.entry ep.qpn with
  | none => ep
  | some entryQpn => ep.sqCallback opcode entryQpn

/-- From the WQE on that completes next: a signaled one, or with an error any. -/
def completing (ep : RawEndpoint) (opcode : CqeOpcode) : List SendWqe :=
  if opcode = .req then ep.sq.dropWhile fun wqe => (wqe.entry ep.qpn).isNone else ep.sq

/-- The completions of the responder and of tag matching are not of the send queue. -/
def complete (ep : RawEndpoint) (opcode : CqeOpcode) : RawEndpoint :=
  if opcode ≠ .req ∧ opcode ≠ .reqErr then ep
  else
    match ep.completing opcode with
    | [] => ep
    | wqe :: rest => { ep with sq := rest }.dispatchCqe opcode wqe

inductive Action
  | postRdmaRead (params : RawParams) (refuses : Bool)
  | postRdmaWrite (params : RawParams) (refuses : Bool)
  | emitRaw (signaled refuses : Bool)
  | complete (opcode : CqeOpcode)

def step (ep : RawEndpoint) : Action → RawEndpoint
  | .postRdmaRead params refuses => (ep.postRdmaRead params refuses).2
  | .postRdmaWrite params refuses => (ep.postRdmaWrite params refuses).2
  | .emitRaw signaled refuses => ep.emitRaw signaled refuses
  | .complete opcode => ep.complete opcode

/-- The posts that returned `Ok` and whose completion was not processed yet. -/
def outstanding (ep : RawEndpoint) : Nat := ep.accepted - (ep.succeeded + ep.errored)

/-- The counters agree with what became of the operations and with the send queue. -/
structure Counted (ep : RawEndpoint) : Prop where
  posted : ep.rawRdmaPosted = (ep.accepted + ep.refused) % 2 ^ 32
  done : ep.rawRdmaDone = ep.succeeded % 2 ^ 32
  queued : ep.accepted = ep.succeeded + ep.errored + ep.sq.countP SendWqe.isRaw
  room : ep.sq.length ≤ ep.wqeCnt

namespace Counted

variable {ep : RawEndpoint}

theorem new {qpn wqeCnt : Nat} {qpn_lt : qpn < 2 ^ 24} {wqeCnt_lt : wqeCnt < 2 ^ 16} :
    Counted (new qpn wqeCnt qpn_lt wqeCnt_lt) :=
  ⟨rfl, rfl, rfl, Nat.zero_le _⟩

theorem postRaw (counted : Counted ep) {wqe : SendWqe} (raw : wqe.isRaw = true) (refuses : Bool) :
    Counted (ep.postRaw wqe refuses).2 := by
  have next : (ep.rawRdmaPosted + 1) % 2 ^ 32 = (ep.accepted + ep.refused + 1) % 2 ^ 32 := by
    rw [counted.posted, Nat.mod_add_mod]
  unfold RawEndpoint.postRaw
  dsimp only
  split
  · exact { counted with posted := next }
  · rename_i free
    have space : ep.sq.length < ep.wqeCnt := by
      simp only [Bool.or_eq_true, decide_eq_true_eq, not_or, Nat.not_le] at free
      exact free.2
    have queued := counted.queued
    exact { counted with
      posted := by
        rw [next, Nat.add_right_comm]
      queued := by
        simp only [List.countP_append, List.countP_singleton, raw, if_true]
        omega
      room := by simpa [Nat.succ_le_iff] using space }

theorem emitRaw (counted : Counted ep) (signaled refuses : Bool) :
    Counted (ep.emitRaw signaled refuses) := by
  unfold RawEndpoint.emitRaw
  split
  · exact counted
  · rename_i free
    have space : ep.sq.length < ep.wqeCnt := by
      simp only [Bool.or_eq_true, decide_eq_true_eq, not_or, Nat.not_le] at free
      exact free.2
    exact { counted with
      queued := by simpa [SendWqe.isRaw] using counted.queued
      room := by simpa [Nat.succ_le_iff] using space }

theorem completing (counted : Counted ep) (opcode : CqeOpcode) :
    Counted { ep with sq := ep.completing opcode } := by
  have skipped : (ep.completing opcode).countP SendWqe.isRaw = ep.sq.countP SendWqe.isRaw := by
    unfold RawEndpoint.completing
    split
    · induction ep.sq with
      | nil => rfl
      | cons wqe rest ih =>
        rw [List.dropWhile_cons]
        split
        · rename_i unsignaled
          cases wqe with
          | read params | write params => cases unsignaled
          | writeImm signaled => exact ih
        · rfl
    · rfl
  have shorter : (ep.completing opcode).length ≤ ep.sq.length := by
    unfold RawEndpoint.completing
    split
    · exact (List.dropWhile_suffix _).length_le
    · exact Nat.le_refl _
  exact { counted with
    queued := counted.queued.trans (by rw [skipped])
    room := Nat.le_trans shorter counted.room }

theorem dispatchCqe {opcode : CqeOpcode} {wqe : SendWqe} {rest : List SendWqe}
    (counted : Counted { ep with sq := wqe :: rest }) (requester : opcode = .req ∨ opcode = .reqErr) :
    Counted ({ ep with sq := rest }.dispatchCqe opcode wqe) := by
  have queued := counted.queued
  have room : rest.length ≤ ep.wqeCnt := Nat.le_of_succ_le counted.room
  rw [List.countP_cons] at queued
  cases raw : wqe.isRaw with
  | false =>
    have kept : Counted { ep with sq := rest } :=
      { counted with queued := by simpa [raw] using queued, room }
    cases wqe with
    | read params | write params => cases raw
    | writeImm signaled =>
      have other : ep.qpn ≠ rawRdmaSentinelQpn := by
        have small := ep.qpn_lt
        unfold rawRdmaSentinelQpn
        omega
      cases signaled with
      | false => exact kept
      | true =>
        change Counted (sqCallback { ep with sq := rest } opcode ep.qpn)
        unfold sqCallback
        rw [if_neg other]
        split
        · exact kept
        · exact { kept with }
  | true =>
    have entry : wqe.entry ep.qpn = some rawRdmaSentinelQpn := by
      cases wqe with
      | read params | write params => rfl
      | writeImm signaled => cases raw
    rcases requester with rfl | rfl
    case inl =>
      have done : (ep.rawRdmaDone + 1) % 2 ^ 32 = (ep.succeeded + 1) % 2 ^ 32 := by
        rw [show ep.rawRdmaDone = _ from counted.done, Nat.mod_add_mod]
      have result : { ep with sq := rest }.dispatchCqe .req wqe =
          { ep with
            sq := rest
            rawRdmaDone := (ep.rawRdmaDone + 1) % 2 ^ 32
            succeeded := ep.succeeded + 1 } := by
        simp [RawEndpoint.dispatchCqe, countCompletion, raw, entry, sqCallback]
      rw [result]
      exact { counted with
        done
        queued := by
          simp only [raw, if_true] at queued
          dsimp only
          omega
        room }
    case inr =>
      have result : { ep with sq := rest }.dispatchCqe .reqErr wqe =
          { ep with sq := rest, errored := ep.errored + 1 } := by
        simp [RawEndpoint.dispatchCqe, countCompletion, raw, entry, sqCallback]
      rw [result]
      exact { counted with
        queued := by
          simp only [raw, if_true] at queued
          dsimp only
          omega
        room }

variable (counted : Counted ep)
include counted

theorem complete (opcode : CqeOpcode) : Counted (ep.complete opcode) := by
  unfold RawEndpoint.complete
  split
  · exact counted
  · rename_i requester
    have left := counted.completing opcode
    split
    · exact counted
    · rename_i wqe rest next
      rw [next] at left
      exact left.dispatchCqe (by tauto)

/-- The counters of raw operations agree with the send queue after each step. -/
theorem step (action : Action) : Counted (ep.step action) := by
  cases action with
  | postRdmaRead params refuses => exact counted.postRaw rfl refuses
  | postRdmaWrite params refuses => exact counted.postRaw rfl refuses
  | emitRaw signaled refuses => exact counted.emitRaw signaled refuses
  | complete opcode => exact counted.complete opcode

theorem outstanding_eq : ep.outstanding = ep.sq.countP SendWqe.isRaw := by
  rw [outstanding, counted.queued, Nat.add_sub_cancel_left]

theorem outstanding_lt : ep.outstanding < 2 ^ 16 := by
  rw [counted.outstanding_eq]
  exact Nat.lt_of_le_of_lt (Nat.le_trans List.countP_le_length counted.room) ep.wqeCnt_lt

theorem rawRdmaPending_eq :
    ep.rawRdmaPending = (ep.outstanding + (ep.refused + ep.errored)) % 2 ^ 32 := by
  have total : ep.accepted = ep.succeeded + ep.errored + ep.outstanding := by
    rw [counted.outstanding_eq]
    exact counted.queued
  unfold rawRdmaPending
  rw [counted.posted, counted.done]
  omega

end Counted

/-- The number is that of the outstanding operations exactly as long as no post was refused and none
ended with an error, up to a multiple of `2 ^ 32`. -/
theorem rawRdmaPending_eq_outstanding_iff (qpn wqeCnt : Nat) (qpn_lt : qpn < 2 ^ 24)
    (wqeCnt_lt : wqeCnt < 2 ^ 16) (actions : List Action) :
    let ep := run step (new qpn wqeCnt qpn_lt wqeCnt_lt) actions
    ep.rawRdmaPending = ep.outstanding ↔ (ep.refused + ep.errored) % 2 ^ 32 = 0 := by
  have counted : Counted (run step (new qpn wqeCnt qpn_lt wqeCnt_lt) actions) :=
    run_always (fun _ action before => before.step action) Counted.new
  have small := counted.outstanding_lt
  dsimp only
  rw [counted.rawRdmaPending_eq]
  omega

def fourEntries : RawEndpoint := new 5 4 (by decide) (by decide)

def oneBlock : RawParams where
  remoteAddr := 4096
  remoteRkey := 1
  localAddr := 8192
  localLkey := 2
  len := 64

theorem rawRdmaPending_eq_outstanding_iff_threePosts :
    (run step fourEntries [.postRdmaRead oneBlock false, .emitRaw true false,
      .postRdmaWrite oneBlock false, .complete .req]).rawRdmaPending = 1 :=
  (rawRdmaPending_eq_outstanding_iff 5 4 (by decide) (by decide) [.postRdmaRead oneBlock false,
    .emitRaw true false, .postRdmaWrite oneBlock false, .complete .req]).mpr (by decide)

/-- A post that is refused, and one whose completion is an error. -/
theorem rawRdmaPending_drifts : (let ep := run step fourEntries [.postRdmaRead oneBlock true]
     ep.outstanding = 0 ∧ ep.rawRdmaPending = 1) ∧
    (let ep := run step fourEntries [.postRdmaWrite oneBlock false, .complete .reqErr]
     ep.outstanding = 0 ∧ ep.rawRdmaPending = 1) := by
  decide

end RawEndpoint

end Locasta.Copyrpc.Rc
