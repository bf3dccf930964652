import Locasta.Mlx5.Srq
import Locasta.Data.Run

namespace Locasta.Copyrpc.Dc

open Data Mlx5

/-! The receives that a DC context keeps posted.

A WRITE with immediate data uses up one receive of the shared receive queue. The context counts the
receives that it believes posted and posts new ones without looking at the results. Only one of the
two ways to poll tells the queue that receives were used.
-/

inductive SrqEntry where
  | srqEntry

/-- The fields of `Context` that the receive path keeps. -/
structure RecvContext where
  srq : SrqState SrqEntry
  srqPosted : Nat
  srqMaxWr : Nat

/-- `for _ in 0..count { let _ = srq.post_recv(SrqEntry, 0, 0, 0); }` -/
def postRecvs (srq : SrqState SrqEntry) : Nat → SrqState SrqEntry
  | 0 => srq
  | count + 1 => postRecvs (srq.postRecv .srqEntry 0 0 0).2 count

theorem counted_postRecvs {srq : SrqState SrqEntry} {retired : Nat} (counted : srq.Counted retired)
    (count : Nat) :
    (postRecvs srq count).Counted retired ∧ (postRecvs srq count).wqeCnt = srq.wqeCnt ∧
      (postRecvs srq count).posted = min (srq.posted + count) (retired + srq.wqeCnt) := by
  induction count generalizing srq with
  | zero => exact ⟨counted, rfl, by have := counted.window; change srq.posted = _; omega⟩
  | succ count ih =>
    obtain ⟨next, size, posted⟩ := counted.postRecv .srqEntry 0 0 0
    obtain ⟨later, sameSize, total⟩ := ih next
    refine ⟨later, sameSize.trans size, total.trans ?_⟩
    rw [posted, size]
    omega

namespace RecvContext

def build (buf : Memory) (stride actualMaxWr srqMaxWr : Nat) : RecvContext where
  srq := postRecvs (.create buf stride actualMaxWr) srqMaxWr
  srqPosted := srqMaxWr
  srqMaxWr

def threshold (context : RecvContext) : Nat := context.srqMaxWr * 2 % 2 ^ 32 / 3

/-- The end of both polls, once they have read `recvCount` entries of the receive CQ. -/
def replenish (context : RecvContext) (recvCount : Nat) : RecvContext :=
  let posted := context.srqPosted - recvCount
  if posted < context.threshold then
    { context with
      srq := postRecvs context.srq (context.srqMaxWr - posted)
      srqPosted := context.srqMaxWr }
  else { context with srqPosted := posted }

def pollRecvCounted (context : RecvContext) (recvCount : Nat) : Nat × RecvContext :=
  if recvCount > 0 then
    (recvCount, { context with srq := context.srq.advanceCi recvCount }.replenish recvCount)
  else (recvCount, context)

/-- `RecvPoller::poll`. A poll that finds no pending entry returns at once. -/
def recvPollerPoll (context : RecvContext) (recvCount : Nat) : Nat × RecvContext :=
  if recvCount = 0 then (0, context) else (recvCount, context.replenish recvCount)

end RecvContext

/-- `consumed` receives in all, `unadvanced` of them without moving the consumer index. -/
structure RecvSession where
  context : RecvContext
  consumed : Nat
  unadvanced : Nat

namespace RecvSession

inductive Poll where
  | counted (recvCount : Nat)
  | poller (recvCount : Nat)

def Poll.recvCount : Poll → Nat
  | .counted recvCount | .poller recvCount => recvCount

def start (context : RecvContext) : RecvSession where
  context
  consumed := 0
  unadvanced := 0

def step (session : RecvSession) : Poll → RecvSession
  | .counted recvCount =>
    { session with
      context := (session.context.pollRecvCounted recvCount).2
      consumed := session.consumed + recvCount }
  | .poller recvCount =>
    { context := (session.context.recvPollerPoll recvCount).2
      consumed := session.consumed + recvCount
      unadvanced := session.unadvanced + recvCount }

/-- The receives that the device can still use. -/
def outstanding (session : RecvSession) : Nat := session.context.srq.posted - session.consumed

/-- Each completion uses one of the posted receives. -/
def Consumes (session : RecvSession) (poll : Poll) : Prop := poll.recvCount ≤ session.outstanding

def Refills (session : RecvSession) (poll : Poll) : Prop :=
  0 < poll.recvCount ∧ session.context.srqPosted - poll.recvCount < session.context.threshold

def unadvancedAfter (session : RecvSession) : Poll → Nat
  | .counted _ => session.unadvanced
  | .poller recvCount => session.unadvanced + recvCount

/-- The receives that were used behind the queue's back leave room for a full set. -/
def RoomToRefill (session : RecvSession) (poll : Poll) : Prop :=
  session.Refills poll →
    session.unadvancedAfter poll + session.context.srqMaxWr ≤ session.context.srq.wqeCnt

instance (session : RecvSession) (poll : Poll) :
    Decidable (session.Consumes poll ∧ session.RoomToRefill poll) :=
  inferInstanceAs (Decidable (_ ≤ _ ∧ (_ ∧ _ → _ ≤ _)))

/-- The counter of the context is right, and so is that of the queue up to `unadvanced`. -/
structure Accounted (session : RecvSession) : Prop where
  behind : session.unadvanced ≤ session.consumed
  counted : session.context.srq.Counted (session.consumed - session.unadvanced)
  order : session.consumed ≤ session.context.srq.posted
  posted : session.context.srqPosted = session.outstanding
  most : session.context.srqPosted ≤ session.context.srqMaxWr

namespace Accounted

variable {session : RecvSession}

theorem replenish {context : RecvContext} {consumed unadvanced recvCount : Nat}
    (behind : unadvanced ≤ consumed + recvCount)
    (counted : context.srq.Counted (consumed + recvCount - unadvanced))
    (received : consumed + recvCount ≤ context.srq.posted)
    (posted : context.srqPosted = context.srq.posted - consumed)
    (most : context.srqPosted ≤ context.srqMaxWr)
    (room : context.srqPosted - recvCount < context.threshold →
      unadvanced + context.srqMaxWr ≤ context.srq.wqeCnt) :
    Accounted { context := context.replenish recvCount, consumed := consumed + recvCount,
                unadvanced } := by
  unfold RecvContext.replenish
  dsimp only
  split
  · rename_i low
    have free := room low
    obtain ⟨later, _, total⟩ := counted_postRecvs counted
      (context.srqMaxWr - (context.srqPosted - recvCount))
    have full : (postRecvs context.srq (context.srqMaxWr - (context.srqPosted - recvCount))).posted =
        consumed + recvCount + context.srqMaxWr := by
      omega
    refine ⟨behind, later, ?_, ?_, Nat.le_refl _⟩
    · change consumed + recvCount ≤ (postRecvs ..).posted
      omega
    · change context.srqMaxWr = (postRecvs ..).posted - (consumed + recvCount)
      omega
  · refine ⟨behind, counted, received, ?_, ?_⟩
    · change context.srqPosted - recvCount = context.srq.posted - (consumed + recvCount)
      omega
    · change context.srqPosted - recvCount ≤ context.srqMaxWr
      omega

/-- A poll keeps the counter of the posted receives right. -/
theorem step (accounted : Accounted session) {poll : Poll} (consumes : session.Consumes poll)
    (room : session.RoomToRefill poll) : Accounted (session.step poll) := by
  obtain ⟨behind, counted, order, posted, most⟩ := accounted
  unfold Consumes at consumes
  unfold outstanding at consumes posted
  cases poll with
  | counted recvCount =>
    change recvCount ≤ _ at consumes
    unfold RecvSession.step RecvContext.pollRecvCounted
    dsimp only
    split
    · rename_i some
      have advanced : (session.context.srq.advanceCi recvCount).Counted _ :=
        counted.advanceCi (by omega)
      rw [← Nat.sub_add_comm behind] at advanced
      exact replenish (by omega) advanced (by change _ ≤ session.context.srq.posted; omega) posted
        most fun low => room ⟨some, low⟩
    · rename_i none
      obtain rfl : recvCount = 0 := by omega
      exact ⟨behind, counted, order, posted, most⟩
  | poller recvCount =>
    change recvCount ≤ _ at consumes
    unfold RecvSession.step RecvContext.recvPollerPoll
    dsimp only
    split
    · rename_i none
      subst none
      exact ⟨behind, counted, order, posted, most⟩
    · rename_i some
      refine replenish (by omega) ?_ (by omega) posted most fun low =>
        room ⟨Nat.pos_of_ne_zero some, low⟩
      rwa [Nat.add_sub_add_right]

theorem start {actualMaxWr srqMaxWr : Nat} (granted : srqMaxWr ≤ actualMaxWr)
    (bound : actualMaxWr ≤ 2 ^ 31) (buf : Memory) (stride : Nat) :
    Accounted (start (.build buf stride actualMaxWr srqMaxWr)) := by
  obtain ⟨counted, _, total⟩ :=
    counted_postRecvs (SrqState.Counted.create bound buf stride) srqMaxWr
  have fits : srqMaxWr ≤ nextPowerOfTwo actualMaxWr := granted.trans (le_nextPowerOfTwo _)
  have posted : (postRecvs (.create buf stride actualMaxWr) srqMaxWr).posted = srqMaxWr := by
    rw [total]
    change min (0 + srqMaxWr) (0 + nextPowerOfTwo actualMaxWr) = srqMaxWr
    omega
  exact ⟨Nat.le_refl 0, counted, Nat.zero_le _, posted.symm, Nat.le_refl _⟩

end Accounted

/-- If each refill finds room in the queue, the context never counts more receives than the device
can still use. -/
theorem srq_posted_le_outstanding {actualMaxWr srqMaxWr : Nat} (granted : srqMaxWr ≤ actualMaxWr)
    (bound : actualMaxWr ≤ 2 ^ 31) (buf : Memory) (stride : Nat) {polls : List Poll}
    (guarded : Along step (fun session poll => session.Consumes poll ∧ session.RoomToRefill poll)
      (start (.build buf stride actualMaxWr srqMaxWr)) polls) :
    let session := run step (start (.build buf stride actualMaxWr srqMaxWr)) polls
    session.consumed ≤ session.context.srq.posted ∧
      session.context.srqPosted ≤ session.outstanding := by
  intro session
  have accounted : Accounted session :=
    run_invariant (fun _ _ accounted guard => accounted.step guard.1 guard.2)
      (.start granted bound buf stride) guarded
  exact ⟨accounted.order, Nat.le_of_eq accounted.posted⟩

theorem srq_posted_le_outstanding_mixed :
    let session := run step (start (.build (fun _ => 0) 32 5 5))
      [.poller 2, .counted 1, .poller 1, .counted 3]
    session.consumed = 7 ∧ session.outstanding = 5 ∧
      session.context.srqPosted ≤ session.outstanding := by
  intro session
  exact ⟨by decide +kernel, by decide +kernel,
    (srq_posted_le_outstanding (by decide) (by decide) _ _ (by decide +kernel)).2⟩

/-- One of the two receives that are posted again is refused, but both are counted. -/
theorem poller_counts_refused_receives :
    let session := start (.build (fun _ => 0) 32 3 3)
    session.Consumes (.poller 2) ∧ (session.step (.poller 2)).outstanding = 2 ∧
      (session.step (.poller 2)).context.srqPosted = 3 := by
  refine ⟨?_, ?_, ?_⟩
  · change 2 ≤ _
    decide +kernel
  · decide +kernel
  · decide +kernel

end RecvSession

end Locasta.Copyrpc.Dc
