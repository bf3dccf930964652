import Locasta.Copyrpc.Rc.Endpoint

namespace Locasta.Copyrpc

open Data Function

/-! What becomes of the user data of calls: a call that is accepted adds it to the slab, an
error that can be retried gives it back, and responses take it out again. -/

variable {U : Type}

/-- `responses` are taken out of the slab one after the other. -/
inductive Removes : Slab U → List U → Slab U → Prop
  | nil (slab : Slab U) : Removes slab [] slab
  | cons {slab after : Slab U} {key : Nat} {userData : U} {responses : List U}
      (found : slab key = some userData)
      (rest : Removes (update slab key none) responses after) :
      Removes slab (userData :: responses) after

def responsesOf {Request : Type} (events : List (Event Request U)) : List (U × List UInt8) :=
  events.filterMap fun
    | .response userData data => some (userData, data)
    | _ => none

theorem processMessages_removes {Header Request : Type} (wire : Wire Header Request) (ring : Memory)
    (ringLen count pos : Nat) (pending : Slab U) :
    Removes pending
      ((responsesOf (processMessages wire ring ringLen count pos pending).2.2).map Prod.fst)
      (processMessages wire ring ringLen count pos pending).2.1 := by
  induction count generalizing pos pending with
  | zero => exact .nil pending
  | succ count ih =>
    unfold processMessages
    dsimp only
    split
    · cases found : pending.tryRemove _ with
      | mk removed rest =>
        obtain ⟨rfl, rfl⟩ := Prod.mk.inj found
        split
        · rename_i userData there
          exact .cons there (ih _ _)
        · rename_i missing
          rw [update_eq_self_iff.mpr missing.symm]
          exact ih _ _
    · exact ih _ _

namespace Rc.EndpointInner

variable {ep : EndpointInner U}

theorem tryThen_pendingCalls {E F A B : Type} {convert : E → F}
    {result : Except E A × EndpointInner U} {next : EndpointInner U → Except F B × EndpointInner U}
    {slab : Slab U} (first : result.2.pendingCalls = slab)
    (then' : ∀ ep, ep.pendingCalls = slab → (next ep).2.pendingCalls = slab) :
    (tryThen convert result next).2.pendingCalls = slab := by
  obtain ⟨result, middle⟩ := result
  cases result with
  | error error => exact first
  | ok value => exact then' middle first

theorem emitRaw_pendingCalls (ep : EndpointInner U) :
    ep.emitRaw.2.pendingCalls = ep.pendingCalls := by
  unfold emitRaw
  split
  · rfl
  · split
    · rfl
    · split <;> rfl

theorem flush_pendingCalls (ep : EndpointInner U) : ep.flush.2.pendingCalls = ep.pendingCalls := by
  refine tryThen_pendingCalls ?_ fun after same => ?_
  · unfold emitWqe
    split
    · rfl
    · exact tryThen_pendingCalls (emitRaw_pendingCalls _) fun _ same => same
  · unfold ringDoorbell
    split <;> exact same

theorem handleWrapIfNeeded_pendingCalls (ep : EndpointInner U) (size : Nat) :
    (ep.handleWrapIfNeeded size).2.pendingCalls = ep.pendingCalls := by
  unfold handleWrapIfNeeded
  split
  · rfl
  · refine tryThen_pendingCalls ?_ fun closed same => ?_
    · split
      · exact tryThen_pendingCalls (emitRaw_pendingCalls _) fun _ same => same
      · rfl
    · refine tryThen_pendingCalls ?_ fun _ same => same
      refine tryThen_pendingCalls ?_ fun _ same => same
      exact (emitRaw_pendingCalls _).trans same

theorem reply_pendingCalls (ep : EndpointInner U) (handle : RecvMessage) (data : List UInt8) :
    (ep.reply handle data).2.pendingCalls = ep.pendingCalls := by
  unfold reply
  split
  · rfl
  · exact tryThen_pendingCalls (handleWrapIfNeeded_pendingCalls ..) fun _ same => same

/-- What a call leaves in the slab, and what it gives back. -/
def CallKeeps (ep : EndpointInner U) (key : Nat) (userData : U) :
    Except (CallError U) UInt32 × EndpointInner U → Prop
  | (.ok _, after) => after.pendingCalls = ep.pendingCalls.insert key userData
  | (.error (.ringFull returned), after) | (.error (.insufficientCredit returned), after) =>
    returned = userData ∧ after.pendingCalls = ep.pendingCalls
  | (.error (.other _), after) => after.pendingCalls = ep.pendingCalls

/-- A call changes the slab only if it returns `Ok`. -/
theorem call_keeps (ep : EndpointInner U) (key : Nat) (data : List UInt8) (userData : U)
    (responseAllowance : Nat) :
    ep.CallKeeps key userData (ep.call key data userData responseAllowance) := by
  have flushed (before : EndpointInner U) (same : before.pendingCalls = ep.pendingCalls)
      (error : CallError U) (kept : ∀ after : EndpointInner U,
        after.pendingCalls = ep.pendingCalls → ep.CallKeeps key userData (.error error, after)) :
      ep.CallKeeps key userData
        (tryThen (B := UInt32) .other before.flush fun ep => (.error error, ep)) := by
    have slab := before.flush_pendingCalls.trans same
    cases outcome : before.flush with
    | mk result after =>
      rw [outcome] at slab
      cases result with
      | error failure => exact slab
      | ok value => exact kept after slab
  unfold call
  split
  · rfl
  · split
    · exact flushed ep rfl _ fun _ same => ⟨rfl, same⟩
    · dsimp only
      have slab := ep.handleWrapIfNeeded_pendingCalls (paddedMessageSize (asU32 data.length))
      cases outcome : ep.handleWrapIfNeeded (paddedMessageSize (asU32 data.length)) with
      | mk result after =>
        rw [outcome] at slab
        cases result with
        | error failure => exact slab
        | ok wrapped =>
          simp only [tryThen_ok]
          split
          · exact flushed after slab _ fun _ same => ⟨rfl, same⟩
          · change after.pendingCalls.insert key userData = _
            rw [show after.pendingCalls = ep.pendingCalls from slab]

theorem processCqeStatic_removes (ep : EndpointInner U) (imm : Nat) :
    Removes ep.pendingCalls ((responsesOf (ep.processCqeStatic imm).2).map Prod.fst)
      (ep.processCqeStatic imm).1.pendingCalls := by
  simp only [processCqeStatic]
  split
  · exact .nil _
  · exact processMessages_removes ..

end Rc.EndpointInner

end Locasta.Copyrpc
