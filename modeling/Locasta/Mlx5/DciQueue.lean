import Locasta.Mlx5.SendQueueSafety

namespace Locasta.Mlx5

open Data

/-! The send queue of a DCI, whose entries are all of one size.

Each WRITE with immediate takes two blocks, so none of them crosses the end of the buffer. Only the
completion of a signaled entry frees blocks again, its own and all before it.
-/

variable {Entry : Type}

/-- The unsignaled posts since the last signaled one, `count` of them before these posts. -/
def unsignaledAfter (count : Nat) (signaled : List Bool) : Nat :=
  signaled.foldl (fun count signaled => if signaled then 0 else count + 1) count

theorem unsignaledAfter_append (count : Nat) (first second : List Bool) :
    unsignaledAfter count (first ++ second) = unsignaledAfter (unsignaledAfter count first) second :=
  List.foldl_append

theorem unsignaledAfter_le {count own others : Nat} (posts : List Bool)
    (bound : count ≤ others + own) :
    unsignaledAfter count posts ≤ others + unsignaledAfter own posts := by
  induction posts generalizing count own with
  | nil => exact bound
  | cons signaled rest ih =>
    cases signaled with
    | true => exact ih (Nat.zero_le _)
    | false => exact ih (Nat.add_le_add_right bound 1)

theorem unsignaledAfter_silent (count : Nat) (posts : List Bool)
    (silent : ∀ signaled ∈ posts, signaled = false) :
    unsignaledAfter count posts = count + posts.length := by
  induction posts generalizing count with
  | nil => rfl
  | cons signaled rest ih =>
    obtain rfl := silent signaled List.mem_cons_self
    have later := ih (count + 1) fun other member => silent other (List.mem_cons_of_mem _ member)
    rw [List.length_cons, Nat.add_comm rest.length, ← Nat.add_assoc]
    exact later

namespace Wqe

def signaled (wqe : Wqe Entry) : Bool := wqe.entry.isSome

end Wqe

variable {wqes : List (Wqe Entry)}

/-- Without a signaled entry from `reported` on, all of these are in the last unsignaled run. -/
theorem outstanding_le_unsignaled {reported : Nat}
    (silent : ∀ wqe ∈ wqes.drop reported, wqe.signaled = false) :
    wqes.length - reported ≤ unsignaledAfter 0 (wqes.map Wqe.signaled) := by
  have quiet : ∀ signaled ∈ (wqes.drop reported).map Wqe.signaled, signaled = false := by
    intro signaled member
    obtain ⟨wqe, here, rfl⟩ := List.mem_map.mp member
    exact silent wqe here
  rw [← List.take_append_drop reported wqes, List.map_append, unsignaledAfter_append,
    unsignaledAfter_silent _ _ quiet, List.length_map, List.take_append_drop, List.length_drop]
  exact Nat.le_add_left ..

theorem nextSignaled_append {found : Nat × Wqe Entry}
    (next : nextSignaled wqes = some found) (more : List (Wqe Entry)) :
    nextSignaled (wqes ++ more) = some found := by
  induction wqes generalizing found with
  | nil => cases next
  | cons first rest ih =>
    unfold nextSignaled at next
    rw [List.cons_append, nextSignaled]
    split at next
    · rename_i signaled
      rw [if_pos signaled, next]
    · rename_i unsignaled
      obtain ⟨later, here, rfl⟩ := Option.map_eq_some_iff.mp next
      rw [if_neg unsignaled, ih here]
      rfl

theorem countP_nextSignaled {count : Nat} {wqe : Wqe Entry}
    (next : nextSignaled wqes = some (count, wqe)) :
    wqes.countP Wqe.signaled = (wqes.drop count).countP Wqe.signaled + 1 := by
  induction wqes generalizing count with
  | nil => cases next
  | cons first rest ih =>
    unfold nextSignaled at next
    split at next
    · rename_i signaled
      cases next
      rw [List.countP_cons_of_pos (p := Wqe.signaled) signaled]
      rfl
    · rename_i unsignaled
      obtain ⟨⟨later, found⟩, here, same⟩ := Option.map_eq_some_iff.mp next
      cases same
      rw [List.countP_cons_of_neg (p := Wqe.signaled) unsignaled]
      exact ih here

/-- The completions `cqes` are those of the signaled entries between `retired` and `reported`. -/
inductive Awaiting (posted : List (Wqe Entry)) : Nat → List Nat → Nat → Prop
  | nil (retired : Nat) : Awaiting posted retired [] retired
  | cons {retired count reported : Nat} {wqe : Wqe Entry} {rest : List Nat}
      (next : nextSignaled (posted.drop retired) = some (count, wqe))
      (later : Awaiting posted (retired + count) rest reported) :
      Awaiting posted retired (wqe.position % 2 ^ 16 :: rest) reported

namespace Awaiting

variable {posted : List (Wqe Entry)} {retired reported : Nat} {cqes : List Nat}

theorem caughtUp (awaiting : Awaiting posted retired [] reported) : reported = retired := by
  cases awaiting
  rfl

variable (awaiting : Awaiting posted retired cqes reported)
include awaiting

theorem report {count : Nat} {wqe : Wqe Entry}
    (next : nextSignaled (posted.drop reported) = some (count, wqe)) :
    Awaiting posted retired (cqes ++ [wqe.position % 2 ^ 16]) (reported + count) := by
  induction awaiting with
  | nil retired => exact .cons next (.nil _)
  | cons first _ ih => exact .cons first (ih next)

theorem post (more : List (Wqe Entry)) : Awaiting (posted ++ more) retired cqes reported := by
  induction awaiting with
  | nil retired => exact .nil retired
  | cons next _ ih =>
    refine .cons ?_ ih
    rw [List.drop_append]
    exact nextSignaled_append next _

theorem countP_drop : (posted.drop retired).countP Wqe.signaled =
      cqes.length + (posted.drop reported).countP Wqe.signaled := by
  induction awaiting with
  | nil retired => exact (Nat.zero_add _).symm
  | cons next _ ih =>
    rw [countP_nextSignaled next, List.drop_drop, ih, List.length_cons]
    omega

end Awaiting

namespace SendQueueState

def dispatch (sq : SendQueueState Entry) (cqes : List Nat) : SendQueueState Entry :=
  cqes.foldl (fun sq wqeIdx => (sq.processCompletion wqeIdx).2) sq

def dciWqebbCnt : Nat := calcWqebbCnt DciWriteImmParams.wqeSize

variable {sq : SendQueueState Entry} {retired : Nat}

/-- A queue whose entries all take two blocks. -/
structure Paired (sq : SendQueueState Entry) (retired : Nat) : Prop where
  laid : sq.Laid retired
  even : 2 ∣ sq.wqeCnt
  stops : ∀ count ≤ sq.posted.length, endOf (sq.posted.take count) = 2 * count

namespace Paired

theorem new {wqeCnt : Nat} (sqn : Nat) (buf : Memory) (power : wqeCnt.isPowerOfTwo)
    (roomy : 2 ≤ wqeCnt) (bound : wqeCnt ≤ 2 ^ 15) :
    Paired (.new wqeCnt sqn buf : SendQueueState Entry) 0 where
  laid := .new power bound
  even := dvd_of_isPowerOfTwo_le ⟨1, rfl⟩ power roomy
  stops count inside := by
    obtain rfl : count = 0 := Nat.le_zero.mp inside
    rfl

variable (paired : Paired sq retired)
include paired

theorem endOf_posted : endOf sq.posted = 2 * sq.posted.length := by
  have all := paired.stops _ (Nat.le_refl _)
  rwa [List.take_length] at all

theorem available_eq : sq.available = sq.wqeCnt - 2 * (sq.posted.length - retired) := by
  have order := paired.laid.retired_le
  rw [paired.laid.available_eq, paired.endOf_posted, paired.stops _ order]
  omega

theorem window : 2 * (sq.posted.length - retired) ≤ sq.wqeCnt := by
  have window := paired.laid.window
  rw [paired.endOf_posted, paired.stops _ paired.laid.retired_le] at window
  omega

theorem fits : endOf sq.posted % sq.wqeCnt + 2 ≤ sq.wqeCnt := by
  obtain ⟨half, size⟩ := paired.even
  have positive := Nat.pos_of_isPowerOfTwo paired.laid.power
  have slot := Nat.mod_lt sq.posted.length (by omega : 0 < half)
  rw [paired.endOf_posted, size, Nat.mul_mod_mul_left]
  omega

theorem emitDciWriteImm (params : DciWriteImmParams) (entry : Option Entry) :
    (sq.available < 2 ∧ sq.emitDciWriteImm params entry = (.error .sqFull, sq)) ∨
      (2 ≤ sq.available ∧ ∃ result after wqe,
        sq.emitDciWriteImm params entry = (.ok result, after) ∧ Paired after retired ∧
          after.posted = sq.posted ++ [wqe] ∧ wqe.entry = entry ∧ after.wqeCnt = sq.wqeCnt) := by
  have blocks : calcWqebbCnt DciWriteImmParams.wqeSize = 2 := rfl
  by_cases full : sq.available < 2
  · left
    refine ⟨full, ?_⟩
    rw [SendQueueState.emitDciWriteImm, emit, blocks, if_pos full]
  · right
    have available := paired.laid.available_eq
    have order := paired.laid.tail_le
    have fits := paired.fits
    have straight : ¬ (2 > sq.slotsToEnd ∧ sq.slotsToEnd < sq.wqeCnt) := by
      rw [paired.laid.slotsToEnd_eq]
      omega
    have writes := params.writes (withCompletion params.flags entry) sq.sqn
    let posting := sq.post 2 DciWriteImmParams.wqeSize entry
      (params.fill (withCompletion params.flags entry) sq.sqn)
    have laid : Laid posting.2 retired :=
      paired.laid.post writes ⟨by decide, by decide, by decide⟩ rfl fits (by omega)
    let wqe := sq.nextWqe 2 entry posting.2.buf
    have posted : posting.2.posted = sq.posted ++ [wqe] := rfl
    refine ⟨by omega, posting.1, posting.2, wqe, ?_, ⟨laid, paired.even, ?_⟩, posted, rfl, rfl⟩
    · rw [SendQueueState.emitDciWriteImm, emit, blocks, if_neg full, if_neg straight]
    · intro count inside
      rw [posted] at inside ⊢
      rcases Nat.lt_or_ge sq.posted.length count with last | old
      · have all : count = (sq.posted ++ [wqe]).length := by
          rw [List.length_append] at inside ⊢
          exact Nat.le_antisymm inside last
        rw [all, List.take_length, endOf_append, List.length_append, Nat.mul_add]
        change endOf sq.posted + 2 = _
        rw [paired.endOf_posted]
        rfl
      · rw [List.take_append_of_le_length old]
        exact paired.stops count old

theorem dispatch {cqes : List Nat} {reported : Nat}
    (awaiting : Awaiting sq.posted retired cqes reported) :
    Paired (sq.dispatch cqes) reported ∧ (sq.dispatch cqes).posted = sq.posted ∧
      (sq.dispatch cqes).wqeCnt = sq.wqeCnt := by
  induction cqes generalizing sq retired with
  | nil =>
    cases awaiting
    exact ⟨paired, rfl, rfl⟩
  | cons wqeIdx rest ih =>
    cases awaiting with
    | cons next later =>
      obtain ⟨ahead, rfl, here, signaled, _⟩ := nextSignaled_spec next
      rw [List.getElem?_drop] at here
      obtain ⟨entry, signaled⟩ := Option.isSome_iff_exists.mp signaled
      obtain ⟨after, completed, laid, posted, _, _⟩ :=
        paired.laid.processCompletion (Nat.le_add_right ..) here signaled
      have size : after.wqeCnt = sq.wqeCnt := by
        have step := congrArg (fun result => result.2.wqeCnt) completed
        rw [← step, SendQueueState.processCompletion]
        split <;> rfl
      have next : Paired after (retired + (ahead + 1)) :=
        ⟨laid, size ▸ paired.even, posted ▸ paired.stops⟩
      obtain ⟨drained, same, sameSize⟩ := ih next (posted ▸ later)
      rw [SendQueueState.dispatch, List.foldl_cons, completed]
      exact ⟨drained, same.trans posted, sameSize.trans size⟩

end Paired

end SendQueueState

end Locasta.Mlx5
