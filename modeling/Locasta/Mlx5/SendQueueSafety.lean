import Locasta.Mlx5.SendQueue
import Locasta.Data.Run

namespace Locasta.Mlx5

open Data Function

/-! The ring of a send queue is safe: what is posted stays as it is until a signaled entry at or
behind it completes. -/

variable {Entry : Type}

@[simp] theorem endOf_append (wqes : List (Wqe Entry)) (wqe : Wqe Entry) :
    endOf (wqes ++ [wqe]) = wqe.stop := by
  simp [endOf]

theorem frontier_segments (wqes : List (Wqe Entry)) :
    frontier (wqes.map Wqe.segment) = wqebbSize * endOf wqes := by
  simp only [Data.frontier, endOf, List.getLast?_map]
  cases wqes.getLast? <;> rfl

namespace Wqe

theorem segment_length (wqe : Wqe Entry) :
    wqe.segment.stop - wqe.segment.start = wqebbSize * wqe.wqebbCnt := by
  rw [segment, ← Nat.mul_sub, stop, Nat.add_sub_cancel_left]

theorem segment_whole {wqe : Wqe Entry} {wqeCnt : Nat}
    (length : wqe.image.length = wqebbSize * wqe.wqebbCnt)
    (fits : wqe.position % wqeCnt + wqe.wqebbCnt ≤ wqeCnt) :
    wqe.segment.Whole (wqebbSize * wqeCnt) := by
  refine ⟨length.trans wqe.segment_length.symm, ?_⟩
  rw [segment_length, segment, Nat.mul_mod_mul_left, ← Nat.mul_add]
  exact Nat.mul_le_mul_left _ fits

end Wqe

/-- The sizes of the entries that a control segment can describe: up to 63 units of 16 bytes. -/
structure Describable (wqeSize : Nat) : Prop where
  positive : 0 < wqeSize
  units : 16 ∣ wqeSize
  short : wqeSize ≤ 63 * 16

namespace SendQueueState

variable {sq : SendQueueState Entry} {retired : Nat}

/-- The entries follow each other, and those that are not retired are where they were written. -/
structure Laid (sq : SendQueueState Entry) (retired : Nat) : Prop where
  power : sq.wqeCnt.isPowerOfTwo
  bound : sq.wqeCnt ≤ 2 ^ 15
  mask : sq.table.mask = sq.wqeCnt - 1
  transit : Transit (wqebbSize * sq.wqeCnt) sq.buf (sq.posted.map Wqe.segment) sq.posted.length retired
  retired_le : retired ≤ sq.posted.length
  pi : sq.pi = endOf sq.posted % 2 ^ 16
  ci : sq.ci = endOf (sq.posted.take retired) % 2 ^ 16
  window : endOf sq.posted ≤ endOf (sq.posted.take retired) + sq.wqeCnt
  nonempty : ∀ wqe ∈ sq.posted, 0 < wqe.wqebbCnt
  described : ∀ wqe ∈ sq.posted, (16 * dsCntOf wqe.image + 63) / wqebbSize = wqe.wqebbCnt
  stored : ∀ index wqe entry, retired ≤ index → sq.posted[index]? = some wqe →
    wqe.entry = some entry → sq.table.entries (wqe.position % sq.wqeCnt) =
      some { data := entry, ciDelta := wqe.stop % 2 ^ 16 }

namespace Laid

theorem new {wqeCnt sqn : Nat} {buf : Memory} (power : wqeCnt.isPowerOfTwo)
    (bound : wqeCnt ≤ 2 ^ 15) : Laid (.new wqeCnt sqn buf : SendQueueState Entry) 0 where
  power
  bound
  mask := rfl
  transit := .nil buf
  retired_le := Nat.le_refl _
  pi := rfl
  ci := rfl
  window := Nat.zero_le _
  nonempty := by simp [SendQueueState.new]
  described := by simp [SendQueueState.new]
  stored := by simp [SendQueueState.new]

theorem slot_eq (laid : Laid sq retired) (position : Nat) :
    maskOffset (position % 2 ^ 16) sq.wqeCnt = position % sq.wqeCnt := by
  have divides : sq.wqeCnt ∣ 2 ^ 16 :=
    dvd_of_isPowerOfTwo_le laid.power ⟨16, rfl⟩ (laid.bound.trans (by decide))
  rw [maskOffset_eq_mod laid.power, Nat.mod_mod_of_dvd _ divides]

theorem ptr_eq (laid : Laid sq retired) :
    sq.getWqePtr sq.pi = wqebbSize * endOf sq.posted % (wqebbSize * sq.wqeCnt) := by
  rw [getWqePtr, laid.pi, laid.slot_eq, Nat.mul_mod_mul_left, Nat.mul_comm]

theorem tail_le (laid : Laid sq retired) : endOf (sq.posted.take retired) ≤ endOf sq.posted := by
  have order := laid.transit.contiguous.frontier_take_le retired
  rw [← List.map_take, frontier_segments, frontier_segments] at order
  exact Nat.le_of_mul_le_mul_left order (by decide)

theorem inFlight_eq (laid : Laid sq retired) :
    sq.inFlight = endOf sq.posted - endOf (sq.posted.take retired) := by
  have order := laid.tail_le
  have window := laid.window
  have bound := laid.bound
  rw [inFlight, laid.pi, laid.ci]
  omega

variable {index : Nat} {wqe : Wqe Entry}

theorem segment_getElem? (here : sq.posted[index]? = some wqe) :
    (sq.posted.map Wqe.segment)[index]? = some wqe.segment := by
  rw [List.getElem?_map, here]
  rfl

theorem stop_le_position (laid : Laid sq retired) {later : Nat} {other : Wqe Entry}
    (order : index < later) (here : sq.posted[index]? = some wqe)
    (there : sq.posted[later]? = some other) : wqe.stop ≤ other.position := by
  have bytes := laid.transit.contiguous.stop_le_start order (segment_getElem? here)
    (segment_getElem? there)
  exact Nat.le_of_mul_le_mul_left bytes (by decide)

theorem outstanding (laid : Laid sq retired)
    (unretired : retired ≤ index) (here : sq.posted[index]? = some wqe) :
    endOf (sq.posted.take retired) ≤ wqe.position ∧ wqe.stop ≤ endOf sq.posted := by
  have there := segment_getElem? here
  have contiguous := laid.transit.contiguous
  constructor
  · have low := contiguous.frontier_le_start unretired there
    rw [← List.map_take, frontier_segments] at low
    exact Nat.le_of_mul_le_mul_left low (by decide)
  · have high := contiguous.frontier_take_le (index + 1)
    rw [frontier_take_succ there, frontier_segments] at high
    exact Nat.le_of_mul_le_mul_left high (by decide)

section Post

variable {opcode : WqeOpcode} {wqebbCnt wqeSize : Nat} {entry : Option Entry}
  {fill : (wqePtr wqeIdx : Nat) → Memory → Memory}

theorem post_transit (laid : Laid sq retired) (writes : Writes opcode wqeSize fill)
    (inside : wqeSize ≤ wqebbSize * wqebbCnt)
    (fits : endOf sq.posted % sq.wqeCnt + wqebbCnt ≤ sq.wqeCnt)
    (room : endOf sq.posted + wqebbCnt ≤ endOf (sq.posted.take retired) + sq.wqeCnt) :
    let after := (sq.post wqebbCnt wqeSize entry fill).2
    Transit (wqebbSize * sq.wqeCnt) after.buf (after.posted.map Wqe.segment) after.posted.length
      retired := by
  intro after
  let wqe := sq.nextWqe wqebbCnt entry after.buf
  have whole : wqe.segment.Whole (wqebbSize * sq.wqeCnt) :=
    Wqe.segment_whole (Memory.read_length ..) fits
  have contiguous : Contiguous (sq.posted.map Wqe.segment ++ [wqe.segment]) :=
    laid.transit.contiguous.append (frontier_segments _).symm
      (Nat.mul_le_mul_left _ (Nat.le_add_right ..))
  have near : wqe.segment.stop ≤ frontier ((sq.posted.map Wqe.segment).take retired) +
      wqebbSize * sq.wqeCnt := by
    rw [← List.map_take, frontier_segments, ← Nat.mul_add]
    exact Nat.mul_le_mul_left _ room
  have extended := laid.transit.extend (by rw [List.length_map])
    (by rw [List.length_map]; exact laid.retired_le) contiguous (by
      intro segment member
      cases List.mem_singleton.mp member
      exact ⟨whole, near⟩)
  have next : (sq.posted.map Wqe.segment ++ [wqe.segment])[sq.posted.length]? =
      some wqe.segment := by
    rw [List.getElem?_append_right (by rw [List.length_map]), List.length_map, Nat.sub_self]
    rfl
  have landed := extended.land next
  have same : Memory.SameOutside (sq.getWqePtr sq.pi) (wqebbSize * wqebbCnt) sq.buf after.buf :=
    (writes.confined _ _ _).mono (Nat.le_refl _) (Nat.add_le_add_left inside _)
  have stored : sq.buf.write (wqe.segment.start % (wqebbSize * sq.wqeCnt)) wqe.segment.payload =
      after.buf := by
    change sq.buf.write (wqebbSize * endOf sq.posted % (wqebbSize * sq.wqeCnt)) wqe.image = _
    rw [← laid.ptr_eq]
    exact same.eq_write
  rw [stored] at landed
  have posted : after.posted = sq.posted ++ [wqe] := rfl
  rw [posted, List.map_append, List.length_append]
  exact landed

theorem post_stored (laid : Laid sq retired) (positive : 0 < wqebbCnt)
    (room : endOf sq.posted + wqebbCnt ≤ endOf (sq.posted.take retired) + sq.wqeCnt) :
    let after := (sq.post wqebbCnt wqeSize entry fill).2
    ∀ index wqe stored, retired ≤ index → after.posted[index]? = some wqe →
      wqe.entry = some stored → after.table.entries (wqe.position % sq.wqeCnt) =
        some { data := stored, ciDelta := wqe.stop % 2 ^ 16 } := by
  intro after index wqe stored unretired here signaled
  have slot : sq.pi &&& sq.table.mask = endOf sq.posted % sq.wqeCnt := by
    rw [laid.mask, laid.pi]
    exact laid.slot_eq _
  have behind : (sq.pi + wqebbCnt) % 2 ^ 16 = (endOf sq.posted + wqebbCnt) % 2 ^ 16 := by
    rw [laid.pi, Nat.mod_add_mod]
  have posted : after.posted = sq.posted ++ [sq.nextWqe wqebbCnt entry after.buf] := rfl
  rw [posted] at here
  rcases Nat.lt_or_ge index sq.posted.length with old | new
  · rw [List.getElem?_append_left old] at here
    have kept := laid.stored index wqe stored unretired here signaled
    obtain ⟨low, high⟩ := laid.outstanding unretired here
    have forward := laid.nonempty wqe (List.mem_of_getElem? here)
    have different : wqe.position % sq.wqeCnt ≠ endOf sq.posted % sq.wqeCnt :=
      mod_ne_mod_of_window (by rw [Wqe.stop] at high; omega) (by omega)
    cases entry with
    | none => exact kept
    | some entry =>
      change update sq.table.entries (sq.pi &&& sq.table.mask) _ _ = _
      rw [slot, update_of_ne different]
      exact kept
  · obtain ⟨_, last⟩ := List.getElem?_eq_some_iff.mp here
    have same : wqe = sq.nextWqe wqebbCnt entry after.buf := by
      rw [← last]
      simp [List.getElem_append_right new]
    subst same
    subst signaled
    change update sq.table.entries (sq.pi &&& sq.table.mask)
      (some { data := stored, ciDelta := (sq.pi + wqebbCnt) % 2 ^ 16 })
      (endOf sq.posted % sq.wqeCnt) = _
    rw [slot, update_self, behind]
    rfl

/-- The entry fits before the end of the buffer and leaves what is not retired alone. -/
theorem post (laid : Laid sq retired) (writes : Writes opcode wqeSize fill)
    (describable : Describable wqeSize) (blocks : wqebbCnt = (wqeSize + 63) / wqebbSize)
    (fits : endOf sq.posted % sq.wqeCnt + wqebbCnt ≤ sq.wqeCnt)
    (room : endOf sq.posted + wqebbCnt ≤ endOf (sq.posted.take retired) + sq.wqeCnt) :
    Laid (sq.post wqebbCnt wqeSize entry fill).2 retired := by
  obtain ⟨positive, units, short⟩ := describable
  have inside : wqeSize ≤ wqebbSize * wqebbCnt := by
    unfold wqebbSize at blocks ⊢
    omega
  have someBlocks : 0 < wqebbCnt := by
    unfold wqebbSize at blocks
    omega
  let after := (sq.post wqebbCnt wqeSize entry fill).2
  have posted : after.posted = sq.posted ++ [sq.nextWqe wqebbCnt entry after.buf] := rfl
  have kept : after.posted.take retired = sq.posted.take retired := by
    rw [posted, List.take_append_of_le_length laid.retired_le]
  have stop : endOf after.posted = endOf sq.posted + wqebbCnt := by
    rw [posted, endOf_append]
    rfl
  refine { laid with
    mask := ?_
    transit := laid.post_transit writes inside fits room
    retired_le := ?_
    pi := ?_
    ci := ?_
    window := ?_
    nonempty := ?_
    described := ?_
    stored := laid.post_stored someBlocks room }
  · cases entry <;> exact laid.mask
  · rw [posted, List.length_append]
    exact Nat.le_add_right_of_le laid.retired_le
  · change (sq.pi + wqebbCnt) % 2 ^ 16 = endOf after.posted % 2 ^ 16
    rw [stop, laid.pi, Nat.mod_add_mod]
  · rw [kept]
    exact laid.ci
  · rw [stop, kept]
    exact room
  · intro wqe member
    rcases List.mem_append.mp member with old | new
    · exact laid.nonempty wqe old
    · cases List.mem_singleton.mp new
      exact someBlocks
  · intro wqe member
    rcases List.mem_append.mp member with old | new
    · exact laid.described wqe old
    · cases List.mem_singleton.mp new
      have units16 := (writes.described (sq.getWqePtr sq.pi) sq.pi sq.buf _ inside).2
      change (16 * dsCntOf (Memory.read _ _ _) + 63) / wqebbSize = wqebbCnt
      rw [units16, blocks]
      unfold wqebbSize
      omega

end Post

theorem available_eq (laid : Laid sq retired) :
    sq.available = endOf (sq.posted.take retired) + sq.wqeCnt - endOf sq.posted := by
  have order := laid.tail_le
  rw [available, laid.inFlight_eq]
  omega

theorem slotsToEnd_eq (laid : Laid sq retired) :
    sq.slotsToEnd = sq.wqeCnt - endOf sq.posted % sq.wqeCnt := by
  rw [slotsToEnd, laid.pi, laid.slot_eq]

end Laid

/-- The entry stands behind what was posted before, with a NOP in the gap. -/
structure Emitted (opcode : WqeOpcode) (entry : Option Entry) (sq after : SendQueueState Entry)
    (result : EmitResult) (gap : List (Wqe Entry)) (wqe : Wqe Entry) : Prop where
  posted : after.posted = sq.posted ++ gap ++ [wqe]
  entry : wqe.entry = entry
  opcode : opcodeOf wqe.image = opcode.code
  wqeIdx : result.wqeIdx = wqe.position % 2 ^ 16
  wqebbCnt : result.wqebbCnt = wqe.wqebbCnt
  short : gap.length ≤ 1
  nop : ∀ nop ∈ gap, opcodeOf nop.image = WqeOpcode.nop.code ∧ nop.entry = none ∧
    nop.stop % sq.wqeCnt = 0

namespace Laid

variable {opcode : WqeOpcode} {wqeSize wrapSize : Nat} {entry : Option Entry}
  {fill wrapFill : (wqePtr wqeIdx : Nat) → Memory → Memory}

theorem calcWqebbCnt_eq (describable : Describable wqeSize) :
    calcWqebbCnt wqeSize = (wqeSize + 63) / wqebbSize ∧ calcWqebbCnt wqeSize ≤ 16 ∧
      wqeSize ≤ wqebbSize * calcWqebbCnt wqeSize := by
  obtain ⟨_, _, short⟩ := describable
  unfold calcWqebbCnt wqebbSize
  omega

variable (laid : Laid sq retired)
include laid

theorem emitted_post (entry : Option Entry) (writes : Writes opcode wqeSize fill)
    (inside : wqeSize ≤ wqebbSize * calcWqebbCnt wqeSize) :
    ∃ wqe, Emitted opcode entry sq (sq.post (calcWqebbCnt wqeSize) wqeSize entry fill).2
      (sq.post (calcWqebbCnt wqeSize) wqeSize entry fill).1 [] wqe := by
  let after := (sq.post (calcWqebbCnt wqeSize) wqeSize entry fill).2
  refine ⟨sq.nextWqe (calcWqebbCnt wqeSize) entry after.buf, ?_⟩
  exact {
    posted := by rw [List.append_nil]; rfl
    entry := rfl
    opcode := (writes.described _ _ _ _ inside).1
    wqeIdx := laid.pi
    wqebbCnt := rfl
    short := Nat.zero_le _
    nop := by simp }

theorem postNop (gap : sq.slotsToEnd < 16) (room : sq.slotsToEnd ≤ sq.available) :
    Laid (sq.postNop sq.slotsToEnd) retired ∧ ∃ nop : Wqe Entry,
      (sq.postNop sq.slotsToEnd).posted = sq.posted ++ [nop] ∧
        opcodeOf nop.image = WqeOpcode.nop.code ∧ nop.entry = none ∧
        nop.stop = cycleEnd (endOf sq.posted) sq.wqeCnt := by
  have slots := laid.slotsToEnd_eq
  have slot := Nat.mod_lt (endOf sq.posted) (Nat.pos_of_isPowerOfTwo laid.power)
  have available := laid.available_eq
  have window := laid.window
  have writes : Writes .nop (sq.slotsToEnd * wqebbSize) fun wqePtr wqeIdx buf =>
      writeNopWqe buf wqePtr wqeIdx sq.sqn sq.slotsToEnd := writes_nop (by omega)
  have describable : Describable (sq.slotsToEnd * wqebbSize) := by
    unfold wqebbSize
    exact ⟨by omega, by omega, by omega⟩
  have blocks : sq.slotsToEnd = (sq.slotsToEnd * wqebbSize + 63) / wqebbSize := by
    unfold wqebbSize
    omega
  have inside : sq.slotsToEnd * wqebbSize ≤ wqebbSize * sq.slotsToEnd := by rw [Nat.mul_comm]
  refine ⟨laid.post writes describable blocks (by omega) (by omega),
    sq.nextWqe sq.slotsToEnd none (sq.postNop sq.slotsToEnd).buf, rfl,
    (writes.described _ _ _ _ inside).1, rfl, ?_⟩
  rw [cycleEnd, ← slots]
  rfl

theorem emitWrap (entry : Option Entry)
    (writes : Writes opcode wqeSize fill) (describable : Describable wqeSize)
    (gap : sq.slotsToEnd < 16) :
    sq.emitWrap wqeSize entry fill = (.error .sqFull, sq) ∨
      ∃ result after gap wqe, sq.emitWrap wqeSize entry fill = (.ok result, after) ∧
        Laid after retired ∧ Emitted opcode entry sq after result gap wqe := by
  obtain ⟨blocks, few, inside⟩ := calcWqebbCnt_eq describable
  have total : (sq.slotsToEnd + calcWqebbCnt wqeSize) % 2 ^ 16 =
      sq.slotsToEnd + calcWqebbCnt wqeSize := Nat.mod_eq_of_lt (by omega)
  by_cases full : sq.available < sq.slotsToEnd + calcWqebbCnt wqeSize
  · left
    simp only [SendQueueState.emitWrap, total, if_pos full]
  · right
    have available := laid.available_eq
    obtain ⟨nopped, nop, posted, opcode, unsignaled, stop⟩ := laid.postNop gap (by omega)
    have place : endOf (sq.postNop sq.slotsToEnd).posted = cycleEnd (endOf sq.posted) sq.wqeCnt := by
      rw [posted, endOf_append, stop]
    have start : cycleEnd (endOf sq.posted) sq.wqeCnt % sq.wqeCnt = 0 :=
      cycleEnd_mod (Nat.pos_of_isPowerOfTwo laid.power) _
    have kept : (sq.postNop sq.slotsToEnd).posted.take retired = sq.posted.take retired := by
      rw [posted, List.take_append_of_le_length laid.retired_le]
    have order := laid.tail_le
    have slots := laid.slotsToEnd_eq
    have slot := Nat.mod_lt (endOf sq.posted) (Nat.pos_of_isPowerOfTwo laid.power)
    have after : Laid ((sq.postNop sq.slotsToEnd).post (calcWqebbCnt wqeSize) wqeSize entry fill).2
        retired := by
      refine nopped.post writes describable blocks ?_ ?_
      · change _ % sq.wqeCnt + _ ≤ sq.wqeCnt
        rw [place, start]
        omega
      · change _ + _ ≤ _ + sq.wqeCnt
        rw [kept, place, cycleEnd]
        omega
    obtain ⟨wqe, emitted⟩ := nopped.emitted_post entry writes inside
    rcases placed : (sq.postNop sq.slotsToEnd).post (calcWqebbCnt wqeSize) wqeSize entry fill
      with ⟨result, last⟩
    rw [placed] at after emitted
    refine ⟨result, last, [nop], wqe, ?_, after, ?_⟩
    · simp only [SendQueueState.emitWrap, total, if_neg full, placed]
    · exact { emitted with
        posted := by rw [emitted.posted, posted, List.append_nil]
        short := Nat.le_refl _
        nop := by
          intro other member
          cases List.mem_singleton.mp member
          exact ⟨opcode, unsignaled, by rw [stop, start]⟩ }

theorem emit (entry : Option Entry) (writes : Writes opcode wqeSize fill)
    (describable : Describable wqeSize) (wrapWrites : Writes opcode wrapSize wrapFill)
    (wrapDescribable : Describable wrapSize) :
    sq.emit wqeSize wrapSize entry fill wrapFill = (.error .sqFull, sq) ∨
      ∃ result after gap wqe, sq.emit wqeSize wrapSize entry fill wrapFill = (.ok result, after) ∧
        Laid after retired ∧ Emitted opcode entry sq after result gap wqe := by
  obtain ⟨blocks, few, inside⟩ := calcWqebbCnt_eq describable
  have available := laid.available_eq
  have window := laid.window
  have slots := laid.slotsToEnd_eq
  have slot := Nat.mod_lt (endOf sq.posted) (Nat.pos_of_isPowerOfTwo laid.power)
  by_cases full : sq.available < calcWqebbCnt wqeSize
  · left
    simp only [SendQueueState.emit, if_pos full]
  · by_cases crosses : calcWqebbCnt wqeSize > sq.slotsToEnd ∧ sq.slotsToEnd < sq.wqeCnt
    · simp only [SendQueueState.emit, if_neg full, if_pos crosses]
      exact laid.emitWrap entry wrapWrites wrapDescribable (by omega)
    · right
      have order := laid.tail_le
      obtain ⟨wqe, emitted⟩ := laid.emitted_post entry writes inside
      refine ⟨_, _, [], wqe, ?_, laid.post writes describable blocks ?_ ?_, emitted⟩
      · simp only [SendQueueState.emit, if_neg full, if_neg crosses]
      · omega
      · omega

/-- A completion gives back what was stored with the entry and moves the consumer index behind it.
-/
theorem processCompletion {index : Nat} {wqe : Wqe Entry} {stored : Entry}
    (unretired : retired ≤ index) (here : sq.posted[index]? = some wqe)
    (signaled : wqe.entry = some stored) :
    ∃ after, sq.processCompletion (wqe.position % 2 ^ 16) = (some stored, after) ∧
      Laid after (index + 1) ∧ after.posted = sq.posted ∧ after.ci = wqe.stop % 2 ^ 16 ∧
      (after.processCompletion (wqe.position % 2 ^ 16)).1 = none := by
  have slot : wqe.position % 2 ^ 16 &&& sq.table.mask = wqe.position % sq.wqeCnt := by
    rw [laid.mask]
    exact laid.slot_eq _
  have found := laid.stored index wqe stored unretired here signaled
  let after : SendQueueState Entry := { sq with
    table := (sq.table.take (wqe.position % 2 ^ 16)).2
    ci := wqe.stop % 2 ^ 16 }
  have step : sq.processCompletion (wqe.position % 2 ^ 16) = (some stored, after) := by
    simp only [SendQueueState.processCompletion, OrderedWqeTable.take, slot, found, after]
  have entries (other : Nat) : after.table.entries other =
      update sq.table.entries (wqe.position % sq.wqeCnt) none other := by
    simp only [after, OrderedWqeTable.take, slot]
  have inside := (List.getElem?_eq_some_iff.mp here).1
  have stop : endOf (sq.posted.take (index + 1)) = wqe.stop := by
    rw [List.take_add_one, here]
    exact endOf_append ..
  obtain ⟨low, high⟩ := laid.outstanding unretired here
  have window := laid.window
  refine ⟨after, step, ?_, rfl, rfl, ?_⟩
  · refine { laid with
      transit := laid.transit.advance (by omega)
      retired_le := inside
      ci := by rw [stop]
      window := ?_
      stored := ?_ }
    · change endOf sq.posted ≤ endOf (sq.posted.take (index + 1)) + sq.wqeCnt
      rw [stop, Wqe.stop]
      omega
    · intro later other entry unfinished there signal
      have kept := laid.stored later other entry (by omega) there signal
      have behind := laid.stop_le_position unfinished here there
      have positive := laid.nonempty wqe (List.mem_of_getElem? here)
      have otherPositive := laid.nonempty other (List.mem_of_getElem? there)
      have otherHigh := (laid.outstanding (by omega) there).2
      have different : other.position % sq.wqeCnt ≠ wqe.position % sq.wqeCnt := by
        refine (mod_ne_mod_of_window ?_ ?_).symm
        · rw [Wqe.stop] at behind
          omega
        · rw [Wqe.stop] at otherHigh
          omega
      rw [entries, update_of_ne different]
      exact kept
  · have emptied : after.table.entries (wqe.position % sq.wqeCnt) = none := by
      rw [entries, update_self]
    have mask : after.table.mask = sq.table.mask := rfl
    simp only [SendQueueState.processCompletion, OrderedWqeTable.take, mask, slot, emptied]

end Laid

end SendQueueState

/-- The next signaled entry, and how many entries its completion retires. -/
def nextSignaled : List (Wqe Entry) → Option (Nat × Wqe Entry)
  | [] => none
  | wqe :: rest =>
    if wqe.entry.isSome then some (1, wqe)
    else (nextSignaled rest).map fun (count, found) => (count + 1, found)

theorem nextSignaled_spec {wqes : List (Wqe Entry)} {count : Nat} {wqe : Wqe Entry}
    (next : nextSignaled wqes = some (count, wqe)) :
    ∃ ahead, count = ahead + 1 ∧ wqes[ahead]? = some wqe ∧ wqe.entry.isSome ∧
      (wqes.take ahead).filterMap Wqe.entry = [] := by
  induction wqes generalizing count with
  | nil => cases next
  | cons first rest ih =>
    unfold nextSignaled at next
    split at next
    · rename_i signaled
      cases next
      exact ⟨0, rfl, rfl, signaled, rfl⟩
    · rename_i unsignaled
      rw [Option.map_eq_some_iff] at next
      obtain ⟨⟨count, found⟩, later, same⟩ := next
      cases same
      obtain ⟨ahead, rfl, here, signaled, silent⟩ := ih later
      refine ⟨ahead + 1, rfl, here, signaled, ?_⟩
      rw [Bool.not_eq_true, Option.isSome_eq_false_iff, Option.isNone_iff_eq_none] at unsignaled
      rw [List.take_succ_cons, List.filterMap_cons_none unsignaled]
      exact silent

/-- `retired` entries are done with; `returned` is what `process_completion` has given back. -/
structure Queue (Entry : Type) where
  sq : SendQueueState Entry
  retired : Nat
  returned : List (Option Entry)

namespace Queue

def new (wqeCnt sqn : Nat) (buf : Memory) : Queue Entry where
  sq := .new wqeCnt sqn buf
  retired := 0
  returned := []

inductive Action (Entry : Type) where
  | emit (params : WriteImmParams) (entry : Option Entry)
  | complete

/-- The device completes the signaled entries in order, each by its index. -/
def step (queue : Queue Entry) : Action Entry → Queue Entry
  | .emit params entry => { queue with sq := (queue.sq.emitWriteImm params entry).2 }
  | .complete =>
    match nextSignaled (queue.sq.posted.drop queue.retired) with
    | none => queue
    | some (count, wqe) =>
      let (entry, sq) := queue.sq.processCompletion (wqe.position % 2 ^ 16)
      { sq, retired := queue.retired + count, returned := queue.returned ++ [entry] }

def Action.Fits : Action Entry → Prop
  | .emit params _ => params.wqeSize true ≤ 63 * 16
  | .complete => True

instance : (action : Action Entry) → Decidable action.Fits
  | .emit .. => inferInstanceAs (Decidable (_ ≤ _))
  | .complete => isTrue trivial

/-- No block belongs to both. -/
def Apart (wqeCnt : Nat) (first second : Wqe Entry) : Prop :=
  first.position % wqeCnt + first.wqebbCnt ≤ second.position % wqeCnt ∨
    second.position % wqeCnt + second.wqebbCnt ≤ first.position % wqeCnt

/-- Each entry that is not retired is in consecutive blocks, as it was written, and no two overlap.
-/
structure Safe (queue : Queue Entry) : Prop where
  inFlight : queue.sq.inFlight ≤ queue.sq.wqeCnt
  inPlace : ∀ index wqe, queue.retired ≤ index → queue.sq.posted[index]? = some wqe →
    wqe.position % queue.sq.wqeCnt + wqe.wqebbCnt ≤ queue.sq.wqeCnt ∧
      queue.sq.buf.read (wqebbSize * (wqe.position % queue.sq.wqeCnt)) (wqebbSize * wqe.wqebbCnt) =
        wqe.image ∧
      (16 * dsCntOf wqe.image + 63) / wqebbSize = wqe.wqebbCnt
  apart : ∀ index wqe later other, queue.retired ≤ index → index < later →
    queue.sq.posted[index]? = some wqe → queue.sq.posted[later]? = some other →
    Apart queue.sq.wqeCnt wqe other

/-- The WQEs lie one behind the other, and the entries of the retired ones were returned. -/
structure Sound (queue : Queue Entry) : Prop where
  laid : queue.sq.Laid queue.retired
  returned : queue.returned = ((queue.sq.posted.take queue.retired).filterMap Wqe.entry).map some

variable {queue : Queue Entry}

theorem Sound.safe (sound : Sound queue) : Safe queue where
  inFlight := by
    have window := sound.laid.window
    rw [sound.laid.inFlight_eq]
    omega
  inPlace index wqe unretired here := by
    have laid := sound.laid
    have there := SendQueueState.Laid.segment_getElem? here
    have inside := (List.getElem?_eq_some_iff.mp here).1
    obtain ⟨⟨length, fits⟩, image⟩ := laid.transit.intact index _ unretired inside there
    rw [wqe.segment_length] at length fits
    change wqebbSize * wqe.position % _ + _ ≤ _ at fits
    rw [Nat.mul_mod_mul_left, ← Nat.mul_add] at fits
    rw [length] at image
    change queue.sq.buf.read (wqebbSize * wqe.position % _) _ = wqe.image at image
    rw [Nat.mul_mod_mul_left] at image
    exact ⟨Nat.le_of_mul_le_mul_left fits (by decide), image,
      laid.described wqe (List.mem_of_getElem? here)⟩
  apart index wqe later other unretired order here there := by
    have laid := sound.laid
    have behind := laid.stop_le_position order here there
    have low := (laid.outstanding unretired here).1
    have high := (laid.outstanding (by omega) there).2
    have window := laid.window
    refine offsets_disjoint behind ?_
    rw [Wqe.stop] at high
    omega

theorem describable_wqeSize {params : WriteImmParams} (fits : params.wqeSize true ≤ 63 * 16)
    (withSge : Bool) : Describable (params.wqeSize withSge) := by
  have size : params.wqeSize true = 16 + 16 + inlinePaddedSize params.data.length + 16 := rfl
  have units : 16 ∣ inlinePaddedSize params.data.length := Nat.dvd_mul_left ..
  cases withSge with
  | true => exact ⟨by omega, by omega, fits⟩
  | false =>
    have less : params.wqeSize false = 16 + 16 + inlinePaddedSize params.data.length := rfl
    exact ⟨by omega, by omega, by omega⟩

theorem Sound.emit (sound : Sound queue) {params : WriteImmParams} (entry : Option Entry)
    (fits : params.wqeSize true ≤ 63 * 16) :
    queue.sq.emitWriteImm params entry = (.error .sqFull, queue.sq) ∨
      ∃ result after gap wqe, queue.sq.emitWriteImm params entry = (.ok result, after) ∧
        Sound { queue with sq := after } ∧
        SendQueueState.Emitted .rdmaWriteImm entry queue.sq after result gap wqe := by
  obtain refused | ⟨result, after, gap, wqe, accepted, laid, emitted⟩ :=
    sound.laid.emit entry (params.writes true _ _) (describable_wqeSize fits true)
      (params.writes _ _ _) (describable_wqeSize fits _)
  · exact .inl refused
  · refine .inr ⟨result, after, gap, wqe, accepted, ⟨laid, ?_⟩, emitted⟩
    rw [emitted.posted, List.append_assoc, List.take_append_of_le_length sound.laid.retired_le]
    exact sound.returned

theorem Sound.complete (sound : Sound queue) {count : Nat} {wqe : Wqe Entry}
    (next : nextSignaled (queue.sq.posted.drop queue.retired) = some (count, wqe)) :
    ∃ entry after, wqe.entry = some entry ∧
      queue.sq.processCompletion (wqe.position % 2 ^ 16) = (some entry, after) ∧
      after.ci = wqe.stop % 2 ^ 16 ∧
      (after.processCompletion (wqe.position % 2 ^ 16)).1 = none ∧
      Sound {
        sq := after, retired := queue.retired + count,
        returned := queue.returned ++ [some entry] } := by
  obtain ⟨ahead, rfl, here, signaled, silent⟩ := nextSignaled_spec next
  rw [List.getElem?_drop] at here
  obtain ⟨entry, signaled⟩ := Option.isSome_iff_exists.mp signaled
  obtain ⟨after, completed, laid, posted, ci, once⟩ :=
    sound.laid.processCompletion (Nat.le_add_right ..) here signaled
  refine ⟨entry, after, signaled, completed, ci, once, laid, ?_⟩
  rw [posted, ← Nat.add_assoc, List.take_add_one, here, List.take_add, List.filterMap_append,
    List.filterMap_append, silent, List.append_nil, List.map_append, ← sound.returned]
  simp [signaled]

/-- Emissions and completions keep the WQEs in flight apart. -/
theorem Sound.step (sound : Sound queue) {action : Action Entry} (fits : action.Fits) :
    Sound (queue.step action) := by
  cases action with
  | emit params entry =>
    obtain refused | ⟨result, after, gap, wqe, accepted, safe, _⟩ := sound.emit entry fits
    · simp only [Queue.step, refused]
      exact sound
    · simp only [Queue.step, accepted]
      exact safe
  | complete =>
    cases next : nextSignaled (queue.sq.posted.drop queue.retired) with
    | none =>
      simp only [Queue.step, next]
      exact sound
    | some found =>
      obtain ⟨count, wqe⟩ := found
      obtain ⟨entry, after, _, completed, _, _, safe⟩ := sound.complete next
      simp only [Queue.step, next, completed]
      exact safe

theorem sound_run {wqeCnt sqn : Nat} {buf : Memory} {actions : List (Action Entry)}
    (power : wqeCnt.isPowerOfTwo) (bound : wqeCnt ≤ 2 ^ 15)
    (fits : ∀ action ∈ actions, action.Fits) : Sound (run step (new wqeCnt sqn buf) actions) := by
  suffices every : ∀ queue : Queue Entry, Sound queue → Sound (run step queue actions) from
    every _ ⟨.new power bound, rfl⟩
  induction actions with
  | nil => exact fun _ sound => sound
  | cons action rest ih =>
    intro queue sound
    exact ih (fun other member => fits other (List.mem_cons_of_mem _ member)) _
      (sound.step (fits action List.mem_cons_self))

/-- The entries that are not retired stay in their blocks; an emission is refused without any effect
or puts its entry behind them; and each signaled entry gives back what was stored with it, once. -/
theorem send_queue_ring_safe (wqeCnt sqn : Nat) (buf : Memory) {actions : List (Action Entry)}
    (power : wqeCnt.isPowerOfTwo) (bound : wqeCnt ≤ 2 ^ 15)
    (fits : ∀ action ∈ actions, action.Fits) :
    let queue := run step (new wqeCnt sqn buf) actions
    Safe queue ∧ (∀ params entry, params.wqeSize true ≤ 63 * 16 →
        queue.sq.emitWriteImm params entry = (.error .sqFull, queue.sq) ∨
          ∃ result after gap wqe, queue.sq.emitWriteImm params entry = (.ok result, after) ∧
            SendQueueState.Emitted .rdmaWriteImm entry queue.sq after result gap wqe ∧
            Safe { queue with sq := after }) ∧
      (∀ count wqe, nextSignaled (queue.sq.posted.drop queue.retired) = some (count, wqe) →
        ∃ entry after, wqe.entry = some entry ∧
          queue.sq.processCompletion (wqe.position % 2 ^ 16) = (some entry, after) ∧
          after.ci = wqe.stop % 2 ^ 16 ∧
          (after.processCompletion (wqe.position % 2 ^ 16)).1 = none) ∧
      queue.returned = ((queue.sq.posted.take queue.retired).filterMap Wqe.entry).map some := by
  intro queue
  have sound : Sound queue := sound_run power bound fits
  refine ⟨sound.safe, ?_, ?_, sound.returned⟩
  · intro params entry small
    obtain refused | ⟨result, after, gap, wqe, accepted, later, emitted⟩ := sound.emit entry small
    · exact .inl refused
    · exact .inr ⟨result, after, gap, wqe, accepted, emitted, later.safe⟩
  · intro count wqe next
    obtain ⟨entry, after, signaled, completed, ci, once, _⟩ := sound.complete next
    exact ⟨entry, after, signaled, completed, ci, once⟩

def writeOf (data : List UInt8) : WriteImmParams where
  flags := 0
  rdma := { remoteAddr := 4096, rkey := 7 }
  imm := 3
  data
  sge := { addr := 64, len := 16, lkey := 5 }

/-- In a queue of four blocks the third entry does not fit into the last one. -/
def wrappingEmissions : List (Action Nat) :=
  [.emit (writeOf [1, 2, 3]) none, .emit (writeOf (List.replicate 60 9)) (some 7), .complete,
    .emit (writeOf (List.replicate 60 8)) (some 11)]

theorem send_queue_ring_safe_wrappingEmissions :
    let queue := run step (new 4 1 fun _ => 0) wrappingEmissions
    queue.sq.posted.map (fun wqe => (wqe.position, wqe.wqebbCnt, opcodeOf wqe.image)) =
        [(0, 1, 9), (1, 2, 9), (3, 1, 0), (4, 2, 9)] ∧
      queue.retired = 2 ∧ Safe queue ∧ queue.returned = [some 7] := by
  intro queue
  have fits : ∀ action ∈ wrappingEmissions, action.Fits := by decide
  have safe := send_queue_ring_safe 4 1 (fun _ => 0) ⟨2, rfl⟩ (by decide) fits
  exact ⟨by decide +kernel, by decide +kernel, safe.1, safe.2.2.2.trans (by decide +kernel)⟩

end Queue

end Locasta.Mlx5
