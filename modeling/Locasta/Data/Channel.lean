import Locasta.Data.Ring

namespace Locasta.Data

/-! A one-way channel through a ring.

The sender posts segments of a virtual byte stream. They land in the receiver's ring in order, each
at the place of its first position. What has landed survives until it is processed as long as no
segment is posted more than one ring size ahead of the receiver.
-/

/-- The virtual range from `start` to `stop`, and the bytes that travel for it. -/
structure Segment where
  start : Nat
  stop : Nat
  payload : List UInt8

/-- The segment lies within one cycle of a ring. -/
def Segment.Inside (size : Nat) (segment : Segment) : Prop :=
  segment.start % size + (segment.stop - segment.start) ≤ size

/-- Nothing of the segment is cut off, and it does not cross the end of the ring. -/
def Segment.Whole (size : Nat) (segment : Segment) : Prop :=
  segment.payload.length = segment.stop - segment.start ∧
    segment.start % size + (segment.stop - segment.start) ≤ size

def Segment.Intact (size : Nat) (ring : Memory) (segment : Segment) : Prop :=
  segment.Whole size ∧ ring.read (segment.start % size) segment.payload.length = segment.payload

instance (size : Nat) (segment : Segment) : Decidable (segment.Whole size) :=
  inferInstanceAs (Decidable (_ ∧ _))

instance (size : Nat) (ring : Memory) (segment : Segment) : Decidable (segment.Intact size ring) :=
  inferInstanceAs (Decidable (_ ∧ _))

def frontier (segments : List Segment) : Nat := (segments.getLast?.map Segment.stop).getD 0

/-- Each segment starts where the ones before it end. -/
def Contiguous (segments : List Segment) : Prop :=
  ∀ index segment, segments[index]? = some segment →
    segment.start = frontier (segments.take index) ∧ segment.start ≤ segment.stop

variable {segments : List Segment} {segment : Segment} {index size : Nat}

@[simp] theorem frontier_append (segments : List Segment) (segment : Segment) :
    frontier (segments ++ [segment]) = segment.stop := by
  simp [frontier]

theorem frontier_take_succ (here : segments[index]? = some segment) :
    frontier (segments.take (index + 1)) = segment.stop := by
  rw [List.take_add_one, here]
  exact frontier_append ..

namespace Contiguous

theorem nil : Contiguous [] := by
  intro index segment here
  simp at here

variable (contiguous : Contiguous segments)
include contiguous

theorem append (start : segment.start = frontier segments)
    (order : segment.start ≤ segment.stop) : Contiguous (segments ++ [segment]) := by
  intro index other here
  rcases Nat.lt_trichotomy index segments.length with inside | last | outside
  · rw [List.getElem?_append_left inside] at here
    rw [List.take_append_of_le_length (Nat.le_of_lt inside)]
    exact contiguous index other here
  · subst last
    simp only [List.getElem?_concat_length, Option.some.injEq] at here
    subst here
    rw [List.take_left]
    exact ⟨start, order⟩
  · rw [List.getElem?_eq_none (by simp; omega)] at here
    cases here

theorem frontier_mono {first last : Nat}
    (order : first ≤ last) : frontier (segments.take first) ≤ frontier (segments.take last) := by
  induction last, order using Nat.le_induction with
  | base => exact Nat.le_refl _
  | succ last _ ih =>
    cases here : segments[last]? with
    | none =>
      rw [List.take_add_one, here]
      simpa using ih
    | some segment =>
      obtain ⟨start, forward⟩ := contiguous last segment here
      rw [frontier_take_succ here]
      omega

theorem frontier_take_le (count : Nat) : frontier (segments.take count) ≤ frontier segments := by
  have whole := contiguous.frontier_mono (Nat.le_max_left count segments.length)
  rwa [List.take_of_length_le (Nat.le_max_right count segments.length)] at whole

theorem frontier_le_start {first : Nat} (order : first ≤ index)
    (here : segments[index]? = some segment) : frontier (segments.take first) ≤ segment.start := by
  rw [(contiguous index segment here).1]
  exact contiguous.frontier_mono order

theorem stop_le_start {later : Nat} {other : Segment}
    (order : index < later) (here : segments[index]? = some segment)
    (there : segments[later]? = some other) : segment.stop ≤ other.start := by
  rw [← frontier_take_succ here]
  exact contiguous.frontier_le_start order there

end Contiguous

/-- `landed` segments have been stored, `processed` of those are done with. -/
structure Transit (size : Nat) (ring : Memory) (segments : List Segment)
    (landed processed : Nat) : Prop where
  contiguous : Contiguous segments
  whole : ∀ segment ∈ segments, segment.Whole size
  window : ∀ index segment, processed ≤ index → segments[index]? = some segment →
    ∀ later other, index < later → segments[later]? = some other → other.stop ≤ segment.start + size
  intact : ∀ index segment, processed ≤ index → index < landed → segments[index]? = some segment →
    segment.Intact size ring

namespace Transit

variable {ring : Memory} {landed processed : Nat}

theorem nil (ring : Memory) : Transit size ring [] 0 0 where
  contiguous := .nil
  whole := by simp
  window := by simp
  intact := by simp

variable (transit : Transit size ring segments landed processed)
include transit

/-- Segments may be posted up to one ring size behind what the receiver has processed. -/
theorem extend {posted : List Segment}
    (landedBound : landed ≤ segments.length) (processedBound : processed ≤ segments.length)
    (contiguous : Contiguous (segments ++ posted))
    (room : ∀ segment ∈ posted,
      segment.Whole size ∧ segment.stop ≤ frontier (segments.take processed) + size) :
    Transit size ring (segments ++ posted) landed processed where
  contiguous
  whole := by
    intro other member
    rcases List.mem_append.mp member with old | new
    · exact transit.whole other old
    · exact (room other new).1
  window := by
    intro index first unprocessed here later other after there
    by_cases old : later < segments.length
    · rw [List.getElem?_append_left (by omega)] at here
      rw [List.getElem?_append_left old] at there
      exact transit.window index first unprocessed here later other after there
    · rw [List.getElem?_append_right (by omega)] at there
      have near := (room other (List.mem_of_getElem? there)).2
      have behind := contiguous.frontier_le_start unprocessed here
      rw [List.take_append_of_le_length processedBound] at behind
      omega
  intact := by
    intro index other unprocessed stored here
    rw [List.getElem?_append_left (by omega)] at here
    exact transit.intact index other unprocessed stored here

theorem land (next : segments[landed]? = some segment) :
    Transit size (ring.write (segment.start % size) segment.payload) segments (landed + 1)
      processed :=
  { transit with
    intact := by
      intro index other unprocessed stored here
      have otherWhole := transit.whole other (List.mem_of_getElem? here)
      refine ⟨otherWhole, ?_⟩
      rcases Nat.lt_succ_iff_lt_or_eq.mp stored with before | last
      · obtain ⟨_, bytes⟩ := transit.intact index other unprocessed before here
        have forward := (transit.contiguous index other here).2
        have behind := transit.contiguous.stop_le_start before here next
        have near := transit.window index other unprocessed here landed segment before next
        have length := (transit.whole segment (List.mem_of_getElem? next)).1
        have otherLength := otherWhole.1
        have nextForward := (transit.contiguous landed segment next).2
        rw [read_write_window (by omega) (by omega)]
        exact bytes
      · subst last
        rw [next] at here
        cases here
        exact Memory.read_write_same .. }

theorem advance {later : Nat}
    (order : processed ≤ later) : Transit size ring segments landed later where
  contiguous := transit.contiguous
  whole := transit.whole
  window index segment unprocessed := transit.window index segment (by omega)
  intact index segment unprocessed := transit.intact index segment (by omega)

theorem process : Transit size ring segments landed (processed + 1) :=
  transit.advance (Nat.le_succ _)

end Transit

end Locasta.Data
