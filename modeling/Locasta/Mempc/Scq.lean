import Locasta.Mempc.Onesided

namespace Locasta.Mempc

open Data Function

/-! The ring of indices of `scq.rs`, and the request ring made of two of them.

One thread runs at a time, and a compare-exchange fails only when the word has changed. A word packs
the cycle of its position, a safe bit and an index; all ones below the cycle mean that it is empty.
-/

def asI64 (word : Nat) : Int :=
  if word < 2 ^ 63 then word else word - 2 ^ 64

def scmp (a b : Nat) : Int := asI64 ((a + 2 ^ 64 - b) % 2 ^ 64)

def threshold3 (half n : Nat) : Nat := half + n - 1

def lfringMin : Nat := 3

def lfringMap (idx order n : Nat) : Nat :=
  if order + 1 ≤ lfringMin then idx &&& (n - 1)
  else (idx &&& (n - 1)) >>> (order + 1 - lfringMin) ||| (idx <<< lfringMin % 2 ^ 64 &&& (n - 1))

/-- `tcycle` and `hcycle`. -/
def cycle (n position : Nat) : Nat := position <<< 1 % 2 ^ 64 ||| (2 * n - 1)

structure ScqRingInner where
  entries : Nat → Nat
  head : Nat
  threshold : Nat
  tail : Nat
  order : Nat
  half : Nat
  n : Nat

inductive Dequeue where
  | takeHead
  | load (head attempt : Nat)
  | examine (head attempt entry : Nat)
  | exchange (head attempt entry entryNew : Nat)
  | leave (head : Nat)

namespace ScqRingInner

/-- Nothing is made when `n` is no word, or the entries take more than `isize::MAX` bytes. -/
def newEmpty (order : Nat) : Option ScqRingInner :=
  let half := 2 ^ order
  let n := half * 2
  if n * 8 < 2 ^ 63 then
    some {
      entries := fun _ => 2 ^ 64 - 1
      head := 0
      threshold := 2 ^ 64 - 1
      tail := 0
      order
      half
      n }
  else none

def newFull (order : Nat) : Option ScqRingInner :=
  (newEmpty order).map fun ring =>
    { ring with
      threshold := threshold3 ring.half ring.n
      tail := ring.half
      entries := (List.range ring.half).foldl (fun entries i =>
        update entries (lfringMap i order ring.n)
          (cycle ring.n i ^^^ (i ^^^ (ring.n - 1)))) ring.entries }

def place (ring : ScqRingInner) (position : Nat) : Nat := lfringMap position ring.order ring.n

def store (ring : ScqRingInner) (idx word : Nat) : ScqRingInner :=
  { ring with entries := update ring.entries idx word }

def compareExchange (ring : ScqRingInner) (idx current new : Nat) : Except Nat ScqRingInner :=
  if ring.entries idx = current then .ok (ring.store idx new) else .error (ring.entries idx)

def fetchAddTail (ring : ScqRingInner) : Nat × ScqRingInner :=
  (ring.tail, { ring with tail := (ring.tail + 1) % 2 ^ 64 })

/-- A load and a store. -/
def advanceTail (ring : ScqRingInner) : Nat × ScqRingInner :=
  let tail := ring.tail
  (tail, { ring with tail := (tail + 1) % 2 ^ 64 })

def fetchAddHead (ring : ScqRingInner) : Nat × ScqRingInner :=
  (ring.head, { ring with head := (ring.head + 1) % 2 ^ 64 })

def advanceHead (ring : ScqRingInner) : Nat × ScqRingInner :=
  let head := ring.head
  (head, { ring with head := (head + 1) % 2 ^ 64 })

section

variable (take : ScqRingInner → Nat × ScqRingInner) (index : Nat) (nonempty : Bool)

/-- The loops of `enqueue`: the next position is taken when there is none with its entry. -/
def enqueueWith : Nat → ScqRingInner → Option (Nat × Nat) → Option ScqRingInner
  | 0, _, _ => none
  | fuel + 1, ring, none =>
    let (tail, ring) := take ring
    enqueueWith fuel ring (some (tail, ring.entries (ring.place tail)))
  | fuel + 1, ring, some (tail, entry) =>
    let tcycle := cycle ring.n tail
    let ecycle := entry ||| (2 * ring.n - 1)
    if scmp ecycle tcycle < 0 ∧ (entry = ecycle ∨ entry = ecycle ^^^ ring.n ∧ ring.head ≤ tail) then
      match ring.compareExchange (ring.place tail) entry (tcycle ^^^ (index ^^^ (ring.n - 1))) with
      | .ok ring =>
        let thresh := threshold3 ring.half ring.n
        some (if !nonempty && ring.threshold != thresh then { ring with threshold := thresh } else ring)
      | .error current => enqueueWith fuel ring (some (tail, current))
    else enqueueWith fuel ring none

end

def enqueue (ring : ScqRingInner) (fuel index : Nat) (nonempty : Bool) : Option ScqRingInner :=
  enqueueWith fetchAddTail index nonempty fuel ring none

def enqueueSingleProducer (ring : ScqRingInner) (fuel index : Nat) (nonempty : Bool) :
    Option ScqRingInner :=
  enqueueWith advanceTail index nonempty fuel ring none

def catchup : Nat → ScqRingInner → Nat → Nat → Option ScqRingInner
  | 0, _, _, _ => none
  | fuel + 1, ring, tail, head =>
    if ring.tail = tail then some { ring with tail := head }
    else if scmp ring.tail ring.head ≥ 0 then some ring
    else catchup fuel ring ring.tail ring.head

/-- `threshold.fetch_sub(1)` -/
def lower (ring : ScqRingInner) : ScqRingInner :=
  { ring with threshold := (ring.threshold + 2 ^ 64 - 1) % 2 ^ 64 }

section

variable (take : ScqRingInner → Nat × ScqRingInner) (nonempty : Bool)

def dequeueLoop : Nat → ScqRingInner → Dequeue → Option (Option Nat × ScqRingInner)
  | 0, _, _ => none
  | fuel + 1, ring, .takeHead =>
    let (head, ring) := take ring
    dequeueLoop fuel ring (.load head 0)
  | fuel + 1, ring, .load head attempt =>
    dequeueLoop fuel ring (.examine head attempt (ring.entries (ring.place head)))
  | fuel + 1, ring, .examine head attempt entry =>
    let hidx := ring.place head
    let hcycle := cycle ring.n head
    let ecycle := entry ||| (2 * ring.n - 1)
    if ecycle = hcycle then
      some (some (entry &&& (ring.n - 1)), ring.store hidx (ring.entries hidx ||| (ring.n - 1)))
    else if entry ||| ring.n ≠ ecycle then
      let entryNew := entry &&& (ring.n ^^^ (2 ^ 64 - 1))
      dequeueLoop fuel ring
        (if entry = entryNew then .leave head else .exchange head attempt entry entryNew)
    else if attempt + 1 ≤ 10000 then
      dequeueLoop fuel ring (.load head (attempt + 1))
    else
      dequeueLoop fuel ring (.exchange head (attempt + 1) entry
        (hcycle ^^^ ((entry ^^^ (2 ^ 64 - 1)) &&& ring.n)))
  | fuel + 1, ring, .exchange head attempt entry entryNew =>
    if scmp (entry ||| (2 * ring.n - 1)) (cycle ring.n head) ≥ 0 then
      dequeueLoop fuel ring (.leave head)
    else
      match ring.compareExchange (ring.place head) entry entryNew with
      | .ok ring => dequeueLoop fuel ring (.leave head)
      | .error current => dequeueLoop fuel ring (.examine head attempt current)
  | fuel + 1, ring, .leave head =>
    if nonempty then dequeueLoop fuel ring .takeHead
    else if scmp ring.tail (head + 1) ≤ 0 then
      (catchup (fuel + 1) ring ring.tail (head + 1)).map fun ring => (none, ring.lower)
    else if asI64 ring.threshold ≤ 0 then some (none, ring.lower)
    else dequeueLoop fuel ring.lower .takeHead

def dequeueWith (ring : ScqRingInner) (fuel : Nat) : Option (Option Nat × ScqRingInner) :=
  if !nonempty && decide (asI64 ring.threshold < 0) then some (none, ring)
  else dequeueLoop take nonempty fuel ring .takeHead

end

def dequeue (ring : ScqRingInner) (fuel : Nat) (nonempty : Bool) :
    Option (Option Nat × ScqRingInner) :=
  dequeueWith fetchAddHead nonempty ring fuel

def dequeueSingleConsumer (ring : ScqRingInner) (fuel : Nat) (nonempty : Bool) :
    Option (Option Nat × ScqRingInner) :=
  dequeueWith advanceHead nonempty ring fuel

end ScqRingInner

section Words

variable {k position index : Nat}

theorem or_mask (word k : Nat) : word ||| (2 ^ k - 1) = 2 ^ k * (word / 2 ^ k) + (2 ^ k - 1) := by
  have below : 2 ^ k - 1 < 2 ^ k := Nat.sub_lt (Nat.two_pow_pos k) Nat.one_pos
  apply Nat.eq_of_testBit_eq
  intro bit
  rw [Nat.testBit_two_pow_mul_add _ below, Nat.testBit_or, Nat.testBit_two_pow_sub_one]
  split
  · simp_all
  · rename_i high
    simp [high, Nat.testBit_div_two_pow, Nat.sub_add_cancel (Nat.le_of_not_lt high)]

theorem xor_mask (word : Nat) (below : index < 2 ^ k) :
    (2 ^ k * word + (2 ^ k - 1)) ^^^ (index ^^^ (2 ^ k - 1)) = 2 ^ k * word + index := by
  have mask : 2 ^ k - 1 < 2 ^ k := Nat.sub_lt (Nat.two_pow_pos k) Nat.one_pos
  apply Nat.eq_of_testBit_eq
  intro bit
  simp only [Nat.testBit_xor, Nat.testBit_two_pow_mul_add _ mask,
    Nat.testBit_two_pow_mul_add _ below, Nat.testBit_two_pow_sub_one]
  split
  · rename_i low
    simp [low]
  · rename_i high
    have none : index.testBit bit = false :=
      Nat.testBit_lt_two_pow (Nat.lt_of_lt_of_le below
        (Nat.pow_le_pow_right (by decide) (Nat.le_of_not_lt high)))
    simp [high, none]

theorem two_mul_two_pow (k : Nat) : 2 * 2 ^ k = 2 ^ (k + 1) := by
  rw [Nat.pow_succ, Nat.mul_comm]

theorem cycle_eq (k : Nat) (short : position < 2 ^ 63) :
    cycle (2 ^ k) position = 2 * 2 ^ k * (position / 2 ^ k) + (2 * 2 ^ k - 1) := by
  have same : position * 2 ^ 1 / 2 ^ (k + 1) = position / 2 ^ k := by
    exact Nat.mul_div_mul_right _ _ (by decide)
  rw [cycle, Nat.shiftLeft_eq, Nat.mod_eq_of_lt (by omega), two_mul_two_pow, or_mask, same]

/-- The word at a position of the ring: of a round before when it holds nothing. -/
def word (n position : Nat) : Option Nat → Nat
  | some index => cycle n position ^^^ (index ^^^ (n - 1))
  | none => if position < n then 2 ^ 64 - 1 else cycle n (position - n)

theorem two_pow_mul_odd (k round : Nat) : 2 ^ k * (2 * round + 1) = 2 * 2 ^ k * round + 2 ^ k := by
  rw [Nat.mul_add, Nat.mul_one, ← Nat.mul_assoc, Nat.mul_comm (2 ^ k) 2]

theorem word_some (short : position < 2 ^ 63) (below : index < 2 ^ k) :
    word (2 ^ k) position (some index) = 2 ^ k * (2 * (position / 2 ^ k) + 1) + index := by
  have odd : 2 * 2 ^ k * (position / 2 ^ k) + (2 * 2 ^ k - 1) =
      2 ^ k * (2 * (position / 2 ^ k) + 1) + (2 ^ k - 1) := by
    have positive := Nat.two_pow_pos k
    rw [two_pow_mul_odd]
    omega
  rw [word, cycle_eq k short, odd, xor_mask _ below]

theorem word_none_next (n position : Nat) : word n (position + n) none = cycle n position := by
  rw [word, if_neg (by omega), Nat.add_sub_cancel]

variable {n : Nat} (power : n = 2 ^ k)
include power

section

variable (short : position < 2 ^ 63) (below : index < n)
include short below

theorem word_some_or :
    word n position (some index) ||| (2 * n - 1) = cycle n position := by
  subst power
  have inside : 2 ^ k + index < 2 ^ (k + 1) := by
    omega
  rw [cycle_eq k short, word_some short below, two_pow_mul_odd, Nat.add_assoc, two_mul_two_pow,
    or_mask, Nat.mul_add_div (Nat.two_pow_pos _), Nat.div_eq_of_lt inside,
    Nat.add_zero (position / 2 ^ k)]

theorem word_some_fill :
    word n position (some index) ||| (n - 1) = cycle n position := by
  subst power
  have positive := Nat.two_pow_pos k
  rw [cycle_eq k short, word_some short below, or_mask, Nat.mul_add_div positive,
    Nat.div_eq_of_lt below, Nat.add_zero, two_pow_mul_odd]
  omega

theorem word_some_and :
    word n position (some index) &&& (n - 1) = index := by
  subst power
  rw [word_some short below, Nat.and_two_pow_sub_one_eq_mod, Nat.mul_add_mod,
    Nat.mod_eq_of_lt below]

end

section

variable (small : k ≤ 62)
include small

theorem word_none_or :
    word n position none ||| (2 * n - 1) = word n position none := by
  subst power
  rw [word]
  split
  · rw [two_mul_two_pow]
    apply Nat.eq_of_testBit_eq
    intro bit
    rw [Nat.testBit_or, Nat.testBit_two_pow_sub_one, Nat.testBit_two_pow_sub_one, ← Bool.decide_or]
    exact decide_eq_decide.mpr (by omega)
  · rw [cycle, Nat.or_assoc, Nat.or_self]

theorem word_none_safe : word n position none ||| n = word n position none := by
  subst power
  have inside : (2 * 2 ^ k - 1) ||| 2 ^ k = 2 * 2 ^ k - 1 := by
    rw [Nat.or_comm, two_mul_two_pow, or_mask, Nat.div_eq_of_lt
      (Nat.pow_lt_pow_right (by decide) (Nat.lt_succ_self k)), Nat.mul_zero, Nat.zero_add]
  rw [← word_none_or rfl small, Nat.or_assoc, inside]

theorem word_none_not : (word n position none ^^^ (2 ^ 64 - 1)) &&& n = 0 := by
  subst power
  have safe : (word (2 ^ k) position none).testBit k = true := by
    rw [← word_none_safe rfl small, Nat.testBit_or, Nat.testBit_two_pow_self, Bool.or_true]
  apply Nat.eq_of_testBit_eq
  intro bit
  by_cases same : k = bit
  · subst same
    rw [Nat.testBit_and, Nat.testBit_xor, safe, Nat.testBit_two_pow_sub_one,
      decide_eq_true (by omega)]
    simp
  · simp [Nat.testBit_two_pow_of_ne same]

theorem scmp_word_none (short : position < 2 ^ 63) :
    scmp (word n position none) (cycle n position) < 0 := by
  subst power
  have positive := Nat.two_pow_pos k
  have bound : 2 ^ k ≤ 2 ^ 62 := Nat.pow_le_pow_right (by decide) small
  have behind : scmp (word (2 ^ k) position none) (cycle (2 ^ k) position) =
      asI64 (2 ^ 64 - 2 * 2 ^ k) := by
    unfold scmp
    congr 1
    rw [cycle_eq k short]
    have under := Nat.mul_div_le position (2 ^ k)
    have double : 2 * 2 ^ k * (position / 2 ^ k) = 2 * (2 ^ k * (position / 2 ^ k)) :=
      Nat.mul_assoc ..
    rw [word]
    split
    · rename_i first
      rw [Nat.div_eq_of_lt first, Nat.mul_zero]
      omega
    · rename_i later
      obtain ⟨earlier, rfl⟩ := Nat.exists_eq_add_of_le' (Nat.le_of_not_lt later)
      rw [Nat.add_sub_cancel, cycle_eq k (by omega), Nat.add_div_right _ positive, Nat.mul_succ]
      have double : 2 * 2 ^ k * (earlier / 2 ^ k) = 2 * (2 ^ k * (earlier / 2 ^ k)) :=
        Nat.mul_assoc ..
      omega
  rw [behind, asI64, if_neg (by omega)]
  omega

theorem word_none_ne (short : position < 2 ^ 63) :
    word n position none ≠ cycle n position := by
  intro same
  have behind := scmp_word_none power small short
  simp [same, scmp, asI64] at behind

end

omit power

theorem two_pow_digit {order : Nat} (large : ¬ order < 3) :
    2 ^ (order + 1) = 2 ^ 3 * 2 ^ (order - 2) := by
  rw [← Nat.pow_add]
  congr 1
  omega

theorem digit_lt {order : Nat} (large : ¬ order < 3) (position : Nat) :
    position % 2 ^ (order + 1) / 2 ^ (order - 2) < 2 ^ 3 := by
  rw [Nat.div_lt_iff_lt_mul (Nat.two_pow_pos _), ← two_pow_digit large]
  exact Nat.mod_lt _ (Nat.two_pow_pos _)

theorem lfringMap_eq {order : Nat} (small : order ≤ 58) (position : Nat) :
    lfringMap position order (2 ^ (order + 1)) =
      if order < 3 then position % 2 ^ (order + 1)
      else 2 ^ 3 * (position % 2 ^ (order - 2)) + position % 2 ^ (order + 1) / 2 ^ (order - 2) := by
  unfold lfringMap lfringMin
  simp only [Nat.and_two_pow_sub_one_eq_mod, Nat.add_one_le_iff]
  split
  · rfl
  · rename_i large
    have dvd : 2 ^ (order + 1) ∣ 2 ^ 64 := Nat.pow_dvd_pow 2 (by omega)
    have rotated : position <<< 3 % 2 ^ 64 % 2 ^ (order + 1) =
        2 ^ 3 * (position % 2 ^ (order - 2)) := by
      rw [Nat.mod_mod_of_dvd _ dvd, Nat.shiftLeft_eq, two_pow_digit large,
        Nat.mul_comm position, Nat.mul_mod_mul_left]
    rw [rotated, Nat.shiftRight_eq_div_pow, Nat.two_pow_add_eq_or_of_lt (digit_lt large position),
      Nat.or_comm]
    congr 1

theorem lfringMap_inj {order first second : Nat} (small : order ≤ 58) :
    lfringMap first order (2 ^ (order + 1)) = lfringMap second order (2 ^ (order + 1)) ↔
      first % 2 ^ (order + 1) = second % 2 ^ (order + 1) := by
  rw [lfringMap_eq small, lfringMap_eq small]
  split
  · rfl
  · rename_i large
    have dvd : 2 ^ (order - 2) ∣ 2 ^ (order + 1) := Nat.pow_dvd_pow 2 (by omega)
    have parts (position : Nat) : position % 2 ^ (order + 1) =
        2 ^ (order - 2) * (position % 2 ^ (order + 1) / 2 ^ (order - 2)) +
          position % 2 ^ (order - 2) := by
      conv_lhs => rw [← Nat.div_add_mod (position % 2 ^ (order + 1)) (2 ^ (order - 2)),
        Nat.mod_mod_of_dvd _ dvd]
    constructor
    · intro same
      have digits {a b c d : Nat} (_ : b < 2 ^ 3) (_ : d < 2 ^ 3)
          (_ : 2 ^ 3 * a + b = 2 ^ 3 * c + d) : a = c ∧ b = d := by omega
      obtain ⟨high, rest⟩ := digits (digit_lt large first) (digit_lt large second) same
      rw [parts first, parts second, high, rest]
    · intro same
      rw [← Nat.mod_mod_of_dvd first dvd, ← Nat.mod_mod_of_dvd second dvd, same]

end Words

namespace ScqRingInner

/-- The ring holds the indices of `queue`, from `head` on. -/
structure Represents (order : Nat) (ring : ScqRingInner) (queue : List Nat) : Prop where
  small : order ≤ 58
  sameOrder : ring.order = order
  sameHalf : ring.half = 2 ^ order
  sameN : ring.n = 2 ^ (order + 1)
  tail : ring.tail = ring.head + queue.length
  fits : queue.length ≤ 2 ^ order
  below : ∀ index ∈ queue, index < 2 ^ order
  words : ∀ offset < ring.n, ring.entries (ring.place (ring.head + offset)) =
    word ring.n (ring.head + offset) queue[offset]?
  alive : queue ≠ [] → ring.threshold = threshold3 ring.half ring.n

namespace Represents

variable {order fuel index : Nat} {ring : ScqRingInner} {queue : List Nat} {nonempty : Bool}

section

variable (holds : Represents order ring queue)
include holds

theorem n_eq : ring.n = 2 * 2 ^ order := holds.sameN.trans (two_mul_two_pow order).symm

theorem order_lt : order + 1 ≤ 62 := Nat.le_trans (Nat.succ_le_succ holds.small) (by decide)

theorem half_le : 2 ^ order ≤ 2 ^ 58 := Nat.pow_le_pow_right (by decide) holds.small

theorem place_ne {first second : Nat} (different : first < second)
    (window : second < first + ring.n) : ring.place first ≠ ring.place second := by
  unfold place
  rw [holds.sameOrder, holds.sameN]
  rw [holds.sameN] at window
  exact fun same => mod_ne_mod_of_window different window ((lfringMap_inj holds.small).mp same)

theorem place_next (position : Nat) : ring.place (position + ring.n) = ring.place position := by
  unfold place
  rw [holds.sameOrder, holds.sameN, lfringMap_inj holds.small, Nat.add_mod_right]

theorem append (short : queue.length < 2 ^ order) (below : index < 2 ^ order) {threshold : Nat}
    (alive : threshold = threshold3 ring.half ring.n) :
    Represents order
      { ring.store (ring.place ring.tail) (word ring.n ring.tail (some index)) with
        tail := ring.tail + 1, threshold } (queue ++ [index]) := by
  have longer : (queue ++ [index]).length = queue.length + 1 := List.length_append
  refine { holds with
    tail := by simp [store, holds.tail, Nat.add_assoc]
    fits := Nat.le_trans (Nat.le_of_eq longer) short
    below := List.forall_mem_append.mpr ⟨holds.below, List.forall_mem_singleton.mpr below⟩
    words := ?_
    alive := fun _ => alive }
  intro offset inside
  have double := holds.n_eq
  change offset < ring.n at inside
  change update ring.entries _ _ (ring.place (ring.head + offset)) =
    word ring.n (ring.head + offset) (queue ++ [index])[offset]?
  rw [holds.tail]
  rcases Nat.lt_trichotomy offset queue.length with early | rfl | late
  · rw [update_of_ne (holds.place_ne (by omega) (by omega)),
      List.getElem?_append_left early, holds.words offset inside]
  · rw [update_self, List.getElem?_concat_length]
  · rw [update_of_ne (holds.place_ne (by omega) (by omega)).symm, holds.words offset inside,
      List.getElem?_eq_none (by omega), List.getElem?_eq_none (by omega)]

theorem advance {tail threshold : Nat} (next : tail = ring.head + 1 + queue.tail.length)
    (alive : queue.tail ≠ [] → threshold = threshold3 ring.half ring.n) :
    Represents order
      { ring.store (ring.place ring.head) (cycle ring.n ring.head) with
        head := ring.head + 1, tail, threshold } queue.tail := by
  refine { holds with
    tail := next
    fits := Nat.le_trans (by simp) holds.fits
    below := fun index member => holds.below index (List.mem_of_mem_tail member)
    words := ?_
    alive }
  intro offset inside
  have double := holds.n_eq
  have fits := holds.fits
  have positive := Nat.two_pow_pos order
  change offset < ring.n at inside
  change update ring.entries _ _ (ring.place (ring.head + 1 + offset)) =
    word ring.n (ring.head + 1 + offset) queue.tail[offset]?
  rw [List.getElem?_tail, Nat.add_assoc, Nat.add_comm 1]
  rcases Nat.lt_or_eq_of_le (Nat.succ_le_of_lt inside) with within | last
  · rw [update_of_ne (holds.place_ne (by omega) (by omega)).symm, holds.words _ within]
  · rw [← Nat.succ_eq_add_one, last, holds.place_next, update_self,
      List.getElem?_eq_none (by omega), word_none_next]

theorem head_lt (room : ring.tail < 2 ^ 63 - 1) : ring.head < 2 ^ 63 := by
  have tail := holds.tail
  omega

theorem enqueues (room : ring.tail < 2 ^ 63 - 1) (short : queue.length < 2 ^ order)
    (below : index < 2 ^ order) (flag : nonempty = true → queue ≠ [])
    (enough : 20010 ≤ fuel) :
    ∃ after, ring.enqueue fuel index nonempty = some after ∧
      Represents order after (queue ++ [index]) ∧ after.tail = ring.tail + 1 := by
  obtain ⟨rest, rfl⟩ := Nat.exists_eq_add_of_le' (Nat.le_trans (by decide : 2 ≤ 20010) enough)
  have double := holds.n_eq
  have entry : ring.entries (ring.place ring.tail) = word ring.n ring.tail none := by
    rw [holds.tail, holds.words queue.length (by omega), List.getElem?_eq_none (Nat.le_refl _)]
  have wrapped : (ring.tail + 1) % 2 ^ 64 = ring.tail + 1 := Nat.mod_eq_of_lt (by omega)
  have filled : cycle ring.n ring.tail ^^^ (index ^^^ (ring.n - 1)) =
    word ring.n ring.tail (some index) := rfl
  refine ⟨_, ?_, holds.append short below rfl, rfl⟩
  have blank := @word_none_or _ ring.tail _ holds.sameN holds.order_lt
  have behind := @scmp_word_none _ ring.tail _ holds.sameN holds.order_lt (by omega)
  unfold place at entry
  simp only [ScqRingInner.enqueue, enqueueWith, fetchAddTail, place, wrapped, entry, blank,
    behind, compareExchange, true_and, true_or, if_true, store, filled]
  cases nonempty with
  | true => rw [← holds.alive (flag rfl)]; rfl
  | false =>
    by_cases same : ring.threshold = threshold3 ring.half ring.n
    · simp [same]
    · simp [same]

end

theorem spin {takeHead : ScqRingInner → Nat × ScqRingInner} {head entry : Nat}
    (loaded : ring.entries (ring.place head) = entry) (blank : entry ||| (2 * ring.n - 1) = entry)
    (safe : entry ||| ring.n = entry) (different : entry ≠ cycle ring.n head) (left : Nat)
    (bound : left ≤ 10000) :
    dequeueLoop takeHead nonempty (fuel + 2 * (left + 1)) ring (.load head (10000 - left)) =
      dequeueLoop takeHead nonempty fuel ring (.exchange head 10001 entry
        (cycle ring.n head ^^^ ((entry ^^^ (2 ^ 64 - 1)) &&& ring.n))) := by
  induction left with
  | zero => simp [dequeueLoop, loaded, blank, safe, different]
  | succ left ih =>
    have next : 10000 - (left + 1) + 1 = 10000 - left := by omega
    rw [← ih (by omega)]
    change dequeueLoop takeHead nonempty (fuel + 2 * (left + 1) + 1 + 1) ring _ = _
    rw [dequeueLoop, dequeueLoop, next]
    simp [loaded, blank, safe, different]

theorem dequeues_first (holds : Represents order ring (index :: queue))
    (room : ring.tail < 2 ^ 63 - 1) (enough : 20010 ≤ fuel) :
    ∃ after, ring.dequeue fuel false = some (some index, after) ∧ Represents order after queue ∧
      after.tail = ring.tail := by
  obtain ⟨rest, rfl⟩ := Nat.exists_eq_add_of_le' (Nat.le_trans (by decide : 3 ≤ 20010) enough)
  have double := holds.n_eq
  have limit := holds.half_le
  have positive := Nat.two_pow_pos order
  have headLt := holds.head_lt room
  have below : index < ring.n :=
    Nat.lt_of_lt_of_le (holds.below index List.mem_cons_self) (by omega)
  have entry : ring.entries (ring.place ring.head) = word ring.n ring.head (some index) :=
    holds.words 0 (by omega)
  have awake : ¬ asI64 ring.threshold < 0 := by
    rw [holds.alive (List.cons_ne_nil _ _), threshold3, holds.sameHalf, asI64, if_pos (by omega)]
    omega
  have found := word_some_or holds.sameN headLt below
  have taken := word_some_and holds.sameN headLt below
  have emptied := word_some_fill holds.sameN headLt below
  have wrapped : (ring.head + 1) % 2 ^ 64 = ring.head + 1 := Nat.mod_eq_of_lt (by omega)
  have next : ring.tail = ring.head + 1 + queue.length := by
    rw [holds.tail, List.length_cons]
    omega
  refine ⟨_, ?_, holds.advance next fun _ => holds.alive (List.cons_ne_nil _ _), rfl⟩
  unfold place at entry
  rw [ScqRingInner.dequeue, dequeueWith, if_neg (by simp [awake])]
  simp only [dequeueLoop, fetchAddHead, place, wrapped, entry, found, taken, emptied, store, if_true]

theorem dequeues_none (holds : Represents order ring []) (room : ring.tail < 2 ^ 63 - 1)
    (enough : 20010 ≤ fuel) :
    ∃ after, ring.dequeue fuel false = some (none, after) ∧ Represents order after [] ∧
      after.tail ≤ ring.tail + 1 := by
  by_cases asleep : asI64 ring.threshold < 0
  · refine ⟨ring, ?_, holds, Nat.le_succ _⟩
    simp [ScqRingInner.dequeue, dequeueWith, asleep]
  · obtain ⟨rest, spent, looks, rfl⟩ : ∃ rest spent, spent = 2 * (10000 + 1) ∧
        fuel = rest + 2 + spent + 1 := ⟨fuel - 20005, _, rfl, by omega⟩
    have double := holds.n_eq
    have positive := Nat.two_pow_pos order
    have headLt := holds.head_lt room
    have tail : ring.tail = ring.head := holds.tail
    have wrapped : (ring.head + 1) % 2 ^ 64 = ring.head + 1 := Nat.mod_eq_of_lt (by omega)
    have entry : ring.entries (ring.place ring.head) = word ring.n ring.head none :=
      holds.words 0 (by omega)
    have small := holds.order_lt
    have blank := @word_none_or _ ring.head _ holds.sameN small
    have safe := @word_none_safe _ ring.head _ holds.sameN small
    have different := word_none_ne holds.sameN small headLt
    have unset := @word_none_not _ ring.head _ holds.sameN small
    have behind := scmp_word_none holds.sameN small headLt
    have passed : scmp ring.head (ring.head + 1) ≤ 0 := by
      have minus : (ring.head + 2 ^ 64 - (ring.head + 1)) % 2 ^ 64 = 2 ^ 64 - 1 := by omega
      rw [scmp, minus]
      decide
    have after := @advance order ring [] holds (ring.head + 1)
      ((ring.threshold + 2 ^ 64 - 1) % 2 ^ 64) rfl nofun
    refine ⟨_, ?_, after, Nat.le_of_eq (by rw [tail])⟩
    have spun := @spin (rest + 2) { ring with head := ring.head + 1 } false fetchAddHead _ _ entry
      blank safe different 10000 (Nat.le_refl _)
    rw [ScqRingInner.dequeue, dequeueWith, if_neg (by simp [asleep])]
    rw [dequeueLoop, fetchAddHead, wrapped, looks]
    refine spun.trans ?_
    unfold place at entry
    simp only [dequeueLoop, compareExchange, place, entry, blank, Int.not_le.mpr behind, unset,
      store, tail, passed, catchup, lower, if_true, if_false, Nat.xor_zero, Option.map_some, ge_iff_le,
      Bool.false_eq_true]

theorem dequeues (holds : Represents order ring queue) (room : ring.tail < 2 ^ 63 - 1)
    (enough : 20010 ≤ fuel) :
    ∃ after, ring.dequeue fuel false = some (queue.head?, after) ∧
      Represents order after queue.tail ∧ after.tail ≤ ring.tail + 1 := by
  cases queue with
  | nil => exact holds.dequeues_none room enough
  | cons index rest =>
    obtain ⟨after, called, held, tail⟩ := holds.dequeues_first room enough
    exact ⟨after, called, held, Nat.le_succ_of_le (Nat.le_of_eq tail)⟩

theorem newEmpty (made : newEmpty order = some ring) :
    Represents order ring [] ∧ ring.tail = 0 ∧ ring.head = 0 := by
  unfold ScqRingInner.newEmpty at made
  dsimp only at made
  split at made
  · cases made
    have small : order ≤ 58 := by
      by_contra large
      have := Nat.pow_le_pow_right (by decide : 0 < 2) (Nat.lt_of_not_le large)
      omega
    refine ⟨?_, rfl, rfl⟩
    exact {
      small
      sameOrder := rfl
      sameHalf := rfl
      sameN := rfl
      tail := rfl
      fits := Nat.zero_le _
      below := nofun
      words := fun offset inside => (if_pos (by rw [Nat.zero_add]; exact inside)).symm
      alive := fun some => absurd rfl some }
  · cases made

theorem newFull (made : newFull order = some ring) :
    Represents order ring (List.range (2 ^ order)) ∧ ring.tail = 2 ^ order := by
  obtain ⟨empty, madeEmpty, rfl⟩ := Option.map_eq_some_iff.mp made
  obtain ⟨holds, _, start⟩ := newEmpty madeEmpty
  have loaded (count : Nat) (bound : count ≤ 2 ^ order) : Represents order { empty with
        threshold := threshold3 empty.half empty.n
        tail := count
        entries := (List.range count).foldl (fun entries i =>
          update entries (lfringMap i order empty.n)
            (cycle empty.n i ^^^ (i ^^^ (empty.n - 1)))) empty.entries } (List.range count) := by
    induction count with
    | zero => exact { holds with tail := start.symm, alive := fun _ => rfl }
    | succ count ih =>
      have next := (ih (Nat.le_of_succ_le bound)).append
        (by simpa using Nat.lt_of_succ_le bound) bound rfl
      rw [List.range_succ, List.foldl_append]
      dsimp only [store] at next
      rw [holds.sameOrder] at next ⊢
      exact next
  have whole := loaded (2 ^ order) (Nat.le_refl _)
  rw [holds.sameHalf] at *
  exact ⟨whole, rfl⟩

end Represents

inductive Operation where
  | enqueue (single : Bool) (index : Nat) (nonempty : Bool)
  | dequeue (single : Bool)

def perform (fuel : Nat) (ring : ScqRingInner) : Operation → Option (Option Nat × ScqRingInner)
  | .enqueue single index nonempty =>
    (if single then ring.enqueueSingleProducer fuel index nonempty
      else ring.enqueue fuel index nonempty).map fun ring => (none, ring)
  | .dequeue single =>
    if single then ring.dequeueSingleConsumer fuel false else ring.dequeue fuel false

/-- What the operations return, one after the other. -/
def performAll (fuel : Nat) (ring : ScqRingInner) :
    List Operation → Option (List (Option Nat) × ScqRingInner)
  | [] => some ([], ring)
  | operation :: rest =>
    (ring.perform fuel operation).bind fun (answer, ring) =>
      (ring.performAll fuel rest).map fun (answers, ring) => (answer :: answers, ring)

def queued (queue : List Nat) : Operation → List Nat
  | .enqueue _ index _ => queue ++ [index]
  | .dequeue _ => queue.tail

def answers : List Nat → List Operation → List (Option Nat)
  | _, [] => []
  | queue, .enqueue single index nonempty :: rest =>
    none :: answers (queued queue (.enqueue single index nonempty)) rest
  | queue, .dequeue single :: rest => queue.head? :: answers (queued queue (.dequeue single)) rest

def Allowed (half : Nat) (queue : List Nat) : Operation → Prop
  | .enqueue _ index nonempty =>
    index < half ∧ queue.length < half ∧ (nonempty = true → queue ≠ [])
  | .dequeue _ => True

instance (half : Nat) (queue : List Nat) :
    (operation : Operation) → Decidable (Allowed half queue operation)
  | .enqueue .. => inferInstanceAs (Decidable (_ ∧ _ ∧ _))
  | .dequeue _ => isTrue trivial

theorem Represents.performAll {order fuel : Nat} (enough : 20010 ≤ fuel) {ring : ScqRingInner}
    {queue : List Nat} {operations : List Operation} (holds : Represents order ring queue)
    (room : ring.tail + operations.length < 2 ^ 63 - 1)
    (allowed : Along queued (Allowed (2 ^ order)) queue operations) :
    ∃ after, ring.performAll fuel operations = some (answers queue operations, after) ∧
      Represents order after (run queued queue operations) := by
  induction operations generalizing ring queue with
  | nil => exact ⟨ring, rfl, holds⟩
  | cons operation rest ih =>
    rw [List.length_cons] at room
    cases operation with
    | enqueue single index nonempty =>
      obtain ⟨⟨below, short, flag⟩, later⟩ := allowed
      obtain ⟨next, called, held, tail⟩ := holds.enqueues (by omega) short below flag enough
      have same : ring.enqueueSingleProducer fuel index nonempty = some next := called
      obtain ⟨after, performed, kept⟩ := ih held (by omega) later
      refine ⟨after, ?_, kept⟩
      simp [ScqRingInner.performAll, perform, called, same, performed, answers, queued]
    | dequeue single =>
      obtain ⟨next, called, held, tail⟩ := holds.dequeues (by omega) enough
      have same : ring.dequeueSingleConsumer fuel false = some (queue.head?, next) := called
      obtain ⟨after, performed, kept⟩ := ih held (by omega) allowed.2
      refine ⟨after, ?_, kept⟩
      simp [ScqRingInner.performAll, perform, called, same, performed, answers, queued]

end ScqRingInner

structure ScqRequestRing (T : Type) where
  aq : ScqRingInner
  fq : ScqRingInner
  dataSlots : Nat → Option (Nat × T)
  rxAlive : Bool

namespace ScqRequestRing

open ScqRingInner

variable {T : Type}

/-- The capacity is a power of two, whose trailing zeros are its logarithm. -/
def new (T : Type) (capacity : Nat) : Option (ScqRequestRing T) :=
  let order := capacity.log2
  if 2 ^ order = capacity then
    (newEmpty order).bind fun aq => (newFull order).map fun fq =>
      { aq, fq, dataSlots := fun _ => none, rxAlive := true }
  else none

def tryPush (fuel : Nat) (ring : ScqRequestRing T) (callerId : Nat) (data : T) :
    Option (Except (CallError T) Nat × ScqRequestRing T) :=
  if !ring.rxAlive then some (.error (.disconnected data), ring)
  else
    match ring.fq.dequeue fuel false with
    | none => none
    | some (none, fq) => some (.error (.full data), { ring with fq })
    | some (some slotIdx, fq) =>
      let dataSlots := update ring.dataSlots slotIdx (some (callerId, data))
      (ring.aq.enqueue fuel slotIdx false).map fun aq => (.ok slotIdx, { ring with aq, fq, dataSlots })

/-- Nothing is said about reading a slot that was never written. -/
def tryPop (fuel : Nat) (ring : ScqRequestRing T) :
    Option (Option (Nat × T × Nat) × ScqRequestRing T) :=
  match ring.aq.dequeueSingleConsumer fuel false with
  | none => none
  | some (none, aq) => some (none, { ring with aq })
  | some (some slotIdx, aq) =>
    (ring.dataSlots slotIdx).bind fun (callerId, data) =>
      (ring.fq.enqueueSingleProducer fuel slotIdx false).map fun fq =>
        (some (callerId, data, slotIdx), { ring with aq, fq })

inductive Call (T : Type) where
  | tryPush (callerId : Nat) (data : T)
  | tryPop
  | dropServer

/-- The ring after the calls, and how many of the requests accepted are not popped. -/
def serve (fuel : Nat) : ScqRequestRing T → Nat → List (Call T) → Option (ScqRequestRing T × Nat)
  | ring, unpopped, [] => some (ring, unpopped)
  | ring, unpopped, .tryPush callerId data :: rest =>
    (ring.tryPush fuel callerId data).bind fun (result, ring) =>
      serve fuel ring (if result.toBool then unpopped + 1 else unpopped) rest
  | ring, unpopped, .tryPop :: rest =>
    (ring.tryPop fuel).bind fun (result, ring) =>
      serve fuel ring (if result.isSome then unpopped - 1 else unpopped) rest
  | ring, unpopped, .dropServer :: rest => serve fuel { ring with rxAlive := false } unpopped rest

/-- Every index is in one of the two rings, and those of the requests have their data. -/
structure Shared (order bound : Nat) (ring : ScqRequestRing T) (unpopped : Nat) : Prop where
  split : ∃ requests free, Represents order ring.aq requests ∧ Represents order ring.fq free ∧
    requests.length + free.length = 2 ^ order ∧ requests.length = unpopped ∧
    ∀ index ∈ requests, ring.dataSlots index ≠ none
  allocated : ring.aq.tail ≤ bound
  freed : ring.fq.tail ≤ bound

namespace Shared

variable {order bound unpopped fuel : Nat} {ring : ScqRequestRing T}

section

variable (shared : Shared order bound ring unpopped) (room : bound < 2 ^ 63 - 1)
  (enough : 20010 ≤ fuel)
include shared room enough

theorem tryPush (callerId : Nat) (data : T) :
    ∃ result after, ring.tryPush fuel callerId data = some (result, after) ∧
      Shared order (bound + 1) after (if result.toBool then unpopped + 1 else unpopped) ∧
      (result = .error (.full data) → unpopped = 2 ^ order) := by
  obtain ⟨⟨requests, free, holds, left, total, same, written⟩, allocated, freed⟩ := shared
  unfold ScqRequestRing.tryPush
  cases alive : ring.rxAlive with
  | false =>
    exact ⟨_, _, rfl, ⟨⟨requests, free, holds, left, total, same, written⟩,
      Nat.le_succ_of_le allocated, Nat.le_succ_of_le freed⟩, nofun⟩
  | true =>
    obtain ⟨fq, called, kept, tail⟩ := left.dequeues (Nat.lt_of_le_of_lt freed room) enough
    rw [called]
    cases free with
    | nil =>
      exact ⟨_, _, rfl, ⟨⟨requests, [], holds, kept, total, same, written⟩,
        Nat.le_succ_of_le allocated, Nat.le_trans tail (Nat.succ_le_succ freed)⟩,
        fun _ => same.symm.trans total⟩
    | cons index rest =>
      rw [List.length_cons] at total
      obtain ⟨aq, put, after, moved⟩ := holds.enqueues
        (Nat.lt_of_le_of_lt allocated room) (by omega)
        (left.below index List.mem_cons_self) (fun (flag : false = true) => nomatch flag) enough
      refine ⟨.ok index, _, by simp [put]; rfl, ⟨⟨requests ++ [index], rest, after, kept,
        by simp; omega, by simp [same, Except.toBool], ?_⟩,
        Nat.le_trans (Nat.le_of_eq moved) (Nat.succ_le_succ allocated),
        Nat.le_trans tail (Nat.succ_le_succ freed)⟩, nofun⟩
      · intro other member
        change update ring.dataSlots index (some (callerId, data)) other ≠ none
        by_cases here : other = index
        · rw [here, update_self]
          nofun
        · rw [update_of_ne here]
          exact written other (by simpa [here] using member)

theorem tryPop :
    ∃ result after, ring.tryPop fuel = some (result, after) ∧
      Shared order (bound + 1) after (if result.isSome then unpopped - 1 else unpopped) := by
  obtain ⟨⟨requests, free, holds, left, total, same, written⟩, allocated, freed⟩ := shared
  obtain ⟨aq, called, kept, tail⟩ := holds.dequeues (Nat.lt_of_le_of_lt allocated room) enough
  have single : ring.aq.dequeueSingleConsumer fuel false = some (requests.head?, aq) := called
  unfold ScqRequestRing.tryPop
  rw [single]
  cases requests with
  | nil =>
    exact ⟨_, _, rfl, ⟨[], free, kept, left, total, same, nofun⟩,
      Nat.le_trans tail (Nat.succ_le_succ allocated), Nat.le_succ_of_le freed⟩
  | cons index rest =>
    rw [List.length_cons] at total same
    obtain ⟨fq, put, after, moved⟩ := left.enqueues
      (Nat.lt_of_le_of_lt freed room) (by omega) (holds.below index List.mem_cons_self)
      (fun (flag : false = true) => nomatch flag) enough
    have back : ring.fq.enqueueSingleProducer fuel index false = some fq := put
    obtain ⟨⟨callerId, data⟩, here⟩ :=
      Option.ne_none_iff_exists'.mp (written index List.mem_cons_self)
    refine ⟨some (callerId, data, index), _, by simp [here, back]; rfl,
      ⟨rest, free ++ [index], kept, after, by simp; omega, by simp; omega, ?_⟩, ?_, ?_⟩
    · exact fun other member => written other (List.mem_cons_of_mem _ member)
    · exact Nat.le_trans tail (Nat.succ_le_succ allocated)
    · exact Nat.le_trans (Nat.le_of_eq moved) (Nat.succ_le_succ freed)

end

theorem serve (enough : 20010 ≤ fuel) {calls : List (Call T)}
    (shared : Shared order bound ring unpopped) (room : bound + calls.length < 2 ^ 63 - 1) :
    ∃ after left, serve fuel ring unpopped calls = some (after, left) ∧
      Shared order (bound + calls.length) after left := by
  induction calls generalizing ring unpopped bound with
  | nil => exact ⟨ring, unpopped, rfl, shared⟩
  | cons call rest ih =>
    have grows : bound + (call :: rest).length = bound + 1 + rest.length := by
      rw [List.length_cons]
      omega
    rw [grows]
    cases call with
    | tryPush callerId data =>
      obtain ⟨result, between, called, kept, _⟩ :=
        shared.tryPush (by omega) enough callerId data
      obtain ⟨after, left, served, holds⟩ := ih kept (by omega)
      exact ⟨after, left, by rw [ScqRequestRing.serve, called]; exact served, holds⟩
    | tryPop =>
      obtain ⟨result, between, called, kept⟩ := shared.tryPop (by omega) enough
      obtain ⟨after, left, served, holds⟩ := ih kept (by omega)
      exact ⟨after, left, by rw [ScqRequestRing.serve, called]; exact served, holds⟩
    | dropServer =>
      exact ih ⟨shared.split, Nat.le_succ_of_le shared.allocated, Nat.le_succ_of_le shared.freed⟩
        (by omega)

theorem new {capacity : Nat} (made : new T capacity = some ring) :
    ∃ order, order ≤ 58 ∧ 2 ^ order = capacity ∧ Shared order (2 ^ order) ring 0 := by
  unfold ScqRequestRing.new at made
  dsimp only at made
  split at made
  · rename_i power
    obtain ⟨aq, empty, filled⟩ := Option.bind_eq_some_iff.mp made
    obtain ⟨fq, full, rfl⟩ := Option.map_eq_some_iff.mp filled
    obtain ⟨holds, start, _⟩ := Represents.newEmpty empty
    obtain ⟨left, tail⟩ := Represents.newFull full
    refine ⟨_, holds.small, power, ⟨[], _, holds, left, by simp, rfl, nofun⟩, ?_, Nat.le_of_eq tail⟩
    exact Nat.le_trans (Nat.le_of_eq start) (Nat.zero_le _)
  · cases made

end Shared

/-- Dequeues return the oldest index, and no push is refused while an index is free. -/
theorem scq_refines_queue : (∀ order fuel start queue operations, 20010 ≤ fuel →
      (newEmpty order = some start ∧ queue = [] ∨
        newFull order = some start ∧ queue = List.range (2 ^ order)) →
      operations.length < 2 ^ 62 → Along queued (Allowed (2 ^ order)) queue operations →
      ∃ after, start.performAll fuel operations = some (answers queue operations, after)) ∧
    (∀ (ring : ScqRingInner) fuel index nonempty,
      ring.enqueueSingleProducer fuel index nonempty = ring.enqueue fuel index nonempty ∧
      ring.dequeueSingleConsumer fuel nonempty = ring.dequeue fuel nonempty) ∧
    (∀ T capacity fuel ring calls, 20010 ≤ fuel → new T capacity = some ring →
      calls.length < 2 ^ 62 →
      ∃ after unpopped, serve fuel ring 0 calls = some (after, unpopped) ∧ ∀ callerId data refusing,
          after.tryPush fuel callerId data = some (.error (.full data), refusing) →
          unpopped = capacity) := by
  refine ⟨?_, fun _ _ _ _ => ⟨rfl, rfl⟩, ?_⟩
  · intro order fuel start queue operations enough made few allowed
    have holds : Represents order start queue ∧ start.tail ≤ 2 ^ order := by
      rcases made with ⟨empty, rfl⟩ | ⟨full, rfl⟩
      · obtain ⟨holds, tail, _⟩ := Represents.newEmpty empty
        exact ⟨holds, Nat.le_trans (Nat.le_of_eq tail) (Nat.zero_le _)⟩
      · obtain ⟨holds, tail⟩ := Represents.newFull full
        exact ⟨holds, Nat.le_of_eq tail⟩
    have limit := holds.1.half_le
    obtain ⟨after, performed, _⟩ := holds.1.performAll enough (by omega) allowed
    exact ⟨after, performed⟩
  · intro T capacity fuel ring calls enough made few
    obtain ⟨order, small, rfl, shared⟩ := Shared.new made
    have limit : 2 ^ order ≤ 2 ^ 58 := Nat.pow_le_pow_right (by decide) small
    have room : 2 ^ order + calls.length < 2 ^ 63 - 1 := by omega
    obtain ⟨after, unpopped, served, holds⟩ := shared.serve enough room
    refine ⟨after, unpopped, served, fun callerId data refusing refused => ?_⟩
    obtain ⟨result, _, called, _, full⟩ := holds.tryPush room enough callerId data
    rw [refused] at called
    cases called
    exact full rfl

/-- The ring of two indices is emptied, and looked at once more. -/
def emptying : List Operation :=
  [.dequeue true, .enqueue false 0 false, .dequeue false, .dequeue true, .dequeue false]

theorem scq_refines_queue_emptying : ∃ start after, newFull 1 = some start ∧
    start.performAll 20010 emptying = some ([some 0, none, some 1, some 0, none], after) := by
  obtain ⟨after, performed⟩ := scq_refines_queue.1 1 20010 _ _ emptying (Nat.le_refl _)
    (.inr ⟨rfl, rfl⟩) (by decide) (by decide)
  exact ⟨_, after, rfl, performed⟩

end ScqRequestRing

end Locasta.Mempc
