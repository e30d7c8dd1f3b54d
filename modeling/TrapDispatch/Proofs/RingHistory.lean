import Mathlib.Data.List.DropRight
import Mathlib.Logic.Function.Iterate
import TrapDispatch.Proofs.RingContents

/-!
A ring as a list of bounded length, over any sequence of pushes and clears.

* `Holds.apply`: a push or a clear keeps the shape of a ring around the last elements pushed.
* `Holds.applyAll`: so does a sequence of them, by induction.
* `Holds.shows`: a ring of that shape shows the elements in every way in which it can be looked at, and
  neither a push nor a walk leaves its cells.
* `shows_newest_since_clear`: the three together, from an empty ring on.
-/

namespace TrapDispatch

namespace Ring

variable {α : Type}

/-! ### Histories -/

/-- What changes a ring. -/
inductive Change (α : Type) where
  | push (a : α)
  | clear

def apply (r : Ring α) : Change α → Ring α
  | .push a => r.push a
  | .clear => r.clear

def applyAll (r : Ring α) (changes : List (Change α)) : Ring α := changes.foldl apply r

/-- The elements pushed and not cleared away, after one more change. -/
def remember (pushed : List α) : Change α → List α
  | .push a => pushed ++ [a]
  | .clear => []

/-- The elements pushed since the last clear, in order. -/
def sinceClear (changes : List (Change α)) : List α := changes.foldl remember []

@[simp] theorem capacity_apply (r : Ring α) (change : Change α) :
    (r.apply change).capacity = r.capacity := by
  cases change with
  | push a => exact capacity_push r a
  | clear => exact capacity_clear r

theorem capacity_applyAll (r : Ring α) (changes : List (Change α)) :
    (r.applyAll changes).capacity = r.capacity := by
  induction changes generalizing r with
  | nil => rfl
  | cons change changes ih => exact (ih (r.apply change)).trans (capacity_apply r change)

/-! ### The shape of a ring along a history -/

/-- Of the newest elements and one more, the newest are the newest of all. -/
theorem newest_append (pushed : List α) (a : α) (n : Nat) :
    (pushed.rtake n ++ [a]).drop ((pushed.rtake n).length + 1 - n) = (pushed ++ [a]).rtake n := by
  unfold List.rtake
  rw [← List.drop_append_of_le_length (Nat.sub_le ..), List.drop_drop, List.length_drop,
    List.length_append, List.length_singleton]
  congr 1
  omega

/-- **One change** keeps the shape of a ring around the last elements pushed, as many as fit. -/
theorem Holds.apply {r : Ring α} {pushed : List α} (holds : r.Holds (pushed.rtake r.capacity))
    (change : Change α) : (r.apply change).Holds ((remember pushed change).rtake r.capacity) := by
  cases change with
  | push a =>
      have pushed := holds.push a
      rwa [newest_append] at pushed
  | clear =>
      have cleared : r.clear.Holds [] := holds_empty (Nat.zero_lt_of_lt holds.tail_lt)
      rwa [← List.rtake_nil r.capacity] at cleared

/-- **A history** keeps it, by induction over the changes. -/
theorem Holds.applyAll {r : Ring α} {pushed : List α} (holds : r.Holds (pushed.rtake r.capacity))
    (changes : List (Change α)) :
    (r.applyAll changes).Holds ((changes.foldl remember pushed).rtake r.capacity) := by
  induction changes generalizing r pushed with
  | nil => exact holds
  | cons change changes ih =>
      have first := holds.apply change
      rw [← capacity_apply r change] at first
      have rest := ih first
      rwa [capacity_apply] at rest

/-! ### Looking at a ring -/

/-- A walk goes around the array, one cell at a time. -/
theorem iterate_next (r : Ring α) (cell i : Nat) (within : cell < r.capacity) :
    r.next^[i] cell = (cell + i) % r.capacity := by
  induction i with
  | zero => exact (Nat.mod_eq_of_lt within).symm
  | succ i ih =>
      rw [Function.iterate_succ_apply', ih]
      exact Nat.mod_add_mod ..

/-- A ring of `n` cells that shows these elements in every way in which it can be looked at. -/
structure Shows (r : Ring α) (n : Nat) (elements : List α) : Prop where
  count_eq : r.count = elements.length
  isEmpty_iff : r.isEmpty = true ↔ elements = []
  isFull_iff : r.isFull = true ↔ elements.length = n
  toList_eq : r.toList = elements
  /-- A copy takes as many elements as there is room for. -/
  copied_eq (out : List α) : (r.copyTo out).1 = min out.length elements.length
  /-- It puts them in front and leaves the rest of the target as it was. -/
  getElem?_copyTo (out : List α) (i : Nat) : (r.copyTo out).2[i]? =
    if i < min out.length elements.length then elements[i]? else out[i]?
  /-- The elements take up at most the cells that there are. -/
  count_le : r.count ≤ n
  head_eq : r.head = (r.tail + r.count) % n
  /-- A push writes inside the array. -/
  head_lt : r.head < r.cells.size
  /-- Every step of a walk reads inside the array. -/
  walk_lt (i : Nat) : r.next^[i] r.tail < r.cells.size
  /-- No step meets an empty cell before the elements have come to their end. -/
  walk_meets (i : Nat) (inside : i < elements.length) :
    r.cells[r.next^[i] r.tail]? = some (some elements[i])

/-- The target of a copy, element by element. -/
theorem getElem?_take_append_drop (xs out : List α) (i : Nat) :
    (xs.take out.length ++ out.drop (xs.take out.length).length)[i]? =
      if i < min out.length xs.length then xs[i]? else out[i]? := by
  by_cases front : i < min out.length xs.length
  · rw [if_pos front, List.getElem?_append_left (by rwa [List.length_take]), List.getElem?_take,
      if_pos (by omega)]
  · rw [if_neg front, List.getElem?_append_right (by rw [List.length_take]; omega),
      List.getElem?_drop, List.length_take]
    congr 1
    omega

/-- A ring of the right shape shows its elements. -/
theorem Holds.shows {r : Ring α} {xs : List α} (holds : r.Holds xs) : r.Shows r.capacity xs where
  count_eq := holds.count_eq
  isEmpty_iff := by
    rw [isEmpty, decide_eq_true_eq, holds.count_eq]
    exact List.length_eq_zero_iff
  isFull_iff := by rw [isFull, decide_eq_true_eq, holds.count_eq]
  toList_eq := holds.toList_eq
  copied_eq out := by
    unfold copyTo
    rw [holds.toList_eq]
    exact List.length_take
  getElem?_copyTo out i := by
    unfold copyTo
    rw [holds.toList_eq]
    exact getElem?_take_append_drop xs out i
  count_le := holds.count_eq ▸ holds.length_le
  head_eq := holds.count_eq ▸ holds.head_eq
  head_lt := holds.head_eq ▸ Nat.mod_lt _ (Nat.zero_lt_of_lt holds.tail_lt)
  walk_lt i := by
    rw [r.iterate_next r.tail i holds.tail_lt]
    exact Nat.mod_lt _ (Nat.zero_lt_of_lt holds.tail_lt)
  walk_meets i inside := by
    rw [r.iterate_next r.tail i holds.tail_lt]
    exact holds.cell i inside

/-- **A ring is a bounded list.** A ring with at least one cell can be had, and after any pushes and
clears it shows the last elements pushed since the last clear, as many as it has cells: it counts
them, it tells whether there are none and whether they fill it, a walk meets them from oldest to
newest without stopping early, and a copy puts as many of them as fit in front of the target and
leaves the rest of it alone. No push and no step of a walk leaves the array, and the head is always
`count` cells after the tail. -/
theorem shows_newest_since_clear (α : Type) {n : Nat} (positive : 1 ≤ n) :
    ∃ start : Ring α, ofCapacity n = .ok start ∧ ∀ changes : List (Change α),
      (start.applyAll changes).cells.size = n ∧
      (start.applyAll changes).Shows n ((sinceClear changes).rtake n) := by
  refine ⟨empty n, ofCapacity_eq_ok (Nat.ne_of_gt positive), fun changes => ?_⟩
  have start : (empty n : Ring α).Holds (List.rtake [] (empty n : Ring α).capacity) := by
    rw [List.rtake_nil]
    exact holds_empty positive
  have size : ((empty n : Ring α).applyAll changes).capacity = n := by
    rw [capacity_applyAll, capacity_empty]
  have shows := (start.applyAll changes).shows
  rw [size, capacity_empty] at shows
  exact ⟨size, shows⟩

/-- Three cells that were written, cleared and written around more than once. -/
theorem shows_newest_since_clear_three :
    1 ≤ 3 ∧ ((empty 3).applyAll
      [.push 7, .clear, .push 1, .push 2, .push 3, .push 4, .push 5]).toList = [3, 4, 5] := by
  refine ⟨by decide, ?_⟩
  obtain ⟨start, had, after⟩ := shows_newest_since_clear Nat (n := 3) (by decide)
  have start_eq : empty 3 = start := Except.ok.inj had
  subst start_eq
  exact (after [.push 7, .clear, .push 1, .push 2, .push 3, .push 4, .push 5]).2.toList_eq

end Ring

end TrapDispatch
