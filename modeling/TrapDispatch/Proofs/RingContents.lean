import Mathlib.Data.Nat.ModEq
import TrapDispatch.Capture

/-!
What a ring holds after any number of pushes, and what a capture finds in it.

* `Holds`: the shape of a ring around its elements. The cells from the tail onwards hold them in
  order, and the head is the cell after the last of them.
* `Holds.push`, `Holds.pushAll`: a push keeps the shape; a ring holds the newest elements, as many as
  fit.
* `Capture.contains_of_suffix`: a text within the last bytes written is found, whatever was written
  before it.
-/

namespace TrapDispatch

/-- Indices below the size of a circle are told apart by the cells that they lead to. -/
theorem add_mod_left_cancel {start i j size : Nat} (hi : i < size) (hj : j < size)
    (same : (start + i) % size = (start + j) % size) : i = j :=
  (Nat.ModEq.add_left_cancel' start same).eq_of_lt_of_lt hi hj

namespace Ring

variable {α : Type} {r : Ring α} {xs : List α}

/-- The cells from the tail onwards, around the array, hold the elements, and the head comes next. -/
structure Holds (r : Ring α) (xs : List α) : Prop where
  tail_lt : r.tail < r.capacity
  count_eq : r.count = xs.length
  length_le : xs.length ≤ r.capacity
  head_eq : r.head = (r.tail + xs.length) % r.capacity
  cell : ∀ (i : Nat) (inside : i < xs.length),
    r.cells[(r.tail + i) % r.capacity]? = some (some xs[i])

theorem holds_empty {n : Nat} (positive : 0 < n) : (empty n : Ring α).Holds [] where
  tail_lt := by rwa [capacity_empty]
  count_eq := rfl
  length_le := Nat.zero_le _
  head_eq := (Nat.zero_mod _).symm
  cell _ inside := absurd inside (Nat.not_lt_zero _)

/-! ### Walking from the tail -/

/-- A walk meets the elements that lie ahead of it. -/
theorem walk_eq {ys : List α} {start : Nat}
    (ahead : ∀ (i : Nat) (inside : i < ys.length),
      r.cells[(start + i) % r.capacity]? = some (some ys[i])) :
    r.walk ys.length (start % r.capacity) = ys := by
  induction ys generalizing start with
  | nil => rfl
  | cons y ys ih =>
      have first : r.cells[start % r.capacity]? = some (some y) := ahead 0 (Nat.zero_lt_succ _)
      have next : r.next (start % r.capacity) = (start + 1) % r.capacity := Nat.mod_add_mod ..
      have rest : r.walk ys.length ((start + 1) % r.capacity) = ys := by
        apply ih
        intro i inside
        have later := ahead (i + 1) (Nat.succ_lt_succ inside)
        rwa [← Nat.add_assoc, Nat.add_right_comm] at later
      rw [List.length_cons, walk, first, next]
      exact congrArg (y :: ·) rest

theorem Holds.toList_eq (holds : r.Holds xs) : r.toList = xs := by
  have walked := walk_eq holds.cell
  rwa [Nat.mod_eq_of_lt holds.tail_lt, ← holds.count_eq] at walked

/-! ### Pushing -/

namespace Holds

/-- The cells after a push, which writes at the head. -/
theorem cell_push (holds : r.Holds xs) (a : α) (i : Nat) (inside : i < (xs ++ [a]).length)
    (kept : (r.tail + i) % r.capacity = r.head → i = xs.length) :
    (r.cells.setIfInBounds r.head (some a))[(r.tail + i) % r.capacity]? =
      some (some (xs ++ [a])[i]) := by
  have positive : 0 < r.capacity := Nat.zero_lt_of_lt holds.tail_lt
  by_cases last : i = xs.length
  · subst last
    have bound : r.head < r.cells.size := by
      rw [holds.head_eq]
      exact Nat.mod_lt _ positive
    rw [← holds.head_eq, Array.getElem?_setIfInBounds_self_of_lt bound, List.getElem_concat_length]
    rfl
  · have earlier : i < xs.length := by
      rw [List.length_append, List.length_singleton] at inside
      omega
    rw [Array.getElem?_setIfInBounds_ne fun same => last (kept same.symm), holds.cell i earlier,
      List.getElem_append_left earlier]

/-- A ring with a free cell gains the element. -/
theorem push_of_lt (holds : r.Holds xs) (room : xs.length < r.capacity) (a : α) :
    (r.push a).Holds (xs ++ [a]) := by
  have notFull : ¬ r.isFull = true := by
    rw [isFull, holds.count_eq, decide_eq_true_eq]
    exact Nat.ne_of_lt room
  have pushed : r.push a =
      ⟨r.cells.setIfInBounds r.head (some a), r.next r.head, r.tail, r.count + 1⟩ := if_neg notFull
  have size : (r.push a).capacity = r.capacity := capacity_push r a
  constructor
  case tail_lt =>
    rw [size, pushed]
    exact holds.tail_lt
  case count_eq =>
    rw [pushed, List.length_append]
    exact congrArg (· + 1) holds.count_eq
  case length_le =>
    rw [size, List.length_append]
    exact room
  case head_eq =>
    rw [size, pushed, List.length_append]
    change (r.head + 1) % r.capacity = _
    rw [holds.head_eq, Nat.mod_add_mod]
    rfl
  case cell =>
    intro i inside
    rw [size, pushed]
    refine holds.cell_push a i inside fun same => ?_
    rw [List.length_append, List.length_singleton] at inside
    rw [holds.head_eq] at same
    exact add_mod_left_cancel (by omega) room same

/-- A full ring drops its oldest element. -/
theorem push_of_full (holds : r.Holds xs) (full : xs.length = r.capacity) (a : α) :
    (r.push a).Holds (xs.tail ++ [a]) := by
  have positive : 0 < r.capacity := Nat.zero_lt_of_lt holds.tail_lt
  have isFull : r.isFull = true := by
    rw [Ring.isFull, holds.count_eq, decide_eq_true_eq, full]
  have pushed : r.push a =
      ⟨r.cells.setIfInBounds r.head (some a), r.next r.head, r.next r.tail, r.count⟩ :=
    if_pos isFull
  have size : (r.push a).capacity = r.capacity := capacity_push r a
  have length : (xs.tail ++ [a]).length = r.capacity := by
    rw [List.length_append, List.length_tail, List.length_singleton, full]
    omega
  have head : r.head = r.tail := by
    rw [holds.head_eq, full, Nat.add_mod_right, Nat.mod_eq_of_lt holds.tail_lt]
  constructor
  case tail_lt =>
    rw [size, pushed]
    exact Nat.mod_lt _ positive
  case count_eq => rw [pushed, length, ← full]; exact holds.count_eq
  case length_le => rw [size, length]
  case head_eq =>
    rw [size, length, pushed, Nat.add_mod_right]
    change (r.head + 1) % r.capacity = (r.tail + 1) % r.capacity % r.capacity
    rw [head, Nat.mod_mod]
  case cell =>
    intro i inside
    have within : i + 1 < (xs ++ [a]).length := by
      rw [List.length_append, List.length_singleton]
      omega
    -- Seen from the old tail, the new elements are one cell further on.
    have shifted : (xs.tail ++ [a])[i] = (xs ++ [a])[i + 1] := by
      cases xs with
      | nil => exact absurd full (Nat.ne_of_lt positive)
      | cons x xs => rfl
    rw [size, pushed, shifted]
    change (r.cells.setIfInBounds r.head (some a))[((r.tail + 1) % r.capacity + i) % r.capacity]? = _
    rw [Nat.mod_add_mod, Nat.add_right_comm, Nat.add_assoc]
    refine holds.cell_push a (i + 1) within fun same => ?_
    by_cases once : i + 1 < r.capacity
    · have start : (r.tail + (i + 1)) % r.capacity = (r.tail + 0) % r.capacity := by
        rw [same, head]
        exact (Nat.mod_eq_of_lt holds.tail_lt).symm
      exact absurd (add_mod_left_cancel once positive start) (Nat.succ_ne_zero i)
    · rw [length] at inside
      omega

/-- **A push**: of the elements and the new one, as many of the newest stay as fit. -/
theorem push (holds : r.Holds xs) (a : α) :
    (r.push a).Holds ((xs ++ [a]).drop (xs.length + 1 - r.capacity)) := by
  by_cases room : xs.length < r.capacity
  · have all : xs.length + 1 - r.capacity = 0 := by omega
    rw [all]
    exact holds.push_of_lt room a
  · have full : xs.length = r.capacity := Nat.le_antisymm holds.length_le (Nat.le_of_not_lt room)
    have one : xs.length + 1 - r.capacity = 1 := by omega
    have nonempty : xs ≠ [] := by
      rintro rfl
      exact room (Nat.zero_lt_of_lt holds.tail_lt)
    rw [one, List.drop_one, List.tail_append_of_ne_nil nonempty]
    exact holds.push_of_full full a

/-- **Pushes**, by induction over the new elements. -/
theorem pushAll (holds : r.Holds xs) (as : List α) :
    (r.pushAll as).Holds ((xs ++ as).drop (xs.length + as.length - r.capacity)) := by
  induction as generalizing r xs with
  | nil =>
      have all : xs.length + 0 - r.capacity = 0 := Nat.sub_eq_zero_of_le holds.length_le
      rw [List.append_nil, List.length_nil, all]
      exact holds
  | cons a as ih =>
      have pushed := ih (holds.push a)
      have first : xs.length + 1 - r.capacity ≤ (xs ++ [a]).length := by
        rw [List.length_append, List.length_singleton]
        omega
      rw [capacity_push, ← List.drop_append_of_le_length first, List.drop_drop, List.append_assoc,
        List.length_drop, List.length_append, List.length_singleton] at pushed
      have amount : xs.length + 1 - r.capacity +
          (xs.length + 1 - (xs.length + 1 - r.capacity) + as.length - r.capacity) =
          xs.length + (a :: as).length - r.capacity := by
        rw [List.length_cons]
        omega
      rw [amount] at pushed
      exact pushed

end Holds

/-- **A ring that started empty** holds the last elements pushed, as many as fit. -/
theorem toList_pushAll_empty {n : Nat} (positive : 0 < n) (as : List α) :
    ((empty n).pushAll as).toList = as.drop (as.length - n) := by
  have holds := ((holds_empty positive).pushAll as).toList_eq
  rwa [List.nil_append, List.length_nil, Nat.zero_add, capacity_empty] at holds

end Ring

/-! ### Captures -/

/-- A character takes at most four bytes. -/
theorem Utf8.length_bytes_le (s : String) : (Utf8.bytes s).length ≤ 4 * s.length := by
  unfold Utf8.bytes
  rw [← String.length_toList]
  induction s.toList with
  | nil => exact Nat.zero_le _
  | cons c cs ih =>
      have one : (String.utf8EncodeChar c).length ≤ 4 := by
        rw [String.length_utf8EncodeChar]
        exact c.utf8Size_le_four
      rw [List.flatMap_cons, List.length_append, List.length_cons]
      omega

/-- A text near the end of what was written is found: it and what follows it fit into the capture,
whatever came before. -/
theorem Capture.contains_of_suffix {n : Nat} {wanted rest : String}
    (fits : (Utf8.bytes (wanted ++ rest)).length ≤ n) (positive : 0 < n) (before : String) :
    ((Capture.empty n).puts (before ++ (wanted ++ rest))).contains wanted = true := by
  rw [contains_iff]
  have contents : ((Capture.empty n).puts (before ++ (wanted ++ rest))).contents =
      (Utf8.bytes before).drop ((Utf8.bytes (before ++ (wanted ++ rest))).length - n) ++
        Utf8.bytes (wanted ++ rest) := by
    have kept := Ring.toList_pushAll_empty positive (Utf8.bytes (before ++ (wanted ++ rest)))
    refine kept.trans ?_
    rw [Utf8.bytes_append before, List.length_append]
    exact List.drop_append_of_le_length (by omega)
  rw [contents, Utf8.bytes_append wanted]
  exact ⟨_, Utf8.bytes rest, (List.append_assoc ..)⟩

end TrapDispatch
