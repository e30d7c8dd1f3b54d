import TrapDispatch.Fault

/-!
A ring buffer of fixed capacity that drops its oldest element when it is full. The cells are kept
in one array, written at `head` and read from `tail`, both running around the array. The view of
a ring is `toList`, its elements from oldest to newest.
-/

namespace TrapDispatch

structure Ring (α : Type) where
  cells : Array (Option α)
  /-- The cell that the next element goes into. -/
  head : Nat
  /-- The cell of the oldest element. -/
  tail : Nat
  /-- The number of elements. -/
  count : Nat
  deriving DecidableEq, Repr

namespace Ring

variable {α : Type}

def capacity (r : Ring α) : Nat := r.cells.size

def empty (capacity : Nat) : Ring α := ⟨Array.replicate capacity none, 0, 0, 0⟩

/-- An empty ring; a ring has at least one cell. -/
def ofCapacity (capacity : Nat) : Except Fault (Ring α) :=
  if capacity = 0 then .error .zeroCapacity else .ok (empty capacity)

def isEmpty (r : Ring α) : Bool := r.count = 0

def isFull (r : Ring α) : Bool := r.count = r.capacity

/-- The cell after a cell, around the array. -/
def next (r : Ring α) (cell : Nat) : Nat := (cell + 1) % r.capacity

/-- Add an element; a full ring drops its oldest. -/
def push (r : Ring α) (a : α) : Ring α :=
  let cells := r.cells.setIfInBounds r.head (some a)
  if r.isFull then ⟨cells, r.next r.head, r.next r.tail, r.count⟩
  else ⟨cells, r.next r.head, r.tail, r.count + 1⟩

def pushAll (r : Ring α) (as : List α) : Ring α := as.foldl push r

def clear (r : Ring α) : Ring α := empty r.capacity

/-- The elements met from a cell onwards, at most `remaining` of them; an empty cell ends the
walk. -/
def walk (r : Ring α) : (remaining cell : Nat) → List α
  | 0, _ => []
  | remaining + 1, cell =>
    match r.cells[cell]? with
    | some (some a) => a :: r.walk remaining (r.next cell)
    | _ => []

/-- The elements from oldest to newest. -/
def toList (r : Ring α) : List α := r.walk r.count r.tail

/-- Overwrite the start of a list with the oldest elements, as many as fit; answers how many. -/
def copyTo (r : Ring α) (out : List α) : Nat × List α :=
  let copied := r.toList.take out.length
  (copied.length, copied ++ out.drop copied.length)

/-- The elements in square brackets. -/
def describe (render : α → String) (r : Ring α) : String :=
  "[" ++ String.intercalate ", " (r.toList.map render) ++ "]"

/-! ### Shape -/

@[simp] theorem capacity_empty (n : Nat) : (empty n : Ring α).capacity = n := by
  simp [capacity, empty]

@[simp] theorem capacity_push (r : Ring α) (a : α) : (r.push a).capacity = r.capacity := by
  unfold push
  split <;> simp [capacity]

@[simp] theorem capacity_clear (r : Ring α) : r.clear.capacity = r.capacity := by
  simp [clear]

@[simp] theorem toList_empty (n : Nat) : (empty n : Ring α).toList = [] := rfl

@[simp] theorem toList_clear (r : Ring α) : r.clear.toList = [] := rfl

theorem ofCapacity_eq_ok {n : Nat} (h : n ≠ 0) : (ofCapacity n : Except Fault (Ring α)) = .ok (empty n) :=
  if_neg h

end Ring

/-! ### Commands to a ring of words -/

inductive RingCommand where
  | push (values : List Word)
  | clear
  /-- Copy into a list of this many zeros. -/
  | copyTo (length : Nat)
  /-- The oldest elements, at most this many. -/
  | take (length : Nat)
  | describe
  deriving DecidableEq, Repr

inductive RingReply where
  | nothing
  | copied (count : Nat) (out : List Word)
  | items (words : List Word)
  | text (text : String)
  deriving DecidableEq, Repr

def RingCommand.run (r : Ring Word) : RingCommand → Ring Word × RingReply
  | .push values => (r.pushAll values, .nothing)
  | .clear => (r.clear, .nothing)
  | .copyTo length =>
    let (count, out) := r.copyTo (List.replicate length 0#32)
    (r, .copied count out)
  | .take length => (r, .items (r.toList.take length))
  | .describe => (r, .text (r.describe fun w => toString w.toNat))

end TrapDispatch
