import Mathlib.Data.List.Induction
import TrapDispatch.Scenario
import TrapDispatch.Proofs.Reporting

/-!
What happens to the vector table while an action runs.

A `Moment` is an operation about to be carried out, with the machine that it finds; `Moment.write`
says what the operation writes into a slot, if it addresses that slot. A `History` of an action
lists the operations that it carries out, on whatever machine, and carries the proof that the table
follows them: each operation finds the table that those before it have left, and changes nothing but
what it writes (`Replays`). Histories are put together as the actions are: primitive actions that
keep the table have an empty one, and a sequence has one after the other, the second only if the
first returned.

* `Replays.final_eq`, `Replays.found_eq`: what follows from a replay, as a fold over the operations.
* `foldl_after`: slots that started empty hold what the most recent write put there.
-/

namespace TrapDispatch

/-! ### Operations and their writes -/

/-- An operation about to be carried out, and the machine that it finds. -/
structure Moment where
  machine : Machine
  op : Op

/-- The contents of all slots. -/
abbrev Slots : Type := Code → Option Handler

namespace Moment

/-- What an operation writes into the slot of a code: an install writes to the code that its word
encodes and to no other, a fill to every code, and a setup to every code if its hart is the primary
one. No other operation writes. -/
def write (primary : Word) (now : Moment) (k : Code) : Option (Option Handler) :=
  match now.op with
  | .install code slot => if code = k.bits then some slot else none
  | .tableInstall code slot => if code = k.bits then some slot else none
  | .tableFill handler => some (some handler)
  | .setup _ handler =>
    if now.machine.hart.csrs.hartId = primary then some (some handler) else none
  | _ => none

/-- The slots after an operation that found the given ones. -/
def after (primary : Word) (slots : Slots) (now : Moment) : Slots :=
  fun k => (now.write primary k).getD (slots k)

theorem after_of_silent {primary : Word} {now : Moment} (silent : now.write primary = fun _ => none)
    (slots : Slots) : now.after primary slots = slots := by
  unfold after
  rw [silent]
  rfl

end Moment

/-- The handler that the most recent write to a slot put there, or none without such a write. -/
def lastWrite (primary : Word) (past : List Moment) (k : Code) : Option Handler :=
  (past.reverse.findSome? fun now => now.write primary k).join

/-- A value that some of the items replace ends as the last of them has it. -/
theorem foldl_getD {α β : Type} (f : α → Option β) (items : List α) (start : β) :
    items.foldl (fun b a => (f a).getD b) start = (items.reverse.findSome? f).getD start := by
  induction items using List.reverseRecOn with
  | nil => rfl
  | append_singleton items a ih =>
      rw [List.foldl_append, ih, List.reverse_append]
      change (f a).getD _ = (List.findSome? f (a :: items.reverse)).getD start
      rw [List.findSome?_cons]
      cases f a <;> rfl

/-- Slots that started empty hold what the most recent write put there. -/
theorem foldl_after (primary : Word) (past : List Moment) :
    past.foldl (Moment.after primary) (fun _ => none) = lastWrite primary past := by
  funext k
  -- One slot is a value on its own.
  have slot : past.foldl (fun slot now => (now.write primary k).getD slot) none =
      past.foldl (Moment.after primary) (fun _ => none) k :=
    @List.foldl_hom Slots _ _ (· k) (Moment.after primary) _ past (fun _ => none) fun _ _ => rfl
  rw [← slot, foldl_getD, lastWrite]
  cases past.reverse.findSome? fun now => now.write primary k <;> rfl

/-! ### Replaying operations -/

/-- The slots follow the operations: each finds what those before it left. -/
def Replays (primary : Word) : Slots → List Moment → Slots → Prop
  | slots, [], final => slots = final
  | slots, now :: later, final =>
    now.machine.table.get = slots ∧ Replays primary (now.after primary slots) later final

namespace Replays

variable {primary : Word} {slots middle final : Slots} {past later : List Moment}

theorem append (first : Replays primary slots past middle)
    (second : Replays primary middle later final) :
    Replays primary slots (past ++ later) final := by
  induction past generalizing slots with
  | nil =>
      rw [show slots = middle from first]
      exact second
  | cons now past ih => exact ⟨first.1, ih first.2⟩

theorem final_eq (replay : Replays primary slots past final) :
    final = past.foldl (Moment.after primary) slots := by
  induction past generalizing slots with
  | nil => exact Eq.symm replay
  | cons now past ih => exact ih replay.2

/-- Every operation finds what the operations before it have left. -/
theorem found_eq (replay : Replays primary slots past final) (i : Nat) (h : i < past.length) :
    past[i].machine.table.get = (past.take i).foldl (Moment.after primary) slots := by
  induction past generalizing slots i with
  | nil => exact absurd h (Nat.not_lt_zero i)
  | cons now past ih =>
      cases i with
      | zero => exact replay.1
      | succ i => exact ih replay.2 i (Nat.lt_of_succ_lt_succ h)

end Replays

/-! ### Histories -/

/-- The operations that an action carries out on a machine, and that the table follows them. -/
structure History (primary : Word) {α : Type} (x : Act α) where
  moments : Machine → List Moment
  replays : ∀ m, Replays primary m.table.get (moments m) (x.outcome m).2.table.get

namespace History

variable {primary : Word} {α β : Type}

/-- An action that keeps the table and carries out no operation. -/
def quiet {x : Act α} (keeps : x.Keeps Machine.table) : History primary x where
  moments _ := []
  replays m := congrArg VectorTable.get (keeps m).symm

/-- A sequence: the second action has its turn only if the first one returned. -/
def bind {x : Act α} {f : α → Act β} (hx : History primary x) (hf : ∀ a, History primary (f a)) :
    History primary (x >>= f) where
  moments m := hx.moments m ++ match x m with
    | .ok a s => (hf a).moments s
    | .error _ _ => []
  replays m := by
    have first := hx.replays m
    rw [Act.outcome_bind]
    cases h : x m with
    | ok a s =>
        rw [Act.outcome_of_ok h] at first
        exact first.append ((hf a).replays s)
    | error e s =>
        rw [Act.outcome_of_error h] at first
        exact first.append rfl

/-- What a sequence carries out, if its first part returns. -/
theorem bind_moments {x : Act α} {f : α → Act β} (hx : History primary x)
    (hf : ∀ a, History primary (f a)) {m t : Machine} {a : α} (ran : x m = .ok a t) :
    (hx.bind hf).moments m = hx.moments m ++ (hf a).moments t := by
  change hx.moments m ++ _ = _
  rw [ran]

/-- What a sequence carries out, if its first part stops. -/
theorem bind_moments_of_error {x : Act α} {f : α → Act β} (hx : History primary x)
    (hf : ∀ a, History primary (f a)) {m t : Machine} {e : Stop} (ran : x m = .error e t) :
    (hx.bind hf).moments m = hx.moments m := by
  change hx.moments m ++ _ = _
  rw [ran]
  exact List.append_nil _

def ite {c : Prop} [Decidable c] {x y : Act α} (hx : History primary x) (hy : History primary y) :
    History primary (if c then x else y) where
  moments m := if c then hx.moments m else hy.moments m
  replays m := by
    split
    · exact hx.replays m
    · exact hy.replays m

/-- An operation that writes nothing itself, but whose action may carry out more of them. -/
def calling {x : Act α} (op : Op) (silent : ∀ m, Moment.write primary ⟨m, op⟩ = fun _ => none)
    (hx : History primary x) : History primary x where
  moments m := ⟨m, op⟩ :: hx.moments m
  replays m := by
    refine ⟨rfl, ?_⟩
    rw [Moment.after_of_silent (silent m)]
    exact hx.replays m

/-- An operation that writes to the table and carries out no other. -/
def writing {x : Act α} (op : Op) (writes : ∀ m,
    (x.outcome m).2.table.get = Moment.after primary m.table.get ⟨m, op⟩) : History primary x where
  moments m := [⟨m, op⟩]
  replays m := ⟨rfl, (writes m).symm⟩

end History

end TrapDispatch
