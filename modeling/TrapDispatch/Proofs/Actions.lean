import TrapDispatch.Console

/-!
Running actions, and the parts of a machine that an action leaves alone.

* `outcome_bind`: a sequence ends where its first part stops, or else where its second part ends.
* `Keeps`: whether an action returns or stops, a view of the machine is the same as before. The
  views in use are the table, the memory and single registers; the property passes through
  sequences (`Keeps.bind`), so an operation keeps a view as soon as its primitive actions do.
-/

namespace TrapDispatch.Act

variable {α β γ : Type}

/-! ### Running primitive actions -/

theorem get_apply (m : Machine) : (get : Act Machine) m = .ok m m := rfl

theorem modify_apply (f : Machine → Machine) (m : Machine) :
    (modify f : Act Unit) m = .ok () (f m) := rfl

theorem write_apply (csr : Csr) (value : Word) (m : Machine) :
    write csr value m = .ok () { m with hart := m.hart.write csr value } := rfl

/-- Setting bits is a read, an or and a write, whichever way it is done. -/
theorem setBits_eq (via : BitAccess) (csr : Csr) (mask : Word) :
    setBits via csr mask = modifyHart fun h => h.write csr (h.read csr ||| mask) :=
  congrArg modifyHart (funext fun h => congrArg (Hart.mk · h.memory h.fences)
    (h.csrs.setBits_eq via csr mask))

/-- Clearing bits is a read, a masking and a write, whichever way it is done. -/
theorem clearBits_eq (via : BitAccess) (csr : Csr) (mask : Word) :
    clearBits via csr mask = modifyHart fun h => h.write csr (h.read csr &&& ~~~mask) :=
  congrArg modifyHart (funext fun h => congrArg (Hart.mk · h.memory h.fences)
    (h.csrs.clearBits_eq via csr mask))

theorem bind_of_ok {x : Act α} {m s : Machine} {a : α} (h : x m = .ok a s) (f : α → Act β) :
    (x >>= f) m = f a s := by
  rw [bind_apply, h]

theorem bind_of_error {x : Act α} {m s : Machine} {e : Stop} (h : x m = .error e s)
    (f : α → Act β) : (x >>= f) m = .error e s := by
  rw [bind_apply, h]

/-- A sequence ends where its first part stops, or else where its second part ends. -/
theorem outcome_bind (x : Act α) (f : α → Act β) (m : Machine) :
    (x >>= f).outcome m = match x m with
      | .ok a m => (f a).outcome m
      | .error e m => (.error e, m) := by
  unfold outcome
  rw [bind_apply]
  cases x m <;> rfl

theorem outcome_of_ok {x : Act α} {m s : Machine} {a : α} (h : x m = .ok a s) :
    x.outcome m = (.ok a, s) := by
  unfold outcome
  rw [h]

theorem outcome_of_error {x : Act α} {m s : Machine} {e : Stop} (h : x m = .error e s) :
    x.outcome m = (.error e, s) := by
  unfold outcome
  rw [h]

/-- What is done with the value leaves the machine as it is. -/
@[simp] theorem outcome_bind_pure (x : Act α) (f : α → β) (m : Machine) :
    ((x >>= fun a => pure (f a)).outcome m).2 = (x.outcome m).2 := by
  rw [outcome_bind]
  cases h : x m with
  | ok a s => rw [outcome_of_ok h]; rfl
  | error e s => rw [outcome_of_error h]

/-! ### What actions leave alone -/

/-- Whether it returns or stops, the action leaves behind a machine of the same view. -/
def Keeps (view : Machine → γ) (x : Act α) : Prop := ∀ m, view (x.outcome m).2 = view m

namespace Keeps

variable {view : Machine → γ}

theorem pure (a : α) : Keeps view (Pure.pure a : Act α) := fun _ => rfl

theorem stop (s : Stop) : Keeps view (Act.stop s : Act α) := fun _ => rfl

theorem get : Keeps view (MonadState.get : Act Machine) := fun _ => rfl

/-- A change that respects the view keeps it. -/
theorem modify {f : Machine → Machine} (respects : ∀ m, view (f m) = view m) :
    Keeps view (modify f : Act Unit) := fun m => respects m

theorem bind {x : Act α} {f : α → Act β} (hx : Keeps view x) (hf : ∀ a, Keeps view (f a)) :
    Keeps view (x >>= f) := by
  intro m
  have start := hx m
  rw [outcome_bind]
  cases h : x m with
  | ok a s =>
      rw [outcome_of_ok h] at start
      exact (hf a s).trans start
  | error e s =>
      rw [outcome_of_error h] at start
      exact start

theorem modifyHart {f : Hart → Hart}
    (respects : ∀ m, view { m with hart := f m.hart } = view m) : Keeps view (Act.modifyHart f) :=
  fun m => respects m

theorem read (csr : Csr) : Keeps view (Act.read csr) := fun _ => rfl

theorem slot (c : Code) : Keeps view (Act.slot c) := fun _ => rfl

theorem load (address : Nat) : Keeps view (Act.load address) := by
  intro m
  by_cases aligned : address % 4 = 0
  · rw [outcome_of_ok ((load_apply address m).trans (if_pos aligned))]
  · rw [outcome_of_error ((load_apply address m).trans (if_neg aligned))]

theorem store {address : Nat} {value : Word}
    (respects : ∀ (memory : Memory) (m : Machine),
      view { m with hart := { m.hart with memory } } = view m) :
    Keeps view (Act.store address value) := by
  intro m
  by_cases aligned : address % 4 = 0
  · rw [outcome_of_ok ((store_apply address value m).trans (if_pos aligned))]
    exact respects _ m
  · rw [outcome_of_error ((store_apply address value m).trans (if_neg aligned))]

/-- Printing keeps what writing to the registered console keeps. -/
theorem print {text : String} (respects : ∀ m, view (Console.registered.puts text m) = view m) :
    Keeps view (Act.print text) := by
  refine modify fun m => ?_
  rw [Machine.print_eq]
  split
  · exact respects m
  · rfl

theorem ite {c : Prop} [Decidable c] {x y : Act α} (hx : Keeps view x) (hy : Keeps view y) :
    Keeps view (if c then x else y) := by
  split
  · exact hx
  · exact hy

end Keeps

end TrapDispatch.Act
