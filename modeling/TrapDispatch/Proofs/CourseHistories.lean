import TrapDispatch.Proofs.Courses

/-!
Operations and handlers on machines of one course.

A setup is secondary on a hart other than the primary one. What is carried out apart from secondary
setups are the `essentials` of a history, each with the course of the machine that it finds.

* `History.Alike`: two actions keep to one course and carry out the same essential operations.
* `History.Inert`: a secondary setup stays on course and carries out no essential operation.
* `History.perform_alike`: a straight operation, given alike handlers.
* `History.performAll_alike`, `History.runScript_alike`: scripts that differ in secondary setups, by
  induction on the two lists, and the handlers that run them, by induction on the depth of nesting.
-/

namespace TrapDispatch

open Act

/-- An induction on two lists that are equal once some of their members are dropped. -/
theorem filter_eq_induction {α : Type} (keep : α → Bool) {motive : List α → List α → Prop}
    (nil : motive [] [])
    (left : ∀ a xs ys, keep a = false → motive xs ys → motive (a :: xs) ys)
    (right : ∀ a xs ys, keep a = false → motive xs ys → motive xs (a :: ys))
    (both : ∀ a xs ys, motive xs ys → motive (a :: xs) (a :: ys)) :
    ∀ xs ys : List α, xs.filter keep = ys.filter keep → motive xs ys := by
  intro xs
  induction xs with
  | nil =>
      intro ys same
      induction ys with
      | nil => exact nil
      | cons b ys ih =>
          cases kept : keep b with
          | true =>
              rw [List.filter_cons_of_pos kept] at same
              cases same
          | false =>
              rw [List.filter_cons_of_neg (by simp [kept])] at same
              exact right b [] ys kept (ih same)
  | cons a xs ihx =>
      intro ys same
      cases keptA : keep a with
      | false =>
          rw [List.filter_cons_of_neg (by simp [keptA])] at same
          exact left a xs ys keptA (ihx ys same)
      | true =>
          rw [List.filter_cons_of_pos keptA] at same
          induction ys with
          | nil => cases same
          | cons b ys ihy =>
              cases keptB : keep b with
              | false =>
                  rw [List.filter_cons_of_neg (by simp [keptB])] at same
                  exact right b (a :: xs) ys keptB (ihy same)
              | true =>
                  rw [List.filter_cons_of_pos keptB] at same
                  obtain ⟨rfl, rest⟩ := List.cons.inj same
                  exact both a xs ys (ihx ys rest)

/-! ### Essential operations -/

/-- Whether an operation sets its hart up. -/
def Op.isSetup : Op → Bool
  | .setup .. | .start => true
  | _ => false

/-- Whether an operation is kept when the setups of harts other than the primary one are dropped. -/
def Op.isEssential (primary id : Word) (op : Op) : Bool := decide (id = primary) || !op.isSetup

theorem Op.isEssential_eq_false_iff {primary id : Word} {op : Op} :
    op.isEssential primary id = false ↔ id ≠ primary ∧ op.isSetup = true := by
  simp [isEssential]

/-- Whether a moment is kept when secondary setups are dropped. -/
def Moment.isEssential (primary : Word) (now : Moment) : Bool :=
  now.op.isEssential primary now.machine.hart.csrs.hartId

/-- The operations that are carried out apart from secondary setups, and the course of the machine
that each of them finds. -/
def essentials (primary : Word) (past : List Moment) : List (Op × Machine) :=
  (past.filter (·.isEssential primary)).map fun now => (now.op, now.machine.course)

theorem essentials_append (primary : Word) (past later : List Moment) :
    essentials primary (past ++ later) = essentials primary past ++ essentials primary later := by
  rw [essentials, List.filter_append, List.map_append]
  rfl

/-- One operation on machines of one course. -/
theorem essentials_singleton {primary id : Word} {m m' : Machine} (alike : m.Alike id m') (op : Op) :
    essentials primary [⟨m, op⟩] = essentials primary [⟨m', op⟩] := by
  have kept : Moment.isEssential primary ⟨m, op⟩ = Moment.isEssential primary ⟨m', op⟩ := by
    change op.isEssential primary m.hart.csrs.hartId = op.isEssential primary m'.hart.csrs.hartId
    rw [alike.hartId, alike.symm.hartId]
  simp only [essentials, List.filter_cons, List.filter_nil, kept]
  split
  · rw [List.map_singleton, List.map_singleton, alike.course]
  · rfl

/-- A secondary setup is not essential. -/
theorem essentials_setup {primary : Word} {m : Machine} {op : Op} (setup : op.isSetup = true)
    (secondary : m.hart.csrs.hartId ≠ primary) : essentials primary [⟨m, op⟩] = [] := by
  have dropped : Moment.isEssential primary ⟨m, op⟩ = false :=
    Op.isEssential_eq_false_iff.mpr ⟨secondary, setup⟩
  simp only [essentials, List.filter_cons, List.filter_nil, dropped]
  rfl

/-! ### Histories -/

namespace History

variable {primary id : Word} {α β γ δ : Type}

/-- The actions keep to one course, and carry out the same essential operations. -/
def Alike (id : Word) (R : α → β → Prop) {x : Act α} {y : Act β} (hx : History primary x)
    (hy : History primary y) : Prop :=
  ∀ m m', m.Alike id m' → EndsAlike id R (x m) (y m') ∧
    essentials primary (hx.moments m) = essentials primary (hy.moments m')

/-- The action returns on the course on which it started, and carries out no essential operation. -/
def Inert (id : Word) {x : Act α} (hx : History primary x) : Prop :=
  ∀ m, m.hart.csrs.hartId = id →
    ∃ a t, x m = .ok a t ∧ t.Alike id m ∧ essentials primary (hx.moments m) = []

namespace Alike

variable {R : α → β → Prop} {S : γ → δ → Prop} {x : Act α} {y : Act β}

theorem quiet (act : Act.Alike id R x y) {kx : x.Keeps Machine.table} {ky : y.Keeps Machine.table} :
    Alike id R (History.quiet kx : History primary x) (History.quiet ky : History primary y) :=
  fun m m' alike => ⟨act m m' alike, rfl⟩

theorem bind {f : α → Act γ} {g : β → Act δ} {hx : History primary x} {hy : History primary y}
    {hf : ∀ a, History primary (f a)} {hg : ∀ b, History primary (g b)}
    (first : Alike id R hx hy) (rest : ∀ a b, R a b → Alike id S (hf a) (hg b)) :
    Alike id S (hx.bind hf) (hy.bind hg) := by
  intro m m' alike
  obtain ⟨ends, same⟩ := first m m' alike
  rcases ends.cases with ⟨a, t, b, t', left, right, related, next⟩ |
    ⟨e, t, t', left, right, stopped⟩
  · obtain ⟨later, listed⟩ := rest a b related t t' next
    rw [bind_of_ok left, bind_of_ok right, bind_moments hx hf left, bind_moments hy hg right,
      essentials_append, essentials_append, same, listed]
    exact ⟨later, rfl⟩
  · rw [bind_of_error left, bind_of_error right, bind_moments_of_error hx hf left,
      bind_moments_of_error hy hg right]
    exact ⟨⟨rfl, stopped⟩, same⟩

theorem calling {op : Op} (silent : ∀ m, Moment.write primary ⟨m, op⟩ = fun _ => none)
    (silent' : ∀ m, Moment.write primary ⟨m, op⟩ = fun _ => none) {hx : History primary x}
    {hy : History primary y} (rest : Alike id R hx hy) :
    Alike id R (History.calling op silent hx) (History.calling op silent' hy) := by
  intro m m' alike
  obtain ⟨ends, same⟩ := rest m m' alike
  refine ⟨ends, ?_⟩
  change essentials primary ([⟨m, op⟩] ++ hx.moments m) =
    essentials primary ([⟨m', op⟩] ++ hy.moments m')
  rw [essentials_append, essentials_append, essentials_singleton alike, same]

theorem writing {op : Op} {wx : ∀ m, (x.outcome m).2.table.get =
      Moment.after primary m.table.get ⟨m, op⟩}
    {wy : ∀ m, (y.outcome m).2.table.get = Moment.after primary m.table.get ⟨m, op⟩}
    (act : Act.Alike id R x y) : Alike id R (History.writing op wx) (History.writing op wy) :=
  fun m m' alike => ⟨act m m' alike, essentials_singleton alike op⟩

/-- An inert action may be put before the first of two actions. -/
theorem skip {z : Act α} {f : α → Act γ} {w : Act δ} {hz : History primary z}
    {hf : ∀ a, History primary (f a)} {hw : History primary w} (inert : Inert id hz)
    (rest : ∀ a, Alike id S (hf a) hw) : Alike id S (hz.bind hf) hw := by
  intro m m' alike
  obtain ⟨a, t, ran, stays, none⟩ := inert m alike.hartId
  obtain ⟨ends, same⟩ := rest a t m' (stays.trans alike)
  rw [bind_of_ok ran, bind_moments hz hf ran, essentials_append, none, List.nil_append]
  exact ⟨ends, same⟩

theorem symm {hx : History primary x} {hy : History primary y} (alike : Alike id Any hx hy) :
    Alike id Any hy hx := by
  intro m m' machines
  obtain ⟨ends, same⟩ := alike m' m machines.symm
  refine ⟨?_, same.symm⟩
  rcases ends.cases with ⟨a, t, b, t', left, right, -, next⟩ | ⟨e, t, t', left, right, stopped⟩
  · rw [left, right]
    exact ⟨trivial, next.symm⟩
  · rw [left, right]
    exact ⟨rfl, stopped.symm⟩

end Alike

namespace Inert

variable {x : Act α}

theorem quiet {kx : x.Keeps Machine.table}
    (act : ∀ m, m.hart.csrs.hartId = id → ∃ a t, x m = .ok a t ∧ t.Alike id m) :
    Inert id (History.quiet kx : History primary x) := by
  intro m hartId
  obtain ⟨a, t, ran, stays⟩ := act m hartId
  exact ⟨a, t, ran, stays, rfl⟩

theorem bind {f : α → Act β} {hx : History primary x} {hf : ∀ a, History primary (f a)}
    (first : Inert id hx) (rest : ∀ a, Inert id (hf a)) : Inert id (hx.bind hf) := by
  intro m hartId
  obtain ⟨a, t, ran, stays, none⟩ := first m hartId
  obtain ⟨b, t', later, still, none'⟩ := rest a t stays.hartId
  refine ⟨b, t', (bind_of_ok ran f).trans later, still.trans stays, ?_⟩
  rw [bind_moments hx hf ran, essentials_append, none, none']
  rfl

theorem calling {op : Op} (silent : ∀ m, Moment.write primary ⟨m, op⟩ = fun _ => none)
    {hx : History primary x} (setup : op.isSetup = true) (secondary : id ≠ primary)
    (rest : Inert id hx) : Inert id (History.calling op silent hx) := by
  intro m hartId
  obtain ⟨a, t, ran, stays, none⟩ := rest m hartId
  refine ⟨a, t, ran, stays, ?_⟩
  change essentials primary ([⟨m, op⟩] ++ hx.moments m) = []
  rw [essentials_append, none, essentials_setup setup (by rwa [hartId])]
  rfl

end Inert

/-! ### Secondary setups -/

/-- A setup stays on course unless its hart is the primary one. -/
theorem setup_inert (d : Dispatcher) (entry : Nat) (handler : Handler)
    (secondary : id ≠ d.config.primaryHart) : (setup d entry handler).Inert id := by
  intro m hartId
  rw [← hartId] at secondary
  refine ⟨_, _, d.setup_apply entry handler m, ?_, essentials_setup rfl secondary⟩
  rw [if_neg secondary]
  exact ⟨rfl, hartId⟩

/-- Notes do not belong to the course, whatever they say. -/
theorem noteReply_alike (place place' : Nat) (reply reply' : Reply) :
    Act.Alike id Any (noteReply place reply) (noteReply place' reply') :=
  fun _ _ alike => ⟨trivial, alike.course, alike.hartId⟩

theorem noteReply_stays (place : Nat) (reply : Reply) (m : Machine)
    (hartId : m.hart.csrs.hartId = id) :
    ∃ a t, noteReply place reply m = .ok a t ∧ t.Alike id m :=
  ⟨_, _, rfl, rfl, hartId⟩

theorem print_stays (text : String) (m : Machine) (hartId : m.hart.csrs.hartId = id) :
    ∃ a t, print text m = .ok a t ∧ t.Alike id m := by
  refine ⟨(), m.print text, rfl, ?_, ?_⟩
  · rw [Machine.print_eq]
    split <;> rfl
  · rw [Machine.print_hart, hartId]

section

variable (s : Scenario) {behaviour : Behaviour}
  {hb : ∀ h, History s.config.primaryHart (behaviour h)}

theorem start_inert (secondary : id ≠ s.config.primaryHart) : (start s).Inert id := by
  refine .calling (fun _ => rfl) rfl secondary ?_
  refine .bind (setup_inert s.native s.entry .debug secondary) fun _ => .quiet ?_
  exact fun m hartId => print_stays _ m hartId

theorem perform_inert {op : Op} (setup : op.isSetup = true)
    (secondary : id ≠ s.config.primaryHart) : (perform s hb op).Inert id := by
  have returns : ∀ m : Machine, m.hart.csrs.hartId = id →
      ∃ a t, (pure Reply.nothing : Act Reply) m = .ok a t ∧ t.Alike id m :=
    fun m hartId => ⟨_, m, rfl, .refl hartId⟩
  cases op
  case setup entry handler =>
    exact .bind (setup_inert (s.dispatcher .readModifyWrite) entry handler secondary) fun _ =>
      .quiet returns
  case start => exact .bind (start_inert s secondary) fun _ => .quiet returns
  all_goals cases setup

end

/-! ### Operations on machines of one course -/

theorem dispatch_alike (d : Dispatcher) {behaviour behaviour' : Behaviour}
    {hb : ∀ h, History primary (behaviour h)} {hb' : ∀ h, History primary (behaviour' h)}
    (handlers : ∀ h, Alike id Any (hb h) (hb' h)) :
    Alike id Any (dispatch d hb) (dispatch d hb') := by
  refine .bind (.quiet (.readShown fun _ => rfl)) ?_
  rintro cause _ rfl
  refine .bind (.quiet (.slot _)) ?_
  rintro slot _ rfl
  cases slot with
  | none => exact .quiet (d.advance_alike ⟨cause⟩)
  | some h => exact .bind (handlers h) fun _ _ _ => .quiet (d.advance_alike ⟨cause⟩)

theorem trap_alike (d : Dispatcher) {behaviour behaviour' : Behaviour}
    {hb : ∀ h, History primary (behaviour h)} {hb' : ∀ h, History primary (behaviour' h)}
    (handlers : ∀ h, Alike id Any (hb h) (hb' h)) (event : TrapEvent) (x : Frame) :
    Alike id Any (trap d hb event x) (trap d hb' event x) := by
  refine .calling (fun _ => rfl) (fun _ => rfl) ?_
  have entered : Act.Alike id Any (Act.modifyHart (Dispatcher.enter event x.hardwireZero))
      (Act.modifyHart (Dispatcher.enter event x.hardwireZero)) :=
    .modifyHart (fun _ => rfl) fun _ => rfl
  refine .bind (.quiet entered) fun _ _ _ => ?_
  exact .bind (dispatch_alike d handlers) fun _ _ _ => .quiet (.bind_pure .get _ _)

/-- An operation does not depend on the scripts but through the handlers. -/
theorem perform_scripts (s : Scenario) (scripts : Nat → List Op) (behaviour : Behaviour) (op : Op) :
    ({ s with scripts } : Scenario).perform behaviour op = s.perform behaviour op := by
  cases op <;> rfl

section

variable (s : Scenario) (scripts : Nat → List Op) {behaviour behaviour' : Behaviour}
  {hb : ∀ h, History s.config.primaryHart (behaviour h)}
  {hb' : ∀ h, History s.config.primaryHart (behaviour' h)}
  (handlers : ∀ h, Alike id Any (hb h) (hb' h))

include handlers

/-- A straight operation keeps to one course if the handlers do. -/
theorem perform_alike (op : Op) (straight : op.isStraight = true) :
    Alike id Any (perform s hb op) (perform { s with scripts } hb' op) := by
  have own : op.isQuiet = true →
      Act.Alike id Any (s.perform behaviour op)
        (({ s with scripts } : Scenario).perform behaviour' op) := by
    intro quiet
    rw [perform_scripts]
    exact s.perform_alike behaviour behaviour' op straight quiet
  cases op
  case selfTest => cases straight
  case setup entry handler =>
    exact .bind (.writing (Dispatcher.setup_alike _ entry handler)) fun _ _ _ =>
      .quiet (.pure trivial)
  case start =>
    refine .bind (R := Any) (.calling (fun _ => rfl) (fun _ => rfl) ?_) fun _ _ _ =>
      .quiet (.pure trivial)
    refine .bind (.writing (Dispatcher.setup_alike _ s.entry .debug)) fun _ _ _ => .quiet ?_
    exact .bind (.readShown fun _ => rfl) fun a b same => by rw [same]; exact .print _
  case install code slot =>
    refine .bind (.writing (.install code slot)) ?_
    rintro answer _ rfl
    cases answer with
    | ok _ => exact .quiet (.pure trivial)
    | error e => exact .quiet (.pure trivial)
  case tableInstall code slot =>
    change Alike id Any (tableInstall s behaviour code slot)
      (tableInstall { s with scripts } behaviour' code slot)
    refine .writing (Scenario.withCode_alike (fun c => .bind_pure (R := Any) ?_ _ _) code)
    exact .modify (fun _ => rfl) fun _ => rfl
  case tableFill handler =>
    change Alike id Any (tableFill s behaviour handler)
      (tableFill { s with scripts } behaviour' handler)
    refine .writing (.bind_pure (R := Any) ?_ _ _)
    exact .modify (fun _ => rfl) fun _ => rfl
  case handleTrap via =>
    refine .calling (fun _ => rfl) (fun _ => rfl) ?_
    exact .bind (dispatch_alike _ handlers) fun _ _ _ => .quiet (.pure trivial)
  case trap event x =>
    exact .bind (trap_alike _ handlers event x) fun _ _ _ => .quiet (.pure trivial)
  all_goals exact .calling (fun _ => rfl) (fun _ => rfl) (.quiet (own rfl))

/-! ### Scripts that differ in secondary setups -/

/-- Scripts keep to one course if they differ in secondary setups alone, wherever these are. -/
theorem performAll_alike (ops ops' : List Op)
    (same : ops.filter (·.isEssential s.config.primaryHart id) =
      ops'.filter (·.isEssential s.config.primaryHart id))
    (straight : ∀ op ∈ ops ++ ops', op.isStraight = true) (place place' : Nat) :
    Alike id Any (performAll s hb place ops) (performAll { s with scripts } hb' place' ops') := by
  obtain ⟨straight, straight'⟩ := List.forall_mem_append.mp straight
  refine filter_eq_induction (·.isEssential s.config.primaryHart id)
    (motive := fun ops ops' => (∀ op ∈ ops, op.isStraight = true) →
      (∀ op ∈ ops', op.isStraight = true) → ∀ place place', Alike id Any
        (performAll s hb place ops) (performAll { s with scripts } hb' place' ops'))
    ?nil ?left ?right ?both ops ops' same straight straight' place place'
  case nil =>
    intro _ _ _ _
    exact .quiet (.pure trivial)
  case left =>
    intro op ops ops' inessential ih straight straight' place place'
    obtain ⟨secondary, setup⟩ := Op.isEssential_eq_false_iff.mp inessential
    have rest := ih (fun next mem => straight next (List.mem_cons_of_mem op mem)) straight'
    exact .skip (perform_inert s setup secondary) fun reply =>
      .skip (.quiet (noteReply_stays place reply)) fun _ => rest place place'
  case right =>
    intro op ops ops' inessential ih straight straight' place place'
    obtain ⟨secondary, setup⟩ := Op.isEssential_eq_false_iff.mp inessential
    have rest := ih straight fun next mem => straight' next (List.mem_cons_of_mem op mem)
    exact .symm (.skip (perform_inert { s with scripts } setup secondary) fun reply =>
      .skip (.quiet (noteReply_stays place' reply)) fun _ => .symm (rest place place'))
  case both =>
    intro op ops ops' ih straight straight' place place'
    have rest := ih (fun next mem => straight next (List.mem_cons_of_mem op mem))
      fun next mem => straight' next (List.mem_cons_of_mem op mem)
    exact .bind (perform_alike s scripts handlers op (straight op List.mem_cons_self))
      fun reply reply' _ => .bind (.quiet (noteReply_alike place place' reply reply')) fun _ _ _ =>
        rest place place'

end

theorem handler_alike (d : Dispatcher) {scripts scripts' : Nat → Act Unit}
    {hs : ∀ number, History primary (scripts number)}
    {hs' : ∀ number, History primary (scripts' number)}
    (alike : ∀ number, Alike id Any (hs number) (hs' number)) (h : Handler) :
    Alike id Any (handler d hs h) (handler d hs' h) := by
  cases h with
  | debug =>
      change Alike id Any (quiet d.debugHandler_keeps_table) (quiet d.debugHandler_keeps_table)
      exact .quiet d.debugHandler_alike
  | script number => exact alike number
  | probe which =>
      change Alike id Any (quiet (which.run_keeps_table d)) (quiet (which.run_keeps_table d))
      exact .quiet (which.run_alike d)

end History

namespace Scenario

/-- On a hart with this id the scripts differ in secondary setups alone, and all their operations
are straight. -/
structure Agrees (s : Scenario) (id : Word) (scripts : Nat → List Op) : Prop where
  same : ∀ number, (s.scripts number).filter (·.isEssential s.config.primaryHart id) =
    (scripts number).filter (·.isEssential s.config.primaryHart id)
  straight : ∀ number, ∀ op ∈ s.scripts number ++ scripts number, op.isStraight = true

end Scenario

namespace History

variable {id : Word} (s : Scenario) (scripts : Nat → List Op) (agrees : s.Agrees id scripts)

include agrees

/-- Handlers whose scripts differ in secondary setups alone keep to one course, however deep they
trap into each other. -/
theorem runScript_alike (depth : Nat) :
    ∀ number, Alike id Any (runScript s depth number) (runScript { s with scripts } depth number) := by
  induction depth with
  | zero => exact fun _ => .quiet (.stop _)
  | succ depth ih =>
      intro number
      have opened : Act.Alike id Any (openVisit number) (openVisit number) :=
        fun _ _ alike => ⟨trivial, alike.course, alike.hartId⟩
      exact .bind (.quiet opened) fun place place' _ =>
        performAll_alike s scripts (handler_alike s.native ih) _ _ (agrees.same number)
          (agrees.straight number) place place'

theorem session_alike (op : Op) (straight : op.isStraight = true) :
    Alike id Any (session s op) (session { s with scripts } op) :=
  perform_alike s scripts
    (handler_alike s.native (runScript_alike s scripts agrees (s.nesting.depth + 1))) op straight

end History

end TrapDispatch
