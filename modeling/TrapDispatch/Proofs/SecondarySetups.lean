import TrapDispatch.Proofs.CourseHistories
import TrapDispatch.Proofs.HartIsolation
import TrapDispatch.Proofs.HartPorts
import TrapDispatch.Proofs.TracedHistories

/-!
Setting harts up, and what setups of harts other than the primary one do to a run: nothing that the
table, or any hart on its further course, could tell.

* `setup_eq`, `setup_setup`: one setup spelt out, and two in a row.
* `Ledger.hartId`, `run_hartId`: the hart id changes by pokes alone.
* `Board.Alike`: boards of one course. `step_alike` and `step_inert` say what one step preserves, of
  both boards and of one; `run_alike` is the induction over runs that differ in secondary setups.
* `run_keeps_slot`: a slot is left alone as long as no operation writes to it.
* `secondary_setups_make_no_difference`: all of it.
-/

namespace TrapDispatch

open Act

/-! ### One setup -/

namespace Dispatcher

variable (d : Dispatcher) (entry : Nat) (handler : Handler)

/-- A setup, spelt out. -/
theorem setup_eq (m : Machine) :
    d.setup entry handler m = .ok () { m with
      hart := { m.hart with
        csrs := { m.hart.csrs with
          status := 0x1800#32
          trapVector := BitVec.ofNat 32 entry &&& ~~~3#32
          interruptEnable := 0#32 }
        fences := m.hart.fences + 1 }
      table := if m.hart.csrs.hartId = d.config.primaryHart then .uniform (some handler)
        else m.table } :=
  d.setup_apply entry handler m

/-- A setup that is repeated at once adds a fence and nothing else. -/
theorem setup_setup :
    (do d.setup entry handler; d.setup entry handler) = (do d.setup entry handler; Act.fence) := by
  funext m
  rw [bind_of_ok (d.setup_eq entry handler m), bind_of_ok (d.setup_eq entry handler m), setup_eq]
  change EStateM.Result.ok () _ = EStateM.Result.ok () _
  by_cases primary : m.hart.csrs.hartId = d.config.primaryHart
  · simp only [if_pos primary]
    rfl
  · simp only [if_neg primary]
    rfl

end Dispatcher

/-! ### Hart ids -/

/-- The hart id, which only pokes change. -/
def Ledger.hartId : Ledger Word where
  view m := m.hart.csrs.hartId
  after id now :=
    match now.op with
    | .poke .hartId value => value
    | _ => id
  lasting := {
    hart := fun _ _ same => same
    table := fun _ _ => rfl
    capture := fun _ _ => rfl
    visits := fun _ _ => rfl
    bench := fun _ _ => rfl
    print := fun m text => by rw [Machine.print_hart] }
  others id now direct := by
    obtain ⟨m, op⟩ := now
    cases op
    case poke | switchConsole | writer => cases direct
    all_goals rfl
  poke _ csr _ := by
    cases csr <;> rfl
  switch _ _ := rfl
  writer _ _ := rfl

/-- Neither kind of hart lets software change its id. -/
theorem Port.Faithful.keeps_hartId {p : Port} (faithful : p.Faithful) (csr : Csr) (value : Word) :
    (p.write csr value).Keeps (·.hart.csrs.hartId) ∧
      (p.setBits csr value).Keeps (·.hart.csrs.hartId) ∧
      (p.clearBits csr value).Keeps (·.hart.csrs.hartId) := by
  rw [faithful.write, faithful.setBits .readModifyWrite, faithful.clearBits .readModifyWrite]
  have lasting := Ledger.hartId.lasting
  exact ⟨lasting.modifyHart fun h => h.csrs.hartId_write csr value, lasting.setBits _ csr value,
    lasting.clearBits _ csr value⟩

namespace Board

variable {n : Nat} (s : Scenario)

/-- Without pokes of it the hart id of the hart that makes a step is the same at every moment of the
step, and all hart ids are the same afterwards. -/
theorem step_hartId (b : Board n) (i : Fin n) (op : Op)
    (fixed : ∀ now ∈ (History.session s op).moments (b.machine i), ∀ id, now.op ≠ .poke .hartId id) :
    (∀ now ∈ (History.session s op).moments (b.machine i),
      now.machine.hart.csrs.hartId = (b.hart i).csrs.hartId) ∧
    ∀ k, ((b.step s i op).1.hart k).csrs.hartId = (b.hart k).csrs.hartId := by
  have traces := History.session_traced (l := Ledger.hartId) s op (b.machine i)
  have idle : ∀ now ∈ (History.session s op).moments (b.machine i), ∀ id,
      Ledger.hartId.after id now = id := by
    intro now mem id
    obtain ⟨m, op⟩ := now
    cases op
    case poke csr value =>
      cases csr
      case hartId => exact absurd rfl (fixed _ mem value)
      all_goals rfl
    all_goals rfl
  obtain ⟨final, found⟩ := traces.constant idle
  refine ⟨found, ?_⟩
  intro k
  by_cases own : k = i
  · subst own
    change ((b.update k _).hart k).csrs.hartId = _
    rw [update_hart_self]
    exact final
  · rw [b.step_hart_ne s own]

theorem run_hartId (b : Board n) (steps : List (Fin n × Op))
    (fixed : ∀ now ∈ b.moments s steps, ∀ id, now.op ≠ .poke .hartId id) (k : Fin n) :
    ((b.run s steps).1.hart k).csrs.hartId = (b.hart k).csrs.hartId := by
  induction steps generalizing b with
  | nil => rfl
  | cons step steps ih =>
      obtain ⟨i, op⟩ := step
      obtain ⟨first, later⟩ := List.forall_mem_append.mp fixed
      exact (ih _ later).trans ((b.step_hartId s i op first).2 k)

theorem moments_append (b : Board n) (xs ys : List (Fin n × Op)) :
    b.moments s (xs ++ ys) = b.moments s xs ++ (b.run s xs).1.moments s ys := by
  induction xs generalizing b with
  | nil => rfl
  | cons x xs ih =>
      obtain ⟨i, op⟩ := x
      change _ ++ (b.step s i op).1.moments s (xs ++ ys) = (_ ++ _) ++ _
      rw [ih, List.append_assoc]
      rfl

/-! ### Boards of one course -/

/-- Boards that agree on the table, on the console and on the courses of all harts, which have these
ids. -/
structure Alike (ids : Fin n → Word) (b b' : Board n) : Prop where
  harts : ∀ k, (b.hart k).course = (b'.hart k).course
  table : b.table = b'.table
  available : b.available = b'.available
  hartIds : ∀ k, (b.hart k).csrs.hartId = ids k

namespace Alike

variable {ids : Fin n → Word} {b b' b'' : Board n}

theorem refl (hartIds : ∀ k, (b.hart k).csrs.hartId = ids k) : Alike ids b b :=
  ⟨fun _ => rfl, rfl, rfl, hartIds⟩

theorem symm (alike : Alike ids b b') : Alike ids b' b where
  harts k := (alike.harts k).symm
  table := alike.table.symm
  available := alike.available.symm
  hartIds k := (congrArg (fun h => h.csrs.hartId) (alike.harts k)).symm.trans (alike.hartIds k)

theorem trans (first : Alike ids b b') (second : Alike ids b' b'') : Alike ids b b'' where
  harts k := (first.harts k).trans (second.harts k)
  table := first.table.trans second.table
  available := first.available.trans second.available
  hartIds := first.hartIds

theorem machine (alike : Alike ids b b') (i : Fin n) :
    (b.machine i).Alike (ids i) (b'.machine i) := by
  refine ⟨?_, alike.hartIds i⟩
  change Machine.mk (b.hart i).course b.table ⟨b.available, ""⟩ _ _ _ =
    Machine.mk (b'.hart i).course b'.table ⟨b'.available, ""⟩ _ _ _
  rw [alike.harts i, alike.table, alike.available]
  rfl

/-- Steps of one hart that end on machines of one course leave boards of one course. -/
theorem update (alike : Alike ids b b') {i : Fin n} {m m' : Machine} (ends : m.Alike (ids i) m') :
    Alike ids (b.update i m) (b'.update i m') where
  harts k := by
    by_cases own : k = i
    · subst own
      rw [update_hart_self, update_hart_self, ends.hart]
    · rw [update_hart_ne b own, update_hart_ne b' own, alike.harts k]
  table := ends.table
  available := ends.available
  hartIds k := by
    by_cases own : k = i
    · subst own
      rw [update_hart_self, ends.hartId]
    · rw [update_hart_ne b own, alike.hartIds k]

end Alike

end Board

namespace Board

variable {n : Nat} (s : Scenario) {ids : Fin n → Word} {b b' : Board n}

/-- A straight step on boards of one course leaves boards of one course, and carries out the same
essential operations on both. -/
theorem step_alike (scripts : Nat → List Op) (alike : Alike ids b b') {i : Fin n}
    (agrees : s.Agrees (ids i) scripts) {op : Op} (straight : op.isStraight = true) :
    Alike ids (b.step s i op).1 (b'.step { s with scripts } i op).1 ∧
      essentials s.config.primaryHart ((History.session s op).moments (b.machine i)) =
        essentials s.config.primaryHart
          ((History.session { s with scripts } op).moments (b'.machine i)) := by
  obtain ⟨ends, same⟩ := History.session_alike s scripts agrees op straight _ _ (alike.machine i)
  exact ⟨alike.update ends.outcome, same⟩

/-- A secondary setup leaves a board of the same course and carries out no essential operation. -/
theorem step_inert (hartIds : ∀ k, (b.hart k).csrs.hartId = ids k) {i : Fin n} {op : Op}
    (setup : op.isSetup = true) (secondary : ids i ≠ s.config.primaryHart) :
    Alike ids (b.step s i op).1 b ∧
      essentials s.config.primaryHart ((History.session s op).moments (b.machine i)) = [] := by
  obtain ⟨reply, t, ran, stays, none⟩ :=
    History.perform_inert s setup secondary (b.machine i) (hartIds i)
  refine ⟨?_, none⟩
  have updated := (Alike.refl hartIds).update stays
  rw [b.update_same (m := b.machine i) i rfl rfl rfl] at updated
  have ended : ((s.perform s.behaviour op).outcome (b.machine i)).2 = t :=
    congrArg Prod.snd (outcome_of_ok ran)
  rw [← ended] at updated
  exact updated

/-- The board after a run in which the handlers of each hart run scripts of its own. -/
def runEach (s : Scenario) (scripts : Fin n → Nat → List Op) : Board n → List (Fin n × Op) → Board n
  | b, [] => b
  | b, (i, op) :: steps => runEach s scripts (b.step { s with scripts := scripts i } i op).1 steps

/-- Every operation that such a run carries out. -/
def momentsEach (s : Scenario) (scripts : Fin n → Nat → List Op) :
    Board n → List (Fin n × Op) → List Moment
  | _, [] => []
  | b, (i, op) :: steps =>
    (History.session { s with scripts := scripts i } op).moments (b.machine i) ++
      momentsEach s scripts (b.step { s with scripts := scripts i } i op).1 steps

/-- With the scripts of the scenario on every hart it is the run that it was. -/
theorem runEach_same (b : Board n) (steps : List (Fin n × Op)) :
    b.runEach s (fun _ => s.scripts) steps = (b.run s steps).1 ∧
      b.momentsEach s (fun _ => s.scripts) steps = b.moments s steps := by
  induction steps generalizing b with
  | nil => exact ⟨rfl, rfl⟩
  | cons step steps ih =>
      obtain ⟨i, op⟩ := step
      obtain ⟨ends, listed⟩ := ih (b.step s i op).1
      exact ⟨ends, congrArg (_ ++ ·) listed⟩

/-- **Runs that differ in secondary setups**, between their steps and inside their handlers, leave
boards of one course and carry out the same essential operations. -/
theorem run_alike (scripts : Fin n → Nat → List Op) (xs ys : List (Fin n × Op))
    (same : xs.filter (fun x => x.2.isEssential s.config.primaryHart (ids x.1)) =
      ys.filter fun y => y.2.isEssential s.config.primaryHart (ids y.1))
    (straight : ∀ x ∈ xs ++ ys, x.2.isStraight = true)
    (agrees : ∀ x ∈ xs ++ ys, s.Agrees (ids x.1) (scripts x.1)) (alike : Alike ids b b') :
    Alike ids (b.run s xs).1 (b'.runEach s scripts ys) ∧
      essentials s.config.primaryHart (b.moments s xs) =
        essentials s.config.primaryHart (b'.momentsEach s scripts ys) := by
  have fair : ∀ x ∈ xs ++ ys, x.2.isStraight = true ∧ s.Agrees (ids x.1) (scripts x.1) :=
    fun x mem => ⟨straight x mem, agrees x mem⟩
  obtain ⟨fairX, fairY⟩ := List.forall_mem_append.mp fair
  refine filter_eq_induction (fun x => x.2.isEssential s.config.primaryHart (ids x.1))
    (motive := fun xs ys =>
      (∀ x ∈ xs, x.2.isStraight = true ∧ s.Agrees (ids x.1) (scripts x.1)) →
      (∀ y ∈ ys, y.2.isStraight = true ∧ s.Agrees (ids y.1) (scripts y.1)) →
      ∀ b b', Alike ids b b' → Alike ids (b.run s xs).1 (b'.runEach s scripts ys) ∧
        essentials s.config.primaryHart (b.moments s xs) =
          essentials s.config.primaryHart (b'.momentsEach s scripts ys))
    ?nil ?left ?right ?both xs ys same fairX fairY b b' alike
  case nil =>
    intro _ _ b b' alike
    exact ⟨alike, rfl⟩
  case left =>
    rintro ⟨i, op⟩ xs ys inessential ih fairX fairY b b' alike
    obtain ⟨secondary, setup⟩ := Op.isEssential_eq_false_iff.mp inessential
    obtain ⟨stays, none⟩ := step_inert s alike.hartIds setup secondary
    obtain ⟨ends, listed⟩ := ih (fun x mem => fairX x (List.mem_cons_of_mem _ mem)) fairY _ b'
      (stays.trans alike)
    refine ⟨ends, ?_⟩
    rw [moments, essentials_append, none, List.nil_append, listed]
  case right =>
    rintro ⟨i, op⟩ xs ys inessential ih fairX fairY b b' alike
    obtain ⟨secondary, setup⟩ := Op.isEssential_eq_false_iff.mp inessential
    obtain ⟨stays, none⟩ := step_inert { s with scripts := scripts i } alike.symm.hartIds setup
      secondary
    obtain ⟨ends, listed⟩ := ih fairX (fun y mem => fairY y (List.mem_cons_of_mem _ mem)) b _
      (alike.trans stays.symm)
    refine ⟨ends, ?_⟩
    rw [momentsEach, essentials_append, none, List.nil_append, listed]
  case both =>
    rintro ⟨i, op⟩ xs ys ih fairX fairY b b' alike
    obtain ⟨straight, agrees⟩ := fairX _ List.mem_cons_self
    obtain ⟨next, first⟩ := step_alike s (scripts i) alike agrees straight
    obtain ⟨ends, listed⟩ := ih (fun x mem => fairX x (List.mem_cons_of_mem _ mem))
      (fun y mem => fairY y (List.mem_cons_of_mem _ mem)) _ _ next
    refine ⟨ends, ?_⟩
    rw [moments, momentsEach, essentials_append, essentials_append, first, listed]

end Board

/-! ### Slots that nothing writes to -/

/-- A secondary setup writes to no slot. -/
theorem Moment.write_of_secondary {primary : Word} {now : Moment}
    (secondary : now.isEssential primary = false) (k : Code) : now.write primary k = none := by
  obtain ⟨m, op⟩ := now
  obtain ⟨other, setup⟩ := Op.isEssential_eq_false_iff.mp secondary
  cases op
  case setup => exact if_neg other
  case start => rfl
  all_goals cases setup

/-- A slot to which no operation writes holds the same at every moment and at the end. -/
theorem Replays.keeps_slot {primary : Word} {slots final : Slots} {past : List Moment} {k : Code}
    (replay : Replays primary slots past final)
    (spared : ∀ now ∈ past, now.write primary k = none) :
    final k = slots k ∧ ∀ now ∈ past, now.machine.table.get k = slots k := by
  induction past generalizing slots with
  | nil => exact ⟨congrFun (Eq.symm replay) k, List.forall_mem_nil _⟩
  | cons now past ih =>
      obtain ⟨found, rest⟩ := replay
      have kept : now.after primary slots k = slots k := by
        unfold Moment.after
        rw [spared now List.mem_cons_self]
        rfl
      have later := ih rest fun next mem => spared next (List.mem_cons_of_mem now mem)
      rw [kept] at later
      exact ⟨later.1, List.forall_mem_cons.mpr ⟨congrFun found k, later.2⟩⟩

namespace Board

variable {n : Nat}

/-- A step that installs a handler for a code. -/
theorem step_install (s : Scenario) (b : Board n) (i : Fin n) (k : Code) (slot : Option Handler) :
    (b.step s i (.install k.bits slot)).1.table = b.table.install k slot := by
  have word : b.table.installWord k.bits slot = b.table.install k slot := by
    unfold VectorTable.installWord
    rw [Code.ofBits_bits]
  have installed := install_apply k.bits slot (b.machine i)
  rw [Code.ofBits_bits, machine_table, word] at installed
  have ran : s.perform s.behaviour (.install k.bits slot) (b.machine i) =
      .ok .accepted { b.machine i with table := b.table.install k slot } := bind_of_ok installed _
  exact congrArg (fun ended => ended.2.table) (outcome_of_ok ran)

/-- **Setups of harts other than the primary one make no difference.** A setup writes the status
register, the trap vector and the interrupt enables, counts a fence, puts the handler into every slot
if its hart is the primary one, and changes nothing else; repeated at once it adds a fence. The hart
id is not changed by software through either kind of hart, so without pokes it is the same at every
moment of a run. Take two runs of steps and handlers without self tests and pokes of the hart id. If
they differ in setups of secondary harts alone, wherever these are, then they end with the same table,
and all other operations are carried out in the same order and find the same table in both. This also
holds if the setups are put into the handlers as those harts run them, and from any two boards of one
course, which are left on one course. A handler that has been installed stays in its slot as long as
nothing but such setups writes to it. -/
theorem secondary_setups_make_no_difference (s : Scenario) (b : Board n) :
    (∀ (d : Dispatcher) (entry : Nat) (handler : Handler) (m : Machine),
      d.setup entry handler m = .ok () { m with
        hart := { m.hart with
          csrs := { m.hart.csrs with
            status := 0x1800#32
            trapVector := BitVec.ofNat 32 entry &&& ~~~3#32
            interruptEnable := 0#32 }
          fences := m.hart.fences + 1 }
        table := if m.hart.csrs.hartId = d.config.primaryHart then .uniform (some handler)
          else m.table }) ∧
    (∀ (d : Dispatcher) (entry : Nat) (handler : Handler),
      (do d.setup entry handler; d.setup entry handler) =
        (do d.setup entry handler; Act.fence)) ∧
    (∀ (i k : Fin n) (entry : Nat) (handler : Handler), k ≠ i →
      (b.step s i (.setup entry handler)).1.hart k = b.hart k) ∧
    (∀ (unaligned : Unaligned) (via : BitAccess) (csr : Csr) (value : Word),
      let p := Port.ofAccess unaligned via
      (p.write csr value).Keeps (·.hart.csrs.hartId) ∧
        (p.setBits csr value).Keeps (·.hart.csrs.hartId) ∧
        (p.clearBits csr value).Keeps (·.hart.csrs.hartId)) ∧
    (∀ (steps : List (Fin n × Op)) (i : Fin n) (op : Op),
      (∀ now ∈ b.moments s (steps ++ [(i, op)]), ∀ id, now.op ≠ .poke .hartId id) →
        (∀ now ∈ (History.session s op).moments ((b.run s steps).1.machine i),
          now.machine.hart.csrs.hartId = (b.hart i).csrs.hartId) ∧
        ∀ k, ((b.run s (steps ++ [(i, op)])).1.hart k).csrs.hartId = (b.hart k).csrs.hartId) ∧
    (∀ xs ys : List (Fin n × Op),
      let ids := fun i => (b.hart i).csrs.hartId
      let primary := s.config.primaryHart
      (∀ x ∈ xs ++ ys, x.2.isStraight = true) →
      (∀ number, ∀ op ∈ s.scripts number, op.isStraight = true) →
      xs.filter (fun x => x.2.isEssential primary (ids x.1)) =
        ys.filter (fun y => y.2.isEssential primary (ids y.1)) →
      (b.run s xs).1.table = (b.run s ys).1.table ∧
        essentials primary (b.moments s xs) = essentials primary (b.moments s ys)) ∧
    (∀ (b' : Board n) (scripts : Fin n → Nat → List Op) (xs ys : List (Fin n × Op)),
      let ids := fun i => (b.hart i).csrs.hartId
      let primary := s.config.primaryHart
      Alike ids b b' → (∀ x ∈ xs ++ ys, x.2.isStraight = true) →
      (∀ x ∈ xs ++ ys, s.Agrees (ids x.1) (scripts x.1)) →
      xs.filter (fun x => x.2.isEssential primary (ids x.1)) =
        ys.filter (fun y => y.2.isEssential primary (ids y.1)) →
      Alike ids (b.run s xs).1 (b'.runEach s scripts ys) ∧
        essentials primary (b.moments s xs) =
          essentials primary (b'.momentsEach s scripts ys)) ∧
    (∀ (i : Fin n) (k : Code) (slot : Option Handler) (steps : List (Fin n × Op)),
      let installed := (b.step s i (.install k.bits slot)).1
      (∀ now ∈ installed.moments s steps, now.isEssential s.config.primaryHart = false ∨
        now.write s.config.primaryHart k = none) →
      (installed.run s steps).1.table.get k = slot ∧
        ∀ now ∈ installed.moments s steps, now.machine.table.get k = slot) := by
  refine ⟨fun d entry handler m => d.setup_eq entry handler m,
    fun d entry handler => d.setup_setup entry handler, ?others, ?ports, ?hartIds, ?runs, ?handlers,
    ?slots⟩
  case others =>
    intro i k entry handler other
    exact b.step_hart_ne s other _
  case ports =>
    intro unaligned via csr value
    exact (Port.ofAccess_faithful unaligned via).keeps_hartId csr value
  case hartIds =>
    intro steps i op fixed
    refine ⟨?_, fun k => b.run_hartId s _ fixed k⟩
    rw [b.moments_append] at fixed
    obtain ⟨before, last⟩ := List.forall_mem_append.mp fixed
    intro now mem
    rw [((b.run s steps).1.step_hartId s i op fun next mem' =>
      last next (List.mem_append_left _ mem')).1 now mem]
    exact b.run_hartId s steps before i
  case runs =>
    intro xs ys ids primary straight scripts same
    have agrees : ∀ id, s.Agrees id s.scripts := by
      refine fun id => ⟨fun _ => rfl, ?_⟩
      intro number op mem
      exact (List.mem_append.mp mem).elim (scripts number op) (scripts number op)
    have alike : Alike ids b b := .refl fun _ => rfl
    have runs := run_alike s (fun _ => s.scripts) xs ys same straight (fun x _ => agrees _) alike
    rw [(runEach_same s b ys).1, (runEach_same s b ys).2] at runs
    exact ⟨runs.1.table, runs.2⟩
  case handlers =>
    intro b' scripts xs ys ids primary alike straight agrees same
    exact run_alike s scripts xs ys same straight agrees alike
  case slots =>
    intro i k slot steps installed spared
    have put : installed.table.get k = slot := by
      rw [step_install, VectorTable.get_install, if_pos rfl]
    have replay := installed.replays s steps
    have kept := replay.keeps_slot fun now mem => (spared now mem).elim
      (fun secondary => now.write_of_secondary secondary k) id
    rw [put] at kept
    exact kept

/-! Two orders in which two harts start: the second hart comes last, or sets itself up first and again
in between. -/

def startedInOrder (i j : Fin 2) : List (Fin 2 × Op) :=
  [(i, .start), (i, .install Code.machineEnvCall.bits (some (.script 0))), (j, .start),
    (i, .trap Scenario.ecall Scenario.lowStack)]

def startedAtOnce (i j : Fin 2) : List (Fin 2 × Op) :=
  [(j, .setup 0x40 .debug), (i, .start), (j, .start),
    (i, .install Code.machineEnvCall.bits (some (.script 0))), (j, .setup 0x40 .debug),
    (i, .trap Scenario.ecall Scenario.lowStack)]

theorem secondary_setups_make_no_difference_two_harts :
    (twoHarts.run twoHartScenario (startedInOrder 0 1)).1.table =
        (twoHarts.run twoHartScenario (startedAtOnce 0 1)).1.table ∧
      (∀ now ∈ (History.session twoHartScenario .start).moments
          ((twoHarts.run twoHartScenario ((startedInOrder 0 1).take 2)).1.machine 1),
        now.machine.hart.csrs.hartId = 1#32) ∧
      ((twoHarts.step twoHartScenario 0
        (.install Code.machineEnvCall.bits (some (.script 0)))).1.run twoHartScenario
          [(1, .start)]).1.table.get .machineEnvCall = some (.script 0) := by
  obtain ⟨-, -, -, -, hartIds, runs, -, slots⟩ :=
    secondary_setups_make_no_difference twoHartScenario twoHarts
  refine ⟨?_, ?_, ?_⟩
  · exact (runs (startedInOrder 0 1) (startedAtOnce 0 1) (by decide)
      (by simp [twoHartScenario, Op.isStraight]) rfl).1
  · refine (hartIds ((startedInOrder 0 1).take 2) 1 .start ?_).1
    have ops : (twoHarts.moments twoHartScenario ((startedInOrder 0 1).take 2 ++ [(1, .start)])).map
        Moment.op = [.start, .setup 0x80000000 .debug,
          .install Code.machineEnvCall.bits (some (.script 0)), .start,
          .setup 0x80000000 .debug] := rfl
    intro now mem id poked
    have among := List.mem_map_of_mem (f := Moment.op) mem
    rw [ops, poked] at among
    simp at among
  · let installed := (twoHarts.step twoHartScenario 0
      (.install Code.machineEnvCall.bits (some (.script 0)))).1
    have secondary : (installed.moments twoHartScenario [(1, .start)]).all
        (fun now => !now.isEssential twoHartScenario.config.primaryHart) = true := rfl
    refine (slots 0 .machineEnvCall (some (.script 0)) [(1, .start)] ?_).1
    intro now mem
    exact .inl (by simpa using List.all_eq_true.mp secondary now mem)

end Board

end TrapDispatch
