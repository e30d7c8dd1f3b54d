import TrapDispatch.Proofs.Ledgers

/-!
Ledgers of whole operations: the histories of installs, setups, traps, self tests and scripted
handlers are traced piece by piece, as they are put together.

* `History.selfTest_traced`: the self tests, given the handlers.
* `History.perform_traced`, `History.runScript_traced`: an operation, given the handlers, and the
  handlers by recursion on the depth of nesting.
* `History.session_traced`: an operation in a session, with all that its handlers do.
-/

namespace TrapDispatch

open Act

variable {γ : Type} {l : Ledger γ}

namespace History

variable {primary : Word}

/-! ### Installs, setups and traps -/

theorem install_traced (code : Word) (slot : Option Handler) :
    (install code slot : History primary _).Traced l :=
  .writing rfl (l.lasting.install code slot)

theorem setup_traced (d : Dispatcher) (entry : Nat) (handler : Handler) :
    (setup d entry handler).Traced l :=
  .writing rfl (l.lasting.setup d entry handler)

theorem start_traced (s : Scenario) : (start s).Traced l :=
  .calling (fun _ => rfl) rfl <| .bind (setup_traced s.native s.entry .debug) fun _ =>
    .quiet (.bind (.read _) fun _ => l.lasting.printing _)

theorem dispatch_traced (d : Dispatcher) {behaviour : Behaviour}
    {hb : ∀ h, History primary (behaviour h)} (handlers : ∀ h, (hb h).Traced l) :
    (dispatch d hb).Traced l :=
  .bind (.quiet (.read _)) fun cause => .bind (.quiet (.slot _)) fun
    | some h => .bind (handlers h) fun _ => .quiet (l.lasting.advance d ⟨cause⟩)
    | none => .quiet (l.lasting.advance d ⟨cause⟩)

theorem trap_traced (d : Dispatcher) {behaviour : Behaviour}
    {hb : ∀ h, History primary (behaviour h)} (handlers : ∀ h, (hb h).Traced l)
    (event : TrapEvent) (x : Frame) : (trap d hb event x).Traced l :=
  .calling (fun _ => rfl) rfl <| .bind (.quiet (l.lasting.modifyHart fun _ => rfl)) fun _ =>
    .bind (dispatch_traced d handlers) fun _ => .quiet (.bind .get fun _ => .pure _)

/-! ### The trap suite -/

section

variable {check : Act Bool} {hc : History primary check}

theorem withHandler_traced (c : Code) (slot : Option Handler) (traced : hc.Traced l) :
    (withHandler c slot hc).Traced l :=
  .bind (install_traced c.bits slot) fun
    | .error _ => .quiet (.pure _)
    | .ok () => .bind traced fun _ => .bind (install_traced c.bits (some .debug)) fun
      | .error _ => .quiet (.pure _)
      | .ok () => .quiet (.pure _)

theorem allRefused_traced (words : List Word) : (allRefused words : History primary _).Traced l := by
  induction words with
  | nil => exact .quiet (.pure _)
  | cons w ws ih =>
      exact .bind (install_traced w _) fun
        | .ok () => .quiet (.pure _)
        | .error _ => ih

theorem installRejectsInvalid_traced : (installRejectsInvalid : History primary _).Traced l :=
  .bind (.quiet (.slot _)) fun _ => .bind (allRefused_traced _) fun _ =>
    .quiet (.bind (.slot _) fun _ => .pure _)

end

section

variable {r : SelfTest.Rig} {hb : ∀ h, History primary (r.behaviour h)}
  (handlers : ∀ h, (hb h).Traced l)

include handlers

theorem spin_traced : (spin hb).Traced l :=
  .bind (.quiet (l.lasting.modifyBench _)) fun _ => .bind (.quiet .get) fun _ =>
    .ite (.bind (trap_traced r.dispatcher handlers _ _) fun _ => .quiet (.pure _)) (.quiet (.pure _))

theorem awaitHit_traced (turns : Nat) : (awaitHit hb turns).Traced l := by
  induction turns with
  | zero => exact .quiet (.pure _)
  | succ turns ih =>
      exact .bind (.quiet fun _ => rfl) fun _ =>
        .ite (.bind (spin_traced handlers) fun _ => ih) (.quiet (.pure _))

theorem illegalInstruction_traced : (illegalInstruction hb).Traced l :=
  withHandler_traced _ _ <| .bind (.quiet (.modify fun m => l.lasting.capture m _)) fun _ =>
    .bind (.quiet (l.lasting.modifyBench _)) fun _ =>
    .bind (trap_traced r.dispatcher handlers _ _) fun _ => .quiet fun _ => rfl

theorem breakpointTwice_traced : (breakpointTwice hb).Traced l :=
  withHandler_traced _ _ <| .bind (.quiet (l.lasting.modifyBench _)) fun _ =>
    .bind (trap_traced r.dispatcher handlers _ _) fun _ =>
    .bind (trap_traced r.dispatcher handlers _ _) fun _ => .quiet fun _ => rfl

theorem defaultHandlerResumes_traced : (defaultHandlerResumes hb).Traced l :=
  .bind (trap_traced r.dispatcher handlers _ _) fun _ => .quiet (.pure _)

theorem clearedSlotResumes_traced : (clearedSlotResumes hb).Traced l :=
  withHandler_traced _ _ <| .bind (.quiet (.slot _)) fun _ =>
    .bind (trap_traced r.dispatcher handlers _ _) fun _ => .quiet (.pure _)

theorem ecallContext_traced : (ecallContext hb).Traced l :=
  withHandler_traced _ _ <| .bind (trap_traced r.dispatcher handlers _ _) fun _ =>
    .quiet (.bind (l.lasting.printing _) fun _ => .bind .get fun _ => .pure _)

theorem machineTimer_traced : (machineTimer hb).Traced l := by
  have waits : (awaitHit hb SelfTest.spinLimit).Traced l := awaitHit_traced handlers _
  unfold machineTimer
  refine withHandler_traced _ _ ?_
  refine Traced.bind ?clear ?_
  case clear => exact .quiet (l.lasting.modifyBench _)
  intro _
  refine Traced.bind ?arm ?_
  case arm => exact .quiet (l.lasting.modifyBench _)
  intro _
  refine Traced.bind ?off ?_
  case off => exact .quiet (l.lasting.disableInterrupts _)
  intro _
  refine Traced.bind ?enable ?_
  case enable => exact .quiet (l.lasting.enableIrq _ _)
  intro _
  refine Traced.bind ?on ?_
  case on => exact .quiet (l.lasting.enableInterrupts _)
  intro _
  refine Traced.bind waits ?_
  intro _
  exact .quiet (.bind (l.lasting.disableInterrupts _) fun _ => .bind (l.lasting.disableIrq _ _)
    fun _ => .bind (l.lasting.modifyBench _) fun _ => .bind (l.lasting.restoreInterrupts _ _)
    fun _ => .bind .get fun _ => .pure _)

end

theorem cons_traced {c : TestCase} {cases : List TestCase} {hc : History primary c.run}
    {rest : ∀ t, History primary (TestCase.performAll cases t)} (first : hc.Traced l)
    (later : ∀ t, (rest t).Traced l) (t : Tally) : (cons hc rest t).Traced l :=
  .bind
    (.bind (.quiet (l.lasting.printing _)) fun _ => .bind first fun _ =>
      .quiet (.bind (l.lasting.printing _) fun _ => .pure _))
    later

theorem trapCases_traced {r : SelfTest.Rig} {hb : ∀ h, History primary (r.behaviour h)}
    (handlers : ∀ h, (hb h).Traced l) : ∀ t, (trapCases hb t).Traced l :=
  cons_traced (.quiet SelfTest.defaultTable_keeps) <|
  cons_traced (.quiet (SelfTest.trapVector_keeps r)) <|
  cons_traced installRejectsInvalid_traced <|
  cons_traced (illegalInstruction_traced handlers) <|
  cons_traced (breakpointTwice_traced handlers) <|
  cons_traced (defaultHandlerResumes_traced handlers) <|
  cons_traced (clearedSlotResumes_traced handlers) <|
  cons_traced (ecallContext_traced handlers) <|
  cons_traced (machineTimer_traced handlers) fun _ => .quiet (.pure _)

/-- The self tests, given the handlers. -/
theorem selfTest_traced {r : SelfTest.Rig} {hb : ∀ h, History primary (r.behaviour h)}
    (handlers : ∀ h, (hb h).Traced l) : (selfTest hb).Traced l :=
  .bind (.quiet (l.lasting.modifyBench _)) fun _ =>
    .bind (.quiet (SelfTest.consoleSuite_keeps l.lasting.printing _)) fun _ =>
    .bind (.bind (.quiet (l.lasting.printing _)) fun _ => .bind (trapCases_traced handlers _) fun _ =>
      .quiet (.bind (l.lasting.printing _) fun _ => .pure _)) fun t =>
    .quiet (.bind (t.printSummary_keeps l.lasting.printing) fun _ =>
      .ite (.bind (l.lasting.printing _) fun _ => .pure _)
        (.bind (l.lasting.printing _) fun _ => .pure _))

/-! ### Operations and scripted handlers -/

section

variable (s : Scenario)

theorem perform_traced {behaviour : Behaviour}
    {hb : ∀ h, History s.config.primaryHart (behaviour h)} (handlers : ∀ h, (hb h).Traced l)
    (op : Op) : (perform s hb op).Traced l := by
  cases op
  case setup entry handler =>
    exact .bind (setup_traced (s.dispatcher .readModifyWrite) entry handler) fun _ =>
      .quiet (.pure _)
  case start => exact .bind (start_traced s) fun _ => .quiet (.pure _)
  case install code slot =>
    exact .bind (install_traced code slot) fun
      | .ok () => .quiet (.pure _)
      | .error _ => .quiet (.pure _)
  case tableInstall code slot =>
    change (tableInstall s behaviour code slot).Traced l
    exact .writing rfl (Scenario.withCode_keeps
      (fun _ => .bind (.modify fun m => l.lasting.table m _) fun _ => .pure _) _)
  case tableFill handler =>
    change (tableFill s behaviour handler).Traced l
    exact .writing rfl (.bind (.modify fun m => l.lasting.table m _) fun _ => .pure _)
  case handleTrap =>
    exact .calling (fun _ => rfl) rfl (.bind (dispatch_traced _ handlers) fun _ => .quiet (.pure _))
  case trap event x => exact .bind (trap_traced _ handlers event x) fun _ => .quiet (.pure _)
  case selfTest =>
    exact .calling (fun _ => rfl) rfl (.bind (selfTest_traced handlers) fun _ => .quiet (.pure _))
  -- The direct operations do what the ledger says.
  case poke csr value => exact .alone (fun _ => rfl) fun m => l.poke m csr value
  case switchConsole available => exact .alone (fun _ => rfl) fun m => l.switch m available
  case writer text => exact .alone (fun _ => rfl) fun m => l.writer m text
  all_goals exact .calling (fun _ => rfl) rfl (.quiet (s.perform_keeps l.lasting behaviour _ rfl rfl))

theorem performAll_traced {behaviour : Behaviour}
    {hb : ∀ h, History s.config.primaryHart (behaviour h)} (handlers : ∀ h, (hb h).Traced l)
    (place : Nat) (ops : List Op) : (performAll s hb place ops).Traced l := by
  induction ops with
  | nil => exact .quiet (.pure _)
  | cons op ops ih =>
      exact .bind (perform_traced s handlers op) fun _ =>
        .bind (.quiet (.modify fun m => l.lasting.visits m _)) fun _ => ih

theorem handler_traced (d : Dispatcher) {scripts : Nat → Act Unit}
    {hs : ∀ number, History primary (scripts number)} (traced : ∀ number, (hs number).Traced l)
    (h : Handler) : (handler d hs h).Traced l := by
  cases h with
  | debug =>
      change Traced l (quiet d.debugHandler_keeps_table)
      exact .quiet (l.lasting.debugHandler d)
  | script number => exact traced number
  | probe which =>
      change Traced l (quiet (which.run_keeps_table d))
      exact .quiet (l.lasting.probe d which)

theorem runScript_traced (depth : Nat) : ∀ number, (runScript s depth number).Traced l := by
  induction depth with
  | zero => exact fun _ => .quiet (.stop _)
  | succ depth ih =>
      intro number
      refine .bind (.quiet ?visit) fun place => performAll_traced s (handler_traced s.native ih) place _
      exact .bind .get fun _ => .bind (.modify fun m => l.lasting.visits m _) fun _ => .pure _

/-- The ledger of an operation in a session, with all that its handlers do. -/
theorem session_traced (op : Op) : (session s op).Traced l :=
  perform_traced s (handler_traced s.native (runScript_traced s (s.nesting.depth + 1))) op

end

end History

end TrapDispatch
