import TrapDispatch.Proofs.RingContents
import TrapDispatch.Proofs.Settings

/-!
What each self test reaches, from any setting.

Two cases look at the setting that they find: whether every slot holds the debug handler, and whether
the trap vector is the entry. Every other case passes, or is skipped, whatever it finds. A case that
installs a handler leaves the debug handler in that slot, and otherwise at most the bench and one
interrupt enable are changed.

* `consoleCases_reach`: the cases of the console suite in a row.
* `withHandler_passes`: the frame around a check, shared by the cases that install a handler.
* `contains_illegalInstruction`: the report about an illegal instruction is found in its capture,
  however long the number of the hart is.
* `environmentCall_reaches`: a handler sees the registers of a call and changes one of them.
-/

namespace TrapDispatch

open Act

namespace SelfTest

variable {σ τ : Setting} {r : Rig}

/-! ### The console suite -/

theorem backendRegistered_reaches :
    Reaches σ backendRegistered (if σ.available then .pass else .skip) σ := by
  rintro m rfl
  refine ⟨m, ?_, rfl⟩
  change EStateM.Result.ok (if m.backend.isSome = true then Verdict.pass else .skip) m = _
  unfold Machine.backend Console.isAvailable Machine.setting
  cases m.recorder.available <;> rfl

theorem stringOutput_reaches : Reaches σ stringOutput .pass σ := by
  unfold stringOutput
  rw [printChars_eq]
  exact .bind (.print _) (.bind (.print _) (.pure _))

theorem hexOutput_reaches : Reaches σ hexOutput .pass σ :=
  .bind (.print _) (.bind (.print _) (.bind (.print _) (.bind (.print _) (.bind (.print _)
    (.pure _)))))

theorem logStyles_reaches : Reaches σ logStyles .pass σ :=
  .bind (.print _) (.bind (.print _) (.bind (.print _) (.bind (.print _) (.bind (.print _)
    (.pure _)))))

theorem captureWriter_reaches : Reaches σ captureWriter .pass σ := by
  have found : (((Capture.empty 128).puts ("PC=" ++ Hex.padded .upper 0x80000000#32)).putc
      0x21).contains "PC=0x80000000!" = true := by decide +kernel
  have ran : Reaches σ captureWriter _ σ := .pure _
  rwa [found] at ran

/-- The console suite changes nothing, and only a missing console is noticed. -/
theorem consoleCases_reach :
    CasesReach σ consoleSuite.cases
      [if σ.available then .pass else .skip, .pass, .pass, .pass, .pass] σ :=
  .cons backendRegistered_reaches <| .cons stringOutput_reaches <| .cons hexOutput_reaches <|
    .cons logStyles_reaches <| .cons captureWriter_reaches <| .nil σ

/-! ### Cases that look at the setting -/

theorem defaultTable_reaches :
    Reaches σ defaultTable (.ofBool (Code.all.all fun c => σ.table.get c = some .debug)) σ := by
  rintro m rfl
  exact ⟨m, rfl, rfl⟩

theorem trapVector_reaches :
    Reaches σ (trapVector r) (.ofBool (σ.trapVector = BitVec.ofNat 32 r.entry)) σ := by
  rintro m rfl
  exact ⟨m, rfl, rfl⟩

/-! ### Cases that install a handler -/

theorem allRefused_reaches {words : List Word}
    (invalid : ∀ w ∈ words, Code.ofBits w = .error ⟨w⟩) : Reaches σ (allRefused words) true σ := by
  induction words with
  | nil => exact .pure true
  | cons w words ih =>
      obtain ⟨first, rest⟩ := List.forall_mem_cons.mp invalid
      exact .bind (.install_invalid first _) (ih rest)

theorem installRejectsInvalid_reaches : Reaches σ installRejectsInvalid .pass σ := by
  have refused : Reaches σ (allRefused [0x40000007#32, 0x80000020#32, 0x00000100#32]) true σ := by
    apply allRefused_reaches
    simp only [List.forall_mem_cons]
    exact ⟨rfl, rfl, rfl, List.forall_mem_nil _⟩
  have ran : Reaches σ installRejectsInvalid (.ofBool (true &&
      decide (σ.table.get .machineTimer = σ.table.get .machineTimer))) σ :=
    .bind (.slot _) (.bind refused (.bind (.slot _) (.pure _)))
  rwa [decide_eq_true rfl] at ran

/-- A check that passes, between the install of its handler and that of the debug handler. -/
theorem withHandler_passes {c : Code} {slot : Option Handler} {check : Act Bool}
    (checked : Reaches (σ.install c slot) check true (τ.install c slot)) :
    Reaches σ (withHandler c slot check) .pass (τ.install c (some .debug)) := by
  have restored : (τ.install c slot).install c (some .debug) = τ.install c (some .debug) := by
    unfold Setting.install
    rw [VectorTable.install_install]
  rw [← restored]
  exact .bind (.install c slot) (.bind checked (.bind (.install c _) (.pure _)))

/-- The handler that is installed is the one that a trap of the code finds. -/
theorem get_install_cause (c : Code) (slot : Option Handler) :
    (σ.install c slot).table.get (Cause.code ⟨c.bits⟩) = slot := by
  have selected : Cause.code ⟨c.bits⟩ = c := Code.ofWord_bits c
  rw [selected, Setting.get_install]

/-- A trap that finds a probe does what the probe does. -/
theorem handles_probe (genuine : r.Genuine) {slot : Option Handler} {which : Probe} {cause : Word}
    (installed : slot = some (.probe which)) (ran : Handles σ cause (which.run r.dispatcher) τ) :
    Handles σ cause (Dispatcher.call r.behaviour slot) τ := by
  rw [installed]
  change Handles σ cause (r.behaviour (.probe which)) τ
  rwa [genuine.probe]

theorem hit_reaches : Reaches σ Act.hit () (σ.count (σ.bench.hits + 1)) :=
  .modify (g := fun σ => σ.count (σ.bench.hits + 1)) fun _ => rfl

theorem breakpointTwice_reaches (genuine : r.Genuine) :
    Reaches σ (breakpointTwice r) .pass ((σ.count 2).install .breakpoint (some .debug)) := by
  have counts : ∀ n, Handles ((σ.install .breakpoint (some (.probe .countHit))).count n)
      breakpoint.cause (Dispatcher.call r.behaviour
        ((σ.install .breakpoint (some (.probe .countHit))).table.get
          (Cause.code ⟨breakpoint.cause⟩)))
      ((σ.install .breakpoint (some (.probe .countHit))).count (n + 1)) := fun n =>
    handles_probe genuine (get_install_cause ..) (hit_reaches.handles _)
  exact withHandler_passes <|
    .bind .clearHits <| .trap (counts 0) fun _ => .trap (counts 1) fun _ => .bind .hits (.pure true)

theorem defaultHandlerResumes_reaches (genuine : r.Genuine)
    (debug : σ.table.get .breakpoint = some .debug) :
    Reaches σ (defaultHandlerResumes r) .pass σ := by
  refine .trap ?_ fun _ => .pure _
  have selected : Cause.code ⟨breakpoint.cause⟩ = .breakpoint := Code.ofWord_bits _
  rw [selected, debug]
  exact .debug genuine rfl (by decide)

theorem clearedSlotResumes_reaches (debug : σ.table.get .breakpoint = some .debug) :
    Reaches σ (clearedSlotResumes r) .pass σ := by
  refine .congr (withHandler_passes (τ := σ) ?_) (Setting.install_get debug)
  have empty : Handles (σ.install .breakpoint none) breakpoint.cause (Dispatcher.call r.behaviour
      ((σ.install .breakpoint none).table.get (Cause.code ⟨breakpoint.cause⟩)))
      (σ.install .breakpoint none) := by
    rw [show breakpoint.cause = Code.breakpoint.bits from rfl, get_install_cause]
    exact (Reaches.pure ()).handles _
  have cleared := Reaches.slot (σ := σ.install .breakpoint none) .breakpoint
  rw [Setting.get_install] at cleared
  exact .bind cleared (.trap empty fun _ => .pure true)

/-! ### The report about an illegal instruction -/

/-- Eight digits and their mark take at most forty bytes. -/
theorem length_bytes_padded_le (letters : Hex.LetterCase) (w : Word) :
    (Utf8.bytes (Hex.padded letters w)).length ≤ 40 := by
  have digits : (Hex.padded letters w).length = 10 := by
    unfold Hex.padded
    simp only [String.length_append, String.length_ofList, Hex.length_fixed]
    rfl
  have bytes := Utf8.length_bytes_le (Hex.padded letters w)
  rwa [digits] at bytes

/-- A fresh capture of the report about an illegal instruction contains its name and the mark of the
program counter, however many digits the number of the hart has. -/
theorem contains_illegalInstruction (h : Hart) (hasMtinst : Bool)
    (cause : h.csrs.cause = Code.illegalInstruction.bits) :
    ((Capture.empty captureCapacity).puts (h.diagnosticLine hasMtinst ++ " </RTE>\n")).contains
      "Illegal instruction @ PC=" = true := by
  have name : (Cause.name ⟨h.csrs.cause⟩).text = "Illegal instruction" := by
    rw [cause]
    rfl
  let before := "<RTE> [cpu" ++ toString h.csrs.hartId.toNat ++ "|" ++
    (if h.csrs.status.getLsbD 11 = true ∨ h.csrs.status.getLsbD 12 = true then "M" else "U") ++ "] "
  let rest := Hex.padded .upper h.csrs.resumeAddress ++
    (", MTINST=" ++ (Hex.padded .upper (h.printedInstruction hasMtinst) ++
      (", MTVAL=" ++ (Hex.padded .upper h.csrs.trapValue ++ " </RTE>\n"))))
  have line : h.diagnosticLine hasMtinst ++ " </RTE>\n" =
      before ++ ("Illegal instruction" ++ " @ PC=" ++ rest) := by
    unfold Hart.diagnosticLine
    rw [name]
    simp only [before, rest, String.append_assoc]
  have fits : (Utf8.bytes ("Illegal instruction" ++ " @ PC=" ++ rest)).length ≤ captureCapacity := by
    have resume := length_bytes_padded_le .upper h.csrs.resumeAddress
    have instruction := length_bytes_padded_le .upper (h.printedInstruction hasMtinst)
    have value := length_bytes_padded_le .upper h.csrs.trapValue
    have texts : (Utf8.bytes "Illegal instruction").length + (Utf8.bytes " @ PC=").length +
        (Utf8.bytes ", MTINST=").length + (Utf8.bytes ", MTVAL=").length +
        (Utf8.bytes " </RTE>\n").length = 50 := by decide +kernel
    simp only [rest, Utf8.bytes_append, List.length_append, captureCapacity]
    omega
  rw [line]
  exact Capture.contains_of_suffix fits (by decide) before

/-- What the reporting probe does on a fresh capture. -/
theorem reportToCapture_apply (d : Dispatcher) {m : Machine}
    (cause : m.hart.csrs.cause = Code.illegalInstruction.bits)
    (fresh : m.capture = .empty captureCapacity) :
    ∃ s, Probe.reportToCapture.run d m = .ok () s ∧
      s.setting = m.setting.count (m.bench.hits + 1) ∧
      s.capture.contains "Illegal instruction @ PC=" = true := by
  let counted : Machine := { m with bench := { m.bench with hits := m.bench.hits + 1 } }
  have recoverable : Cause.disposition ⟨counted.hart.csrs.cause⟩ = .recoverableException := by
    change Cause.disposition ⟨m.hart.csrs.cause⟩ = _
    rw [cause]
    rfl
  have enables := m.hart.reportedEnables_of_recoverable recoverable
  have ran : d.debugReport (some .capture) counted = .ok () (d.reported .capture counted) := by
    rw [Dispatcher.debugReport_apply, recoverable]
    rfl
  have captured : (d.reported .capture counted).capture =
      m.capture.puts (m.hart.diagnosticLine d.config.hasMtinst ++ " </RTE>\n") := by
    rw [Dispatcher.reported_eq, recoverable]
    rfl
  refine ⟨d.reported .capture counted, ran, ?_, ?_⟩
  · rw [Dispatcher.reported_eq, Machine.setting_printed]
    change Setting.mk _ _ _ m.hart.reportedEnables _ _ _ = _
    rw [enables]
    rfl
  · rw [captured, fresh]
    exact contains_illegalInstruction m.hart d.config.hasMtinst cause

theorem illegalInstruction_reaches (genuine : r.Genuine) :
    Reaches σ (illegalInstruction r) .pass
      ((σ.count 1).install .illegalInstruction (some .debug)) := by
  refine withHandler_passes ?_
  intro m start
  -- The capture is no part of the setting, so the check is followed on the machine itself.
  let cleared : Machine :=
    { m with capture := .empty captureCapacity, bench := { m.bench with hits := 0 } }
  let entered : Machine :=
    { cleared with hart := Dispatcher.enter unimplemented registers.hardwireZero m.hart }
  have installed : cleared.table.get (Cause.code ⟨unimplemented.cause⟩) =
      some (.probe .reportToCapture) := by
    rw [show cleared.table = m.setting.table from rfl, start]
    exact get_install_cause ..
  obtain ⟨s, ran, left, found⟩ := reportToCapture_apply r.dispatcher (m := entered) rfl rfl
  have called : Dispatcher.call r.behaviour (cleared.table.get (Cause.code ⟨unimplemented.cause⟩))
      entered = .ok () s := by
    rw [installed]
    change r.behaviour (.probe .reportToCapture) entered = .ok () s
    rw [genuine.probe, ran]
  have taken := r.dispatcher.takeTrap_returns r.behaviour called
  let final := r.dispatcher.advanced ⟨unimplemented.cause⟩ s
  have entry : entered.setting = m.setting.count 0 := cleared.setting_entered ..
  have setting : final.setting =
      (σ.count 1).install .illegalInstruction (some (.probe .reportToCapture)) := by
    rw [Machine.setting_advanced, left, entry, start]
    rfl
  have hits : final.bench.hits = 1 := congrArg (fun τ : Setting => τ.bench.hits) setting
  have answer : (decide (0 < final.bench.hits) &&
      final.capture.contains "Illegal instruction @ PC=") = true := by
    rw [hits, Dispatcher.advanced_capture, found]
    rfl
  refine ⟨final, ?_, setting⟩
  rw [← answer]
  exact bind_of_ok taken fun _ => do
    return 0 < (← Act.hits) && (← get).capture.contains "Illegal instruction @ PC="

/-! ### The environment call -/

/-- What the register probe does with a saved frame: it notes three registers and adds one to a
fourth. -/
theorem bumpA0_apply {d : Dispatcher} {base : Nat} {x : Frame} {m : Machine}
    (saved : Saved base x m)
    (width : d.config.frameRegisters = 16 ∨ d.config.frameRegisters = 32) :
    ∃ s, Probe.bumpA0.run d m = .ok () s ∧
      s.setting = m.setting.saw (x.select d.config.frameRegisters 0#32)
        (x.select d.config.frameRegisters (BitVec.ofNat 32 Frame.stackPointer))
        (x.select d.config.frameRegisters registerT2) ∧
      s.hart.memory.frame base = x.change d.config.frameRegisters (BitVec.ofNat 32 Frame.a0)
        (x.select d.config.frameRegisters (BitVec.ofNat 32 Frame.a0) + 1#32) := by
  let noted : Machine := { m with bench := { m.bench with
    seenZero := x.select d.config.frameRegisters 0#32
    seenStack := x.select d.config.frameRegisters (BitVec.ofNat 32 Frame.stackPointer)
    seenT2 := x.select d.config.frameRegisters registerT2 } }
  have kept : Saved base x noted := ⟨saved.scratch, saved.aligned, saved.frame⟩
  obtain ⟨memory, stored, left⟩ := kept.contextPut_apply width (BitVec.ofNat 32 Frame.a0)
    (x.select d.config.frameRegisters (BitVec.ofNat 32 Frame.a0) + 1#32)
  refine ⟨_, ?_, rfl, left.frame⟩
  refine (bind_of_ok (saved.contextGet_apply width _) _).trans ?_
  refine (bind_of_ok (saved.contextGet_apply width _) _).trans ?_
  refine (bind_of_ok (saved.contextGet_apply width _) _).trans ?_
  -- The notes are taken here; the frame is still saved.
  exact (bind_of_ok (kept.contextGet_apply width _) _).trans stored

/-- What a handler finds in the registers of the environment call, and what they are when it has added
one to `a0`. -/
theorem callRegisters_select {frameRegisters : Nat}
    (width : frameRegisters = 16 ∨ frameRegisters = 32) :
    let x := callRegisters.hardwireZero
    x.select frameRegisters 0#32 = 0#32 ∧
      x.select frameRegisters (BitVec.ofNat 32 Frame.stackPointer) = stackPointer ∧
      x.select frameRegisters registerT2 = t2Mark ∧
      (x.change frameRegisters (BitVec.ofNat 32 Frame.a0)
        (x.select frameRegisters (BitVec.ofNat 32 Frame.a0) + 1#32)).hardwireZero =
          callRegisters.set Frame.a0 42#32 := by
  rcases width with rfl | rfl
  · decide +kernel
  · decide +kernel

/-- The environment call comes back with one more in `a0` and all else as it was. -/
theorem environmentCall_reaches (genuine : r.Genuine)
    (width : r.dispatcher.config.frameRegisters = 16 ∨ r.dispatcher.config.frameRegisters = 32)
    (installed : σ.table.get (Cause.code ⟨environmentCall.cause⟩) = some (.probe .bumpA0)) :
    Reaches σ (r.trap environmentCall callRegisters) (callRegisters.set Frame.a0 42#32)
      (σ.saw 0#32 stackPointer t2Mark) := by
  rintro m rfl
  let entered : Machine :=
    { m with hart := Dispatcher.enter environmentCall callRegisters.hardwireZero m.hart }
  have saved := Dispatcher.saved_enter environmentCall callRegisters.hardwireZero
    (by decide +kernel) m
  obtain ⟨s, ran, left, frame⟩ := bumpA0_apply (d := r.dispatcher) saved width
  have called : Dispatcher.call r.behaviour (m.table.get (Cause.code ⟨environmentCall.cause⟩))
      entered = .ok () s := by
    rw [show m.table = m.setting.table from rfl, installed]
    change r.behaviour (.probe .bumpA0) entered = .ok () s
    rw [genuine.probe, ran]
  have taken := r.dispatcher.takeTrap_returns r.behaviour called
  obtain ⟨zero, stack, t2, answer⟩ := callRegisters_select width
  rw [← Dispatcher.frameBase_hardwireZero, frame, answer] at taken
  rw [zero, stack, t2] at left
  exact ⟨_, taken, (Machine.setting_advanced ..).trans left⟩

theorem ecallContext_reaches (genuine : r.Genuine)
    (width : r.dispatcher.config.frameRegisters = 16 ∨ r.dispatcher.config.frameRegisters = 32) :
    Reaches σ (ecallContext r) .pass
      ((σ.saw 0#32 stackPointer t2Mark).install .machineEnvCall (some .debug)) := by
  refine withHandler_passes ?_
  have trap := environmentCall_reaches (σ := σ.install .machineEnvCall (some (.probe .bumpA0)))
    genuine width (get_install_cause ..)
  refine .bind trap (.bind (.print _) (.get fun m start => ?_))
  have a0 : (callRegisters.set Frame.a0 42#32).get ⟨Frame.a0, by decide⟩ = 42#32 := by
    decide +kernel
  have kept : (callRegisters.set Frame.a0 42#32)[7] = t2Mark := by decide +kernel
  have noted : m.bench.seenZero = 0#32 ∧ m.bench.seenStack = stackPointer ∧
      m.bench.seenT2 = t2Mark := by
    have bench : m.bench = m.setting.bench := rfl
    rw [bench, start]
    exact ⟨rfl, rfl, rfl⟩
  obtain ⟨zero, stack, t2⟩ := noted
  simp only [a0, kept, zero, stack, t2, decide_true, Bool.and_self]
  exact .pure true

end SelfTest

end TrapDispatch
