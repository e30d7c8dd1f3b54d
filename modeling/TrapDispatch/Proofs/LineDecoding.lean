import TrapDispatch.Proofs.CauseNames
import TrapDispatch.Proofs.DiagnosticLine
import TrapDispatch.Proofs.RingContents

/-!
A line of the debug report tells the trap that it is about: no two traps print the same line.

The line is read from the left. Each field ends at a character that it cannot contain, or has a fixed
width, so it is cut off the line without looking at what follows.

* `Report.text_injective`: the whole line, field by field.
* `Act.Prints`: what an action prints, as opposed to what a console keeps of it.
* `same_line_same_trap`: two reports that print the same text show the same trap and end the same
  way.
-/

namespace TrapDispatch

/-! ### Cutting a field off a text -/

/-- A field ends at the first character that it cannot contain. -/
theorem cut_at {field field' rest rest' : List Char} {mark : Char} (free : mark ∉ field)
    (free' : mark ∉ field') (same : field ++ mark :: rest = field' ++ mark :: rest') :
    field = field' ∧ rest = rest' := by
  induction field generalizing field' with
  | nil =>
      cases field' with
      | nil => exact ⟨rfl, (List.cons.inj same).2⟩
      | cons c cs =>
          obtain ⟨first, -⟩ := List.cons.inj same
          exact absurd (first ▸ List.mem_cons_self) free'
  | cons c cs ih =>
      cases field' with
      | nil =>
          obtain ⟨first, -⟩ := List.cons.inj same
          exact absurd (first ▸ List.mem_cons_self) free
      | cons c' cs' =>
          obtain ⟨first, later⟩ := List.cons.inj same
          obtain ⟨tail, after⟩ := ih (fun member => free (List.mem_cons_of_mem c member))
            (fun member => free' (List.mem_cons_of_mem c' member)) later
          exact ⟨by rw [first, tail], after⟩

/-- A number is known by its decimal digits. -/
theorem toDigits_ten_injective : Function.Injective (Nat.toDigits 10) := by
  intro n m same
  have read := congrArg (Nat.ofDigitChars 10 · 0) same
  rwa [Nat.ofDigitChars_ten_toDigits, Nat.ofDigitChars_ten_toDigits] at read

/-- A character that is no digit does not occur in a decimal number. -/
theorem notMem_toDigits_ten {c : Char} (other : c.isDigit = false) (n : Nat) :
    c ∉ Nat.toDigits 10 n := by
  intro member
  rw [Nat.isDigit_of_mem_toDigits (by decide) (by decide) member] at other
  cases other

/-! ### The line -/

namespace Report

theorem length_privilege (r : Report) : r.privilege.toList.length = 1 := by
  unfold privilege
  split
  · decide +kernel
  · decide +kernel

/-- The line as it is cut. -/
theorem toList_text (r : Report) : r.text.toList =
    "<RTE> [cpu".toList ++ (Nat.toDigits 10 r.hart.toNat ++ '|' :: (r.privilege.toList ++
      ("] ".toList ++ ((r.cause.name.text.toList ++ [' ']) ++ '@' :: (" PC=".toList ++
        ((Hex.padded .upper r.resume).toList ++ (", MTINST=".toList ++
          ((Hex.padded .upper r.instruction).toList ++ (", MTVAL=".toList ++
            ((Hex.padded .upper r.value).toList ++ r.cause.disposition.closing.toList)))))))))) := by
  have bar : "|".toList = ['|'] := by decide +kernel
  have place : " @ PC=".toList = ' ' :: '@' :: " PC=".toList := by decide +kernel
  unfold text opening
  simp only [String.toList_append, bar, place, Nat.toString_eq_repr, Nat.toList_repr,
    List.append_assoc, List.cons_append, List.nil_append]

theorem machineMode_of_privilege {r s : Report} (same : r.privilege = s.privilege) :
    r.machineMode = s.machineMode := by
  have differ : "M" ≠ "U" := by decide +kernel
  unfold privilege at same
  split at same
  · rename_i mode
    split at same
    · rename_i mode'
      rw [mode, mode']
    · exact absurd same differ
  · rename_i mode
    split at same
    · exact absurd same.symm differ
    · rename_i mode'
      rw [Bool.not_eq_true] at mode mode'
      rw [mode, mode']

/-- **The line of a report tells the report.** -/
theorem text_injective : Function.Injective Report.text := by
  intro r s same
  have line := congrArg String.toList same
  rw [toList_text, toList_text] at line
  have free (r : Report) : '@' ∉ r.cause.name.text.toList ++ [' '] := by
    rw [List.mem_append, not_or]
    exact ⟨r.cause.at_notMem_name, by decide⟩
  have width (v w : Word) : (Hex.padded .upper v).toList.length = (Hex.padded .upper w).toList.length := by
    rw [Hex.length_padded, Hex.length_padded]
  obtain ⟨digits, line⟩ := cut_at (notMem_toDigits_ten (by decide) _)
    (notMem_toDigits_ten (by decide) _) (List.append_cancel_left line)
  obtain ⟨letter, line⟩ :=
    List.append_inj line (r.length_privilege.trans s.length_privilege.symm)
  obtain ⟨name, line⟩ := cut_at (free r) (free s) (List.append_cancel_left line)
  obtain ⟨resume, line⟩ := List.append_inj (List.append_cancel_left line) (width _ _)
  obtain ⟨instruction, line⟩ := List.append_inj (List.append_cancel_left line) (width _ _)
  obtain ⟨value, -⟩ := List.append_inj (List.append_cancel_left line) (width _ _)
  have word {v w : Word} (same : (Hex.padded .upper v).toList = (Hex.padded .upper w).toList) :
      v = w := Hex.padded_injective .upper (String.toList_injective same)
  have hart : r.hart = s.hart := BitVec.eq_of_toNat_eq (toDigits_ten_injective digits)
  have mode : r.machineMode = s.machineMode :=
    machineMode_of_privilege (String.toList_injective letter)
  have cause : r.cause = s.cause :=
    Cause.text_name_injective (String.toList_injective (List.append_cancel_right name))
  cases r
  cases s
  rw [Report.mk.injEq]
  exact ⟨hart, mode, cause, word resume, word instruction, word value⟩

end Report

/-! ### What an action prints -/

/-- A text is known by its bytes. -/
theorem Utf8.bytes_injective : Function.Injective Utf8.bytes := by
  intro s t same
  rw [bytes_eq_toByteArray, bytes_eq_toByteArray] at same
  exact String.toByteArray_inj.mp (ByteArray.ext (Array.toList_inj.mp same))

namespace Act

variable {α : Type}

/-- The action prints a text on a console: the console takes this text and no console takes anything
else, whatever they hold already. -/
def Prints (x : Act α) (c : Console) (text : String) (m : Machine) : Prop :=
  ∀ (recorded : String) (capture : Capture),
    let start : Machine := { m with recorder := { m.recorder with text := recorded }, capture }
    let after := (x.outcome start).2
    after.recorder = (c.puts text start).recorder ∧ after.capture = (c.puts text start).capture

/-- There is one text at most that an action prints. On a capture console it shows as soon as there
is room for it. -/
theorem Prints.unique {x : Act α} {c : Console} {m : Machine} {s t : String}
    (available : c.isAvailable m = true) (first : x.Prints c s m) (second : x.Prints c t m) :
    s = t := by
  cases c with
  | registered =>
      have recorders := (first "" m.capture).1.symm.trans (second "" m.capture).1
      exact (String.append_right_inj "").mp (congrArg Recorder.text recorders)
  | capture =>
      let room := (Utf8.bytes s).length + (Utf8.bytes t).length + 1
      have positive : 0 < room := Nat.zero_lt_succ _
      have captures := (first "" (.empty room)).2.symm.trans (second "" (.empty room)).2
      have contents : ((Ring.empty room).pushAll (Utf8.bytes s)).toList =
          ((Ring.empty room).pushAll (Utf8.bytes t)).toList := congrArg Capture.contents captures
      have all (u : String) (fits : (Utf8.bytes u).length ≤ room) :
          ((Ring.empty room).pushAll (Utf8.bytes u)).toList = Utf8.bytes u := by
        rw [Ring.toList_pushAll_empty positive, Nat.sub_eq_zero_of_le fits, List.drop_zero]
      rw [all s (by omega), all t (by omega)] at contents
      exact Utf8.bytes_injective contents
  | offline => cases available

end Act

namespace Dispatcher

/-- A report on an available console halts exactly for the fatal causes. -/
theorem debugReport_outcome (d : Dispatcher) {c : Console} {m : Machine}
    (available : c.isAvailable m = true) :
    (d.debugReport (some c)).outcome m =
      (if Cause.disposition ⟨m.hart.csrs.cause⟩ = .fatalException then .error .halted else .ok (),
        d.reported c m) := by
  have equation := d.debugReport_apply c m
  rw [if_pos available] at equation
  split at equation
  · rename_i fatal
    rw [Act.outcome_of_error equation, if_pos fatal]
  · rename_i harmless
    rw [Act.outcome_of_ok equation, if_neg harmless]

/-- A report prints its line. -/
theorem debugReport_prints (d : Dispatcher) {c : Console} {m : Machine}
    (available : c.isAvailable m = true) :
    (d.debugReport (some c)).Prints c (d.reportOf m.hart).text m := by
  intro recorded capture start after
  have listening : c.isAvailable start = true := by
    cases c with
    | registered => exact available
    | capture => rfl
    | offline => cases available
  have left : after = d.reported c start := congrArg Prod.snd (d.debugReport_outcome listening)
  rw [left]
  exact ⟨rfl, rfl⟩

/-- **The line of a report tells the trap.** A report on an available console prints one text. If two
reports print the same text, on whatever consoles and whether or not their cores have a register for
the trapped instruction, then they are about the same hart and the same previous privilege, the same
cause in all of its bits, the same resume address, the same instruction as printed and the same trap
value, and either both return or both halt. In particular no two causes have the same name. -/
theorem same_line_same_trap :
    (∀ (d : Dispatcher) (c : Console) (m : Machine), c.isAvailable m = true →
      ∃! text, (d.debugReport (some c)).Prints c text m) ∧
    (∀ (d d' : Dispatcher) (c c' : Console) (m m' : Machine) (text : String),
      c.isAvailable m = true → c'.isAvailable m' = true →
      (d.debugReport (some c)).Prints c text m → (d'.debugReport (some c')).Prints c' text m' →
        m.hart.csrs.hartId = m'.hart.csrs.hartId ∧
        (m.hart.csrs.status &&& machinePrivilege ≠ 0#32 ↔
          m'.hart.csrs.status &&& machinePrivilege ≠ 0#32) ∧
        m.hart.csrs.cause = m'.hart.csrs.cause ∧
        m.hart.csrs.resumeAddress = m'.hart.csrs.resumeAddress ∧
        m.hart.printedInstruction d.config.hasMtinst =
          m'.hart.printedInstruction d'.config.hasMtinst ∧
        m.hart.csrs.trapValue = m'.hart.csrs.trapValue ∧
        ((d.debugReport (some c)).outcome m).1 = ((d'.debugReport (some c')).outcome m').1) ∧
    Function.Injective fun cause : Cause => cause.name.text := by
  refine ⟨?one, ?same, Cause.text_name_injective⟩
  case one =>
    intro d c m available
    exact ⟨_, d.debugReport_prints available,
      fun _ prints => prints.unique available (d.debugReport_prints available)⟩
  case same =>
    intro d d' c c' m m' text available available' prints prints'
    have line := prints.unique available (d.debugReport_prints available)
    have line' := prints'.unique available' (d'.debugReport_prints available')
    have reports : d.reportOf m.hart = d'.reportOf m'.hart :=
      Report.text_injective (line.symm.trans line')
    have cause : m.hart.csrs.cause = m'.hart.csrs.cause :=
      congrArg (·.cause.bits) reports
    have instruction : d.shownInstruction m.hart = d'.shownInstruction m'.hart :=
      congrArg Report.instruction reports
    rw [shownInstruction_eq, shownInstruction_eq] at instruction
    refine ⟨congrArg Report.hart reports, ?_, cause, congrArg Report.resume reports, instruction,
      congrArg Report.value reports, ?_⟩
    · exact decide_eq_decide.mp (congrArg Report.machineMode reports)
    · rw [d.debugReport_outcome available, d'.debugReport_outcome available', cause]

/-! A core that reports the trapped instruction, and one that leaves it in memory. -/

/-- An instruction that no core implements, at address `0x102`. -/
def reportedFault : Machine := .start
  { Hart.initial 1#32 with csrs := { Csrs.initial 1#32 with
    cause := 2#32, resumeAddress := 0x102#32, trappedInstruction := 0xc000#32 } } .empty true

/-- The same, where the instruction is the upper half of the word at `0x100`. -/
def fetchedFault : Machine := .start
  { Hart.initial 1#32 with
    csrs := { Csrs.initial 1#32 with cause := 2#32, resumeAddress := 0x102#32 }
    memory := Memory.empty.write 0x100 0xc0001073#32 } .empty false

theorem same_line_same_trap_two_sources :
    (∃ text,
      (Dispatcher.debugReport ⟨.readModifyWrite, Config.default⟩ (some .registered)).Prints
        .registered text reportedFault ∧
      (Dispatcher.debugReport ⟨.bitInstructions, { Config.default with hasMtinst := false }⟩
        (some .capture)).Prints .capture text fetchedFault) ∧
    reportedFault.hart.printedInstruction true = fetchedFault.hart.printedInstruction false := by
  let d : Dispatcher := ⟨.readModifyWrite, Config.default⟩
  let d' : Dispatcher := ⟨.bitInstructions, { Config.default with hasMtinst := false }⟩
  have prints := d.debugReport_prints (c := .registered) (m := reportedFault) rfl
  have prints' := d'.debugReport_prints (c := .capture) (m := fetchedFault) rfl
  have reports : d.reportOf reportedFault.hart = d'.reportOf fetchedFault.hart := by decide +kernel
  rw [← reports] at prints'
  obtain ⟨-, -, -, -, instruction, -⟩ :=
    same_line_same_trap.2.1 d d' .registered .capture _ _ _ rfl rfl prints prints'
  exact ⟨⟨_, prints, prints'⟩, instruction⟩

end Dispatcher

end TrapDispatch
