import TrapDispatch.Proofs.CaptureSearch
import TrapDispatch.Proofs.LineDecoding

/-!
A capture of 256 bytes takes the line of any report.

* `Utf8.Narrow`: a text of one byte a character and of bounded length. In such a text the bytes of
  another text occur just where its characters do.
* `Report.narrow_text`: the longest line has 147 characters.
* `Capture.KeepsLine`: what it means that nothing of a line is lost.
* `capture_keeps_report`: a capture shows what a recorder without bounds is given, all of it if it has
  256 cells and its end otherwise.
-/

namespace TrapDispatch

namespace Utf8

/-! ### Text of one byte a character -/

/-- Every character takes one byte. -/
def OneByte (cs : List Char) : Prop := ∀ c ∈ cs, c.utf8Size = 1

-- The characters are looked at one by one, not all characters there are.
instance : DecidablePred OneByte := List.decidableBAll fun c : Char => c.utf8Size = 1

theorem flatMap_of_oneByte {cs : List Char} (oneByte : OneByte cs) :
    cs.flatMap String.utf8EncodeChar = cs.map fun c => c.val.toUInt8 := by
  induction cs with
  | nil => rfl
  | cons c cs ih =>
      obtain ⟨first, later⟩ := List.forall_mem_cons.mp oneByte
      rw [List.flatMap_cons, List.map_cons, ih later, String.utf8EncodeChar_eq_singleton first]
      rfl

theorem length_bytes_of_oneByte {s : String} (oneByte : OneByte s.toList) :
    (bytes s).length = s.toList.length := by
  unfold bytes
  rw [flatMap_of_oneByte oneByte, List.length_map]

/-- Characters that stand side by side have their bytes side by side. -/
theorem bytes_infix_of_infix {s t : String} (occurs : s.toList <:+: t.toList) :
    bytes s <:+: bytes t := by
  obtain ⟨before, after, equal⟩ := occurs
  unfold bytes
  rw [← equal, List.flatMap_append, List.flatMap_append]
  exact List.infix_append ..

/-- **Searching bytes is searching characters** in a text of one byte a character, whatever text is
searched for: no byte of it begins in the middle of a character. -/
theorem bytes_infix_iff {s t : String} (oneByte : OneByte t.toList) :
    bytes s <:+: bytes t ↔ s.toList <:+: t.toList := by
  refine ⟨fun occurs => ?_, bytes_infix_of_infix⟩
  have encoded : bytes t = t.toList.map fun c => c.val.toUInt8 := flatMap_of_oneByte oneByte
  rw [encoded, List.infix_map_iff] at occurs
  obtain ⟨found, within, same⟩ := occurs
  have narrow : OneByte found := fun c member => oneByte c (within.subset member)
  have text : s = String.ofList found := by
    apply bytes_injective
    unfold bytes
    rw [String.toList_ofList, flatMap_of_oneByte narrow]
    exact same
  rwa [text, String.toList_ofList]

/-! ### Text of bounded length -/

/-- A text of one byte a character, and of no more characters than this. -/
structure Narrow (s : String) (width : Nat) : Prop where
  oneByte : OneByte s.toList
  length_le : s.toList.length ≤ width

namespace Narrow

variable {s t : String} {width width' : Nat}

instance (s : String) (width : Nat) : Decidable (Narrow s width) :=
  decidable_of_iff (OneByte s.toList ∧ s.toList.length ≤ width)
    ⟨fun h => ⟨h.1, h.2⟩, fun h => ⟨h.oneByte, h.length_le⟩⟩

theorem append (left : Narrow s width) (right : Narrow t width') :
    Narrow (s ++ t) (width + width') where
  oneByte := by
    rw [String.toList_append]
    exact List.forall_mem_append.mpr ⟨left.oneByte, right.oneByte⟩
  length_le := by
    rw [String.toList_append, List.length_append]
    exact Nat.add_le_add left.length_le right.length_le

theorem mono (narrow : Narrow s width) (more : width ≤ width') : Narrow s width' :=
  ⟨narrow.oneByte, Nat.le_trans narrow.length_le more⟩

theorem length_bytes_le (narrow : Narrow s width) : (bytes s).length ≤ width := by
  rw [length_bytes_of_oneByte narrow.oneByte]
  exact narrow.length_le

end Narrow

end Utf8

open Utf8

/-! ### The fields of a line -/

/-- A decimal number of a word has ten digits at most. -/
theorem Word.narrow_decimal (w : Word) : Narrow (toString w.toNat) 10 := by
  have digits : (toString w.toNat).toList = Nat.toDigits 10 w.toNat := by
    rw [Nat.toString_eq_repr, Nat.toList_repr]
  have bound : w.toNat < 10 ^ 10 := Nat.lt_trans w.isLt (by decide)
  constructor
  case oneByte =>
    intro c member
    rw [digits] at member
    have digit : c.isDigit = true := Nat.isDigit_of_mem_toDigits (by decide) (by decide) member
    rw [Char.isDigit_iff_toNat] at digit
    rw [Char.utf8Size_eq_one_iff, UInt32.le_iff_toNat_le]
    exact Nat.le_trans digit.2 (by decide)
  case length_le =>
    rw [digits]
    exact (Nat.length_toDigits_le_iff (by decide) (by decide)).mpr bound

namespace Hex

theorem utf8Size_digit : ∀ d : Fin 16, (digit .upper d).utf8Size = 1 := by decide

theorem oneByte_mark : OneByte "0x".toList := by decide +kernel

theorem narrow_padded (w : Word) : Narrow (padded .upper w) 10 := by
  refine ⟨?_, Nat.le_of_eq (length_padded w)⟩
  rw [toList_padded]
  refine List.forall_mem_append.mpr ⟨oneByte_mark, fun c member => ?_⟩
  obtain ⟨d, equal⟩ := mem_fixed member
  rw [equal, utf8Size_digit d]

theorem narrow_plain (d : Fin 16) : Narrow (plain .upper d.val) 3 := by
  have mark : "0x".toList.length = 2 := by decide +kernel
  constructor
  case oneByte =>
    rw [toList_plain_of_lt]
    exact List.forall_mem_append.mpr
      ⟨oneByte_mark, List.forall_mem_singleton.mpr (utf8Size_digit d)⟩
  case length_le =>
    rw [toList_plain_of_lt, List.length_append, mark]
    exact Nat.le_refl 3

end Hex

namespace Cause

/-- No name is longer than the longest title. -/
theorem narrow_name (c : Cause) : Narrow c.name.text 30 := by
  cases c.named with
  | title _ titled name =>
      have each : ∀ code ∈ Code.titled, ∀ title ∈ code.title, Narrow title 30 := by decide +kernel
      rw [name]
      exact each c.code (Code.mem_titled titled) _ titled
  | fastIrq channel _ _ _ name =>
      have words : Narrow "Fast IRQ " 9 := by decide +kernel
      rw [name]
      exact (words.append (Hex.narrow_plain channel)).mono (by decide)
  | unknown name =>
      have words : Narrow "Unknown trap cause " 19 := by decide +kernel
      rw [name]
      exact (words.append (Hex.narrow_padded c.bits)).mono (by decide)

end Cause

theorem Disposition.narrow_closing (d : Disposition) : Narrow d.closing 40 := by
  cases d with
  | unhandledInterrupt => decide +kernel
  | recoverableException => decide +kernel
  | fatalException => decide +kernel

namespace Report

variable (r : Report)

theorem narrow_privilege : Narrow r.privilege 1 := by
  unfold privilege
  split
  · decide +kernel
  · decide +kernel

/-- The widest line is about a misaligned fetch on a hart whose number has ten digits. -/
theorem narrow_text : Narrow r.text 147 := by
  have begins : Narrow "<RTE> [cpu" 10 := by decide +kernel
  have bar : Narrow "|" 1 := by decide +kernel
  have bracket : Narrow "] " 2 := by decide +kernel
  have place : Narrow " @ PC=" 6 := by decide +kernel
  have instruction : Narrow ", MTINST=" 9 := by decide +kernel
  have value : Narrow ", MTVAL=" 8 := by decide +kernel
  have hart := ((begins.append r.hart.narrow_decimal).append bar).append r.narrow_privilege
  have cause := (hart.append bracket).append r.cause.narrow_name
  have resume := (cause.append place).append (Hex.narrow_padded r.resume)
  have fetched := (resume.append instruction).append (Hex.narrow_padded r.instruction)
  have opening := (fetched.append value).append (Hex.narrow_padded r.value)
  exact opening.append r.cause.disposition.narrow_closing

/-! The bound is reached. -/

example : (Report.text ⟨0xffffffff#32, true, ⟨0#32⟩, 0#32, 0#32, 0#32⟩).length = 147 := by
  decide +kernel

end Report

/-! ### Nothing is lost -/

namespace Capture

/-- Text in pieces is captured as the text that the pieces make. -/
theorem foldl_puts (c : Capture) (pieces : List String) :
    pieces.foldl puts c = c.puts (String.join pieces) := by
  induction pieces generalizing c with
  | nil => rfl
  | cons piece pieces ih =>
      rw [List.foldl_cons, ih (c.puts piece), String.join_cons, puts_append]

/-- A capture of `n` bytes that was given a line and has lost nothing of it. -/
structure KeepsLine (c : Capture) (n : Nat) (line : String) : Prop where
  contents_eq : c.contents = bytes line
  length_eq : c.length = (bytes line).length
  contains_iff (s : String) : c.contains s = true ↔ s.toList <:+: line.toList
  /-- At no time has a byte taken the place of another one. -/
  whole (written : List Byte) (earlier : written <+: bytes line) :
    ((Ring.empty n).pushAll written).toList = written
  /-- It does not matter in which pieces the line came. -/
  pieces (pieces : List String) (joined : String.join pieces = line) :
    pieces.foldl puts (.empty n) = c

theorem holds_puts_empty {n : Nat} (positive : 1 ≤ n) (line : String) :
    ((empty n).puts line).ring.Holds ((bytes line).rtake n) := by
  have holds := (Ring.holds_empty positive).pushAll (bytes line)
  rwa [List.nil_append, List.length_nil, Nat.zero_add, Ring.capacity_empty] at holds

theorem finds_puts_empty {n : Nat} (positive : 1 ≤ n) (line : String) :
    ((empty n).puts line).Finds n ((bytes line).rtake n) := by
  have finds := finds_of_holds (holds_puts_empty positive line)
  have size : ((empty n).puts line).ring.capacity = n := by
    rw [puts, ← Ring.applyAll_pushes, Ring.capacity_applyAll]
    exact Ring.capacity_empty n
  rwa [size] at finds

/-- A narrow line is kept as soon as there is a cell for each of its characters. -/
theorem keepsLine_of_narrow {n width : Nat} {line : String} (positive : 1 ≤ n)
    (narrow : Narrow line width) (room : width ≤ n) : ((empty n).puts line).KeepsLine n line := by
  have fits : (bytes line).length ≤ n := Nat.le_trans narrow.length_bytes_le room
  have all {written : List Byte} (within : written.length ≤ n) :
      ((Ring.empty n).pushAll written).toList = written := by
    rw [Ring.toList_pushAll_empty positive, Nat.sub_eq_zero_of_le within, List.drop_zero]
  have contents : ((empty n).puts line).contents = bytes line := all fits
  constructor
  case contents_eq => exact contents
  case length_eq =>
    have counted := (finds_puts_empty positive line).length_eq
    rwa [List.rtake, Nat.sub_eq_zero_of_le fits, List.drop_zero] at counted
  case contains_iff =>
    intro s
    rw [Capture.contains_iff, contents, bytes_infix_iff narrow.oneByte]
  case whole =>
    intro written earlier
    exact all (Nat.le_trans earlier.length_le fits)
  case pieces =>
    intro pieces joined
    rw [foldl_puts, joined]

end Capture

namespace Dispatcher

/-- **No diagnostic text is lost in a capture of 256 bytes.** Take the line that a report sends to a
recorder without bounds, on any machine and whether the report returns or halts. It has 256 bytes at
most, and the same report on a fresh capture ends in the same way and leaves the hart the same. With
256 cells the capture keeps the whole line, never overwrites a byte, and finds a text just if it
occurs in the line, in whatever pieces the line was written. With any number of cells it keeps the
end of the line, as many bytes as there are cells. -/
theorem capture_keeps_report (d : Dispatcher) (m : Machine) :
    let recorded := (d.debugReport (some .registered)).outcome { m with recorder := ⟨true, ""⟩ }
    let captured := fun n => (d.debugReport (some .capture)).outcome { m with capture := .empty n }
    let line := recorded.2.recorder.text
    (recorded.1 = .ok () ∨ recorded.1 = .error .halted) ∧ (bytes line).length ≤ 256 ∧
      (captured 256).2.capture.KeepsLine 256 line ∧
      ∀ n, 1 ≤ n →
        Capture.ofCapacity n = .ok (.empty n) ∧
        (captured n).1 = recorded.1 ∧ (captured n).2.hart = recorded.2.hart ∧
        (captured n).2.capture.contents = (bytes line).rtake n ∧
        (captured n).2.capture.length = min n (bytes line).length ∧
        (captured n).2.capture.Finds n ((bytes line).rtake n) := by
  intro recorded captured line
  have recorded_eq : recorded = _ :=
    d.debugReport_outcome (c := .registered) (m := { m with recorder := ⟨true, ""⟩ }) rfl
  have captured_eq (n : Nat) : captured n = _ :=
    d.debugReport_outcome (c := .capture) (m := { m with capture := .empty n }) rfl
  have line_eq : line = (d.reportOf m.hart).text := by
    change recorded.2.recorder.text = _
    rw [recorded_eq]
    exact String.empty_append
  have capture_eq (n : Nat) : (captured n).2.capture = (Capture.empty n).puts line := by
    rw [captured_eq, line_eq]
    rfl
  have narrow : Narrow line 147 := by
    rw [line_eq]
    exact (d.reportOf m.hart).narrow_text
  refine ⟨?ends, Nat.le_trans narrow.length_bytes_le (by decide), ?whole, fun n positive => ?cells⟩
  case ends =>
    rw [recorded_eq]
    by_cases fatal : Cause.disposition ⟨m.hart.csrs.cause⟩ = .fatalException
    · exact .inr (if_pos fatal)
    · exact .inl (if_neg fatal)
  case whole =>
    rw [capture_eq]
    exact Capture.keepsLine_of_narrow (by decide) narrow (by decide)
  case cells =>
    have finds := Capture.finds_puts_empty positive line
    have contents := Capture.contents_eq (Capture.holds_puts_empty positive line)
    rw [capture_eq]
    refine ⟨Capture.ofCapacity_eq_ok positive, ?same, ?hart, contents, ?length, finds⟩
    case same =>
      rw [captured_eq, recorded_eq]
    case hart =>
      rw [captured_eq, recorded_eq]
      rfl
    case length =>
      rw [finds.length_eq, List.rtake, List.length_drop]
      omega

/-- A fetch from a misaligned address on the last of all harts. -/
def misalignedFetch : Machine := .start (Hart.initial 0xffffffff#32) .empty true

/-- The widest line there is halts its hart, and four cells show its end. -/
theorem capture_keeps_report_widest :
    let d : Dispatcher := ⟨.readModifyWrite, Config.default⟩
    let captured := (d.debugReport (some .capture)).outcome
      { misalignedFetch with capture := .empty 4 }
    1 ≤ 4 ∧ captured.1 = .error .halted ∧ captured.2.capture.contents = bytes "TE>\n" ∧
      captured.2.capture.contains "FATAL" = false := by
  intro d captured
  let recorded := (d.debugReport (some .registered)).outcome
    { misalignedFetch with recorder := ⟨true, ""⟩ }
  obtain ⟨-, -, -, cells⟩ := d.capture_keeps_report misalignedFetch
  obtain ⟨-, same, -, contents, -, finds⟩ := cells 4 (by decide)
  have ends : (bytes recorded.2.recorder.text).rtake 4 = bytes "TE>\n" := by decide +kernel
  refine ⟨by decide, ?halts, contents.trans ends, finds.longer "FATAL" ?longer⟩
  case halts =>
    exact same.trans (by rfl)
  case longer =>
    rw [ends]
    decide +kernel

end Dispatcher

end TrapDispatch
