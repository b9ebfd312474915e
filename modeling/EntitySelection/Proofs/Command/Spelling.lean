import EntitySelection.Command.Arguments
import EntitySelection.Named

/-!
# Arguments that are spelled out

**Theorem (`read_spelled`).** Every dataset, predicate file, id field, output and log level is asked
for by some command line: the values are written into their switches and the operands come after the
mark, so that none of them is taken for a switch, whatever it is made of.

A switch with its value is one word (`ofArgument_attached`), and taking the word puts the value into
the arguments (`takeAll_attached`).
-/

namespace EntitySelection.Command

variable {name : String} {sw : Switch}

/-! ## Words -/

theorem shape_of_named : ∀ p ∈ Switch.named,
    p.1.toList.head? = some '-' ∧ 1 < p.1.toList.length ∧ '=' ∉ p.1.toList := by
  decide

/-- The name of a switch starts with a hyphen, goes on after it, and has no equals sign. -/
theorem shape_of_ofName? (h : Switch.ofName? name = some sw) :
    name.toList.head? = some '-' ∧ 1 < name.toList.length ∧ '=' ∉ name.toList :=
  shape_of_named (name, sw) (Named.mem_of_lookup h)

theorem ofName?_eq_none {s : String} (h : '=' ∈ s.toList) : Switch.ofName? s = none := by
  cases hs : Switch.ofName? s with
  | none => rfl
  | some sw => exact absurd h (shape_of_ofName? hs).2.2

theorem splitEquals_append {cs : List Char} (h : '=' ∉ cs) (v : List Char) :
    Word.splitEquals (cs ++ '=' :: v) = (cs, some v) := by
  have hbefore : (cs ++ '=' :: v).takeWhile (· != '=') = cs := by
    rw [List.takeWhile_append_of_pos, List.takeWhile_cons_of_neg, List.append_nil]
    · simp
    · intro c hc
      exact bne_iff_ne.2 fun heq => h (heq ▸ hc)
  simp [Word.splitEquals, hbefore]

theorem toList_attached (name v : String) :
    (name ++ "=" ++ v).toList = name.toList ++ '=' :: v.toList := by
  rw [String.toList_append, String.toList_append, List.append_assoc]
  rfl

theorem equals_mem_attached (name v : String) : '=' ∈ (name ++ "=" ++ v).toList := by
  rw [toList_attached]
  exact List.mem_append_right _ List.mem_cons_self

/-- A switch with a value after an equals sign is one word. -/
theorem ofArgument_attached (h : Switch.ofName? name = some sw) (v : String) :
    Word.ofArgument (name ++ "=" ++ v) = .ok (.switch sw name (some ⟨true, v⟩)) := by
  obtain ⟨hhead, hlength, hequals⟩ := shape_of_ofName? h
  have hnone : Switch.ofName? (name ++ "=" ++ v) = none :=
    ofName?_eq_none (equals_mem_attached name v)
  have hcs : (name.toList ++ '=' :: v.toList).head? = some '-' := by
    rw [List.head?_append, hhead]
    rfl
  have hlong : (name.toList ++ '=' :: v.toList).length ≠ 1 := by
    rw [List.length_append, List.length_cons]
    omega
  unfold Word.ofArgument
  simp only [toList_attached, hcs, hnone, splitEquals_append hequals, String.ofList_toList, h]
  rw [if_neg (by simp), if_neg hlong]

theorem ofArguments_attached (h : Switch.ofName? name = some sw) (v : String)
    (rest : List String) : Word.ofArguments ((name ++ "=" ++ v) :: rest) =
      (Word.ofArguments rest).map fun ws => .switch sw name (some ⟨true, v⟩) :: ws := by
  have hmark : name ++ "=" ++ v ≠ "--" := by
    intro heq
    have hequals := equals_mem_attached name v
    rw [heq] at hequals
    exact absurd hequals (by decide)
  rw [Word.ofArguments, ofArgument_attached h]
  · cases Word.ofArguments rest <;> rfl
  · exact hmark

/-! ## Taking the words -/

variable {t u : Taking} {count : Nat} {ws : List Word}

theorem takeAll_attached {v : String} {afterEquals : Bool} (hhelp : sw ≠ .help)
    (h : takeValue t sw v = .ok u) :
    takeAll (count + 1) t (.switch sw name (some ⟨afterEquals, v⟩) :: ws) = takeAll count u ws := by
  have htake : takeSwitch t sw name (some ⟨afterEquals, v⟩) ws = .ok (u, ws) := by
    rw [takeSwitch, if_neg hhelp, h]
    rfl
  simp [takeAll, Word.isSwitch, htake, bind, Except.bind]

theorem ofName?_name (level : LogLevel) : LogLevel.ofName? level.name = some level := by
  cases level <;> rfl

/-- Two operands after a mark. -/
theorem takeAll_operands (dataset : String) {predicates : String} (h : predicates ≠ "--")
    (hnone : t.operandsTaken = false) :
    takeAll (count + 1) t [.mark, .operand dataset, .operand predicates] = .ok { t with
      operandsTaken := true
      arguments.dataset := some dataset
      arguments.predicates := some predicates } := by
  -- The mark belongs to the words of the first operand and does not count.
  have hfirst : operandValue ["--", dataset] = some dataset := rfl
  have hsecond : operandValue [predicates] = some predicates := by
    simp [operandValue, h]
  simp [takeAll, Word.isSwitch, takeUnswitched, hnone, takeOperands, splitOperand, takeUnexpected,
    Word.text, hfirst, hsecond]

/-! ## Whole command lines -/

/-- A command line that asks for a selection and leaves nothing to the defaults. -/
def spelled (dataset predicates idField output : String) (level : LogLevel) : List String := [
  "--id-field" ++ "=" ++ idField, "--output" ++ "=" ++ output,
  "--log-level" ++ "=" ++ level.name, "--", dataset, predicates]

/-- **Every selection is asked for by some command line.** -/
theorem read_spelled (dataset : String) {predicates : String} (idField output : String)
    (level : LogLevel) (h : predicates ≠ "--") :
    Arguments.read (spelled dataset predicates idField output level) = .ok {
      dataset := some dataset
      predicates := some predicates
      explain := none
      idField := idField
      output := output
      logLevel := level } := by
  have hwords : Word.ofArguments (spelled dataset predicates idField output level) = .ok [
      .switch .idField "--id-field" (some ⟨true, idField⟩),
      .switch .output "--output" (some ⟨true, output⟩),
      .switch .logLevel "--log-level" (some ⟨true, level.name⟩),
      .mark, .operand dataset, .operand predicates] := by
    have hidField : Switch.ofName? "--id-field" = some .idField := rfl
    have houtput : Switch.ofName? "--output" = some .output := rfl
    have hlogLevel : Switch.ofName? "--log-level" = some .logLevel := rfl
    rw [spelled, ofArguments_attached hidField, ofArguments_attached houtput,
      ofArguments_attached hlogLevel]
    rfl
  have hlevel {t : Taking} : takeValue t .logLevel level.name =
      .ok { t with arguments.logLevel := level } := by
    rw [takeValue, ofName?_name]
  rw [Arguments.read, hwords]
  simp only [List.length_cons, List.length_nil]
  rw [takeAll_attached (by decide) rfl, takeAll_attached (by decide) rfl,
    takeAll_attached (by decide) hlevel, takeAll_operands dataset h rfl]
  rfl

end EntitySelection.Command
