import EntitySelection.Command.Run
import EntitySelection.Proofs.Command.Selecting
import EntitySelection.Proofs.Command.Spelling
import EntitySelection.Proofs.Json.Documents
import EntitySelection.Proofs.Json.Floats
import EntitySelection.Proofs.Query.RoundTrip

/-!
# Explained queries

**Theorem (`explain_attached`).** A text in the word of the switch for explaining is explained if it
is read as a query, and refused with the reason why not otherwise. What is printed for a query is
one line of JSON; its fields are read back as the comparator and the operand of the query, and as a
canonical text that is read as the query again.

The canonical text is a default token, a space and a number (`parse_token`). All of its characters
stand for themselves in JSON, so that the line is spelled out (`explanation_eq`).
-/

namespace EntitySelection.Command

open Json (AllSpace entryOf escapeChar)

variable {files : Files} {q : Query} {raw canonical : String}

/-! ## The canonical text -/

/-- JSON writes the characters as they are. -/
def Verbatim (cs : List Char) : Prop := ∀ c ∈ cs, escapeChar c = [c]

instance (cs : List Char) : Decidable (Verbatim cs) :=
  List.decidableBAll (fun c : Char => escapeChar c = [c]) cs

/-- Every comparator has a default token, of characters that JSON writes as they are. -/
theorem exists_token (c : Comparator) : ∃ token, Registry.default.canonicalOf? c = some token ∧
    Registry.default.lookup token = some c ∧ Registry.isToken token = true ∧
    Verbatim token.toList := by
  cases c <;> exact ⟨_, rfl, rfl, rfl, by decide⟩

theorem space_not_mem_token {t : String} {d : Comparator}
    (h : Registry.default.lookup t = some d) : ' ' ∉ t.toList := by
  have hall : ∀ p ∈ Registry.default.bindings, ' ' ∉ p.1.toList := by decide
  exact hall (t, d) (Named.mem_of_lookup h)

/-- A default token, a space and a number are read as a query. -/
theorem parse_token {token : String} {c : Comparator}
    (hlookup : Registry.default.lookup token = some c) (htoken : Registry.isToken token = true)
    (x : Binary64) : Query.parse .default (token ++ " " ++ x.text) = .ok ⟨c, x⟩ := by
  have hchars : (token ++ " " ++ x.text).toList = token.toList ++ ' ' :: x.text.toList := by
    simp
  obtain ⟨hne, htrim⟩ := Query.trimStart_token htoken (' ' :: x.text.toList)
  have hsplit : Registry.default.splitToken (token.toList ++ ' ' :: x.text.toList) =
      (c, ' ' :: x.text.toList) := by
    refine Registry.splitToken_space hlookup hne fun t d ht hlead => ?_
    exact space_not_mem_token ht (hlead.subset (List.mem_append_right _ List.mem_cons_self))
  simp only [Query.parse, hchars, htrim, hsplit, Query.operand_text]

theorem verbatim_numeralChars : Verbatim Numeral.numeralChars := by decide

theorem verbatim_layoutChars (x : Binary64) : Verbatim (Binary64.layoutChars .plain x) :=
  fun c hc => verbatim_numeralChars c (Numeral.layoutChars_subset x hc)

/-- **The canonical text** of a query is read as the query, and JSON writes its characters as they
are. -/
theorem exists_canonical (q : Query) : ∃ canonical, q.describe .default = .ok canonical ∧
    Query.parse .default canonical = .ok q ∧ Verbatim canonical.toList := by
  obtain ⟨token, hcanonical, hlookup, htoken, hverbatim⟩ := exists_token q.comparator
  refine ⟨_, Query.describe_eq hcanonical q.against, parse_token hlookup htoken q.against, ?_⟩
  have hspace : Verbatim " ".toList := by decide
  have htext : Verbatim q.against.text.toList := by
    rw [Binary64.text, String.toList_ofList]
    exact verbatim_layoutChars q.against
  simp only [Verbatim, String.toList_append, List.forall_mem_append]
  exact ⟨⟨hverbatim, hspace⟩, htext⟩

/-! ## The line -/

/-- A number as the line has it: one that is finite in the plain layout. -/
def explainedNumber : Binary64 → String
  | .nan => "NaN"
  | .signed s m =>
    if m.isInfinite then (if s then "-Infinity" else "Infinity") else (Binary64.signed s m).text

/-- The line that explains a query. -/
def explainedLine (q : Query) (canonical : String) : String :=
  "\x7b\"comparator\": \"" ++ q.comparator.name ++ "\", \"against\": " ++
    explainedNumber q.against ++ ", \"canonical\": \"" ++ canonical ++ "\"\x7d"

theorem ofList_layoutChars_json (x : Binary64) :
    String.ofList (Binary64.layoutChars .json x) = explainedNumber x := by
  cases x with
  | nan => rfl
  | signed s m =>
    rw [explainedNumber]
    cases hm : m.isInfinite with
    | false => rw [Json.layoutChars_json hm]; rfl
    | true =>
      simp only [Binary64.layoutChars, hm, if_true]
      cases s <;> rfl

theorem quoted_verbatim {s : String} (h : Verbatim s.toList) :
    Json.quoted s = "\"" ++ s ++ "\"" := by
  have hchars : s.toList.flatMap escapeChar = s.toList := by
    rw [List.flatMap_congr h]
    simp
  apply String.toList_inj.1
  rw [Json.toList_quoted, hchars]
  simp

/-- The fields of the line. -/
def explainedFields (q : Query) (canonical : String) : List (String × Value) := [
  ("comparator", .text q.comparator.name), ("against", .float q.against),
  ("canonical", .text canonical)]

theorem explanation_eq_line (q : Query) (canonical : String) : explanation q canonical =
    Json.line (.map ((explainedFields q canonical).map entryOf)) := rfl

theorem enclosed_three (a b c : String) : Json.enclosed none 0 "\x7b" "\x7d" [a, b, c] =
    "\x7b" ++ a ++ ", " ++ b ++ ", " ++ c ++ "\x7d" := by
  apply String.toList_inj.1
  simp [Json.enclosed, Json.lineGap, Value.joined]

theorem explanation_eq (h : Verbatim canonical.toList) :
    explanation q canonical = explainedLine q canonical := by
  have hname : Json.quoted q.comparator.name = "\"" ++ q.comparator.name ++ "\"" :=
    quoted_verbatim (by cases q.comparator <;> decide +kernel)
  have hcomparator : Json.quoted "comparator" = "\"comparator\"" := quoted_verbatim (by decide +kernel)
  have hagainst : Json.quoted "against" = "\"against\"" := quoted_verbatim (by decide +kernel)
  have hcanonical : Json.quoted "canonical" = "\"canonical\"" := quoted_verbatim (by decide +kernel)
  rw [explanation_eq_line, Json.line, Json.written, Json.writtenMembers_eq]
  simp only [explainedFields, List.map_cons, List.map_nil, Json.writtenMember, Json.written, hname,
    hcomparator, hagainst, hcanonical, quoted_verbatim h, ofList_layoutChars_json]
  have hfirst : "\x7b\"comparator\": \"" = "\x7b" ++ "\"comparator\"" ++ ": " ++ "\"" := rfl
  have hsecond : "\", \"against\": " = "\"" ++ ", " ++ "\"against\"" ++ ": " := rfl
  have hthird : ", \"canonical\": \"" = ", " ++ "\"canonical\"" ++ ": " ++ "\"" := rfl
  have hclose : "\"\x7d" = "\"" ++ "\x7d" := rfl
  rw [enclosed_three]
  unfold explainedLine
  simp only [hfirst, hsecond, hthird, hclose, String.append_assoc]

/-- The fields are read back from the line. -/
theorem read_explanation (q : Query) (canonical : String) :
    Json.read (explanation q canonical) = .ok (.map ((explainedFields q canonical).map entryOf)) := by
  have hfields : ∀ e ∈ explainedFields q canonical,
      Json.Reads (Json.written none 1 e.2).toList e.2 := by
    have hnumber : Json.Reads (Json.written none 1 (.float q.against)).toList (.float q.against) := by
      rw [Json.written, String.toList_ofList]
      exact .float q.against
    simp only [explainedFields, List.forall_mem_cons]
    exact ⟨.text _, hnumber, .text _, List.forall_mem_nil _⟩
  have hnodup : (Named.names (explainedFields q canonical)).Nodup := by
    show ["comparator", "against", "canonical"].Nodup
    decide
  have hreads := Json.reads_writtenMap hnodup hfields
  have hnone : AllSpace [] := List.forall_mem_nil _
  rw [Json.read_eq_ok_iff, explanation_eq_line, Json.line, ← Json.document_of_reads hreads hnone,
    List.append_nil]

theorem verbatim_explainedNumber (x : Binary64) : Verbatim (explainedNumber x).toList := by
  unfold explainedNumber
  split
  · decide
  · next s m =>
    split
    · cases s <;> decide
    · rw [Binary64.text, String.toList_ofList]
      exact verbatim_layoutChars _

theorem Verbatim.newline_not_mem {cs : List Char} (h : Verbatim cs) : '\n' ∉ cs :=
  fun hmem => absurd (h _ hmem) (by decide)

/-- The line is one line. -/
theorem newline_not_mem_line (h : Verbatim canonical.toList) :
    '\n' ∉ (explainedLine q canonical).toList := by
  have hname : '\n' ∉ q.comparator.name.toList := by cases q.comparator <;> decide +kernel
  have hnumber := (verbatim_explainedNumber q.against).newline_not_mem
  have hcanonical := h.newline_not_mem
  unfold explainedLine
  simp only [String.toList_append, List.mem_append, not_or]
  exact ⟨⟨⟨⟨⟨⟨by decide, hname⟩, by decide⟩, hnumber⟩, by decide⟩, hcanonical⟩, by decide⟩

/-! ## The command line -/

theorem read_attached (raw : String) :
    Arguments.read ["--explain=" ++ raw] = .ok { explain := some raw } := by
  have hname : Switch.ofName? "--explain" = some .explain := rfl
  have hword : Word.ofArguments ["--explain" ++ "=" ++ raw] =
      .ok [.switch .explain "--explain" (some ⟨true, raw⟩)] := by
    rw [ofArguments_attached hname]
    rfl
  have hargument : "--explain=" ++ raw = "--explain" ++ "=" ++ raw := rfl
  rw [Arguments.read, hargument, hword]
  simp only [List.length_cons, List.length_nil]
  rw [takeAll_attached (by decide) rfl]
  rfl

/-- What a line tells of a query: its comparator, its operand, and a canonical text that is read as
the query. -/
structure Explains (q : Query) (canonical line : String) : Prop where
  spelled : line = explainedLine q canonical
  oneLine : '\n' ∉ line.toList
  decodes : Json.read line = .ok (.map [
    (.text "comparator", .text q.comparator.name), (.text "against", .float q.against),
    (.text "canonical", .text canonical)])
  canonical : Query.parse .default canonical = .ok q

/-- Explaining a query prints its line and nothing else, unless messages are logged. -/
theorem explain_query (h : Query.parse .default raw = .ok q) : ∃ canonical line,
    Explains q canonical line ∧
      explain .warning raw = { stdout := line ++ "\n", ending := .finished } := by
  obtain ⟨canonical, hdescribe, hparse, hplain⟩ := exists_canonical q
  have hline := explanation_eq (q := q) hplain
  refine ⟨canonical, explanation q canonical,
    ⟨hline, ?_, read_explanation q canonical, hparse⟩, ?_⟩
  · rw [hline]
    exact newline_not_mem_line hplain
  · simp only [explain, h, hdescribe]
    rfl

/-- **A query in the word of the switch is explained**, if it is one. -/
theorem explain_attached (files : Files) (raw : String) :
    match Query.parse .default raw with
    | .ok q => ∃ canonical line, Explains q canonical line ∧
        run files ["--explain=" ++ raw] = { stdout := line ++ "\n", ending := .finished }
    | .error m =>
        run files ["--explain=" ++ raw] = { stderr := m.message ++ "\n", ending := .exited 2 } := by
  rw [run_explaining (read_attached raw) rfl]
  cases hparse : Query.parse .default raw with
  | error m => simp only [explain, hparse]
  | ok q => exact explain_query hparse

example : (run (fun _ => .absent) ["--explain=  =>-Inf"]).stdout =
    "\x7b\"comparator\": \"greater_or_equal\", \"against\": -Infinity, " ++
      "\"canonical\": \">= -inf\"\x7d\n" := by
  decide +kernel

end EntitySelection.Command
