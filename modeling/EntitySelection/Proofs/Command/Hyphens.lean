import EntitySelection.Proofs.Command.Explaining
import EntitySelection.Proofs.Query.Grammar

/-!
# Queries behind the switch

A query may stand in an argument of its own, behind the switch for explaining. The words are told
apart before any query is read: an argument that starts with a hyphen is an operand only if it is a
negative number or has a space in it (`IsValue`).

**Theorem (`explain_separate_iff`).** A query in an argument of its own is explained as in the word of
the switch exactly if it does not start with a hyphen, is a negative number, or has a space in it.
Otherwise the switch is said to have no value, as for minus infinity
(`not_explain_separate_infinity`).

A query that starts with a hyphen has no token and is not spelled like a switch: another hyphen, the
letter of the short name and the equals sign stand in no numeral (`shape_of_hyphen`).
-/

namespace EntitySelection.Command

open Text Numeral

variable {files : Files} {q : Query} {raw : String} {cs : List Char} {d : Char} {n : Numeral}

/-! ## Queries that start with a hyphen -/

/-- Without a token, a text that starts with a hyphen is all operand. -/
theorem splitToken_hyphen (cs : List Char) :
    Registry.default.splitToken ('-' :: cs) = (.equal, '-' :: cs) := by
  have htokens : ∀ p ∈ Registry.default.bindings, p.1 ≠ "" ∧ p.1.toList.head? ≠ some '-' := by
    decide
  have hlookup {t : String} {c : Comparator} (h : Registry.default.lookup t = some c) :
      t ≠ "" ∧ t.toList.head? ≠ some '-' := htokens (t, c) (Named.mem_of_lookup h)
  have hbare : Registry.default.Leads ('-' :: cs) .equal ('-' :: cs) := by
    refine .bare fun t c ht hprefix => ?_
    obtain ⟨hne, hhead⟩ := hlookup ht
    obtain ⟨tail, htail⟩ := hprefix
    cases hchars : t.toList with
    | nil => exact hne (by simpa using hchars)
    | cons d ds =>
      rw [hchars] at htail hhead
      exact hhead (congrArg some (List.cons.inj htail).1)
  have hleads := Registry.leads_splitToken (fun t c ht => (hlookup (c := c) ht).1) ('-' :: cs)
  obtain ⟨hc, hrest⟩ := hleads.unique hbare
  exact Prod.ext hc hrest

theorem ofChars?_hyphens (cs : List Char) : ofChars? ('-' :: '-' :: cs) = none := rfl

/-- What follows the hyphen of a numeral. -/
theorem written_hyphen (h : Written digitValue? n ('-' :: cs)) :
    ∃ d tail, cs = d :: tail ∧ d ≠ '-' ∧ NumeralChar digitValue? d := by
  have hread := written_iff.1 h
  cases cs with
  | nil => cases hread
  | cons d tail =>
    refine ⟨d, tail, rfl, ?_, h.numeralChar (List.mem_cons_of_mem _ List.mem_cons_self)⟩
    rintro rfl
    have hplain : plainDigit '-' = '-' := rfl
    rw [List.map_cons, List.map_cons, hplain, ofChars?_hyphens] at hread
    cases hread

theorem not_numeralChar_equals : ¬ NumeralChar digitValue? '=' := by
  unfold NumeralChar
  decide

theorem not_numeralChar_help : ¬ NumeralChar digitValue? 'h' := by
  unfold NumeralChar
  decide

/-- A query that starts with a hyphen is not spelled like a switch. -/
theorem shape_of_hyphen (h : Query.parse .default raw = .ok q) (hraw : raw.toList = '-' :: cs) :
    '=' ∉ cs ∧ ∃ d tail, cs = d :: tail ∧ d ≠ '-' ∧ d ≠ 'h' := by
  have htrim : trimStart isBlank raw.toList = '-' :: cs := by
    rw [hraw]
    rfl
  have hsplit : Registry.default.splitToken (trimStart isBlank raw.toList) = (.equal, '-' :: cs) := by
    rw [htrim, splitToken_hyphen]
  obtain ⟨-, hoperand⟩ := (Query.parse_eq_ok_iff hsplit).1 h
  obtain ⟨-, n, hn, -⟩ := Query.operand_eq_ok_iff.1 hoperand
  refine ⟨fun hmem => ?_, ?_⟩
  · have hkept := mem_trim (p := isSpace) (List.mem_cons_of_mem '-' hmem) (by decide)
    exact not_numeralChar_equals (hn.numeralChar hkept)
  · have hprefix : trim isSpace ('-' :: cs) <+: '-' :: cs := trimEnd_isPrefix ('-' :: cs)
    cases htext : trim isSpace ('-' :: cs) with
    | nil =>
      have hread := written_iff.1 (htext ▸ hn)
      cases hread
    | cons c ds =>
      rw [htext] at hn hprefix
      obtain ⟨rfl, hds⟩ := List.cons_prefix_cons.1 hprefix
      obtain ⟨d, tail, rfl, hd, hchar⟩ := written_hyphen hn
      obtain ⟨more, rfl⟩ := hds
      refine ⟨d, tail ++ more, rfl, hd, ?_⟩
      rintro rfl
      exact not_numeralChar_help hchar

/-! ## The word -/

theorem second_of_named : ∀ p ∈ Switch.named,
    p.1.toList[1]? = some '-' ∨ p.1.toList[1]? = some 'h' := by
  decide

theorem ofName?_hyphen {tail : List Char} (hraw : raw.toList = '-' :: d :: tail) (hd : d ≠ '-')
    (hhelp : d ≠ 'h') : Switch.ofName? raw = none := by
  cases hname : Switch.ofName? raw with
  | none => rfl
  | some sw =>
    have hsecond := second_of_named (raw, sw) (Named.mem_of_lookup hname)
    simp [hraw, hd, hhelp] at hsecond

theorem candidates_hyphen (hd : d ≠ '-') (hhelp : d ≠ 'h') (tail : List Char) :
    Word.candidates ('-' :: d :: tail) = [] := by
  have hnone : ∀ p ∈ Switch.named, p.1.toList ≠ ['-', d] := by
    intro p hp heq
    have hsecond := second_of_named p hp
    simp [heq, hd, hhelp] at hsecond
  rw [Word.candidates]
  · simpa using hnone
  · rintro rest heq
    exact hd heq

theorem splitEquals_of_not_mem (h : '=' ∉ cs) : Word.splitEquals cs = (cs, none) := by
  have hall : cs.takeWhile (· != '=') = cs := by
    rw [List.takeWhile_eq_self_iff]
    intro c hc
    exact bne_iff_ne.2 fun heq => h (heq ▸ hc)
  simp [Word.splitEquals, hall]

/-- A text that starts with a hyphen and is not spelled like a switch is an operand if it is a
negative number or has a space in it. -/
theorem ofArgument_hyphen {tail : List Char} (hraw : raw.toList = '-' :: d :: tail) (hd : d ≠ '-')
    (hhelp : d ≠ 'h') (hequals : '=' ∉ d :: tail) : Word.ofArgument raw =
      .ok (if Word.isNegativeNumber raw.toList || raw.toList.contains ' ' then .operand raw
        else .unknown raw) := by
  have hsplit : Word.splitEquals ('-' :: d :: tail) = ('-' :: d :: tail, none) :=
    splitEquals_of_not_mem (by simpa using hequals)
  have hname := ofName?_hyphen hraw hd hhelp
  have hself : String.ofList ('-' :: d :: tail) = raw := by rw [← hraw, String.ofList_toList]
  unfold Word.ofArgument
  simp only [hraw, List.head?_cons, hname, hsplit, hself, candidates_hyphen hd hhelp]
  rw [if_neg (by simp), if_neg (by simp)]
  split <;> rfl

/-- Whether an argument behind a switch is taken for its value, if it is no switch. -/
def IsValue (raw : String) : Prop :=
  raw.toList.head? = some '-' → Word.isNegativeNumber raw.toList = true ∨ ' ' ∈ raw.toList

instance (raw : String) : Decidable (IsValue raw) :=
  inferInstanceAs (Decidable (_ → _))

/-- A query is an operand or spelled like a switch that there is not. -/
theorem ofArgument_query (h : Query.parse .default raw = .ok q) :
    Word.ofArgument raw = .ok (if IsValue raw then .operand raw else .unknown raw) := by
  by_cases hhead : raw.toList.head? = some '-'
  · obtain ⟨cs, hraw⟩ := List.head?_eq_some_iff.1 hhead
    obtain ⟨hequals, d, tail, rfl, hd, hhelp⟩ := shape_of_hyphen h hraw
    have hvalue : IsValue raw ↔
        (Word.isNegativeNumber raw.toList || raw.toList.contains ' ') = true := by
      simp [IsValue, hhead]
    simp only [ofArgument_hyphen hraw hd hhelp hequals, hvalue]
  · have hvalue : IsValue raw := fun hminus => absurd hminus hhead
    rw [if_pos hvalue, Word.ofArgument, if_pos (by simpa using hhead)]

theorem ne_mark_of_parse (h : Query.parse .default raw = .ok q) : raw ≠ "--" := by
  rintro rfl
  have hraw : "--".toList = ['-', '-'] := rfl
  obtain ⟨-, d, tail, hcs, hd, -⟩ := shape_of_hyphen h hraw
  exact hd (List.cons.inj hcs).1.symm

theorem ofArguments_separate (h : Query.parse .default raw = .ok q) :
    Word.ofArguments ["--explain", raw] = .ok [.switch .explain "--explain" none,
      if IsValue raw then .operand raw else .unknown raw] := by
  have hswitch : Word.ofArgument "--explain" = .ok (.switch .explain "--explain" none) := rfl
  rw [Word.ofArguments, Word.ofArguments, hswitch, ofArgument_query h]
  · rfl
  · exact ne_mark_of_parse h
  · decide

theorem read_separate (h : Query.parse .default raw = .ok q) :
    Arguments.read ["--explain", raw] =
      if IsValue raw then .ok { explain := some raw }
      else .error (.misuse (.noValue .explain)) := by
  rw [Arguments.read, ofArguments_separate h]
  by_cases hvalue : IsValue raw
  · simp only [if_pos hvalue]
    rfl
  · simp only [if_neg hvalue]
    rfl

/-! ## Runs -/

/-- **A query in an argument of its own is explained as in the word of the switch**, exactly if it
is taken for a value. -/
theorem explain_separate_iff (files : Files) (h : Query.parse .default raw = .ok q) :
    ((run files ["--explain", raw]).ending = .finished ∧
      run files ["--explain", raw] = run files ["--explain=" ++ raw] ↔ IsValue raw) ∧
    (¬ IsValue raw → run files ["--explain", raw] = misused (.noValue .explain)) := by
  have hread := read_separate h
  by_cases hvalue : IsValue raw
  · rw [if_pos hvalue] at hread
    obtain ⟨canonical, line, -, hexplain⟩ := explain_query h
    rw [run_explaining hread rfl, run_explaining (read_attached raw) rfl]
    refine ⟨iff_of_true ⟨?_, rfl⟩ hvalue, fun hnot => absurd hvalue hnot⟩
    rw [hexplain]
  · rw [if_neg hvalue] at hread
    rw [run_misused hread]
    refine ⟨iff_of_false ?_ hvalue, fun _ => rfl⟩
    rintro ⟨hfinished, -⟩
    cases hfinished

theorem explain_separate_minusHalf :
    Query.parse .default "-.5 " = .ok ⟨.equal, (Numeral.decimal true 5 (-1)).toBinary64⟩ ∧
    (run (fun _ => .absent) ["--explain", "-.5 "]).ending = .finished ∧
    run (fun _ => .absent) ["--explain", "-.5 "] = run (fun _ => .absent) ["--explain=-.5 "] := by
  have hparse : Query.parse .default "-.5 " =
      .ok ⟨.equal, (Numeral.decimal true 5 (-1)).toBinary64⟩ := rfl
  have hvalue : IsValue "-.5 " := by decide
  exact ⟨hparse, (explain_separate_iff _ hparse).1.2 hvalue⟩

/-- Minus infinity is a query, but no value of its own. -/
theorem not_explain_separate_infinity :
    Query.parse .default "-inf" = .ok ⟨.equal, .signed true .infinity⟩ ∧
    run (fun _ => .absent) ["--explain", "-inf"] = misused (.noValue .explain) ∧
    (run (fun _ => .absent) ["--explain", "-inf"]).ending = .exited 2 ∧
    (run (fun _ => .absent) ["--explain=-inf"]).ending = .finished :=
  ⟨rfl, rfl, rfl, rfl⟩

end EntitySelection.Command
