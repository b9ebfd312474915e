import EntitySelection.Proofs.Numeral.Layout
import EntitySelection.Proofs.Registry.Longest

/-!
# Written queries are read back

**Theorem (`parse_describe`).** However a registry was filled, a query for a registered comparator
that is written and read again is the same query, unless some token starts with the canonical
token of the comparator and a space. The operand may be any number, also an infinity, a negative
zero or what is not a number.

Of the registry the proof uses only its consistency: the canonical token of a comparator is bound
to it, is not empty, and has no blanks at its ends. The search for the longest token then stops
at the canonical token (`splitToken_space`), and the operand is the number that was laid out
(`ofChars?_layoutChars`).
-/

namespace EntitySelection

namespace Query

/-- The operand that is written after a space is read back. -/
theorem operand_text (x : Binary64) : operand (' ' :: x.text.toList) = .ok x := by
  have hchars : x.text.toList = Binary64.layoutChars .plain x := String.toList_ofList
  have hsubset := Numeral.layoutChars_subset x
  have hnone : (' ' :: Binary64.layoutChars .plain x).contains '_' = false := by
    rw [Bool.eq_false_iff, Ne, List.contains_iff_mem]
    intro hmem
    rcases List.mem_cons.1 hmem with heq | hmem
    · exact absurd heq (by decide)
    · exact (Numeral.numeralChars_plain _ (hsubset hmem)).2.1 rfl
  obtain ⟨n, hn, hvalue⟩ := Numeral.ofChars?_layoutChars x
  rw [operand, hchars, hnone, Numeral.read?_space hsubset, hn]
  simp [hvalue]

variable {log : List Registration} {c : Comparator} {token : String}

theorem describe_eq {r : Registry} (hc : r.canonicalOf? c = some token) (x : Binary64) :
    describe ⟨c, x⟩ r = .ok (token ++ " " ++ x.text) := by
  have hcanonical : r.canonical (.known c) = .ok token := by
    simp [Registry.canonical, Operator.notKey?, Operator.comparator?, hc]
  simp [describe, Draft.describe, draft, hcanonical, Except.map]

/-- A token that can be bound is not empty and starts with no blank. -/
theorem trimStart_token (ht : Registry.isToken token = true) (rest : List Char) :
    token ≠ "" ∧ Text.trimStart Text.isBlank (token.toList ++ rest) = token.toList ++ rest := by
  obtain ⟨hne, hstrip⟩ := Registry.isToken_iff.1 ht
  refine ⟨hne, Text.trimStart_eq_self fun first hfirst => ?_⟩
  have hhead : token.toList.head? = some first := by
    rw [List.head?_append] at hfirst
    rcases Option.or_eq_some_iff.1 hfirst with h | ⟨hnone, -⟩
    · exact h
    · exact absurd (List.head?_eq_none_iff.1 hnone) (by simpa using hne)
  rw [← hstrip, Text.strip, String.toList_ofList] at hhead
  exact Text.head?_trim hhead

/-- **A written query is read back.** -/
theorem parse_describe (hc : (Registry.empty.replay log).canonicalOf? c = some token)
    (hfree : ∀ t d, (Registry.empty.replay log).lookup t = some d →
      ¬ (token ++ " ").toList <+: t.toList) (x : Binary64) :
    ∃ text, describe ⟨c, x⟩ (Registry.empty.replay log) = .ok text ∧
      parse (Registry.empty.replay log) text = .ok ⟨c, x⟩ ∧
      ∀ q, parse (Registry.empty.replay log) text = .ok q →
        q.describe (Registry.empty.replay log) = .ok text := by
  have hr := Registry.consistent_replay log
  generalize Registry.empty.replay log = r at *
  have hl := hr.lookup_canonical c token hc
  have hdescribe := describe_eq hc x
  have hchars : (token ++ " " ++ x.text).toList = token.toList ++ ' ' :: x.text.toList := by
    simp
  obtain ⟨hne, htrim⟩ := trimStart_token (hr.isToken token c hl) (' ' :: x.text.toList)
  have hsplit : r.splitToken (token.toList ++ ' ' :: x.text.toList) =
      (c, ' ' :: x.text.toList) :=
    Registry.splitToken_space hl hne fun t d ht => by simpa using hfree t d ht
  have hparse : parse r (token ++ " " ++ x.text) = .ok ⟨c, x⟩ := by
    simp only [parse, hchars, htrim, hsplit, operand_text]
  refine ⟨_, hdescribe, hparse, fun q hq => ?_⟩
  obtain rfl := Except.ok.inj (hparse.symm.trans hq)
  exact hdescribe

/-- A token with a space in it, and one that another one starts with. -/
def orderLog : List Registration := [
  ⟨.greater, [">"], .greater, none⟩, ⟨.greaterOrEqual, [">=", "at least"], .greaterOrEqual, none⟩]

theorem parse_describe_negativeZero :
    (Registry.empty.replay orderLog).canonicalOf? .greater = some ">" ∧
      (∀ t d, (Registry.empty.replay orderLog).lookup t = some d →
        ¬ (">" ++ " ").toList <+: t.toList) ∧
      describe ⟨.greater, .signed true .zero⟩ (Registry.empty.replay orderLog) = .ok "> -0.0" ∧
      parse (Registry.empty.replay orderLog) "> -0.0" = .ok ⟨.greater, .signed true .zero⟩ := by
  have hc : (Registry.empty.replay orderLog).canonicalOf? .greater = some ">" := rfl
  have hfree : ∀ t d, (Registry.empty.replay orderLog).lookup t = some d →
      ¬ (">" ++ " ").toList <+: t.toList := by
    intro t d ht
    have hmem : t ∈ [">", ">=", "at least"] :=
      Named.mem_names_of_mem (Named.mem_of_lookup ht)
    clear ht
    revert t
    decide
  have hdescribe : describe ⟨.greater, .signed true .zero⟩ (Registry.empty.replay orderLog) =
      .ok "> -0.0" := rfl
  obtain ⟨text, htext, hparse, -⟩ := parse_describe hc hfree (.signed true .zero)
  obtain rfl := Except.ok.inj (hdescribe.symm.trans htext)
  exact ⟨hc, hfree, hdescribe, hparse⟩

end Query

end EntitySelection
