import EntitySelection.Proofs.Query.Grammar
import EntitySelection.Proofs.Query.RoundTrip

/-!
# Blanks around a query

**Theorem (`parse_padded`).** However a registry was filled, blanks in front of a text make no
difference to what it is read as, and neither do spaces behind it: the query is the same, or the
reason for which there is none (`Alike`). Of all blanks only the information separators behind a
text make one (`not_alike_separator`). With one of them it is no query, and if it was none before,
the reason stays the same.

Blanks in front go before tokens are looked for, those behind do not. But no token ends with a
blank, so that none reaches into them and the same token is split off (`splitToken_append`). The
rest is a numeral that may have spaces around it, and no numeral has a separator in it
(`Written.numeralChar`).
-/

namespace EntitySelection

namespace Query

open Text Numeral Registry

/-- Two readings come to the same: the same query, or none for the same reason. -/
inductive Alike : Except Malformed Query → Except Malformed Query → Prop
  | query (q : Query) : Alike (.ok q) (.ok q)
  | reason {bad bad' : Malformed} (h : bad.cause = bad'.cause) : Alike (.error bad) (.error bad')

/-! ## The token -/

section Token

variable {r : Registry} {cs ws : List Char} {c : Comparator} {t : String}

/-- A token that stands at the start of a text does not reach into the blanks behind it. -/
theorem isPrefix_of_append (ht : isToken t = true) (hws : ∀ c ∈ ws, isBlank c = true)
    (h : t.toList <+: cs ++ ws) : t.toList <+: cs := by
  obtain ⟨hne, hstrip⟩ := isToken_iff.1 ht
  rcases List.prefix_or_prefix_of_prefix h (List.prefix_append cs ws) with hin | ⟨tail, htail⟩
  · exact hin
  · rw [← htail, List.prefix_append_right_inj] at h
    cases hlast : tail.getLast? with
    | none =>
      rw [List.getLast?_eq_none_iff.1 hlast, List.append_nil] at htail
      exact htail ▸ List.prefix_rfl
    | some x =>
      -- The token would end with the last of the blanks that it reaches.
      have hx : isBlank x = true := hws x (h.subset (List.mem_of_mem_getLast? hlast))
      have hend : t.toList.getLast? = some x := by
        rw [← htail, List.getLast?_append, hlast]
        rfl
      rw [strip_eq_self_iff.1 hstrip x (.inr hend)] at hx
      cases hx

theorem leads_append (hr : Consistent r) (hws : ∀ c ∈ ws, isBlank c = true)
    {rest : List Char} (h : Leads r cs c rest) : Leads r (cs ++ ws) c (rest ++ ws) := by
  have hreach : ∀ u d, r.lookup u = some d → u.toList <+: cs ++ ws → u.toList <+: cs :=
    fun u d hu => isPrefix_of_append (hr.isToken u d hu) hws
  cases h with
  | token hl hcs hlongest =>
    refine .token hl (by rw [hcs, List.append_assoc]) fun u d hu hprefix => ?_
    exact hlongest u d hu (hreach u d hu hprefix)
  | bare hnone => exact .bare fun u d hu hprefix => hnone u d hu (hreach u d hu hprefix)

/-- **Blanks behind a text do not change what is split off**, and stay behind the rest. -/
theorem splitToken_append (hr : Consistent r) (cs : List Char)
    (hws : ∀ c ∈ ws, isBlank c = true) :
    r.splitToken (cs ++ ws) = ((r.splitToken cs).1, (r.splitToken cs).2 ++ ws) := by
  have hleads := leads_append hr hws (leads_splitToken hr.ne_empty cs)
  obtain ⟨hc, hrest⟩ := (leads_splitToken hr.ne_empty (cs ++ ws)).unique hleads
  exact Prod.ext hc hrest

end Token

/-! ## The operand -/

section Operand

variable {rest ws : List Char}

theorem underscore_mem_append_iff (hws : ∀ c ∈ ws, isBlank c = true) :
    '_' ∈ rest ++ ws ↔ '_' ∈ rest := by
  rw [List.mem_append, or_iff_left]
  intro hmem
  have hblank := hws _ hmem
  revert hblank
  decide

theorem strip_append (hws : ∀ c ∈ ws, isBlank c = true) :
    strip (String.ofList (rest ++ ws)) = strip (String.ofList rest) := by
  rw [strip, strip, String.toList_ofList, String.toList_ofList, trim_append_of_all hws]

/-- Spaces may stand behind an operand. -/
theorem operand_append (hws : ∀ c ∈ ws, isSpace c = true) :
    operand (rest ++ ws) = operand rest := by
  have hblank : ∀ c ∈ ws, isBlank c = true := fun c hc => isBlank_of_isSpace (hws c hc)
  by_cases hmem : '_' ∈ rest
  · rw [operand_of_mem hmem, operand_of_mem ((underscore_mem_append_iff hblank).2 hmem)]
  · rw [operand_of_not_mem hmem,
      operand_of_not_mem (mt (underscore_mem_append_iff hblank).1 hmem), strip_append hblank,
      read?, read?, String.toList_ofList, String.toList_ofList, trim_append_of_all hws]

/-- An information separator stands in no numeral. -/
theorem not_numeralChar {c : Char} (hblank : isBlank c = true) (hspace : isSpace c = false) :
    ¬ NumeralChar digitValue? c := by
  have hrange : 0x1c ≤ c.toNat ∧ c.toNat ≤ 0x1f := by
    simpa [isBlank, hspace] using hblank
  have hc : c = Char.ofNat c.toNat := (Char.ofNat_toNat c).symm
  obtain ⟨hlow, hhigh⟩ := hrange
  generalize c.toNat = n at *
  subst hc
  unfold NumeralChar
  interval_cases n <;> decide

/-- Behind an operand an information separator spoils it, and does not change what is wrong with
it already. -/
theorem operand_append_separator (hws : ∀ c ∈ ws, isBlank c = true)
    (hseparator : ∃ c ∈ ws, isSpace c = false) :
    ∃ cause, operand (rest ++ ws) = .error cause ∧
      ∀ cause', operand rest = .error cause' → cause = cause' := by
  by_cases hmem : '_' ∈ rest
  · refine ⟨_, operand_of_mem ((underscore_mem_append_iff hws).2 hmem), fun cause' h => ?_⟩
    rw [operand_of_mem hmem] at h
    exact Except.error.inj h
  · have hmem' := mt (underscore_mem_append_iff hws).1 hmem
    have hnone : read? (String.ofList (rest ++ ws)) = none := by
      obtain ⟨c, hc, hspace⟩ := hseparator
      by_contra hsome
      obtain ⟨n, hn⟩ := Option.ne_none_iff_exists'.1 hsome
      have hin : c ∈ trim isSpace (rest ++ ws) := mem_trim (List.mem_append_right rest hc) hspace
      exact not_numeralChar (hws c hc) hspace (((read?_eq_some_iff hmem').1 hn).numeralChar hin)
    refine ⟨.notNumber (strip (String.ofList rest)), ?_, fun cause' h => ?_⟩
    · rw [operand_of_not_mem hmem', hnone, strip_append hws]
    · rw [operand_of_not_mem hmem] at h
      split at h
      · cases h
      · exact Except.error.inj h

end Operand

/-! ## The query -/

section Padded

variable {r : Registry} {raw raw' u v : String} {c : Comparator} {rest rest' : List Char}

/-- Readings are alike that lead with the same comparator and have the same operand. -/
theorem alike_of_operand
    (h : r.splitToken (trimStart isBlank raw.toList) = (c, rest))
    (h' : r.splitToken (trimStart isBlank raw'.toList) = (c, rest'))
    (hoperand : operand rest' = operand rest) : Alike (parse r raw') (parse r raw) := by
  rw [parse, parse, h, h']
  simp only [hoperand]
  cases operand rest with
  | ok x => exact .query _
  | error cause => exact .reason rfl

/-- What is left of a text between blanks: nothing if it is all blanks itself, and otherwise what
is left of it alone, with the blanks behind it. -/
theorem trimStart_padded (raw : String) (hu : ∀ c ∈ u.toList, isBlank c = true)
    (hv : ∀ c ∈ v.toList, isBlank c = true) :
    trimStart isBlank (u ++ raw ++ v).toList =
      if trimStart isBlank raw.toList = [] then []
      else trimStart isBlank raw.toList ++ v.toList := by
  rw [String.toList_append, String.toList_append, List.append_assoc, trimStart_append_of_all hu,
    trimStart_append hv]

/-- What blanks around a text make of its reading. -/
structure Padded (r : Registry) (u raw v : String) : Prop where
  alike : (∀ c ∈ v.toList, isSpace c = true) → Alike (parse r (u ++ raw ++ v)) (parse r raw)
  refused : (∃ c ∈ v.toList, isSpace c = false) → ∃ bad, parse r (u ++ raw ++ v) = .error bad ∧
    ∀ bad', parse r raw = .error bad' → bad.cause = bad'.cause

/-- The whole text is blank, and what is left of it is no numeral. -/
theorem padded_of_blank (hnil : trimStart isBlank raw.toList = [])
    (htrim : trimStart isBlank (u ++ raw ++ v).toList = []) : Padded r u raw v := by
  have hbare : r.splitToken [] = (.equal, []) := by simp [splitToken, longestToken?]
  have hsplit : r.splitToken (trimStart isBlank raw.toList) = (.equal, []) := by
    rw [hnil, hbare]
  have hpadded : r.splitToken (trimStart isBlank (u ++ raw ++ v).toList) = (.equal, []) := by
    rw [htrim, hbare]
  constructor
  case alike =>
    intro _
    exact alike_of_operand hsplit hpadded rfl
  case refused =>
    intro _
    have hoperand : operand [] = .error (.notNumber "") := rfl
    refine ⟨⟨_, _⟩, (parse_eq_error_iff hpadded).2 ⟨rfl, hoperand⟩, fun bad' h => ?_⟩
    exact Except.error.inj (hoperand.symm.trans ((parse_eq_error_iff hsplit).1 h).2)

/-- What is left of the text has the blanks behind it. -/
theorem padded_of_rest (hr : Consistent r) (hv : ∀ c ∈ v.toList, isBlank c = true)
    (htrim : trimStart isBlank (u ++ raw ++ v).toList =
      trimStart isBlank raw.toList ++ v.toList) : Padded r u raw v := by
  have hsplit := splitToken_append hr (trimStart isBlank raw.toList) hv
  rw [← htrim] at hsplit
  constructor
  case alike =>
    intro hspaces
    exact alike_of_operand rfl hsplit (operand_append hspaces)
  case refused =>
    intro hseparator
    obtain ⟨cause, hcause, hsame⟩ := operand_append_separator hv hseparator
    refine ⟨⟨_, cause⟩, (parse_eq_error_iff hsplit).2 ⟨rfl, hcause⟩, fun bad' h => ?_⟩
    exact hsame _ ((parse_eq_error_iff rfl).1 h).2

/-- **Blanks around a query.** -/
theorem parse_padded (log : List Registration) (raw : String)
    (hu : ∀ c ∈ u.toList, isBlank c = true) (hv : ∀ c ∈ v.toList, isBlank c = true) :
    Padded (Registry.empty.replay log) u raw v := by
  have htrim := trimStart_padded raw hu hv
  by_cases hnil : trimStart isBlank raw.toList = []
  · rw [if_pos hnil] at htrim
    exact padded_of_blank hnil htrim
  · rw [if_neg hnil] at htrim
    exact padded_of_rest (consistent_replay log) hv htrim

end Padded

/-- A token with a space in it, a separator in front of it, and spaces behind the numeral. -/
theorem padded_atLeast :
    (∀ c ∈ "\x1c ".toList, isBlank c = true) ∧ (∀ c ∈ "\u2003\n".toList, isBlank c = true) ∧
      (∀ c ∈ "\u2003\n".toList, isSpace c = true) ∧
      Alike (parse (Registry.empty.replay orderLog) ("\x1c " ++ "at least 3" ++ "\u2003\n"))
        (parse (Registry.empty.replay orderLog) "at least 3") := by
  have hu : ∀ c ∈ "\x1c ".toList, isBlank c = true := List.all_eq_true.1 rfl
  have hv : ∀ c ∈ "\u2003\n".toList, isBlank c = true := List.all_eq_true.1 rfl
  have hspaces : ∀ c ∈ "\u2003\n".toList, isSpace c = true := List.all_eq_true.1 rfl
  exact ⟨hu, hv, hspaces, (parse_padded orderLog "at least 3" hu hv).alike hspaces⟩

/-- **An information separator is a blank that matters** behind a text. -/
theorem not_alike_separator :
    (∀ c ∈ "\x1c".toList, isBlank c = true) ∧ (∃ q, parse .empty "3" = .ok q) ∧
      (∃ bad, parse .empty ("" ++ "3" ++ "\x1c") = .error bad) ∧
      ¬ ∀ log raw u v, (∀ c ∈ u.toList, isBlank c = true) → (∀ c ∈ v.toList, isBlank c = true) →
        Alike (parse (Registry.empty.replay log) (u ++ raw ++ v))
          (parse (Registry.empty.replay log) raw) := by
  have hblank : ∀ c ∈ "\x1c".toList, isBlank c = true := List.all_eq_true.1 rfl
  have hok : ∃ q, parse .empty "3" = .ok q := ⟨_, rfl⟩
  have hbad : ∃ bad, parse .empty ("" ++ "3" ++ "\x1c") = .error bad := ⟨_, rfl⟩
  refine ⟨hblank, hok, hbad, fun hall => ?_⟩
  have halike := hall [] "3" "" "\x1c" (List.all_eq_true.1 rfl) hblank
  obtain ⟨q, hq⟩ := hok
  obtain ⟨bad, hbad⟩ := hbad
  rw [Registry.replay, List.foldl_nil, hq, hbad] at halike
  cases halike

end Query

end EntitySelection
