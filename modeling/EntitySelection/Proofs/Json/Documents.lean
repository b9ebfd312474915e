import EntitySelection.Proofs.Json.Extension
import Mathlib.Data.List.TakeWhile

/-!
# Documents within documents

A document is a whole text that is read. It may stand where a value may stand in another one, with
the spaces at its ends: what it is read as there is what it is read as alone (`value_of_document`).

**Theorem (`document_listOf`).** Documents between commas and brackets are read as a list.
**Theorem (`document_wraps`).** A document behind a name in braces is read as a map of one entry.

A document is not made of blanks (`exists_not_blank`), and spaces may be added after it
(`document_append_space`), a line end for one.
-/

namespace EntitySelection.Json

variable {fuel : Nat} {c : Char} {cs rest more gap : List Char} {v : Value}

/-! ## Documents -/

instance (cs : List Char) : Decidable (AllSpace cs) :=
  List.decidableBAll (fun c : Char => isSpace c = true) cs

theorem allSpace_iff : AllSpace cs ↔ skipSpace cs = [] :=
  Iff.symm List.dropWhile_eq_nil_iff

theorem document_eq_ok_iff : document cs = .ok v ↔ cs.head? ≠ some Text.byteOrderMark ∧
    ∃ rest, value (2 * cs.length + 2) (skipSpace cs) = .ok (v, rest) ∧ AllSpace rest := by
  rw [document]
  split
  · next hmark => simp [hmark, stop]
  · next hmark =>
    simp only [bind_eq_ok_iff, Prod.exists]
    simp only [ne_eq, hmark, not_false_eq_true, true_and]
    constructor
    · rintro ⟨w, rest, hw, hrest⟩
      split at hrest
      · next hend =>
        obtain rfl := Except.ok.inj hrest
        exact ⟨rest, hw, allSpace_iff.2 hend⟩
      · cases hrest
    · rintro ⟨rest, hrest, hspace⟩
      refine ⟨v, rest, hrest, ?_⟩
      rw [allSpace_iff.1 hspace]

theorem read_eq_ok_iff {t : String} : read t = .ok v ↔ document t.toList = .ok v := by
  unfold read
  split
  · next w hw => simp [hw]
  · next e he => simp [he]

/-- What a document is read as where a value may stand, and something comes after it. -/
theorem value_of_document (h : document cs = .ok v) (hfuel : 2 * cs.length + 2 ≤ fuel)
    (hends : Ends more) : ∃ gap, AllSpace gap ∧
      value fuel (skipSpace (cs ++ more)) = .ok (v, gap ++ more) := by
  obtain ⟨-, gap, hvalue, hgap⟩ := document_eq_ok_iff.1 h
  refine ⟨gap, hgap, ?_⟩
  rw [skipSpace_append_of_ne_nil (value_ne_nil hvalue)]
  exact value_extend.1 _ _ _ hvalue _ _ hfuel (ends_append hgap hends)

/-- Spaces after a document are no part of it. -/
theorem document_append_space (h : document cs = .ok v) (hmore : AllSpace more) :
    document (cs ++ more) = .ok v := by
  obtain ⟨hmark, rest, hvalue, -⟩ := document_eq_ok_iff.1 h
  have hends : Ends more := by simpa using ends_append hmore ends_nil
  have hfuel : 2 * cs.length + 2 ≤ 2 * (cs ++ more).length + 2 := by simp
  obtain ⟨gap, hgap, hread⟩ := value_of_document h hfuel hends
  refine document_eq_ok_iff.2 ⟨?_, _, hread, List.forall_mem_append.2 ⟨hgap, hmore⟩⟩
  cases cs with
  | nil => exact absurd rfl (value_ne_nil hvalue)
  | cons c cs => exact hmark

/-! ## Blanks -/

theorem isBlank_digit (h : Numeral.isAsciiDigit c = true) : Text.isBlank c = false := by
  unfold Numeral.isAsciiDigit Text.asciiDigitValue? at h
  split at h
  · next hc =>
    have hlo : 0x30 ≤ c.toNat := hc.1
    have hhi : c.toNat ≤ 0x39 := hc.2
    simp [Text.isBlank, Text.isSpace]
    omega
  · cases h

/-- No value starts with a blank. -/
theorem value_head_not_blank (h : value fuel (c :: cs) = .ok (v, rest)) :
    Text.isBlank c = false := by
  cases fuel with
  | zero => cases h
  | succ fuel =>
    rw [← Bool.not_eq_true]
    intro hblank
    have hne {d : Char} (hd : Text.isBlank d = false) : c ≠ d := by
      rintro rfl
      exact Bool.false_ne_true (hd.symm.trans hblank)
    rw [value_atom_iff (hne (d := '"') rfl) (hne (d := '[') rfl) (hne (d := '\x7b') rfl)] at h
    cases hword : word? (c :: cs) with
    | some p =>
      obtain ⟨w, hw, hcs, -⟩ := exists_word hword
      simp only [words, List.mem_cons, List.not_mem_nil, or_false] at hw
      rcases hw with rfl | rfl | rfl | rfl | rfl | rfl <;> exact hne rfl (List.cons.inj hcs).1
    | none =>
      rw [hword] at h
      obtain ⟨ds, hcs, hds⟩ := exists_numberText h
      obtain ⟨d, tail, rfl, rfl | hd⟩ := hds.head
      · exact hne rfl (List.cons.inj hcs).1
      · exact hne (isBlank_digit hd) (List.cons.inj hcs).1

/-- A document is not made of blanks. -/
theorem exists_not_blank (h : document cs = .ok v) : ∃ c ∈ cs, Text.isBlank c = false := by
  obtain ⟨-, rest, hvalue, -⟩ := document_eq_ok_iff.1 h
  obtain ⟨c, tail, hskip⟩ := List.exists_cons_of_ne_nil (value_ne_nil hvalue)
  refine ⟨c, (List.dropWhile_sublist _).subset (hskip ▸ List.mem_cons_self), ?_⟩
  rw [hskip] at hvalue
  exact value_head_not_blank hvalue

/-! ## Documents in a list -/

/-- Documents between commas are read as the items of a list. -/
theorem items_documents {css : List (List Char)} {vs : List Value} {rest : List Char}
    (h : document cs = .ok v) (hs : List.Forall₂ (fun cs v => document cs = .ok v) css vs)
    (hfuel : 2 * (cs.length + (further [] css).length) + 3 ≤ fuel) :
    items fuel (skipSpace (cs ++ (further [] css ++ ']' :: rest))) = .ok (v :: vs, rest) := by
  induction hs generalizing cs v fuel with
  | nil =>
    obtain ⟨k, rfl, hk⟩ := exists_succ_of_le hfuel
    simp only [further, List.length_nil] at hk
    have hends : Ends (']' :: rest) := ends_cons (by decide)
    obtain ⟨gap, hgap, hread⟩ := value_of_document h hk hends
    refine items_eq_ok_iff.2 ⟨v, _, hread, .inl ⟨?_, rfl⟩⟩
    rw [skipSpace_append hgap]
    rfl
  | @cons ds w css vs hw _ ih =>
    obtain ⟨k, rfl, hk⟩ := exists_succ_of_le hfuel
    simp only [further, List.length_cons, List.length_append, List.length_nil] at hk
    generalize hnext : ds ++ (further [] css ++ ']' :: rest) = next
    have hitems : items k (skipSpace next) = .ok (w :: vs, rest) := hnext ▸ ih hw (by omega)
    have heq : further [] (ds :: css) ++ ']' :: rest = ',' :: next := by
      simp [further, ← hnext]
    have hends : Ends (',' :: next) := ends_cons (by decide)
    have hdocument : 2 * cs.length + 2 ≤ k := by omega
    obtain ⟨gap, hgap, hread⟩ := value_of_document h hdocument hends
    refine items_eq_ok_iff.2 ⟨v, gap ++ ',' :: next, heq ▸ hread, .inr ⟨next, _, ?_, hitems, rfl⟩⟩
    rw [skipSpace_append hgap]
    rfl

/-- A list of documents, each as it is written. -/
def listOf (css : List (List Char)) : List Char := '[' :: ([','].intercalate css ++ [']'])

/-- **A list of documents is read as the list of what they are read as.** -/
theorem document_listOf {css : List (List Char)} {vs : List Value}
    (h : List.Forall₂ (fun cs v => document cs = .ok v) css vs) :
    document (listOf css) = .ok (.list vs) := by
  refine document_eq_ok_iff.2 ⟨nofun, [], ?_, nofun⟩
  have hspace : skipSpace (listOf css) = listOf css := rfl
  rw [hspace, listOf]
  cases h with
  | nil => rfl
  | @cons cs v css vs hv hvs =>
    have hbody : [','].intercalate (cs :: css) ++ [']'] = cs ++ (further [] css ++ [']']) := by
      rw [intercalate_eq, List.append_assoc]
    rw [hbody]
    refine value_list_iff.2 (.inr ⟨_, items_documents hv hvs ?_, rfl⟩)
    simp only [List.length_cons, List.length_append, List.length_nil]
    omega

/-! ## A document in a map -/

/-- A map of one entry as it is written, with spaces around its marks. -/
inductive Wraps (key : String) (cs : List Char) : List Char → Prop
  | mk {before opening named after last behind : List Char} (hbefore : AllSpace before)
      (hopening : AllSpace opening) (hnamed : AllSpace named) (hafter : AllSpace after)
      (hlast : AllSpace last) (hbehind : AllSpace behind) :
      Wraps key cs (before ++ '\x7b' :: (opening ++ ((quoted key).toList ++
        (named ++ ':' :: (after ++ (cs ++ (last ++ '\x7d' :: behind)))))))

/-- A document behind a name is read as the only member of a map. -/
theorem members_document {named after last rest : List Char} (hnamed : AllSpace named)
    (hafter : AllSpace after) (hlast : AllSpace last) (key : String) (h : document cs = .ok v)
    (hfuel : 2 * cs.length + 3 ≤ fuel) :
    members fuel ((quoted key).toList ++
        (named ++ ':' :: (after ++ (cs ++ (last ++ '\x7d' :: rest))))) =
      .ok ([(.text key, v)], rest) := by
  obtain ⟨k, rfl, hk⟩ := exists_succ_of_le hfuel
  have hends : Ends ('\x7d' :: rest) := ends_cons (by decide)
  obtain ⟨gap, hgap, hread⟩ := value_of_document h hk (ends_append hlast hends)
  simp only [toList_quoted, List.cons_append, List.append_assoc, List.nil_append]
  refine members_eq_ok_iff.2 ⟨key, _, after ++ (cs ++ (last ++ '\x7d' :: rest)), v,
    gap ++ (last ++ '\x7d' :: rest), text_quoted .., ?_, ?_, .inl ⟨?_, rfl⟩⟩
  · rw [skipSpace_append hnamed, skipSpace_cons rfl]
  · rw [skipSpace_append hafter, hread]
  · rw [skipSpace_append hgap, skipSpace_append hlast, skipSpace_cons rfl]

/-- **A document in a map is read as the entry of its key.** -/
theorem document_wraps {key : String} {ds : List Char} (hds : Wraps key cs ds)
    (h : document cs = .ok v) : document ds = .ok (.map [(.text key, v)]) := by
  cases hds with
  | @mk before opening named after last behind hbefore hopening hnamed hafter hlast hbehind =>
    refine document_eq_ok_iff.2 ⟨?_, behind, ?_, hbehind⟩
    · cases before with
      | nil => nofun
      | cons c before =>
        intro hc
        obtain rfl := Option.some.inj hc
        exact absurd (hbefore _ List.mem_cons_self) (by decide)
    · rw [skipSpace_append hbefore, skipSpace_cons rfl]
      refine value_map_iff.2 (.inr ⟨[(.text key, v)], ?_, rfl⟩)
      have hquote (rest : List Char) :
          skipSpace ((quoted key).toList ++ rest) = (quoted key).toList ++ rest := by
        rw [toList_quoted, List.cons_append, skipSpace_cons rfl]
      rw [skipSpace_append hopening, hquote]
      apply members_document hnamed hafter hlast key h
      simp only [List.length_append, List.length_cons]
      omega

end EntitySelection.Json
