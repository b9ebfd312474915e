import EntitySelection.Text.Blank
import Mathlib.Data.List.TakeWhile

/-!
# Stripped texts

Stripping takes away what it should and no more: a text is left as it is exactly when it neither
starts nor ends with such a character (`trim_eq_self_iff`), and stripping twice is stripping once
(`trim_trim`, `strip_strip`). Characters to go that stand around a text make no difference
(`trimStart_append_of_all`, `trim_append_of_all`).
-/

namespace EntitySelection.Text

variable {p : Char → Bool}

theorem head?_trimStart {cs : List Char} {c : Char} (h : (trimStart p cs).head? = some c) :
    p c = false := by
  have hne : trimStart p cs ≠ [] := by
    intro hnil
    simp [hnil] at h
  have hhead : (trimStart p cs).head hne = c := by
    rw [List.head?_eq_some_head hne] at h
    exact Option.some.inj h
  rw [← hhead]
  exact List.head_dropWhile_not p hne

theorem trimStart_eq_self {cs : List Char} (h : ∀ c, cs.head? = some c → p c = false) :
    trimStart p cs = cs := by
  cases cs with
  | nil => rfl
  | cons c cs => exact List.dropWhile_cons_of_neg (by simp [h c rfl])

theorem trimEnd_eq (cs : List Char) : trimEnd p cs = (trimStart p cs.reverse).reverse := rfl

theorem getLast?_trimEnd {cs : List Char} {c : Char} (h : (trimEnd p cs).getLast? = some c) :
    p c = false := by
  rw [trimEnd_eq, List.getLast?_reverse] at h
  exact head?_trimStart h

theorem trimEnd_eq_self {cs : List Char} (h : ∀ c, cs.getLast? = some c → p c = false) :
    trimEnd p cs = cs := by
  rw [trimEnd_eq, trimStart_eq_self, List.reverse_reverse]
  intro c hc
  rw [List.head?_reverse] at hc
  exact h c hc

theorem trimEnd_isPrefix (cs : List Char) : trimEnd p cs <+: cs := by
  rw [trimEnd_eq, ← List.reverse_suffix, List.reverse_reverse]
  exact List.dropWhile_suffix p

theorem trim_subset (cs : List Char) : trim p cs ⊆ cs := by
  have hstart : trimStart p cs ⊆ cs := (List.dropWhile_suffix p).subset
  exact List.Subset.trans (trimEnd_isPrefix _).subset hstart

/-- A trimmed text starts with no character that was to go. -/
theorem head?_trim {cs : List Char} {c : Char} (h : (trim p cs).head? = some c) :
    p c = false := by
  have hstart : (trimStart p cs).head? = some c := by
    obtain ⟨rest, hrest⟩ := trimEnd_isPrefix (p := p) (trimStart p cs)
    rw [← hrest, List.head?_append]
    exact Option.or_eq_some_iff.2 (.inl h)
  exact head?_trimStart hstart

theorem getLast?_trim {cs : List Char} {c : Char} (h : (trim p cs).getLast? = some c) :
    p c = false :=
  getLast?_trimEnd h

theorem trim_eq_self {cs : List Char} (hhead : ∀ c, cs.head? = some c → p c = false)
    (hlast : ∀ c, cs.getLast? = some c → p c = false) : trim p cs = cs := by
  rw [trim, trimStart_eq_self hhead, trimEnd_eq_self hlast]

theorem trim_eq_self_iff {cs : List Char} :
    trim p cs = cs ↔ ∀ c, cs.head? = some c ∨ cs.getLast? = some c → p c = false := by
  constructor
  · intro h c hc
    rw [← h] at hc
    rcases hc with hhead | hlast
    · exact head?_trim hhead
    · exact getLast?_trim hlast
  · intro h
    exact trim_eq_self (fun c hc => h c (.inl hc)) fun c hc => h c (.inr hc)

theorem strip_eq_self_iff {s : String} : strip s = s ↔
    ∀ c, s.toList.head? = some c ∨ s.toList.getLast? = some c → isBlank c = false := by
  rw [← trim_eq_self_iff, ← String.toList_inj, strip, String.toList_ofList]

theorem trim_trim (cs : List Char) : trim p (trim p cs) = trim p cs :=
  trim_eq_self (fun _ => head?_trim) fun _ => getLast?_trim

theorem strip_strip (s : String) : strip (strip s) = strip s := by
  simp [strip, trim_trim]

/-! ## Characters around a text -/

theorem trimStart_append_of_all {ws : List Char} (h : ∀ c ∈ ws, p c = true) (cs : List Char) :
    trimStart p (ws ++ cs) = trimStart p cs :=
  List.dropWhile_append_of_pos h

theorem trimEnd_append_of_all {ws : List Char} (h : ∀ c ∈ ws, p c = true) (cs : List Char) :
    trimEnd p (cs ++ ws) = trimEnd p cs := by
  have hreverse : ∀ c ∈ ws.reverse, p c = true := fun c hc => h c (List.mem_reverse.1 hc)
  rw [trimEnd_eq, List.reverse_append, trimStart_append_of_all hreverse, trimEnd_eq]

/-- What stands behind a text stays there, unless the whole text goes. -/
theorem trimStart_append {ws : List Char} (h : ∀ c ∈ ws, p c = true) (cs : List Char) :
    trimStart p (cs ++ ws) = if trimStart p cs = [] then [] else trimStart p cs ++ ws := by
  have hnil : ws.dropWhile p = [] := List.dropWhile_eq_nil_iff.2 h
  rw [trimStart, trimStart, List.dropWhile_append, hnil]
  simp only [List.isEmpty_iff]

theorem trim_append_of_all {ws : List Char} (h : ∀ c ∈ ws, p c = true) (cs : List Char) :
    trim p (cs ++ ws) = trim p cs := by
  rw [trim, trim, trimStart_append h]
  by_cases hnil : trimStart p cs = []
  · rw [if_pos hnil, hnil]
  · rw [if_neg hnil, trimEnd_append_of_all h]

/-- A text is its trimmed form between characters that are to go. -/
theorem exists_append_trim (p : Char → Bool) (cs : List Char) : ∃ before after,
    cs = before ++ trim p cs ++ after ∧ (∀ c ∈ before, p c = true) ∧ ∀ c ∈ after, p c = true := by
  have htaken (ds : List Char) : ∀ c ∈ ds.takeWhile p, p c = true :=
    List.all_eq_true.1 List.all_takeWhile
  refine ⟨cs.takeWhile p, ((trimStart p cs).reverse.takeWhile p).reverse, ?_, htaken cs, ?_⟩
  · have hend : trim p cs ++ ((trimStart p cs).reverse.takeWhile p).reverse = trimStart p cs := by
      rw [trim, trimEnd, ← List.reverse_append, List.takeWhile_append_dropWhile,
        List.reverse_reverse]
    rw [List.append_assoc, hend, trimStart, List.takeWhile_append_dropWhile]
  · intro c hc
    exact htaken _ c (List.mem_reverse.1 hc)

/-- Whatever stands around it, a text that is trimmed already is what is left. -/
theorem trim_between {before body after : List Char} (hbefore : ∀ c ∈ before, p c = true)
    (hafter : ∀ c ∈ after, p c = true) (hbody : trim p body = body) :
    trim p (before ++ body ++ after) = body := by
  rw [trim_append_of_all hafter, trim, trimStart_append_of_all hbefore]
  exact hbody

/-- Only characters that are to go are lost. -/
theorem mem_trim {cs : List Char} {c : Char} (hc : c ∈ cs) (hp : p c = false) :
    c ∈ trim p cs := by
  have hkept : ∀ ds : List Char, c ∈ ds → c ∈ trimStart p ds := by
    intro ds hmem
    rw [← List.takeWhile_append_dropWhile (p := p) (l := ds)] at hmem
    rcases List.mem_append.1 hmem with htaken | hdropped
    · have hall := List.all_eq_true.1 (List.all_takeWhile (p := p) (l := ds)) c htaken
      rw [hp] at hall
      cases hall
    · exact hdropped
  rw [trim, trimEnd_eq, List.mem_reverse]
  exact hkept _ (List.mem_reverse.2 (hkept cs hc))

/-- Nothing is left of a text that is nothing but characters to go. -/
theorem trim_eq_nil_iff {cs : List Char} : trim p cs = [] ↔ ∀ c ∈ cs, p c = true := by
  constructor
  · intro h c hc
    by_contra hp
    have hmem := mem_trim hc (Bool.eq_false_iff.2 hp)
    rw [h] at hmem
    cases hmem
  · intro h
    exact trim_append_of_all h []

theorem strip_eq_empty_iff {s : String} : strip s = "" ↔ isBlankText s = true := by
  rw [isBlankText, List.all_eq_true, ← trim_eq_nil_iff, ← String.toList_inj, strip,
    String.toList_ofList]
  rfl

theorem strip_ne_empty_iff {s : String} : strip s ≠ "" ↔ ∃ c ∈ s.toList, isBlank c = false := by
  simp [Ne, strip_eq_empty_iff, isBlankText]

end EntitySelection.Text
