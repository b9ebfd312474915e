import EntitySelection.Proofs.Extractor.Segments
import EntitySelection.Proofs.Extractor.Walk

/-!
# Paths of paths

**Theorem (`field_composes`).** Every path spells one list of names, and has an extractor exactly
when there is a name on the list. The extractor depends on nothing but the names, and never fails.
A path, a dot and another path make up the path that reads the second one from where the first one
leads, if it leads anywhere, and gives null if it does not.

What a path spells (`Spells`) is said without cutting it up: blanks may stand around it, and more
dots than are needed between the names and at the ends. `dotted_iff` shows that cutting at the dots
finds the same names. The paths that are put together must not have blanks around them, since
those between them would be part of their names.
-/

namespace EntitySelection

namespace Path

open Text (isBlank trim)

/-! ## What a path spells -/

/-- A text of names with dots between them, and perhaps more dots. -/
inductive Dotted : List Char → List String → Prop
  | dots {cs : List Char} : (∀ c ∈ cs, c = '.') → Dotted cs []
  | name {dots name rest : List Char} {names : List String} :
      (∀ c ∈ dots, c = '.') → name ≠ [] → '.' ∉ name → rest = [] ∨ rest.head? = some '.' →
      Dotted rest names → Dotted (dots ++ name ++ rest) (String.ofList name :: names)

/-- The names on a path. There may be blanks around it. -/
def Spells (path : String) (names : List String) : Prop :=
  ∃ before body after, path.toList = before ++ body ++ after ∧
    (∀ c ∈ before, isBlank c = true) ∧ (∀ c ∈ after, isBlank c = true) ∧
    (∀ c, body.head? = some c ∨ body.getLast? = some c → isBlank c = false) ∧
    Dotted body names

variable {cs : List Char} {names : List String} {p q path : String}

theorem namesOf_of_dotted (h : Dotted cs names) : namesOf cs = names := by
  induction h with
  | dots hdots => exact namesOf_eq_nil_iff.2 hdots
  | @name dots name rest names hdots hne hdot hrest _ ih =>
    rw [List.append_assoc, namesOf_dots_append hdots]
    rcases hrest with rfl | hhead
    · rw [List.append_nil, namesOf_of_not_mem hdot hne, ← ih]
      rfl
    · obtain ⟨tail, rfl⟩ := List.head?_eq_some_iff.1 hhead
      have htail : namesOf ('.' :: tail) = namesOf tail := namesOf_append_dot [] tail
      rw [namesOf_append_dot, namesOf_of_not_mem hdot hne, ← htail, ih]
      rfl

theorem Dotted.cons_dot (h : Dotted cs names) : Dotted ('.' :: cs) names := by
  cases h with
  | dots hdots => exact .dots (List.forall_mem_cons.2 ⟨rfl, hdots⟩)
  | name hdots hne hdot hrest hnames =>
    exact .name (List.forall_mem_cons.2 ⟨rfl, hdots⟩) hne hdot hrest hnames

theorem Dotted.first {name rest : List Char} (hne : name ≠ []) (hdot : '.' ∉ name)
    (hrest : rest = [] ∨ rest.head? = some '.') (h : Dotted rest names) :
    Dotted (name ++ rest) (String.ofList name :: names) := by
  show Dotted ([] ++ name ++ rest) (String.ofList name :: names)
  exact .name nofun hne hdot hrest h

/-- A character in front makes the first name longer, or is a name before the dots. -/
theorem Dotted.exists_cons {c : Char} (h : Dotted cs names) (hc : c ≠ '.') :
    ∃ more, Dotted (c :: cs) more := by
  have halone : cs = [] ∨ cs.head? = some '.' → ∃ more, Dotted (c :: cs) more := by
    intro hcs
    have hfirst := Dotted.first (List.cons_ne_nil c []) (by simpa using hc.symm) hcs h
    exact ⟨_, hfirst⟩
  cases h with
  | dots hdots =>
    cases cs with
    | nil => exact halone (.inl rfl)
    | cons d cs => exact halone (.inr (congrArg some (hdots d List.mem_cons_self)))
  | @name dots name rest names hdots hne hdot hrest hnames =>
    cases dots with
    | nil =>
      have hlonger : '.' ∉ c :: name := by simpa using ⟨hc.symm, hdot⟩
      have hfirst := Dotted.first (List.cons_ne_nil c name) hlonger hrest hnames
      exact ⟨_, hfirst⟩
    | cons d dots => exact halone (.inr (congrArg some (hdots d List.mem_cons_self)))

/-- Every text is dotted. -/
theorem exists_dotted (cs : List Char) : ∃ names, Dotted cs names := by
  induction cs with
  | nil => exact ⟨[], .dots nofun⟩
  | cons c cs ih =>
    obtain ⟨names, h⟩ := ih
    by_cases hc : c = '.'
    · subst hc
      exact ⟨names, h.cons_dot⟩
    · exact h.exists_cons hc

theorem dotted_iff : Dotted cs names ↔ namesOf cs = names := by
  refine ⟨namesOf_of_dotted, ?_⟩
  rintro rfl
  obtain ⟨names, hnames⟩ := exists_dotted cs
  rwa [namesOf_of_dotted hnames]

theorem spells_iff : Spells path names ↔ segments path = names := by
  rw [segments_eq]
  constructor
  · intro h
    obtain ⟨before, body, after, hpath, hbefore, hafter, hbody, hdotted⟩ := h
    rw [hpath, Text.trim_between hbefore hafter (Text.trim_eq_self_iff.2 hbody)]
    exact dotted_iff.1 hdotted
  · intro h
    obtain ⟨before, after, hpath, hbefore, hafter⟩ := Text.exists_append_trim isBlank path.toList
    exact ⟨before, _, after, hpath, hbefore, hafter,
      Text.trim_eq_self_iff.1 (Text.trim_trim _), dotted_iff.2 h⟩

/-! ## Two paths in one -/

/-- Between a path and another one there are no blanks to be lost. -/
theorem trim_append_dot {cs ds : List Char} (hcs : trim isBlank cs = cs)
    (hds : trim isBlank ds = ds) (hcs' : cs ≠ []) (hds' : ds ≠ []) :
    trim isBlank (cs ++ '.' :: ds) = cs ++ '.' :: ds := by
  rw [Text.trim_eq_self_iff] at hcs hds ⊢
  rintro c (hhead | hlast)
  · obtain ⟨first, rest, rfl⟩ := List.exists_cons_of_ne_nil hcs'
    exact hcs c (.inl hhead)
  · have hlast' := List.getLast?_eq_some_getLast hds'
    rw [List.append_cons, List.getLast?_append, hlast', Option.some_or, ← hlast'] at hlast
    exact hds c (.inr hlast)

theorem toList_ne_nil_of_segments (h : segments path ≠ []) : path.toList ≠ [] := by
  intro hnil
  refine h (segments_eq_nil_iff.2 fun c hc => ?_)
  rw [hnil] at hc
  cases hc

theorem segments_append_dot (hp : Text.strip p = p) (hq : Text.strip q = q)
    (hp' : segments p ≠ []) (hq' : segments q ≠ []) :
    segments (p ++ "." ++ q) = segments p ++ segments q := by
  have htrim {s : String} (hs : Text.strip s = s) : trim isBlank s.toList = s.toList := by
    rw [← String.toList_inj, Text.strip, String.toList_ofList] at hs
    exact hs
  have hlist : (p ++ "." ++ q).toList = p.toList ++ '.' :: q.toList := by simp
  rw [segments_eq, segments_eq, segments_eq, hlist, htrim hp, htrim hq,
    trim_append_dot (htrim hp) (htrim hq) (toList_ne_nil_of_segments hp')
      (toList_ne_nil_of_segments hq'), namesOf_append_dot]

end Path

namespace Extractor

open EntitySelection.Path

/-- An extractor reads what another one reads from where the names lead, and gives null if they
break off. -/
structure ReadsThrough (names : List String) (y x : Extractor) (entity : Value) : Prop where
  breaks_iff : Breaks entity names ↔ ¬ ∃ v, Reaches entity names v
  broken : Breaks entity names → x entity = .ok .null
  reached : ∀ v, Reaches entity names v → x entity = y v

theorem readsThrough_ofSegments (names more : List String) (entity : Value) :
    ReadsThrough names (ofSegments more) (ofSegments (names ++ more)) entity := by
  constructor
  case breaks_iff => exact Path.breaks_iff
  case broken =>
    intro h
    rw [ofSegments, fieldNumber, walk_append, walk_of_breaks h]
    rfl
  case reached =>
    intro v h
    rw [ofSegments, fieldNumber, walk_append, walk_of_reaches h]
    rfl

/-- **Paths compose.** -/
theorem field_composes :
    (∀ path, ∃! names, Spells path names) ∧
    (∀ p q names more, Text.strip p = p → Text.strip q = q → Spells p names → Spells q more →
      names ≠ [] → more ≠ [] →
      ∃ x y, field (p ++ "." ++ q) = .ok x ∧ field q = .ok y ∧
        ∀ entity, ReadsThrough names y x entity) ∧
    (∀ p q names, Spells p names → Spells q names → field p = field q) ∧
    ∀ path, ((∃ f, field path = .error f) ↔ Spells path []) ∧
      (∀ f, field path = .error f → f = .emptyPath) ∧
      ∀ x, field path = .ok x → ∀ entity, ∃ n, x entity = .ok (optionalNumber n) := by
  simp only [spells_iff]
  refine ⟨fun path => ⟨_, rfl, fun _ h => h.symm⟩, ?_, ?_, fun path => ⟨?_, ?_, ?_⟩⟩
  · rintro p q _ _ hp hq rfl rfl hp' hq'
    have hsegments := segments_append_dot hp hq hp' hq'
    have hne : segments (p ++ "." ++ q) ≠ [] := by
      rw [hsegments]
      exact List.append_ne_nil_of_left_ne_nil hp' _
    refine ⟨_, _, field_eq_ok_iff.2 ⟨hne, rfl⟩, field_eq_ok_iff.2 ⟨hq', rfl⟩, fun entity => ?_⟩
    rw [hsegments]
    exact readsThrough_ofSegments _ _ entity
  · intro p q names hp hq
    rw [field, field, hp, hq]
  · simp only [field_eq_error_iff, exists_and_left, exists_eq, and_true]
  · exact fun f hf => (field_eq_error_iff.1 hf).2
  · exact fun x hx => exists_number_of_field hx

/-- A ship with a crate in its hold. -/
def ship : Value := .map [(.text "hold", .object [("crate", .map [(.text "mass", .text " 12 ")])])]

theorem composes_hold :
    Spells "hold..crate" ["hold", "crate"] ∧ Spells ".mass." ["mass"] ∧
      ∃ x y, field "hold..crate..mass." = .ok x ∧ field ".mass." = .ok y ∧
        ReadsThrough ["hold", "crate"] y x ship ∧ x ship = .ok (.float (.ofInt 12)) := by
  have hp : Spells "hold..crate" ["hold", "crate"] := spells_iff.2 rfl
  have hq : Spells ".mass." ["mass"] := spells_iff.2 rfl
  obtain ⟨x, y, hx, hy, hreads⟩ :=
    field_composes.2.1 "hold..crate" ".mass." _ _ rfl rfl hp hq (by simp) (by simp)
  refine ⟨hp, hq, x, y, hx, hy, hreads ship, ?_⟩
  obtain ⟨-, rfl⟩ := field_eq_ok_iff.1 hx
  rfl

end Extractor

end EntitySelection
