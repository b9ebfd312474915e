import EntitySelection.Proofs.PredicateSet.Building

/-!
# Maps and objects

An entity may be made of maps, of objects, or of both at any depth. Maps of a value are *recast*
when some of them, at whatever depth, are replaced by objects that have the same entries as
attributes.

**Theorem (`select_recast`).** No field extractor tells a value from a recast one, and selecting
among recast entities gives the same selection, or fails in the same way, whatever the predicate
set. Only two things could make a difference: an extractor of a host's own that looks at more than
attributes, so that those in the catalogue are asked not to; and an id that is a map itself, since
its text is the id.

The proof follows one attribute: a value and a recast one have the same attributes, up to recasting
(`Recast.attribute?`). A path reads one attribute after the other (`Recast.walk`), and neither a map
nor an object at its end is a number.
-/

namespace EntitySelection

/-- Some maps of a value are replaced by objects with the same entries and no other attributes. The
entries are given with their values before and after. -/
inductive Value.Recast : Value → Value → Prop
  | same (v : Value) : Recast v v
  | map (entries : List (String × Value × Value)) :
      (∀ e ∈ entries, Recast e.2.1 e.2.2) →
      Recast (.map (entries.map fun e => (.text e.1, e.2.1)))
        (.map (entries.map fun e => (.text e.1, e.2.2)))
  | object (entries : List (String × Value × Value)) :
      (∀ e ∈ entries, Recast e.2.1 e.2.2) →
      Recast (.map (entries.map fun e => (.text e.1, e.2.1)))
        (.object (entries.map fun e => (e.1, e.2.2)))

open Value (Recast)

/-! ## Attributes -/

section Attributes

variable {v w : Value}

theorem eq_none_or_eq_some_of_rel {α : Type} {R : α → α → Prop} {a b : Option α}
    (h : Option.Rel R a b) : a = none ∧ b = none ∨ ∃ x y, a = some x ∧ b = some y ∧ R x y := by
  cases h with
  | none => exact .inl ⟨rfl, rfl⟩
  | some h => exact .inr ⟨_, _, rfl, rfl, h⟩

theorem Value.attribute?_textMap {ι : Type} (entries : List ι) (key : ι → String) (val : ι → Value)
    (name : String) : (Value.map (entries.map fun e => (.text (key e), val e))).attribute? name =
      (entries.find? fun e => key e == name).map val := by
  rw [attribute?, entry?, List.find?_map, Option.map_map]
  rfl

theorem Value.attribute?_object {ι : Type} (entries : List ι) (key : ι → String) (val : ι → Value)
    (name : String) : (Value.object (entries.map fun e => (key e, val e))).attribute? name =
      (entries.find? fun e => key e == name).map val := by
  rw [attribute?]
  induction entries with
  | nil => rfl
  | cons e rest ih =>
    rw [List.map_cons, List.lookup_cons, List.find?_cons, ih, BEq.comm]
    cases key e == name <;> rfl

/-- **One attribute.** It is missing from both values, or one is the other recast. -/
theorem Value.Recast.attribute? (h : Recast v w) (name : String) :
    Option.Rel Recast (v.attribute? name) (w.attribute? name) := by
  have hfound (entries : List (String × Value × Value))
      (hentries : ∀ e ∈ entries, Recast e.2.1 e.2.2) :
      Option.Rel Recast ((entries.find? fun e => e.1 == name).map (·.2.1))
        ((entries.find? fun e => e.1 == name).map (·.2.2)) := by
    cases hfind : entries.find? fun e => e.1 == name with
    | none => exact .none
    | some e => exact .some (hentries e (List.mem_of_find?_eq_some hfind))
  cases h with
  | same =>
    cases v.attribute? name with
    | none => exact .none
    | some next => exact .some (.same next)
  | map entries hentries =>
    rw [attribute?_textMap, attribute?_textMap]
    exact hfound entries hentries
  | object entries hentries =>
    rw [attribute?_textMap, attribute?_object]
    exact hfound entries hentries

theorem Value.Recast.isNull_eq (h : Recast v w) : v.isNull = w.isNull := by
  cases h <;> rfl

/-- **A path.** It breaks off in both values, or leads to a value and to it recast. -/
theorem Value.Recast.walk (h : Recast v w) (names : List String) :
    Option.Rel Recast (Path.walk v names) (Path.walk w names) := by
  induction names generalizing v w with
  | nil => exact .some h
  | cons name rest ih =>
    rw [Path.walk, Path.walk]
    rcases eq_none_or_eq_some_of_rel (h.attribute? name) with
      ⟨hv, hw⟩ | ⟨next, next', hv, hw, hnext⟩
    · rw [hv, hw]
      exact .none
    · simp only [hv, hw, hnext.isNull_eq]
      split
      · exact .none
      · exact ih hnext

/-- Neither a map nor an object is a number. -/
theorem Value.Recast.leafNumber_eq (h : Recast v w) :
    Extractor.leafNumber v = Extractor.leafNumber w := by
  cases h <;> rfl

end Attributes

/-! ## Extractors -/

/-- An extractor does not tell a value from a recast one. -/
def Extractor.Blind (x : Extractor) : Prop := ∀ v w, Recast v w → x v = x w

theorem Extractor.blind_of_field {path : String} {x : Extractor}
    (h : Extractor.field path = .ok x) : Blind x := by
  obtain ⟨-, rfl⟩ := field_eq_ok_iff.1 h
  intro v w hvw
  have hnumber : fieldNumber (Path.segments path) v = fieldNumber (Path.segments path) w := by
    rw [fieldNumber, fieldNumber]
    rcases eq_none_or_eq_some_of_rel (hvw.walk (Path.segments path)) with
      ⟨hv, hw⟩ | ⟨leaf, leaf', hv, hw, hleaf⟩
    · rw [hv, hw]
    · rw [hv, hw, Option.bind_some, Option.bind_some, hleaf.leafNumber_eq]
  exact congrArg (fun n => Except.ok (optionalNumber n)) hnumber

/-- The extractors of a catalogue do not tell a value from a recast one. -/
def Catalogue.Blind (k : Catalogue) : Prop := ∀ name x, k.find? name = some x → x.Blind

theorem Catalogue.Blind.resolve {k : Catalogue} (hk : k.Blind) {attr : String} {x : Extractor}
    (h : k.resolve attr = .ok x) : x.Blind := by
  cases resolve_eq_ok_iff.1 h with
  | kept hkept => exact hk attr x hkept
  | path _ hfield => exact Extractor.blind_of_field hfield

/-! ## Predicates -/

/-- A predicate answers alike about a value and a recast one. -/
def Predicate.Blind (p : Predicate) : Prop :=
  ∀ v w, Recast v w → p.applicable v = p.applicable w ∧ p.test v = p.test w

theorem Predicate.blind_numeric {x : Extractor} (hx : x.Blind) (r : Registry) (d : Query.Draft)
    (name : String) : Blind (.numeric r d x name) := by
  intro v w hvw
  simp only [numeric, hx v w hvw, and_self]

theorem PredicateSet.blind_of_build {k : Catalogue} {r : Registry} {set : PredicateSet}
    {ps : List Predicate} (hk : k.Blind) (h : set.build k r = .ok ps) : ∀ p ∈ ps, p.Blind := by
  intro p hp
  obtain ⟨c, -, hbuild⟩ := exists_mem_of_mapM_eq_ok h hp
  obtain ⟨x, q, hx, -, rfl⟩ := PredicateConfig.build_eq_ok_iff.1 hbuild
  exact Predicate.blind_numeric (hk.resolve hx) r q.draft _

namespace Selection

variable {ps : List Predicate} {idField : String} {v w : Value} {entities others : List Value}

theorem outcomes_recast (hps : ∀ p ∈ ps, p.Blind) (h : Recast v w) :
    outcomes ps v = outcomes ps w := by
  refine mapM_congr fun p hp => ?_
  obtain ⟨happlicable, htest⟩ := hps p hp v w h
  simp only [outcome, passedWhere, happlicable, htest]

/-- The id is not a map. An entity may also have none. -/
def PlainId (idField : String) (entity : Value) : Prop :=
  ∀ entries, entity.attribute? idField ≠ some (.map entries)

theorem entityId_recast (hid : PlainId idField v) (h : Recast v w) (position : Nat) :
    entityId idField position v = entityId idField position w := by
  rw [entityId, entityId]
  rcases eq_none_or_eq_some_of_rel (h.attribute? idField) with
    ⟨hv, hw⟩ | ⟨id, id', hv, hw, hrecast⟩
  · rw [hv, hw]
  · cases hrecast with
    | same => rw [hv, hw]
    | map | object => exact absurd hv (hid _)

theorem runFrom_recast (hps : ∀ p ∈ ps, p.Blind) (h : List.Forall₂ Recast entities others)
    (hids : ∀ e ∈ entities, PlainId idField e) (mode : MatchMode) (s : Selection) (position : Nat) :
    runFrom mode ps idField s position entities = runFrom mode ps idField s position others := by
  induction h generalizing s position with
  | nil => rfl
  | @cons v w _ _ hrecast _ ih =>
    obtain ⟨hid, hids⟩ := List.forall_mem_cons.1 hids
    have hstep : step mode ps idField s position v = step mode ps idField s position w := by
      rw [step, step, entityId_recast hid hrecast, outcomes_recast hps hrecast]
    rw [runFrom, runFrom, hstep]
    simp only [ih hids]

/-- **Recast entities are selected alike.** -/
theorem select_recast :
    (∀ path x, Extractor.field path = .ok x → x.Blind) ∧ Catalogue.Blind .empty ∧
    ∀ k r set idField entities others, Catalogue.Blind k → List.Forall₂ Recast entities others →
      (∀ e ∈ entities, PlainId idField e) →
      PredicateSet.select k r idField set entities = PredicateSet.select k r idField set others := by
  refine ⟨fun path x hx => Extractor.blind_of_field hx, nofun, ?_⟩
  intro k r set idField entities others hk h hids
  rw [PredicateSet.select, PredicateSet.select]
  cases hbuild : set.build k r with
  | error f => rfl
  | ok ps => exact runFrom_recast (PredicateSet.blind_of_build hk hbuild) h hids _ _ _

/-- A barge with a load in its hold, made of maps. -/
def barge (name mass : Value) : Value :=
  .map [(.text "id", name), (.text "hold", .map [(.text "mass", mass)])]

/-- The hold of a barge is an object, and of another one everything but the hold is. -/
def barges (name mass : Value) : List Value := [
  .map [(.text "id", name), (.text "hold", .object [("mass", mass)])],
  .object [("id", .null), ("hold", .map [(.text "mass", .text "x")])]]

theorem recast_barge (name mass : Value) :
    List.Forall₂ Recast [barge name mass, barge .null (.text "x")] (barges name mass) := by
  have hhold : Recast (.map [(.text "mass", mass)]) (.object [("mass", mass)]) :=
    .object [("mass", mass, mass)] (List.forall_mem_singleton.2 (.same mass))
  refine .cons ?_ (.cons ?_ .nil)
  · refine .map [("id", name, name), ("hold", _, _)] ?_
    exact List.forall_mem_cons.2 ⟨.same name, List.forall_mem_singleton.2 hhold⟩
  · refine .object [("id", .null, .null), ("hold", _, _)] ?_
    exact List.forall_mem_cons.2 ⟨.same .null, List.forall_mem_singleton.2 (.same _)⟩

def heavyHold : PredicateSet := ⟨.all, [⟨"heavy", "hold.mass", "> 1", none⟩]⟩

theorem recast_heavyHold : Catalogue.Blind .empty ∧
    List.Forall₂ Recast [barge (.text "a") (.int 5), barge .null (.text "x")]
      (barges (.text "a") (.int 5)) ∧
    (∀ e ∈ [barge (.text "a") (.int 5), barge .null (.text "x")], PlainId "id" e) ∧
    heavyHold.select .empty .default "id" [barge (.text "a") (.int 5), barge .null (.text "x")] =
      heavyHold.select .empty .default "id" (barges (.text "a") (.int 5)) ∧
    (heavyHold.select .empty .default "id" (barges (.text "a") (.int 5))).toOption.map
      (fun s => (s.selectedIds, s.notApplicableIds)) = some (["a"], ["#1"]) := by
  obtain ⟨-, hk, hselect⟩ := select_recast
  have hids : ∀ e ∈ [barge (.text "a") (.int 5), barge .null (.text "x")], PlainId "id" e :=
    List.forall_mem_cons.2 ⟨nofun, List.forall_mem_singleton.2 nofun⟩
  exact ⟨hk, recast_barge _ _, hids, hselect _ _ _ _ _ _ hk (recast_barge _ _) hids,
    by decide +kernel⟩

end Selection

end EntitySelection
