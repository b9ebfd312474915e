import EntitySelection.Proofs.Workshop.Update

/-!
# The life of a mod

**Theorem (`session_lawful`).** In a session whose lookups answer as their type says, or fail, or
are cancelled, each action does what its law says (`Assigned`, `Updated`) to the mod that the
action before it left behind (`Runs`). The mod is well-formed all the time (`Sound`), and an
update asks for the id of the last assignment of an id that was accepted (`Leaves`).

One action is lawful by the cases of what it does (`lawful_perform`), a session by induction on
its actions (`runs_session`). What a session leaves of a property that no update changes follows
from the laws alone (`leaves_of_runs`).
-/

namespace EntitySelection.Workshop

open Schema

variable {m final : ModInfo} {p : Property} {v : Value} {lookup : Lookup} {answer : Answer}
  {id : Nat} {a : Action} {actions : List Action} {e : Event} {events : List Event}

/-! ## Answers as typed -/

/-- What a lookup can do: answer with nothing or with details under ids, fail, or be cancelled. -/
inductive Answer.Typed : Answer → Prop
  | nothing : Typed (.value .null)
  | details (entries : List (Value × Option ItemDetails)) : Typed (.details entries)
  | failure (f : Failure) : Typed (.failure f)
  | cancelled (f : Failure) : Typed (.cancelled f)

def Action.Typed : Action → Prop
  | .assign _ _ => True
  | .update lookup => ∀ ids, (lookup ids).Typed

theorem find_eq_failure_iff {f : Failure} (h : answer.Typed) :
    answer.find id = .failure f ↔ answer = .failure f := by
  cases h with
  | details entries => rw [Answer.find]; split <;> simp
  | _ => simp [Answer.find]

/-! ## The laws -/

/-- What an assignment does to a mod. A value that fits is accepted, and its property alone takes
it. Any other is refused: its field is reported, and the mod stays as it is. -/
structure Assigned (m : ModInfo) (p : Property) (v : Value) (e : Event) : Prop where
  before : e.before = m
  accepted_iff : e.result = .ok none ↔ ∃ w, Fits p v w
  accepted : e.result = .ok none → Fits p v (e.after.get p) ∧ ∀ q, q ≠ p → e.after.get q = m.get q
  refused_iff : (∃ f, e.result = .error f) ↔ ∀ w, ¬ Fits p v w
  refused : ∀ f, e.result = .error f → e.after = m ∧
    ∃ field issues, p.field? = some field ∧ f = .invalid ⟨ModItem.modelName, issues⟩ ∧
      ∀ i ∈ issues, i.path.head? = some (.field field)
  quiet : e.asked = [] ∧ e.log = []

/-- What an update does to a mod. It asks once, for the id of the mod. The mod takes over title
and description of the details under the id. Without them, it stays as it is and the log says so,
after the failure of the lookup if it failed. A cancellation escapes. -/
structure Updated (m : ModInfo) (answer : Answer) (e : Event) : Prop where
  before : e.before = m
  asked : e.asked = [[m.item.publishedFileId]]
  found_iff : e.result = .ok (some true) ↔ ∃ d, Holds answer m.item.publishedFileId d
  found : ∀ d, Holds answer m.item.publishedFileId d →
    e.after.get .friendlyName = .text d.title ∧ e.after.get .description = .text d.description ∧
      (∀ q, q ≠ .friendlyName → q ≠ .description → e.after.get q = m.get q) ∧
      e.log = [Update.retrieved m.item.publishedFileId]
  missed_iff : e.result = .ok (some false) ↔
    (∀ d, ¬ Holds answer m.item.publishedFileId d) ∧ ∀ f, answer ≠ .cancelled f
  missed : e.result = .ok (some false) → e.after = m ∧
    ((∃ f, answer = .failure f ∧
        e.log = [Update.lookupFailed f, Update.notRetrieved m.item.publishedFileId]) ∨
      (∀ f, answer ≠ .failure f) ∧ e.log = [Update.notRetrieved m.item.publishedFileId])
  cancelled_iff : ∀ f, e.result = .error f ↔ answer = .cancelled f
  cancelled : ∀ f, answer = .cancelled f → e.after = m ∧ e.log = []

/-- The law of an action. -/
inductive Lawful (m : ModInfo) : Action → Event → Prop
  | assign {p : Property} {v : Value} {e : Event} :
      Assigned m p v e → Lawful m (.assign p v) e
  | update {lookup : Lookup} {e : Event} :
      Updated m (lookup [m.item.publishedFileId]) e → Lawful m (.update lookup) e

theorem assigned_perform : Assigned m p v (m.perform (.assign p v)) := by
  have hexists := exists_assign_iff (m := m) (p := p) (v := v)
  cases hassign : m.assign p v with
  | ok after =>
    have hperform : m.perform (.assign p v) = ⟨m, after, .ok none, [], []⟩ := by
      simp [ModInfo.perform, hassign]
    have hfits : ∃ w, Fits p v w := hexists.1 ⟨after, hassign⟩
    rw [hperform]
    exact {
      before := rfl
      accepted_iff := iff_of_true rfl hfits
      accepted := fun _ => ⟨fits_of_assign hassign, fun q => get_of_assign hassign⟩
      refused_iff := iff_of_false nofun fun h => hfits.elim h
      refused := nofun
      quiet := ⟨rfl, rfl⟩ }
  | error f =>
    have hperform : m.perform (.assign p v) = ⟨m, m, .error f, [], []⟩ := by
      simp [ModInfo.perform, hassign]
    have hfits : ¬ ∃ w, Fits p v w := by
      rw [← hexists, hassign]
      simp
    rw [hperform]
    exact {
      before := rfl
      accepted_iff := iff_of_false nofun hfits
      accepted := nofun
      refused_iff := iff_of_true ⟨f, rfl⟩ (not_exists.1 hfits)
      refused := fun g hg => ⟨rfl, invalid_of_assign (Except.error.inj hg ▸ hassign)⟩
      quiet := ⟨rfl, rfl⟩ }

theorem updated_of_missed {log : List (Level × String)}
    (hperform : e = ⟨m, m, .ok (some false), [[m.item.publishedFileId]], log⟩)
    (hdetails : ∀ d, ¬ Holds answer m.item.publishedFileId d)
    (hcancelled : ∀ f, answer ≠ .cancelled f)
    (hlog : (∃ f, answer = .failure f ∧
        log = [Update.lookupFailed f, Update.notRetrieved m.item.publishedFileId]) ∨
      (∀ f, answer ≠ .failure f) ∧ log = [Update.notRetrieved m.item.publishedFileId]) :
    Updated m answer e := by
  subst hperform
  exact {
    before := rfl
    asked := rfl
    found_iff := iff_of_false nofun (not_exists.2 hdetails)
    found := fun d hd => absurd hd (hdetails d)
    missed_iff := iff_of_true rfl ⟨hdetails, hcancelled⟩
    missed := fun _ => ⟨rfl, hlog⟩
    cancelled_iff := fun f => iff_of_false nofun (hcancelled f)
    cancelled := fun f hf => absurd hf (hcancelled f) }

theorem updated_of_found {d : ItemDetails} (hd : answer.find m.item.publishedFileId = .details d)
    (hperform : e = ⟨m, ⟨{ m.item with friendlyName := d.title }, .text d.description⟩,
      .ok (some true), [[m.item.publishedFileId]], [Update.retrieved m.item.publishedFileId]⟩) :
    Updated m answer e := by
  have hcancelled : ∀ f, answer ≠ .cancelled f := by
    rintro f rfl
    nomatch hd
  subst hperform
  exact {
    before := rfl
    asked := rfl
    found_iff := iff_of_true rfl ⟨d, find_eq_details_iff.1 hd⟩
    found := fun d' hd' => by
      obtain rfl := Found.details.inj (hd.symm.trans (find_eq_details_iff.2 hd'))
      refine ⟨rfl, rfl, fun q htitle hdescription => ?_, rfl⟩
      cases q <;> first | rfl | contradiction
    missed_iff := iff_of_false nofun fun hmissed => hmissed.1 d (find_eq_details_iff.1 hd)
    missed := nofun
    cancelled_iff := fun f => iff_of_false nofun (hcancelled f)
    cancelled := fun f hf => absurd hf (hcancelled f) }

theorem updated_of_cancelled {f : Failure}
    (hperform : e = ⟨m, m, .error f, [[m.item.publishedFileId]], []⟩) :
    Updated m (.cancelled f) e := by
  have hdetails : ∀ d, ¬ Holds (.cancelled f) m.item.publishedFileId d := by
    rintro d ⟨entries, h, -⟩
    nomatch h
  subst hperform
  exact {
    before := rfl
    asked := rfl
    found_iff := iff_of_false nofun (not_exists.2 hdetails)
    found := fun d hd => absurd hd (hdetails d)
    missed_iff := iff_of_false nofun fun hmissed => hmissed.2 f rfl
    missed := nofun
    cancelled_iff := fun g => by simp
    cancelled := fun g _ => ⟨rfl, rfl⟩ }

theorem updated_perform (h : (lookup [m.item.publishedFileId]).Typed) :
    Updated m (lookup [m.item.publishedFileId]) (m.perform (.update lookup)) := by
  have hperform := @perform_update m lookup
  generalize lookup [m.item.publishedFileId] = answer at h hperform ⊢
  have hdetails := @find_eq_details_iff answer m.item.publishedFileId
  have hcancelled := @find_eq_cancelled_iff answer m.item.publishedFileId
  unfold ModInfo.update at hperform
  cases hfind : answer.find m.item.publishedFileId with
  | nothing =>
    have hfailure : ∀ f, answer ≠ .failure f := fun f hf => by
      simp [(find_eq_failure_iff h).2 hf] at hfind
    simp only [hfind, reduceCtorEq, false_iff] at hdetails hcancelled hperform
    exact updated_of_missed hperform @hdetails @hcancelled (.inr ⟨hfailure, rfl⟩)
  | failure f =>
    simp only [hfind, reduceCtorEq, false_iff] at hdetails hcancelled hperform
    exact updated_of_missed hperform @hdetails @hcancelled
      (.inl ⟨f, (find_eq_failure_iff h).1 hfind, rfl⟩)
  | details d =>
    simp only [hfind] at hperform
    exact updated_of_found hfind hperform
  | cancelled f =>
    simp only [hfind] at hperform
    obtain rfl := find_eq_cancelled_iff.1 hfind
    exact updated_of_cancelled hperform
  | value v =>
    -- The entries of a typed answer are details.
    cases find_eq_value_iff.1 hfind <;> nomatch h

theorem lawful_perform (h : a.Typed) : Lawful m a (m.perform a) := by
  cases a with
  | assign p v => exact .assign assigned_perform
  | update lookup => exact .update (updated_perform (h _))

/-! ## Sessions -/

/-- Actions, one after another, each lawful for the mod that the one before left behind. -/
inductive Runs : ModInfo → List Action → List Event → ModInfo → Prop
  | nil (m : ModInfo) : Runs m [] [] m
  | cons {m final : ModInfo} {a : Action} {e : Event} {actions : List Action}
      {events : List Event} :
      Lawful m a e → Runs e.after actions events final → Runs m (a :: actions) (e :: events) final

theorem runs_session (h : ∀ a ∈ actions, a.Typed) :
    ∃ final, Runs m actions (m.session actions) final := by
  induction actions generalizing m with
  | nil => exact ⟨m, .nil m⟩
  | cons a actions ih =>
    rw [List.forall_mem_cons] at h
    obtain ⟨final, hrest⟩ := ih (m := (m.perform a).after) h.2
    exact ⟨final, .cons (lawful_perform h.1) hrest⟩

/-- A session of two parts runs the second part from where the first one ended. -/
theorem runs_append {past later : List Action} (h : Runs m (past ++ later) events final) :
    ∃ middle before after, events = before ++ after ∧ before.length = past.length ∧
      Runs m past before middle ∧ Runs middle later after final := by
  induction past generalizing m events with
  | nil => exact ⟨m, [], events, rfl, rfl, .nil m, h⟩
  | cons a past ih =>
    cases h with
    | cons hlawful hrest =>
      obtain ⟨middle, before, after, rfl, hlength, hbefore, hafter⟩ := ih hrest
      exact ⟨middle, _ :: before, after, rfl, by simp [hlength], .cons hlawful hbefore, hafter⟩

/-! ## What a session leaves -/

/-- The value of a property after some actions: that of its last assignment that was accepted, or
the one before. -/
inductive Leaves (p : Property) : Value → List Action → Value → Prop
  | nil (w : Value) : Leaves p w [] w
  | accepted {w v taken last : Value} {actions : List Action} :
      Fits p v taken → Leaves p taken actions last → Leaves p w (.assign p v :: actions) last
  | other {w last : Value} {a : Action} {actions : List Action} :
      (∀ v, a = .assign p v → ∀ taken, ¬ Fits p v taken) → Leaves p w actions last →
        Leaves p w (a :: actions) last

theorem Assigned.keeps {q : Property} (h : Assigned m q v e) (hp : q = p → ∀ w, ¬ Fits p v w) :
    e.after.get p = m.get p := by
  by_cases haccepted : e.result = .ok none
  · refine (h.accepted haccepted).2 p fun hpq => ?_
    obtain ⟨w, hw⟩ := h.accepted_iff.1 haccepted
    exact hp hpq.symm w (hpq ▸ hw)
  · have hrefused : ∀ w, ¬ Fits q v w := not_exists.1 fun hfits => haccepted (h.accepted_iff.2 hfits)
    obtain ⟨f, hf⟩ := h.refused_iff.2 hrefused
    rw [(h.refused f hf).1]

/-- Updates leave the properties alone that they do not take over. -/
theorem Updated.keeps (h : Updated m answer e) (htitle : p ≠ .friendlyName)
    (hdescription : p ≠ .description) : e.after.get p = m.get p := by
  by_cases hfound : ∃ d, Holds answer m.item.publishedFileId d
  · obtain ⟨d, hd⟩ := hfound
    exact (h.found d hd).2.2.1 p htitle hdescription
  · by_cases hcancelled : ∃ f, answer = .cancelled f
    · obtain ⟨f, hf⟩ := hcancelled
      rw [(h.cancelled f hf).1]
    · have hmissed := h.missed_iff.2 ⟨not_exists.1 hfound, not_exists.1 hcancelled⟩
      rw [(h.missed hmissed).1]

theorem leaves_of_runs (htitle : p ≠ .friendlyName) (hdescription : p ≠ .description)
    (h : Runs m actions events final) : Leaves p (m.get p) actions (final.get p) := by
  induction h with
  | nil m => exact .nil _
  | cons hlawful _ ih =>
    cases hlawful with
    | @assign q v e hassigned =>
      -- Only an accepted assignment of the property itself gives it another value.
      by_cases hfits : q = p ∧ ∃ w, Fits p v w
      · obtain ⟨rfl, hfits⟩ := hfits
        exact .accepted (hassigned.accepted (hassigned.accepted_iff.2 hfits)).1 ih
      · rw [not_and, not_exists] at hfits
        rw [hassigned.keeps hfits] at ih
        refine .other (fun v' hassign => ?_) ih
        obtain ⟨rfl, rfl⟩ := Action.assign.inj hassign
        exact hfits rfl
    | update hupdated =>
      rw [hupdated.keeps htitle hdescription] at ih
      exact .other nofun ih

/-! ## The life of a mod -/

/-- A mod is well-formed: its properties are of the right kind, the id is not negative, and its
data pass the check of its model. -/
structure Sound (m : ModInfo) : Prop where
  name : ∃ s, m.get .name = .text s
  friendlyName : ∃ s, m.get .friendlyName = .text s
  publishedFileId : ∃ n : Int, m.get .publishedFileId = .int n ∧ 0 ≤ n
  isDependency : ∃ b, m.get .isDependency = .flag b
  checked : ModItem.check m.item.toValue = .ok m.item

theorem sound (m : ModInfo) : Sound m where
  name := ⟨_, rfl⟩
  friendlyName := ⟨_, rfl⟩
  publishedFileId := ⟨_, rfl, Int.natCast_nonneg _⟩
  isDependency := ⟨_, rfl⟩
  checked := check_toValue m.item

/-- **The life of a mod.** Each action is lawful for the mod that the one before left behind, the
mod is well-formed at first and after each action, and an update asks for the id that the actions
before it left. -/
theorem session_lawful (htyped : ∀ a ∈ actions, a.Typed) :
    (∃ final, Runs m actions (m.session actions) final) ∧
      (Sound m ∧ ∀ e ∈ m.session actions, Sound e.after) ∧
      ∀ past lookup later, actions = past ++ .update lookup :: later →
        ∃ e, (m.session actions)[past.length]? = some e ∧ ∃ id : Nat, e.asked = [[id]] ∧
          Leaves .publishedFileId (m.get .publishedFileId) past (.int id) := by
  obtain ⟨final, hruns⟩ := runs_session (m := m) htyped
  refine ⟨⟨final, hruns⟩, ⟨sound m, fun e _ => sound e.after⟩, ?_⟩
  rintro past lookup later rfl
  obtain ⟨middle, before, after, hevents, hlength, hpast, hlater⟩ := runs_append hruns
  cases hlater with
  | @cons _ _ _ e _ events hlawful _ =>
    cases hlawful with
    | update hupdated =>
      refine ⟨e, ?_, middle.item.publishedFileId, hupdated.asked, leaves_of_runs nofun nofun hpast⟩
      rw [hevents, ← hlength, List.getElem?_append_right (Nat.le_refl _), Nat.sub_self]
      rfl

/-- A workshop that has details of every item. -/
def stocked : Lookup := fun ids => .details (ids.map fun id =>
  (.int id, some ⟨id, "Better", "Faster."⟩))

def unreachable : Lookup := fun _ => .failure (.foreign "ConnectionError" "workshop unreachable")

def stopped : Lookup := fun _ => .cancelled (.foreign "CancelledError" "")

/-- An id is refused and another one accepted; then the mod is updated, with and without success. -/
def day : List Action := [.assign .publishedFileId (.int (-1)), .assign .publishedFileId (.int 7),
  .update unreachable, .update stocked, .update stopped]

theorem lawful_day :
    (∀ a ∈ day, a.Typed) ∧ (∃ final, Runs oldMod day (oldMod.session day) final) ∧
      (∃ e, (oldMod.session day)[3]? = some e ∧ ∃ id : Nat, e.asked = [[id]] ∧
        Leaves .publishedFileId (.int 42) (day.take 3) (.int id)) ∧
      (oldMod.session day).map (·.asked) = [[], [], [[7]], [[7]], [[7]]] ∧
      (oldMod.session day).map (·.result.toOption) =
        [none, some none, some (some false), some (some true), none] := by
  have htyped : ∀ a ∈ day, a.Typed := by
    simp only [day, List.forall_mem_cons]
    exact ⟨trivial, trivial, fun _ => .failure _, fun _ => .details _, fun _ => .cancelled _, nofun⟩
  obtain ⟨hruns, -, hasks⟩ := session_lawful (m := oldMod) htyped
  exact ⟨htyped, hruns, hasks (day.take 3) stocked _ rfl, rfl, rfl⟩

end EntitySelection.Workshop
