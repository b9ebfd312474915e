import EntitySelection.Proofs.Success
import EntitySelection.Proofs.Workshop.Assignment
import EntitySelection.Workshop.Session

/-!
# Updates, whatever the workshop answers

What an answer holds of an item is read off the last entry under its id (`Under`). The details of
a typed answer are taken over as they are (`Holds`). Of any other entry (`HoldsValue`) title and
description are read as attributes, and the title is checked like an assignment.

**Theorem (`update_contained`).** An update that is not cancelled answers true or false, and
unless it answers true the mod is as it was. The lookup may fail, or answer with any value: what
has no entries is a failure like any other. An entry that is not what the type of a lookup
promises is the exception. One without a title that is a text, or without a description, ends
the update (`exists_update_iff`), and its title may be taken over before its description is
missed (`uncontained_titleOnly`).
-/

namespace EntitySelection.Workshop

open Schema

variable {m : ModInfo} {lookup : Lookup} {answer : Answer} {id : Nat} {v : Value}

/-! ## The entry under an id -/

section Entries

variable {α : Type} {entries : List (Value × α)} {a : α}

/-- The last entry whose key is the id. -/
def Under (entries : List (Value × α)) (id : Nat) (a : α) : Prop :=
  ∃ k earlier later, entries = earlier ++ (k, a) :: later ∧ k.sameKey (.int id) = true ∧
    ∀ e ∈ later, e.1.sameKey (.int id) = false

theorem entryOfId_eq_some_iff : entryOfId entries id = some a ↔ Under entries id a := by
  unfold entryOfId Under
  simp only [Option.map_eq_some_iff, List.find?_eq_some_iff_append]
  constructor
  · intro h
    obtain ⟨⟨k, a⟩, ⟨hk, later, earlier, hreverse, hlater⟩, rfl⟩ := h
    refine ⟨k, earlier.reverse, later.reverse, ?_, hk, fun e he => ?_⟩
    · simpa using congrArg List.reverse hreverse
    · simpa using hlater e (List.mem_reverse.1 he)
  · intro h
    obtain ⟨k, earlier, later, rfl, hk, hlater⟩ := h
    refine ⟨(k, a), ⟨hk, later.reverse, earlier.reverse, by simp, fun e he => ?_⟩, rfl⟩
    simpa using hlater e (List.mem_reverse.1 he)

end Entries

/-! ## What an answer holds -/

/-- The answer has details under the id. -/
def Holds (answer : Answer) (id : Nat) (d : ItemDetails) : Prop :=
  ∃ entries, answer = .details entries ∧ Under entries id (some d)

/-- The answer is not the typed one, and has a value under the id that is not null. -/
inductive HoldsValue : Answer → Nat → Value → Prop
  | entry {entries : List (Value × Value)} {id : Nat} {v : Value} :
      Under entries id v → v ≠ .null → HoldsValue (.value (.map entries)) id v
  | got {get : Nat → Except Failure Value} {id : Nat} {v : Value} :
      get id = .ok v → v ≠ .null → HoldsValue (.getter get) id v

theorem find_eq_details_iff {d : ItemDetails} : answer.find id = .details d ↔ Holds answer id d := by
  unfold Holds
  simp only [← entryOfId_eq_some_iff]
  fun_cases Answer.find id answer with
  | case1 entries d' h => simp [h]
  | case2 entries h => simp_all
  | _ => simp

theorem find_eq_value_iff : answer.find id = .value v ↔ HoldsValue answer id v := by
  constructor
  · fun_cases Answer.find id answer with
    | case5 entries w hne hw =>
      intro h
      exact Found.value.inj h ▸ .entry (entryOfId_eq_some_iff.1 hw) hne
    | case11 get w hne hw =>
      intro h
      exact Found.value.inj h ▸ .got hw hne
    | _ => simp
  · intro h
    cases h with
    | entry hv hne => simp [Answer.find, entryOfId_eq_some_iff.2 hv]
    | got hv hne => simp [Answer.find, hv]

theorem find_eq_cancelled_iff {f : Failure} :
    answer.find id = .cancelled f ↔ answer = .cancelled f := by
  fun_cases Answer.find id answer <;> simp

/-! ## Taking over an entry -/

/-- An entry has a title that is a text. -/
def Titled (v : Value) (s : String) : Prop :=
  ∃ attributes title, v = .object attributes ∧ attributes.lookup "title" = some title ∧
    Check.text title = .ok s

def Described (v d : Value) : Prop :=
  ∃ attributes, v = .object attributes ∧ attributes.lookup "description" = some d

/-- An entry has what an update takes over. -/
def Complete (v : Value) : Prop := (∃ s, Titled v s) ∧ ∃ d, Described v d

namespace Update

/-- Texts and bytes have a title as well, but one that is no text. -/
theorem entryAttribute_eq_ok_iff {name : String} {w : Value} :
    entryAttribute v name = .ok w ↔
      (∃ attributes, v = .object attributes ∧ attributes.lookup name = some w) ∨
        (((∃ s, v = .text s) ∨ ∃ bs, v = .bytes bs) ∧ name = "title" ∧ w = .object []) := by
  cases v with
  | object attributes =>
    cases hlookup : attributes.lookup name <;> simp [entryAttribute, hlookup]
  | text s => by_cases hname : name = "title" <;> simp [entryAttribute, hname, eq_comm]
  | bytes bs => by_cases hname : name = "title" <;> simp [entryAttribute, hname, eq_comm]
  | _ => simp [entryAttribute]

theorem description_eq_ok_iff {d : Value} :
    entryAttribute v "description" = .ok d ↔ Described v d := by
  simp [entryAttribute_eq_ok_iff, Described]

theorem retitle_eq_ok_iff {after : ModInfo} :
    (entryAttribute v "title").bind (m.assign .friendlyName) = .ok after ↔
      ∃ s, Titled v s ∧ { m with item.friendlyName := s } = after := by
  constructor
  · intro h
    obtain ⟨title, htitle, hassign⟩ := bind_eq_ok_iff.1 h
    obtain ⟨s, hs, rfl⟩ := assignField_eq_ok_iff.1 hassign
    obtain ⟨attributes, hv, hlookup⟩ | ⟨-, -, rfl⟩ := entryAttribute_eq_ok_iff.1 htitle
    · exact ⟨s, ⟨attributes, title, hv, hlookup, hs⟩, rfl⟩
    · simp [Check.text] at hs
  · intro h
    obtain ⟨s, ⟨attributes, title, hv, hlookup, hs⟩, rfl⟩ := h
    exact bind_eq_ok_iff.2 ⟨title, entryAttribute_eq_ok_iff.2 (.inl ⟨attributes, hv, hlookup⟩),
      assignField_eq_ok_iff.2 ⟨s, hs, rfl⟩⟩

/-- What taking over an entry does: all of it, the title alone, or nothing. -/
theorem take_cases (m : ModInfo) (v : Value) :
    (∃ s d, Titled v s ∧ Described v d ∧
        takeValue m v = ({ m with item.friendlyName := s, description := d }, .ok true)) ∨
      (∃ s f, Titled v s ∧ (∀ d, ¬ Described v d) ∧
        takeValue m v = ({ m with item.friendlyName := s }, .error f)) ∨
      ∃ f, (∀ s, ¬ Titled v s) ∧ takeValue m v = (m, .error f) := by
  unfold takeValue
  cases hretitle : (entryAttribute v "title").bind (m.assign .friendlyName) with
  | error f =>
    refine .inr (.inr ⟨f, fun s hs => ?_, rfl⟩)
    simp [retitle_eq_ok_iff.2 ⟨s, hs, rfl⟩] at hretitle
  | ok titled =>
    obtain ⟨s, hs, rfl⟩ := retitle_eq_ok_iff.1 hretitle
    cases hd : entryAttribute v "description" with
    | error f =>
      refine .inr (.inl ⟨s, f, hs, fun d hdescribed => ?_, rfl⟩)
      simp [description_eq_ok_iff.2 hdescribed] at hd
    | ok d => exact .inl ⟨s, d, hs, description_eq_ok_iff.1 hd, rfl⟩

theorem take_eq_ok_iff {b : Bool} : (takeValue m v).2 = .ok b ↔ Complete v ∧ b = true := by
  obtain ⟨s, d, hs, hd, heq⟩ | ⟨s, f, -, hd, heq⟩ | ⟨f, hs, heq⟩ := take_cases m v
  · have hcomplete : Complete v := ⟨⟨s, hs⟩, d, hd⟩
    simp [heq, hcomplete, eq_comm]
  · simp [heq, Complete, hd]
  · simp [heq, Complete, hs]

end Update

/-! ## Any answer -/

/-- An update that is not cancelled gives an answer of its own, but for entries that are not
complete. -/
theorem exists_update_iff :
    (∃ b, (m.update answer).result = .ok b) ↔ (∀ f, answer ≠ .cancelled f) ∧
      ∀ v, HoldsValue answer m.item.publishedFileId v → Complete v := by
  simp only [Ne, ← @find_eq_cancelled_iff answer m.item.publishedFileId, ← find_eq_value_iff]
  cases hfind : answer.find m.item.publishedFileId <;>
    simp [ModInfo.update, hfind, Update.take_eq_ok_iff]

/-- An update that does not answer true changes at most the friendly name, and that only for an
entry with a title and no description. -/
theorem update_keeps (h : (m.update answer).result ≠ .ok true) :
    (∀ p, p ≠ .friendlyName → (m.update answer).after.get p = m.get p) ∧
      ((∀ v s, HoldsValue answer m.item.publishedFileId v → Titled v s → ∃ d, Described v d) →
        (m.update answer).after = m) := by
  simp only [← find_eq_value_iff]
  cases hfind : answer.find m.item.publishedFileId with
  | value v =>
    simp only [ModInfo.update, hfind] at h ⊢
    obtain ⟨s, d, -, -, heq⟩ | ⟨s, f, hs, hd, heq⟩ | ⟨f, -, heq⟩ := Update.take_cases m v
    · simp [heq] at h
    · rw [heq]
      refine ⟨fun p hp => by cases p <;> first | rfl | contradiction, fun hdescribed => ?_⟩
      obtain ⟨d, hd'⟩ := hdescribed v s rfl hs
      exact absurd hd' (hd d)
    · rw [heq]
      exact ⟨fun _ _ => rfl, fun _ => rfl⟩
  | details d => simp [ModInfo.update, hfind] at h
  | _ => simp [ModInfo.update, hfind]

/-- An update calls the lookup once, for the id of the mod alone. -/
theorem perform_update : m.perform (.update lookup) =
    ⟨m, (m.update (lookup [m.item.publishedFileId])).after,
      (m.update (lookup [m.item.publishedFileId])).result.map some, [[m.item.publishedFileId]],
      (m.update (lookup [m.item.publishedFileId])).log⟩ := rfl

/-- **Updates are contained.** An update that is not cancelled answers true or false if the value
under the id, where there is one, is complete. Unless it answers true it leaves the mod alone,
but for the friendly name where that entry has a title and no description. -/
theorem update_contained (hcancelled : ∀ f, lookup [m.item.publishedFileId] ≠ .cancelled f) :
    ((∀ v, HoldsValue (lookup [m.item.publishedFileId]) m.item.publishedFileId v → Complete v) →
        ∃ b, (m.perform (.update lookup)).result = .ok (some b)) ∧
      ((m.perform (.update lookup)).result ≠ .ok (some true) →
        (∀ p, p ≠ .friendlyName → (m.perform (.update lookup)).after.get p = m.get p) ∧
          ((∀ v s, HoldsValue (lookup [m.item.publishedFileId]) m.item.publishedFileId v →
              Titled v s → ∃ d, Described v d) →
            (m.perform (.update lookup)).after = m)) := by
  refine ⟨fun hcomplete => ?_, fun hresult => update_keeps fun h => hresult ?_⟩
  · obtain ⟨b, hb⟩ := exists_update_iff.2 ⟨hcancelled, hcomplete⟩
    exact ⟨b, map_eq_ok_iff.2 ⟨b, hb, rfl⟩⟩
  · exact map_eq_ok_iff.2 ⟨true, h, rfl⟩

/-- A mod with the id 42. -/
def oldMod : ModInfo := .ofItem ⟨"42.sbm", "old", 42, false⟩

/-- A workshop that answers with a text. -/
def busy : Lookup := fun _ => .value (.text "busy")

/-- A workshop that answers with a value of a title alone. -/
def titleOnly : Lookup := fun ids => .value (.map (ids.map fun id =>
  (.int id, .object [("title", .text "Better")])))

theorem contained_busy :
    (∀ f, busy [42] ≠ .cancelled f) ∧ (∃ b, (oldMod.perform (.update busy)).result = .ok (some b)) ∧
      (oldMod.perform (.update busy)).after = oldMod := by
  have hcancelled : ∀ f, busy [42] ≠ .cancelled f := nofun
  have hvalue : ∀ v, ¬ HoldsValue (busy [42]) 42 v := by
    intro v h
    nomatch h
  obtain ⟨hanswers, hkeeps⟩ := update_contained (m := oldMod) hcancelled
  exact ⟨hcancelled, hanswers fun v hv => absurd hv (hvalue v),
    (hkeeps nofun).2 fun v _ hv => absurd hv (hvalue v)⟩

/-- An entry with a title alone ends the update after the title was taken over. -/
theorem uncontained_titleOnly :
    ∃ f, (oldMod.perform (.update titleOnly)).result = .error f ∧
      (oldMod.perform (.update titleOnly)).after.get .friendlyName = .text "Better" ∧
      oldMod.get .friendlyName = .text "old" :=
  ⟨_, rfl, rfl, rfl⟩

end EntitySelection.Workshop
