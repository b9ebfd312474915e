/-!
# Named things

A list of things by name in which each name occurs once; names may be of any type. Putting a
thing under a name that is there already keeps the place of the name and replaces the thing.

Main statements: what was put is found (`lookup_put_self`), nothing else changes
(`lookup_put_of_ne`), and a new name goes to the end (`put_of_not_mem`).
-/

namespace EntitySelection.Named

/-- Puts a thing under a name: in the place of the name, or at the end. -/
def put {κ α : Type} [BEq κ] (entries : List (κ × α)) (name : κ) (a : α) : List (κ × α) :=
  match entries with
  | [] => [(name, a)]
  | (n, b) :: rest => if n == name then (n, a) :: rest else (n, b) :: put rest name a

/-- Puts a thing under a name that has none yet. -/
def putNew {κ α : Type} [BEq κ] (entries : List (κ × α)) (name : κ) (a : α) : List (κ × α) :=
  match entries.lookup name with
  | some _ => entries
  | none => put entries name a

/-- The things of a list of names, the last one of each name. -/
def ofPairs {κ α : Type} [BEq κ] (pairs : List (κ × α)) : List (κ × α) :=
  pairs.foldl (fun entries p => put entries p.1 p.2) []

/-- The names, in the order in which they came. -/
def names {κ α : Type} (entries : List (κ × α)) : List κ := entries.map (·.1)

@[simp] theorem names_nil {κ α : Type} : names ([] : List (κ × α)) = [] := rfl

@[simp] theorem names_cons {κ α : Type} (e : κ × α) (rest : List (κ × α)) :
    names (e :: rest) = e.1 :: names rest := rfl

@[simp] theorem names_append {κ α : Type} (xs ys : List (κ × α)) :
    names (xs ++ ys) = names xs ++ names ys := List.map_append

theorem mem_names_of_mem {κ α : Type} {entries : List (κ × α)} {name : κ} {a : α}
    (h : (name, a) ∈ entries) : name ∈ names entries := List.mem_map_of_mem h

variable {κ α : Type} [BEq κ] [LawfulBEq κ]

theorem lookup_put_self (entries : List (κ × α)) (name : κ) (a : α) :
    (put entries name a).lookup name = some a := by
  induction entries with
  | nil => simp [put]
  | cons e rest ih =>
    obtain ⟨n, b⟩ := e
    by_cases h : n = name
    · simp [put, h]
    · have h' : (name == n) = false := by simpa using Ne.symm h
      simp [put, h, List.lookup_cons, h', ih]

theorem lookup_put_of_ne (entries : List (κ × α)) {name other : κ} (a : α)
    (h : other ≠ name) : (put entries name a).lookup other = entries.lookup other := by
  induction entries with
  | nil =>
    have h' : (other == name) = false := by simpa using h
    simp [put, List.lookup_cons, h']
  | cons e rest ih =>
    obtain ⟨n, b⟩ := e
    by_cases hn : n = name
    · have h' : (other == n) = false := by simpa [hn] using h
      simp [put, hn, List.lookup_cons, hn ▸ h']
    · simp [put, hn, List.lookup_cons, ih]

theorem lookup_put (entries : List (κ × α)) (name other : κ) (a : α) :
    (put entries name a).lookup other =
      if other == name then some a else entries.lookup other := by
  by_cases h : other = name
  · subst h
    simp [lookup_put_self]
  · simp [lookup_put_of_ne entries a h, h]

theorem lookup_putNew (entries : List (κ × α)) (name other : κ) (a : α) :
    (putNew entries name a).lookup other =
      if other == name then some ((entries.lookup name).getD a) else entries.lookup other := by
  unfold putNew
  split
  · rename_i b hb
    by_cases h : other = name
    · simp [h, hb]
    · simp [h]
  · rename_i hb
    simp [lookup_put, hb]

theorem put_of_not_mem {entries : List (κ × α)} {name : κ} (a : α)
    (h : name ∉ names entries) : put entries name a = entries ++ [(name, a)] := by
  induction entries with
  | nil => rfl
  | cons e rest ih =>
    obtain ⟨n, b⟩ := e
    simp only [names_cons, List.mem_cons, not_or] at h
    have hn : (n == name) = false := by simpa using Ne.symm h.1
    simp [put, hn, ih h.2]

/-- Putting what is there already changes nothing. -/
theorem put_of_lookup {entries : List (κ × α)} {name : κ} {a : α}
    (h : entries.lookup name = some a) : put entries name a = entries := by
  induction entries with
  | nil => simp at h
  | cons e rest ih =>
    obtain ⟨n, b⟩ := e
    by_cases hn : n = name
    · subst hn
      obtain rfl : b = a := by simpa using h
      simp [put]
    · have h' : (name == n) = false := by simpa using Ne.symm hn
      simp [put, hn, ih (by simpa [List.lookup_cons, h'] using h)]

/-- Items that are put one after another at the end make up the list they come from. -/
theorem foldl_eq_self {ι : Type} {f : List ι → ι → List ι} {xs : List ι}
    (h : ∀ before x after, xs = before ++ x :: after → f before x = before ++ [x]) :
    xs.foldl f [] = xs := by
  suffices ∀ before after, xs = before ++ after → after.foldl f before = xs from this [] xs rfl
  intro before after hsplit
  induction after generalizing before with
  | nil => rw [List.foldl_nil, hsplit, List.append_nil]
  | cons x after ih =>
    rw [List.foldl_cons, h before x after hsplit]
    exact ih (before ++ [x]) (by rw [hsplit, List.append_assoc, List.singleton_append])

/-- A list in which no name occurs twice is kept as it is. -/
theorem ofPairs_of_nodup {entries : List (κ × α)} (h : (names entries).Nodup) :
    ofPairs entries = entries := by
  refine foldl_eq_self fun before e after hsplit => put_of_not_mem e.2 ?_
  rw [hsplit, names_append, List.nodup_append] at h
  exact fun hmem => h.2.2 _ hmem _ List.mem_cons_self rfl

/-- A name that is there already keeps its place. -/
theorem names_put_of_mem {entries : List (κ × α)} {name : κ} (a : α)
    (h : name ∈ names entries) : names (put entries name a) = names entries := by
  induction entries with
  | nil => simp at h
  | cons e rest ih =>
    obtain ⟨n, b⟩ := e
    by_cases hn : n = name
    · simp [put, hn]
    · have hrest : name ∈ names rest := (List.mem_cons.1 h).resolve_left (Ne.symm hn)
      simp [put, hn, ih hrest]

/-- Putting never makes a name occur twice. -/
theorem names_put_nodup {entries : List (κ × α)} (h : (names entries).Nodup) (name : κ) (a : α) :
    (names (put entries name a)).Nodup := by
  by_cases hmem : name ∈ names entries
  · rw [names_put_of_mem a hmem]
    exact h
  · rw [put_of_not_mem a hmem, names_append, List.nodup_append]
    refine ⟨h, List.nodup_cons.2 ⟨List.not_mem_nil, List.nodup_nil⟩, ?_⟩
    intro n hn m hm heq
    obtain rfl : m = name := by simpa using hm
    exact hmem (heq ▸ hn)

theorem lookup_isSome_iff {entries : List (κ × α)} {name : κ} :
    (entries.lookup name).isSome ↔ name ∈ names entries := by
  induction entries with
  | nil => simp
  | cons e rest ih =>
    obtain ⟨n, b⟩ := e
    by_cases h : name = n
    · simp [h]
    · have h' : (name == n) = false := by simpa using h
      simp only [List.lookup_cons, h', ih]
      simp [h]

theorem names_putNew (entries : List (κ × α)) (name : κ) (a : α) :
    names (putNew entries name a) =
      if name ∈ names entries then names entries else names entries ++ [name] := by
  unfold putNew
  split
  · next b hb =>
    have hmem : name ∈ names entries := lookup_isSome_iff.1 (by simp [hb])
    rw [if_pos hmem]
  · next hb =>
    have hmem : name ∉ names entries := by
      rw [← lookup_isSome_iff, hb]
      simp
    simp [put_of_not_mem a hmem, hmem]

theorem mem_of_lookup {entries : List (κ × α)} {name : κ} {a : α}
    (h : entries.lookup name = some a) : (name, a) ∈ entries := by
  induction entries with
  | nil => simp at h
  | cons e rest ih =>
    obtain ⟨n, b⟩ := e
    by_cases hn : name = n
    · subst hn
      obtain rfl : b = a := by simpa using h
      exact List.mem_cons_self
    · have h' : (name == n) = false := by simpa using hn
      exact List.mem_cons_of_mem _ (ih (by simpa [List.lookup_cons, h'] using h))

/-- Where no name occurs twice, every entry is found under its name. -/
theorem lookup_eq_some_iff {entries : List (κ × α)} {name : κ} {a : α}
    (hnodup : (names entries).Nodup) :
    entries.lookup name = some a ↔ (name, a) ∈ entries := by
  refine ⟨mem_of_lookup, fun h => ?_⟩
  induction entries with
  | nil => simp at h
  | cons e rest ih =>
    obtain ⟨n, b⟩ := e
    rw [names_cons, List.nodup_cons] at hnodup
    rcases List.mem_cons.1 h with h | h
    · obtain ⟨rfl, rfl⟩ := Prod.mk.inj h
      simp
    · have hn : name ≠ n := fun hn => hnodup.1 (hn ▸ mem_names_of_mem h)
      have h' : (name == n) = false := by simpa using hn
      simp [List.lookup_cons, h', ih hnodup.2 h]

end EntitySelection.Named
