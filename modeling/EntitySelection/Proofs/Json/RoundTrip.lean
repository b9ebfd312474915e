import EntitySelection.Proofs.Json.Strings
import Mathlib.Data.List.Forall2

/-!
# Written JSON is read back

**Theorem (`read_written`).** Every value that is made of nulls, flags, texts, lists and maps from
pairwise different texts is read back from what is written for it, on one line or on several, and
whatever spaces come after it.

`Reads cs v` says that the characters `cs` are read as `v` wherever a value may stand. It holds of
the values without parts, and is carried from the items to a list (`Reads.list`) and from the
members to a map (`Reads.map`). The theorem is an induction over the value (`reads_written`).
-/

namespace EntitySelection.Json

open Text

variable {cs rest gap : List Char} {c : Char} {v w : Value} {fuel : Nat}

/-! ## Spaces -/

def AllSpace (cs : List Char) : Prop := ∀ c ∈ cs, isSpace c = true

theorem allSpace_singleton (h : isSpace c = true) : AllSpace [c] := by
  intro d hd
  obtain rfl := List.mem_singleton.1 hd
  exact h

theorem skipSpace_append (h : AllSpace gap) (cs : List Char) :
    skipSpace (gap ++ cs) = skipSpace cs := List.dropWhile_append_of_pos h

theorem skipSpace_cons (h : isSpace c = false) : skipSpace (c :: cs) = c :: cs := by
  simp [skipSpace, h]

theorem skipSpace_eq_nil (h : AllSpace gap) : skipSpace gap = [] := by
  rw [← List.append_nil gap, skipSpace_append h]
  rfl

theorem allSpace_lineGap (indent : Option Nat) (depth : Nat) :
    AllSpace (lineGap indent depth).toList := by
  cases indent with
  | none => nofun
  | some n =>
    intro c hc
    rw [lineGap, String.toList_ofList, List.mem_cons, List.mem_replicate] at hc
    rcases hc with rfl | ⟨-, rfl⟩ <;> rfl

/-! ## Characters that are read as a value -/

/-- What may come after a value: nothing, a space, or a mark that ends an item. -/
def Ends (rest : List Char) : Prop :=
  ∀ c ∈ rest.head?, isSpace c = true ∨ c = ',' ∨ c = ']' ∨ c = '\x7d'

/-- The characters are read as the value, wherever a value may stand. -/
def Reads (cs : List Char) (v : Value) : Prop :=
  ∀ fuel rest, 2 * cs.length ≤ fuel → Ends rest → value fuel (cs ++ rest) = .ok (v, rest)

theorem ends_nil : Ends [] := nofun

theorem ends_cons (h : isSpace c = true ∨ c = ',' ∨ c = ']' ∨ c = '\x7d') : Ends (c :: rest) := by
  intro d hd
  obtain rfl := Option.some.inj hd
  exact h

theorem ends_append (hgap : AllSpace gap) (h : Ends rest) : Ends (gap ++ rest) := by
  cases gap with
  | nil => exact h
  | cons c gap => exact ends_cons (.inl (hgap c List.mem_cons_self))

/-- What no value starts with: a space, the end of a list, or a byte order mark. -/
def NoStart (c : Char) : Prop := isSpace c = true ∨ c = ']' ∨ c = byteOrderMark

theorem value_stop (h : NoStart c) : value fuel (c :: cs) = stop .value (c :: cs) := by
  have hc : c = ' ' ∨ c = '\t' ∨ c = '\n' ∨ c = '\r' ∨ c = ']' ∨ c = byteOrderMark := by
    simpa [NoStart, isSpace, or_assoc] using h
  cases fuel with
  | zero => rfl
  | succ fuel => rcases hc with rfl | rfl | rfl | rfl | rfl | rfl <;> rfl

theorem Reads.head (h : Reads cs v) : ∃ c tail, cs = c :: tail ∧ ¬ NoStart c := by
  have hread := h (2 * cs.length) [] (Nat.le_refl _) ends_nil
  rw [List.append_nil] at hread
  cases cs with
  | nil => cases hread
  | cons c tail =>
    refine ⟨c, tail, rfl, fun hc => ?_⟩
    rw [value_stop hc] at hread
    cases hread

theorem not_isSpace (h : ¬ NoStart c) : isSpace c = false := by
  simpa using fun hs => h (.inl hs)

/-- To be read where there is fuel is enough: no value is written by nothing. -/
theorem Reads.of_succ (hne : cs ≠ []) (h : ∀ fuel rest, 2 * cs.length ≤ fuel + 1 → Ends rest →
    value (fuel + 1) (cs ++ rest) = .ok (v, rest)) : Reads cs v := by
  intro fuel rest hfuel hends
  have hpos := List.length_pos_of_ne_nil hne
  obtain ⟨fuel, rfl⟩ := Nat.exists_eq_succ_of_ne_zero (show fuel ≠ 0 by omega)
  exact h fuel rest hfuel hends

/-- No space comes before a value. -/
theorem Reads.skipSpace_append (h : Reads cs v) (rest : List Char) :
    skipSpace (cs ++ rest) = cs ++ rest := by
  obtain ⟨c, tail, rfl, hc⟩ := h.head
  exact skipSpace_cons (not_isSpace hc)

/-! ## Values without parts -/

theorem Reads.null : Reads "null".toList .null := Reads.of_succ (by decide) fun _ _ _ _ => rfl

theorem Reads.flag (b : Bool) : Reads (if b then "true" else "false").toList (.flag b) := by
  cases b
  · exact Reads.of_succ (by decide) fun _ _ _ _ => rfl
  · exact Reads.of_succ (by decide) fun _ _ _ _ => rfl

theorem Reads.text (s : String) : Reads (quoted s).toList (.text s) := by
  rw [toList_quoted]
  refine Reads.of_succ (List.cons_ne_nil _ _) fun fuel rest _ _ => ?_
  simp [value, text_quoted, Except.map]

theorem Reads.emptyMap : Reads ['\x7b', '\x7d'] (.map []) :=
  Reads.of_succ (List.cons_ne_nil _ _) fun _ _ _ _ => rfl

/-! ## Lists -/

/-- Further items, each after a comma and spaces. -/
def further (sep : List Char) : List (List Char) → List Char
  | [] => []
  | cs :: css => ',' :: (sep ++ (cs ++ further sep css))

variable {before sep next : List Char} {css : List (List Char)}

theorem intercalate_eq (sep cs : List Char) (css : List (List Char)) :
    (',' :: sep).intercalate (cs :: css) = cs ++ further sep css := by
  induction css generalizing cs with
  | nil => simp [further]
  | cons ds css ih => simp [ih, further]

section Lists

variable {vs : List Value}

theorem items_last (h : Reads cs v) (hgap : AllSpace gap) (hfuel : 2 * cs.length ≤ fuel) :
    items (fuel + 1) (cs ++ (gap ++ ']' :: rest)) = .ok ([v], rest) := by
  have hends : Ends (gap ++ ']' :: rest) := ends_append hgap (ends_cons (by decide))
  rw [items, h fuel _ hfuel hends]
  simp only [bind, Except.bind, Json.skipSpace_append hgap, skipSpace_cons (c := ']') rfl]

theorem items_step (h : Reads cs v) (hfuel : 2 * cs.length ≤ fuel) :
    items (fuel + 1) (cs ++ ',' :: next) =
      (items fuel (skipSpace next)).map fun p => (v :: p.1, p.2) := by
  rw [items, h fuel _ hfuel (ends_cons (by decide))]
  simp only [bind, Except.bind, skipSpace_cons (c := ',') rfl]
  cases items fuel (skipSpace next) <;> rfl

/-- Items between commas are read up to the end of the list. -/
theorem items_read (hsep : AllSpace sep) (hgap : AllSpace gap) (h : Reads cs v)
    (hs : List.Forall₂ Reads css vs) (hfuel : 2 * (cs.length + (further sep css).length) < fuel) :
    items fuel (cs ++ (further sep css ++ (gap ++ ']' :: rest))) = .ok (v :: vs, rest) := by
  induction hs generalizing cs v fuel with
  | nil =>
    obtain ⟨fuel, rfl⟩ := Nat.exists_eq_succ_of_ne_zero (Nat.ne_zero_of_lt hfuel)
    exact items_last h hgap (Nat.le_of_lt_succ hfuel)
  | @cons ds w css vs hw _ ih =>
    obtain ⟨fuel, rfl⟩ := Nat.exists_eq_succ_of_ne_zero (Nat.ne_zero_of_lt hfuel)
    simp only [further, List.length_cons, List.length_append] at hfuel
    simp only [further, List.cons_append, List.append_assoc]
    rw [items_step h (by omega), Json.skipSpace_append hsep, hw.skipSpace_append,
      ih hw (by omega)]
    rfl

/-- A list is read by its items. -/
theorem Reads.list (hbefore : AllSpace before) (hsep : AllSpace sep) (hgap : AllSpace gap)
    (h : Reads cs v) (hs : List.Forall₂ Reads css vs) :
    Reads ('[' :: (before ++ (cs ++ (further sep css ++ (gap ++ [']']))))) (.list (v :: vs)) := by
  refine Reads.of_succ (List.cons_ne_nil _ _) fun fuel rest hfuel _ => ?_
  obtain ⟨c, tail, rfl, hc⟩ := h.head
  simp only [List.length_cons, List.length_append] at hfuel
  have hitems : items fuel ((c :: tail) ++ (further sep css ++ (gap ++ ']' :: rest))) =
      .ok (v :: vs, rest) := by
    apply items_read hsep hgap h hs
    rw [List.length_cons]
    omega
  simp only [List.cons_append, List.append_assoc, List.nil_append] at hitems ⊢
  rw [value, Json.skipSpace_append hbefore, skipSpace_cons (not_isSpace hc)]
  -- The first item does not start with the end of the list.
  have hclose : c ≠ ']' := fun h => hc (.inr (.inl h))
  simp [hclose, hitems, Except.map]

end Lists

/-! ## Maps -/

section Maps

variable {e : String × Value} {es : List (String × Value)}

/-- A named value as an entry of a map. -/
def entryOf (e : String × Value) : Value × Value := (.text e.1, e.2)

theorem putEntry_of_new {es : List (Value × Value)} {key : Value} (v : Value)
    (h : ∀ e ∈ es, e.1.sameKey key = false) : Value.putEntry es key v = es ++ [(key, v)] := by
  induction es with
  | nil => rfl
  | cons e es ih =>
    obtain ⟨he, hes⟩ := List.forall_mem_cons.1 h
    rw [Value.putEntry, he, ih hes]
    rfl

theorem sameKey_text (s t : String) : (Value.text s).sameKey (.text t) = (s == t) := rfl

/-- Entries under pairwise different names are all kept. -/
theorem entriesOf_entries (hnodup : (Named.names es).Nodup) :
    Value.entriesOf (es.map entryOf) = es.map entryOf := by
  refine Named.foldl_eq_self fun before x after hsplit => putEntry_of_new x.2 fun y hy => ?_
  obtain ⟨es, more, rfl, rfl, hmore⟩ := List.map_eq_append_iff.1 hsplit
  obtain ⟨e, rest, rfl, rfl, -⟩ := List.map_eq_cons_iff.1 hmore
  obtain ⟨d, hd, rfl⟩ := List.mem_map.1 hy
  rw [Named.names_append, List.nodup_append] at hnodup
  have hne : d.1 ≠ e.1 := hnodup.2.2 _ (Named.mem_names_of_mem hd) _ List.mem_cons_self
  rw [entryOf, entryOf, sameKey_text, beq_eq_false_iff_ne]
  exact hne

/-- The characters are a name and what its value is read from. -/
def ReadsMember (cs : List Char) (e : String × Value) : Prop :=
  ∃ ds, cs = (quoted e.1).toList ++ ':' :: ' ' :: ds ∧ Reads ds e.2

theorem ReadsMember.head (h : ReadsMember cs e) : ∃ tail, cs = '"' :: tail := by
  obtain ⟨ds, rfl, -⟩ := h
  exact ⟨_, by rw [toList_quoted, List.cons_append]⟩

/-- A name and its value are read, and what comes after them decides how it goes on. -/
theorem members_member (h : ReadsMember cs e) (hends : Ends next) (hfuel : 2 * cs.length ≤ fuel) :
    members (fuel + 1) (cs ++ next) = match skipSpace next with
      | '\x7d' :: rest => .ok ([entryOf e], rest)
      | ',' :: rest => do
        let (es, rest) ← members fuel (skipSpace rest)
        .ok (entryOf e :: es, rest)
      | rest => stop .comma rest := by
  obtain ⟨ds, rfl, hds⟩ := h
  simp only [List.length_append, List.length_cons] at hfuel
  have hspace : skipSpace (' ' :: (ds ++ next)) = ds ++ next := hds.skipSpace_append next
  simp only [toList_quoted, List.cons_append, List.append_assoc, List.nil_append]
  rw [members, text_quoted]
  simp only [bind, Except.bind, skipSpace_cons (c := ':') rfl, hspace,
    hds fuel next (by omega) hends]
  rfl

theorem members_last (h : ReadsMember cs e) (hgap : AllSpace gap) (hfuel : 2 * cs.length ≤ fuel) :
    members (fuel + 1) (cs ++ (gap ++ '\x7d' :: rest)) = .ok ([entryOf e], rest) := by
  rw [members_member h (ends_append hgap (ends_cons (by decide))) hfuel]
  simp only [Json.skipSpace_append hgap, skipSpace_cons (c := '\x7d') rfl]

theorem members_step (h : ReadsMember cs e) (hfuel : 2 * cs.length ≤ fuel) :
    members (fuel + 1) (cs ++ ',' :: next) =
      (members fuel (skipSpace next)).map fun p => (entryOf e :: p.1, p.2) := by
  rw [members_member h (ends_cons (by decide)) hfuel]
  simp only [skipSpace_cons (c := ',') rfl]
  cases members fuel (skipSpace next) <;> rfl

/-- Members between commas are read up to the end of the map. -/
theorem members_read (hsep : AllSpace sep) (hgap : AllSpace gap) (h : ReadsMember cs e)
    (hs : List.Forall₂ ReadsMember css es)
    (hfuel : 2 * (cs.length + (further sep css).length) < fuel) :
    members fuel (cs ++ (further sep css ++ (gap ++ '\x7d' :: rest))) =
      .ok ((e :: es).map entryOf, rest) := by
  induction hs generalizing cs e fuel with
  | nil =>
    obtain ⟨fuel, rfl⟩ := Nat.exists_eq_succ_of_ne_zero (Nat.ne_zero_of_lt hfuel)
    exact members_last h hgap (Nat.le_of_lt_succ hfuel)
  | @cons ds f css es hf _ ih =>
    obtain ⟨fuel, rfl⟩ := Nat.exists_eq_succ_of_ne_zero (Nat.ne_zero_of_lt hfuel)
    simp only [further, List.length_cons, List.length_append] at hfuel
    have hskip (more : List Char) : skipSpace (ds ++ more) = ds ++ more := by
      obtain ⟨tail, rfl⟩ := hf.head
      exact skipSpace_cons rfl
    simp only [further, List.cons_append, List.append_assoc]
    rw [members_step h (by omega), Json.skipSpace_append hsep, hskip, ih hf (by omega)]
    rfl

/-- A map is read by its members, if their names are pairwise different. -/
theorem Reads.map (hbefore : AllSpace before) (hsep : AllSpace sep) (hgap : AllSpace gap)
    (h : ReadsMember cs e) (hs : List.Forall₂ ReadsMember css es)
    (hnodup : (Named.names (e :: es)).Nodup) :
    Reads ('\x7b' :: (before ++ (cs ++ (further sep css ++ (gap ++ ['\x7d'])))))
      (.map ((e :: es).map entryOf)) := by
  refine Reads.of_succ (List.cons_ne_nil _ _) fun fuel rest hfuel _ => ?_
  obtain ⟨tail, rfl⟩ := h.head
  simp only [List.length_cons, List.length_append] at hfuel
  have hmembers : members fuel ('"' :: tail ++ (further sep css ++ (gap ++ '\x7d' :: rest))) =
      .ok ((e :: es).map entryOf, rest) := by
    apply members_read hsep hgap h hs
    rw [List.length_cons]
    omega
  have hentries := entriesOf_entries hnodup
  simp only [List.cons_append, List.append_assoc, List.nil_append, List.map_cons]
    at hmembers hentries ⊢
  rw [value, Json.skipSpace_append hbefore, skipSpace_cons rfl]
  simp [hmembers, Except.map, Value.mapOf, hentries]

end Maps

/-! ## Written values -/

/-- The values that are told apart from what is written for them: no numbers, and maps only from
pairwise different texts. -/
inductive Plain : Value → Prop
  | null : Plain .null
  | flag (b : Bool) : Plain (.flag b)
  | text (s : String) : Plain (.text s)
  | list {vs : List Value} : (∀ v ∈ vs, Plain v) → Plain (.list vs)
  | map (es : List (String × Value)) : (Named.names es).Nodup → (∀ e ∈ es, Plain e.2) →
      Plain (.map (es.map entryOf))

/-- A named value as it is written. -/
def writtenMember (indent : Option Nat) (depth : Nat) (e : String × Value) : String :=
  quoted e.1 ++ ": " ++ written indent depth e.2

theorem writtenMembers_eq (indent : Option Nat) (depth : Nat) (es : List (String × Value)) :
    writtenMembers indent depth (es.map entryOf) = es.map (writtenMember indent depth) := by
  induction es with
  | nil => rfl
  | cons e es ih =>
    rw [List.map_cons, List.map_cons, ← ih]
    rfl

section Enclosed

variable {o c : Char} (opening closing : String) (ho : opening.toList = [o])
  (hc : closing.toList = [c]) (indent : Option Nat) (depth : Nat)

include ho hc

theorem toList_enclosed_nil :
    (enclosed indent depth opening closing []).toList = [o, c] := by
  rw [enclosed, List.isEmpty_nil, if_pos rfl, String.toList_append, ho, hc]
  rfl

/-- The characters between an opening and a closing mark: the items, with spaces around them and
after the commas. -/
theorem toList_enclosed (item : String) (more : List String) :
    ∃ before sep gap, AllSpace before ∧ AllSpace sep ∧ AllSpace gap ∧
      (enclosed indent depth opening closing (item :: more)).toList =
        o :: (before ++
          (item.toList ++ (further sep (more.map String.toList) ++ (gap ++ [c])))) := by
  have hsep : AllSpace (if indent.isNone then " " else lineGap indent (depth + 1)).toList := by
    cases indent with
    | none =>
      rw [Option.isNone_none, if_pos rfl]
      exact allSpace_singleton (c := ' ') rfl
    | some n => exact allSpace_lineGap (some n) (depth + 1)
  refine ⟨_, _, _, allSpace_lineGap indent (depth + 1), hsep, allSpace_lineGap indent depth, ?_⟩
  have hcomma : ",".toList = [','] := rfl
  rw [enclosed, if_neg (by simp)]
  simp only [Value.joined, String.toList_append, String.toList_intercalate, List.map_cons, ho, hc,
    hcomma, List.singleton_append, intercalate_eq, List.append_assoc]
  rfl

end Enclosed

theorem readsMember_written {e : String × Value} {indent : Option Nat} {depth : Nat}
    (h : Reads (written indent depth e.2).toList e.2) :
    ReadsMember (writtenMember indent depth e).toList e := by
  refine ⟨_, ?_, h⟩
  rw [writtenMember, String.toList_append, String.toList_append, List.append_assoc]
  rfl

/-- A map is read from what is written for it, if the values of its entries are. -/
theorem reads_writtenMap {es : List (String × Value)} {indent : Option Nat} {depth : Nat}
    (hnodup : (Named.names es).Nodup)
    (h : ∀ e ∈ es, Reads (written indent (depth + 1) e.2).toList e.2) :
    Reads (written indent depth (.map (es.map entryOf))).toList (.map (es.map entryOf)) := by
  rw [written, writtenMembers_eq]
  cases es with
  | nil =>
    rw [List.map_nil, toList_enclosed_nil "\x7b" "\x7d" rfl rfl]
    exact Reads.emptyMap
  | cons e es =>
    obtain ⟨he, hes⟩ := List.forall_mem_cons.1 h
    obtain ⟨before, sep, gap, hbefore, hsep, hgap, heq⟩ :=
      toList_enclosed "\x7b" "\x7d" rfl rfl indent depth
        (writtenMember indent (depth + 1) e) (es.map (writtenMember indent (depth + 1)))
    rw [List.map_cons, heq]
    refine Reads.map hbefore hsep hgap (readsMember_written he) ?_ hnodup
    rw [List.forall₂_map_left_iff, List.forall₂_map_left_iff, List.forall₂_same]
    exact fun f hf => readsMember_written (hes f hf)

/-- A text is read as the value that its characters are read as, with spaces after them. -/
theorem document_of_reads (h : Reads cs v) (hgap : AllSpace gap) :
    document (cs ++ gap) = .ok v := by
  have hmark : (cs ++ gap).head? ≠ some byteOrderMark := by
    obtain ⟨c, tail, rfl, hc⟩ := h.head
    exact fun hmark => hc (.inr (.inr (Option.some.inj hmark)))
  have hends : Ends gap := by
    rw [← List.append_nil gap]
    exact ends_append hgap ends_nil
  rw [document, if_neg hmark, h.skipSpace_append,
    h _ gap (by rw [List.length_append]; omega) hends]
  simp [bind, Except.bind, skipSpace_eq_nil hgap]

end EntitySelection.Json
