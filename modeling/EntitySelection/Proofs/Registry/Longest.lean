import EntitySelection.Proofs.Registry.Log
import EntitySelection.Proofs.Registry.Tokens
import EntitySelection.Query

/-!
# Longest tokens

The search for a token counts down from the length of the longest token, or of the text if that
is shorter. What it finds is the longest bound token that the text starts with
(`longestToken?_eq_some_iff`), and no bound token is beyond its reach
(`length_le_maxTokenLength`).

**What a text leads with (`Leads`).** What is split off is the longest bound token that the text
starts with, or nothing if there is none (`leads_splitToken`). So registries that agree on the
tokens that a text starts with split it alike (`splitToken_congr`). A token with a space behind it
is split off as it is, unless another token goes on with that space (`splitToken_space`).
-/

namespace EntitySelection.Registry

variable {r s : Registry} {cs : List Char} {c : Comparator} {t : String}

/-- The search finds the longest token within its bound. -/
theorem longestToken?_eq_some_iff {n k : Nat} :
    r.longestToken? cs n = some (c, k) ↔
      0 < k ∧ k ≤ n ∧ r.lookup (String.ofList (cs.take k)) = some c ∧
        ∀ j, k < j → j ≤ n → r.lookup (String.ofList (cs.take j)) = none := by
  induction n with
  | zero =>
    constructor
    · intro h
      simp [longestToken?] at h
    · intro h
      obtain ⟨hpos, hle, -⟩ := h
      omega
  | succ n ih =>
    rw [longestToken?]
    cases hl : r.lookup (String.ofList (cs.take (n + 1))) with
    | some d =>
      constructor
      · intro h
        obtain ⟨rfl, rfl⟩ := Prod.mk.inj (Option.some.inj h)
        exact ⟨Nat.succ_pos n, Nat.le_refl _, hl, fun j hj hle => by omega⟩
      · intro h
        obtain ⟨hpos, hle, hk, hnone⟩ := h
        obtain rfl : k = n + 1 := by
          by_contra hne
          have hfree := hnone (n + 1) (by omega) (Nat.le_refl _)
          simp [hl] at hfree
        rw [hl] at hk
        rw [Option.some.inj hk]
    | none =>
      rw [ih]
      constructor
      · intro h
        obtain ⟨hpos, hle, hk, hnone⟩ := h
        refine ⟨hpos, Nat.le_succ_of_le hle, hk, fun j hj hle' => ?_⟩
        rcases Nat.lt_or_ge n j with hlast | hearlier
        · obtain rfl : j = n + 1 := by omega
          exact hl
        · exact hnone j hj hearlier
      · intro h
        obtain ⟨hpos, hle, hk, hnone⟩ := h
        have hne : k ≠ n + 1 := by
          rintro rfl
          simp [hl] at hk
        exact ⟨hpos, by omega, hk, fun j hj hle' => hnone j hj (by omega)⟩

/-- Where the search finds nothing, there is nothing within its bound. -/
theorem lookup_take_of_longestToken? {n j : Nat} (h : r.longestToken? cs n = none) (hpos : 0 < j)
    (hle : j ≤ n) : r.lookup (String.ofList (cs.take j)) = none := by
  induction n with
  | zero => omega
  | succ n ih =>
    rw [longestToken?] at h
    cases hl : r.lookup (String.ofList (cs.take (n + 1))) with
    | some d => simp [hl] at h
    | none =>
      rw [hl] at h
      rcases Nat.lt_or_ge n j with hlast | hearlier
      · obtain rfl : j = n + 1 := by omega
        exact hl
      · exact ih h hearlier

/-! ## What a text leads with -/

/-- The comparator that a text leads with, and what follows: the comparator of the longest bound
token that the text starts with, or equality if it starts with none. -/
inductive Leads (r : Registry) (cs : List Char) : Comparator → List Char → Prop
  | token {t : String} {c : Comparator} {rest : List Char} (hl : r.lookup t = some c)
      (hcs : cs = t.toList ++ rest)
      (hlongest : ∀ u d, r.lookup u = some d → u.toList <+: cs → u.length ≤ t.length) :
      Leads r cs c rest
  | bare (hnone : ∀ u d, r.lookup u = some d → ¬ u.toList <+: cs) : Leads r cs .equal cs

/-- A text leads with one comparator only. -/
theorem Leads.unique {d : Comparator} {rest rest' : List Char} (hc : Leads r cs c rest)
    (hd : Leads r cs d rest') : c = d ∧ rest = rest' := by
  cases hc with
  | @token t _ _ hl hcs hlongest =>
    cases hd with
    | @token u _ _ hl' hcs' hlongest' =>
      have ht : t.toList <+: cs := ⟨rest, hcs.symm⟩
      have hu : u.toList <+: cs := ⟨rest', hcs'.symm⟩
      have hlength : t.toList.length = u.toList.length := by
        rw [String.length_toList, String.length_toList]
        exact Nat.le_antisymm (hlongest' t c hl ht) (hlongest u d hl' hu)
      have htu : t.toList = u.toList :=
        (List.prefix_of_prefix_length_le ht hu (Nat.le_of_eq hlength)).eq_of_length hlength
      obtain rfl : t = u := String.toList_inj.1 htu
      rw [hl] at hl'
      rw [hcs] at hcs'
      exact ⟨Option.some.inj hl', List.append_cancel_left hcs'⟩
    | bare hnone => exact absurd ⟨rest, hcs.symm⟩ (hnone t c hl)
  | bare hnone =>
    cases hd with
    | @token u _ _ hl hcs _ => exact absurd ⟨rest', hcs.symm⟩ (hnone u d hl)
    | bare _ => exact ⟨rfl, rfl⟩

/-- Only the tokens that a text starts with matter for what it leads with. -/
theorem Leads.congr {rest : List Char} (h : Leads r cs c rest)
    (hlookup : ∀ u d, u.toList <+: cs → (r.lookup u = some d ↔ s.lookup u = some d)) :
    Leads s cs c rest := by
  cases h with
  | @token t _ _ hl hcs hlongest =>
    refine .token ((hlookup t c ⟨rest, hcs.symm⟩).1 hl) hcs fun u d hu hprefix => ?_
    exact hlongest u d ((hlookup u d hprefix).2 hu) hprefix
  | bare hnone =>
    exact .bare fun u d hu hprefix => hnone u d ((hlookup u d hprefix).2 hu) hprefix

/-- A bound token that the text starts with is within the reach of the search. -/
theorem lookup_take_of_prefix (hl : r.lookup t = some c) (ht : t.toList <+: cs) :
    r.lookup (String.ofList (cs.take t.length)) = some c ∧
      t.length ≤ min r.maxTokenLength cs.length := by
  have hlen := length_le_maxTokenLength hl
  constructor
  · rw [← String.length_toList, ← List.prefix_iff_eq_take.1 ht, String.ofList_toList, hl]
  · rw [← String.length_toList] at hlen ⊢
    exact Nat.le_min.2 ⟨hlen, ht.length_le⟩

/-- **The search splits off what the text leads with**, if no bound token is empty. -/
theorem leads_splitToken (hne : ∀ t c, r.lookup t = some c → t ≠ "") (cs : List Char) :
    Leads r cs (r.splitToken cs).1 (r.splitToken cs).2 := by
  unfold splitToken
  cases hsearch : r.longestToken? cs (min r.maxTokenLength cs.length) with
  | some found =>
    obtain ⟨c, k⟩ := found
    obtain ⟨hpos, hle, hl, hnone⟩ := longestToken?_eq_some_iff.1 hsearch
    have hk : k ≤ cs.length := Nat.le_trans hle (Nat.min_le_right _ _)
    refine .token hl (by simp) fun u d hu hprefix => ?_
    obtain ⟨htake, hreach⟩ := lookup_take_of_prefix hu hprefix
    by_contra hlonger
    have hk' : (String.ofList (cs.take k)).length = k := by simp [hk]
    have hfree := hnone u.length (by omega) hreach
    simp [htake] at hfree
  | none =>
    refine .bare fun u d hu hprefix => ?_
    obtain ⟨htake, hreach⟩ := lookup_take_of_prefix hu hprefix
    have hpos : 0 < u.length := by
      rw [← String.length_toList]
      exact List.length_pos_of_ne_nil (by simpa using hne u d hu)
    have hfree := lookup_take_of_longestToken? hsearch hpos hreach
    simp [htake] at hfree

theorem splitToken_congr (hr : ∀ t c, r.lookup t = some c → t ≠ "")
    (hs : ∀ t c, s.lookup t = some c → t ≠ "")
    (hlookup : ∀ u d, u.toList <+: cs → (r.lookup u = some d ↔ s.lookup u = some d)) :
    r.splitToken cs = s.splitToken cs := by
  have hleads := (leads_splitToken hr cs).congr hlookup
  obtain ⟨hc, hrest⟩ := hleads.unique (leads_splitToken hs cs)
  exact Prod.ext hc hrest

/-- **A token with a space behind it is split off**, unless another token goes on with that
space. -/
theorem splitToken_space (hl : r.lookup t = some c) (ht : t ≠ "")
    (hfree : ∀ u d, r.lookup u = some d → ¬ t.toList ++ [' '] <+: u.toList) :
    r.splitToken (t.toList ++ ' ' :: cs) = (c, ' ' :: cs) := by
  have hsearch : r.longestToken? (t.toList ++ ' ' :: cs)
      (min r.maxTokenLength (t.toList ++ ' ' :: cs).length) = some (c, t.toList.length) := by
    have hlen := length_le_maxTokenLength hl
    rw [← String.length_toList] at hlen
    rw [longestToken?_eq_some_iff]
    refine ⟨?_, ?_, ?_, fun j hj _ => ?_⟩
    · exact List.length_pos_of_ne_nil (by simpa using ht)
    · rw [List.length_append]
      omega
    · rw [List.take_left, String.ofList_toList, hl]
    · -- A longer token would have to go on with the space.
      cases hu : r.lookup (String.ofList ((t.toList ++ ' ' :: cs).take j)) with
      | none => rfl
      | some d =>
        have hprefix : t.toList ++ [' '] <+: (t.toList ++ ' ' :: cs).take j := by
          rw [List.prefix_take_iff, List.length_append, List.length_singleton]
          exact ⟨⟨cs, by simp⟩, hj⟩
        exact absurd (String.toList_ofList ▸ hprefix) (hfree _ d hu)
  rw [splitToken, hsearch]
  simp

end EntitySelection.Registry
