import EntitySelection.Registry
import Mathlib.Data.List.Basic

/-!
# The tokens of a registry

The listed tokens are those that are bound, and where no token is bound twice they are listed in
strict order (`tokens_pairwise`). The greatest token length bounds them all
(`length_le_maxTokenLength`), and one of them has it, if there are any
(`exists_length_eq_maxTokenLength`). So both are settled by which tokens are bound (`tokens_congr`,
`maxTokenLength_congr`).
-/

namespace EntitySelection.Registry

variable {r s : Registry} {t : String} {c : Comparator}

theorem mem_tokens_iff : t ∈ r.tokens ↔ ∃ c, r.lookup t = some c := by
  rw [tokens, mem_sortedNames, ← Named.lookup_isSome_iff, Option.isSome_iff_exists]
  rfl

theorem tokens_pairwise (h : (Named.names r.bindings).Nodup) : r.tokens.Pairwise (· < ·) :=
  sortedNames_pairwise h

theorem tokens_congr (hr : (Named.names r.bindings).Nodup) (hs : (Named.names s.bindings).Nodup)
    (h : ∀ t, t ∈ r.tokens ↔ t ∈ s.tokens) : r.tokens = s.tokens := by
  have hlt := tokens_pairwise hr
  have hlt' := tokens_pairwise hs
  have hne : ∀ {t u : String}, t < u → t ≠ u := fun hlt => Std.ne_of_lt hlt
  have hperm : r.tokens.Perm s.tokens := by
    rw [List.perm_ext_iff_of_nodup (hlt.imp hne) (hlt'.imp hne)]
    exact h
  refine hperm.eq_of_pairwise (fun t u _ _ htu hut => ?_) hlt hlt'
  exact absurd hut (String.lt_asymm htu)

/-! ## Lengths -/

theorem maxTokenLength_eq :
    r.maxTokenLength = (r.bindings.map (·.1.length)).max?.getD 0 := by
  rw [maxTokenLength, List.foldl_max, Nat.zero_max]

theorem length_le_maxTokenLength (h : r.lookup t = some c) : t.length ≤ r.maxTokenLength := by
  have hmem : t.length ∈ r.bindings.map (·.1.length) :=
    List.mem_map_of_mem (Named.mem_of_lookup h)
  rw [maxTokenLength_eq]
  cases hmax : (r.bindings.map (·.1.length)).max? with
  | none => simp [List.max?_eq_none_iff.1 hmax] at hmem
  | some n => exact (List.max?_eq_some_iff.1 hmax).2 _ hmem

/-- Some token has the greatest length, or there are no tokens and it is zero. -/
theorem exists_length_eq_maxTokenLength :
    (∃ t ∈ r.tokens, t.length = r.maxTokenLength) ∨ r.tokens = [] ∧ r.maxTokenLength = 0 := by
  rw [maxTokenLength_eq]
  cases hmax : (r.bindings.map (·.1.length)).max? with
  | none =>
    right
    have hnil : r.bindings = [] := List.map_eq_nil_iff.1 (List.max?_eq_none_iff.1 hmax)
    constructor
    · simp [tokens, hnil, sortedNames]
    · rfl
  | some n =>
    left
    obtain ⟨e, he, hn⟩ := List.mem_map.1 (List.max?_eq_some_iff.1 hmax).1
    have hname : e.1 ∈ Named.names r.bindings := Named.mem_names_of_mem he
    exact ⟨e.1, mem_tokens_iff.2 (Option.isSome_iff_exists.1 (Named.lookup_isSome_iff.2 hname)), hn⟩

/-- More tokens reach at least as far. -/
theorem maxTokenLength_mono (h : ∀ t ∈ r.tokens, t ∈ s.tokens) :
    r.maxTokenLength ≤ s.maxTokenLength := by
  rcases exists_length_eq_maxTokenLength (r := r) with ⟨t, ht, hlength⟩ | ⟨-, hzero⟩
  · obtain ⟨c, hc⟩ := mem_tokens_iff.1 (h t ht)
    rw [← hlength]
    exact length_le_maxTokenLength hc
  · rw [hzero]
    exact Nat.zero_le _

theorem maxTokenLength_congr (h : ∀ t, t ∈ r.tokens ↔ t ∈ s.tokens) :
    r.maxTokenLength = s.maxTokenLength :=
  Nat.le_antisymm (maxTokenLength_mono fun t => (h t).1) (maxTokenLength_mono fun t => (h t).2)

end EntitySelection.Registry
