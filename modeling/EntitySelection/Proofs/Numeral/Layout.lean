import EntitySelection.Binary64.Layout
import EntitySelection.Proofs.Binary64.Shortest
import EntitySelection.Proofs.Numeral.Decimal
import EntitySelection.Proofs.Text.Blank

/-!
# Numbers in the plain layout read back

**Theorem (`read?_text`).** A number in the plain layout is read back as itself, also after a
space.

**Layouts.** Wherever a layout puts the point, what is read is the decimal that is laid out
(`unsigned?_decimal`). A layout may write zeros that the decimal does not have; rounding does not
see them (`ofDecimal_shift`).

**Characters.** A laid out number consists of characters that the reader takes as they are
(`numeralChars`).
-/

namespace EntitySelection.Numeral

open Text Binary64 Magnitude

/-! ## Layouts -/

section Layouts

variable {ds : List Char}

/-- What is read has the value of the decimal `d · 10 ^ e`. -/
def ReadsDecimal (cs : List Char) (d : Nat) (e : Int) : Prop :=
  ∃ c f, unsigned? cs = some (c, f) ∧ ofDecimal c f = ofDecimal d e

theorem exponent?_scientific (width : Nat) (e : Int) :
    exponent? ('e' :: (if e < 0 then '-' else '+') ::
      (List.replicate (width - (Nat.toDigits 10 e.natAbs).length) '0' ++
        Nat.toDigits 10 e.natAbs)) = some e := by
  have hd := (digits_replicate (width - (Nat.toDigits 10 e.natAbs).length)).append
    (digits_toDigits e.natAbs)
  have hsign : Sign (decide (e < 0)) [if e < 0 then '-' else '+'] := by
    by_cases hneg : e < 0
    · simpa [hneg] using Sign.minus
    · simpa [hneg] using Sign.plus
  have hread := exponent?_mark (.inl rfl) hsign hd (by simp)
  rw [digitsValue_zeros_append, digitsValue_toDigits] at hread
  have hvalue : applySign (decide (e < 0)) e.natAbs = e := by
    rw [applySign]
    split
    · next hneg =>
      have hneg := of_decide_eq_true hneg
      omega
    · next hnonneg =>
      have hnonneg := of_decide_eq_false (Bool.eq_false_iff.2 hnonneg)
      omega
  rw [hvalue] at hread
  simpa using hread

/-- The point is before the first digit. -/
theorem unsigned?_before (hd : Digits ds) (k : Nat) :
    unsigned? ('0' :: '.' :: (List.replicate k '0' ++ ds)) =
      some (digitsValue 0 ds, -((k + ds.length : Nat) : Int)) := by
  have hzeros : ['0'] ++ (List.replicate k '0' ++ ds) = List.replicate (k + 1) '0' ++ ds := by
    rw [List.replicate_succ]
    rfl
  have htail : exponent? [] = some 0 := rfl
  have hread := unsigned?_point (digits_replicate 1) ((digits_replicate k).append hd)
    (.inl (by simp)) htail
  rw [List.append_nil, List.replicate_one, hzeros, digitsValue_zeros_append] at hread
  rw [List.length_append, List.length_replicate, Int.zero_sub] at hread
  exact hread

/-- The point is behind the last digit, and a zero stands behind it. -/
theorem unsigned?_behind (hd : Digits ds) (hne : ds ≠ []) (k : Nat) :
    unsigned? (ds ++ List.replicate k '0' ++ ['.', '0']) =
      some (digitsValue 0 ds * 10 ^ (k + 1), -1) := by
  have hzeros : ds ++ List.replicate k '0' ++ ['0'] = ds ++ List.replicate (k + 1) '0' := by
    rw [List.replicate_succ', List.append_assoc]
  have htail : exponent? [] = some 0 := rfl
  have hread := unsigned?_point (hd.append (digits_replicate k)) (digits_replicate 1)
    (.inl (by simp [hne])) htail
  rw [List.append_nil, List.replicate_one, hzeros, digitsValue_append, digitsValue_zeros] at hread
  exact hread

/-- The point is between two digits. -/
theorem unsigned?_between (hd : Digits ds) {k : Nat} (hk : ds.take k ≠ []) :
    unsigned? (ds.take k ++ '.' :: ds.drop k) =
      some (digitsValue 0 ds, -((ds.length - k : Nat) : Int)) := by
  have htake : Digits (ds.take k) := fun c hc => hd c (List.mem_of_mem_take hc)
  have hdrop : Digits (ds.drop k) := fun c hc => hd c (List.mem_of_mem_drop hc)
  have htail : exponent? [] = some 0 := rfl
  have hread := unsigned?_point htake hdrop (.inl hk) htail
  rw [List.append_nil, List.take_append_drop, List.length_drop, Int.zero_sub] at hread
  exact hread

theorem readsDecimal_positional (hd : Digits ds) (hne : ds ≠ []) (point : Int) :
    ReadsDecimal (positional ds point) (digitsValue 0 ds) (point - ds.length) := by
  unfold positional
  split
  · next hpoint =>
    have hexponent : -((point.natAbs + ds.length : Nat) : Int) = point - ds.length := by omega
    exact ⟨_, _, unsigned?_before hd _, congrArg (ofDecimal _) hexponent⟩
  simp only
  split
  · next hlen =>
    refine ⟨_, _, unsigned?_behind hd hne _, ?_⟩
    have hexponent :
        (-1 : Int) = point - ds.length - (point.toNat - ds.length + 1 : Nat) := by omega
    rw [hexponent]
    exact ofDecimal_shift _ _ _
  · next hlen =>
    have htake : ds.take point.toNat ≠ [] := by
      rw [Ne, List.take_eq_nil_iff]
      intro h
      rcases h with hzero | hnil
      · omega
      · exact hne hnil
    have hexponent : -((ds.length - point.toNat : Nat) : Int) = point - ds.length := by omega
    exact ⟨_, _, unsigned?_between hd htake, congrArg (ofDecimal _) hexponent⟩

theorem readsDecimal_scientific (hd : Digits ds) (hne : ds ≠ []) (width : Nat) (e : Int) :
    ReadsDecimal (scientific width ds e) (digitsValue 0 ds) (e - (ds.length - 1)) := by
  have hexponent := exponent?_scientific width e
  cases ds with
  | nil => exact absurd rfl hne
  | cons c rest =>
    have hc : Digits [c] := fun d hd' => hd d (by simp_all)
    cases rest with
    | nil =>
      refine ⟨_, _, unsigned?_whole hc (by simp) hexponent, congrArg (ofDecimal _) ?_⟩
      simp
    | cons c' rest =>
      have hrest : Digits (c' :: rest) := fun d hd' => hd d (List.mem_cons_of_mem _ hd')
      refine ⟨_, _, unsigned?_point hc hrest (.inl (by simp)) hexponent, congrArg (ofDecimal _) ?_⟩
      simp

/-- **A decimal that is laid out is read back**, up to zeros at its end. -/
theorem readsDecimal_decimal (l : Layout) (d : Nat) (e : Int) :
    ReadsDecimal (l.decimal d e) d e := by
  have hd := digits_toDigits d
  have hne : Nat.toDigits 10 d ≠ [] := Nat.toDigits_ne_nil
  simp only [Layout.decimal]
  split
  · have h := readsDecimal_positional hd hne ((Nat.toDigits 10 d).length + e)
    rwa [digitsValue_toDigits, add_sub_cancel_left] at h
  · have h := readsDecimal_scientific hd hne l.exponentDigits ((Nat.toDigits 10 d).length + e - 1)
    have hexponent : ((Nat.toDigits 10 d).length + e - 1) - ((Nat.toDigits 10 d).length - 1) = e := by
      omega
    rwa [digitsValue_toDigits, hexponent] at h

end Layouts

/-! ## Characters -/

/-- The characters of numbers in the plain layout. -/
def numeralChars : List Char := digitChars ++ ['.', 'e', '+', '-', 'i', 'n', 'f', 'a']

/-- The reader takes these characters as they are. -/
theorem numeralChars_plain : ∀ c ∈ numeralChars,
    isSpace c = false ∧ c ≠ '_' ∧ plainDigit c = c := by
  have hall : numeralChars.all (fun c => !isSpace c && c != '_' && plainDigit c == c) = true := rfl
  intro c hc
  simpa [and_assoc] using List.all_eq_true.1 hall c hc

theorem Digits.subset {ds : List Char} (hd : Digits ds) : ds ⊆ numeralChars :=
  fun c hc => List.mem_append_left _ (mem_digitChars (hd c hc))

theorem positional_subset {ds : List Char} (hd : Digits ds) (point : Int) :
    positional ds point ⊆ numeralChars := by
  have hds := hd.subset
  have hzeros := fun k => (digits_replicate k).subset
  have hpoint : '.' ∈ numeralChars := by decide
  have hzero : '0' ∈ numeralChars := by decide
  simp only [positional]
  split
  · simp [hds, hzeros, hpoint, hzero]
  split
  · simp [hds, hzeros, hpoint, hzero]
  · have htake := List.Subset.trans (List.take_subset point.toNat ds) hds
    have hdrop := List.Subset.trans (List.drop_subset point.toNat ds) hds
    simp [htake, hdrop, hpoint]

theorem scientific_subset {ds : List Char} (hd : Digits ds) (width : Nat) (e : Int) :
    scientific width ds e ⊆ numeralChars := by
  have hes := (digits_toDigits e.natAbs).subset
  have hzeros := fun k => (digits_replicate k).subset
  have hpoint : '.' ∈ numeralChars := by decide
  have hmark : 'e' ∈ numeralChars := by decide
  have hsign : (if e < 0 then '-' else '+') ∈ numeralChars := by
    split <;> decide
  have hds := hd.subset
  match ds with
  | [] => simp [scientific, hes, hzeros, hmark, hsign]
  | [c] =>
    have hc := hds List.mem_cons_self
    simp [scientific, hes, hzeros, hmark, hsign, hc]
  | c :: c' :: rest =>
    obtain ⟨hc, hrest⟩ := List.cons_subset.1 hds
    obtain ⟨hc', hrest⟩ := List.cons_subset.1 hrest
    simp [scientific, hes, hzeros, hpoint, hmark, hsign, hc, hc', hrest]

theorem decimal_subset (l : Layout) (d : Nat) (e : Int) : l.decimal d e ⊆ numeralChars := by
  simp only [Layout.decimal]
  split
  · exact positional_subset (digits_toDigits d) _
  · exact scientific_subset (digits_toDigits d) _ _

theorem layoutChars_subset (x : Binary64) : layoutChars .plain x ⊆ numeralChars := by
  have hminus : '-' ∈ numeralChars := by decide
  cases x with
  | nan => decide
  | signed s m =>
    simp only [layoutChars]
    split
    · cases s <;> decide
    · split
      · split
        · exact List.cons_subset.2 ⟨hminus, decimal_subset _ _ _⟩
        · exact List.cons_subset.2 ⟨hminus, decimal_subset _ _ _⟩
      · split
        · exact decimal_subset _ _ _
        · exact decimal_subset _ _ _

/-! ## Reading -/

/-- A numeral after a space is read as it is. -/
theorem read?_space {cs : List Char} (h : cs ⊆ numeralChars) :
    read? (String.ofList (' ' :: cs)) = ofChars? cs := by
  have hspace : ∀ c ∈ cs, isSpace c = false := fun c hc => (numeralChars_plain c (h hc)).1
  have htrim : trim isSpace (' ' :: cs) = cs := by
    have hstart : trim isSpace (' ' :: cs) = trim isSpace cs := rfl
    rw [hstart, trim_eq_self]
    · exact fun c hc => hspace c (List.mem_of_mem_head? hc)
    · exact fun c hc => hspace c (List.mem_of_mem_getLast? hc)
  have hplain : cs.map plainDigit = cs := by
    rw [List.map_congr_left (g := id) fun c hc => (numeralChars_plain c (h hc)).2.2, List.map_id]
  have hnot : '_' ∉ cs := fun hmem => (numeralChars_plain _ (h hmem)).2.1 rfl
  rw [read?, String.toList_ofList, htrim, hplain, dropSeparators_of_not_mem hnot]
  rfl

/-- **A number in the plain layout is read back.** -/
theorem ofChars?_layoutChars (x : Binary64) :
    ∃ n, ofChars? (layoutChars .plain x) = some n ∧ n.toBinary64 = x := by
  cases x with
  | nan => exact ⟨.nan, rfl, rfl⟩
  | signed s m =>
    simp only [layoutChars]
    split
    · next hinf =>
      have hm : m = Magnitude.infinity := eq_of_index (beq_iff_eq.1 hinf)
      refine ⟨.infinite s, ?_, congrArg (Binary64.signed s) hm.symm⟩
      cases s <;> rfl
    · obtain ⟨d, e, hdigits, hvalue⟩ : ∃ d e,
          (if m.index = 0 then Layout.plain.decimal 0 0
            else Layout.plain.decimal m.shortest.1 m.shortest.2) = Layout.plain.decimal d e ∧
          ofDecimal d e = m := by
        split
        · next hzero => exact ⟨0, 0, rfl, eq_of_index hzero.symm⟩
        · next hpos => exact ⟨_, _, rfl, (ofDecimal_shortest hpos).1⟩
      obtain ⟨c, f, hread, hround⟩ := readsDecimal_decimal .plain d e
      refine ⟨.decimal s c f, ?_, congrArg (Binary64.signed s) (hround.trans hvalue)⟩
      rw [hdigits]
      cases s with
      | true => exact ofChars?_of_unsigned? .minus hread
      | false => exact ofChars?_of_unsigned? .absent hread

end EntitySelection.Numeral
