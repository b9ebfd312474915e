import EntitySelection.Proofs.Numeral.Grammar
import EntitySelection.Proofs.Text.Blank

/-!
# Digits of any script

A numeral in a text is read after its digits are replaced by those of ASCII. Nothing else in the
grammar of numerals is a digit, so the grammar with digits of any script becomes the one with
ASCII digits (`Written.map_plainDigit`), and nothing else does (`Written.of_map_plainDigit`); each
part of the grammar has both directions.

**Theorem (`read?_eq_some_iff`).** In a text without underscores the numerals of the grammar with
digits of any script are read, between spaces, and nothing else.
-/

namespace EntitySelection.Numeral

open Text

variable {c k : Char} {cs ks : List Char} {n : Numeral}

/-! ## Characters -/

/-- A digit of ASCII is one of the digits of all scripts. -/
theorem digitValue?_of_ascii {d : Nat} (h : asciiDigitValue? c = some d) :
    digitValue? c = some d := by
  rw [asciiDigitValue?] at h
  split at h
  · next hdigit =>
    have hfind : zeroDigits.find? (fun z => z ≤ c.toNat && c.toNat ≤ z + 9) = some 0x0030 := by
      refine List.find?_cons_of_pos ?_
      rw [Bool.and_eq_true, decide_eq_true_eq, decide_eq_true_eq]
      exact hdigit
    rw [digitValue?, hfind]
    exact h
  · cases h

/-- The digit of ASCII has the same value. -/
theorem asciiDigitValue?_plainDigit (c : Char) :
    asciiDigitValue? (plainDigit c) = digitValue? c := by
  cases h : digitValue? c with
  | none =>
    rw [plainDigit, h]
    cases hascii : asciiDigitValue? c with
    | none => rfl
    | some d => rw [← h, digitValue?_of_ascii hascii]
  | some d =>
    have hd := digitValue?_le_nine h
    rw [plainDigit, h]
    clear h
    show asciiDigitValue? (Char.ofNat ('0'.toNat + d)) = some d
    interval_cases d <;> rfl

theorem plainDigit_of_none (h : digitValue? c = none) : plainDigit c = c := by
  rw [plainDigit, h]

theorem plainDigit_eq_iff (hk : digitValue? k = none) : plainDigit c = k ↔ c = k := by
  constructor
  · rintro rfl
    have hc : digitValue? c = none := by
      rw [← asciiDigitValue?_plainDigit]
      cases hascii : asciiDigitValue? (plainDigit c) with
      | none => rfl
      | some d => rw [← hk, digitValue?_of_ascii hascii]
    exact (plainDigit_of_none hc).symm
  · rintro rfl
    exact plainDigit_of_none hk

/-- Characters that are no digits are found again behind the digits that are replaced. -/
theorem map_plainDigit_eq_iff (hks : ∀ k ∈ ks, digitValue? k = none) :
    cs.map plainDigit = ks ↔ cs = ks := by
  constructor
  · rintro rfl
    have hself : ∀ c ∈ cs, plainDigit c = c := fun c hc =>
      ((plainDigit_eq_iff (hks _ (List.mem_map_of_mem hc))).1 rfl).symm
    rw [List.map_congr_left (g := id) hself, List.map_id]
  · rintro rfl
    have hself : ∀ c ∈ cs, plainDigit c = c := fun c hc => plainDigit_of_none (hks c hc)
    rw [List.map_congr_left (g := id) hself, List.map_id]

/-- Digits are no letters of ASCII. -/
theorem toNat_of_digit (h : (digitValue? c).isSome = true) :
    c.toNat ≤ 0x0039 ∨ 0x0660 ≤ c.toNat := by
  rw [digitValue?, Option.isSome_map, List.find?_isSome] at h
  obtain ⟨z, hz, hc⟩ := h
  have hzeros : ∀ z ∈ zeroDigits, z = 0x0030 ∨ 0x0660 ≤ z := by decide
  rw [Bool.and_eq_true, decide_eq_true_eq, decide_eq_true_eq] at hc
  rcases hzeros z hz with rfl | hlarge
  · exact .inl hc.2
  · exact .inr (hlarge.trans hc.1)

/-- A digit has no other case. -/
theorem toLower_of_digit (h : (digitValue? c).isSome = true) : c.toLower = c := by
  have hrange := toNat_of_digit h
  have hnot : ¬(c.val ≥ 'A'.val ∧ c.val ≤ 'Z'.val) := by
    intro hletter
    have hlow : 0x0041 ≤ c.toNat := hletter.1
    have hhigh : c.toNat ≤ 0x005a := hletter.2
    omega
  exact dif_neg hnot

theorem toLower_plainDigit_eq_iff (hk : digitValue? k = none) :
    (plainDigit c).toLower = k ↔ c.toLower = k := by
  cases hc : digitValue? c with
  | none => rw [plainDigit_of_none hc]
  | some d =>
    have hplain : digitValue? (plainDigit c) = some d :=
      digitValue?_of_ascii (by rw [asciiDigitValue?_plainDigit, hc])
    rw [toLower_of_digit (by simp [hplain]), toLower_of_digit (by simp [hc]), plainDigit_eq_iff hk]

theorem foldCase_map_plainDigit_eq_iff (hks : ∀ k ∈ ks, digitValue? k = none) :
    foldCase (cs.map plainDigit) = ks ↔ foldCase cs = ks := by
  induction cs generalizing ks with
  | nil => rfl
  | cons c cs ih =>
    cases ks with
    | nil => simp [foldCase]
    | cons k ks =>
      have hk := hks k List.mem_cons_self
      have hrest := ih fun l hl => hks l (List.mem_cons_of_mem _ hl)
      simp only [foldCase, List.map_cons, List.cons.injEq, toLower_plainDigit_eq_iff hk] at hrest ⊢
      rw [hrest]

/-! ## The grammar -/

theorem spells_map_plainDigit {word : String} (hword : word ∈ specialWords) :
    Spells word (cs.map plainDigit) ↔ Spells word cs := by
  have hletters : specialWords.all (·.toList.all fun k => (digitValue? k).isNone) = true := rfl
  refine foldCase_map_plainDigit_eq_iff fun k hk => ?_
  have hnone := List.all_eq_true.1 (List.all_eq_true.1 hletters word hword) k hk
  exact Option.isNone_iff_eq_none.1 hnone

theorem digitsOf_map_plainDigit :
    DigitsOf asciiDigitValue? (cs.map plainDigit) ↔ DigitsOf digitValue? cs := by
  simp [DigitsOf, asciiDigitValue?_plainDigit]

theorem valueOf_map_plainDigit :
    valueOf asciiDigitValue? (cs.map plainDigit) = valueOf digitValue? cs := by
  simp [valueOf, List.foldl_map, asciiDigitValue?_plainDigit]

theorem sign_map_plainDigit {negative : Bool} :
    Sign negative (cs.map plainDigit) ↔ Sign negative cs := by
  have hplain : ∀ sign, Sign negative sign → (cs.map plainDigit = sign ↔ cs = sign) := by
    intro sign hsign
    refine map_plainDigit_eq_iff fun k hk => ?_
    cases hsign with
    | absent => cases hk
    | plus =>
      obtain rfl := List.mem_singleton.1 hk
      rfl
    | minus =>
      obtain rfl := List.mem_singleton.1 hk
      rfl
  constructor
  · intro h
    rwa [(hplain _ h).1 rfl]
  · intro h
    rwa [(hplain _ h).2 rfl]

theorem Fraction.map_plainDigit {ds : List Char} (h : Fraction digitValue? ds cs) :
    Fraction asciiDigitValue? (ds.map plainDigit) (cs.map plainDigit) := by
  cases h with
  | absent => exact .absent
  | present hds => exact .present (digitsOf_map_plainDigit.2 hds)

theorem Exponent.map_plainDigit {e : Int} (h : Exponent digitValue? e cs) :
    Exponent asciiDigitValue? e (cs.map plainDigit) := by
  cases h with
  | absent => exact .absent
  | @present negative mark sign ds hmark hsign hds hne =>
    have hplain : plainDigit mark = mark := by
      rcases hmark with rfl | rfl <;> rfl
    rw [List.map_cons, List.map_append, hplain, ← valueOf_map_plainDigit]
    exact .present hmark (sign_map_plainDigit.2 hsign) (digitsOf_map_plainDigit.2 hds)
      (by simpa using hne)

theorem Unsigned.map_plainDigit {c : Nat} {e : Int} (h : Unsigned digitValue? c e cs) :
    Unsigned asciiDigitValue? c e (cs.map plainDigit) := by
  cases h with
  | @mk whole fraction point tail e hwhole hfraction hne hexponent =>
    have hlength : fraction.length = (fraction.map plainDigit).length := by simp
    rw [List.map_append, List.map_append, ← valueOf_map_plainDigit, List.map_append, hlength]
    exact .mk (digitsOf_map_plainDigit.2 hwhole) hfraction.map_plainDigit (by simpa using hne)
      hexponent.map_plainDigit

theorem Written.map_plainDigit (h : Written digitValue? n cs) :
    Written asciiDigitValue? n (cs.map plainDigit) := by
  cases h with
  | decimal hsign hcs =>
    rw [List.map_append]
    exact .decimal (sign_map_plainDigit.2 hsign) hcs.map_plainDigit
  | infinite hsign hcs =>
    rw [List.map_append]
    refine .infinite (sign_map_plainDigit.2 hsign) ?_
    rwa [spells_map_plainDigit (by decide), spells_map_plainDigit (by decide)]
  | nan hsign hcs =>
    rw [List.map_append]
    refine .nan (sign_map_plainDigit.2 hsign) ?_
    rwa [spells_map_plainDigit (by decide)]

theorem Fraction.of_map_plainDigit {ds : List Char}
    (h : Fraction asciiDigitValue? ds (cs.map plainDigit)) :
    ∃ fraction, ds = fraction.map plainDigit ∧ Fraction digitValue? fraction cs := by
  generalize hcs : cs.map plainDigit = text at h
  cases h with
  | absent =>
    obtain rfl := List.map_eq_nil_iff.1 hcs
    exact ⟨[], rfl, .absent⟩
  | present hds =>
    obtain ⟨point, fraction, rfl, hpoint, rfl⟩ := List.map_eq_cons_iff.1 hcs
    obtain rfl := (plainDigit_eq_iff rfl).1 hpoint
    exact ⟨fraction, rfl, .present (digitsOf_map_plainDigit.1 hds)⟩

theorem Exponent.of_map_plainDigit {e : Int}
    (h : Exponent asciiDigitValue? e (cs.map plainDigit)) : Exponent digitValue? e cs := by
  generalize hcs : cs.map plainDigit = text at h
  cases h with
  | absent =>
    obtain rfl := List.map_eq_nil_iff.1 hcs
    exact .absent
  | present hmark hsign hds hne =>
    obtain ⟨mark, rest, rfl, rfl, hrest⟩ := List.map_eq_cons_iff.1 hcs
    obtain ⟨sign, ds, rfl, rfl, rfl⟩ := List.map_eq_append_iff.1 hrest
    rw [plainDigit_eq_iff rfl, plainDigit_eq_iff rfl] at hmark
    rw [valueOf_map_plainDigit]
    exact .present hmark (sign_map_plainDigit.1 hsign) (digitsOf_map_plainDigit.1 hds)
      (by simpa using hne)

theorem Unsigned.of_map_plainDigit {c : Nat} {e : Int}
    (h : Unsigned asciiDigitValue? c e (cs.map plainDigit)) : Unsigned digitValue? c e cs := by
  generalize hcs : cs.map plainDigit = text at h
  cases h with
  | mk hwhole hfraction hne hexponent =>
    obtain ⟨whole, rest, rfl, rfl, hrest⟩ := List.map_eq_append_iff.1 hcs
    obtain ⟨point, tail, rfl, rfl, rfl⟩ := List.map_eq_append_iff.1 hrest
    obtain ⟨fraction, rfl, hpoint⟩ := hfraction.of_map_plainDigit
    rw [← List.map_append, valueOf_map_plainDigit, List.length_map]
    exact .mk (digitsOf_map_plainDigit.1 hwhole) hpoint (by simpa using hne)
      hexponent.of_map_plainDigit

theorem Written.of_map_plainDigit (h : Written asciiDigitValue? n (cs.map plainDigit)) :
    Written digitValue? n cs := by
  generalize hcs : cs.map plainDigit = text at h
  cases h with
  | decimal hsign hunsigned =>
    obtain ⟨sign, rest, rfl, rfl, rfl⟩ := List.map_eq_append_iff.1 hcs
    exact .decimal (sign_map_plainDigit.1 hsign) hunsigned.of_map_plainDigit
  | infinite hsign hword =>
    obtain ⟨sign, rest, rfl, rfl, rfl⟩ := List.map_eq_append_iff.1 hcs
    rw [spells_map_plainDigit (by decide), spells_map_plainDigit (by decide)] at hword
    exact .infinite (sign_map_plainDigit.1 hsign) hword
  | nan hsign hword =>
    obtain ⟨sign, rest, rfl, rfl, rfl⟩ := List.map_eq_append_iff.1 hcs
    rw [spells_map_plainDigit (by decide)] at hword
    exact .nan (sign_map_plainDigit.1 hsign) hword

/-! ## Reading -/

/-- **Digits of any script are read as those of ASCII.** -/
theorem written_iff : Written digitValue? n cs ↔ ofChars? (cs.map plainDigit) = some n := by
  rw [ofChars?_eq_some_iff]
  exact ⟨Written.map_plainDigit, Written.of_map_plainDigit⟩

/-- A text writes one numeral only. -/
theorem Written.unique {m : Numeral} (hn : Written digitValue? n cs)
    (hm : Written digitValue? m cs) : n = m := by
  rw [written_iff] at hn hm
  rw [hn] at hm
  exact Option.some.inj hm

/-- **In a text without underscores the grammar is read**, between spaces. -/
theorem read?_eq_some_iff (h : '_' ∉ cs) :
    read? (String.ofList cs) = some n ↔ Written digitValue? n (trim isSpace cs) := by
  have hnot : '_' ∉ (trim isSpace cs).map plainDigit := by
    intro hmem
    obtain ⟨c, hc, hplain⟩ := List.mem_map.1 hmem
    obtain rfl := (plainDigit_eq_iff rfl).1 hplain
    exact h (trim_subset cs hc)
  rw [read?, String.toList_ofList, dropSeparators_of_not_mem hnot, Option.bind_some, written_iff]

end EntitySelection.Numeral
