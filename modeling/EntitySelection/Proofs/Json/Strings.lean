import EntitySelection.Json.Reader
import EntitySelection.Json.Writer
import EntitySelection.Proofs.Success
import EntitySelection.Proofs.Text.Hexadecimal

/-!
# JSON strings are read back

**Theorem (`text_quoted`).** Every text that is written as a JSON string is read back, whatever
characters it is made of, and is written in ASCII.

A character is written as itself, as a named escape, as one code unit, or as two
(`string_escapeChar`, a case for each). No character is half of a surrogate pair, so a code unit
that stands alone is never taken for one (`codeEscape_single`), and two that stand for a character
always make up a pair (`codeEscape_pair`).
-/

namespace EntitySelection.Json

open Text

variable {opening fuel n : Nat} {c e : Char} {rest : List Char}

/-! ## Code units -/

theorem codeUnit?_hexDigits (hn : n < 0x10000) :
    codeUnit? (hexDigits 4 n ++ e :: rest) = some (n, e :: rest) := by
  obtain ⟨a, b, c, d, h⟩ := hexDigits_four hn
  have hread : hexNumber? [a, b, c, d] = some n := h ▸ hexNumber?_hexDigits hn
  simp [h, codeUnit?, hread]

/-- No character is half of a surrogate pair. -/
theorem not_surrogate (c : Char) :
    isHighSurrogate c.toNat = false ∧ isLowSurrogate c.toNat = false := by
  have hvalid : c.toNat < 0xd800 ∨ 0xdfff < c.toNat ∧ c.toNat < 0x110000 := c.valid
  simp only [isHighSurrogate, isLowSurrogate, Bool.and_eq_false_iff, decide_eq_false_iff_not]
  omega

/-- A character of one code unit. -/
theorem codeEscape_single (hc : c.toNat < 0x10000) :
    codeEscape (hexDigits 4 c.toNat ++ e :: rest) = .ok (c, e :: rest) := by
  obtain ⟨hhigh, hlow⟩ := not_surrogate c
  simp [codeEscape, codeUnit?_hexDigits hc, loneUnit, hhigh, hlow, Char.ofNat_toNat]

theorem lt_of_surrogate (h : isHighSurrogate n = true ∨ isLowSurrogate n = true) :
    n < 0x10000 := by
  simp only [isHighSurrogate, isLowSurrogate, Bool.and_eq_true, decide_eq_true_eq] at h
  omega

/-- The second half of a pair follows the first. -/
theorem partner?_low (hlow : isLowSurrogate n = true) :
    partner? (unitEscape n ++ e :: rest) = .ok (some (n, e :: rest)) := by
  obtain ⟨a, b, c, d, h⟩ := hexDigits_four (lt_of_surrogate (.inr hlow))
  have hread : codeUnit? (hexDigits 4 n ++ e :: rest) = some (n, e :: rest) :=
    codeUnit?_hexDigits (lt_of_surrogate (.inr hlow))
  rw [h] at hread
  simp only [List.cons_append, List.nil_append] at hread
  simp [partner?, unitEscape, h, hread, hlow]

/-- Two code units that make up a pair. -/
theorem codeEscape_pair {high low : Nat} (hhigh : isHighSurrogate high = true)
    (hlow : isLowSurrogate low = true) :
    codeEscape (hexDigits 4 high ++ (unitEscape low ++ e :: rest)) =
      .ok (Char.ofNat (0x10000 + (high - 0xd800) * 0x400 + (low - 0xdc00)), e :: rest) := by
  have hunit : codeUnit? (hexDigits 4 high ++ (unitEscape low ++ e :: rest)) =
      some (high, unitEscape low ++ e :: rest) :=
    codeUnit?_hexDigits (lt_of_surrogate (.inl hhigh))
  rw [codeEscape, hunit]
  simp only [hhigh, if_true, partner?_low hlow]
  rfl

/-- A character of two code units. -/
theorem codeEscape_double (hc : ¬ c.toNat < 0x10000) :
    codeEscape (hexDigits 4 (0xd800 + (c.toNat - 0x10000) / 0x400) ++
      (unitEscape (0xdc00 + (c.toNat - 0x10000) % 0x400) ++ e :: rest)) = .ok (c, e :: rest) := by
  have hmost : c.toNat < 0xd800 ∨ 0xdfff < c.toNat ∧ c.toNat < 0x110000 := c.valid
  have hhigh : isHighSurrogate (0xd800 + (c.toNat - 0x10000) / 0x400) = true := by
    simp only [isHighSurrogate, Bool.and_eq_true, decide_eq_true_eq]
    omega
  have hlow : isLowSurrogate (0xdc00 + (c.toNat - 0x10000) % 0x400) = true := by
    simp only [isLowSurrogate, Bool.and_eq_true, decide_eq_true_eq]
    omega
  have hvalue : 0x10000 + (c.toNat - 0x10000) / 0x400 * 0x400 + (c.toNat - 0x10000) % 0x400 =
      c.toNat := by omega
  rw [codeEscape_pair hhigh hlow, Nat.add_sub_cancel_left, Nat.add_sub_cancel_left, hvalue,
    Char.ofNat_toNat]

/-! ## Characters -/

/-- Reading goes on after a character. -/
theorem string_cons {r : Except Stop (List Char × List Char)} :
    (do let (cs, left) ← r; .ok (c :: cs, left)) = r.map fun p => (c :: p.1, p.2) := by
  cases r <;> rfl

theorem string_named (h : namedEscape? e = some c) :
    string opening (fuel + 1) ('\\' :: e :: rest) =
      (string opening fuel rest).map fun p => (c :: p.1, p.2) := by
  rw [string, h, ← string_cons]
  -- The letter of a code unit is no named escape.
  rintro rfl
  cases h

theorem string_unit {units : List Char} (h : codeEscape (hexDigits 4 n ++ units) = .ok (c, rest)) :
    string opening (fuel + 1) (unitEscape n ++ units) =
      (string opening fuel rest).map fun p => (c :: p.1, p.2) := by
  have hunit : unitEscape n ++ units = '\\' :: 'u' :: (hexDigits 4 n ++ units) := rfl
  rw [hunit, string, h, ← string_cons]
  rfl

theorem string_plain (hquote : c ≠ '"') (hescape : c ≠ '\\') (hc : 0x20 ≤ c.toNat) :
    string opening (fuel + 1) (c :: rest) =
      (string opening fuel rest).map fun p => (c :: p.1, p.2) := by
  rw [string, if_neg (Nat.not_lt.2 hc), ← string_cons]
  · exact hquote
  all_goals simp [hescape]

/-- A character is read back, whatever follows it. -/
theorem string_escapeChar (opening fuel : Nat) (c e : Char) (rest : List Char) :
    string opening (fuel + 1) (escapeChar c ++ e :: rest) =
      (string opening fuel (e :: rest)).map fun p => (c :: p.1, p.2) := by
  fun_cases escapeChar c with
  | case8 n hquote hescape _ _ _ _ _ hplain =>
    have hc : 0x20 ≤ c.toNat ∧ c.toNat ≤ 0x7e := by simpa using hplain
    exact string_plain hquote hescape hc.1
  | case9 n _ _ _ _ _ _ _ _ hone => exact string_unit (codeEscape_single hone)
  | case10 n _ _ _ _ _ _ _ _ htwo =>
    rw [List.append_assoc]
    exact string_unit (codeEscape_double htwo)
  | _ =>
    -- The named escapes.
    subst_vars
    exact string_named rfl

theorem escapeChar_ne_nil (c : Char) : escapeChar c ≠ [] := by
  fun_cases escapeChar c <;> exact List.cons_ne_nil _ _

/-! ## Strings -/

theorem toList_quoted (s : String) :
    (quoted s).toList = '"' :: (s.toList.flatMap escapeChar ++ ['"']) :=
  String.toList_ofList

theorem length_le_escaped (cs : List Char) : cs.length ≤ (cs.flatMap escapeChar).length := by
  induction cs with
  | nil => exact Nat.le_refl 0
  | cons c cs ih =>
    have hc := List.length_pos_of_ne_nil (escapeChar_ne_nil c)
    rw [List.flatMap_cons, List.length_append, List.length_cons]
    omega

theorem string_escaped (cs : List Char) (hfuel : cs.length < fuel) :
    string opening fuel (cs.flatMap escapeChar ++ '"' :: rest) = .ok (cs, rest) := by
  induction cs generalizing fuel with
  | nil =>
    obtain ⟨fuel, rfl⟩ := Nat.exists_eq_succ_of_ne_zero (Nat.ne_of_gt hfuel)
    rfl
  | cons c cs ih =>
    obtain ⟨fuel, rfl⟩ := Nat.exists_eq_succ_of_ne_zero (Nat.ne_zero_of_lt hfuel)
    -- Something follows the character, if only the closing mark.
    obtain ⟨e, left, hleft⟩ : ∃ e left, cs.flatMap escapeChar ++ '"' :: rest = e :: left :=
      List.exists_cons_of_ne_nil (by simp)
    rw [List.flatMap_cons, List.append_assoc, hleft, string_escapeChar, ← hleft,
      ih (Nat.lt_of_succ_lt_succ hfuel)]
    rfl

/-- **A written text is read back**, whatever follows it. -/
theorem text_quoted (s : String) (rest : List Char) :
    text (s.toList.flatMap escapeChar ++ '"' :: rest) = .ok (s, rest) := by
  have hlength := length_le_escaped s.toList
  rw [text, string_escaped s.toList (by rw [List.length_append]; omega)]
  exact congrArg (fun t => Except.ok (t, rest)) String.ofList_toList

end EntitySelection.Json
