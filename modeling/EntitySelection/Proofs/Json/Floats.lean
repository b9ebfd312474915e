import EntitySelection.Json.Writer
import EntitySelection.Proofs.Json.Extension
import EntitySelection.Proofs.Numeral.Layout

/-!
# Written numbers are read back

**Theorem (`Reads.float`).** What is written in JSON for a number of the binary64 format is read as
that number wherever a value may stand, also an infinity, a negative zero or what is not a number.

A finite number is written as in the plain layout (`layoutChars_json`), with a fraction or an
exponent and no leading zeros (`exists_fractional`), so that the grammar of numbers has it and reads
no whole number.
-/

namespace EntitySelection.Json

open Numeral Binary64

variable {ds cs sign : List Char} {d : Nat} {e : Int} {n : Numeral}

/-! ## Laid out decimals are numbers of the grammar -/

/-- Only a zero is written with a leading zero. -/
theorem head_toDigits (hd : d ≠ 0) : ∃ c tail, Nat.toDigits 10 d = c :: tail ∧ c ≠ '0' := by
  induction d using Nat.strong_induction_on with
  | h d ih =>
    rw [Nat.toDigits_eq_if (by decide)]
    split
    · next hlt =>
      refine ⟨_, [], rfl, ?_⟩
      interval_cases d <;> first | decide | exact absurd rfl hd
    · next hle =>
      obtain ⟨c, tail, htail, hc⟩ := ih (d / 10) (by omega) (by omega)
      exact ⟨c, tail ++ _, by rw [htail, List.cons_append], hc⟩

/-- A number with a fraction or an exponent, but no sign. -/
inductive Fractional : List Char → Prop
  | mk {whole fraction exponent : List Char} (hwhole : WholePart whole)
      (hfraction : FractionPart fraction) (hexponent : ExponentPart exponent)
      (hne : fraction ≠ [] ∨ exponent ≠ []) : Fractional (whole ++ (fraction ++ exponent))

/-- A fraction is read as the number that its characters are read as. -/
theorem Fractional.numberText (h : Fractional cs) (hsign : sign = [] ∨ sign = ['-'])
    (hn : ofChars? (sign ++ cs) = some n) : NumberText (sign ++ cs) (.float n.toBinary64) := by
  obtain ⟨hwhole, hfraction, hexponent, hne⟩ := h
  refine .mk hsign hwhole hfraction hexponent ?_
  rw [partsValue?, if_neg, List.append_assoc, List.append_assoc, hn]
  · rfl
  · simpa [imp_iff_not_or] using hne

/-- The digits of a whole number are written as one. -/
theorem wholePart_toDigits (d : Nat) : WholePart (Nat.toDigits 10 d) := by
  by_cases hd : d = 0
  · subst hd
    exact .zero
  · obtain ⟨c, tail, htail, hc⟩ := head_toDigits hd
    have hdigits := digits_toDigits d
    rw [htail] at hdigits ⊢
    exact .digits hc hdigits

theorem Fractional.point {whole fraction : List Char} (hwhole : WholePart whole)
    (hfraction : Digits fraction) (hne : fraction ≠ []) : Fractional (whole ++ '.' :: fraction) := by
  have h := Fractional.mk hwhole (.present hfraction hne) .absent (.inl (List.cons_ne_nil _ _))
  rwa [List.append_nil] at h

theorem fractional_positional (hd : d ≠ 0) (point : Int) :
    Fractional (positional (Nat.toDigits 10 d) point) := by
  have hdigits := digits_toDigits d
  obtain ⟨c, tail, htail, hc⟩ := head_toDigits hd
  unfold positional
  split
  · exact .point .zero ((digits_replicate _).append hdigits) (by simp [htail])
  rw [htail] at hdigits ⊢
  dsimp only
  split
  · have hwhole : Digits (c :: tail ++ List.replicate (point.toNat - (c :: tail).length) '0') :=
      hdigits.append (digits_replicate _)
    exact .point (.digits hc hwhole) (digits_replicate 1) (List.cons_ne_nil _ _)
  · next hlength =>
    have htake : Digits ((c :: tail).take point.toNat) := fun d hd => hdigits d (List.mem_of_mem_take hd)
    have hdrop : Digits ((c :: tail).drop point.toNat) := fun d hd => hdigits d (List.mem_of_mem_drop hd)
    obtain ⟨k, hk⟩ : ∃ k, point.toNat = k + 1 := ⟨point.toNat - 1, by omega⟩
    rw [hk] at hlength htake hdrop ⊢
    exact .point (.digits hc htake) hdrop (by simpa using hlength)

theorem exponentPart_scientific (width : Nat) (e : Int) :
    ExponentPart ('e' :: (if e < 0 then '-' else '+') ::
      (List.replicate (width - (Nat.toDigits 10 e.natAbs).length) '0' ++
        Nat.toDigits 10 e.natAbs)) := by
  have hdigits := (digits_replicate (width - (Nat.toDigits 10 e.natAbs).length)).append
    (digits_toDigits e.natAbs)
  have hne : List.replicate (width - (Nat.toDigits 10 e.natAbs).length) '0' ++
      Nat.toDigits 10 e.natAbs ≠ [] := by simp
  split
  · exact ExponentPart.present (.inl rfl) (.inr (.inr rfl)) hdigits hne
  · exact ExponentPart.present (.inl rfl) (.inr (.inl rfl)) hdigits hne

theorem fractional_scientific (width d : Nat) (e : Int) :
    Fractional (scientific width (Nat.toDigits 10 d) e) := by
  have hexponent := exponentPart_scientific width e
  have hwhole := wholePart_toDigits d
  generalize Nat.toDigits 10 d = ds at hwhole
  match ds, hwhole with
  | ['0'], .zero => exact .mk .zero .absent hexponent (.inr (List.cons_ne_nil _ _))
  | [_], .digits hc hds => exact .mk (.digits hc hds) .absent hexponent (.inr (List.cons_ne_nil _ _))
  | c :: c' :: rest, .digits hc hds =>
    obtain ⟨hfirst, hrest⟩ := List.forall_mem_cons.1 hds
    have hone : WholePart [c] := .digits hc (List.forall_mem_cons.2 ⟨hfirst, nofun⟩)
    exact .mk hone (.present hrest (List.cons_ne_nil _ _)) hexponent (.inr (List.cons_ne_nil _ _))

/-- **A laid out decimal is a fraction**, if it is no zero. -/
theorem fractional_decimal (l : Layout) (hd : d ≠ 0) (e : Int) : Fractional (l.decimal d e) := by
  simp only [Layout.decimal]
  split
  · exact fractional_positional hd _
  · exact fractional_scientific _ _ _

/-! ## Numbers as they are written -/

/-- A finite number is written in JSON as it is in the plain layout. -/
theorem layoutChars_json {s : Bool} {m : Magnitude} (hm : m.isInfinite = false) :
    layoutChars .json (.signed s m) = layoutChars .plain (.signed s m) := by
  simp only [layoutChars, hm, Bool.false_eq_true, if_false]
  rfl

/-- A finite number is written as a sign and a fraction. -/
theorem exists_fractional {s : Bool} {m : Magnitude} (hm : m.isInfinite = false) :
    ∃ sign cs, layoutChars .plain (.signed s m) = sign ++ cs ∧ (sign = [] ∨ sign = ['-']) ∧
      Fractional cs := by
  have hfractional : Fractional (if m.index = 0 then Layout.plain.decimal 0 0
      else Layout.plain.decimal m.shortest.1 m.shortest.2) := by
    split
    · exact .point .zero (digits_replicate 1) (List.cons_ne_nil _ _)
    · next hpos => exact fractional_decimal _ (Magnitude.ofDecimal_shortest hpos).2 _
  simp only [layoutChars, hm, Bool.false_eq_true, if_false]
  cases s with
  | false => exact ⟨[], _, rfl, .inl rfl, hfractional⟩
  | true => exact ⟨['-'], _, rfl, .inr rfl, hfractional⟩

theorem numberText_layoutChars {s : Bool} {m : Magnitude} (hm : m.isInfinite = false) :
    NumberText (layoutChars .json (.signed s m)) (.float (.signed s m)) := by
  obtain ⟨n, hn, hvalue⟩ := ofChars?_layoutChars (.signed s m)
  obtain ⟨sign, cs, hcs, hsign, hfractional⟩ := exists_fractional (s := s) hm
  rw [layoutChars_json hm, hcs]
  rw [hcs] at hn
  exact hvalue ▸ hfractional.numberText hsign hn

/-- A number is read wherever a value may stand. -/
theorem Reads.number {v : Value} (h : NumberText cs v) : Reads cs v := by
  obtain ⟨c, tail, rfl, hc⟩ := h.head
  have hne {d : Char} (hminus : d ≠ '-') (hdigit : isAsciiDigit d = false) : c ≠ d := by
    rintro rfl
    rcases hc with hc | hc
    · exact hminus hc
    · exact Bool.false_ne_true (hdigit.symm.trans hc)
  refine .of_succ (List.cons_ne_nil _ _) fun fuel rest _ hends => ?_
  have hatom : (word? (c :: tail ++ rest) <|> number? (c :: tail ++ rest)) = some (v, rest) := by
    rw [h.word?_eq_none, number?_append h hends.numberEnds]
    rfl
  exact (value_atom_iff (hne (by decide) rfl) (hne (by decide) rfl) (hne (by decide) rfl)).2 hatom

/-- **A number that is written is read back**, also an infinity, a negative zero or what is not a
number. -/
theorem Reads.float (x : Binary64) : Reads (layoutChars .json x) (.float x) := by
  cases x with
  | nan => exact .of_succ (by decide) fun _ _ _ _ => rfl
  | signed s m =>
    cases hm : m.isInfinite with
    | false => exact .number (numberText_layoutChars hm)
    | true =>
      have hm : m = Magnitude.infinity := Magnitude.eq_of_index (beq_iff_eq.1 hm)
      subst hm
      cases s with
      | false => exact .of_succ (by decide) fun _ _ _ _ => rfl
      | true => exact .of_succ (by decide) fun _ _ _ _ => rfl

end EntitySelection.Json
