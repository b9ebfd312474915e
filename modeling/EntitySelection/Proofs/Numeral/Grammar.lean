import EntitySelection.Proofs.Numeral.Decimal

/-!
# The grammar of numerals

What a numeral is, apart from how it is read (`Written`). The grammar leaves open which
characters are digits: those of ASCII, or those of any script. Besides digits, a numeral has only
a few marks and the letters of the words that are numerals (`Written.numeralChar`).

**Theorem (`ofChars?_eq_some_iff`).** The reader reads the numerals of the grammar with ASCII
digits and nothing else. Each part of the reader has its part of the grammar: `exponent?` has
`Exponent`, and `unsigned?` has `Unsigned`.
-/

namespace EntitySelection.Numeral

open Text

/-! ## The grammar -/

section Grammar

variable (digit? : Char → Option Nat)

/-- All are digits. -/
def DigitsOf (ds : List Char) : Prop := ∀ c ∈ ds, (digit? c).isSome = true

/-- The number that digits write. -/
def valueOf (ds : List Char) : Nat := ds.foldl (fun n c => 10 * n + (digit? c).getD 0) 0

/-- The digits of a fraction and the fraction as it is written, which may be not at all. -/
inductive Fraction : List Char → List Char → Prop
  | absent : Fraction [] []
  | present {ds : List Char} (hds : DigitsOf digit? ds) : Fraction ds ('.' :: ds)

/-- An exponent as it is written, which may be not at all. -/
inductive Exponent : Int → List Char → Prop
  | absent : Exponent 0 []
  | present {negative : Bool} {mark : Char} {sign ds : List Char}
      (hmark : mark = 'e' ∨ mark = 'E') (hsign : Sign negative sign)
      (hds : DigitsOf digit? ds) (hne : ds ≠ []) :
      Exponent (Binary64.applySign negative (valueOf digit? ds)) (mark :: (sign ++ ds))

/-- A decimal number without its sign: coefficient, exponent, and how it is written. -/
inductive Unsigned : Nat → Int → List Char → Prop
  | mk {whole fraction point tail : List Char} {e : Int}
      (hwhole : DigitsOf digit? whole) (hfraction : Fraction digit? fraction point)
      (hne : whole ≠ [] ∨ fraction ≠ []) (hexponent : Exponent digit? e tail) :
      Unsigned (valueOf digit? (whole ++ fraction)) (e - fraction.length)
        (whole ++ (point ++ tail))

/-- The words that are numerals. -/
def specialWords : List String := ["inf", "infinity", "nan"]

/-- The letters spell a word of small letters, in any case. -/
def Spells (word : String) (cs : List Char) : Prop := foldCase cs = word.toList

/-- A numeral and how it is written. -/
inductive Written : Numeral → List Char → Prop
  | decimal {negative : Bool} {sign cs : List Char} {c : Nat} {e : Int}
      (hsign : Sign negative sign) (hcs : Unsigned digit? c e cs) :
      Written (.decimal negative c e) (sign ++ cs)
  | infinite {negative : Bool} {sign cs : List Char} (hsign : Sign negative sign)
      (hcs : Spells "inf" cs ∨ Spells "infinity" cs) : Written (.infinite negative) (sign ++ cs)
  | nan {negative : Bool} {sign cs : List Char} (hsign : Sign negative sign)
      (hcs : Spells "nan" cs) : Written .nan (sign ++ cs)

end Grammar

/-! ## The characters of numerals -/

section Characters

variable (digit? : Char → Option Nat)

/-- The characters of numerals that are neither digits nor letters of a word. -/
def marks : List Char := ['+', '-', '.', 'e', 'E']

/-- A character that stands in numerals. -/
def NumeralChar (c : Char) : Prop :=
  (digit? c).isSome = true ∨ c ∈ marks ∨ ∃ word ∈ specialWords, c.toLower ∈ word.toList

variable {digit?} {c : Char} {cs : List Char}

theorem Sign.mem_marks {negative : Bool} (h : Sign negative cs) (hc : c ∈ cs) : c ∈ marks := by
  cases h with
  | absent => cases hc
  | plus =>
    obtain rfl := List.mem_singleton.1 hc
    decide
  | minus =>
    obtain rfl := List.mem_singleton.1 hc
    decide

theorem Exponent.numeralChar {e : Int} (h : Exponent digit? e cs) (hc : c ∈ cs) :
    NumeralChar digit? c := by
  cases h with
  | absent => cases hc
  | present hmark hsign hds _ =>
    rcases List.mem_cons.1 hc with rfl | hrest
    · rcases hmark with rfl | rfl
      · exact .inr (.inl (by decide))
      · exact .inr (.inl (by decide))
    · rcases List.mem_append.1 hrest with hin | hin
      · exact .inr (.inl (hsign.mem_marks hin))
      · exact .inl (hds c hin)

theorem Unsigned.numeralChar {k : Nat} {e : Int} (h : Unsigned digit? k e cs) (hc : c ∈ cs) :
    NumeralChar digit? c := by
  cases h with
  | mk hwhole hfraction _ hexponent =>
    rcases List.mem_append.1 hc with hin | hrest
    · exact .inl (hwhole c hin)
    · rcases List.mem_append.1 hrest with hin | hin
      · cases hfraction with
        | absent => cases hin
        | present hds =>
          rcases List.mem_cons.1 hin with rfl | hdigit
          · exact .inr (.inl (by decide))
          · exact .inl (hds c hdigit)
      · exact hexponent.numeralChar hin

theorem Spells.numeralChar {word : String} (hword : word ∈ specialWords) (h : Spells word cs)
    (hc : c ∈ cs) : NumeralChar digit? c := by
  refine .inr (.inr ⟨word, hword, ?_⟩)
  rw [← h]
  exact List.mem_map_of_mem hc

/-- A numeral has no other characters. -/
theorem Written.numeralChar {n : Numeral} (h : Written digit? n cs) (hc : c ∈ cs) :
    NumeralChar digit? c := by
  cases h with
  | decimal hsign hcs =>
    rcases List.mem_append.1 hc with hin | hin
    · exact .inr (.inl (hsign.mem_marks hin))
    · exact hcs.numeralChar hin
  | infinite hsign hcs =>
    rcases List.mem_append.1 hc with hin | hin
    · exact .inr (.inl (hsign.mem_marks hin))
    · rcases hcs with hword | hword
      · exact hword.numeralChar (by decide) hin
      · exact hword.numeralChar (by decide) hin
  | nan hsign hcs =>
    rcases List.mem_append.1 hc with hin | hin
    · exact .inr (.inl (hsign.mem_marks hin))
    · exact hcs.numeralChar (by decide) hin

end Characters

/-! ## Reading in ASCII -/

section Ascii

-- With ASCII digits `DigitsOf` and `valueOf` are `Digits` and `digitsValue 0`.

variable {cs : List Char} {c : Nat} {e : Int} {n : Numeral}

theorem exponent?_eq_some_iff : exponent? cs = some e ↔ Exponent asciiDigitValue? e cs := by
  constructor
  · intro h
    cases cs with
    | nil =>
      obtain rfl : 0 = e := Option.some.inj h
      exact .absent
    | cons mark cs =>
      have hmark : mark = 'e' ∨ mark = 'E' := by
        by_contra hnot
        simp [exponent?, hnot] at h
      obtain ⟨sign, hsign, hcs⟩ := exists_sign cs
      generalize hsplit : splitSign cs = parts at *
      obtain ⟨negative, ds⟩ := parts
      have hread : ds ≠ [] ∧ Digits ds ∧
          Binary64.applySign negative (digitsValue 0 ds) = e := by
        simpa [exponent?, hmark, hsplit, Digits, and_assoc] using h
      obtain ⟨hne, hds, rfl⟩ := hread
      rw [hcs]
      exact .present hmark hsign hds hne
  · intro h
    cases h with
    | absent => rfl
    | present hmark hsign hds hne => exact exponent?_mark hmark hsign hds hne

theorem digits_takeWhile (cs : List Char) : Digits (cs.takeWhile isAsciiDigit) :=
  List.all_eq_true.1 List.all_takeWhile

/-- Digits and a fraction that do not lack digits, before what is read as an exponent. -/
theorem unsigned_of_parts {whole fraction point tail : List Char} (hwhole : Digits whole)
    (hfraction : Fraction asciiDigitValue? fraction point)
    (h : (if whole.isEmpty && fraction.isEmpty then none
      else (exponent? tail).map fun e =>
        (digitsValue (digitsValue 0 whole) fraction, e - (fraction.length : Int))) = some (c, e)) :
    Unsigned asciiDigitValue? c e (whole ++ (point ++ tail)) := by
  by_cases hempty : (whole.isEmpty && fraction.isEmpty) = true
  · rw [if_pos hempty] at h
    cases h
  · rw [if_neg hempty] at h
    have hne : whole ≠ [] ∨ fraction ≠ [] := by
      by_contra hnot
      exact hempty (by simp_all)
    obtain ⟨e', he', heq⟩ := Option.map_eq_some_iff.1 h
    obtain ⟨rfl, rfl⟩ := Prod.mk.inj heq
    rw [← digitsValue_append]
    exact .mk hwhole hfraction hne (exponent?_eq_some_iff.1 he')

/-- What is read as a decimal number is one. -/
theorem unsigned_of_read (h : unsigned? cs = some (c, e)) : Unsigned asciiDigitValue? c e cs := by
  have hcs : cs.takeWhile isAsciiDigit ++ cs.dropWhile isAsciiDigit = cs :=
    List.takeWhile_append_dropWhile
  have hwhole := digits_takeWhile cs
  rw [unsigned?] at h
  rw [← hcs]
  generalize cs.takeWhile isAsciiDigit = whole at *
  generalize cs.dropWhile isAsciiDigit = rest at *
  split at h
  next fraction tail hparts =>
  split at hparts
  · next after =>
    obtain ⟨rfl, rfl⟩ := Prod.mk.inj hparts
    have hread := unsigned_of_parts hwhole (.present (digits_takeWhile after)) h
    rwa [List.cons_append, List.takeWhile_append_dropWhile] at hread
  · obtain ⟨rfl, rfl⟩ := Prod.mk.inj hparts
    exact unsigned_of_parts hwhole .absent h

theorem unsigned?_eq_some_iff :
    unsigned? cs = some (c, e) ↔ Unsigned asciiDigitValue? c e cs := by
  constructor
  · exact unsigned_of_read
  · intro h
    cases h with
    | mk hwhole hfraction hne hexponent =>
      have htail := exponent?_eq_some_iff.2 hexponent
      cases hfraction with
      | absent =>
        have hread := unsigned?_whole hwhole (by simpa using hne) htail
        rw [List.append_nil, List.nil_append, List.length_nil, Int.natCast_zero, Int.sub_zero]
        exact hread
      | present hds => exact unsigned?_point hwhole hds hne htail

/-- No word starts with a sign. -/
theorem head_of_spells {word : String} (hword : word ∈ specialWords)
    (h : Spells word cs) : ∀ c, cs.head? = some c → c ≠ '-' ∧ c ≠ '+' := by
  intro c hc
  have hlower : word.toList.head? = some c.toLower := by
    rw [← h, foldCase, List.head?_map, hc]
    rfl
  have hsigns : ∀ w ∈ specialWords,
      w.toList.head? ≠ some '-' ∧ w.toList.head? ≠ some '+' := by decide
  constructor
  · rintro rfl
    exact (hsigns word hword).1 hlower
  · rintro rfl
    exact (hsigns word hword).2 hlower

/-- **The reader reads the grammar.** -/
theorem ofChars?_eq_some_iff : ofChars? cs = some n ↔ Written asciiDigitValue? n cs := by
  constructor
  · intro h
    obtain ⟨sign, hsign, hcs⟩ := exists_sign cs
    unfold ofChars? at h
    generalize splitSign cs = parts at *
    obtain ⟨negative, body⟩ := parts
    rw [hcs]
    simp only [Bool.or_eq_true, decide_eq_true_eq] at h
    split at h
    · next hword =>
      obtain rfl := Option.some.inj h
      exact .infinite hsign hword
    split at h
    · next hword =>
      obtain rfl := Option.some.inj h
      exact .nan hsign hword
    · obtain ⟨⟨c, e⟩, hread, rfl⟩ := Option.map_eq_some_iff.1 h
      exact .decimal hsign (unsigned?_eq_some_iff.1 hread)
  · intro h
    cases h with
    | decimal hsign hcs => exact ofChars?_of_unsigned? hsign (unsigned?_eq_some_iff.2 hcs)
    | infinite hsign hcs =>
      have hhead := hcs.elim (head_of_spells (by decide)) (head_of_spells (by decide))
      have hword : foldCase _ = ['i', 'n', 'f'] ∨
          foldCase _ = ['i', 'n', 'f', 'i', 'n', 'i', 't', 'y'] := hcs
      simp [ofChars?, splitSign_append hsign hhead, hword]
    | nan hsign hcs =>
      have hhead := head_of_spells (by decide) hcs
      have hword : foldCase _ = ['n', 'a', 'n'] := hcs
      simp [ofChars?, splitSign_append hsign hhead, hword]

end Ascii

end EntitySelection.Numeral
