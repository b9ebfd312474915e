import EntitySelection.Json.Reader
import EntitySelection.Proofs.Numeral.Grammar

/-!
# Numbers in JSON

The grammar of numbers as JSON writes them (`NumberText`): an optional sign, a whole number
without leading zeros, and perhaps a fraction and an exponent.

**Theorem (`number?_append`).** The reader reads every number of the grammar in full, whatever
comes behind it that does not go on with it (`NumberEnds`). **Theorem (`exists_numberText`).** It
reads nothing else. Each part of the reader has its part of the grammar.
-/

namespace EntitySelection.Json

open Numeral (Digits digits_takeWhile takeWhile_digits isAsciiDigit digitsValue)

variable {c : Char} {cs ds rest more whole fraction exponent : List Char} {v : Value}

/-! ## The grammar -/

/-- A whole number as it is written: a zero, or digits that do not start with one. -/
inductive WholePart : List Char → Prop
  | zero : WholePart ['0']
  | digits {d : Char} {ds : List Char} (hne : d ≠ '0') (hds : Digits (d :: ds)) :
      WholePart (d :: ds)

/-- A fraction as it is written, which may be not at all. -/
inductive FractionPart : List Char → Prop
  | absent : FractionPart []
  | present {ds : List Char} (hds : Digits ds) (hne : ds ≠ []) : FractionPart ('.' :: ds)

/-- An exponent as it is written, which may be not at all. -/
inductive ExponentPart : List Char → Prop
  | absent : ExponentPart []
  | present {mark : Char} {sign ds : List Char} (hmark : mark = 'e' ∨ mark = 'E')
      (hsign : sign = [] ∨ sign = ['+'] ∨ sign = ['-']) (hds : Digits ds) (hne : ds ≠ []) :
      ExponentPart (mark :: (sign ++ ds))

/-- The value of a number with these parts. -/
def partsValue? (sign whole fraction exponent : List Char) : Option Value :=
  if fraction.isEmpty && exponent.isEmpty then
    some (.int (Binary64.applySign (!sign.isEmpty) (digitsValue 0 whole)))
  else (Numeral.ofChars? (sign ++ whole ++ fraction ++ exponent)).map fun n => .float n.toBinary64

/-- A number and how it is written. -/
inductive NumberText : List Char → Value → Prop
  | mk {sign whole fraction exponent : List Char} {v : Value} (hsign : sign = [] ∨ sign = ['-'])
      (hwhole : WholePart whole) (hfraction : FractionPart fraction)
      (hexponent : ExponentPart exponent) (hv : partsValue? sign whole fraction exponent = some v) :
      NumberText (sign ++ (whole ++ (fraction ++ exponent))) v

/-- What may stand behind a number: nothing that goes on with it. -/
def NumberEnds (rest : List Char) : Prop :=
  ∀ c ∈ rest.head?, isAsciiDigit c = false ∧ c ≠ '.' ∧ c ≠ 'e' ∧ c ≠ 'E'

/-! ## The parts of a number are read -/

/-- Digits stop here. -/
def NoDigit (rest : List Char) : Prop := rest.takeWhile isAsciiDigit = []

theorem noDigit_cons (h : isAsciiDigit c = false) : NoDigit (c :: rest) :=
  List.takeWhile_cons_of_neg (by simp [h])

theorem NumberEnds.noDigit (h : NumberEnds rest) : NoDigit rest := by
  cases rest with
  | nil => rfl
  | cons c rest => exact noDigit_cons (h c rfl).1

theorem ExponentPart.noDigit (h : ExponentPart exponent) (hends : NumberEnds rest) :
    NoDigit (exponent ++ rest) := by
  cases h with
  | absent => exact hends.noDigit
  | present hmark =>
    rcases hmark with rfl | rfl
    · exact noDigit_cons (c := 'e') rfl
    · exact noDigit_cons (c := 'E') rfl

theorem FractionPart.noDigit (h : FractionPart fraction) (hexponent : NoDigit (exponent ++ rest)) :
    NoDigit (fraction ++ (exponent ++ rest)) := by
  cases h with
  | absent => exact hexponent
  | present => exact noDigit_cons (c := '.') rfl

theorem wholeDigits_append (h : WholePart whole) (hrest : NoDigit rest) :
    wholeDigits (whole ++ rest) = whole := by
  cases h with
  | zero => rfl
  | digits hne hds =>
    rw [wholeDigits, takeWhile_digits hds hrest]
    rintro tail htail
    exact hne (List.cons.inj htail).1

theorem fractionPart_append (h : FractionPart fraction) (hexponent : ExponentPart exponent)
    (hends : NumberEnds rest) :
    fractionPart (fraction ++ (exponent ++ rest)) = fraction := by
  cases h with
  | absent =>
    rw [List.nil_append]
    unfold fractionPart
    split
    · next tail htail =>
      cases hexponent with
      | absent => exact absurd rfl (hends '.' (by rw [List.nil_append] at htail; rw [htail]; rfl)).2.1
      | present hmark =>
        rcases hmark with rfl | rfl <;> cases htail
    · rfl
  | present hds hne =>
    rw [List.cons_append, fractionPart, takeWhile_digits hds (hexponent.noDigit hends)]
    simp [hne]

theorem exponentPart_append (h : ExponentPart exponent) (hends : NumberEnds rest) :
    exponentPart (exponent ++ rest) = exponent := by
  cases h with
  | absent =>
    cases rest with
    | nil => rfl
    | cons c rest =>
      obtain ⟨-, -, hlower, hupper⟩ := hends c rfl
      simp [exponentPart, hlower, hupper]
  | @present mark sign ds hmark hsign hds hne =>
    have htake : (ds ++ rest).takeWhile isAsciiDigit = ds := takeWhile_digits hds hends.noDigit
    have hnot : ds.isEmpty = false := by simpa using hne
    have hmark : (mark == 'e' || mark == 'E') = true := by simpa using hmark
    simp only [List.cons_append, exponentPart, hmark, if_true]
    rcases hsign with rfl | rfl | rfl
    · obtain ⟨d, ds, rfl⟩ := List.exists_cons_of_ne_nil hne
      obtain ⟨hminus, hplus⟩ := Numeral.head_of_digits hds d rfl
      simp only [List.cons_append] at htake
      simp [hplus, hminus, htake]
    · simp [htake, hne]
    · simp [htake, hne]

/-- The reader splits the text into these parts. -/
structure Splits (sign whole fraction exponent rest : List Char) : Prop where
  sign_eq : (if (sign ++ (whole ++ (fraction ++ (exponent ++ rest)))).head? = some '-'
    then ['-'] else []) = sign
  whole_eq : wholeDigits (whole ++ (fraction ++ (exponent ++ rest))) = whole
  fraction_eq : fractionPart (fraction ++ (exponent ++ rest)) = fraction
  exponent_eq : exponentPart (exponent ++ rest) = exponent

/-- What is read is the value of the parts, if there are digits. -/
theorem Splits.number?_eq {sign : List Char} (h : Splits sign whole fraction exponent rest) :
    number? (sign ++ (whole ++ (fraction ++ (exponent ++ rest)))) =
      if whole = [] then none else (partsValue? sign whole fraction exponent).map (·, rest) := by
  obtain ⟨hsign, hwhole, hfraction, hexponent⟩ := h
  simp only [number?, hsign, List.drop_left, hwhole, ← List.drop_drop, hfraction, hexponent,
    List.isEmpty_iff, partsValue?]
  split
  · rfl
  · split
    · rfl
    · rw [Option.map_map]
      rfl

/-- The parts of a number are found again. -/
theorem splits_of_parts {sign : List Char} (hsign : sign = [] ∨ sign = ['-'])
    (hwhole : WholePart whole) (hfraction : FractionPart fraction)
    (hexponent : ExponentPart exponent) (hends : NumberEnds rest) :
    Splits sign whole fraction exponent rest where
  sign_eq := by
    rcases hsign with rfl | rfl
    · apply if_neg
      cases hwhole with
      | zero => simp
      | digits _ hds => simpa using (Numeral.head_of_digits hds _ rfl).1
    · rfl
  whole_eq := wholeDigits_append hwhole (hfraction.noDigit (hexponent.noDigit hends))
  fraction_eq := fractionPart_append hfraction hexponent hends
  exponent_eq := exponentPart_append hexponent hends

theorem WholePart.ne_nil (h : WholePart whole) : whole ≠ [] := by
  cases h <;> exact List.cons_ne_nil _ _

/-- **A number is read**, whatever comes behind it that does not go on with it. -/
theorem number?_append (h : NumberText cs v) (hends : NumberEnds rest) :
    number? (cs ++ rest) = some (v, rest) := by
  obtain ⟨hsign, hwhole, hfraction, hexponent, hv⟩ := h
  simp only [List.append_assoc]
  rw [(splits_of_parts hsign hwhole hfraction hexponent hends).number?_eq, if_neg hwhole.ne_nil, hv]
  rfl

theorem NumberText.head (h : NumberText cs v) :
    ∃ c tail, cs = c :: tail ∧ (c = '-' ∨ isAsciiDigit c = true) := by
  obtain ⟨hsign, hwhole, -, -, -⟩ := h
  rcases hsign with rfl | rfl
  · cases hwhole with
    | zero => exact ⟨'0', _, rfl, .inr rfl⟩
    | digits _ hds => exact ⟨_, _, rfl, .inr (hds _ List.mem_cons_self)⟩
  · exact ⟨'-', _, rfl, .inl rfl⟩

/-! ## What is read is a number -/

theorem wholeDigits_spec (cs : List Char) :
    (wholeDigits cs ≠ [] → WholePart (wholeDigits cs)) ∧ wholeDigits cs <+: cs := by
  unfold wholeDigits
  split
  · exact ⟨fun _ => .zero, List.prefix_append ['0'] _⟩
  · next hzero =>
    have hds := digits_takeWhile cs
    have hprefix : cs.takeWhile isAsciiDigit <+: cs := List.takeWhile_prefix _
    refine ⟨fun hne => ?_, hprefix⟩
    obtain ⟨d, ds, hd⟩ := List.exists_cons_of_ne_nil hne
    rw [hd] at hds hprefix ⊢
    obtain ⟨tail, htail⟩ := hprefix
    refine .digits ?_ hds
    rintro rfl
    exact hzero _ htail.symm

theorem fractionPart_spec (cs : List Char) :
    FractionPart (fractionPart cs) ∧ fractionPart cs <+: cs := by
  unfold fractionPart
  split
  · next tail =>
    dsimp only
    split
    · exact ⟨.absent, List.nil_prefix⟩
    · next hne =>
      exact ⟨.present (digits_takeWhile tail) (by simpa using hne),
        List.prefix_cons_inj _ |>.2 (List.takeWhile_prefix _)⟩
  · exact ⟨.absent, List.nil_prefix⟩

/-- The sign of an exponent, which may be missing. -/
def exponentSign : List Char → List Char
  | c :: _ => if c == '+' || c == '-' then [c] else []
  | [] => []

theorem exponentPart_cons (mark : Char) (cs : List Char) : exponentPart (mark :: cs) =
    if mark == 'e' || mark == 'E' then
      if ((cs.drop (exponentSign cs).length).takeWhile isAsciiDigit).isEmpty then []
      else mark :: (exponentSign cs ++ (cs.drop (exponentSign cs).length).takeWhile isAsciiDigit)
    else [] := rfl

theorem exponentSign_spec (cs : List Char) :
    (exponentSign cs = [] ∨ exponentSign cs = ['+'] ∨ exponentSign cs = ['-']) ∧
      exponentSign cs <+: cs := by
  unfold exponentSign
  split
  · next c tail =>
    split
    · next hsign =>
      have hsign : c = '+' ∨ c = '-' := by simpa using hsign
      exact ⟨.inr (by simpa using hsign), List.prefix_append [c] tail⟩
    · exact ⟨.inl rfl, List.nil_prefix⟩
  · exact ⟨.inl rfl, List.nil_prefix⟩

theorem exponentPart_spec (cs : List Char) :
    ExponentPart (exponentPart cs) ∧ exponentPart cs <+: cs := by
  cases cs with
  | nil => exact ⟨.absent, List.nil_prefix⟩
  | cons mark rest =>
    rw [exponentPart_cons]
    obtain ⟨hsign, tail, htail⟩ := exponentSign_spec rest
    generalize exponentSign rest = sign at *
    subst htail
    rw [List.drop_left]
    split
    · next hmark =>
      split
      · exact ⟨.absent, List.nil_prefix⟩
      · next hne =>
        refine ⟨.present (by simpa using hmark) hsign (digits_takeWhile tail)
          (by simpa using hne), ?_⟩
        rw [List.prefix_cons_inj, List.prefix_append_right_inj]
        exact List.takeWhile_prefix _
    · exact ⟨.absent, List.nil_prefix⟩

/-- Every text is split, into parts of the grammar if there are digits at its start. -/
theorem exists_splits (cs : List Char) : ∃ sign whole fraction exponent rest,
    cs = sign ++ (whole ++ (fraction ++ (exponent ++ rest))) ∧
      Splits sign whole fraction exponent rest ∧ (sign = [] ∨ sign = ['-']) ∧
      (whole ≠ [] → WholePart whole) ∧ FractionPart fraction ∧ ExponentPart exponent := by
  have hsign : ∃ sign body, (if cs.head? = some '-' then ['-'] else []) = sign ∧
      (sign = [] ∨ sign = ['-']) ∧ cs = sign ++ body := by
    split
    · next hminus =>
      obtain ⟨tail, rfl⟩ := List.head?_eq_some_iff.1 hminus
      exact ⟨_, tail, rfl, .inr rfl, rfl⟩
    · exact ⟨_, cs, rfl, .inl rfl, rfl⟩
  obtain ⟨sign, body, hsplit, hcases, rfl⟩ := hsign
  obtain ⟨hwhole, hprefix⟩ := wholeDigits_spec body
  obtain ⟨tail, hbody⟩ := hprefix
  obtain ⟨hfraction, tail', htail⟩ := fractionPart_spec tail
  obtain ⟨hexponent, rest, hrest⟩ := exponentPart_spec tail'
  refine ⟨sign, wholeDigits body, fractionPart tail, exponentPart tail', rest, ?_, ?_, hcases,
    hwhole, hfraction, hexponent⟩
  · rw [hrest, htail, hbody]
  · constructor <;> simp only [hrest, htail, hbody, hsplit]

/-- **What is read as a number is one.** -/
theorem exists_numberText (h : number? cs = some (v, rest)) :
    ∃ ds, cs = ds ++ rest ∧ NumberText ds v := by
  obtain ⟨sign, whole, fraction, exponent, left, rfl, hsplits, hsign, hwhole, hfraction,
    hexponent⟩ := exists_splits cs
  rw [hsplits.number?_eq] at h
  split at h
  · cases h
  · next hne =>
    obtain ⟨w, hw, heq⟩ := Option.map_eq_some_iff.1 h
    obtain ⟨rfl, rfl⟩ := Prod.mk.inj heq
    exact ⟨_, by simp only [List.append_assoc], .mk hsign (hwhole hne) hfraction hexponent hw⟩

end EntitySelection.Json
