import EntitySelection.Numeral
import Mathlib.Tactic.IntervalCases

/-!
# Reading decimal numbers

What `unsigned?` reads from digits with a point (`unsigned?_point`) and from digits without one
(`unsigned?_whole`), each with what may follow, and what `ofChars?` makes of it behind a sign
(`ofChars?_of_unsigned?`). The value of the digits is that of `Nat.ofDigitChars`
(`digitsValue_eq`), so the digits of a number read as that number (`digitsValue_toDigits`).
-/

namespace EntitySelection.Numeral

open Text

/-! ## Digits -/

/-- All are digits. -/
def Digits (ds : List Char) : Prop := ∀ c ∈ ds, isAsciiDigit c = true

theorem isAsciiDigit_iff {c : Char} : isAsciiDigit c = true ↔ c.isDigit = true := by
  rw [isAsciiDigit, asciiDigitValue?, Char.isDigit_iff_toNat]
  simp only [Char.le_def, UInt32.le_iff_toNat_le]
  split
  · next h => simpa using h
  · next h => simpa using h

theorem digits_toDigits (n : Nat) : Digits (Nat.toDigits 10 n) := fun _ hc =>
  isAsciiDigit_iff.2 (Nat.isDigit_of_mem_toDigits (by decide) (by decide) hc)

theorem digits_replicate (k : Nat) : Digits (List.replicate k '0') := fun c hc => by
  obtain rfl := List.eq_of_mem_replicate hc
  rfl

theorem Digits.append {ds es : List Char} (hd : Digits ds) (he : Digits es) : Digits (ds ++ es) := by
  intro c hc
  rcases List.mem_append.1 hc with h | h
  · exact hd c h
  · exact he c h

theorem digitsValue_append (start : Nat) (ds es : List Char) :
    digitsValue start (ds ++ es) = digitsValue (digitsValue start ds) es :=
  List.foldl_append

theorem digitsValue_eq {start : Nat} {ds : List Char} (h : Digits ds) :
    digitsValue start ds = Nat.ofDigitChars 10 ds start := by
  induction ds generalizing start with
  | nil => rfl
  | cons c ds ih =>
    have hdigit : '0' ≤ c ∧ c ≤ '9' := by
      by_contra hnot
      simpa [isAsciiDigit, asciiDigitValue?, hnot] using h c List.mem_cons_self
    have hc : (asciiDigitValue? c).getD 0 = c.toNat - '0'.toNat := by
      rw [asciiDigitValue?, if_pos hdigit]
      rfl
    rw [Nat.ofDigitChars_cons, ← hc]
    exact ih fun d hd => h d (List.mem_cons_of_mem _ hd)

/-- The digits of a number read as that number. -/
theorem digitsValue_toDigits (n : Nat) : digitsValue 0 (Nat.toDigits 10 n) = n := by
  rw [digitsValue_eq (digits_toDigits n), Nat.ofDigitChars_ten_toDigits]

theorem digitsValue_zeros (start k : Nat) :
    digitsValue start (List.replicate k '0') = start * 10 ^ k := by
  rw [digitsValue_eq (digits_replicate k), Nat.ofDigitChars_replicate_zero, Nat.mul_comm]

theorem digitsValue_zeros_append (k : Nat) (ds : List Char) :
    digitsValue 0 (List.replicate k '0' ++ ds) = digitsValue 0 ds := by
  rw [digitsValue_append, digitsValue_zeros, Nat.zero_mul]

/-! ## Signs -/

/-- A sign as it is written, which may be not at all. -/
inductive Sign : Bool → List Char → Prop
  | absent : Sign false []
  | plus : Sign false ['+']
  | minus : Sign true ['-']

/-- A sign is split off what does not start with a sign. -/
theorem splitSign_append {negative : Bool} {sign body : List Char} (h : Sign negative sign)
    (hbody : ∀ c, body.head? = some c → c ≠ '-' ∧ c ≠ '+') :
    splitSign (sign ++ body) = (negative, body) := by
  cases h with
  | plus => rfl
  | minus => rfl
  | absent =>
    cases body with
    | nil => rfl
    | cons c rest =>
      obtain ⟨hminus, hplus⟩ := hbody c rfl
      simp [splitSign, hminus, hplus]

/-- What is split off is a sign. -/
theorem exists_sign (cs : List Char) :
    ∃ sign, Sign (splitSign cs).1 sign ∧ cs = sign ++ (splitSign cs).2 := by
  unfold splitSign
  split
  · exact ⟨_, .minus, rfl⟩
  · exact ⟨_, .plus, rfl⟩
  · exact ⟨_, .absent, rfl⟩

/-- A digit is no sign. -/
theorem head_of_digits {ds : List Char} (hd : Digits ds) :
    ∀ c, ds.head? = some c → c ≠ '-' ∧ c ≠ '+' := by
  intro c hc
  have hdigit := hd c (List.mem_of_head? hc)
  constructor
  · rintro rfl
    exact absurd hdigit (by decide)
  · rintro rfl
    exact absurd hdigit (by decide)

/-! ## What may follow digits -/

/-- An exponent. -/
theorem exponent?_mark {mark : Char} {negative : Bool} {sign ds : List Char}
    (hmark : mark = 'e' ∨ mark = 'E') (hsign : Sign negative sign) (hd : Digits ds)
    (hne : ds ≠ []) :
    exponent? (mark :: (sign ++ ds)) =
      some (Binary64.applySign negative (digitsValue 0 ds)) := by
  have hall : ds.all isAsciiDigit = true := List.all_eq_true.2 hd
  have hnot : ds.isEmpty = false := by simpa using hne
  simp [exponent?, hmark, splitSign_append hsign (head_of_digits hd), hall, hnot]

/-- What may follow digits does not go on with a digit or a point. -/
theorem exponent?_head {tail : List Char} {e : Int} (h : exponent? tail = some e) :
    tail.takeWhile isAsciiDigit = [] ∧ tail.dropWhile isAsciiDigit = tail ∧
      ∀ rest, tail ≠ '.' :: rest := by
  cases tail with
  | nil => simp
  | cons c cs =>
    have hc : c = 'e' ∨ c = 'E' := by
      by_contra hnot
      simp [exponent?, hnot] at h
    have hdigit : isAsciiDigit c = false := by
      rcases hc with rfl | rfl <;> decide
    have hpoint : c ≠ '.' := by
      rcases hc with rfl | rfl <;> decide
    refine ⟨List.takeWhile_cons_of_neg ?_, List.dropWhile_cons_of_neg ?_, fun rest heq => ?_⟩
    · simp [hdigit]
    · simp [hdigit]
    · exact hpoint (List.cons.inj heq).1

theorem takeWhile_digits {ds rest : List Char} (hd : Digits ds)
    (hrest : rest.takeWhile isAsciiDigit = []) : (ds ++ rest).takeWhile isAsciiDigit = ds := by
  rw [List.takeWhile_append_of_pos hd, hrest, List.append_nil]

variable {whole fraction tail : List Char} {e : Int}

/-- Digits, a point and digits, of which there are some. -/
theorem unsigned?_point (hw : Digits whole) (hf : Digits fraction)
    (hne : whole ≠ [] ∨ fraction ≠ []) (htail : exponent? tail = some e) :
    unsigned? (whole ++ '.' :: (fraction ++ tail)) =
      some (digitsValue 0 (whole ++ fraction), e - fraction.length) := by
  obtain ⟨htake, hdrop, -⟩ := exponent?_head htail
  have hpoint : isAsciiDigit '.' = false := by decide
  have hstop : ('.' :: (fraction ++ tail)).takeWhile isAsciiDigit = [] :=
    List.takeWhile_cons_of_neg (by simp [hpoint])
  have hrest : (whole ++ '.' :: (fraction ++ tail)).dropWhile isAsciiDigit =
      '.' :: (fraction ++ tail) := by
    rw [List.dropWhile_append_of_pos hw, List.dropWhile_cons_of_neg (by simp [hpoint])]
  have hnot : (whole.isEmpty && fraction.isEmpty) = false := by
    rw [Bool.and_eq_false_iff]
    simpa using hne
  simp only [unsigned?, takeWhile_digits hw hstop, hrest, takeWhile_digits hf htake,
    List.dropWhile_append_of_pos hf, hdrop, hnot, htail, Bool.false_eq_true,
    if_false, Option.map_some, ← digitsValue_append]

/-- Digits without a point. -/
theorem unsigned?_whole (hw : Digits whole) (hne : whole ≠ []) (htail : exponent? tail = some e) :
    unsigned? (whole ++ tail) = some (digitsValue 0 whole, e) := by
  obtain ⟨htake, hdrop, hpoint⟩ := exponent?_head htail
  have hnot : whole.isEmpty = false := by simpa using hne
  simp only [unsigned?, takeWhile_digits hw htake, List.dropWhile_append_of_pos hw, hdrop,
    hnot, htail, Bool.false_and, Bool.false_eq_true, if_false, Option.map_some,
    List.length_nil, Int.natCast_zero, Int.sub_zero]
  rfl

/-! ## Decimal numbers -/

def digitChars : List Char := ['0', '1', '2', '3', '4', '5', '6', '7', '8', '9']

theorem mem_digitChars {c : Char} (h : isAsciiDigit c = true) : c ∈ digitChars := by
  obtain ⟨hlow, hhigh⟩ := Char.isDigit_iff_toNat.1 (isAsciiDigit_iff.1 h)
  have hzero : '0'.toNat = 48 := rfl
  have hnine : '9'.toNat = 57 := rfl
  rw [← Char.ofNat_toNat c]
  rw [hzero] at hlow
  rw [hnine] at hhigh
  interval_cases c.toNat <;> decide

/-- A decimal number without a sign starts with a digit or a point. -/
theorem head_of_unsigned? {cs : List Char} {r : Nat × Int} (h : unsigned? cs = some r) :
    ∃ c rest, cs = c :: rest ∧ c ∈ digitChars ++ ['.'] := by
  cases cs with
  | nil => simp [unsigned?] at h
  | cons c rest =>
    refine ⟨c, rest, rfl, ?_⟩
    by_cases hdigit : isAsciiDigit c = true
    · exact List.mem_append_left ['.'] (mem_digitChars hdigit)
    by_cases hpoint : c = '.'
    · simp [hpoint]
    · simp [unsigned?, hdigit, hpoint] at h

/-- A digit or a point is neither a sign nor the first letter of a special. -/
theorem head_distinct : ∀ c ∈ digitChars ++ ['.'],
    c ≠ '-' ∧ c ≠ '+' ∧ c.toLower ≠ 'i' ∧ c.toLower ≠ 'n' := by
  have hall : (digitChars ++ ['.']).all (fun c =>
      c != '-' && c != '+' && c.toLower != 'i' && c.toLower != 'n') = true := rfl
  intro c hc
  simpa [and_assoc] using List.all_eq_true.1 hall c hc

/-- A decimal number with a sign, if it has one. -/
theorem ofChars?_of_unsigned? {negative : Bool} {sign cs : List Char} {c : Nat} {e : Int}
    (hsign : Sign negative sign) (h : unsigned? cs = some (c, e)) :
    ofChars? (sign ++ cs) = some (.decimal negative c e) := by
  obtain ⟨first, rest, rfl, hfirst⟩ := head_of_unsigned? h
  obtain ⟨hminus, hplus, hi, hn⟩ := head_distinct first hfirst
  have hsplit : splitSign (sign ++ first :: rest) = (negative, first :: rest) := by
    refine splitSign_append hsign fun d hd => ?_
    obtain rfl : first = d := by simpa using hd
    exact ⟨hminus, hplus⟩
  simp [ofChars?, hsplit, foldCase, hi, hn, h]

/-! ## Separators -/

theorem dropSeparators_of_not_mem {cs : List Char} (h : '_' ∉ cs) (afterDigit : Bool) :
    dropSeparators afterDigit cs = some cs := by
  induction cs generalizing afterDigit with
  | nil => rfl
  | cons c cs ih =>
    rw [List.mem_cons, not_or] at h
    obtain ⟨hc, hcs⟩ := h
    rw [dropSeparators, ih hcs]
    · rfl
    · exact Ne.symm hc

end EntitySelection.Numeral
