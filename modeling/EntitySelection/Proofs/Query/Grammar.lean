import EntitySelection.Proofs.Binary64.Value
import EntitySelection.Proofs.Numeral.Scripts
import EntitySelection.Proofs.Registry.Longest

/-!
# The grammar of queries

A query is what a text leads with, once the characters before it are left out, and a numeral
behind that, once the characters around it are left out (`Conforms`). The classes of those
characters are not the same.

**Theorem (`conforms_replay`).** However a registry was filled, every text is read as this grammar
says, where blanks may stand before the token and only spaces around the numeral. No one class of
characters will do for both (`not_conforms_separator`): an information separator is left out
before the token, and not behind the numeral.

The token is that of `leads_splitToken`, the numeral that of `read?_eq_some_iff`, and its number
that of `rounded_iff`.
-/

namespace EntitySelection

namespace Query

open Text Numeral

/-! ## The operand -/

section Operand

variable {rest : List Char} {x : Binary64} {cause : Malformation}

theorem operand_of_mem (h : '_' ∈ rest) : operand rest = .error .digitSeparators := by
  rw [operand, if_pos (List.contains_iff_mem.2 h)]

theorem operand_of_not_mem (h : '_' ∉ rest) :
    operand rest = match read? (String.ofList rest) with
      | some n => .ok n.toBinary64
      | none => .error (.notNumber (strip (String.ofList rest))) :=
  if_neg (mt List.contains_iff_mem.1 h)

/-- An operand is read when it is a numeral without underscores, and then it is rounded. -/
theorem operand_eq_ok_iff : operand rest = .ok x ↔
    '_' ∉ rest ∧ ∃ n, Written digitValue? n (trim isSpace rest) ∧ n.Rounded x := by
  by_cases hmem : '_' ∈ rest
  · simp [operand_of_mem hmem, hmem]
  · simp only [operand_of_not_mem hmem, ← read?_eq_some_iff hmem, rounded_iff]
    cases read? (String.ofList rest) with
    | none => simp
    | some n => simp [hmem]

/-- The reason names the underscores when there are some. -/
theorem operand_error_iff (h : operand rest = .error cause) :
    cause = .digitSeparators ↔ '_' ∈ rest := by
  by_cases hmem : '_' ∈ rest
  · rw [operand_of_mem hmem] at h
    exact iff_of_true (Except.error.inj h).symm hmem
  · rw [operand_of_not_mem hmem] at h
    refine iff_of_false ?_ hmem
    rintro rfl
    split at h <;> cases h

end Operand

/-! ## Queries -/

/-- A text leads with `c`, once the characters of the class `before` are left out, and is read as
the grammar says of what follows, with characters of the class `around` around the numeral. -/
structure Follows (before around : Char → Bool) (r : Registry) (raw : String) (c : Comparator)
    (rest : List Char) : Prop where
  leads_iff : ∀ d tail, r.Leads (trimStart before raw.toList) d tail ↔ d = c ∧ tail = rest
  accepts_iff : (∃ q, parse r raw = .ok q) ↔
    '_' ∉ rest ∧ ∃ n, Written digitValue? n (trim around rest)
  comparator : ∀ q, parse r raw = .ok q → q.comparator = c
  against : ∀ q n, parse r raw = .ok q → Written digitValue? n (trim around rest) →
    n.Rounded q.against
  error : ∀ bad, parse r raw = .error bad →
    bad.raw = raw ∧ (bad.cause = .digitSeparators ↔ '_' ∈ rest)

/-- A text is read as the grammar says. -/
def Conforms (before around : Char → Bool) (r : Registry) (raw : String) : Prop :=
  ∃ c rest, Follows before around r raw c rest

section Parse

variable {r : Registry} {raw : String} {c : Comparator} {rest : List Char}

theorem parse_eq_ok_iff {q : Query}
    (h : r.splitToken (trimStart isBlank raw.toList) = (c, rest)) :
    parse r raw = .ok q ↔ q.comparator = c ∧ operand rest = .ok q.against := by
  obtain ⟨d, x⟩ := q
  simp only [parse, h]
  cases operand rest with
  | error cause => simp
  | ok y => simp [eq_comm]

theorem parse_eq_error_iff {bad : Malformed}
    (h : r.splitToken (trimStart isBlank raw.toList) = (c, rest)) :
    parse r raw = .error bad ↔ bad.raw = raw ∧ operand rest = .error bad.cause := by
  obtain ⟨raw', cause'⟩ := bad
  simp only [parse, h]
  cases operand rest with
  | error cause => simp [eq_comm]
  | ok y => simp

/-- A registry counts for what a text is read as only by what it splits off. -/
theorem parse_congr {s : Registry} (h : r.splitToken (trimStart isBlank raw.toList) =
    s.splitToken (trimStart isBlank raw.toList)) : parse r raw = parse s raw := by
  rw [parse, parse, h]

end Parse

theorem follows_splitToken {r : Registry} (hne : ∀ t c, r.lookup t = some c → t ≠ "")
    (raw : String) :
    Follows isBlank isSpace r raw (r.splitToken (trimStart isBlank raw.toList)).1
      (r.splitToken (trimStart isBlank raw.toList)).2 := by
  have hleads := Registry.leads_splitToken hne (trimStart isBlank raw.toList)
  generalize hsplit : r.splitToken (trimStart isBlank raw.toList) = found at *
  obtain ⟨c, rest⟩ := found
  constructor
  case leads_iff =>
    intro d tail
    constructor
    · intro h
      exact h.unique hleads
    · rintro ⟨rfl, rfl⟩
      exact hleads
  case accepts_iff =>
    constructor
    · rintro ⟨q, hq⟩
      obtain ⟨hnot, n, hn, -⟩ := operand_eq_ok_iff.1 ((parse_eq_ok_iff hsplit).1 hq).2
      exact ⟨hnot, n, hn⟩
    · rintro ⟨hnot, n, hn⟩
      have hoperand := operand_eq_ok_iff.2 ⟨hnot, n, hn, rounded_iff.2 rfl⟩
      exact ⟨⟨c, n.toBinary64⟩, (parse_eq_ok_iff hsplit).2 ⟨rfl, hoperand⟩⟩
  case comparator => exact fun q hq => ((parse_eq_ok_iff hsplit).1 hq).1
  case against =>
    intro q n hq hn
    obtain ⟨-, m, hm, hrounded⟩ := operand_eq_ok_iff.1 ((parse_eq_ok_iff hsplit).1 hq).2
    rwa [hn.unique hm]
  case error =>
    intro bad hbad
    obtain ⟨hraw, hoperand⟩ := (parse_eq_error_iff hsplit).1 hbad
    exact ⟨hraw, operand_error_iff hoperand⟩

/-- The comparator of a query is the one that its text leads with. -/
theorem leads_of_parse {r : Registry} {raw : String} {q : Query}
    (hne : ∀ t c, r.lookup t = some c → t ≠ "") (h : parse r raw = .ok q) :
    ∃ rest, r.Leads (trimStart isBlank raw.toList) q.comparator rest := by
  have hfollows := follows_splitToken hne raw
  exact ⟨_, (hfollows.leads_iff _ _).2 ⟨hfollows.comparator q h, rfl⟩⟩

/-- **Every text is read as the grammar says**, with blanks before the token and spaces around the
numeral. -/
theorem conforms_replay (log : List Registration) (raw : String) :
    Conforms isBlank isSpace (Registry.empty.replay log) raw := by
  have hr := Registry.consistent_replay log
  refine ⟨_, _, follows_splitToken (fun t c hl => ?_) raw⟩
  exact (Registry.isToken_iff.1 (hr.isToken t c hl)).1

/-- Without tokens a text is read as a numeral. -/
theorem Conforms.accepts_empty {before around : Char → Bool} {raw : String}
    (h : Conforms before around .empty raw) : (∃ q, parse .empty raw = .ok q) ↔
      '_' ∉ trimStart before raw.toList ∧
        ∃ n, Written digitValue? n (trim around (trimStart before raw.toList)) := by
  obtain ⟨c, rest, hfollows⟩ := h
  have hbare : Registry.empty.Leads (trimStart before raw.toList) .equal
      (trimStart before raw.toList) := .bare fun _ _ hl => nomatch hl
  obtain ⟨-, rfl⟩ := (hfollows.leads_iff _ _).1 hbare
  exact hfollows.accepts_iff

/-- **An information separator may stand before the token and not behind the numeral**, so that no
one class of characters describes both places. -/
theorem not_conforms_separator :
    (∃ q, parse .empty "\x1c3" = .ok q) ∧ (∃ bad, parse .empty "3\x1c" = .error bad) ∧
      ∀ white, ¬ (Conforms white white .empty "\x1c3" ∧ Conforms white white .empty "3\x1c") := by
  have hok : ∃ q, parse .empty "\x1c3" = .ok q := ⟨_, rfl⟩
  have hbad : ∃ bad, parse .empty "3\x1c" = .error bad := ⟨_, rfl⟩
  refine ⟨hok, hbad, fun white hboth => ?_⟩
  obtain ⟨hbefore, hbehind⟩ := hboth
  obtain ⟨-, n, hn⟩ := hbefore.accepts_empty.1 hok
  have hchars : "\x1c3".toList = ['\x1c', '3'] := rfl
  have hchars' : "3\x1c".toList = ['3', '\x1c'] := rfl
  rw [written_iff, hchars] at hn
  have hbehind := hbehind.accepts_empty.2
  rw [hchars'] at hbehind
  by_cases hseparator : white '\x1c' = true
  · by_cases hthree : white '3' = true
    · have htrim : trim white (trimStart white ['\x1c', '3']) = [] := by
        simp [trim, trimStart, trimEnd, hseparator, hthree]
      rw [htrim] at hn
      cases hn
    · -- The separator would be left out behind the numeral too.
      have hstart : trimStart white ['3', '\x1c'] = ['3', '\x1c'] := by
        simp [trimStart, hthree]
      have htrim : trim white ['3', '\x1c'] = ['3'] := by
        simp [trim, trimStart, trimEnd, hseparator, hthree]
      rw [hstart, htrim] at hbehind
      obtain ⟨q, hq⟩ := hbehind ⟨by decide, .decimal false 3 0, written_iff.2 rfl⟩
      obtain ⟨bad, hbad⟩ := hbad
      rw [hq] at hbad
      cases hbad
  · have hstart : trimStart white ['\x1c', '3'] = ['\x1c', '3'] := by
      simp [trimStart, hseparator]
    rw [hstart] at hn
    by_cases hthree : white '3' = true
    · have htrim : trim white ['\x1c', '3'] = ['\x1c'] := by
        simp [trim, trimStart, trimEnd, hseparator, hthree]
      rw [htrim] at hn
      cases hn
    · have htrim : trim white ['\x1c', '3'] = ['\x1c', '3'] := by
        simp [trim, trimStart, trimEnd, hseparator, hthree]
      rw [htrim] at hn
      cases hn

end Query

end EntitySelection
