import EntitySelection.Proofs.Json.Numbers
import EntitySelection.Proofs.Json.RoundTrip

/-!
# What is read does not depend on what comes after

**Theorem (`value_extend`).** Where the reader takes a value from the start of a text, it takes the
same value when the text goes on, if a value may end where it did. Strings, lists and maps have
marks at their ends: they may go on in any way. A number ends where the next character does not go
on with it.

The induction is on the bound for the depth of calls, over values, items and members at once. What
a list, its items and a map's members are read from is said once, by an equivalence for each
(`value_list_iff`, `items_eq_ok_iff`, `members_eq_ok_iff`), and used in both directions.
-/

namespace EntitySelection.Json

variable {opening opening' fuel fuel' n : Nat} {c : Char} {cs rest left more s : List Char}
  {t : String} {v : Value} {vs : List Value} {es : List (Value × Value)}

/-! ## Strings -/

theorem codeUnit?_extend (h : codeUnit? cs = some (n, rest)) :
    codeUnit? (cs ++ more) = some (n, rest ++ more) := by
  unfold codeUnit? at h
  split at h
  · next a b c d e tail =>
    obtain ⟨m, hm, heq⟩ := Option.map_eq_some_iff.1 h
    obtain ⟨rfl, rfl⟩ := Prod.mk.inj heq
    simp [codeUnit?, hm]
  · cases h

theorem length_of_codeUnit? (h : codeUnit? cs = some (n, rest)) : 5 ≤ cs.length := by
  unfold codeUnit? at h
  split at h
  · simp
  · cases h

/-- The second half of a pair follows, wherever the text ends behind it. -/
theorem partner?_of_codeUnit? (h : codeUnit? cs = some (n, rest)) :
    partner? ('\\' :: 'u' :: cs) = .ok (if isLowSurrogate n then some (n, rest) else none) := by
  simp [partner?, h, Nat.not_lt.2 (length_of_codeUnit? h)]

/-- The text does not end within an escape at its start. -/
structure StartsWhole (cs : List Char) : Prop where
  notEmpty : cs ≠ []
  notCut : cs ≠ ['\\']
  codeUnit : ∀ tail, cs = '\\' :: 'u' :: tail → ∃ n rest, codeUnit? tail = some (n, rest)

theorem partner?_of_not_escape (h : ∀ tail, cs ≠ '\\' :: 'u' :: tail) : partner? cs = .ok none := by
  unfold partner?
  split
  · next tail => exact absurd rfl (h tail)
  · rfl

/-- Whether a second half follows is decided by what is there. -/
theorem partner?_extend {r : Option (Nat × List Char)} (h : partner? cs = .ok r)
    (hwhole : r = none → StartsWhole cs) :
    partner? (cs ++ more) = .ok (r.map fun p => (p.1, p.2 ++ more)) := by
  by_cases hescape : ∃ tail, cs = '\\' :: 'u' :: tail
  · obtain ⟨tail, rfl⟩ := hescape
    have hunit : ∃ n rest, codeUnit? tail = some (n, rest) := by
      cases hr : r with
      | none => exact (hwhole hr).codeUnit tail rfl
      | some p =>
        rw [hr, partner?] at h
        split at h
        · cases h
        · split at h
          · cases h
          · next n rest hn => exact ⟨n, rest, hn⟩
    obtain ⟨n, rest, hn⟩ := hunit
    rw [partner?_of_codeUnit? hn] at h
    obtain rfl := Except.ok.inj h
    rw [List.cons_append, List.cons_append, partner?_of_codeUnit? (codeUnit?_extend hn)]
    split <;> rfl
  · rw [not_exists] at hescape
    rw [partner?_of_not_escape hescape] at h
    obtain rfl := Except.ok.inj h
    obtain ⟨hne, hcut, -⟩ := hwhole rfl
    apply partner?_of_not_escape
    intro tail htail
    cases cs with
    | nil => exact hne rfl
    | cons c cs =>
      obtain ⟨rfl, hrest⟩ := List.cons.inj htail
      cases cs with
      | nil => exact hcut rfl
      | cons d cs =>
        obtain ⟨rfl, -⟩ := List.cons.inj hrest
        exact hescape cs rfl

theorem codeEscape_extend (h : codeEscape cs = .ok (c, left)) (hwhole : StartsWhole left) :
    codeEscape (cs ++ more) = .ok (c, left ++ more) := by
  unfold codeEscape at h ⊢
  cases hunit : codeUnit? cs with
  | none => rw [hunit] at h; cases h
  | some p =>
    obtain ⟨high, rest⟩ := p
    rw [hunit] at h
    rw [codeUnit?_extend hunit]
    simp only at h ⊢
    split at h
    · next hhigh =>
      rw [if_pos hhigh]
      obtain ⟨r, hr, h⟩ := bind_eq_ok_iff.1 h
      cases r with
      | none =>
        obtain ⟨rfl, rfl⟩ := Prod.mk.inj (Except.ok.inj h)
        rw [partner?_extend hr fun _ => hwhole]
        rfl
      | some p =>
        obtain ⟨rfl, rfl⟩ := Prod.mk.inj (Except.ok.inj h)
        rw [partner?_extend hr nofun]
        rfl
    · next hhigh =>
      obtain ⟨rfl, rfl⟩ := Prod.mk.inj (Except.ok.inj h)
      rw [if_neg hhigh]

theorem startsWhole_of_string (h : string opening fuel cs = .ok (s, rest)) : StartsWhole cs := by
  cases fuel with
  | zero => cases h
  | succ fuel =>
    refine ⟨?_, ?_, ?_⟩
    · rintro rfl
      cases h
    · rintro rfl
      cases h
    · rintro tail rfl
      rw [string] at h
      obtain ⟨⟨c, left⟩, hc, -⟩ := bind_eq_ok_iff.1 h
      unfold codeEscape at hc
      split at hc
      · cases hc
      · next n rest hn => exact ⟨n, rest, hn⟩

theorem exists_succ_of_le (h : fuel + 1 ≤ fuel') : ∃ k, fuel' = k + 1 ∧ fuel ≤ k :=
  ⟨fuel' - 1, by omega, by omega⟩

theorem string_escape_u (opening fuel : Nat) (cs : List Char) :
    string opening (fuel + 1) ('\\' :: 'u' :: cs) = codeEscape cs >>= fun p =>
      (string opening fuel p.2).map fun q => (p.1 :: q.1, q.2) := by
  rw [string]
  cases codeEscape cs with
  | error e => rfl
  | ok p => exact string_cons

/-- A string is read, whatever comes after it. -/
theorem string_extend (h : string opening fuel cs = .ok (s, rest)) (hle : fuel ≤ fuel') :
    string opening' fuel' (cs ++ more) = .ok (s, rest ++ more) := by
  fun_induction string opening fuel cs generalizing fuel' s rest with
  | case3 fuel tail =>
    obtain ⟨k, rfl, -⟩ := exists_succ_of_le hle
    obtain ⟨rfl, rfl⟩ := Prod.mk.inj (Except.ok.inj h)
    rfl
  | case5 fuel tail ih =>
    obtain ⟨k, rfl, hk⟩ := exists_succ_of_le hle
    obtain ⟨⟨c, left⟩, hc, h⟩ := bind_eq_ok_iff.1 h
    obtain ⟨⟨s, left'⟩, hs, h⟩ := bind_eq_ok_iff.1 h
    obtain ⟨rfl, rfl⟩ := Prod.mk.inj (Except.ok.inj h)
    have hescape : codeEscape (tail ++ more) = .ok (c, left ++ more) :=
      codeEscape_extend hc (startsWhole_of_string hs)
    rw [List.cons_append, List.cons_append, string_escape_u, hescape]
    simp only [bind, Except.bind, ih left hs hk, Except.map]
  | case6 fuel e tail hu c hc ih =>
    obtain ⟨k, rfl, hk⟩ := exists_succ_of_le hle
    obtain ⟨⟨s, left⟩, hs, h⟩ := bind_eq_ok_iff.1 h
    obtain ⟨rfl, rfl⟩ := Prod.mk.inj (Except.ok.inj h)
    rw [List.cons_append, List.cons_append, string_named hc, ih hs hk]
    rfl
  | case9 fuel c tail hquote hcut hunit hescape hcontrol ih =>
    obtain ⟨k, rfl, hk⟩ := exists_succ_of_le hle
    obtain ⟨⟨s, left⟩, hs, h⟩ := bind_eq_ok_iff.1 h
    obtain ⟨rfl, rfl⟩ := Prod.mk.inj (Except.ok.inj h)
    have hbackslash : c ≠ '\\' := by
      intro hc
      cases tail with
      | nil => exact hcut hc rfl
      | cons e tail => exact hescape e tail hc rfl
    rw [List.cons_append, string_plain hquote hbackslash (Nat.le_of_not_lt hcontrol), ih hs hk]
    rfl
  | _ => cases h

/-- A text is read, whatever comes after it. -/
theorem text_extend (h : text cs = .ok (t, rest)) : text (cs ++ more) = .ok (t, rest ++ more) := by
  obtain ⟨⟨s, left⟩, hs, h⟩ := bind_eq_ok_iff.1 h
  obtain ⟨rfl, rfl⟩ := Prod.mk.inj (Except.ok.inj h)
  have hlength : cs.length + 1 ≤ (cs ++ more).length + 1 := by simp
  rw [text, string_extend hs hlength]
  rfl

/-! ## Spaces -/

theorem skipSpace_append_of_ne_nil (h : skipSpace cs ≠ []) :
    skipSpace (cs ++ more) = skipSpace cs ++ more := by
  have hne : ¬ (cs.dropWhile isSpace).isEmpty = true := mt List.isEmpty_iff.1 h
  rw [skipSpace, List.dropWhile_append, if_neg hne]
  rfl

theorem skipSpace_extend {tail : List Char} (h : skipSpace cs = c :: tail) :
    skipSpace (cs ++ more) = c :: (tail ++ more) := by
  rw [skipSpace_append_of_ne_nil (h ▸ List.cons_ne_nil c tail), h]
  rfl

/-- A mark that ends an item, perhaps after spaces. -/
theorem ends_of_skipSpace {tail : List Char} (h : skipSpace rest = c :: tail)
    (hc : c = ',' ∨ c = ']' ∨ c = '\x7d') : Ends (rest ++ more) := by
  cases rest with
  | nil => cases h
  | cons d rest =>
    by_cases hd : isSpace d = true
    · exact ends_cons (.inl hd)
    · rw [skipSpace_cons (Bool.eq_false_iff.2 hd)] at h
      obtain ⟨rfl, -⟩ := List.cons.inj h
      exact ends_cons (.inr hc)

/-! ## Lists and maps -/

/-- There is no value where nothing is left. -/
theorem value_nil (fuel : Nat) : value fuel [] = stop .value [] := by
  cases fuel <;> rfl

theorem not_items_close : items fuel (']' :: cs) ≠ .ok (vs, rest) := by
  intro h
  cases fuel with
  | zero => cases h
  | succ fuel =>
    rw [items, value_stop (.inr (.inl rfl))] at h
    cases h

theorem not_members_close : members fuel ('\x7d' :: cs) ≠ .ok (es, rest) := by
  intro h
  cases fuel <;> cases h

/-- What a list is read from. -/
theorem value_list_iff : value (fuel + 1) ('[' :: cs) = .ok (v, rest) ↔
    (skipSpace cs = ']' :: rest ∧ v = .list []) ∨
      ∃ vs, items fuel (skipSpace cs) = .ok (vs, rest) ∧ v = .list vs := by
  rw [value]
  split
  · next tail htail =>
    simp [htail, not_items_close, Prod.ext_iff, eq_comm (a := v), and_comm]
  · next hclose =>
    have hnot : skipSpace cs ≠ ']' :: rest := hclose rest
    simp [hnot, map_eq_ok_iff, Prod.ext_iff, eq_comm (a := v), and_comm]

/-- What a map is read from. -/
theorem value_map_iff : value (fuel + 1) ('\x7b' :: cs) = .ok (v, rest) ↔
    (skipSpace cs = '\x7d' :: rest ∧ v = .map []) ∨
      ∃ es, members fuel (skipSpace cs) = .ok (es, rest) ∧ v = .mapOf es := by
  rw [value]
  split
  · next tail htail =>
    simp [htail, not_members_close, Prod.ext_iff, eq_comm (a := v), and_comm]
  · next hclose =>
    have hnot : skipSpace cs ≠ '\x7d' :: rest := hclose rest
    simp [hnot, map_eq_ok_iff, Prod.ext_iff, eq_comm (a := v), and_comm]

/-- What items are read from. -/
theorem items_eq_ok_iff : items (fuel + 1) cs = .ok (vs, rest) ↔
    ∃ v left, value fuel cs = .ok (v, left) ∧
      ((skipSpace left = ']' :: rest ∧ vs = [v]) ∨
        ∃ tail ws, skipSpace left = ',' :: tail ∧ items fuel (skipSpace tail) = .ok (ws, rest) ∧
          vs = v :: ws) := by
  rw [items, bind_eq_ok_iff, Prod.exists]
  refine exists_congr fun v => exists_congr fun left => and_congr_right fun _ => ?_
  dsimp only
  split
  · next tail htail => simp [htail, Prod.ext_iff, eq_comm (a := vs), and_comm]
  · next tail htail => simp [htail, bind_eq_ok_iff, Prod.ext_iff, eq_comm (a := vs)]
  · next hclose hcomma =>
    have hnotClose : skipSpace left ≠ ']' :: rest := hclose rest
    have hnotComma (tail) : skipSpace left ≠ ',' :: tail := hcomma tail
    simp [hnotClose, hnotComma, stop]

/-- What stands behind the value of a member. -/
theorem members_tail_iff {key : String} {v : Value} {next : List Char} :
    (match skipSpace next with
      | '\x7d' :: rest => Except.ok ([(Value.text key, v)], rest)
      | ',' :: rest => do
        let (es, rest) ← members fuel (skipSpace rest)
        .ok ((Value.text key, v) :: es, rest)
      | rest => stop .comma rest) = .ok (es, rest) ↔
    (skipSpace next = '\x7d' :: rest ∧ es = [(.text key, v)]) ∨
      ∃ tail fs, skipSpace next = ',' :: tail ∧ members fuel (skipSpace tail) = .ok (fs, rest) ∧
        es = (.text key, v) :: fs := by
  split
  · next tail htail => simp [htail, Prod.ext_iff, eq_comm (a := es), and_comm]
  · next tail htail => simp [htail, bind_eq_ok_iff, Prod.ext_iff, eq_comm (a := es)]
  · next hclose hcomma =>
    have hnotClose : skipSpace next ≠ '\x7d' :: rest := hclose rest
    have hnotComma (tail) : skipSpace next ≠ ',' :: tail := hcomma tail
    simp [hnotClose, hnotComma, stop]

/-- What members are read from. -/
theorem members_eq_ok_iff : members (fuel + 1) ('"' :: cs) = .ok (es, rest) ↔
    ∃ key colon left v next, text cs = .ok (key, colon) ∧ skipSpace colon = ':' :: left ∧
      value fuel (skipSpace left) = .ok (v, next) ∧
      ((skipSpace next = '\x7d' :: rest ∧ es = [(.text key, v)]) ∨
        ∃ tail fs, skipSpace next = ',' :: tail ∧ members fuel (skipSpace tail) = .ok (fs, rest) ∧
          es = (.text key, v) :: fs) := by
  rw [members, bind_eq_ok_iff, Prod.exists]
  refine exists_congr fun key => exists_congr fun colon => ?_
  dsimp only
  split
  · next left hleft =>
    rw [bind_eq_ok_iff, Prod.exists]
    constructor
    · rintro ⟨htext, v, next, hv, htail⟩
      exact ⟨left, v, next, htext, hleft, hv, members_tail_iff.1 htail⟩
    · rintro ⟨left', v, next, htext, hleft', hv, htail⟩
      obtain rfl : left = left' := (List.cons.inj (hleft.symm.trans hleft')).2
      exact ⟨htext, v, next, hv, members_tail_iff.2 htail⟩
  · next hcolon =>
    have hnot (left) : skipSpace colon ≠ ':' :: left := hcolon left
    simp [hnot, stop]

/-! ## Words and numbers -/

theorem word?_append {w : String × Value} (h : w ∈ words) (rest : List Char) :
    word? (w.1.toList ++ rest) = some (w.2, rest) := by
  simp only [words, List.mem_cons, List.not_mem_nil, or_false] at h
  rcases h with rfl | rfl | rfl | rfl | rfl | rfl <;> rfl

theorem exists_word (h : word? cs = some (v, rest)) :
    ∃ w ∈ words, cs = w.1.toList ++ rest ∧ w.2 = v := by
  obtain ⟨w, hw, heq⟩ := Option.map_eq_some_iff.1 h
  obtain ⟨rfl, rfl⟩ := Prod.mk.inj heq
  have hprefix := List.find?_some hw
  obtain ⟨rest, rfl⟩ := List.isPrefixOf_iff_prefix.1 hprefix
  refine ⟨w, List.mem_of_find?_eq_some hw, ?_, rfl⟩
  rw [← String.length_toList, List.drop_left]

/-- No word starts like a number. -/
theorem word?_digit {sign : List Char} {d : Char} (hsign : sign = [] ∨ sign = ['-'])
    (hd : Numeral.isAsciiDigit d = true) (cs : List Char) : word? (sign ++ d :: cs) = none := by
  have hne {c : Char} (hc : Numeral.isAsciiDigit c = false) : c ≠ d := by
    rintro rfl
    exact Bool.false_ne_true (hc.symm.trans hd)
  rcases hsign with rfl | rfl
  · simp [word?, words, hne (c := 'n') rfl, hne (c := 't') rfl, hne (c := 'f') rfl,
      hne (c := 'N') rfl, hne (c := 'I') rfl, hne (c := '-') rfl]
  · simp [word?, words, hne (c := 'I') rfl]

theorem NumberText.word?_eq_none (h : NumberText cs v) (rest : List Char) :
    word? (cs ++ rest) = none := by
  obtain ⟨hsign, hwhole, -, -, -⟩ := h
  simp only [List.append_assoc]
  cases hwhole with
  | zero => exact word?_digit hsign rfl _
  | digits _ hds => exact word?_digit hsign (hds _ List.mem_cons_self) _

theorem Ends.numberEnds (h : Ends rest) : NumberEnds rest := by
  intro c hc
  have hends : c = ' ' ∨ c = '\t' ∨ c = '\n' ∨ c = '\r' ∨ c = ',' ∨ c = ']' ∨ c = '\x7d' := by
    simpa [isSpace, or_assoc] using h c hc
  rcases hends with rfl | rfl | rfl | rfl | rfl | rfl | rfl <;> decide

/-- A word or a number is read, whatever comes after it. -/
theorem atom_extend (h : (word? cs <|> number? cs) = some (v, rest)) (hends : Ends (rest ++ more)) :
    (word? (cs ++ more) <|> number? (cs ++ more)) = some (v, rest ++ more) := by
  cases hword : word? cs with
  | some p =>
    rw [hword] at h
    obtain ⟨w, hw, rfl, rfl⟩ := exists_word (hword.trans h)
    rw [List.append_assoc, word?_append hw]
    rfl
  | none =>
    rw [hword] at h
    obtain ⟨ds, rfl, hds⟩ := exists_numberText h
    rw [List.append_assoc, hds.word?_eq_none, number?_append hds hends.numberEnds]
    rfl

theorem value_atom_iff (htext : c ≠ '"') (hlist : c ≠ '[') (hmap : c ≠ '\x7b') :
    value (fuel + 1) (c :: cs) = .ok (v, rest) ↔
      (word? (c :: cs) <|> number? (c :: cs)) = some (v, rest) := by
  rw [value]
  · split
    · next r hr => rw [hr, Except.ok.injEq, Option.some.injEq]
    · next hnone => simp [hnone, stop]
  · rintro tail htail
    exact htext (List.cons.inj htail).1
  · rintro tail htail
    exact hlist (List.cons.inj htail).1
  · rintro tail htail
    exact hmap (List.cons.inj htail).1

/-! ## Values -/

theorem value_ne_nil (h : value fuel cs = .ok (v, rest)) : cs ≠ [] := by
  rintro rfl
  rw [value_nil] at h
  cases h

theorem items_ne_nil (h : items fuel cs = .ok (vs, rest)) : cs ≠ [] := by
  cases fuel with
  | zero => cases h
  | succ fuel =>
    obtain ⟨v, left, hv, -⟩ := items_eq_ok_iff.1 h
    exact value_ne_nil hv

theorem members_start (h : members fuel cs = .ok (es, rest)) : ∃ tail, cs = '"' :: tail := by
  cases fuel with
  | zero => cases h
  | succ fuel =>
    unfold members at h
    split at h
    · exact ⟨_, rfl⟩
    · cases h

theorem skipSpace_items (h : items fuel (skipSpace cs) = .ok (vs, rest)) :
    skipSpace (cs ++ more) = skipSpace cs ++ more :=
  skipSpace_append_of_ne_nil (items_ne_nil h)

theorem skipSpace_members (h : members fuel (skipSpace cs) = .ok (es, rest)) :
    skipSpace (cs ++ more) = skipSpace cs ++ more := by
  obtain ⟨tail, htail⟩ := members_start h
  exact skipSpace_append_of_ne_nil (htail ▸ List.cons_ne_nil _ _)

/-- **A value is read, whatever comes after it**: with more characters behind it that a value may
end at, and with more fuel. Of a list or a map even that does not matter. -/
theorem value_extend : (∀ cs v rest, value fuel cs = .ok (v, rest) → ∀ fuel' more, fuel ≤ fuel' →
      Ends (rest ++ more) → value fuel' (cs ++ more) = .ok (v, rest ++ more)) ∧
    (∀ cs vs rest, items fuel cs = .ok (vs, rest) → ∀ fuel' more, fuel ≤ fuel' →
      items fuel' (cs ++ more) = .ok (vs, rest ++ more)) ∧
    (∀ cs es rest, members fuel cs = .ok (es, rest) → ∀ fuel' more, fuel ≤ fuel' →
      members fuel' (cs ++ more) = .ok (es, rest ++ more)) := by
  induction fuel with
  | zero => exact ⟨nofun, nofun, nofun⟩
  | succ fuel ih =>
    obtain ⟨ihValue, ihItems, ihMembers⟩ := ih
    refine ⟨?value, ?items, ?members⟩
    case value =>
      intro cs v rest h fuel' more hle hends
      obtain ⟨k, rfl, hk⟩ := exists_succ_of_le hle
      obtain ⟨c, cs, rfl⟩ := List.exists_cons_of_ne_nil (value_ne_nil h)
      rw [List.cons_append]
      by_cases htext : c = '"'
      · subst htext
        obtain ⟨⟨s, left⟩, hs, heq⟩ := map_eq_ok_iff.1 h
        obtain ⟨rfl, rfl⟩ := Prod.mk.inj heq
        rw [value, text_extend hs]
        rfl
      by_cases hlist : c = '['
      · subst hlist
        obtain ⟨hclose, rfl⟩ | ⟨vs, hvs, rfl⟩ := value_list_iff.1 h
        · exact value_list_iff.2 (.inl ⟨skipSpace_extend hclose, rfl⟩)
        · refine value_list_iff.2 (.inr ⟨vs, ?_, rfl⟩)
          rw [skipSpace_items hvs]
          exact ihItems _ _ _ hvs k more hk
      by_cases hmap : c = '\x7b'
      · subst hmap
        obtain ⟨hclose, rfl⟩ | ⟨es, hes, rfl⟩ := value_map_iff.1 h
        · exact value_map_iff.2 (.inl ⟨skipSpace_extend hclose, rfl⟩)
        · refine value_map_iff.2 (.inr ⟨es, ?_, rfl⟩)
          rw [skipSpace_members hes]
          exact ihMembers _ _ _ hes k more hk
      exact (value_atom_iff htext hlist hmap).2
        (atom_extend ((value_atom_iff htext hlist hmap).1 h) hends)
    case items =>
      intro cs vs rest h fuel' more hle
      obtain ⟨k, rfl, hk⟩ := exists_succ_of_le hle
      obtain ⟨v, left, hv, hnext⟩ := items_eq_ok_iff.1 h
      have hext (c tail) (hskip : skipSpace left = c :: tail) (hc : c = ',' ∨ c = ']' ∨ c = '\x7d') :=
        ihValue cs v left hv k more hk (ends_of_skipSpace hskip hc)
      obtain ⟨hclose, rfl⟩ | ⟨tail, ws, hcomma, hws, rfl⟩ := hnext
      · exact items_eq_ok_iff.2 ⟨v, _, hext _ _ hclose (by decide),
          .inl ⟨skipSpace_extend hclose, rfl⟩⟩
      · refine items_eq_ok_iff.2 ⟨v, _, hext _ _ hcomma (by decide),
          .inr ⟨tail ++ more, ws, skipSpace_extend hcomma, ?_, rfl⟩⟩
        rw [skipSpace_items hws]
        exact ihItems _ _ _ hws k more hk
    case members =>
      intro cs es rest h fuel' more hle
      obtain ⟨k, rfl, hk⟩ := exists_succ_of_le hle
      obtain ⟨cs, rfl⟩ := members_start h
      obtain ⟨key, colon, left, v, next, hkey, hcolon, hv, hnext⟩ := members_eq_ok_iff.1 h
      rw [List.cons_append]
      have hleft : skipSpace (left ++ more) = skipSpace left ++ more :=
        skipSpace_append_of_ne_nil (value_ne_nil hv)
      have hext (c tail) (hskip : skipSpace next = c :: tail) (hc : c = ',' ∨ c = ']' ∨ c = '\x7d') :
          value k (skipSpace (left ++ more)) = .ok (v, next ++ more) := by
        rw [hleft]
        exact ihValue _ v next hv k more hk (ends_of_skipSpace hskip hc)
      obtain ⟨hclose, rfl⟩ | ⟨tail, fs, hcomma, hfs, rfl⟩ := hnext
      · exact members_eq_ok_iff.2 ⟨key, _, _, v, _, text_extend hkey, skipSpace_extend hcolon,
          hext _ _ hclose (by decide), .inl ⟨skipSpace_extend hclose, rfl⟩⟩
      · refine members_eq_ok_iff.2 ⟨key, _, _, v, _, text_extend hkey, skipSpace_extend hcolon,
          hext _ _ hcomma (by decide),
          .inr ⟨tail ++ more, fs, skipSpace_extend hcomma, ?_, rfl⟩⟩
        rw [skipSpace_members hfs]
        exact ihMembers _ _ _ hfs k more hk

end EntitySelection.Json
