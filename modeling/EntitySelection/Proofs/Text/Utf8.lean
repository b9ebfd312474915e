import EntitySelection.Text.Utf8

/-!
# Encoded text is decoded

**Theorem (`decode_encode`).** The bytes of a text are decoded to the text.

Between two bytes of a character the decoder is in a state that says what is still missing.
`Completes c p bs` relates such a state to the bytes that make it the character `c`, and
`Begins c bs` holds of all the bytes of `c` (`begins_char`). What a decoder does with the bytes of a
character follows from these: it decodes them, whatever comes after (`decodeFrom_char`), and where
they are cut it says where the character starts (`decodePrefix_cut`).
-/

namespace EntitySelection.Text

namespace Utf8

variable {offset : Nat} {c : Char} {cs : List Char} {p : Partial} {bs more : List UInt8}

/-! ## Bytes of a text -/

/-- The bytes of characters. -/
def bytesOf (cs : List Char) : List UInt8 := cs.flatMap String.utf8EncodeChar

theorem toList_loop (bs : ByteArray) (i : Nat) (r : List UInt8) :
    ByteArray.toList.loop bs i r = r.reverse ++ bs.data.toList.drop i := by
  fun_induction ByteArray.toList.loop bs i r with
  | case1 i r hi ih =>
    have hget : bs.get! i = bs.data.toList[i] := getElem!_pos bs.data i hi
    rw [ih, List.drop_eq_getElem_cons hi, hget, List.reverse_cons, List.append_assoc]
    rfl
  | case2 i r hi =>
    rw [List.drop_eq_nil_of_le (Nat.le_of_not_lt hi), List.append_nil]

theorem encode_eq (s : String) : encode s = bytesOf s.toList := by
  have hbytes : s.toUTF8 = (bytesOf s.toList).toByteArray := by
    rw [← String.ofList_toList (s := s), String.toList_ofList]
    exact String.toByteArray_ofList
  rw [encode, hbytes, ByteArray.toList, toList_loop, List.toList_data_toByteArray]
  rfl

/-! ## One character -/

/-- The bytes are those that a character still misses. -/
inductive Completes (c : Char) : Partial → List UInt8 → Prop
  | last {p : Partial} {b : UInt8} (hlo : p.lo ≤ b) (hhi : b ≤ p.hi) (hmissing : p.missing = 1)
      (hvalue : Char.ofNat (p.value * 0x40 + b.toNat % 0x40) = c) : Completes c p [b]
  | more {p : Partial} {b : UInt8} {bs : List UInt8} (hlo : p.lo ≤ b) (hhi : b ≤ p.hi)
      (hmissing : p.missing ≠ 1)
      (hrest : Completes c ⟨p.first, p.seen + 1, p.missing - 1,
        p.value * 0x40 + b.toNat % 0x40, 0x80, 0xbf⟩ bs) : Completes c p (b :: bs)

theorem inRange {b lo hi : UInt8} (hlo : lo ≤ b) (hhi : b ≤ hi) :
    (b < lo || hi < b) = false := by
  simp [UInt8.not_lt.2 hlo, UInt8.not_lt.2 hhi]

theorem decodeFrom_completes (h : Completes c p bs) (offset : Nat) (more : List UInt8) :
    decodeFrom offset (some p) (bs ++ more) =
      (c :: (decodeFrom (offset + bs.length) none more).1,
        (decodeFrom (offset + bs.length) none more).2) := by
  induction h generalizing offset with
  | last hlo hhi hmissing hvalue =>
    simp [decodeFrom, inRange hlo hhi, hmissing, hvalue]
  | more hlo hhi hmissing _ ih =>
    simp [decodeFrom, inRange hlo hhi, hmissing, ih, Nat.add_comm, Nat.add_left_comm]

/-- Of a character that is cut, decoding says where it starts. -/
theorem decodeFrom_cut (h : Completes c p (bs ++ more)) (hmore : more ≠ []) (offset : Nat) :
    ∃ f, decodeFrom offset (some p) bs = ([], some f) ∧ f.kind = .unexpectedEnd ∧
      f.offset = offset - p.seen := by
  induction bs generalizing p offset with
  | nil => exact ⟨_, rfl, rfl, rfl⟩
  | cons b bs ih =>
    rw [List.cons_append] at h
    generalize htail : bs ++ more = tail at h
    cases h with
    | last => exact absurd (List.append_eq_nil_iff.1 htail).2 hmore
    | more hlo hhi hmissing hrest =>
      rw [← htail] at hrest
      obtain ⟨f, hf, hkind, hoffset⟩ := ih hrest (offset + 1)
      refine ⟨f, ?_, hkind, ?_⟩
      · simp [decodeFrom, inRange hlo hhi, hmissing, hf]
      · rw [hoffset]
        exact Nat.add_sub_add_right offset 1 p.seen

section Lead

variable {b : UInt8}

theorem ofByte_one (h : b.toNat < 0x80) : Lead.ofByte b = .complete (Char.ofNat b.toNat) := by
  rw [Lead.ofByte, if_pos (UInt8.lt_iff_toNat_lt.2 h)]

theorem ofByte_two (hlo : 0xc2 ≤ b.toNat) (hhi : b.toNat < 0xe0) :
    Lead.ofByte b = .more ⟨b, 1, 1, b.toNat % 0x20, 0x80, 0xbf⟩ := by
  simp only [Lead.ofByte, UInt8.lt_iff_toNat_lt, UInt8.reduceToNat]
  rw [if_neg (by omega), if_neg (by omega), if_pos hhi]

theorem ofByte_three (hlo : 0xe0 ≤ b.toNat) (hhi : b.toNat < 0xf0) :
    Lead.ofByte b = .more ⟨b, 1, 2, b.toNat % 0x10, if b.toNat = 0xe0 then 0xa0 else 0x80,
      if b.toNat = 0xed then 0x9f else 0xbf⟩ := by
  simp only [Lead.ofByte, UInt8.lt_iff_toNat_lt, UInt8.reduceToNat, ← UInt8.toNat_inj]
  rw [if_neg (by omega), if_neg (by omega), if_neg (by omega), if_pos hhi]

theorem ofByte_four (hlo : 0xf0 ≤ b.toNat) (hhi : b.toNat < 0xf5) :
    Lead.ofByte b = .more ⟨b, 1, 3, b.toNat % 0x08, if b.toNat = 0xf0 then 0x90 else 0x80,
      if b.toNat = 0xf4 then 0x8f else 0xbf⟩ := by
  simp only [Lead.ofByte, UInt8.lt_iff_toNat_lt, UInt8.reduceToNat, ← UInt8.toNat_inj]
  rw [if_neg (by omega), if_neg (by omega), if_neg (by omega), if_neg (by omega), if_pos hhi]

end Lead

theorem toNat_ofNat {n : Nat} (h : n < 256) : (UInt8.ofNat n).toNat = n := by
  simp [Nat.mod_eq_of_lt h]

theorem completes_last {n : Nat} (hlo : p.lo.toNat ≤ n) (hhi : n ≤ p.hi.toNat)
    (hmissing : p.missing = 1) (hvalue : p.value * 0x40 + n % 0x40 = c.toNat) :
    Completes c p [UInt8.ofNat n] := by
  have hn : (UInt8.ofNat n).toNat = n := toNat_ofNat (Nat.lt_of_le_of_lt hhi p.hi.toNat_lt)
  refine .last (UInt8.le_iff_toNat_le.2 (hn.symm ▸ hlo)) (UInt8.le_iff_toNat_le.2 (hn.symm ▸ hhi))
    hmissing ?_
  rw [hn, hvalue, Char.ofNat_toNat]

theorem completes_more {n : Nat} (hlo : p.lo.toNat ≤ n) (hhi : n ≤ p.hi.toNat)
    (hmissing : p.missing ≠ 1) (hrest : Completes c ⟨p.first, p.seen + 1, p.missing - 1,
      p.value * 0x40 + n % 0x40, 0x80, 0xbf⟩ bs) : Completes c p (UInt8.ofNat n :: bs) := by
  have hn : (UInt8.ofNat n).toNat = n := toNat_ofNat (Nat.lt_of_le_of_lt hhi p.hi.toNat_lt)
  refine .more (UInt8.le_iff_toNat_le.2 (hn.symm ▸ hlo)) (UInt8.le_iff_toNat_le.2 (hn.symm ▸ hhi))
    hmissing ?_
  rw [hn]
  exact hrest

/-- A character is its first byte and what it still misses after it. -/
inductive Begins (c : Char) : List UInt8 → Prop
  | complete {b : UInt8} (hb : Lead.ofByte b = .complete c) : Begins c [b]
  | more {b : UInt8} {p : Partial} {bs : List UInt8} (hb : Lead.ofByte b = .more p)
      (hseen : p.seen = 1) (hrest : Completes c p bs) : Begins c (b :: bs)

theorem begins_char (c : Char) : Begins c (String.utf8EncodeChar c) := by
  have hvalid : c.toNat < 0xd800 ∨ 0xdfff < c.toNat ∧ c.toNat < 0x110000 := c.valid
  have hval : c.val.toNat = c.toNat := rfl
  have hlo {n : Nat} : (0x80 : UInt8).toNat ≤ n + 128 := Nat.le_add_left 128 n
  have hhi {n : Nat} : n % 64 + 128 ≤ (0xbf : UInt8).toNat := by
    simp only [UInt8.reduceToNat]
    omega
  unfold String.utf8EncodeChar
  simp only [hval]
  split
  · next hone =>
    refine .complete ?_
    have hb := toNat_ofNat (n := c.toNat) (by omega)
    rw [ofByte_one (by omega), hb, Char.ofNat_toNat]
  split
  · next htwo =>
    have hb := toNat_ofNat (n := c.toNat / 64 % 32 + 192) (by omega)
    refine .more (ofByte_two (by omega) (by omega)) rfl ?_
    exact completes_last hlo hhi rfl (by simp only [hb]; omega)
  split
  · next hthree =>
    have hb := toNat_ofNat (n := c.toNat / 4096 % 16 + 224) (by omega)
    refine .more (ofByte_three (by omega) (by omega)) rfl ?_
    rw [hb]
    refine completes_more ?_ ?_ (by simp) ?_
    · simp only [apply_ite UInt8.toNat, UInt8.reduceToNat]
      split <;> omega
    · simp only [apply_ite UInt8.toNat, UInt8.reduceToNat]
      split <;> omega
    · exact completes_last hlo hhi rfl (by dsimp only; omega)
  · next hfour =>
    have hb := toNat_ofNat (n := c.toNat / 262144 % 8 + 240) (by omega)
    refine .more (ofByte_four (by omega) (by omega)) rfl ?_
    rw [hb]
    refine completes_more ?_ ?_ (by simp) (completes_more hlo hhi (by simp) ?_)
    · simp only [apply_ite UInt8.toNat, UInt8.reduceToNat]
      split <;> omega
    · simp only [apply_ite UInt8.toNat, UInt8.reduceToNat]
      split <;> omega
    · exact completes_last hlo hhi rfl (by dsimp only; omega)

/-! ## Whole texts -/

/-- A character is decoded, whatever comes after it. -/
theorem decodeFrom_char (offset : Nat) (c : Char) (more : List UInt8) :
    decodeFrom offset none (String.utf8EncodeChar c ++ more) =
      (c :: (decodeFrom (offset + (String.utf8EncodeChar c).length) none more).1,
        (decodeFrom (offset + (String.utf8EncodeChar c).length) none more).2) := by
  have hbegins := begins_char c
  generalize String.utf8EncodeChar c = bytes at *
  cases hbegins with
  | complete hb => simp [decodeFrom, hb]
  | more hb _ hrest =>
    simp [decodeFrom, hb, decodeFrom_completes hrest, Nat.add_comm, Nat.add_left_comm]

theorem decodeFrom_bytesOf (offset : Nat) (cs : List Char) (more : List UInt8) :
    decodeFrom offset none (bytesOf cs ++ more) =
      (cs ++ (decodeFrom (offset + (bytesOf cs).length) none more).1,
        (decodeFrom (offset + (bytesOf cs).length) none more).2) := by
  induction cs generalizing offset with
  | nil => rfl
  | cons c cs ih =>
    simp only [bytesOf, List.flatMap_cons, List.append_assoc, List.length_append, ← Nat.add_assoc,
      List.cons_append]
    rw [decodeFrom_char, ← bytesOf, ih]

theorem decodePrefix_bytesOf (cs : List Char) : decodePrefix (bytesOf cs) = (cs, none) := by
  have hwhole := decodeFrom_bytesOf 0 cs []
  simpa [decodePrefix, decodeFrom] using hwhole

/-- **Encoded text is decoded.** -/
theorem decode_encode (s : String) : decode (encode s) = .ok s := by
  rw [encode_eq, decode, decodePrefix_bytesOf]
  simp

/-- The start of a character that is cut. -/
theorem decodeFrom_cutChar (h : bs ++ more = String.utf8EncodeChar c) (hbs : bs ≠ [])
    (hmore : more ≠ []) (offset : Nat) :
    ∃ f, decodeFrom offset none bs = ([], some f) ∧ f.kind = .unexpectedEnd ∧
      f.offset = offset := by
  obtain ⟨b, bs, rfl⟩ := List.exists_cons_of_ne_nil hbs
  have hbegins := begins_char c
  rw [← h, List.cons_append] at hbegins
  generalize htail : bs ++ more = tail at hbegins
  cases hbegins with
  | complete => exact absurd (List.append_eq_nil_iff.1 htail).2 hmore
  | more hb hseen hrest =>
    rw [← htail] at hrest
    obtain ⟨f, hf, hkind, hoffset⟩ := decodeFrom_cut hrest hmore (offset + 1)
    refine ⟨f, ?_, hkind, ?_⟩
    · rw [decodeFrom, hb]
      exact hf
    · rw [hoffset, hseen, Nat.add_sub_cancel]

/-! ## Text that is cut -/

/-- Bytes from the start of a character, but not all of its bytes. -/
def IsPart (part : List UInt8) : Prop :=
  ∃ c more, part ++ more = String.utf8EncodeChar c ∧ part ≠ [] ∧ more ≠ []

/-- Wherever encoded text is cut, whole characters and perhaps a part of one stand before the
cut. -/
theorem exists_cut (h : bs ++ more = bytesOf cs) : ∃ before after part, cs = before ++ after ∧
    bs = bytesOf before ++ part ∧ part ++ more = bytesOf after ∧ (part = [] ∨ IsPart part) := by
  induction cs generalizing bs with
  | nil =>
    obtain ⟨rfl, rfl⟩ := List.append_eq_nil_iff.1 h
    exact ⟨[], [], [], rfl, rfl, rfl, .inl rfl⟩
  | cons c cs ih =>
    have hsplit : bs ++ more = String.utf8EncodeChar c ++ bytesOf cs := h
    rcases List.append_eq_append_iff.1 hsplit with ⟨left, hchar, hmore⟩ | ⟨tail, hbs, htail⟩
    · by_cases hleft : left = []
      · subst hleft
        rw [List.append_nil] at hchar
        exact ⟨[c], cs, [], rfl, by simp [bytesOf, hchar], hmore, .inl rfl⟩
      · refine ⟨[], c :: cs, bs, rfl, rfl, h, ?_⟩
        by_cases hbs : bs = []
        · exact .inl hbs
        · exact .inr ⟨c, left, hchar.symm, hbs, hleft⟩
    · obtain ⟨before, after, part, rfl, rfl, hafter, hpart⟩ := ih htail.symm
      refine ⟨c :: before, after, part, rfl, ?_, hafter, hpart⟩
      rw [hbs, ← List.append_assoc]
      rfl

/-- Decoding what stands before a cut gives the whole characters, and says where the part of a
character starts. -/
theorem decodePrefix_cut {part : List UInt8} (hpart : IsPart part) (before : List Char) :
    ∃ f, decodePrefix (bytesOf before ++ part) = (before, some f) ∧ f.kind = .unexpectedEnd ∧
      (bytesOf before ++ part).drop f.offset = part := by
  obtain ⟨c, more, hc, hne, hmore⟩ := hpart
  obtain ⟨f, hf, hkind, hoffset⟩ := decodeFrom_cutChar hc hne hmore (bytesOf before).length
  refine ⟨f, ?_, hkind, ?_⟩
  · rw [decodePrefix, decodeFrom_bytesOf, Nat.zero_add, hf, List.append_nil]
  · rw [hoffset, List.drop_left]

end Utf8

end EntitySelection.Text
