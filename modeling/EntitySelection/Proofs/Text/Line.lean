import EntitySelection.Proofs.Text.Utf8
import EntitySelection.Text.Line

/-!
# Lines of encoded text

**Theorem (`readLines_encode`).** The lines of a file that holds an encoded text are the lines of the
text, wherever the chunks cut it: of the bytes that a chunk leaves over, the next chunk makes the
character that they belong to (`decodeChunks_bytesOf`).

Line ends are unified piece by piece (`unifyNewlines_append`), and so are lines split
(`lines_append`).
-/

namespace EntitySelection.Text

open Utf8

/-- Encoded text is decoded from its chunks, wherever they cut it. -/
theorem decodeChunks_bytesOf {pending : List UInt8} {pieces : List (List UInt8)} {cs : List Char}
    (h : pending ++ pieces.flatten = bytesOf cs) : decodeChunks pending pieces = (cs, none) := by
  induction pieces generalizing pending cs with
  | nil =>
    rw [List.flatten_nil, List.append_nil] at h
    rw [h, decodeChunks, decodePrefix_bytesOf]
  | cons piece pieces ih =>
    rw [List.flatten_cons, ← List.append_assoc] at h
    obtain ⟨before, after, part, rfl, hbytes, hafter, hpart⟩ := exists_cut h
    rw [decodeChunks]
    dsimp only
    rw [hbytes]
    rcases hpart with rfl | hpart
    · rw [List.append_nil, decodePrefix_bytesOf]
      dsimp only
      rw [ih hafter]
    · obtain ⟨f, hf, hkind, hdrop⟩ := decodePrefix_cut hpart before
      rw [hf]
      dsimp only
      rw [if_pos hkind, hdrop, ih hafter]

theorem flatten_chunks {n : Nat} (hn : 0 < n) {count : Nat} {bs : List UInt8}
    (h : bs.length ≤ count) : (chunks n count bs).flatten = bs := by
  induction count generalizing bs with
  | zero => rw [List.eq_nil_of_length_eq_zero (Nat.le_zero.1 h)]; rfl
  | succ count ih =>
    rw [chunks]
    split
    · next hempty => rw [List.isEmpty_iff.1 hempty]; rfl
    · have hdrop : (bs.drop n).length ≤ count := by
        rw [List.length_drop]
        omega
      rw [List.flatten_cons, ih hdrop, List.take_append_drop]

/-- **The lines of an encoded text** are those of the text. -/
theorem readLines_encode (s : String) :
    readLines (encode s) = ((lines (unifyNewlines s.toList)).map String.ofList, none) := by
  have hchunks : decodeChunks [] (chunks chunkSize (encode s).length (encode s)) =
      (s.toList, none) := by
    apply decodeChunks_bytesOf
    rw [flatten_chunks (by decide) (Nat.le_refl _), List.nil_append, encode_eq]
  simp only [readLines, hchunks]

/-- **The whole of an encoded text.** -/
theorem readAll_encode (s : String) :
    readAll (encode s) = .ok (String.ofList (unifyNewlines s.toList)) := by
  rw [readAll, decode_encode]
  rfl

/-! ## Line ends -/

variable {c : Char} {cs ds : List Char}

theorem unifyNewlines_both (cs : List Char) :
    unifyNewlines ('\r' :: '\n' :: cs) = '\n' :: unifyNewlines cs := rfl

theorem unifyNewlines_return (h : cs.head? ≠ some '\n') :
    unifyNewlines ('\r' :: cs) = '\n' :: unifyNewlines cs := by
  rw [unifyNewlines]
  rintro tail rfl
  exact h rfl

theorem unifyNewlines_cons (h : c ≠ '\r') : unifyNewlines (c :: cs) = c :: unifyNewlines cs := by
  rw [unifyNewlines]
  · rintro tail rfl
    exact absurd rfl h
  · exact h

/-- Line ends are unified piece by piece, where no piece starts within a line end. -/
theorem unifyNewlines_append (h : ds.head? ≠ some '\n') :
    unifyNewlines (cs ++ ds) = unifyNewlines cs ++ unifyNewlines ds := by
  fun_induction unifyNewlines cs with
  | case1 => rfl
  | case2 cs ih => rw [List.cons_append, List.cons_append, unifyNewlines_both, ih, List.cons_append]
  | case3 cs hcs ih =>
    rw [List.cons_append, unifyNewlines_return, ih, List.cons_append]
    cases cs with
    | nil => exact h
    | cons c cs =>
      rw [List.cons_append, List.head?_cons]
      rintro hc
      exact hcs cs (by rw [Option.some.inj hc])
  | case4 c cs hboth hc ih => rw [List.cons_append, unifyNewlines_cons hc, ih, List.cons_append]

theorem unifyNewlines_append_left (h : '\r' ∉ cs) (ds : List Char) :
    unifyNewlines (cs ++ ds) = cs ++ unifyNewlines ds := by
  induction cs with
  | nil => rfl
  | cons c cs ih =>
    obtain ⟨hc, hcs⟩ := List.ne_and_not_mem_of_not_mem_cons h
    rw [List.cons_append, unifyNewlines_cons (Ne.symm hc), ih hcs, List.cons_append]

theorem unifyNewlines_of_not_mem (h : '\r' ∉ cs) : unifyNewlines cs = cs := by
  have hend := unifyNewlines_append_left h []
  rwa [List.append_nil, unifyNewlines, List.append_nil] at hend

theorem mem_unifyNewlines (h : c ∈ unifyNewlines cs) : c = '\n' ∨ c ∈ cs := by
  fun_induction unifyNewlines cs with
  | case1 => cases h
  | case2 cs ih => grind
  | case3 cs hcs ih => grind
  | case4 c cs hboth hc ih => grind

theorem return_not_mem_unifyNewlines (cs : List Char) : '\r' ∉ unifyNewlines cs := by
  fun_induction unifyNewlines cs with
  | case1 => exact List.not_mem_nil
  | case2 cs ih => exact List.not_mem_cons_of_ne_of_not_mem (by decide) ih
  | case3 cs hcs ih => exact List.not_mem_cons_of_ne_of_not_mem (by decide) ih
  | case4 c cs hboth hc ih => exact List.not_mem_cons_of_ne_of_not_mem (Ne.symm hc) ih

/-! ## Lines -/

theorem linesFrom_append (h : '\n' ∉ cs) (current rest : List Char) :
    linesFrom current (cs ++ rest) = linesFrom (cs.reverse ++ current) rest := by
  induction cs generalizing current with
  | nil => rfl
  | cons c cs ih =>
    obtain ⟨hc, hcs⟩ := List.ne_and_not_mem_of_not_mem_cons h
    rw [List.cons_append, linesFrom, if_neg (Ne.symm hc), ih hcs, List.reverse_cons,
      List.append_assoc]
    rfl

theorem lines_append (h : '\n' ∉ cs) (rest : List Char) :
    lines (cs ++ '\n' :: rest) = (cs ++ ['\n']) :: lines rest := by
  rw [lines, linesFrom_append h, linesFrom, if_pos rfl]
  simp [lines]

theorem lines_last (h : '\n' ∉ cs) (hne : cs ≠ []) : lines cs = [cs] := by
  have hlast := linesFrom_append h [] []
  simp only [List.append_nil] at hlast
  simp [lines, hlast, linesFrom, hne]

end EntitySelection.Text
