import WorkflowLab.Json.Printer
import WorkflowLab.Json.Reader

/-!
# Strings that are read back

A written character is one part of a string, or two if it is a surrogate pair, and its parts make up the character
again.

- `hexUnit?_escapeUnit`: the digits of a 16-bit unit;
- `joinPieces?_unit`, `joinPieces?_pair`: the characters of one unit and of a surrogate pair;
- `readChars_renderChar`: a character that is written in any layout is read;
- `readChars_renderString`: so is a string.
-/

namespace WorkflowLab.Json

/-! ## Characters -/

/-- No character is half of a surrogate pair. -/
theorem toNat_valid (c : Char) : c.toNat < 0xD800 ∨ 0xDFFF < c.toNat ∧ c.toNat < 0x110000 := c.valid

theorem hexValue?_hexDigit (n : Nat) : hexValue? (hexDigit n) = some (n % 16) := by
  have hall : ∀ k < 16, hexValue? (Nat.digitChar k) = some k := by decide
  exact hall (n % 16) (Nat.mod_lt n (by decide))

/-- The digits of a 16-bit unit are read as the unit. -/
theorem hexUnit?_escapeUnit {n : Nat} (h : n < 65536) :
    hexUnit? (hexDigit (n / 4096)) (hexDigit (n / 256)) (hexDigit (n / 16)) (hexDigit n) = some n := by
  simp only [hexUnit?, hexValue?_hexDigit, Option.bind_eq_bind, Option.bind_some]
  show some _ = some n
  congr 1
  omega

/-- The short escape of a character is no unit, and stands for the character. -/
theorem unescape?_of_shortEscape? {c e : Char} (h : shortEscape? c = some e) : e ≠ 'u' ∧ unescape? e = some c := by
  unfold shortEscape? at h
  repeat' split at h
  all_goals first | (cases h; subst_vars; exact ⟨by decide, by decide⟩) | cases h

/-! ## Parts -/

/-- A unit that is no half of a surrogate pair is a character. -/
theorem joinPieces?_unit {n : Nat} (h : n < 0xD800 ∨ 0xDFFF < n) (rest : List Piece) :
    joinPieces? (.unit n :: rest) = (joinPieces? rest).map (Char.ofNat n :: ·) := by
  have hhalf : ¬(0xD800 ≤ n ∧ n < 0xE000) := by omega
  rcases rest with _ | ⟨c | low, rest⟩
  · simp only [joinPieces?, if_neg hhalf]
  · simp only [joinPieces?, if_neg hhalf]
  · rw [joinPieces?, if_neg (by omega), if_neg hhalf]

/-- The two halves of a surrogate pair are the character. -/
theorem joinPieces?_pair {n : Nat} (h : n < 0x100000) (rest : List Piece) :
    joinPieces? (.unit (0xD800 + n / 1024) :: .unit (0xDC00 + n % 1024) :: rest) =
      (joinPieces? rest).map (Char.ofNat (0x10000 + n) :: ·) := by
  have hcode : 0x10000 + (0xD800 + n / 1024 - 0xD800) * 1024 + (0xDC00 + n % 1024 - 0xDC00) = 0x10000 + n := by omega
  rw [joinPieces?, if_pos (by omega), pairChar, hcode]

/-- An escaped unit is a part. -/
theorem readPieces_escapeUnit {n : Nat} (h : n < 65536) (text : List Char) :
    readPieces (escapeUnit n ++ text) = consPiece (.unit n) (readPieces text) := by
  show readPieces
    ('\\' :: 'u' :: hexDigit (n / 4096) :: hexDigit (n / 256) :: hexDigit (n / 16) :: hexDigit n :: text) = _
  rw [readPieces, hexUnit?_escapeUnit h]

/-- A short escape is a part. -/
theorem readPieces_shortEscape {c e : Char} (h : shortEscape? c = some e) (text : List Char) :
    readPieces ('\\' :: e :: text) = consPiece (.char c) (readPieces text) := by
  obtain ⟨hunit, he⟩ := unescape?_of_shortEscape? h
  rw [readPieces, he]
  rintro _ _ _ _ _ rfl
  exact absurd rfl hunit

/-- A character that needs no escape is a part. -/
theorem readPieces_plain {c : Char} (h : shortEscape? c = none) (hc : 32 ≤ c.toNat) (text : List Char) :
    readPieces (c :: text) = consPiece (.char c) (readPieces text) := by
  have hquote : c ≠ '"' := by
    rintro rfl
    cases h
  have hslash : c ≠ '\\' := by
    rintro rfl
    cases h
  rw [readPieces, if_neg (by simp [hslash, hc])]
  · exact hquote
  · exact fun _ _ _ _ _ heq => absurd heq hslash
  · exact fun _ _ heq => absurd heq hslash

/-! ## Strings -/

/-- Puts a character in front of the characters that were read. -/
def consChar (c : Char) (r : Except ReadError (List Char × List Char)) : Except ReadError (List Char × List Char) :=
  r.map fun q => (c :: q.1, q.2)

/-- Parts behind those of a character are read as the characters behind it. -/
theorem readChars_of_pieces {c : Char} {before : List Piece} {text more : List Char}
    (hread : readPieces more = before.foldr consPiece (readPieces text))
    (hjoin : ∀ rest, joinPieces? (before ++ rest) = (joinPieces? rest).map (c :: ·)) :
    readChars more = consChar c (readChars text) := by
  have hpieces : before.foldr consPiece (readPieces text) =
      (readPieces text).map fun q => (before ++ q.1, q.2) := by
    clear hread hjoin
    induction before with
    | nil => simp
    | cons p ps ih => rw [List.foldr_cons, ih, consPiece, Option.map_map]; rfl
  unfold readChars consChar
  rw [hread, hpieces]
  cases readPieces text with
  | none => rfl
  | some q =>
    simp only [Option.map_some, hjoin]
    cases joinPieces? q.1 <;> rfl

/-- A part that is a character is read as this one. -/
theorem readChars_of_char {c : Char} {text more : List Char}
    (hread : readPieces more = consPiece (.char c) (readPieces text)) :
    readChars more = consChar c (readChars text) :=
  readChars_of_pieces (hread : _ = [Piece.char c].foldr _ _) fun _ => rfl

/-- **A character that is written in any layout is read.** -/
theorem readChars_renderChar (style : Style) (c : Char) (text : List Char) :
    readChars (renderChar style c ++ text) = consChar c (readChars text) := by
  have hvalid := toNat_valid c
  unfold renderChar
  cases hshort : shortEscape? c with
  | some e => exact readChars_of_char (readPieces_shortEscape hshort text)
  | none =>
    dsimp only
    split
    · unfold escapeCode
      split
      · next hbasic =>
        refine readChars_of_pieces (readPieces_escapeUnit hbasic text : _ = [Piece.unit _].foldr _ _) fun rest => ?_
        rw [List.singleton_append, joinPieces?_unit (by omega), Char.ofNat_toNat]
      · next hbeyond =>
        have hcode : 0x10000 + (c.toNat - 65536) = c.toNat := by omega
        have hpair := (readPieces_escapeUnit (n := 0xD800 + (c.toNat - 65536) / 1024) (by omega) _).trans
          (congrArg _ (readPieces_escapeUnit (n := 0xDC00 + (c.toNat - 65536) % 1024) (by omega) text))
        rw [List.append_assoc]
        refine readChars_of_pieces (hpair : _ = [Piece.unit _, Piece.unit _].foldr _ _) fun rest => ?_
        rw [List.cons_append, List.singleton_append, joinPieces?_pair (by omega), hcode, Char.ofNat_toNat]
    · next hplain =>
      simp only [Bool.or_eq_true, decide_eq_true_eq, not_or, Nat.not_lt] at hplain
      exact readChars_of_char (readPieces_plain hshort hplain.1 text)

/-- **A string that is written in any layout is read**, up to its closing quote. -/
theorem readChars_renderString (style : Style) (chars rest : List Char) :
    readChars (chars.flatMap (renderChar style) ++ '"' :: rest) = .ok (chars, rest) := by
  induction chars with
  | nil => rw [List.flatMap_nil, List.nil_append, readChars, readPieces]; rfl
  | cons c cs ih => rw [List.flatMap_cons, List.append_assoc, readChars_renderChar, ih]; rfl

end WorkflowLab.Json
