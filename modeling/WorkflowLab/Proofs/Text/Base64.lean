import WorkflowLab.Text.Base64

/-!
# Base64 text that is read back

- `letterValue?_letter`: a letter stands for its six bits;
- `decode?_group`: four letters stand for the three bytes of their group;
- `decode?_encode`: **the base64 text of some bytes is read as these bytes**.
-/

namespace WorkflowLab.Text.Base64

/-- A letter stands for its six bits. -/
theorem letterValue?_letter (n : Nat) : letterValue? (letter n) = some (n % 64) := by
  have hall : ∀ k < 64, letterValue? (alphabet.getD k '=') = some k := by decide +kernel
  exact hall (n % 64) (Nat.mod_lt n (by decide))

/-- No letter is the sign that fills a group up. -/
theorem letter_ne_fill (n : Nat) : letter n ≠ '=' := by
  intro h
  have hvalue := letterValue?_letter n
  rw [h] at hvalue
  exact nomatch (show none = some _ from hvalue)

/-- A byte of a group stands above the bytes of lower weight and below the others. -/
theorem byteAt_eq {group weight : Nat} {b : UInt8} (h : group / weight % 256 = b.toNat) : byteAt group weight = b := by
  rw [byteAt, h, UInt8.ofNat_toNat]

/-- **Four letters stand for the three bytes of their group.** -/
theorem decode?_group {n : Nat} (h : n < 16777216) (text : List Char) :
    decode? (letter (n / 262144) :: letter (n / 4096) :: letter (n / 64) :: letter n :: text) =
      (decode? text).map fun bytes => byteAt n 65536 :: byteAt n 256 :: byteAt n 1 :: bytes := by
  have hgroup : n / 262144 % 64 * 262144 + n / 4096 % 64 * 4096 + n / 64 % 64 * 64 + n % 64 = n := by omega
  rw [decode?]
  · simp only [letterValue?_letter, Option.bind_eq_bind, Option.bind_some, hgroup]
    cases decode? text <;> rfl
  · exact fun hfill _ _ => absurd hfill (letter_ne_fill _)
  · exact fun hfill _ => absurd hfill (letter_ne_fill _)

/-- **The base64 text of some bytes is read as these bytes.** -/
theorem decode?_encode (bytes : List UInt8) : decode? (encode bytes) = some bytes := by
  fun_induction encode bytes with
  | case1 => rfl
  | case2 a n =>
    -- the second letter holds the last two bits of the byte
    have ha := a.toNat_lt
    simp only [decode?, letterValue?_letter, Option.bind_eq_bind, Option.bind_some]
    rw [byteAt_eq (b := a) (by omega)]
    rfl
  | case3 a b n =>
    have ha := a.toNat_lt
    have hb := b.toNat_lt
    rw [decode?]
    · simp only [letterValue?_letter, Option.bind_eq_bind, Option.bind_some]
      rw [byteAt_eq (b := a) (by omega), byteAt_eq (b := b) (by omega)]
      rfl
    · exact letter_ne_fill _
  | case4 a b c rest n ih =>
    have ha := a.toNat_lt
    have hb := b.toNat_lt
    have hc := c.toNat_lt
    rw [decode?_group (by omega), ih, byteAt_eq (b := a) (by omega), byteAt_eq (b := b) (by omega),
      byteAt_eq (b := c) (by omega)]
    rfl

end WorkflowLab.Text.Base64
