import WorkflowLab.Json.Reader
import WorkflowLab.Proofs.Json.Parts
import WorkflowLab.Proofs.Number.Parts
import WorkflowLab.Proofs.Number.Shortest

/-!
# Numbers that are read back

- `endsNumber`: what may follow a number;
- `readMagnitude_numeral`: a numeral of a whole part, a fraction and an exponent is read as its three parts say;
- `denotes_renderDigits`: decimal digits are written as such a numeral, of the same value;
- `readNumber_render`: **a number that is written is read**, up to what follows it.
-/

namespace WorkflowLab

namespace Json

/-! ## Digits -/

/-- The text can follow a number: it does not go on with it. -/
def endsNumber : List Char → Bool
  | [] => true
  | c :: _ => !(c.isDigit || c == '.' || c == 'e' || c == 'E')

/-- All characters are decimal digits. -/
def IsDigits (text : List Char) : Prop := ∀ c ∈ text, c.isDigit = true

theorem IsDigits.append {digits more : List Char} (h : IsDigits digits) (hmore : IsDigits more) :
    IsDigits (digits ++ more) := List.forall_mem_append.mpr ⟨h, hmore⟩

theorem isDigits_natDigits (n : Nat) : IsDigits (Number.natDigits n) :=
  fun _ hc => Nat.isDigit_of_mem_toDigits (by decide) (by decide) hc

theorem isDigits_zeros (k : Nat) : IsDigits (List.replicate k '0') := by
  intro c hc
  obtain ⟨-, rfl⟩ := List.mem_replicate.mp hc
  rfl

/-- Digits end where other characters begin. -/
theorem leadingDigits_append {digits rest : List Char} (h : IsDigits digits) (hrest : leadingDigits rest = []) :
    leadingDigits (digits ++ rest) = digits := by
  unfold leadingDigits at *
  rw [List.takeWhile_append_of_pos h, hrest, List.append_nil]

theorem leadingDigits_of_endsNumber {rest : List Char} (h : endsNumber rest = true) : leadingDigits rest = [] := by
  cases rest with
  | nil => rfl
  | cons c rest =>
    have hdigit : c.isDigit = false := by
      simp only [endsNumber, Bool.not_eq_true', Bool.or_eq_false_iff] at h
      exact h.1.1.1
    rw [leadingDigits, List.takeWhile_cons_of_neg (by simp [hdigit])]

theorem ofDigitChars_zeros (k : Nat) : Nat.ofDigitChars 10 (List.replicate k '0') 0 = 0 := by
  induction k with
  | zero => rfl
  | succ k ih =>
    rw [List.replicate_succ, Nat.ofDigitChars_cons]
    exact ih

/-- Zeros at the end multiply by a power of ten. -/
theorem ofDigitChars_append_zeros (digits : List Char) (k : Nat) :
    Nat.ofDigitChars 10 (digits ++ List.replicate k '0') 0 = 10 ^ k * Nat.ofDigitChars 10 digits 0 := by
  rw [Nat.ofDigitChars_append, Nat.ofDigitChars_eq_ofDigitChars_zero, ofDigitChars_zeros, List.length_replicate,
    Nat.add_zero]

/-- Zeros at the start do not count. -/
theorem ofDigitChars_zeros_append (k : Nat) (digits : List Char) :
    Nat.ofDigitChars 10 (List.replicate k '0' ++ digits) 0 = Nat.ofDigitChars 10 digits 0 := by
  rw [Nat.ofDigitChars_append, ofDigitChars_zeros]

theorem ofDigitChars_natDigits (n : Nat) : Nat.ofDigitChars 10 (Number.natDigits n) 0 = n :=
  Nat.ofDigitChars_toDigits (by decide) (by decide)

/-- The digits of a positive number do not start with a zero. -/
theorem head?_natDigits {n : Nat} (h : 0 < n) : (Number.natDigits n).head? ≠ some '0' := by
  induction n using Nat.strongRecOn with
  | _ n ih =>
    rw [Number.natDigits, Nat.toDigits_eq_if (by decide)]
    split
    · simpa using h.ne'
    · next hlarge =>
      have hhead := ih (n / 10) (Nat.div_lt_self h (by decide)) (by omega)
      rw [List.head?_append_of_ne_nil _ Nat.toDigits_ne_nil]
      exact hhead

/-! ## Numerals -/

/-- The digits of an integer part: a zero, or digits that do not start with one. -/
structure IsWhole (whole : List Char) : Prop where
  nonempty : whole ≠ []
  digits : IsDigits whole
  zero : whole.head? = some '0' → whole = ['0']

theorem isWhole_natDigits (n : Nat) : IsWhole (Number.natDigits n) where
  nonempty := Nat.toDigits_ne_nil
  digits := isDigits_natDigits n
  zero h := by
    rcases Nat.eq_zero_or_pos n with rfl | hpos
    · rfl
    · exact absurd h (head?_natDigits hpos)

theorem readWhole_append {digits rest : List Char} (h : IsWhole digits) (hrest : leadingDigits rest = []) :
    readWhole (digits ++ rest) = some (digits, rest) := by
  obtain ⟨c, cs, rfl⟩ := List.exists_cons_of_ne_nil h.nonempty
  by_cases hc : c = '0'
  · subst hc
    obtain rfl : cs = [] := by simpa using h.zero rfl
    rfl
  · have hleading := leadingDigits_append h.digits hrest
    rw [readWhole]
    · rw [hleading]
      show some (c :: cs, (c :: cs ++ rest).drop (c :: cs).length) = _
      rw [List.drop_left]
    · intro _ heq
      exact hc (List.cons.inj heq).1

/-- A fraction in a numeral, left out if it has no digits. -/
def fractionText (fraction : List Char) : List Char := if fraction = [] then [] else '.' :: fraction

/-- An exponent in a numeral, if there is one. -/
def exponentText : Option Int → List Char
  | none => []
  | some e => Number.renderExponent e

theorem readFraction_append {fraction rest : List Char} (h : IsDigits fraction) (hrest : leadingDigits rest = [])
    (hpoint : rest.head? ≠ some '.') : readFraction (fractionText fraction ++ rest) = (fraction, rest) := by
  rcases fraction with _ | ⟨c, cs⟩
  · rw [fractionText, if_pos rfl, List.nil_append, readFraction]
    rintro _ rfl
    exact hpoint rfl
  · have hleading := leadingDigits_append h hrest
    rw [fractionText, if_neg (List.cons_ne_nil c cs), List.cons_append, readFraction, hleading]
    show (c :: cs, (c :: cs ++ rest).drop (c :: cs).length) = _
    rw [List.drop_left]

/-- The digits of an exponent, two at least. -/
theorem renderExponent_eq (e : Int) : ∃ digits, IsDigits digits ∧ digits ≠ [] ∧
    Nat.ofDigitChars 10 digits 0 = e.natAbs ∧
    Number.renderExponent e = 'e' :: (if e < 0 then '-' else '+') :: digits := by
  refine ⟨_, ?_, ?_, ?_, rfl⟩
  · split
    · exact List.forall_mem_cons.mpr ⟨rfl, isDigits_natDigits _⟩
    · exact isDigits_natDigits _
  · split
    · exact List.cons_ne_nil _ _
    · exact Nat.toDigits_ne_nil
  · split
    · exact ofDigitChars_natDigits _
    · exact ofDigitChars_natDigits _

theorem readExponentPart_append (exponent : Option Int) {rest : List Char} (hrest : endsNumber rest = true) :
    readExponentPart (exponentText exponent ++ rest) = (exponent, rest) := by
  cases exponent with
  | none =>
    show readExponentPart rest = _
    cases rest with
    | nil => rfl
    | cons c rest =>
      simp only [endsNumber, Bool.not_eq_true', Bool.or_eq_false_iff, beq_eq_false_iff_ne] at hrest
      rw [readExponentPart, if_neg (by simp [hrest])]
  | some e =>
    obtain ⟨digits, hdigits, hne, hvalue, htext⟩ := renderExponent_eq e
    have hleading := leadingDigits_append hdigits (leadingDigits_of_endsNumber hrest)
    obtain ⟨c, cs, rfl⟩ := List.exists_cons_of_ne_nil hne
    have hsign : splitSign ((if e < 0 then '-' else '+') :: (c :: cs ++ rest)) = (decide (e < 0), c :: cs ++ rest) := by
      split
      · next h => simp [splitSign, h]
      · next h => simp [splitSign, h]
    have hread : (if e < 0 then -(e.natAbs : Int) else e.natAbs) = e := by
      split <;> omega
    rw [exponentText, htext]
    show readExponentPart ('e' :: (if e < 0 then '-' else '+') :: (c :: cs ++ rest)) = _
    rw [readExponentPart, if_pos (.inl rfl), hsign]
    dsimp only
    rw [hleading]
    show (some (if decide (e < 0) = true then -(Nat.ofDigitChars 10 (c :: cs) 0 : Int) else Nat.ofDigitChars 10 (c :: cs) 0),
      (c :: cs ++ rest).drop (c :: cs).length) = _
    rw [hvalue, List.drop_left]
    simp only [decide_eq_true_eq, hread]

/-- An exponent, or what follows it, goes on with neither digits nor a fraction. -/
theorem ends_exponentText (exponent : Option Int) {rest : List Char} (hrest : endsNumber rest = true) :
    leadingDigits (exponentText exponent ++ rest) = [] ∧ (exponentText exponent ++ rest).head? ≠ some '.' := by
  cases exponent with
  | none =>
    refine ⟨leadingDigits_of_endsNumber hrest, ?_⟩
    show rest.head? ≠ _
    cases rest with
    | nil => exact nofun
    | cons c rest =>
      rintro ⟨⟩
      cases hrest
  | some e => exact ⟨rfl, nofun⟩

/-- The three parts of a numeral. -/
theorem readMagnitude_eq (negative : Bool) {whole fraction rest : List Char} (exponent : Option Int)
    (hwhole : IsWhole whole) (hfraction : IsDigits fraction) (hrest : endsNumber rest = true) :
    readMagnitude negative (whole ++ (fractionText fraction ++ (exponentText exponent ++ rest))) =
      if fraction.isEmpty && exponent.isNone then
        if Number.maxIntegerDigits < whole.length then .error (.hugeInteger whole.length)
        else
          let n : Int := Nat.ofDigitChars 10 whole 0
          .ok (.int (if negative then -n else n), rest)
      else
        .ok (.float (Binary.signed negative (Binary.ofDecimal (Nat.ofDigitChars 10 (whole ++ fraction) 0)
          (exponent.getD 0 - fraction.length))), rest) := by
  obtain ⟨hdigits, hpoint⟩ := ends_exponentText exponent hrest
  have hleading : leadingDigits (fractionText fraction ++ (exponentText exponent ++ rest)) = [] := by
    rcases fraction with _ | ⟨c, cs⟩
    · exact hdigits
    · rfl
  rw [readMagnitude, readWhole_append hwhole hleading]
  dsimp only
  rw [readFraction_append hfraction hdigits hpoint]
  dsimp only
  rw [readExponentPart_append exponent hrest]

/-- **A numeral with a fraction or an exponent is read as its parts say.** -/
theorem readMagnitude_numeral (negative : Bool) {whole fraction rest : List Char} {exponent : Option Int}
    (hwhole : IsWhole whole) (hfraction : IsDigits fraction) (hparts : fraction ≠ [] ∨ exponent ≠ none)
    (hrest : endsNumber rest = true) :
    readMagnitude negative (whole ++ (fractionText fraction ++ (exponentText exponent ++ rest))) =
      .ok (.float (Binary.signed negative (Binary.ofDecimal (Nat.ofDigitChars 10 (whole ++ fraction) 0)
        (exponent.getD 0 - fraction.length))), rest) := by
  have hdouble : ¬(fraction.isEmpty && exponent.isNone) = true := by
    rw [Bool.and_eq_true, List.isEmpty_iff, Option.isNone_iff_eq_none]
    exact fun h => hparts.elim (absurd h.1) (absurd h.2)
  rw [readMagnitude_eq negative exponent hwhole hfraction hrest, if_neg hdouble]

/-! ## Decimal digits -/

/-- A text is a numeral for a number: its three parts, and what their digits come to. -/
structure Denotes (text : List Char) (value : ℚ) : Prop where
  parts : ∃ whole fraction exponent, IsWhole whole ∧ IsDigits fraction ∧ (fraction ≠ [] ∨ exponent ≠ none) ∧
    text = whole ++ (fractionText fraction ++ exponentText exponent) ∧
    (Nat.ofDigitChars 10 (whole ++ fraction) 0 : ℚ) * 10 ^ (exponent.getD 0 - fraction.length : Int) = value

section

variable {digits : List Char} (hdigits : IsDigits digits) (hne : digits ≠ []) (hhead : digits.head? ≠ some '0') (k : Int)
include hdigits hne

/-- Digits behind the point, with zeros between. -/
theorem denotes_below_one (hk : digits.length + k ≤ 0) :
    Denotes ('0' :: '.' :: (List.replicate (-(digits.length + k)).toNat '0' ++ digits))
      (Nat.ofDigitChars 10 digits 0 * 10 ^ k) := by
  refine ⟨['0'], List.replicate (-(digits.length + k)).toNat '0' ++ digits, none,
    ⟨List.cons_ne_nil _ _, by simp [IsDigits], fun _ => rfl⟩, (isDigits_zeros _).append hdigits,
    .inl (List.append_ne_nil_of_right_ne_nil _ hne), ?_, ?_⟩
  · rw [fractionText, if_neg (List.append_ne_nil_of_right_ne_nil _ hne)]
    simp [exponentText]
  · have hvalue : Nat.ofDigitChars 10 (['0'] ++ (List.replicate (-(digits.length + k)).toNat '0' ++ digits)) 0 =
        Nat.ofDigitChars 10 digits 0 := ofDigitChars_zeros_append _ _
    have hexponent : (none.getD 0 : Int) -
        (List.replicate (-(digits.length + k)).toNat '0' ++ digits).length = k := by
      simp
      omega
    rw [hvalue, hexponent]

include hhead

/-- Digits before the point, with zeros behind them. -/
theorem denotes_whole (hk : 0 ≤ k) :
    Denotes (digits ++ List.replicate k.toNat '0' ++ ['.', '0']) (Nat.ofDigitChars 10 digits 0 * 10 ^ k) := by
  refine ⟨digits ++ List.replicate k.toNat '0', ['0'], none,
    ⟨List.append_ne_nil_of_left_ne_nil hne _, hdigits.append (isDigits_zeros _), fun h => ?_⟩, by simp [IsDigits],
    .inl (List.cons_ne_nil _ _), by simp [fractionText, exponentText], ?_⟩
  · rw [List.head?_append_of_ne_nil _ hne] at h
    exact absurd h hhead
  · have hzeros : digits ++ List.replicate k.toNat '0' ++ ['0'] = digits ++ List.replicate (k.toNat + 1) '0' := by
      rw [List.append_assoc, List.replicate_succ']
    rw [hzeros, ofDigitChars_append_zeros]
    obtain ⟨j, rfl⟩ := Int.eq_ofNat_of_zero_le hk
    simp [pow_succ]
    ring

/-- The first digits are an integer part. -/
theorem isWhole_take {p : Nat} (hp : 0 < p) : IsWhole (digits.take p) where
  nonempty h := (List.take_eq_nil_iff.mp h).elim hp.ne' hne
  digits c hc := hdigits c (List.mem_of_mem_take hc)
  zero h := by
    rw [List.head?_take, if_neg hp.ne'] at h
    exact absurd h hhead

/-- Digits on both sides of the point. -/
theorem denotes_pointed {p : Nat} (hp : 0 < p) (hlength : p < digits.length) (hk : (p : Int) = digits.length + k) :
    Denotes (digits.take p ++ '.' :: digits.drop p) (Nat.ofDigitChars 10 digits 0 * 10 ^ k) := by
  have hfraction : digits.drop p ≠ [] := mt List.drop_eq_nil_iff.mp (Nat.not_le.mpr hlength)
  refine ⟨digits.take p, digits.drop p, none, isWhole_take hdigits hne hhead hp,
    fun c hc => hdigits c (List.mem_of_mem_drop hc), .inl hfraction, ?_, ?_⟩
  · rw [fractionText, if_neg hfraction]
    simp [exponentText]
  · have hexponent : (none.getD 0 : Int) - (digits.drop p).length = k := by
      simp
      omega
    rw [List.take_append_drop, hexponent]

/-- Digits with an exponent. -/
theorem denotes_scientific :
    Denotes (digits.take 1 ++ (fractionText (digits.drop 1) ++ Number.renderExponent (digits.length + k - 1)))
      (Nat.ofDigitChars 10 digits 0 * 10 ^ k) := by
  refine ⟨digits.take 1, digits.drop 1, some (digits.length + k - 1), isWhole_take hdigits hne hhead Nat.one_pos,
    fun c hc => hdigits c (List.mem_of_mem_drop hc), .inr nofun, rfl, ?_⟩
  have hpos := List.length_pos_iff.mpr hne
  have hexponent : ((some ((digits.length : Int) + k - 1)).getD 0 : Int) - (digits.drop 1).length = k := by
    simp
    omega
  rw [List.take_append_drop, hexponent]

/-- **Decimal digits are written as a numeral for their number.** -/
theorem denotes_renderDigits (form : WorkflowLab.Numeral) :
    Denotes (Number.renderDigits form digits (digits.length + k)) (Nat.ofDigitChars 10 digits 0 * 10 ^ k) := by
  unfold Number.renderDigits
  split
  · split
    · next hsmall => exact denotes_below_one hdigits hne k hsmall
    · next hlarge =>
      dsimp only
      split
      · next hlength =>
        have hk : (digits.length + k).toNat - digits.length = k.toNat := by omega
        rw [hk]
        exact denotes_whole hdigits hne hhead k (by omega)
      · next hlength => exact denotes_pointed hdigits hne hhead k (by omega) (by omega) (by omega)
  · have hscientific := denotes_scientific hdigits hne hhead k
    obtain ⟨d, ds, rfl⟩ := List.exists_cons_of_ne_nil hne
    cases ds with
    | nil => exact hscientific
    | cons c cs => simpa [fractionText] using hscientific

end

/-- **A numeral is read as the double that its number rounds to.** -/
theorem Denotes.readMagnitude {text : List Char} {value : ℚ} (h : Denotes text value) {x : Float} {m : Nat} {e : Int}
    (hx : Binary.parts x = .finite false m e) (hm : 0 < m) (hround : Binary.RoundsTo m e value) (negative : Bool)
    {rest : List Char} (hrest : endsNumber rest = true) :
    Json.readMagnitude negative (text ++ rest) = .ok (.float (Binary.signed negative x), rest) := by
  obtain ⟨whole, fraction, exponent, hwhole, hfraction, hparts, rfl, hvalue⟩ := h
  rw [← hvalue] at hround
  have hread := readMagnitude_numeral negative hwhole hfraction hparts hrest
  rw [Binary.ofDecimal_eq (Binary.isCanonical_of_parts hx hm) hround, Binary.ofBits_bitsOf hx] at hread
  simpa [List.append_assoc] using hread

/-- A numeral starts with a digit. -/
theorem Denotes.head {text : List Char} {value : ℚ} (h : Denotes text value) :
    ∃ c cs, text = c :: cs ∧ c.isDigit = true := by
  obtain ⟨whole, fraction, exponent, hwhole, -, -, rfl, -⟩ := h
  obtain ⟨c, cs, rfl⟩ := List.exists_cons_of_ne_nil hwhole.nonempty
  exact ⟨c, _, rfl, hwhole.digits c List.mem_cons_self⟩

/-! ## Numbers -/

/-- An integer without too many digits is read by its digits. -/
theorem readMagnitude_natDigits (negative : Bool) {n : Nat} (h : (Number.natDigits n).length ≤ Number.maxIntegerDigits)
    {rest : List Char} (hrest : endsNumber rest = true) :
    readMagnitude negative (Number.natDigits n ++ rest) = .ok (.int (if negative then -(n : Int) else n), rest) := by
  have hread := readMagnitude_eq negative none (isWhole_natDigits n) (List.forall_mem_nil _ : IsDigits []) hrest
  have hplain : (([] : List Char).isEmpty && (none : Option Int).isNone) = true := rfl
  rw [if_pos hplain, if_neg (Nat.not_lt.mpr h), ofDigitChars_natDigits] at hread
  exact hread

/-- Zero is read with its sign. -/
theorem readMagnitude_zero (negative : Bool) {rest : List Char} (hrest : endsNumber rest = true) :
    readMagnitude negative ('0' :: '.' :: '0' :: rest) = .ok (.float (Binary.signed negative 0), rest) := by
  have hwhole : IsWhole ['0'] := isWhole_natDigits 0
  have hfraction : ['0'] ≠ [] ∨ (none : Option Int) ≠ none := .inl (List.cons_ne_nil _ _)
  have hread := readMagnitude_numeral negative hwhole hwhole.digits hfraction hrest
  exact hread

/-- A finite double has a mantissa and an exponent. -/
theorem exists_parts {x : Float} (h : isFiniteNumber (.float x) = true) :
    ∃ negative m e, Binary.parts x = .finite negative m e := by
  unfold isFiniteNumber Binary.floor? at h
  cases hparts : Binary.parts x with
  | nan | infinite => simp [hparts] at h
  | finite negative m e => exact ⟨negative, m, e, rfl⟩

/-- A number is written as its sign and its size, which starts with a digit, and its size is read with the sign. -/
theorem exists_size {n : Number} (h : hasPlainNumber (.num n) = true) :
    ∃ negative c cs, c.isDigit = true ∧ n.render jsonNumeral = (if negative then ['-'] else []) ++ c :: cs ∧
      ∀ rest, endsNumber rest = true → readMagnitude negative (c :: cs ++ rest) = .ok (n, rest) := by
  cases n with
  | int n =>
    obtain ⟨c, cs, hdigits⟩ := List.exists_cons_of_ne_nil (isWhole_natDigits n.natAbs).nonempty
    have hlength : (Number.natDigits n.natAbs).length ≤ Number.maxIntegerDigits := of_decide_eq_true h
    refine ⟨decide (n < 0), c, cs, (hdigits ▸ isDigits_natDigits n.natAbs) c List.mem_cons_self, ?_,
      fun rest hrest => ?_⟩
    · rw [Number.render, Number.renderInt, ← hdigits]
      split
      · next hneg => simp [hneg]
      · next hneg => simp [hneg]
    · rw [← hdigits, readMagnitude_natDigits _ hlength hrest]
      have hvalue : (if decide (n < 0) = true then -(n.natAbs : Int) else n.natAbs) = n := by
        simp only [decide_eq_true_eq]
        split <;> omega
      rw [hvalue]
  | float x =>
    obtain ⟨negative, m, e, hparts⟩ := exists_parts h
    obtain ⟨y, hy, rfl⟩ := Binary.eq_signed_of_parts hparts
    rcases Nat.eq_zero_or_pos m with rfl | hm
    · obtain rfl := Binary.eq_zero_of_parts hy
      refine ⟨negative, '0', ['.', '0'], rfl, ?_, fun rest hrest => readMagnitude_zero negative hrest⟩
      rw [Number.render, Number.renderFloat, hparts]
      rfl
    · obtain ⟨hpos, hround⟩ := Binary.shortest_roundsTo (Binary.isCanonical_of_parts hy hm)
      have hdenotes := denotes_renderDigits (isDigits_natDigits (Binary.shortest m e).digits) Nat.toDigits_ne_nil
        (head?_natDigits hpos) (Binary.shortest m e).exponent jsonNumeral
      rw [ofDigitChars_natDigits] at hdenotes
      obtain ⟨c, cs, htext, hc⟩ := hdenotes.head
      refine ⟨negative, c, cs, hc, ?_, fun rest hrest => ?_⟩
      · rw [Number.render, Number.renderFloat, hparts]
        dsimp only
        rw [if_neg hm.ne', htext]
      · rw [← htext]
        exact hdenotes.readMagnitude hy hm hround negative hrest

/-- A word does not stand where another character begins. -/
theorem dropWord?_of_ne {word : String} {w c : Char} {ws cs : List Char} (hword : word.toList = w :: ws) (hc : c ≠ w) :
    dropWord? word (c :: cs) = none := by
  rw [dropWord?, hword, List.isPrefixOf]
  simp [hc.symm]

/-- **A number that is written is read.** -/
theorem readNumber_render {n : Number} (h : hasPlainNumber (.num n) = true) {rest : List Char}
    (hrest : endsNumber rest = true) : readNumber (n.render jsonNumeral ++ rest) = .ok (n, rest) := by
  obtain ⟨negative, c, cs, hc, htext, hread⟩ := exists_size h
  rw [htext]
  cases negative with
  | true =>
    have hletter : c ≠ 'I' := by
      rintro rfl
      cases hc
    have hnone : dropWord? "Infinity" (c :: cs ++ rest) = none := dropWord?_of_ne rfl hletter
    rw [if_pos rfl, List.append_assoc, List.singleton_append, readNumber, hnone]
    exact hread rest hrest
  | false =>
    have hsign : c ≠ '-' := by
      rintro rfl
      cases hc
    rw [if_neg (by decide), List.nil_append, readNumber]
    · exact hread rest hrest
    · rintro _ heq
      exact hsign (List.cons.inj heq).1

/-- A number that is written starts with a sign or a digit. -/
theorem head_render {n : Number} (h : hasPlainNumber (.num n) = true) :
    ∃ c cs, n.render jsonNumeral = c :: cs ∧ (c = '-' ∨ c.isDigit = true) := by
  obtain ⟨negative, c, cs, hc, htext, -⟩ := exists_size h
  cases negative with
  | true => exact ⟨'-', c :: cs, htext, .inl rfl⟩
  | false => exact ⟨c, cs, htext, .inr hc⟩

end Json

end WorkflowLab
