import WorkflowLab.Json.Printer
import WorkflowLab.Proofs.Json.Parts

/-!
# JSON text in ASCII

- `isAscii`: whether all characters of a text are in ASCII;
- `isAscii_render`: the text of every number is;
- `isAscii_renderAt`: **so is the text of every value, in a layout that escapes the other characters**.
-/

namespace WorkflowLab

/-- All characters of the text are in ASCII. -/
def isAscii (text : List Char) : Bool := text.all fun c => c.toNat < 128

@[simp] theorem isAscii_nil : isAscii [] = true := rfl

@[simp] theorem isAscii_cons (c : Char) (text : List Char) :
    isAscii (c :: text) = true ↔ c.toNat < 128 ∧ isAscii text = true := by
  simp [isAscii]

@[simp] theorem isAscii_append (text more : List Char) :
    isAscii (text ++ more) = true ↔ isAscii text = true ∧ isAscii more = true := by
  rw [isAscii, List.all_append, Bool.and_eq_true]
  rfl

/-- A text in ASCII has only characters in ASCII. -/
theorem isAscii_iff {text : List Char} : isAscii text = true ↔ ∀ c ∈ text, c.toNat < 128 := by
  simp [isAscii]

/-! ## Numbers -/

namespace Number

theorem isAscii_natDigits (n : Nat) : isAscii (natDigits n) = true := by
  refine isAscii_iff.mpr fun c hc => ?_
  have hdigit : c.isDigit = true := Nat.isDigit_of_mem_toDigits (by decide) (by decide) hc
  have hle : c.toNat ≤ 57 := (Char.isDigit_iff_toNat.mp hdigit).2
  omega

theorem isAscii_zeros (k : Nat) : isAscii (List.replicate k '0') = true := by
  refine isAscii_iff.mpr fun c hc => ?_
  rw [List.eq_of_mem_replicate hc]
  decide

theorem isAscii_renderExponent (e : Int) : isAscii (renderExponent e) = true := by
  unfold renderExponent
  dsimp only
  split <;> split <;> simp [isAscii_natDigits]

/-- Decimal digits are written in ASCII. -/
theorem isAscii_renderDigits (form : Numeral) {digits : List Char} (h : isAscii digits = true) (point : Int) :
    isAscii (renderDigits form digits point) = true := by
  have hpart {part : List Char} (hpart : part ⊆ digits) : isAscii part = true :=
    isAscii_iff.mpr fun c hc => isAscii_iff.mp h c (hpart hc)
  unfold renderDigits
  split
  · split
    · simp [isAscii_zeros, h]
    · dsimp only
      split
      · simp [isAscii_zeros, h]
      · simp [hpart (List.take_subset _ _), hpart (List.drop_subset _ _)]
  · split
    · exact (isAscii_cons _ _).mpr ⟨((isAscii_cons _ _).mp h).1, isAscii_renderExponent _⟩
    · obtain ⟨hd, hrest⟩ := (isAscii_cons _ _).mp h
      simp [hd, hrest, isAscii_renderExponent]
    · rfl

/-- **The text of every number is in ASCII**, if the names of the doubles that are not finite are. -/
theorem isAscii_render {form : Numeral} (hnan : isAscii form.nan.toList = true)
    (hinfinity : isAscii form.infinity.toList = true) (n : Number) : isAscii (n.render form) = true := by
  cases n with
  | int n =>
    show isAscii (renderInt n) = true
    unfold renderInt
    split <;> simp [isAscii_natDigits]
  | float x =>
    have hsign (negative : Bool) : isAscii (if negative then ['-'] else []) = true := by cases negative <;> rfl
    show isAscii (renderFloat form x) = true
    unfold renderFloat
    split
    · exact hnan
    · exact (isAscii_append _ _).mpr ⟨hsign _, hinfinity⟩
    · refine (isAscii_append _ _).mpr ⟨hsign _, ?_⟩
      split
      · rfl
      · exact isAscii_renderDigits form (isAscii_natDigits _) _

end Number

/-! ## Values -/

namespace Json

theorem isAscii_escapeUnit (n : Nat) : isAscii (escapeUnit n) = true := by
  have hall : ∀ k < 16, (Nat.digitChar k).toNat < 128 := by decide
  have hdigit (k : Nat) : (hexDigit k).toNat < 128 := hall (k % 16) (Nat.mod_lt k (by decide))
  simp [escapeUnit, hdigit]

/-- A short escape is in ASCII. -/
theorem toNat_lt_of_shortEscape? {c e : Char} (h : shortEscape? c = some e) : e.toNat < 128 := by
  unfold shortEscape? at h
  repeat' split at h
  all_goals first | (cases h; decide) | cases h

/-- A layout whose separators are in ASCII and that escapes the characters outside. -/
structure Style.IsAscii (style : Style) : Prop where
  items : isAscii style.itemSeparator = true
  keys : isAscii style.keySeparator = true
  escapes : style.escapeNonAscii = true

theorem isAscii_compact : compact.IsAscii := ⟨rfl, rfl, rfl⟩

section

variable {style : Style} (hstyle : style.IsAscii)
include hstyle

theorem isAscii_renderChar (c : Char) : isAscii (renderChar style c) = true := by
  unfold renderChar
  split
  · next e h => simp [toNat_lt_of_shortEscape? h]
  · split
    · unfold escapeCode
      split <;> simp [isAscii_escapeUnit]
    · next h =>
      simp only [hstyle.escapes, Bool.true_and, Bool.or_eq_true, decide_eq_true_eq, not_or] at h
      have hc : c.toNat < 127 := Nat.not_le.mp h.2
      exact (isAscii_cons _ _).mpr ⟨by omega, isAscii_nil⟩

theorem isAscii_renderString (s : String) : isAscii (renderString style s) = true := by
  have hchars : isAscii (s.toList.flatMap (renderChar style)) = true := by
    refine isAscii_iff.mpr fun c hc => ?_
    obtain ⟨d, -, hd⟩ := List.mem_flatMap.mp hc
    exact isAscii_iff.mp (isAscii_renderChar hstyle d) c hd
  simp [renderString, hchars]

omit hstyle in
theorem isAscii_breakLine (level : Nat) : isAscii (breakLine style level) = true := by
  unfold breakLine
  split
  · refine (isAscii_cons _ _).mpr ⟨by decide, isAscii_iff.mpr fun c hc => ?_⟩
    rw [List.eq_of_mem_replicate hc]
    decide
  · rfl

/-- Items behind the first are in ASCII if each item is. -/
theorem isAscii_renderItems {items : List Json} {level : Nat}
    (h : ∀ x ∈ items, ∀ level, isAscii (renderAt style level x) = true) :
    isAscii (renderItems style level items) = true := by
  induction items with
  | nil => rfl
  | cons x xs ih =>
    rw [List.forall_mem_cons] at h
    simp [renderItems, hstyle.items, isAscii_breakLine, h.1, ih h.2]

/-- Members behind the first are in ASCII if each value is. -/
theorem isAscii_renderMembers {fields : Fields} {level : Nat}
    (h : ∀ m ∈ fields, ∀ level, isAscii (renderAt style level m.2) = true) :
    isAscii (renderMembers style level fields) = true := by
  induction fields with
  | nil => rfl
  | cons m rest ih =>
    rw [List.forall_mem_cons] at h
    simp [renderMembers, hstyle.items, hstyle.keys, isAscii_breakLine, isAscii_renderString hstyle, h.1, ih h.2]

/-- **The text of every value is in ASCII** in a layout that escapes the other characters. -/
theorem isAscii_renderAt (v : Json) (level : Nat) : isAscii (renderAt style level v) = true := by
  induction v using Json.induction generalizing level with
  | null => rfl
  | bool b => cases b <;> rfl
  | num n => exact Number.isAscii_render rfl rfl n
  | str s => exact isAscii_renderString hstyle s
  | arr items ih =>
    cases items with
    | nil => rfl
    | cons x xs =>
      rw [List.forall_mem_cons] at ih
      simp [renderAt, isAscii_breakLine, ih.1, isAscii_renderItems hstyle ih.2]
  | obj fields ih =>
    cases fields with
    | nil => rfl
    | cons m rest =>
      rw [List.forall_mem_cons] at ih
      simp [renderAt, hstyle.keys, isAscii_breakLine, isAscii_renderString hstyle, ih.1,
        isAscii_renderMembers hstyle ih.2]

end

end Json

end WorkflowLab
