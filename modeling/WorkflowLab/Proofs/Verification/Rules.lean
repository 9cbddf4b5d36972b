import WorkflowLab.Verification.Check

/-!
# Rules about one part of the output

The types of rules ask for different kinds of sameness. Rules about the same part do not contradict each other, but for
one case: a truth value is the same as zero or one and is not called a number.

- `Passes`: a rule about the part at a path passes; `passes_iff`: it does if the part is what the rule asks for;
- `valueTypeName_eq_iff_of_same`: values that are the same have types of one name unless just one of them is a truth value;
- `passes_consistent`: what follows from a rule that passes for the other rules about the part.
-/

namespace WorkflowLab

namespace Json

/-- Whether a value is a truth value. -/
def isBool : Json → Bool
  | .bool _ => true
  | _ => false

/-- Nothing but null is the same as null. -/
theorem isNull_of_same {v w : Json} (h : v.same w = true) (hv : v.isNull = true) : w.isNull = true := by
  cases v with
  | null => cases w <;> first | rfl | cases h
  | bool | num | str | arr | obj => cases hv

end Json

namespace Verification

/-! ## Names of types -/

/-- **Values that are the same have types of one name unless just one of them is a truth value.** -/
theorem valueTypeName_eq_iff_of_same {v w : Json} (h : v.same w = true) :
    valueTypeName v = valueTypeName w ↔ v.isBool = w.isBool := by
  cases v <;> cases w <;> simp [Json.same, Json.asNumber?] at h <;> simp [valueTypeName, Json.isBool]

/-! ## Rules that pass -/

/-- A rule about the part of an output at a path passes. -/
def Passes (output : Json) (path : String) (type : RuleType) (expected : Json) : Prop :=
  ∀ extra, ∃ v, OutputRule.check ⟨path, type, expected, extra⟩ output = .ok v ∧ v.passed = true

/-- A rule passes when the part at its path is what it asks for. -/
theorem passes_iff {output part : Json} {path : String} (h : lookup output path = .ok part) (type : RuleType)
    (expected : Json) : Passes output path type expected ↔ type.accepts part expected = true := by
  have hcheck (extra : Fields) : OutputRule.check ⟨path, type, expected, extra⟩ output =
      .ok ⟨path, type.accepts part expected, part, []⟩ := by
    rw [OutputRule.check, h]
    rfl
  constructor
  · intro hpasses
    obtain ⟨v, hv, hpassed⟩ := hpasses []
    rw [hcheck] at hv
    cases hv
    exact hpassed
  · exact fun haccepts extra => ⟨_, hcheck extra, haccepts⟩

/-- A rule about the type of a part compares names. -/
theorem accepts_typeCheck (part : Json) (name : String) :
    RuleType.typeCheck.accepts part (.str name) = true ↔ valueTypeName part = name := by
  simp [RuleType.accepts, Json.same]

/-- A rule that a part is there asks for no more than that it is not null. -/
theorem accepts_exists (part expected : Json) : RuleType.exists.accepts part expected = true ↔ part.isNull = false := by
  simp [RuleType.accepts]

/-- Only texts contain something. -/
theorem exists_str_of_containsText {part expected : Json} (h : containsText part expected = true) :
    ∃ s, part = .str s := by
  cases part with
  | str s => exact ⟨s, rfl⟩
  | null | bool | num | arr | obj => cases h

/-- **Rules about one part agree with each other, but for truth values and numbers.** If a rule passes that the part is
the same as some value other than null, then the rules that it is there and that it is of the same type pass too, the
latter unless the one is a truth value and the other is not. If a rule passes that the part contains something, then so
do those that it is there and that it is a text. -/
theorem passes_consistent {output part : Json} {path : String} (h : lookup output path = .ok part) :
    (∀ expected any, expected.isNull = false → Passes output path .matches expected →
      Passes output path .exists any ∧
        (Passes output path .typeCheck (.str (valueTypeName expected)) ↔ part.isBool = expected.isBool)) ∧
    ∀ expected any, Passes output path .contains expected →
      Passes output path .exists any ∧ Passes output path .typeCheck (.str "string") := by
  simp only [passes_iff h, accepts_exists, accepts_typeCheck]
  constructor
  · intro expected any hexpected hsame
    have hsame : part.same expected = true := hsame
    refine ⟨?_, valueTypeName_eq_iff_of_same hsame⟩
    rw [← Bool.not_eq_true] at hexpected ⊢
    exact mt (Json.isNull_of_same hsame) hexpected
  · intro expected any hcontains
    obtain ⟨s, rfl⟩ := exists_str_of_containsText hcontains
    exact ⟨rfl, rfl⟩

/-- An output with an object and a text. -/
def lamps : Json := .obj [("flags", .obj [("on", .arr [.bool true, .int 2])]), ("place", .str "hall")]

/-- The object that a rule may ask for: its numbers are the same in other forms. -/
def lit : Json := .obj [("on", .arr [.int 1, .float 2])]

/-- The rules about the parts of an output pass together. -/
theorem passes_consistent_lamps :
    lookup lamps "flags" = .ok (.obj [("on", .arr [.bool true, .int 2])]) ∧ lookup lamps "place" = .ok (.str "hall") ∧
      lit.isNull = false ∧ Passes lamps "flags" .matches lit ∧ Passes lamps "place" .contains (.str "al") ∧
      Passes lamps "flags" .exists .null ∧ Passes lamps "flags" .typeCheck (.str "object") ∧
      Passes lamps "place" .exists .null ∧ Passes lamps "place" .typeCheck (.str "string") := by
  have hflags : lookup lamps "flags" = .ok (.obj [("on", .arr [.bool true, .int 2])]) := by rfl
  have hplace : lookup lamps "place" = .ok (.str "hall") := by rfl
  have hmatches : Passes lamps "flags" .matches lit := (passes_iff hflags .matches lit).mpr (by decide +kernel)
  have hcontains : Passes lamps "place" .contains (.str "al") :=
    (passes_iff hplace .contains (.str "al")).mpr (by decide +kernel)
  obtain ⟨hthere, htype⟩ := (passes_consistent hflags).1 lit .null rfl hmatches
  obtain ⟨htext, hstring⟩ := (passes_consistent hplace).2 (.str "al") .null hcontains
  exact ⟨hflags, hplace, rfl, hmatches, hcontains, hthere, htype.mpr rfl, htext, hstring⟩

/-- **A truth value is the same as a number, but it is not called one.** -/
theorem passes_matches_not_typeCheck :
    Passes (.obj [("ok", .bool true)]) "ok" .matches (.int 1) ∧
      ¬Passes (.obj [("ok", .bool true)]) "ok" .typeCheck (.str (valueTypeName (.int 1))) := by
  have hpart : lookup (.obj [("ok", .bool true)]) "ok" = .ok (.bool true) := rfl
  rw [passes_iff hpart, passes_iff hpart]
  decide +kernel

end Verification

end WorkflowLab
