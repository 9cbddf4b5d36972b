import Mathlib.Data.List.Basic
import Mathlib.Data.List.Forall2
import Mathlib.Logic.Relator
import WorkflowLab.Intake.Scalar
import WorkflowLab.Proofs.Json.Alike

/-!
# Readings that agree

Documents that differ only in the order of keys are read alike, with the same issues where they cannot be read.

- `Json.Matches`: documents that are alike and pass a test, such as that they repeat no key;
- `Checked.Agrees`: readings whose values are related, or that have the same issues;
- `Agrees.map`, `Agrees.seq`, `Agrees.under`, `Agrees.allFrom`: how readings are put together;
- `Member.agrees_required`, `Member.agrees_optional`, `matches_extras`: the members of a form;
- `first_not_mem_extras`: names that no extra member has;
- `Checked.exists_of_seq`, `Member.exists_of_required`, `Member.exists_of_optional`: where values that were read come from.
-/

namespace WorkflowLab

namespace Json

/-- The two documents are alike and pass a test. -/
structure Matches (p : Json → Bool) (v w : Json) : Prop where
  alike : Alike v w
  passes : v.every p = true

section

variable {p : Json → Bool}

/-- Every document that passes the test matches itself. -/
theorem Matches.refl {v : Json} (h : v.every p = true) : Matches p v v := ⟨Alike.refl v, h⟩

/-- Lists match item by item. -/
theorem Matches.items {items others : List Json} (h : Matches p (.arr items) (.arr others)) :
    List.Forall₂ (Matches p) items others := by
  have hpasses := (every_arr.mp h.passes).2
  cases h.alike with
  | arr hlength hitems =>
    refine List.forall₂_iff_get.mpr ⟨hlength, fun i hi hi' => ⟨?_, hpasses _ (List.get_mem items ⟨i, hi⟩)⟩⟩
    exact hitems i _ _ (List.getElem?_eq_getElem hi) (List.getElem?_eq_getElem hi')

/-- A key has values that match in objects that match, or none in both. -/
theorem Matches.get? {fields others : Fields} (h : Matches p (.obj fields) (.obj others)) (key : String) :
    (fields.get? key = none ∧ others.get? key = none) ∨
      ∃ v w, fields.get? key = some v ∧ others.get? key = some w ∧ Matches p v w := by
  rcases h.alike.get? key with hnone | ⟨v, w, hv, hw, halike⟩
  · exact .inl hnone
  · exact .inr ⟨v, w, hv, hw, halike, (every_obj.mp h.passes).2 _ (Fields.mem_of_get? hv)⟩

/-- The members whose keys pass another test match in objects that match. -/
theorem Matches.filter (hp : IsKeyTest p) {fields others : Fields} (h : Matches p (.obj fields) (.obj others))
    (q : String → Bool) :
    Matches p (.obj (fields.filter fun m => q m.1)) (.obj (others.filter fun m => q m.1)) := by
  obtain ⟨hnodup, hvalues⟩ := hp.every_obj.mp h.passes
  constructor
  · cases h.alike with
    | obj hkeys halike =>
      refine .obj ?_ fun key v w hv hw => ?_
      · rw [Fields.keys_filter, Fields.keys_filter]
        exact hkeys.filter q
      · rw [Fields.get?_filter] at hv hw
        split at hv
        · next hq =>
          rw [if_pos hq] at hw
          exact halike key v w hv hw
        · cases hv
  · refine hp.every_obj.mpr ⟨?_, fun m hm => hvalues m (List.mem_filter.mp hm).1⟩
    rw [Fields.keys_filter]
    exact hnodup.filter q

end

end Json

open Json (IsKeyTest Matches)

namespace Intake

namespace Checked

/-- The two readings have values that are related, or the same issues. -/
inductive Agrees {α β : Type} (R : α → β → Prop) : Checked α → Checked β → Prop
  | good {a : α} {b : β} (h : R a b) : Agrees R (.good a) (.good b)
  | bad (issues : List Issue) : Agrees R (.bad issues) (.bad issues)

section

variable {α β γ δ : Type} {R : α → β → Prop} {S : γ → δ → Prop} {c : Checked α} {d : Checked β}

/-- What agrees with a value is a value. -/
theorem Agrees.exists_good {a : α} (h : Agrees R (.good a) d) : ∃ b, d = .good b ∧ R a b := by
  cases h with
  | good h => exact ⟨_, rfl, h⟩

theorem Agrees.of_eq {e f : Checked α} (h : e = f) : Agrees Eq e f := by
  subst h
  cases e with
  | good => exact .good rfl
  | bad => exact .bad _

/-- Readings agree when their values are changed in step. -/
theorem Agrees.map {f : α → γ} {g : β → δ} (hf : Relator.LiftFun R S f g) (h : Agrees R c d) :
    Agrees S (f <$> c) (g <$> d) := by
  cases h with
  | good h => exact .good (hf h)
  | bad => exact .bad _

/-- Readings agree when they are put together of parts that do. -/
theorem Agrees.seq {f : Checked (α → γ)} {g : Checked (β → δ)} (hf : Agrees (Relator.LiftFun R S) f g)
    (h : Agrees R c d) : Agrees S (f <*> c) (g <*> d) := by
  cases hf with
  | good hf =>
    cases h with
    | good h => exact .good (hf h)
    | bad => exact .bad _
  | bad =>
    cases h with
    | good => exact .bad _
    | bad => exact .bad _

theorem Agrees.under (step : Step) (h : Agrees R c d) : Agrees R (c.under step) (d.under step) := by
  cases h with
  | good h => exact .good h
  | bad => exact .bad _

/-- **Lists are read alike** whose items are. -/
theorem Agrees.allFrom {read : Json → Checked α} {other : Json → Checked β} {items others : List Json}
    (h : List.Forall₂ (fun v w => Agrees R (read v) (other w)) items others) (i : Nat) :
    Agrees (List.Forall₂ R) (allFrom read i items) (allFrom other i others) := by
  induction h generalizing i with
  | nil => exact .good .nil
  | cons hitem _ ih =>
    exact .seq (.map (fun _ _ ha _ _ has => .cons ha has) (hitem.under (.index i))) (ih (i + 1))

/-- A value that was made by a function comes from one that was read. -/
theorem exists_of_map {α β : Type} {f : α → β} {c : Checked α} {b : β} (h : f <$> c = .good b) :
    ∃ a, c = .good a ∧ f a = b := by
  cases c with
  | good a => exact ⟨a, rfl, good.inj h⟩
  | bad issues => cases h

/-- A value that was put together comes from parts that were read. -/
theorem exists_of_seq {α β : Type} {f : Checked (α → β)} {c : Checked α} {b : β} (h : f <*> c = .good b) :
    ∃ g a, f = .good g ∧ c = .good a ∧ g a = b := by
  cases f <;> cases c <;> first | exact ⟨_, _, rfl, rfl, good.inj h⟩ | cases h

/-- A value is the same one step further down. -/
theorem good_of_under {α : Type} {step : Step} {c : Checked α} {a : α} (h : c.under step = .good a) :
    c = .good a := by
  cases c with
  | good => exact h
  | bad issues => cases h

end

end Checked

open Checked (Agrees good_of_under)

/-! ## Values -/

variable {p : Json → Bool} {α β : Type} {R : α → β → Prop} {v w : Json}

/-- Texts are read alike. -/
theorem agrees_text (h : Matches p v w) : Agrees Eq (text v) (text w) := by
  cases h.alike <;> exact .of_eq rfl

/-- Choices are read alike. -/
theorem agrees_choice (choices : List (String × α)) (h : Matches p v w) :
    Agrees Eq (choice choices v) (choice choices w) := by
  cases h.alike <;> exact .of_eq rfl

/-- Maps are read alike. -/
theorem agrees_map (h : Matches p v w) : Agrees (fun a b => Matches p (.obj a) (.obj b)) (map v) (map w) := by
  cases h.alike with
  | obj => exact .good h
  | null | bool | num | str | arr => exact .bad _

/-- Lists are read alike whose items are. -/
theorem agrees_list {read : Json → Checked α} {other : Json → Checked β}
    (hread : ∀ {v w}, Matches p v w → Agrees R (read v) (other w)) (h : Matches p v w) :
    Agrees (List.Forall₂ R) (list read v) (list other w) := by
  cases h.alike with
  | arr => exact .allFrom (h.items.imp fun _ _ hitem => hread hitem) 0
  | null | bool | num | str | obj => exact .bad _

/-! ## Members -/

variable {fields others : Fields}

/-- A member is found under the same name, with values that match, or in neither object. -/
theorem Member.find?_of_matches (m : Member) (h : Matches p (.obj fields) (.obj others)) :
    (m.find? fields = none ∧ m.find? others = none) ∨
      ∃ name v w, m.find? fields = some (name, v) ∧ m.find? others = some (name, w) ∧ Matches p v w := by
  unfold find?
  induction m.names with
  | nil => exact .inl ⟨rfl, rfl⟩
  | cons name names ih =>
    rw [List.findSome?_cons, List.findSome?_cons]
    rcases h.get? name with ⟨hnone, hnone'⟩ | ⟨v, w, hv, hw, hmatches⟩
    · rw [hnone, hnone']
      exact ih
    · rw [hv, hw]
      exact .inr ⟨name, v, w, rfl, rfl, hmatches⟩

/-- **A member that has to be there is read alike.** -/
theorem Member.agrees_required (m : Member) {read : Json → Checked α} {other : Json → Checked β}
    (hread : ∀ {v w}, Matches p v w → Agrees R (read v) (other w)) (h : Matches p (.obj fields) (.obj others)) :
    Agrees R (m.required fields read) (m.required others other) := by
  unfold required
  rcases m.find?_of_matches h with ⟨hnone, hnone'⟩ | ⟨name, v, w, hv, hw, hmatches⟩
  · rw [hnone, hnone']
    exact .bad _
  · rw [hv, hw]
    exact (hread hmatches).under _

/-- **A member that may be missing is read alike.** -/
theorem Member.agrees_optional (m : Member) {default : α} {preset : β} (hdefault : R default preset)
    {read : Json → Checked α} {other : Json → Checked β} (hread : ∀ {v w}, Matches p v w → Agrees R (read v) (other w))
    (h : Matches p (.obj fields) (.obj others)) :
    Agrees R (m.optional fields default read) (m.optional others preset other) := by
  unfold optional
  rcases m.find?_of_matches h with ⟨hnone, hnone'⟩ | ⟨name, v, w, hv, hw, hmatches⟩
  · rw [hnone, hnone']
    exact .good hdefault
  · rw [hv, hw]
    exact (hread hmatches).under _

/-- A member that had to be there was read from a value that passes what its object passes. -/
theorem Member.exists_of_required {m : Member} {read : Json → Checked α} {a : α} (h : (Json.obj fields).every p = true)
    (hread : m.required fields read = .good a) : ∃ v, v.every p = true ∧ read v = .good a := by
  unfold required at hread
  rcases m.find?_of_matches (Matches.refl h) with ⟨hnone, -⟩ | ⟨name, v, w, hv, -, hmatches⟩
  · rw [hnone] at hread
    cases hread
  · rw [hv] at hread
    exact ⟨v, hmatches.passes, good_of_under hread⟩

/-- So was one that may be missing, if its value is not the preset one. -/
theorem Member.exists_of_optional {m : Member} {preset : α} {read : Json → Checked α} {a : α}
    (h : (Json.obj fields).every p = true) (hread : m.optional fields preset read = .good a) :
    a = preset ∨ ∃ v, v.every p = true ∧ read v = .good a := by
  unfold optional at hread
  rcases m.find?_of_matches (Matches.refl h) with ⟨hnone, -⟩ | ⟨name, v, w, hv, -, hmatches⟩
  · rw [hnone] at hread
    cases hread
    exact .inl rfl
  · rw [hv] at hread
    exact .inr ⟨v, hmatches.passes, good_of_under hread⟩

/-- The names under which an object gives the members of a form. -/
def usedNames (form : List Member) (fields : Fields) : List String :=
  form.filterMap fun m => (m.find? fields).map (·.1)

theorem extras_eq_filter (form : List Member) (fields : Fields) :
    extras form fields = fields.filter fun f => !(usedNames form fields).contains f.1 := rfl

/-- **The members that a form does not know match.** -/
theorem matches_extras (hp : IsKeyTest p) (form : List Member) (h : Matches p (.obj fields) (.obj others)) :
    Matches p (.obj (extras form fields)) (.obj (extras form others)) := by
  have hused : usedNames form fields = usedNames form others := by
    refine List.filterMap_congr fun m _ => ?_
    rcases m.find?_of_matches h with ⟨hnone, hnone'⟩ | ⟨name, v, w, hv, hw, -⟩
    · rw [hnone, hnone']
    · rw [hv, hw]
      rfl
  rw [extras_eq_filter, extras_eq_filter, ← hused]
  exact h.filter hp fun key => !(usedNames form fields).contains key

/-- No extra member has the name under which a member of the form is looked for first. -/
theorem first_not_mem_extras {form : List Member} {m : Member} (hm : m ∈ form) {name : String}
    (hfirst : m.names.head? = some name) (fields : Fields) : name ∉ (extras form fields).keys := by
  rw [extras_eq_filter, Fields.keys_filter fun key => !(usedNames form fields).contains key]
  intro hmem
  obtain ⟨hkey, hfresh⟩ := List.mem_filter.mp hmem
  obtain ⟨value, hvalue⟩ := Fields.mem_keys_iff.mp hkey
  have hfind : m.find? fields = some (name, value) := by
    obtain ⟨names, hnames⟩ := List.head?_eq_some_iff.mp hfirst
    rw [Member.find?, hnames, List.findSome?_cons, hvalue]
    rfl
  have hused : name ∈ usedNames form fields := List.mem_filterMap.mpr ⟨m, hm, by rw [hfind]; rfl⟩
  rw [Bool.not_eq_true', List.contains_eq_mem, decide_eq_false_iff_not] at hfresh
  exact hfresh hused

end Intake

end WorkflowLab
