import Mathlib.Data.List.Forall2
import WorkflowLab.Json.Serializer
import WorkflowLab.Proofs.Json.Alike

/-!
# What is relied on in serializers

- `Serializer.Faithful`: documents say what they are made of;
- `Serializer.Unordered`: records that differ only in the order of keys are refused together;
- `Serializer.Total`: nothing is refused;
- `faithful_bounded`, `unordered_bounded`: a serializer with limits has the first two, and `total_lenient`: one without
  limits all of them;
- `mapM_eq_ok_iff`, `mapM_eq_error_iff`: a list has documents exactly when its items have, and they are those of the items;
  lists whose items are refused together are, too.
-/

namespace WorkflowLab

namespace Serializer

/-- The serializer has a document for a value of any form. -/
def Takes (s : Serializer) (v : Json) : Prop := ∃ document, s.value v = .ok document

/-- The serializer has a document for a record. -/
def TakesRecord (s : Serializer) (members : Json) : Prop := ∃ document, s.record members = .ok document

/-- **Documents say what they are made of**: that of a value is the value itself, and that of a record has its members,
with null for doubles that are not finite. -/
structure Faithful (s : Serializer) : Prop where
  value {v document : Json} : s.value v = .ok document → document = v
  record {members document : Json} : s.record members = .ok document → document = members.finite

/-- **Records that differ only in the order of keys are refused together**, in the same words. -/
structure Unordered (s : Serializer) : Prop where
  refused {a b : Json} {message : String} : Json.Alike a b → a.isProper = true → s.record a = .error message →
    s.record b = .error message

/-- Nothing is refused. -/
structure Total (s : Serializer) : Prop where
  value (v : Json) : s.Takes v
  record (members : Json) : s.TakesRecord members

/-! ## Limits -/

variable {levels recordLevels : Nat}

theorem within_eq_ok_iff {v document : Json} : within levels v = .ok document ↔ v.depth ≤ levels ∧ document = v := by
  unfold within
  split
  · next h => exact ⟨fun heq => ⟨h, (Except.ok.inj heq).symm⟩, fun heq => by rw [heq.2]⟩
  · next h => exact ⟨nofun, fun heq => absurd heq.1 h⟩

/-- A serializer with limits is faithful. -/
theorem faithful_bounded (levels recordLevels : Nat) : (bounded levels recordLevels).Faithful where
  value h := (within_eq_ok_iff.mp h).2
  record {members document} h := by
    cases hwithin : within recordLevels members with
    | error message => simp [bounded, hwithin, Except.map] at h
    | ok v =>
      simp only [bounded, hwithin, Except.map, Except.ok.injEq] at h
      rw [← h, (within_eq_ok_iff.mp hwithin).2]

/-- It takes the values of as many levels. -/
theorem takes_bounded_iff {v : Json} : (bounded levels recordLevels).Takes v ↔ v.depth ≤ levels :=
  ⟨fun ⟨_, h⟩ => (within_eq_ok_iff.mp h).1, fun h => ⟨v, within_eq_ok_iff.mpr ⟨h, rfl⟩⟩⟩

/-- It complains about the other values. -/
theorem value_bounded_of_lt {v : Json} (h : levels < v.depth) :
    (bounded levels recordLevels).value v = .error depthMessage := if_neg (Nat.not_le.mpr h)

/-- It takes the records of as many levels, and complains about the others. -/
theorem record_bounded (members : Json) : (bounded levels recordLevels).record members =
    if members.depth ≤ recordLevels then .ok members.finite else .error depthMessage := by
  show (within recordLevels members).map Json.finite = _
  unfold within
  split <;> rfl

theorem takesRecord_bounded_iff {members : Json} :
    (bounded levels recordLevels).TakesRecord members ↔ members.depth ≤ recordLevels := by
  rw [TakesRecord, record_bounded]
  split <;> simp_all

/-- Levels do not depend on the order of keys. -/
theorem unordered_bounded (levels recordLevels : Nat) : (bounded levels recordLevels).Unordered where
  refused {a b message} halike hproper h := by
    rw [record_bounded] at h ⊢
    rwa [← halike.depth_eq hproper, ← ite_congr rfl (fun hle => ?_) fun _ => rfl]
    simp [hle] at h

/-- A serializer with limits of some 250 levels, as many have. -/
def customary : Serializer := bounded 255 258

theorem faithful_customary : customary.Faithful := faithful_bounded 255 258

/-- The serializer without limits. -/
def lenient : Serializer := ⟨.ok, fun members => .ok members.finite⟩

theorem faithful_lenient : lenient.Faithful where
  value h := (Except.ok.inj h).symm
  record h := (Except.ok.inj h).symm

theorem total_lenient : lenient.Total := ⟨fun v => ⟨v, rfl⟩, fun _ => ⟨_, rfl⟩⟩

end Serializer

/-! ## Lists -/

section

variable {ε α β : Type} {f : α → Except ε β} {items : List α}

/-- **The results of a list are those of its items**, if all of them have one. -/
theorem mapM_eq_ok_iff {results : List β} :
    items.mapM f = .ok results ↔ List.Forall₂ (fun a b => f a = .ok b) items results := by
  induction items generalizing results with
  | nil =>
    rw [List.mapM_nil, List.forall₂_nil_left_iff]
    exact ⟨fun h => (Except.ok.inj h).symm, fun h => by rw [h]; rfl⟩
  | cons a rest ih =>
    rw [List.mapM_cons, List.forall₂_cons_left_iff]
    constructor
    · intro h
      cases ha : f a with
      | error fault => rw [ha] at h; cases h
      | ok b =>
        cases hrest : rest.mapM f with
        | error fault => rw [ha, hrest] at h; cases h
        | ok others =>
          rw [ha, hrest] at h
          exact ⟨b, others, rfl, ih.mp hrest, (Except.ok.inj h).symm⟩
    · rintro ⟨b, others, ha, hrest, rfl⟩
      rw [ha, ih.mpr hrest]
      rfl

/-- A list has results exactly when each item has one. -/
theorem exists_mapM_eq_ok_iff : (∃ results, items.mapM f = .ok results) ↔ ∀ a ∈ items, ∃ b, f a = .ok b := by
  simp only [mapM_eq_ok_iff]
  induction items with
  | nil => exact iff_of_true ⟨[], .nil⟩ (List.forall_mem_nil _)
  | cons a rest ih =>
    rw [List.forall_mem_cons, ← ih]
    constructor
    · rintro ⟨_, _ | ⟨ha, hrest⟩⟩
      exact ⟨⟨_, ha⟩, _, hrest⟩
    · rintro ⟨⟨b, ha⟩, others, hrest⟩
      exact ⟨b :: others, .cons ha hrest⟩

/-- If the result of an item can only be one, so can those of a list. -/
theorem eq_map_of_mapM {g : α → β} {results : List β} (h : items.mapM f = .ok results)
    (hg : ∀ a b, f a = .ok b → b = g a) : results = items.map g := by
  have hresults := mapM_eq_ok_iff.mp h
  clear h
  induction hresults with
  | nil => rfl
  | cons ha _ ih => rw [List.map_cons, ih, hg _ _ ha]

/-- Lists whose items fail together, with the same fault, do so, too. -/
theorem mapM_eq_error_iff {γ : Type} {g : γ → Except ε β} {others : List γ}
    (h : List.Forall₂ (fun a c => ∀ fault, f a = .error fault ↔ g c = .error fault) items others) {fault : ε} :
    items.mapM f = .error fault ↔ others.mapM g = .error fault := by
  have hrest {x : Except ε (List β)} (b : β) :
      (do return b :: (← x) : Except ε (List β)) = .error fault ↔ x = .error fault := by
    cases x with
    | error first => exact Iff.rfl
    | ok results => exact iff_of_false nofun nofun
  induction h with
  | nil => exact iff_of_false nofun nofun
  | @cons a c rest others hac _ ih =>
    rw [List.mapM_cons, List.mapM_cons]
    cases ha : f a with
    | error first =>
      rw [(hac first).mp ha]
      exact Iff.rfl
    | ok b =>
      cases hc : g c with
      | error first => exact absurd ((hac first).mpr hc) (by rw [ha]; nofun)
      | ok d => exact (hrest b).trans (ih.trans (hrest d).symm)

end

end WorkflowLab
