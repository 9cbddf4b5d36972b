import WorkflowLab.Json.Depth
import WorkflowLab.Json.Finite
import WorkflowLab.Json.Short

/-!
# The parts of values

- `Json.induction`: induction over a value by its items and members;
- `every_arr`, `every_obj`: a test of a value and of all that it holds;
- `Json.isProper`: no object repeats a key, so each member is what a look-up of its key finds (`get?_of_mem`);
- `Json.isPlain`: every number has a text that can be read: it is no integer that is too long (`isShort`) and no double
  that is not finite (`isPlain_iff`);
- `finite_of_isPlain`: such a value is written as it is.
-/

namespace WorkflowLab

namespace Fields

/-- A new key stands behind all others. -/
theorem set_of_not_mem {fields : Fields} {key : String} (h : key ∉ fields.keys) (value : Json) :
    fields.set key value = fields ++ [(key, value)] := by
  induction fields with
  | nil => rfl
  | cons m rest ih =>
    obtain ⟨k, v⟩ := m
    simp only [keys, List.map_cons, List.mem_cons, not_or] at h
    rw [set_cons, if_neg (Ne.symm h.1), ih h.2]
    rfl

/-- Where no key is repeated, a look-up finds every member. -/
theorem get?_of_mem {fields : Fields} (hkeys : fields.keys.Nodup) {m : String × Json} (h : m ∈ fields) :
    fields.get? m.1 = some m.2 := by
  induction fields with
  | nil => cases h
  | cons n rest ih =>
    obtain ⟨k, v⟩ := n
    obtain ⟨hfresh, hrest⟩ := List.nodup_cons.mp hkeys
    rw [get?_cons]
    rcases List.mem_cons.mp h with rfl | h
    · exact if_pos rfl
    · have hmem : m.1 ∈ rest.map (·.1) := List.mem_map_of_mem h
      have hne : m.1 ≠ k := fun heq => hfresh (heq ▸ hmem)
      rw [if_neg hne]
      exact ih hrest h

/-- What a look-up finds is a member. -/
theorem mem_of_get? {fields : Fields} {key : String} {value : Json} (h : fields.get? key = some value) :
    (key, value) ∈ fields := by
  induction fields with
  | nil => cases h
  | cons n rest ih =>
    obtain ⟨k, v⟩ := n
    rw [get?_cons] at h
    split at h
    · next heq =>
      rw [heq, Option.some.inj h]
      exact List.mem_cons_self
    · exact List.mem_cons_of_mem _ (ih h)

/-- A key has no value exactly when it is not there. -/
theorem get?_eq_none_iff {fields : Fields} {key : String} : fields.get? key = none ↔ key ∉ fields.keys := by
  rw [mem_keys_iff, Option.eq_none_iff_forall_ne_some, not_exists]

/-- Where no key is repeated, look-ups find the same in members of any order. -/
theorem get?_eq_of_perm {fields others : Fields} (hkeys : fields.keys.Nodup) (hperm : fields.Perm others)
    (key : String) : fields.get? key = others.get? key := by
  have hkeysPerm : fields.keys.Perm others.keys := hperm.map _
  cases hvalue : others.get? key with
  | none =>
    rw [get?_eq_none_iff] at hvalue ⊢
    exact mt hkeysPerm.mem_iff.mp hvalue
  | some v => exact get?_of_mem hkeys (hperm.mem_iff.mpr (mem_of_get? hvalue))

/-- A key is looked up in the first members, then in those behind them. -/
theorem get?_append (fields others : Fields) (key : String) :
    Fields.get? (fields ++ others) key = (fields.get? key).or (others.get? key) := by
  induction fields with
  | nil => rfl
  | cons m rest ih =>
    obtain ⟨k, v⟩ := m
    rw [List.cons_append, get?_cons, get?_cons, ih]
    split <;> rfl

/-- A key that passes a test is found among the members whose keys pass it, and no other key is. -/
theorem get?_filter (p : String → Bool) (fields : Fields) (key : String) :
    Fields.get? (fields.filter fun m => p m.1) key = if p key then fields.get? key else none := by
  induction fields with
  | nil => exact (ite_self _).symm
  | cons m rest ih =>
    obtain ⟨k, v⟩ := m
    rw [List.filter_cons]
    by_cases hk : key = k
    · subst hk
      split
      · next h => simp [get?_cons]
      · next h => rw [ih, if_neg h]
    · split
      · rw [get?_cons, get?_cons, if_neg hk, if_neg hk, ih]
      · rw [get?_cons, if_neg hk, ih]

theorem keys_filter (p : String → Bool) (fields : Fields) :
    Fields.keys (fields.filter fun m => p m.1) = fields.keys.filter p := (List.filter_map ..).symm

/-- Members without repeated keys are determined by their keys and what look-ups find. -/
theorem ext_of_keys {fields others : Fields} (hnodup : fields.keys.Nodup) (hkeys : fields.keys = others.keys)
    (h : ∀ key, fields.get? key = others.get? key) : fields = others := by
  induction fields generalizing others with
  | nil => exact (List.map_eq_nil_iff.mp hkeys.symm).symm
  | cons m rest ih =>
    obtain ⟨k, v⟩ := m
    obtain ⟨n, rest', rfl, hk, hrest⟩ := List.map_eq_cons_iff.mp hkeys.symm
    obtain ⟨k', w⟩ := n
    obtain rfl : k' = k := hk
    obtain ⟨hfresh, hnodup⟩ := List.nodup_cons.mp hnodup
    have hvalue := h k'
    rw [get?_cons, get?_cons, if_pos rfl, if_pos rfl] at hvalue
    obtain rfl := Option.some.inj hvalue
    have hothers : Fields.keys rest = Fields.keys rest' := hrest.symm
    rw [ih hnodup hothers fun key => ?_]
    by_cases hkey : key = k'
    · subst hkey
      have hnone : Fields.get? rest key = none := get?_eq_none_iff.mpr hfresh
      rw [hnone, eq_comm, get?_eq_none_iff, ← hothers]
      exact hfresh
    · simpa [get?_cons, hkey] using h key

end Fields

namespace Json

/-- **Induction over a value**: a list has its items' properties to build on, an object its members'. -/
@[elab_as_elim]
theorem induction {motive : Json → Prop} (null : motive .null) (bool : ∀ b, motive (.bool b))
    (num : ∀ n, motive (.num n)) (str : ∀ s, motive (.str s))
    (arr : ∀ items, (∀ x ∈ items, motive x) → motive (.arr items))
    (obj : ∀ fields : Fields, (∀ m ∈ fields, motive m.2) → motive (.obj fields)) (v : Json) : motive v := by
  induction hdepth : v.depth using Nat.strongRecOn generalizing v with
  | _ d ih =>
    subst hdepth
    cases v with
    | null => exact null
    | bool b => exact bool b
    | num n => exact num n
    | str s => exact str s
    | arr items => exact arr items fun x hx => ih x.depth (depth_lt_of_mem hx) x rfl
    | obj fields => exact obj fields fun m hm => ih m.2.depth (depth_lt_of_mem_fields hm) m.2 rfl

section

variable {p : Json → Bool}

theorem everyItem_iff {items : List Json} : everyItem p items = true ↔ ∀ x ∈ items, x.every p = true := by
  induction items with
  | nil => simp [everyItem]
  | cons x xs ih => simp [everyItem, ih]

theorem everyMember_iff {fields : Fields} : everyMember p fields = true ↔ ∀ m ∈ fields, m.2.every p = true := by
  induction fields with
  | nil => simp [everyMember]
  | cons m rest ih => simp [everyMember, ih]

/-- A list passes with all its items. -/
theorem every_arr {items : List Json} :
    (arr items).every p = true ↔ p (.arr items) = true ∧ ∀ x ∈ items, x.every p = true := by
  rw [every, Bool.and_eq_true, everyItem_iff]

/-- An object passes with all its values. -/
theorem every_obj {fields : Fields} :
    (obj fields).every p = true ↔ p (.obj fields) = true ∧ ∀ m ∈ fields, m.2.every p = true := by
  rw [every, Bool.and_eq_true, everyMember_iff]

/-- Two tests are passed together when each of them is. -/
theorem every_and {q : Json → Bool} {v : Json} :
    v.every (fun v => p v && q v) = true ↔ v.every p = true ∧ v.every q = true := by
  induction v using Json.induction with
  | null | bool | num | str => exact Bool.and_eq_true_iff
  | arr items ih =>
    simp only [every_arr, Bool.and_eq_true, forall₂_congr ih, imp_and, forall_and]
    exact and_and_and_comm
  | obj fields ih =>
    simp only [every_obj, Bool.and_eq_true, forall₂_congr ih, imp_and, forall_and]
    exact and_and_and_comm

end

/-! ## Keys -/

/-- The value is no object with a repeated key. -/
def hasDistinctKeys : Json → Bool
  | .obj fields => decide (Fields.keys fields).Nodup
  | _ => true

/-- No object in the value repeats a key. -/
def isProper (v : Json) : Bool := v.every hasDistinctKeys

theorem isProper_arr {items : List Json} : (arr items).isProper = true ↔ ∀ x ∈ items, x.isProper = true := by
  rw [isProper, every_arr]
  exact and_iff_right rfl

theorem isProper_obj {fields : Fields} :
    (obj fields).isProper = true ↔ (Fields.keys fields).Nodup ∧ ∀ m ∈ fields, m.2.isProper = true := by
  rw [isProper, every_obj, hasDistinctKeys, decide_eq_true_eq]
  rfl

/-! ## Numbers -/

/-- The value is no number without a text that can be read: an integer with too many digits, or a double that is not
finite. -/
def hasPlainNumber : Json → Bool
  | .int n => decide ((Number.natDigits n.natAbs).length ≤ Number.maxIntegerDigits)
  | .float x => isFiniteNumber (.float x)
  | _ => true

/-- Every number in the value has a text that can be read. -/
def isPlain (v : Json) : Bool := v.every hasPlainNumber

theorem isPlain_arr {items : List Json} : (arr items).isPlain = true ↔ ∀ x ∈ items, x.isPlain = true := by
  rw [isPlain, every_arr]
  exact and_iff_right rfl

theorem isPlain_obj {fields : Fields} : (obj fields).isPlain = true ↔ ∀ m ∈ fields, m.2.isPlain = true := by
  rw [isPlain, every_obj]
  exact and_iff_right rfl

theorem isShort_arr {items : List Json} : (arr items).isShort = true ↔ ∀ x ∈ items, x.isShort = true := by
  rw [isShort, every_arr]
  exact and_iff_right rfl

theorem isShort_obj {fields : Fields} : (obj fields).isShort = true ↔ ∀ m ∈ fields, m.2.isShort = true := by
  rw [isShort, every_obj]
  exact and_iff_right rfl

/-- The value is no double that is not finite. -/
def hasFiniteDouble : Json → Bool
  | .float x => isFiniteNumber (.float x)
  | _ => true

/-- Numbers are plain when integers are short and doubles are finite. -/
theorem isPlain_iff {v : Json} : v.isPlain = true ↔ v.isShort = true ∧ v.every hasFiniteDouble = true := by
  have hnumber (v : Json) : hasPlainNumber v = (hasShortInteger v && hasFiniteDouble v) := by
    rcases v with _ | _ | ⟨n | x⟩ | _ | _ | _ <;> first | rfl | exact (Bool.and_true _).symm
  have hplain : hasPlainNumber = fun v => hasShortInteger v && hasFiniteDouble v := funext hnumber
  rw [isPlain, isShort, hplain, every_and]

theorem finiteItems_eq_map (items : List Json) : finiteItems items = items.map finite := by
  induction items with
  | nil => rfl
  | cons x xs ih => rw [finiteItems, ih, List.map_cons]

theorem finiteFields_eq_map (fields : Fields) : finiteFields fields = fields.map fun m => (m.1, m.2.finite) := by
  induction fields with
  | nil => rfl
  | cons m rest ih => rw [finiteFields, ih, List.map_cons]

/-- Replacing doubles keeps integers. -/
theorem isShort_finite (v : Json) : v.finite.isShort = v.isShort := by
  induction v using Json.induction with
  | null | bool | str => rfl
  | num n =>
    cases n with
    | int n => rfl
    | float x =>
      rw [finite]
      split <;> rfl
  | arr items ih =>
    rw [Bool.eq_iff_iff, finite, finiteItems_eq_map, isShort_arr, isShort_arr, List.forall_mem_map]
    exact forall₂_congr fun x hx => by rw [ih x hx]
  | obj fields ih =>
    rw [Bool.eq_iff_iff, finite, finiteFields_eq_map, isShort_obj, isShort_obj, List.forall_mem_map]
    exact forall₂_congr fun m hm => by rw [ih m hm]

/-- **A value with plain numbers has no double to replace.** -/
theorem finite_of_isPlain {v : Json} (h : v.isPlain = true) : v.finite = v := by
  induction v using Json.induction with
  | null | bool | str => rfl
  | num n =>
    cases n with
    | int n => rfl
    | float x =>
      have hfinite : isFiniteNumber (.float x) = true := h
      rw [finite, if_pos hfinite]
  | arr items ih =>
    rw [isPlain_arr] at h
    rw [finite, finiteItems_eq_map, List.map_congr_left fun x hx => ih x hx (h x hx), List.map_id']
  | obj fields ih =>
    rw [isPlain_obj] at h
    have hmap : fields.map (fun m => (m.1, m.2.finite)) = fields.map id :=
      List.map_congr_left fun m hm => by rw [ih m hm (h m hm)]; rfl
    rw [finite, finiteFields_eq_map, hmap, List.map_id]

end Json

end WorkflowLab
