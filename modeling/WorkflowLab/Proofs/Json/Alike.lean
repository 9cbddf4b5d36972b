import WorkflowLab.Json.Printer
import WorkflowLab.Proofs.Json.Parts

/-!
# Values that differ in the order of keys

- `Json.Alike`: values that differ only in the order of the keys of their objects, at any depth;
- `alike_sortKeys`: sorting the keys of a value makes one that is alike;
- `Alike.sortKeys_eq`: **values that are alike are the same once their keys are sorted**;
- `Alike.every`, `Alike.depth_eq`, `Alike.truthy_eq`: what values that are alike share.
-/

namespace WorkflowLab

namespace Fields

/-- A look-up in members whose values were changed finds the changed value. -/
theorem get?_map_values (f : Json → Json) (fields : Fields) (key : String) :
    Fields.get? (fields.map fun m => (m.1, f m.2)) key = (fields.get? key).map f := by
  induction fields with
  | nil => rfl
  | cons m rest ih =>
    rw [List.map_cons, get?_cons, get?_cons, ih]
    split <;> rfl

theorem keys_map_values (f : Json → Json) (fields : Fields) :
    Fields.keys (fields.map fun m => (m.1, f m.2)) = fields.keys := by
  rw [keys, List.map_map]
  rfl

end Fields

namespace Json

/-- **Values that differ only in the order of keys**: lists are alike item by item, and objects have the same keys, with
values that are alike. -/
inductive Alike : Json → Json → Prop
  | null : Alike .null .null
  | bool (b : Bool) : Alike (.bool b) (.bool b)
  | num (n : Number) : Alike (.num n) (.num n)
  | str (s : String) : Alike (.str s) (.str s)
  | arr {items others : List Json} (hlength : items.length = others.length)
    (hitems : ∀ (i : Nat) x y, items[i]? = some x → others[i]? = some y → Alike x y) : Alike (.arr items) (.arr others)
  | obj {fields others : Fields} (hkeys : fields.keys.Perm others.keys)
    (hvalues : ∀ key v w, fields.get? key = some v → others.get? key = some w → Alike v w) :
    Alike (.obj fields) (.obj others)

theorem Alike.refl (v : Json) : Alike v v := by
  induction v using Json.induction with
  | null => exact .null
  | bool b => exact .bool b
  | num n => exact .num n
  | str s => exact .str s
  | arr items ih =>
    refine .arr rfl fun i x y hx hy => ?_
    obtain rfl := Option.some.inj (hx.symm.trans hy)
    exact ih x (List.mem_of_getElem? hx)
  | obj fields ih =>
    refine .obj (.refl _) fun key v w hv hw => ?_
    obtain rfl := Option.some.inj (hv.symm.trans hw)
    exact ih _ (Fields.mem_of_get? hv)

theorem Alike.symm {v w : Json} (h : Alike v w) : Alike w v := by
  induction h with
  | null | bool | num | str => exact .refl _
  | arr hlength _ ih => exact .arr hlength.symm fun i x y hx hy => ih i y x hy hx
  | obj hkeys _ ih => exact .obj hkeys.symm fun key v w hv hw => ih key w v hw hv

/-- A key has values that are alike in objects that are alike, or none in both. -/
theorem Alike.get? {fields others : Fields} (h : Alike (.obj fields) (.obj others)) (key : String) :
    (fields.get? key = none ∧ others.get? key = none) ∨
      ∃ v w, fields.get? key = some v ∧ others.get? key = some w ∧ Alike v w := by
  cases h with
  | obj hkeys hvalues =>
    by_cases hmem : key ∈ fields.keys
    · obtain ⟨v, hv⟩ := Fields.mem_keys_iff.mp hmem
      obtain ⟨w, hw⟩ := Fields.mem_keys_iff.mp (hkeys.mem_iff.mp hmem)
      exact .inr ⟨v, w, hv, hw, hvalues key v w hv hw⟩
    · exact .inl ⟨Fields.get?_eq_none_iff.mpr hmem, Fields.get?_eq_none_iff.mpr (mt hkeys.mem_iff.mpr hmem)⟩

/-! ## What is shared -/

/-- Values that are alike count as something together. -/
theorem Alike.truthy_eq {v w : Json} (h : Alike v w) : v.truthy = w.truthy := by
  cases h with
  | null | bool | num | str => rfl
  | @arr items others hlength _ =>
    cases items <;> cases others <;> first | rfl | cases hlength
  | @obj fields others hkeys _ =>
    have hlength := hkeys.length_eq
    cases fields <;> cases others <;> first | rfl | cases hlength

/-- A test that looks at nothing in lists, and at nothing in objects but whether keys are repeated. -/
structure IsKeyTest (p : Json → Bool) : Prop where
  arr : ∀ items, p (.arr items) = true
  obj : ∀ fields, p (.obj fields) = hasDistinctKeys (.obj fields)

theorem isKeyTest_hasDistinctKeys : IsKeyTest hasDistinctKeys := ⟨fun _ => rfl, fun _ => rfl⟩

/-- An object passes such a test with all its values if no key is repeated. -/
theorem IsKeyTest.every_obj {p : Json → Bool} (hp : IsKeyTest p) {fields : Fields} :
    (Json.obj fields).every p = true ↔ (Fields.keys fields).Nodup ∧ ∀ m ∈ fields, m.2.every p = true := by
  rw [Json.every_obj, hp.obj, hasDistinctKeys, decide_eq_true_eq]

theorem IsKeyTest.every_nil {p : Json → Bool} (hp : IsKeyTest p) : (Json.obj []).every p = true :=
  hp.every_obj.mpr ⟨List.nodup_nil, List.forall_mem_nil _⟩

/-- **Values that are alike pass such a test together.** -/
theorem Alike.every {p : Json → Bool} (hp : IsKeyTest p) {v w : Json} (h : Alike v w) (hv : v.every p = true) :
    w.every p = true := by
  induction h with
  | null | bool | num | str => exact hv
  | @arr items others hlength _ ih =>
    rw [every_arr] at hv ⊢
    refine ⟨hp.arr others, fun y hy => ?_⟩
    obtain ⟨i, hi, rfl⟩ := List.mem_iff_getElem.mp hy
    have hi' : i < items.length := hlength ▸ hi
    exact ih i _ _ (List.getElem?_eq_getElem hi') (List.getElem?_eq_getElem hi) (hv.2 _ (List.getElem_mem hi'))
  | @obj fields others hkeys _ ih =>
    rw [hp.every_obj] at hv ⊢
    have hnodup := hkeys.nodup_iff.mp hv.1
    refine ⟨hnodup, fun m hm => ?_⟩
    have hkey : m.1 ∈ fields.keys := hkeys.mem_iff.mpr (List.mem_map_of_mem hm)
    obtain ⟨u, hu⟩ := Fields.mem_keys_iff.mp hkey
    exact ih m.1 u m.2 hu (Fields.get?_of_mem hnodup hm) (hv.2 _ (Fields.mem_of_get? hu))

/-- Values that are alike have no repeated keys together. -/
theorem Alike.isProper {v w : Json} (h : Alike v w) (hv : v.isProper = true) : w.isProper = true :=
  h.every isKeyTest_hasDistinctKeys hv

/-- Values that are alike stay so when doubles that are not finite are replaced. -/
theorem Alike.finite {v w : Json} (h : Alike v w) : Alike v.finite w.finite := by
  induction h with
  | null | bool | num | str => exact .refl _
  | @arr items others hlength _ ih =>
    rw [Json.finite, Json.finite, finiteItems_eq_map, finiteItems_eq_map]
    refine .arr (by rw [List.length_map, List.length_map, hlength]) fun i x y hx hy => ?_
    rw [List.getElem?_map, Option.map_eq_some_iff] at hx hy
    obtain ⟨x, hx, rfl⟩ := hx
    obtain ⟨y, hy, rfl⟩ := hy
    exact ih i x y hx hy
  | @obj fields others hkeys _ ih =>
    rw [Json.finite, Json.finite, finiteFields_eq_map, finiteFields_eq_map]
    refine .obj (by rwa [Fields.keys_map_values, Fields.keys_map_values]) fun key v w hv hw => ?_
    rw [Fields.get?_map_values, Option.map_eq_some_iff] at hv hw
    obtain ⟨v, hv, rfl⟩ := hv
    obtain ⟨w, hw, rfl⟩ := hw
    exact ih key v w hv hw

/-- Replacing doubles that are not finite keeps keys distinct. -/
theorem isProper_finite {v : Json} (h : v.isProper = true) : v.finite.isProper = true := by
  induction v using Json.induction with
  | null | bool | str => rfl
  | num n =>
    rw [finite]
    split <;> rfl
  | arr items ih =>
    rw [isProper_arr] at h
    rw [finite, finiteItems_eq_map, isProper_arr]
    intro y hy
    obtain ⟨x, hx, rfl⟩ := List.mem_map.mp hy
    exact ih x hx (h x hx)
  | obj fields ih =>
    rw [isProper_obj] at h
    rw [finite, finiteFields_eq_map, isProper_obj, Fields.keys_map_values]
    refine ⟨h.1, fun m hm => ?_⟩
    obtain ⟨n, hn, rfl⟩ := List.mem_map.mp hm
    exact ih n hn (h.2 n hn)

/-! ## Sorted keys -/

theorem sortItems_eq_map (items : List Json) : sortItems items = items.map sortKeys := by
  induction items with
  | nil => rfl
  | cons x xs ih => rw [sortItems, ih, List.map_cons]

theorem insertSorted_perm (m : String × Json) (fields : Fields) : (insertSorted m fields).Perm (m :: fields) := by
  induction fields with
  | nil => exact .refl _
  | cons n rest ih =>
    rw [insertSorted]
    split
    · exact .refl _
    · exact (ih.cons n).trans (.swap m n rest)

/-- Sorting neither adds nor drops members. -/
theorem sortFields_perm (fields : Fields) : (sortFields fields).Perm (fields.map fun m => (m.1, m.2.sortKeys)) := by
  induction fields with
  | nil => exact .refl _
  | cons m rest ih => exact (insertSorted_perm _ _).trans (ih.cons _)

theorem keys_sortFields_perm (fields : Fields) : (Fields.keys (sortFields fields)).Perm fields.keys := by
  have hkeys := (sortFields_perm fields).map (·.1)
  rwa [List.map_map] at hkeys

/-- A member put in its place keeps the keys in order. -/
theorem pairwise_insertSorted (m : String × Json) {fields : Fields} (h : fields.Pairwise fun a b => a.1 ≤ b.1) :
    (insertSorted m fields).Pairwise fun a b => a.1 ≤ b.1 := by
  induction fields with
  | nil => exact List.pairwise_singleton _ _
  | cons n rest ih =>
    obtain ⟨hn, hrest⟩ := List.pairwise_cons.mp h
    rw [insertSorted]
    split
    · next hlt =>
      have hle : m.1 ≤ n.1 := String.not_lt.mp (String.lt_asymm hlt)
      refine List.pairwise_cons.mpr ⟨fun a ha => ?_, h⟩
      rcases List.mem_cons.mp ha with rfl | ha
      · exact hle
      · exact String.le_trans hle (hn a ha)
    · next hge =>
      refine List.pairwise_cons.mpr ⟨fun a ha => ?_, ih hrest⟩
      rcases List.mem_cons.mp ((insertSorted_perm m rest).mem_iff.mp ha) with rfl | ha
      · exact String.not_lt.mp hge
      · exact hn a ha

/-- The keys of a sorted object are in order. -/
theorem pairwise_sortFields (fields : Fields) : (sortFields fields).Pairwise fun a b => a.1 ≤ b.1 := by
  induction fields with
  | nil => exact .nil
  | cons m rest ih => exact pairwise_insertSorted _ ih

/-- A look-up finds the same after sorting, with its keys sorted. -/
theorem get?_sortFields {fields : Fields} (h : fields.keys.Nodup) (key : String) :
    Fields.get? (sortFields fields) key = (fields.get? key).map sortKeys := by
  have hnodup : (Fields.keys (sortFields fields)).Nodup := (keys_sortFields_perm fields).nodup_iff.mpr h
  rw [Fields.get?_eq_of_perm hnodup (sortFields_perm fields), Fields.get?_map_values]

/-- **Sorting the keys of a value makes one that is alike.** -/
theorem alike_sortKeys {v : Json} (h : v.isProper = true) : Alike v v.sortKeys := by
  induction v using Json.induction with
  | null | bool | num | str => exact .refl _
  | arr items ih =>
    rw [isProper_arr] at h
    rw [sortKeys, sortItems_eq_map]
    refine .arr (List.length_map _).symm fun i x y hx hy => ?_
    rw [List.getElem?_map, hx] at hy
    obtain rfl := Option.some.inj hy
    have hmem := List.mem_of_getElem? hx
    exact ih x hmem (h x hmem)
  | obj fields ih =>
    rw [isProper_obj] at h
    refine .obj (keys_sortFields_perm fields).symm fun key v w hv hw => ?_
    rw [get?_sortFields h.1, hv] at hw
    obtain rfl := Option.some.inj hw
    have hmem := Fields.mem_of_get? hv
    exact ih _ hmem (h.2 _ hmem)

/-- **Values that are alike are the same once their keys are sorted.** -/
theorem Alike.sortKeys_eq {v w : Json} (h : Alike v w) (hv : v.isProper = true) : v.sortKeys = w.sortKeys := by
  have hw := h.isProper hv
  induction h with
  | null | bool | num | str => rfl
  | @arr items others hlength _ ih =>
    rw [isProper_arr] at hv hw
    rw [sortKeys, sortKeys, sortItems_eq_map, sortItems_eq_map]
    congr 1
    refine List.ext_getElem (by rw [List.length_map, List.length_map, hlength]) fun i hi hi' => ?_
    rw [List.length_map] at hi hi'
    rw [List.getElem_map, List.getElem_map]
    exact ih i _ _ (List.getElem?_eq_getElem hi) (List.getElem?_eq_getElem hi') (hv _ (List.getElem_mem hi))
      (hw _ (List.getElem_mem hi'))
  | @obj fields others hkeys hvalues ih =>
    rw [isProper_obj] at hv hw
    rw [sortKeys, sortKeys]
    congr 1
    refine Fields.ext_of_keys ((keys_sortFields_perm fields).nodup_iff.mpr hv.1) ?_ fun key => ?_
    · have hperm := (keys_sortFields_perm fields).trans (hkeys.trans (keys_sortFields_perm others).symm)
      exact hperm.eq_of_pairwise (fun _ _ _ _ => String.le_antisymm)
        (List.pairwise_map.mpr (pairwise_sortFields fields)) (List.pairwise_map.mpr (pairwise_sortFields others))
    · rw [get?_sortFields hv.1, get?_sortFields hw.1]
      rcases (Alike.obj hkeys hvalues).get? key with ⟨hnone, hnone'⟩ | ⟨u, u', hu, hu', -⟩
      · rw [hnone, hnone']
      · rw [hu, hu', Option.map_some, Option.map_some,
          ih key u u' hu hu' (hv.2 _ (Fields.mem_of_get? hu)) (hw.2 _ (Fields.mem_of_get? hu'))]

/-- The levels of items are bounded together. -/
theorem depthItems_le_iff {items : List Json} {n : Nat} : depthItems items ≤ n ↔ ∀ x ∈ items, x.depth ≤ n := by
  induction items with
  | nil => simp [depthItems]
  | cons x xs ih => rw [depthItems, Nat.max_le, ih, List.forall_mem_cons]

/-- The levels of members are bounded together. -/
theorem depthFields_le_iff {fields : Fields} {n : Nat} : depthFields fields ≤ n ↔ ∀ m ∈ fields, m.2.depth ≤ n := by
  induction fields with
  | nil => simp [depthFields]
  | cons m rest ih => rw [depthFields, Nat.max_le, ih, List.forall_mem_cons]

/-- Sorting keeps the levels. -/
theorem depth_sortKeys (v : Json) : v.sortKeys.depth = v.depth := by
  induction v using Json.induction with
  | null | bool | num | str => rfl
  | arr items ih =>
    rw [sortKeys, sortItems_eq_map, depth, depth]
    congr 1
    refine Nat.le_antisymm (depthItems_le_iff.mpr fun y hy => ?_) (depthItems_le_iff.mpr fun x hx => ?_)
    · obtain ⟨x, hx, rfl⟩ := List.mem_map.mp hy
      rw [ih x hx]
      exact depthItems_le_iff.mp (Nat.le_refl _) x hx
    · rw [← ih x hx]
      exact depthItems_le_iff.mp (Nat.le_refl _) _ (List.mem_map_of_mem hx)
  | obj fields ih =>
    have hmem {m : String × Json} : m ∈ sortFields fields ↔ m ∈ fields.map fun m => (m.1, m.2.sortKeys) :=
      (sortFields_perm fields).mem_iff
    rw [sortKeys, depth, depth]
    congr 1
    refine Nat.le_antisymm (depthFields_le_iff.mpr fun m hm => ?_) (depthFields_le_iff.mpr fun m hm => ?_)
    · obtain ⟨n, hn, rfl⟩ := List.mem_map.mp (hmem.mp hm)
      rw [ih n hn]
      exact depthFields_le_iff.mp (Nat.le_refl _) n hn
    · rw [← ih m hm]
      have hsorted : (m.1, m.2.sortKeys) ∈ sortFields fields := hmem.mpr (List.mem_map.mpr ⟨m, hm, rfl⟩)
      exact depthFields_le_iff.mp (Nat.le_refl _) _ hsorted

/-- Values that are alike have the same levels. -/
theorem Alike.depth_eq {v w : Json} (h : Alike v w) (hv : v.isProper = true) : v.depth = w.depth := by
  rw [← depth_sortKeys v, h.sortKeys_eq hv, depth_sortKeys]

/-- Sorting keeps numbers as they are. -/
theorem isPlain_sortKeys {v : Json} (h : v.isPlain = true) : v.sortKeys.isPlain = true := by
  induction v using Json.induction with
  | null | bool | num | str => exact h
  | arr items ih =>
    rw [isPlain_arr] at h
    rw [sortKeys, sortItems_eq_map, isPlain_arr]
    intro y hy
    obtain ⟨x, hx, rfl⟩ := List.mem_map.mp hy
    exact ih x hx (h x hx)
  | obj fields ih =>
    rw [isPlain_obj] at h
    rw [sortKeys, isPlain_obj]
    intro m hm
    obtain ⟨n, hn, rfl⟩ := List.mem_map.mp ((sortFields_perm fields).mem_iff.mp hm)
    exact ih n hn (h n hn)

end Json

end WorkflowLab
