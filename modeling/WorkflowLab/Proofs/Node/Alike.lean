import WorkflowLab.Node.Basic
import WorkflowLab.Proofs.Intake.Agreement
import WorkflowLab.Proofs.Verification.Submissions

/-!
# Nodes and their documents

- `Node.Alike`: nodes that differ only in the order of keys;
- `Node.Passes`, `Node.IsProper`: nodes whose values pass a test, and nodes as documents give them;
- `agrees_read`: **documents that differ only in the order of keys give such nodes**, or the same issues;
- `read_listing`: **the document of a node is read as this node**;
- `Passes.listing`, `Alike.listing`: the document of a node passes what it passes, and such nodes have documents that are
  alike.
-/

namespace WorkflowLab

open Json (IsKeyTest Matches hasDistinctKeys)

namespace Fields

/-- Members with new keys are set behind the others. -/
theorem merge_eq_append {fields more : Fields} (hmore : more.keys.Nodup)
    (hfresh : ∀ key ∈ fields.keys, key ∉ more.keys) : fields.merge more = fields ++ more := by
  induction more generalizing fields with
  | nil => exact (List.append_nil fields).symm
  | cons m rest ih =>
    obtain ⟨k, v⟩ := m
    obtain ⟨hk, hrest⟩ := List.nodup_cons.mp hmore
    have hnew : k ∉ fields.keys := fun hmem => hfresh k hmem List.mem_cons_self
    have hset : fields.merge ((k, v) :: rest) = Fields.merge (fields ++ [(k, v)]) rest := by
      rw [← set_of_not_mem hnew]
      rfl
    rw [hset, ih hrest fun key hkey => ?_, List.append_assoc]
    · rfl
    · rw [keys, List.map_append, List.mem_append] at hkey
      rcases hkey with hkey | hkey
      · exact fun hmem => hfresh key hkey (List.mem_cons_of_mem _ hmem)
      · rw [List.mem_singleton.mp hkey]
        exact hk

end Fields

namespace Json

/-- A member with the same key and a value that is alike, in front of members that are alike. -/
theorem Alike.cons {k : String} {v w : Json} {fields others : Fields} (hvalue : Alike v w)
    (h : Alike (.obj fields) (.obj others)) : Alike (.obj ((k, v) :: fields)) (.obj ((k, w) :: others)) := by
  cases h with
  | obj hkeys hvalues =>
    refine .obj (hkeys.cons k) fun key a b ha hb => ?_
    rw [Fields.get?_cons] at ha hb
    split at ha
    · next hk =>
      rw [if_pos hk] at hb
      cases ha
      cases hb
      exact hvalue
    · next hk =>
      rw [if_neg hk] at hb
      exact hvalues key a b ha hb

/-- Members that are alike, behind others that are alike. -/
theorem Alike.append {fields others more extra : Fields} (h : Alike (.obj fields) (.obj others))
    (hmore : Alike (.obj more) (.obj extra)) : Alike (.obj (fields ++ more)) (.obj (others ++ extra)) := by
  refine .obj ?_ fun key v w hv hw => ?_
  · cases h with
    | obj hkeys _ =>
      cases hmore with
      | obj hkeys' _ =>
        rw [Fields.keys, Fields.keys, List.map_append, List.map_append]
        exact hkeys.append hkeys'
  · rw [Fields.get?_append] at hv hw
    rcases h.get? key with ⟨hnone, hnone'⟩ | ⟨a, b, ha, hb, hab⟩
    · rw [hnone, Option.none_or] at hv
      rw [hnone', Option.none_or] at hw
      rcases hmore.get? key with ⟨hgone, -⟩ | ⟨a, b, ha, hb, hab⟩
      · rw [hgone] at hv
        cases hv
      · rw [ha] at hv
        rw [hb] at hw
        cases hv
        cases hw
        exact hab
    · rw [ha] at hv
      rw [hb] at hw
      cases hv
      cases hw
      exact hab

end Json

namespace Node

open Intake

/-- The place of a node on the canvas as a document. -/
def place (n : Node) : Json := .ofOption (n.position.map .obj)

/-- **Nodes that differ only in the order of keys**: of their settings, of their places, of members that nodes do not
know, and of what these hold. -/
structure Alike (a b : Node) : Prop where
  id : a.id = b.id
  kind : a.kind = b.kind
  service : a.service = b.service
  config : Json.Alike (.obj a.config) (.obj b.config)
  successors : a.successors = b.successors
  place : Json.Alike a.place b.place
  extra : Json.Alike (.obj a.extra) (.obj b.extra)

/-- A node whose values of any form pass a test, and whose further members have names that nodes do not know. -/
structure Passes (p : Json → Bool) (n : Node) : Prop where
  config : (Json.obj n.config).every p = true
  place : n.place.every p = true
  extra : (Json.obj n.extra).every p = true
  fresh : ∀ m ∈ form, m.keptAs ∉ n.extra.keys

/-- A node as documents give it: no object in it repeats a key, and no further member has the name of one that nodes
know. -/
abbrev IsProper (n : Node) : Prop := n.Passes hasDistinctKeys

variable {p : Json → Bool}

/-! ## Reading -/

/-- Settings that count as nothing are read alike, too. -/
theorem agrees_settings (hp : IsKeyTest p) {v w : Json} (h : Matches p v w) :
    Checked.Agrees (fun a b => Matches p (.obj a) (.obj b)) (if v.truthy then map v else .good [])
      (if w.truthy then map w else .good []) := by
  rw [← h.alike.truthy_eq]
  split
  · exact agrees_map h
  · exact .good (.refl hp.every_nil)

/-- Successors are read alike. -/
theorem agrees_successors {v w : Json} (h : Matches p v w) :
    Checked.Agrees Eq (if v.truthy then list text v else .good []) (if w.truthy then list text w else .good []) := by
  rw [← h.alike.truthy_eq]
  split
  · have hlist := agrees_list agrees_text h
    rwa [List.forall₂_eq_eq_eq] at hlist
  · exact .good rfl

/-- Places are read alike. -/
theorem agrees_place {v w : Json} (h : Matches p v w) :
    Checked.Agrees (fun a b : Option Fields => Matches p (.ofOption (a.map .obj)) (.ofOption (b.map .obj)))
      (nullable map v) (nullable map w) := by
  cases h.alike with
  | null => exact .good h
  | obj => exact .good h
  | bool | num | str | arr => exact .bad _

/-- **Documents that differ only in the order of keys give nodes that do**, or the same issues. -/
theorem agrees_read (hp : IsKeyTest p) (hnull : p .null = true) {v w : Json} (h : Matches p v w) :
    Checked.Agrees (fun a b : Node => a.Alike b ∧ a.Passes p) (read v) (read w) := by
  cases h.alike with
  | null | bool | num | str | arr => exact .bad _
  | @obj fields others _ _ =>
    have hid := idMember.agrees_required agrees_text h
    have hkind := kindMember.agrees_required (agrees_choice Kind.byName) h
    have hservice : Checked.Agrees Eq (serviceMember.optional fields "" text) (serviceMember.optional others "" text) :=
      serviceMember.agrees_optional rfl agrees_text h
    have hconfig : Checked.Agrees (fun a b : Fields => Matches p (.obj a) (.obj b))
        (configMember.optional fields [] _) (configMember.optional others [] _) :=
      configMember.agrees_optional (.refl hp.every_nil) (agrees_settings hp) h
    have hsuccessors := successorsMember.agrees_optional (Eq.refl []) agrees_successors h
    have hposition : Checked.Agrees
        (fun a b : Option Fields => Matches p (.ofOption (a.map .obj)) (.ofOption (b.map .obj)))
        (positionMember.optional fields none _) (positionMember.optional others none _) :=
      positionMember.agrees_optional (.refl hnull) agrees_place h
    have hextra : Checked.Agrees (fun a b : Fields => Matches p (.obj a) (.obj b) ∧ ∀ m ∈ form, m.keptAs ∉ a.keys)
        (.good (extras form fields)) (.good (extras form others)) := by
      refine .good ⟨matches_extras hp form h, fun m hm => first_not_mem_extras hm ?_ fields⟩
      revert m hm
      decide
    refine .seq (.seq (.seq (.seq (.seq (.seq (.map ?_ hid) hkind) hservice) hconfig) hsuccessors) hposition) hextra
    rintro id _ rfl kind _ rfl service _ rfl config config' hconfig successors _ rfl position position' hposition extra
      extra' ⟨hextra, hfresh⟩
    exact ⟨⟨rfl, rfl, rfl, hconfig.alike, rfl, hposition.alike, hextra.alike⟩,
      ⟨hconfig.passes, hposition.passes, hextra.passes, hfresh⟩⟩

/-- Nodes that are read from a document that passes a test do so, too. -/
theorem passes_of_list_read (hp : IsKeyTest p) (hnull : p .null = true) {v : Json} (h : v.every p = true)
    {nodes : List Node} (hread : list read v = .good nodes) : ∀ n ∈ nodes, n.Passes p := by
  have hagrees := agrees_list (agrees_read hp hnull) (Matches.refl h)
  rw [hread] at hagrees
  obtain ⟨others, -, hrelated⟩ := hagrees.exists_good
  intro n hn
  obtain ⟨i, hi, rfl⟩ := List.mem_iff_getElem.mp hn
  exact (hrelated.get hi (hrelated.length_eq ▸ hi)).2

/-! ## Documents -/

/-- The members that nodes know, as a document has them. -/
def members (n : Node) : Fields :=
  [("id", .str n.id), ("kind", .str n.kind.name), ("service", .str n.service), ("config", .obj n.config),
    ("successors", .ofStrings n.successors), ("position", n.place)]

theorem keys_members (n : Node) : n.members.keys = form.map Member.keptAs := rfl

/-- The further members stand behind those that nodes know. -/
theorem listing_eq {n : Node} (h : n.IsProper) : n.listing = .obj (n.members ++ n.extra) := by
  have hmerge : n.listing = .obj (n.members.merge n.extra) := rfl
  rw [hmerge, Fields.merge_eq_append (Json.isProper_obj.mp h.extra).1]
  rw [keys_members, List.forall_mem_map]
  exact h.fresh

/-- A list of texts passes a test that lists and texts pass. -/
theorem every_ofStrings (harr : ∀ items, p (.arr items) = true) (hstr : ∀ s, p (.str s) = true) (texts : List String) :
    (Json.ofStrings texts).every p = true :=
  Json.every_arr.mpr ⟨harr _, List.forall_mem_map.mpr fun s _ => hstr s⟩

/-- No key is repeated among the members of a document. -/
theorem nodup_keys_listing {n : Node} (h : n.IsProper) : (Fields.keys (n.members ++ n.extra)).Nodup := by
  have hmembers : n.members.keys.Nodup := by
    rw [keys_members]
    decide
  rw [Fields.keys, List.map_append]
  refine List.nodup_append.mpr ⟨hmembers, (Json.isProper_obj.mp h.extra).1, fun key hkey other hother heq => ?_⟩
  obtain ⟨m, hm, rfl⟩ : ∃ m ∈ form, m.keptAs = key := List.mem_map.mp (keys_members n ▸ hkey)
  exact h.fresh m hm (heq ▸ hother)

/-- **The document of a node passes what the node passes.** -/
theorem Passes.listing (hp : IsKeyTest p) (hstr : ∀ s, p (.str s) = true) {n : Node} (hproper : n.IsProper)
    (h : n.Passes p) : n.listing.every p = true := by
  rw [listing_eq hproper, hp.every_obj]
  refine ⟨nodup_keys_listing hproper, List.forall_mem_append.mpr ⟨?_, (hp.every_obj.mp h.extra).2⟩⟩
  have htext (s : String) : (Json.str s).every p = true := hstr s
  simp only [members, List.forall_mem_cons]
  exact ⟨htext _, htext _, htext _, h.config, every_ofStrings hp.arr hstr _, h.place, List.forall_mem_nil _⟩

/-- The document of a node repeats no key. -/
theorem isProper_listing {n : Node} (h : n.IsProper) : n.listing.isProper = true :=
  Passes.listing Json.isKeyTest_hasDistinctKeys (fun _ => rfl) h h

/-- **Nodes that are alike pass a test together.** -/
theorem Alike.passes (hp : IsKeyTest p) {a b : Node} (h : a.Alike b) (ha : a.Passes p) : b.Passes p where
  config := h.config.every hp ha.config
  place := h.place.every hp ha.place
  extra := h.extra.every hp ha.extra
  fresh m hm := by
    have hfresh := ha.fresh m hm
    rw [← Fields.get?_eq_none_iff] at hfresh ⊢
    rcases h.extra.get? m.keptAs with ⟨-, hnone⟩ | ⟨v, _, hv, -⟩
    · exact hnone
    · rw [hfresh] at hv
      cases hv

/-- **Nodes that are alike have documents that are.** -/
theorem Alike.listing {a b : Node} (h : a.Alike b) (ha : a.IsProper) : Json.Alike a.listing b.listing := by
  rw [listing_eq ha, listing_eq (h.passes Json.isKeyTest_hasDistinctKeys ha)]
  have hsuccessors : Json.Alike (.ofStrings a.successors) (.ofStrings b.successors) := h.successors ▸ .refl _
  have hid : Json.Alike (.str a.id) (.str b.id) := h.id ▸ .refl _
  have hkind : Json.Alike (.str a.kind.name) (.str b.kind.name) := h.kind ▸ .refl _
  have hservice : Json.Alike (.str a.service) (.str b.service) := h.service ▸ .refl _
  exact .append (.cons hid (.cons hkind (.cons hservice (.cons h.config (.cons hsuccessors (.cons h.place (.refl _)))))))
    h.extra

/-- The members that nodes do not know are the further members of the node. -/
theorem extras_members {n : Node} (h : n.IsProper) : extras form (n.members ++ n.extra) = n.extra := by
  have hused : usedNames form (n.members ++ n.extra) = form.map Member.keptAs := rfl
  have hkept : n.extra.filter (fun f => !(form.map Member.keptAs).contains f.1) = n.extra := by
    refine List.filter_eq_self.mpr fun m hm => ?_
    rw [Bool.not_eq_true', List.contains_eq_mem, decide_eq_false_iff_not]
    intro hmem
    obtain ⟨member, hmember, hname⟩ := List.mem_map.mp hmem
    exact h.fresh member hmember (hname ▸ List.mem_map_of_mem hm)
  rw [extras_eq_filter, hused, List.filter_append, hkept]
  rfl

/-- Texts are read as they were. -/
theorem list_text_ofStrings (texts : List String) : list text (.ofStrings texts) = .good texts := by
  have hmap : Checked.allFrom text 0 (texts.map .str) = .good (texts.map fun s => s) :=
    Checked.allFrom_map (fun s => (rfl : text (.str s) = .good s)) texts 0
  rwa [List.map_id'] at hmap

/-- **The document of a node is read as this node.** -/
theorem read_listing {n : Node} (h : n.IsProper) : read n.listing = .good n := by
  have hparts : read (.obj (n.members ++ n.extra)) = Node.mk <$> .good n.id
      <*> (choice Kind.byName (.str n.kind.name)).under (.key "kind")
      <*> .good n.service
      <*> (if (Json.obj n.config).truthy then map (.obj n.config) else .good []).under (.key "config")
      <*> (if (Json.ofStrings n.successors).truthy then list text (.ofStrings n.successors) else .good []).under
        (.key "successors")
      <*> (nullable map n.place).under (.key "position")
      <*> .good (extras form (n.members ++ n.extra)) := rfl
  have hkind : choice Kind.byName (.str n.kind.name) = .good n.kind := by
    cases n.kind <;> rfl
  have hconfig : (if (Json.obj n.config).truthy then map (.obj n.config) else .good []) = .good n.config := by
    cases n.config <;> rfl
  have hsuccessors : (if (Json.ofStrings n.successors).truthy then list text (.ofStrings n.successors) else .good []) =
      .good n.successors := by
    rw [list_text_ofStrings]
    cases n.successors <;> rfl
  have hplace : nullable map n.place = .good n.position := by
    unfold place
    cases n.position <;> rfl
  rw [listing_eq h, hparts, hkind, hconfig, hsuccessors, hplace, extras_members h]
  rfl

end Node

end WorkflowLab
