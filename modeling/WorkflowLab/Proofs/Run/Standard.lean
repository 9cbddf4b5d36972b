import WorkflowLab.Proofs.Run.Reported

/-!
# The executors of the library at work

- `Registry.standardFor`: the executor that the library has for a node: that of the service of its variant, else that of
  its kind; `resolve?_standard` says that the standard registry finds it;
- `Node.announced`: the nodes whose log shows that their work has begun; `phases_standardFor`;
- `handle_standard`: a node that the library runs ends as its executor ends.
-/

namespace WorkflowLab

/-- Kinds have different names. -/
theorem Kind.name_injective {a b : Kind} (h : a.name = b.name) : a = b := by
  cases a <;> cases b <;> simp [Kind.name] at h ⊢

/-- A service belongs to the variant under which it is found. -/
theorem Service.variant_of_ofVariant? {v : Variant} {s : Service} (h : Service.ofVariant? v = some s) :
    s.variant = v := by
  simpa using List.find?_some h

/-- Every service is found under its variant. -/
theorem Service.ofVariant?_variant (s : Service) : Service.ofVariant? s.variant = some s := by
  cases s <;> decide

/-- The nodes of a service are those of its kind with its name. -/
theorem Node.ofVariant?_eq_some_iff (node : Node) (s : Service) :
    Service.ofVariant? node.variant = some s ↔ node.kind = s.kind ∧ node.service = s.name := by
  constructor
  · intro h
    obtain ⟨hkind, hname⟩ := Prod.mk.inj (Service.variant_of_ofVariant? h)
    exact ⟨(Kind.name_injective hkind).symm, hname.symm⟩
  · rintro ⟨hkind, hname⟩
    have hvariant : node.variant = s.variant := by rw [Node.variant, Service.variant, hkind, hname]
    rw [hvariant, s.ofVariant?_variant]

/-- The services that tell the log when their work begins. -/
def Service.announced : List Service := [.openai, .http, .code]

/-- The node's work begins with an entry of the log: it is an action of one of these services. -/
def Node.announced (node : Node) : Bool :=
  node.kind == .action && (Service.announced.map Service.name).contains node.service

/-- The events before the end of a node's work. -/
def Node.opening (node : Node) : List Event := if node.announced then [.start] else []

namespace Run

namespace Registry

variable (provider : Option Provider) (fetcher : Fetcher) (setup : Setup)

/-- The executor that the library has for a node. -/
def standardFor (node : Node) : Executor :=
  match Service.ofVariant? node.variant with
  | some s => dedicatedTo (setup.promptService provider) fetcher setup.demoUrl s
  | none => fallbackOf node.kind

/-- A value that is found under the key of the first item that has this key. -/
theorem lookup_map_eq_find? {α β κ : Type} [BEq κ] [LawfulBEq κ] (key : α → κ) (value : α → β) (items : List α)
    (k : κ) : (items.map fun a => (key a, value a)).lookup k = (items.find? fun a => key a == k).map value := by
  induction items with
  | nil => rfl
  | cons a rest ih =>
    rw [List.map_cons, List.lookup_cons, List.find?_cons, BEq.comm]
    cases key a == k with
    | true => rfl
    | false => exact ih

/-- The executor that the standard registry dedicates to a variant is that of its service. -/
theorem lookup_dedicated (variant : Variant) :
    (standard provider fetcher setup).dedicated.lookup variant =
      (Service.ofVariant? variant).map (dedicatedTo (setup.promptService provider) fetcher setup.demoUrl) :=
  lookup_map_eq_find? _ _ _ _

/-- The nodes with a dedicated executor are those of the services. -/
theorem hasDedicated_standard (node : Node) :
    (standard provider fetcher setup).hasDedicated node = (Service.ofVariant? node.variant).isSome := by
  rw [hasDedicated, lookup_dedicated, Option.isSome_map]

/-- The standard registry finds the executor that the library has. -/
theorem resolve?_standard (node : Node) :
    (standard provider fetcher setup).resolve? node = some (standardFor provider fetcher setup node) := by
  have hfallback : (standard provider fetcher setup).fallbacks.lookup node.kind = some (fallbackOf node.kind) := by
    cases node.kind <;> rfl
  rw [resolve?, lookup_dedicated, hfallback, standardFor]
  cases Service.ofVariant? node.variant <;> rfl

/-- All of these executors are of the library. -/
theorem standardFor_library (node : Node) (name : String) (act : List Task → Turn) :
    standardFor provider fetcher setup node ≠ .guest name act := by
  unfold standardFor
  cases Service.ofVariant? node.variant with
  | some s => cases s <;> nofun
  | none => cases node.kind <;> nofun

/-- So they write about the nodes that they run. -/
theorem writesOwn_standard : (standard provider fetcher setup).WritesOwn := by
  intro node e hresolve
  rw [resolve?_standard] at hresolve
  cases hresolve
  exact Executor.writesOwn_of_library (standardFor_library provider fetcher setup node)

/-- Successors make no difference to them. -/
theorem ignoresWiring_standard : (standard provider fetcher setup).IgnoresWiring := by
  intro node e hresolve
  rw [resolve?_standard] at hresolve
  cases hresolve
  exact Executor.ignoresWiring_of_library (standardFor_library provider fetcher setup node)

/-- They log the opening of the nodes that they work for. -/
theorem phases_standardFor (node : Node) : (standardFor provider fetcher setup node).phases = node.opening := by
  unfold standardFor
  cases hservice : Service.ofVariant? node.variant with
  | some s =>
    obtain ⟨hkind, hname⟩ := (node.ofVariant?_eq_some_iff s).mp hservice
    cases s <;> simp [Node.opening, Node.announced, hkind, hname, Executor.phases, dedicatedTo, Service.kind,
      Service.name, Service.announced]
  | none =>
    have hquiet : node.announced = false := by
      rw [Bool.eq_false_iff]
      intro hannounced
      simp only [Node.announced, Bool.and_eq_true, beq_iff_eq, List.contains_iff_mem, List.mem_map] at hannounced
      obtain ⟨hkind, s, hmem, hname⟩ := hannounced
      have hs : s.kind = .action := by
        simp only [Service.announced, List.mem_cons, List.not_mem_nil, or_false] at hmem
        rcases hmem with rfl | rfl | rfl <;> rfl
      rw [(node.ofVariant?_eq_some_iff s).mpr ⟨hkind.trans hs.symm, hname.symm⟩] at hservice
      cases hservice
    simp only [Node.opening, hquiet, Bool.false_eq_true, if_false]
    cases node.kind <;> rfl

end Registry

/-- The message of a failed run in which a node had a fault that it reported itself. -/
def NodeFault.message : NodeFault → String
  | .reported message => message
  | .raised f => f.text

/-- **A node that the library runs ends as its executor ends**: none of these lets a failure pass. -/
theorem Runner.handle_standard (provider : Option Provider) (fetcher : Fetcher) (setup : Setup) (node : Node)
    (input : Json) (w : World) :
    (Runner.standard provider fetcher setup).handle node input w =
      (((Registry.standardFor provider fetcher setup node).run (Task.mk node input) (entered node w)).1.mapError
          NodeFault.message,
        ((Registry.standardFor provider fetcher setup node).run (Task.mk node input) (entered node w)).2) := by
  have hexecutor : (Runner.standard provider fetcher setup).registry.resolve? node =
      some (Registry.standardFor provider fetcher setup node) :=
    Registry.resolve?_standard provider fetcher setup node
  obtain ⟨added, -, hblock⟩ :=
    run_block (Registry.standardFor_library provider fetcher setup node) (Task.mk node input) (entered node w)
  rw [handle_of_some hexecutor]
  generalize (Registry.standardFor provider fetcher setup node).run (Task.mk node input) (entered node w) = ended
    at hblock
  obtain ⟨(message | f) | output, w'⟩ := ended
  · rfl
  · cases hblock
  · rfl

end Run

end WorkflowLab
