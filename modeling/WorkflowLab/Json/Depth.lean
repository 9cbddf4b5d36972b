import WorkflowLab.Json.Basic

/-!
# Depth of values

- `Json.depth`: the levels of a value;
- `depth_lt_of_mem`, `depth_lt_of_mem_fields`: an item or a member has fewer levels than the value that holds it.
-/

namespace WorkflowLab

namespace Json

mutual

/-- The levels of a value: lists and objects add one to the levels of what they hold. -/
def depth : Json → Nat
  | .arr items => depthItems items + 1
  | .obj fields => depthFields fields + 1
  | _ => 1

/-- The most levels of an item. -/
def depthItems : List Json → Nat
  | [] => 0
  | x :: xs => max (depth x) (depthItems xs)

/-- The most levels of a member. -/
def depthFields : List (String × Json) → Nat
  | [] => 0
  | (_, v) :: rest => max (depth v) (depthFields rest)

end

/-- An item has fewer levels than its list. -/
theorem depth_lt_of_mem {items : List Json} {x : Json} (h : x ∈ items) : x.depth < (arr items).depth := by
  simp only [depth]
  induction items with
  | nil => cases h
  | cons y ys ih =>
    simp only [depthItems]
    rcases List.mem_cons.1 h with rfl | h
    · omega
    · have := ih h
      omega

/-- A member has fewer levels than its object. -/
theorem depth_lt_of_mem_fields {fields : Fields} {m : String × Json} (h : m ∈ fields) :
    m.2.depth < (obj fields).depth := by
  simp only [depth]
  induction fields with
  | nil => cases h
  | cons n rest ih =>
    obtain ⟨k, v⟩ := n
    simp only [depthFields]
    rcases List.mem_cons.1 h with rfl | h
    · simp only
      omega
    · have := ih h
      omega

end Json

end WorkflowLab
