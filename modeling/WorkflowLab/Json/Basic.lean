import WorkflowLab.Number.Basic

/-!
# JSON values

- `Json`: the values that workflows pass on; an object keeps the order in which its keys first appeared;
- `Fields`: the members of an object, with `get?`, `set` (which keeps the place of a key), `merge` and `erase`;
- `Json.truthy`: whether a value counts as something: not null, false, zero or empty.
-/

namespace WorkflowLab

/-- A JSON value; integers and doubles are different numbers. -/
inductive Json where
  | null
  | bool (b : Bool)
  | num (n : Number)
  | str (s : String)
  | arr (items : List Json)
  | obj (fields : List (String × Json))
deriving Inhabited

/-- The members of an object, in order. -/
abbrev Fields := List (String × Json)

namespace Fields

/-- The value of a key, if the key is there. -/
def get? (fields : Fields) (key : String) : Option Json := List.lookup key fields

/-- Whether the key is there. -/
def has (fields : Fields) (key : String) : Bool := fields.any (·.1 == key)

/-- Gives a key a value: in its place if it is there, at the end otherwise. -/
def set (fields : Fields) (key : String) (value : Json) : Fields :=
  match fields with
  | [] => [(key, value)]
  | (k, v) :: rest => if k == key then (k, value) :: rest else (k, v) :: set rest key value

/-- Sets the members of `more`, one after the other. -/
def merge (fields more : Fields) : Fields := more.foldl (fun acc m => acc.set m.1 m.2) fields

/-- The members with other keys. -/
def erase (fields : Fields) (key : String) : Fields := fields.filter (·.1 != key)

/-- The keys, in order. -/
def keys (fields : Fields) : List String := fields.map (·.1)

@[simp] theorem get?_nil (key : String) : get? [] key = none := rfl

theorem get?_cons (k : String) (v : Json) (rest : Fields) (key : String) :
    get? ((k, v) :: rest) key = if key = k then some v else get? rest key := by
  unfold get?
  by_cases h : key = k
  · simp [h]
  · have hb : (key == k) = false := by simpa using h
    simp [List.lookup_cons, hb, h]

theorem set_cons (k : String) (v : Json) (rest : Fields) (key : String) (value : Json) :
    set ((k, v) :: rest) key value = if k = key then (k, value) :: rest else (k, v) :: set rest key value := by
  by_cases h : k = key <;> simp [set, h]

theorem get?_set_self (fields : Fields) (key : String) (value : Json) :
    (fields.set key value).get? key = some value := by
  induction fields with
  | nil => simp [set, get?_cons]
  | cons m rest ih =>
    obtain ⟨k, v⟩ := m
    rw [set_cons]
    split
    · next h => simp [get?_cons, h]
    · next h => rw [get?_cons, if_neg (Ne.symm h), ih]

/-- Other keys keep their values. -/
theorem get?_set_of_ne {key other : String} (h : other ≠ key) (fields : Fields) (value : Json) :
    (fields.set key value).get? other = fields.get? other := by
  induction fields with
  | nil => simp [set, get?_cons, h]
  | cons m rest ih =>
    obtain ⟨k, v⟩ := m
    rw [set_cons]
    split
    · next hk => rw [get?_cons, get?_cons, hk, if_neg h, if_neg h]
    · rw [get?_cons, get?_cons, ih]

/-- A new key comes last. -/
theorem keys_set_of_not_mem {fields : Fields} {key : String} (h : key ∉ fields.keys) (value : Json) :
    (fields.set key value).keys = fields.keys ++ [key] := by
  induction fields with
  | nil => rfl
  | cons m rest ih =>
    obtain ⟨k, v⟩ := m
    simp only [keys, List.map_cons, List.mem_cons, not_or] at h
    rw [set_cons, if_neg (Ne.symm h.1)]
    simpa [keys] using ih h.2

/-- The keys are those with a value. -/
theorem mem_keys_iff {fields : Fields} {key : String} : key ∈ fields.keys ↔ ∃ value, fields.get? key = some value := by
  induction fields with
  | nil => simp [keys]
  | cons m rest ih =>
    obtain ⟨k, v⟩ := m
    rw [get?_cons]
    by_cases h : key = k
    · simp [keys, h]
    · simpa [keys, h] using ih

end Fields

namespace Json

/-- An integer. -/
@[match_pattern] abbrev int (n : Int) : Json := .num (.int n)

/-- A double. -/
@[match_pattern] abbrev float (x : Float) : Json := .num (.float x)

/-- An integer that counts something. -/
abbrev nat (n : Nat) : Json := .int n

/-- A value that may be absent, written as null. -/
def ofOption : Option Json → Json
  | some v => v
  | none => .null

/-- A text that may be absent, written as null. -/
def ofString? (s : Option String) : Json := ofOption (s.map .str)

/-- A list of texts. -/
def ofStrings (texts : List String) : Json := .arr (texts.map .str)

/-- The value of a key of an object; null when the key is missing or the value is no object. -/
def get (v : Json) (key : String) : Json :=
  match v with
  | .obj fields => (Fields.get? fields key).getD .null
  | _ => .null

/-- Whether the value is null. -/
def isNull : Json → Bool
  | .null => true
  | _ => false

/-- Whether the value is an object. -/
def isObject : Json → Bool
  | .obj _ => true
  | _ => false

/-- Whether the value counts as something. -/
def truthy : Json → Bool
  | .null => false
  | .bool b => b
  | .num n => !n.isZero
  | .str s => s != ""
  | .arr items => !items.isEmpty
  | .obj fields => !fields.isEmpty

/-- The value, or another one when it counts as nothing. -/
def orElse (v other : Json) : Json := if v.truthy then v else other

end Json

end WorkflowLab
