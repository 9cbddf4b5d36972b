import WorkflowLab.Proofs.Json.Alike
import WorkflowLab.Proofs.Json.Numerals

/-!
# What can be received

A value that was read from a text repeats no key, and its integers have no more digits than can be read.

- `isReceived`: what a value that was read looks like at each of its parts;
- `readNumber_short`: an integer that is read is not too long;
- `readsReceived`: **every value that is read looks so**, along with the items of a list and the members of an object;
- `every_of_parse`: what this says of a text that is one value.
-/

namespace WorkflowLab

namespace Fields

/-- Setting a key repeats none. -/
theorem nodup_keys_set {fields : Fields} (h : fields.keys.Nodup) (key : String) (value : Json) :
    (fields.set key value).keys.Nodup := by
  induction fields with
  | nil => exact List.nodup_singleton key
  | cons m rest ih =>
    obtain ⟨k, v⟩ := m
    obtain ⟨hfresh, hrest⟩ := List.nodup_cons.mp h
    rw [set_cons]
    split
    · next hk => exact List.nodup_cons.mpr ⟨hk ▸ hfresh, hrest⟩
    · next hk =>
      refine List.nodup_cons.mpr ⟨fun hmem => ?_, ih hrest⟩
      obtain ⟨value', hvalue'⟩ := mem_keys_iff.mp hmem
      rw [get?_set_of_ne hk] at hvalue'
      exact hfresh (mem_keys_iff.mpr ⟨value', hvalue'⟩)

/-- A member of what was set is the new one or an old one. -/
theorem mem_set {fields : Fields} {key : String} {value : Json} {m : String × Json} (h : m ∈ fields.set key value) :
    m.2 = value ∨ m ∈ fields := by
  induction fields with
  | nil => exact .inl (congrArg Prod.snd (List.mem_singleton.mp h))
  | cons n rest ih =>
    obtain ⟨k, v⟩ := n
    rw [set_cons] at h
    split at h
    · rcases List.mem_cons.mp h with rfl | h
      · exact .inl rfl
      · exact .inr (List.mem_cons_of_mem _ h)
    · rcases List.mem_cons.mp h with rfl | h
      · exact .inr List.mem_cons_self
      · exact (ih h).imp_right (List.mem_cons_of_mem _)

end Fields

namespace Json

/-- The value looks as if it was read: no object with a repeated key and no integer that is too long. -/
def isReceived (v : Json) : Bool := hasDistinctKeys v && hasShortInteger v

/-- What is in a value that was read: no repeated key, and no integer that is too long. -/
theorem every_isReceived_iff {v : Json} : v.every isReceived = true ↔ v.isProper = true ∧ v.isShort = true := every_and

theorem isKeyTest_isReceived : IsKeyTest isReceived := ⟨fun _ => rfl, fun _ => Bool.and_true _⟩

/-- The integers of values that are alike are short together. -/
theorem Alike.isShort_eq {v w : Json} (h : Alike v w) (hv : v.isProper = true) : v.isShort = w.isShort := by
  have hshort {v w : Json} (h : Alike v w) (hv : v.isProper = true) (hshort : v.isShort = true) : w.isShort = true :=
    (every_isReceived_iff.mp (h.every isKeyTest_isReceived (every_isReceived_iff.mpr ⟨hv, hshort⟩))).2
  exact Bool.eq_iff_iff.mpr ⟨hshort h hv, hshort h.symm (h.isProper hv)⟩

/-! ## Numbers -/

/-- Digits stand for a number below the power of ten with as many zeros. -/
theorem ofDigitChars_lt {digits : List Char} (h : IsDigits digits) (start : Nat) :
    Nat.ofDigitChars 10 digits start < (start + 1) * 10 ^ digits.length := by
  induction digits generalizing start with
  | nil => simp
  | cons c cs ih =>
    have hc : c.toNat ≤ 57 := (Char.isDigit_iff_toNat.mp (h c List.mem_cons_self)).2
    rw [Nat.ofDigitChars_cons, List.length_cons, pow_succ]
    calc
      _ < (10 * start + (c.toNat - '0'.toNat) + 1) * 10 ^ cs.length := ih (fun d hd => h d (List.mem_cons_of_mem _ hd)) _
      _ ≤ (start + 1) * 10 * 10 ^ cs.length := Nat.mul_le_mul_right _ (by
        have hzero : '0'.toNat = 48 := rfl
        omega)
      _ = (start + 1) * (10 ^ cs.length * 10) := by ring

/-- The integer part of a number is made of digits. -/
theorem isDigits_readWhole {text whole rest : List Char} (h : readWhole text = some (whole, rest)) :
    IsDigits whole ∧ whole ≠ [] := by
  unfold readWhole at h
  split at h
  · cases h
    exact ⟨by simp [IsDigits], List.cons_ne_nil _ _⟩
  · split at h
    · cases h
    · next hne =>
      cases h
      exact ⟨fun c hc => List.mem_takeWhile_imp hc, hne⟩

/-- **An integer that is read is not too long.** -/
theorem readMagnitude_short {negative : Bool} {text rest : List Char} {n : Number}
    (h : readMagnitude negative text = .ok (n, rest)) : hasShortInteger (.num n) = true := by
  unfold readMagnitude at h
  split at h
  · cases h
  · next whole after hwhole =>
    obtain ⟨hdigits, hne⟩ := isDigits_readWhole hwhole
    have hlt := ofDigitChars_lt hdigits 0
    rw [Nat.zero_add, Nat.one_mul] at hlt
    dsimp only at h
    split at h
    · split at h
      · cases h
      · next hshort =>
        cases h
        refine decide_eq_true (Nat.le_trans ?_ (Nat.not_lt.mp hshort))
        have habs (b : Bool) (k : Nat) : (if b then -(k : Int) else k).natAbs = k := by cases b <;> simp
        rw [habs]
        exact (Nat.length_toDigits_le_iff (by decide) (List.length_pos_iff.mpr hne)).mpr hlt
    · cases h
      rfl

theorem readNumber_short {text rest : List Char} {n : Number} (h : readNumber text = .ok (n, rest)) :
    hasShortInteger (.num n) = true := by
  unfold readNumber at h
  split at h
  · split at h
    · cases h
      rfl
    · exact readMagnitude_short h
  · exact readMagnitude_short h

/-! ## Values -/

theorem every_of_readWord? {text rest : List Char} {v : Json} (h : readWord? text = some (v, rest)) :
    v.every isReceived = true := by
  have hword {w : String} {u : Json} {others : Unit → Option (Json × List Char)} (hu : u.every isReceived = true)
      (hothers : others () = some (v, rest) → v.every isReceived = true)
      (h : ((dropWord? w text).map (u, ·)).orElse others = some (v, rest)) : v.every isReceived = true := by
    cases hdrop : dropWord? w text with
    | none =>
      rw [hdrop] at h
      exact hothers h
    | some after =>
      rw [hdrop] at h
      cases h
      exact hu
  refine hword rfl (hword rfl (hword rfl (hword rfl fun h => ?_))) h
  obtain ⟨after, -, hvalue⟩ := Option.map_eq_some_iff.mp h
  cases hvalue
  rfl

/-- Objects that were read stay so when a value that was read is set. -/
theorem every_set {fields : Fields} {v : Json} (h : (obj fields).every isReceived = true)
    (hv : v.every isReceived = true) (key : String) : (obj (fields.set key v)).every isReceived = true := by
  rw [isKeyTest_isReceived.every_obj] at h ⊢
  refine ⟨Fields.nodup_keys_set h.1 key v, fun m hm => ?_⟩
  rcases Fields.mem_set hm with heq | hold
  · rw [heq]
    exact hv
  · exact h.2 m hold

/-- What is read with some fuel looks as if it was read. -/
structure ReadsReceived (fuel : Nat) : Prop where
  value : ∀ {levels text v rest}, readValue fuel levels text = .ok (v, rest) → v.every isReceived = true
  items : ∀ {levels text items rest}, readItems fuel levels text = .ok (items, rest) →
    ∀ x ∈ items, x.every isReceived = true
  members : ∀ {levels acc text fields rest}, readMembers fuel levels acc text = .ok (fields, rest) →
    (obj acc).every isReceived = true → (obj fields).every isReceived = true

namespace ReadsReceived

variable {fuel : Nat} (h : ReadsReceived fuel) {levels : Option Nat}
include h

/-- A value is a text, a list, an object, a word or a number. -/
theorem value_succ {text rest : List Char} {v : Json} (hread : readValue (fuel + 1) levels text = .ok (v, rest)) :
    v.every isReceived = true := by
  rw [readValue.eq_def] at hread
  simp only [bind, Except.bind, pure, Except.pure] at hread
  split at hread
  · split at hread
    · cases hread
    · cases hread
      rfl
  · split at hread
    · cases hread
    · split at hread
      · cases hread
        rfl
      · split at hread
        · cases hread
        · next hitems =>
          cases hread
          exact every_arr.mpr ⟨rfl, h.items hitems⟩
  · split at hread
    · cases hread
    · split at hread
      · cases hread
        rfl
      · split at hread
        · cases hread
        · next hmembers =>
          cases hread
          exact h.members hmembers rfl
  · split at hread
    · next hword =>
      cases hread
      exact every_of_readWord? hword
    · split at hread
      · cases hread
      · next hnumber =>
        cases hread
        exact readNumber_short hnumber

/-- Items are a value, and perhaps further items. -/
theorem items_succ {text rest : List Char} {items : List Json}
    (hread : readItems (fuel + 1) levels text = .ok (items, rest)) : ∀ x ∈ items, x.every isReceived = true := by
  rw [readItems.eq_def] at hread
  simp only [bind, Except.bind, pure, Except.pure] at hread
  split at hread
  · cases hread
  · next hvalue =>
    split at hread
    · cases hread
      exact List.forall_mem_singleton.mpr (h.value hvalue)
    · split at hread
      · cases hread
      · next hmore =>
        cases hread
        exact List.forall_mem_cons.mpr ⟨h.value hvalue, h.items hmore⟩
    · cases hread

/-- Members are a key with a value, and perhaps further members. -/
theorem members_succ {text rest : List Char} {acc fields : Fields}
    (hread : readMembers (fuel + 1) levels acc text = .ok (fields, rest)) (hacc : (obj acc).every isReceived = true) :
    (obj fields).every isReceived = true := by
  rw [readMembers.eq_def] at hread
  simp only [bind, Except.bind, pure, Except.pure] at hread
  split at hread
  · split at hread
    · cases hread
    · split at hread
      · split at hread
        · cases hread
        · next hvalue =>
          have hset := every_set hacc (h.value hvalue)
          split at hread
          · cases hread
            exact hset _
          · exact h.members hread (hset _)
          · cases hread
      · cases hread
  · cases hread

end ReadsReceived

/-- **Every value that is read looks as if it was**, whatever the fuel. -/
theorem readsReceived (fuel : Nat) : ReadsReceived fuel := by
  induction fuel with
  | zero => exact ⟨(nomatch ·), (nomatch ·), (nomatch ·)⟩
  | succ fuel ih => exact ⟨ih.value_succ, ih.items_succ, ih.members_succ⟩

theorem every_of_parse {text : List Char} {v : Json} (h : parse text = .ok v) : v.every isReceived = true := by
  simp only [parse, parseWithin, bind, Except.bind, pure, Except.pure] at h
  split at h
  · cases h
  · next hvalue =>
    split at h
    · cases h
      exact (readsReceived _).value hvalue
    · cases h

end Json

end WorkflowLab
