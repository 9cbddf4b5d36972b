import WorkflowLab.Text.Search

/-!
# What searching finds

- `occursIn_iff`: a text stands in another exactly when it is an infix of it;
- `replaceAll_occurrence`, `replaceAll_append`: a replacement along an occurrence, and along a text in which none begins;
- `split_append`: the pieces of two texts with the separator between them.
-/

namespace WorkflowLab.Text

/-! ## Occurrences -/

/-- **A text stands in another exactly when it is an infix of it.** -/
theorem occursIn_iff {needle text : List Char} : occursIn needle text = true ↔ needle <:+: text := by
  induction text with
  | nil => simp [occursIn]
  | cons c rest ih => rw [occursIn, Bool.or_eq_true, List.isPrefixOf_iff_prefix, ih, List.infix_cons_iff]

/-! ## Replacements -/

variable {old : List Char} (new : List Char)

/-- Characters that are used up are passed over. -/
theorem replaceFrom_eq_drop (old : List Char) (skip : Nat) (text : List Char) :
    replaceFrom old new skip text = replaceAll old new (text.drop skip) := by
  induction skip generalizing text with
  | zero => rfl
  | succ skip ih =>
    cases text with
    | nil => rfl
    | cons c rest => rw [replaceFrom, ih, List.drop_succ_cons]

/-- An occurrence at the front is replaced as a whole. -/
theorem replaceAll_occurrence (hold : old ≠ []) (rest : List Char) :
    replaceAll old new (old ++ rest) = new ++ replaceAll old new rest := by
  obtain ⟨c, tail, rfl⟩ := List.exists_cons_of_ne_nil hold
  have hfront : (c :: tail).isPrefixOf (c :: (tail ++ rest)) = true :=
    List.isPrefixOf_iff_prefix.mpr (List.prefix_append (c :: tail) rest)
  rw [List.cons_append, replaceAll, replaceFrom, if_pos hfront, replaceFrom_eq_drop, List.length_cons,
    Nat.add_sub_cancel, List.drop_left]

/-- **Where no occurrence begins, a text is left as it is.** -/
theorem replaceAll_append {text rest : List Char}
    (h : ∀ before after, text = before ++ after → after ≠ [] → ¬old <+: after ++ rest) :
    replaceAll old new (text ++ rest) = text ++ replaceAll old new rest := by
  induction text with
  | nil => rfl
  | cons c text ih =>
    have hfront : ¬old.isPrefixOf (c :: (text ++ rest)) = true := by
      rw [List.isPrefixOf_iff_prefix]
      exact h [] (c :: text) rfl (List.cons_ne_nil c text)
    rw [List.cons_append, replaceAll, replaceFrom, if_neg hfront, List.cons_append]
    exact congrArg (c :: ·) (ih fun before after htext => h (c :: before) after (congrArg (c :: ·) htext))

/-! ## Pieces -/

/-- **The pieces of two texts with the separator between them** are those of the one and then those of the other. -/
theorem split_append (sep : Char) (text rest : List Char) :
    split sep (text ++ sep :: rest) = split sep text ++ split sep rest := by
  induction text with
  | nil => simp [split]
  | cons c text ih =>
    rw [List.cons_append, split, split, ih]
    by_cases hc : c = sep
    · rw [if_pos hc, if_pos hc, List.cons_append]
    · obtain ⟨piece, pieces, hpieces⟩ := List.exists_cons_of_ne_nil (split_ne_nil sep text)
      rw [if_neg hc, if_neg hc, hpieces]
      rfl

end WorkflowLab.Text
