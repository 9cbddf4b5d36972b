import Mathlib.Data.List.TakeWhile
import WorkflowLab.Proofs.Text.Search
import WorkflowLab.Verification.Lookup

/-!
# What a dot path names

- `Names`, `Reaches`: the part that a segment names, and the part to which segments lead that all name one;
- `EndsAt`: the segment at which a walk ends because it names nothing;
- `IsReadable`, `Unreadable`: segments that make no index although they are made of digits;
- `lookup_append`: a path goes on where another one has led;
- `follow_of_endsAt`, `exists_follow_error`: what comes of the first segment that names nothing;
- `lookup_compositional`: the look-up of a path, and the values and paths for which it comes to a part.
-/

namespace WorkflowLab

namespace Text

/-- Digits are read one after the other, as long as they are decimal. -/
theorem isSome_foldl_digits (digits : List Char) (acc : Option Nat) :
    (digits.foldl (fun acc c => acc.bind fun n => (digitValue? c).map (10 * n + ·)) acc).isSome = true ↔
      acc.isSome = true ∧ ∀ c ∈ digits, (digitValue? c).isSome = true := by
  induction digits generalizing acc with
  | nil => simp
  | cons c rest ih =>
    rw [List.foldl_cons, ih, List.forall_mem_cons, ← and_assoc]
    cases acc with
    | none => simp
    | some n => simp

/-- **Digits make a number exactly when all are decimal** and there is one at least. -/
theorem isSome_natOfDigits?_iff {digits : List Char} :
    (natOfDigits? digits).isSome = true ↔ digits ≠ [] ∧ ∀ c ∈ digits, (digitValue? c).isSome = true := by
  unfold natOfDigits?
  cases digits with
  | nil => simp
  | cons c rest =>
    rw [List.isEmpty_cons, if_neg Bool.false_ne_true, isSome_foldl_digits]
    simp

end Text

namespace Verification

open Text

/-! ## Segments -/

/-- The segments of a path. -/
def segments (path : String) : List (List Char) := split '.' path.toList

/-- **What a segment names**: the member of an object that has it for its key, or the item of a list whose index it is, in
decimal digits and not in more than an integer may have. -/
inductive Names : Json → List Char → Json → Prop
  | member {fields : Fields} {segment : List Char} {part : Json}
    (hkey : fields.get? (String.ofList segment) = some part) : Names (.obj fields) segment part
  | item {items : List Json} {segment : List Char} {i : Nat} {part : Json} (hindex : natOfDigits? segment = some i)
    (hshort : segment.length ≤ Number.maxIntegerDigits) (hitem : items[i]? = some part) :
    Names (.arr items) segment part

/-- A segment that is no index, or one that can be read: all of its digits are decimal and they are not too many. -/
def IsReadable (segment : List Char) : Prop :=
  looksLikeIndex segment = true →
    (∀ c ∈ segment, (digitValue? c).isSome = true) ∧ segment.length ≤ Number.maxIntegerDigits

/-- A segment that cannot be read as an index stands at a list. -/
def Unreadable (v : Json) (segment : List Char) : Prop := (∃ items, v = .arr items) ∧ ¬IsReadable segment

/-- A number in digits that are not too many is an index. -/
theorem readIndex_of_digits {segment : List Char} {i : Nat} (h : natOfDigits? segment = some i)
    (hshort : segment.length ≤ Number.maxIntegerDigits) : looksLikeIndex segment = true ∧ readIndex segment = .ok i := by
  obtain ⟨hsome, hdecimal⟩ := isSome_natOfDigits?_iff.mp (Option.isSome_of_eq_some h)
  constructor
  · rw [looksLikeIndex, Bool.and_eq_true, Bool.not_eq_true', List.isEmpty_eq_false_iff, List.all_eq_true]
    refine ⟨hsome, fun c hc => ?_⟩
    rw [isDigitLike, hdecimal c hc, Bool.true_or]
  · have hlength : (segment.takeWhile fun c => (digitValue? c).isSome).length ≤ Number.maxIntegerDigits :=
      Nat.le_trans (List.takeWhile_prefix _).length_le hshort
    simp only [readIndex, if_neg (Nat.not_lt.mpr hlength), h]

/-- What looks like an index and cannot be read has a fault. -/
theorem exists_readIndex_error {segment : List Char} (h : ¬IsReadable segment) :
    looksLikeIndex segment = true ∧ ∃ f, readIndex segment = .error f := by
  obtain ⟨hindex, hbad⟩ := Classical.not_imp.mp h
  refine ⟨hindex, ?_⟩
  rw [readIndex]
  split
  · exact ⟨_, rfl⟩
  · next hshort =>
    cases hdigits : natOfDigits? segment with
    | none => exact ⟨_, rfl⟩
    | some i =>
      -- all digits are decimal, so the ones in front are all there are
      obtain ⟨-, hdecimal⟩ := isSome_natOfDigits?_iff.mp (Option.isSome_of_eq_some hdigits)
      rw [List.takeWhile_eq_self_iff.mpr hdecimal] at hshort
      exact absurd ⟨hdecimal, Nat.not_lt.mp hshort⟩ hbad

/-- A segment that names a part leads to it. -/
theorem descend_of_names {v part : Json} {segment : List Char} (h : Names v segment part) :
    descend v segment = .ok part := by
  cases h with
  | member hkey => rw [descend, hkey]; rfl
  | item hindex hshort hitem =>
    obtain ⟨hlooks, hread⟩ := readIndex_of_digits hindex hshort
    rw [descend, if_pos hlooks, hread, Except.map, List.getD_eq_getElem?_getD, hitem]
    rfl

/-- A segment that cannot be read at a list has a fault. -/
theorem exists_descend_error {v : Json} {segment : List Char} (h : Unreadable v segment) :
    ∃ f, descend v segment = .error f := by
  obtain ⟨⟨items, rfl⟩, hbad⟩ := h
  obtain ⟨hlooks, f, hf⟩ := exists_readIndex_error hbad
  exact ⟨f, by rw [descend, if_pos hlooks, hf]; rfl⟩

/-- A segment that names nothing leads to null, if it can be read. -/
theorem descend_of_nothing {v : Json} {segment : List Char} (hnothing : ∀ part, ¬Names v segment part)
    (hreadable : ¬Unreadable v segment) : descend v segment = .ok .null := by
  cases v with
  | null | bool | num | str => rfl
  | obj fields =>
    rw [descend]
    cases hkey : Fields.get? fields (String.ofList segment) with
    | none => rfl
    | some part => exact absurd (.member hkey) (hnothing part)
  | arr items =>
    rw [descend]
    split
    · next hlooks =>
      have hread : IsReadable segment := Classical.byContradiction fun hbad => hreadable ⟨⟨items, rfl⟩, hbad⟩
      obtain ⟨hdecimal, hshort⟩ := hread hlooks
      have hsome : segment ≠ [] := by
        rintro rfl
        cases hlooks
      obtain ⟨i, hi⟩ := Option.isSome_iff_exists.mp (isSome_natOfDigits?_iff.mpr ⟨hsome, hdecimal⟩)
      rw [(readIndex_of_digits hi hshort).2, Except.map, List.getD_eq_getElem?_getD]
      cases hitem : items[i]? with
      | none => rfl
      | some part => exact absurd (.item hi hshort hitem) (hnothing part)
    · rfl

/-! ## Walks -/

/-- **Where segments lead that all name a part.** -/
inductive Reaches : Json → List (List Char) → Json → Prop
  | here (v : Json) : Reaches v [] v
  | step {v u part : Json} {segment : List Char} {rest : List (List Char)} (hname : Names v segment u)
    (hrest : Reaches u rest part) : Reaches v (segment :: rest) part

/-- A walk ends at a segment that names nothing of what the segments before it have led to; those behind it do not
count. -/
def EndsAt (v : Json) (path : List (List Char)) (u : Json) (segment : List Char) : Prop :=
  ∃ before after, path = before ++ segment :: after ∧ Reaches v before u ∧ ∀ part, ¬Names u segment part

/-- Every walk leads to a part or ends at a segment. -/
theorem exists_reaches_or_endsAt (v : Json) (path : List (List Char)) :
    (∃ part, Reaches v path part) ∨ ∃ u segment, EndsAt v path u segment := by
  induction path generalizing v with
  | nil => exact .inl ⟨v, .here v⟩
  | cons segment rest ih =>
    by_cases hname : ∃ u, Names v segment u
    · obtain ⟨u, hu⟩ := hname
      rcases ih u with ⟨part, hpart⟩ | ⟨w, other, before, after, rfl, hreach, hnothing⟩
      · exact .inl ⟨part, .step hu hpart⟩
      · exact .inr ⟨w, other, segment :: before, after, rfl, .step hu hreach, hnothing⟩
    · exact .inr ⟨v, segment, [], rest, rfl, .here v, not_exists.mp hname⟩

/-- From null no segment leads on. -/
theorem follow_null (path : List (List Char)) : follow .null path = .ok .null := by
  induction path with
  | nil => rfl
  | cons segment rest ih => exact ih

/-- Segments that name parts are followed to the last one. -/
theorem follow_of_reaches {v u : Json} {before : List (List Char)} (h : Reaches v before u) (rest : List (List Char)) :
    follow v (before ++ rest) = follow u rest := by
  induction h with
  | here v => rfl
  | step hname hrest ih => rw [List.cons_append, follow, descend_of_names hname]; exact ih

/-- **A walk that ends comes to null**, whatever would come next. -/
theorem follow_of_endsAt {v u : Json} {path : List (List Char)} {segment : List Char} (h : EndsAt v path u segment)
    (hreadable : ¬Unreadable u segment) : follow v path = .ok .null := by
  obtain ⟨before, after, rfl, hreach, hnothing⟩ := h
  rw [follow_of_reaches hreach, follow, descend_of_nothing hnothing hreadable]
  exact follow_null after

/-- **A segment that cannot be read at a list leaves no part.** -/
theorem exists_follow_error {v u : Json} {path : List (List Char)} {segment : List Char} (h : EndsAt v path u segment)
    (hbad : Unreadable u segment) : ∃ f, follow v path = .error f := by
  obtain ⟨before, after, rfl, hreach, -⟩ := h
  obtain ⟨f, hf⟩ := exists_descend_error hbad
  exact ⟨f, by rw [follow_of_reaches hreach, follow, hf]⟩

/-- Segments are followed one part after the other. -/
theorem follow_append (v : Json) (path more : List (List Char)) :
    follow v (path ++ more) = follow v path >>= fun part => follow part more := by
  induction path generalizing v with
  | nil => rfl
  | cons segment rest ih =>
    rw [List.cons_append, follow, follow]
    cases descend v segment with
    | error f => rfl
    | ok part => exact ih part

/-! ## Look-ups -/

/-- **A path goes on where another one has led.** -/
theorem lookup_append (v : Json) (path other : String) :
    lookup v (path ++ "." ++ other) = lookup v path >>= fun part => lookup part other := by
  have hsegments : split '.' (path ++ "." ++ other).toList = split '.' path.toList ++ split '.' other.toList := by
    rw [← split_append]
    simp [String.toList_append]
  unfold lookup
  rw [hsegments, follow_append]

/-- A walk has a result exactly when it does not end at a segment that cannot be read. -/
theorem exists_lookup_iff (v : Json) (path : String) :
    (∃ part, lookup v path = .ok part) ↔ ∀ u segment, EndsAt v (segments path) u segment → ¬Unreadable u segment := by
  constructor
  · rintro ⟨part, hpart⟩ u segment hends hbad
    obtain ⟨f, hf⟩ := exists_follow_error hends hbad
    exact nomatch hpart.symm.trans hf
  · intro h
    rcases exists_reaches_or_endsAt v (segments path) with ⟨part, hpart⟩ | ⟨u, segment, hends⟩
    · have hfollow := follow_of_reaches hpart []
      rw [List.append_nil] at hfollow
      exact ⟨part, hfollow⟩
    · exact ⟨.null, follow_of_endsAt hends (h u segment hends)⟩

/-- Objects one inside the other, with a value at the end of a path. -/
def leadingTo (v : Json) : List (List Char) → Json
  | [] => v
  | segment :: rest => .obj [(String.ofList segment, leadingTo v rest)]

/-- A path leads to the value at its end. -/
theorem reaches_leadingTo (v : Json) (path : List (List Char)) : Reaches (leadingTo v path) path v := by
  induction path with
  | nil => exact .here v
  | cons segment rest ih =>
    have hkey : Fields.get? [(String.ofList segment, leadingTo v rest)] (String.ofList segment) =
        some (leadingTo v rest) := by rw [Fields.get?_cons, if_pos rfl]
    exact .step (.member hkey) ih

/-- **The look-up of a path.** It goes on where another one has led, fault or not. It comes to the part that its segments
name one after the other, and to null from the first segment that names nothing, unless this one cannot be read at a
list: this is the only way to have no result. So the paths that have one in every value are those of which every segment
can be read. -/
theorem lookup_compositional (path : String) :
    (∀ v other, lookup v (path ++ "." ++ other) = lookup v path >>= fun part => lookup part other) ∧
      (∀ v part, Reaches v (segments path) part → lookup v path = .ok part) ∧
      (∀ v u segment, EndsAt v (segments path) u segment → ¬Unreadable u segment → lookup v path = .ok .null) ∧
      (∀ v, (∃ part, lookup v path = .ok part) ↔
        ∀ u segment, EndsAt v (segments path) u segment → ¬Unreadable u segment) ∧
      ((∀ v, ∃ part, lookup v path = .ok part) ↔ ∀ segment ∈ segments path, IsReadable segment) := by
  refine ⟨fun v => lookup_append v path, fun v part h => ?_, fun v u segment => follow_of_endsAt,
    fun v => exists_lookup_iff v path, fun h segment hmem => ?_, fun h v => ?_⟩
  · have hfollow := follow_of_reaches h []
    rwa [List.append_nil] at hfollow
  · -- a segment that cannot be read is met at an empty list, to which those before it lead
    obtain ⟨before, after, hpath⟩ := List.append_of_mem hmem
    refine Classical.byContradiction fun hbad => ?_
    refine (exists_lookup_iff _ path).mp (h (leadingTo (.arr []) before)) (.arr []) segment ?_ ⟨⟨[], rfl⟩, hbad⟩
    refine ⟨before, after, hpath, reaches_leadingTo (.arr []) before, fun part hname => ?_⟩
    cases hname with
    | item hindex hshort hitem => cases hitem
  · rw [exists_lookup_iff]
    rintro u segment ⟨before, after, hpath, -, -⟩ ⟨-, hbad⟩
    refine hbad (h segment ?_)
    rw [hpath]
    exact List.mem_append_right _ List.mem_cons_self

/-- **A digit that is not decimal names nothing, and yet leaves no result.** -/
theorem lookup_superscript :
    lookup (.arr [.int 1]) "²" = .error (.notDecimal "²") ∧ ¬∃ part, lookup (.arr [.int 1]) "²" = .ok part := by
  have hfault : lookup (.arr [.int 1]) "²" = .error (.notDecimal "²") := by rfl
  refine ⟨hfault, ?_⟩
  rintro ⟨part, hpart⟩
  exact nomatch hpart.symm.trans hfault

end Verification

end WorkflowLab
