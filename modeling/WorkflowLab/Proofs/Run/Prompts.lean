import Mathlib.Data.List.Basic
import WorkflowLab.Proofs.Json.Parts
import WorkflowLab.Proofs.Text.Search
import WorkflowLab.Run.Prompt

/-!
# Prompts that are rendered in one pass

A prompt is rendered by one replacement after the other. This is the same as one pass over the template, in which every
placeholder is replaced at once, as long as no placeholder comes about by what has been filled in.

- `PromptPiece`, `templatePieces`: a template as characters of its own and slots for parts of the input;
- `fill`, `renderOnce`: the slots filled in, with some parts of an input and with all of them;
- `StandsAtSlots`, `Inert`: no placeholder stands where the template has none;
- `substitute_fill`: then the replacement of one placeholder fills in its slots and changes nothing else;
- `separate_of_braceless`: the placeholders of names without braces do not overlap;
- `inert_of_quiet`: values without double braces are inert in a template that has braces in its placeholders only;
- `renderPrompt_eq_renderOnce`: rendering in one pass.
-/

namespace WorkflowLab.Run

/-! ## Templates -/

/-- A piece of a template: a character of its own, or a slot for the part of a name. -/
inductive PromptPiece where
  | char (c : Char)
  | slot (name : String)

/-- The pieces of a template behind its first `skip` characters, which a placeholder has used up. -/
def piecesFrom (names : List String) : Nat → List Char → List PromptPiece
  | _, [] => []
  | skip + 1, _ :: rest => piecesFrom names skip rest
  | 0, c :: rest =>
    match names.find? fun name => (placeholder name).isPrefixOf (c :: rest) with
    | some name => .slot name :: piecesFrom names ((placeholder name).length - 1) rest
    | none => .char c :: piecesFrom names 0 rest

/-- The pieces of a template, found in one pass from left to right; at every place the first of the names counts whose
placeholder stands there. -/
def templatePieces (names : List String) (template : List Char) : List PromptPiece := piecesFrom names 0 template

/-- The text of a piece: a slot holds its part, if this is one of the parts, and its placeholder otherwise. -/
def fillPiece (parts : Fields) : PromptPiece → List Char
  | .char c => [c]
  | .slot name =>
    match parts.get? name with
    | some value => (stringifyValue value).toList
    | none => placeholder name

/-- The text of pieces with some parts filled in. -/
def fill (parts : Fields) (pieces : List PromptPiece) : List Char := pieces.flatMap (fillPiece parts)

/-- **A template with its placeholders replaced in one pass.** The first part of a name counts, so the placeholder
`input` stands for the whole input even if the input has a key of this name. -/
def renderOnce (template : String) (input : Json) : String :=
  String.ofList (fill (promptParts input) (templatePieces (promptParts input).keys template.toList))

theorem placeholder_ne_nil (name : String) : placeholder name ≠ [] := List.cons_ne_nil _ _

/-- Characters that are used up are passed over. -/
theorem piecesFrom_eq_drop (names : List String) (skip : Nat) (text : List Char) :
    piecesFrom names skip text = templatePieces names (text.drop skip) := by
  induction skip generalizing text with
  | zero => rfl
  | succ skip ih =>
    cases text with
    | nil => rfl
    | cons c rest => rw [piecesFrom, ih, List.drop_succ_cons]

/-- A placeholder at the front is a slot. -/
theorem templatePieces_slot {names : List String} {name : String} {rest : List Char}
    (h : names.find? (fun other => (placeholder other).isPrefixOf (placeholder name ++ rest)) = some name) :
    templatePieces names (placeholder name ++ rest) = .slot name :: templatePieces names rest := by
  obtain ⟨c, tail, htext⟩ := List.exists_cons_of_ne_nil (placeholder_ne_nil name)
  rw [htext, List.cons_append] at h ⊢
  rw [templatePieces, piecesFrom, h]
  show PromptPiece.slot name :: piecesFrom names ((placeholder name).length - 1) (tail ++ rest) = _
  rw [piecesFrom_eq_drop, htext, List.length_cons, Nat.add_sub_cancel, List.drop_left]

/-- A character with which no placeholder begins is one of the template's own. -/
theorem templatePieces_char {names : List String} {c : Char} {rest : List Char}
    (h : names.find? (fun other => (placeholder other).isPrefixOf (c :: rest)) = none) :
    templatePieces names (c :: rest) = .char c :: templatePieces names rest := by
  rw [templatePieces, piecesFrom, h]
  rfl

/-- Induction along the pass over a template. -/
theorem templatePieces_induction {names : List String} {motive : List Char → List PromptPiece → Prop}
    (nil : motive [] [])
    (slot : ∀ name rest, name ∈ names → motive rest (templatePieces names rest) →
      motive (placeholder name ++ rest) (.slot name :: templatePieces names rest))
    (char : ∀ c rest, (∀ name ∈ names, ¬placeholder name <+: c :: rest) → motive rest (templatePieces names rest) →
      motive (c :: rest) (.char c :: templatePieces names rest))
    (template : List Char) : motive template (templatePieces names template) := by
  induction hlength : template.length using Nat.strongRecOn generalizing template with
  | _ length ih =>
    subst hlength
    cases template with
    | nil => exact nil
    | cons c rest =>
      cases hfind : names.find? fun name => (placeholder name).isPrefixOf (c :: rest) with
      | none =>
        rw [templatePieces_char hfind]
        refine char c rest (fun name hname hfront => ?_) (ih rest.length (Nat.lt_succ_self _) rest rfl)
        have hnot := List.find?_eq_none.mp hfind name hname
        exact hnot (List.isPrefixOf_iff_prefix.mpr hfront)
      | some name =>
        have hfront := List.find?_some hfind
        obtain ⟨tail, htail⟩ := List.isPrefixOf_iff_prefix.mp hfront
        rw [← htail] at hfind ih ⊢
        rw [templatePieces_slot hfind]
        refine slot name tail (List.mem_of_find?_eq_some hfind) (ih tail.length ?_ tail rfl)
        rw [List.length_append]
        exact Nat.lt_add_of_pos_left (List.length_pos_of_ne_nil (placeholder_ne_nil name))

/-- Slots are for the names. -/
theorem mem_names_of_slot {names : List String} {template : List Char} {name : String}
    (h : .slot name ∈ templatePieces names template) : name ∈ names := by
  refine templatePieces_induction (motive := fun _ pieces => .slot name ∈ pieces → name ∈ names) nofun ?_ ?_ template h
  · intro other rest hother ih hmem
    rcases List.mem_cons.mp hmem with heq | hmem
    · rwa [PromptPiece.slot.inj heq]
    · exact ih hmem
  · intro c rest hnone ih hmem
    rcases List.mem_cons.mp hmem with heq | hmem
    · cases heq
    · exact ih hmem

/-- With nothing filled in, the pieces of a template are the template. -/
theorem fill_templatePieces (names : List String) (template : List Char) :
    fill [] (templatePieces names template) = template := by
  refine templatePieces_induction (motive := fun text pieces => fill [] pieces = text) rfl ?_ ?_ template
  · intro name rest hname ih
    rw [fill, List.flatMap_cons]
    exact congrArg (placeholder name ++ ·) ih
  · intro c rest hnone ih
    rw [fill, List.flatMap_cons]
    exact congrArg (c :: ·) ih

/-! ## Placeholders at slots -/

/-- With some parts filled in, the placeholder of a name stands only at slots for it, and these are still open. -/
def StandsAtSlots (done : Fields) (name : String) (pieces : List PromptPiece) : Prop :=
  ∀ before after, fill done pieces = before ++ (placeholder name ++ after) →
    name ∉ done.keys ∧ ∃ first rest, pieces = first ++ .slot name :: rest ∧ fill done first = before

/-- **What is filled in is never taken for a part of the template**: when the turn of a part comes, its placeholder
stands only where the template has a slot for it. -/
def Inert (template : String) (input : Json) : Prop :=
  ∀ done part rest, promptParts input = done ++ part :: rest →
    StandsAtSlots done part.1 (templatePieces (promptParts input).keys template.toList)

/-- The placeholders in a template do not overlap: each one stands at a slot. -/
def Separate (template : List Char) (names : List String) : Prop :=
  ∀ name ∈ names, StandsAtSlots [] name (templatePieces names template)

variable {done : Fields} {name : String} {piece : PromptPiece} {pieces : List PromptPiece}

theorem fill_cons (done : Fields) (piece : PromptPiece) (pieces : List PromptPiece) :
    fill done (piece :: pieces) = fillPiece done piece ++ fill done pieces := List.flatMap_cons

/-- A slot for a part that is still open holds its placeholder. -/
theorem fillPiece_open (h : name ∉ done.keys) : fillPiece done (.slot name) = placeholder name := by
  rw [fillPiece, Fields.get?_eq_none_iff.mpr h]

/-- Placeholders that stand at slots do so behind the first piece. -/
theorem StandsAtSlots.tail (h : StandsAtSlots done name (piece :: pieces)) : StandsAtSlots done name pieces := by
  intro before after htext
  have hwhole : fill done (piece :: pieces) = (fillPiece done piece ++ before) ++ (placeholder name ++ after) := by
    rw [fill_cons, htext, List.append_assoc]
  obtain ⟨hopen, first, rest, hpieces, hfirst⟩ := h _ after hwhole
  refine ⟨hopen, ?_⟩
  cases first with
  | nil =>
    obtain ⟨rfl, -⟩ := List.cons.inj hpieces
    rw [fillPiece_open hopen] at hfirst
    exact absurd (List.append_eq_nil_iff.mp hfirst.symm).1 (placeholder_ne_nil name)
  | cons head first =>
    obtain ⟨rfl, htail⟩ := List.cons.inj hpieces
    rw [fill_cons] at hfirst
    exact ⟨first, rest, htail, List.append_cancel_left hfirst⟩

/-- Where placeholders stand at slots, none begins inside another piece. -/
theorem StandsAtSlots.not_prefix_inside (h : StandsAtSlots done name (piece :: pieces))
    (hpiece : piece = .slot name → name ∈ done.keys) {before after : List Char}
    (htext : fillPiece done piece = before ++ after) (hafter : after ≠ []) :
    ¬placeholder name <+: after ++ fill done pieces := by
  rintro ⟨tail, htail⟩
  have hwhole : fill done (piece :: pieces) = before ++ (placeholder name ++ tail) := by
    rw [fill_cons, htext, List.append_assoc, htail]
  obtain ⟨hopen, first, rest, hpieces, hfirst⟩ := h _ tail hwhole
  cases first with
  | nil =>
    obtain ⟨rfl, -⟩ := List.cons.inj hpieces
    exact hopen (hpiece rfl)
  | cons head first =>
    -- the first piece lies before the placeholder, but the placeholder begins inside it
    obtain ⟨rfl, -⟩ := List.cons.inj hpieces
    rw [fill_cons, htext, List.append_assoc, List.append_right_eq_self, List.append_eq_nil_iff] at hfirst
    exact hafter hfirst.1

/-- Placeholders stand at slots if they do so behind the first piece, and one that begins inside this piece is the whole
of a slot. -/
theorem StandsAtSlots.cons (hrest : StandsAtSlots done name pieces)
    (hinside : ∀ before inside, fillPiece done piece = before ++ inside → inside ≠ [] →
      placeholder name <+: inside ++ fill done pieces → before = [] ∧ piece = .slot name ∧ name ∉ done.keys) :
    StandsAtSlots done name (piece :: pieces) := by
  intro before after htext
  have hbehind (tail : List Char) (hbefore : before = fillPiece done piece ++ tail)
      (htail : fill done pieces = tail ++ (placeholder name ++ after)) :
      name ∉ done.keys ∧ ∃ first rest, piece :: pieces = first ++ .slot name :: rest ∧ fill done first = before := by
    obtain ⟨hopen, first, rest, hpieces, hfirst⟩ := hrest tail after htail
    exact ⟨hopen, piece :: first, rest, by rw [hpieces, List.cons_append], by rw [fill_cons, hfirst, hbefore]⟩
  rw [fill_cons] at htext
  rcases List.append_eq_append_iff.mp htext with ⟨tail, hbefore, htail⟩ | ⟨inside, hpiece, hfront⟩
  · exact hbehind tail hbefore htail
  · by_cases hempty : inside = []
    · subst hempty
      exact hbehind [] (by rw [hpiece, List.append_nil, List.append_nil]) hfront.symm
    · obtain ⟨rfl, rfl, hopen⟩ := hinside before inside hpiece hempty ⟨after, hfront⟩
      exact ⟨hopen, [], pieces, rfl, rfl⟩

/-! ## One replacement -/

/-- A part that comes later fills in the slots for its name if they are open. -/
theorem fillPiece_append_open (h : name ∉ done.keys) (value : Json) :
    fillPiece (done ++ [(name, value)]) (.slot name) = (stringifyValue value).toList := by
  rw [fillPiece, Fields.get?_append, Fields.get?_eq_none_iff.mpr h, Fields.get?_cons, if_pos rfl]
  rfl

/-- It leaves all else as it is. -/
theorem fillPiece_append_other (h : piece = .slot name → name ∈ done.keys) (value : Json) :
    fillPiece (done ++ [(name, value)]) piece = fillPiece done piece := by
  cases piece with
  | char c => rfl
  | slot other =>
    rw [fillPiece, fillPiece, Fields.get?_append, Fields.get?_cons, Fields.get?_nil]
    by_cases hother : other = name
    · subst hother
      obtain ⟨earlier, hearlier⟩ := Fields.mem_keys_iff.mp (h rfl)
      rw [hearlier]
      rfl
    · rw [if_neg hother, Option.or_none]

/-- **The replacement of a placeholder that stands only at slots fills in these slots.** -/
theorem substitute_fill {value : Json} (h : StandsAtSlots done name pieces) :
    substitute (fill done pieces) name value = fill (done ++ [(name, value)]) pieces := by
  induction pieces with
  | nil => rfl
  | cons piece pieces ih =>
    have hrest := ih h.tail
    rw [substitute] at hrest ⊢
    rw [fill_cons, fill_cons, ← hrest]
    by_cases hslot : piece = .slot name → name ∈ done.keys
    · rw [fillPiece_append_other hslot]
      exact Text.replaceAll_append _ fun before after htext hafter => h.not_prefix_inside hslot htext hafter
    · obtain ⟨rfl, hopen⟩ := Classical.not_imp.mp hslot
      rw [fillPiece_append_open hopen, fillPiece_open hopen, Text.replaceAll_occurrence _ (placeholder_ne_nil name)]

/-- Replacements one after the other fill in their slots, if each finds its placeholders at slots only. -/
theorem foldl_substitute_fill {parts : Fields}
    (h : ∀ before part after, parts = before ++ part :: after → StandsAtSlots (done ++ before) part.1 pieces) :
    parts.foldl (fun text part => substitute text part.1 part.2) (fill done pieces) = fill (done ++ parts) pieces := by
  induction parts generalizing done with
  | nil => rw [List.foldl_nil, List.append_nil]
  | cons part parts ih =>
    have hfirst := h [] part parts rfl
    rw [List.append_nil] at hfirst
    rw [List.foldl_cons, substitute_fill hfirst, ih, List.append_assoc, List.singleton_append]
    intro before other after hparts
    have hlater := h (part :: before) other after (congrArg (part :: ·) hparts)
    rwa [List.append_assoc]

/-! ## Names without braces -/

/-- A name without braces. -/
def Braceless (name : String) : Prop := '{' ∉ name.toList ∧ '}' ∉ name.toList

instance (name : String) : Decidable (Braceless name) := inferInstanceAs (Decidable (_ ∧ _))

/-- The placeholders of names without braces begin alike only when they are the same. -/
theorem eq_of_placeholder_append {other : String} (hname : Braceless name) (hother : Braceless other)
    {after rest : List Char} (h : placeholder name ++ after = placeholder other ++ rest) : name = other := by
  -- a name is what stands in front of the first closing brace
  have hname_of {chars rest : List Char} (hchars : '}' ∉ chars) : (chars ++ '}' :: rest).takeWhile (· != '}') = chars := by
    rw [List.takeWhile_append_of_pos fun c hc => bne_iff_ne.mpr (ne_of_mem_of_not_mem hc hchars)]
    exact List.append_nil chars
  simp only [placeholder, List.cons_append, List.append_assoc, List.cons.injEq, true_and] at h
  have hfront := congrArg (List.takeWhile (· != '}')) h
  rw [hname_of hname.2, hname_of hother.2] at hfront
  exact String.toList_inj.mp hfront

/-- Whether every opening brace of a text is followed by another character. -/
def isQuiet : List Char → Bool
  | [] => true
  | c :: rest => (c != '{' || rest.head?.any (· != '{')) && isQuiet rest

/-- The end of a quiet text is quiet. -/
theorem isQuiet_of_append {before after : List Char} (h : isQuiet (before ++ after) = true) : isQuiet after = true := by
  induction before with
  | nil => exact h
  | cons c before ih =>
    rw [List.cons_append, isQuiet, Bool.and_eq_true] at h
    exact ih h.2

/-- A text without opening braces is quiet. -/
theorem isQuiet_of_not_mem {text : List Char} (h : '{' ∉ text) : isQuiet text = true := by
  induction text with
  | nil => rfl
  | cons c rest ih =>
    rw [List.mem_cons, not_or] at h
    rw [isQuiet, ih h.2, Bool.and_true, Bool.or_eq_true, bne_iff_ne]
    exact .inl (Ne.symm h.1)

/-- **No placeholder begins inside quiet text.** -/
theorem not_prefix_of_isQuiet {text before inside : List Char} (h : isQuiet text = true) (htext : text = before ++ inside)
    (hinside : inside ≠ []) (rest : List Char) : ¬placeholder name <+: inside ++ rest := by
  rintro ⟨tail, htail⟩
  rw [htext] at h
  have hquiet := isQuiet_of_append h
  obtain ⟨c, behind, rfl⟩ := List.exists_cons_of_ne_nil hinside
  obtain ⟨rfl, hsecond⟩ := List.cons.inj htail
  rw [isQuiet, Bool.and_eq_true] at hquiet
  cases behind with
  | nil => exact absurd hquiet.1 (by decide)
  | cons d behind =>
    obtain ⟨rfl, -⟩ := List.cons.inj hsecond
    exact absurd hquiet.1 (by simp)

/-- Behind its first character, the placeholder of a name without braces is quiet. -/
theorem isQuiet_tail_placeholder (h : Braceless name) : isQuiet ('{' :: (name.toList ++ ['}', '}'])) = true := by
  have hnone : '{' ∉ name.toList ++ ['}', '}'] := by simpa using h.1
  obtain ⟨c, rest, hrest⟩ := List.exists_cons_of_ne_nil (l := name.toList ++ ['}', '}']) (by simp)
  rw [isQuiet, isQuiet_of_not_mem hnone, Bool.and_true, Bool.or_eq_true, hrest]
  rw [hrest, List.mem_cons, not_or] at hnone
  exact .inr (bne_iff_ne.mpr (Ne.symm hnone.1))

/-- **A placeholder that begins inside another one is this one**, if the names have no braces. -/
theorem eq_of_prefix_placeholder {other : String} (hname : Braceless name) (hother : Braceless other)
    {before inside rest : List Char} (h : placeholder other = before ++ inside) (hinside : inside ≠ [])
    (hfront : placeholder name <+: inside ++ rest) : before = [] ∧ other = name := by
  cases before with
  | nil =>
    obtain ⟨after, hafter⟩ := hfront
    rw [List.nil_append] at h
    rw [← h] at hafter
    exact ⟨rfl, (eq_of_placeholder_append hname hother hafter).symm⟩
  | cons c before =>
    obtain ⟨-, htail⟩ := List.cons.inj h
    exact absurd hfront (not_prefix_of_isQuiet (isQuiet_tail_placeholder hother) htail hinside rest)

/-- No placeholder stands in no text. -/
theorem standsAtSlots_nil (done : Fields) (name : String) : StandsAtSlots done name [] := by
  intro before after htext
  have hlength := congrArg List.length htext
  simp [fill, placeholder] at hlength

/-- **The placeholders of names without braces stand at slots of every template.** -/
theorem separate_of_braceless {names : List String} (hnames : ∀ name ∈ names, Braceless name) (template : List Char) :
    Separate template names := by
  intro name hname
  refine templatePieces_induction (motive := fun _ pieces => StandsAtSlots [] name pieces)
    (standsAtSlots_nil [] name) ?_ ?_ template
  · intro other rest hother ih
    refine ih.cons fun before inside hpiece hinside hfront => ?_
    rw [fillPiece_open List.not_mem_nil] at hpiece
    obtain ⟨rfl, rfl⟩ := eq_of_prefix_placeholder (hnames name hname) (hnames other hother) hpiece hinside hfront
    exact ⟨rfl, rfl, List.not_mem_nil⟩
  · intro c rest hnone ih
    refine ih.cons fun before inside hpiece hinside hfront => ?_
    -- the character is all there is to the piece, and no placeholder begins with it
    obtain ⟨rfl, rfl⟩ : before = [] ∧ inside = [c] := by
      rcases List.append_eq_singleton_iff.mp hpiece.symm with h | ⟨-, rfl⟩
      · exact h
      · exact absurd rfl hinside
    rw [fill_templatePieces] at hfront
    exact absurd hfront (hnone name hname)

/-- **Where open slots are for names without braces and all else is quiet, placeholders stand at slots only.** -/
theorem standsAtSlots_of_quiet (hname : Braceless name)
    (hpieces : ∀ piece ∈ pieces, isQuiet (fillPiece done piece) = true ∨
      ∃ other, piece = .slot other ∧ other ∉ done.keys ∧ Braceless other) :
    StandsAtSlots done name pieces := by
  induction pieces with
  | nil => exact standsAtSlots_nil done name
  | cons piece pieces ih =>
    obtain ⟨hfirst, hrest⟩ := List.forall_mem_cons.mp hpieces
    refine (ih hrest).cons fun before inside hpiece hinside hfront => ?_
    rcases hfirst with hquiet | ⟨other, rfl, hopen, hother⟩
    · exact absurd hfront (not_prefix_of_isQuiet hquiet hpiece hinside _)
    · rw [fillPiece_open hopen] at hpiece
      obtain ⟨rfl, rfl⟩ := eq_of_prefix_placeholder hname hother hpiece hinside hfront
      exact ⟨rfl, rfl, hopen⟩

/-- **Quiet pieces are inert** when the keys have no braces: a template is rendered in one pass if its own text and the
values for its slots are quiet. -/
theorem inert_of_quiet {template : String} {input : Json} (hkeys : ∀ key ∈ (promptParts input).keys, Braceless key)
    (hpieces : ∀ piece ∈ templatePieces (promptParts input).keys template.toList,
      isQuiet (fillPiece (promptParts input) piece) = true) : Inert template input := by
  intro done part rest hparts
  have hname : part.1 ∈ (promptParts input).keys := by
    rw [hparts]
    exact List.mem_map_of_mem (List.mem_append_right _ List.mem_cons_self)
  refine standsAtSlots_of_quiet (hkeys _ hname) fun piece hpiece => ?_
  have hquiet := hpieces piece hpiece
  cases piece with
  | char c => exact .inl hquiet
  | slot other =>
    by_cases hopen : other ∈ done.keys
    · -- the part that is filled in is the one that fills the slot in the end
      obtain ⟨value, hvalue⟩ := Fields.mem_keys_iff.mp hopen
      rw [fillPiece, hparts, Fields.get?_append, hvalue] at hquiet
      rw [fillPiece, hvalue]
      exact .inl hquiet
    · exact .inr ⟨other, rfl, hopen, hkeys other (mem_names_of_slot hpiece)⟩

/-- An input that is no object has one placeholder, and this is never met again. -/
theorem inert_of_not_object (template : String) {input : Json} (h : input.isObject = false) : Inert template input := by
  have hparts : promptParts input = [("input", input)] := by
    cases input with
    | obj fields => cases h
    | null | bool | num | str | arr => rfl
  intro done part rest hsplit
  rw [hparts] at hsplit ⊢
  obtain ⟨rfl, rfl, rfl⟩ : done = [] ∧ part = ("input", input) ∧ rest = [] := by
    rcases List.append_eq_singleton_iff.mp hsplit.symm with ⟨rfl, h⟩ | ⟨-, h⟩
    · obtain ⟨rfl, rfl⟩ := List.cons.inj h
      exact ⟨rfl, rfl, rfl⟩
    · cases h
  have hinput : ∀ name ∈ Fields.keys [("input", input)], Braceless name := by
    intro name hname
    obtain rfl : name = "input" := List.mem_singleton.mp hname
    exact ⟨by decide, by decide⟩
  exact separate_of_braceless hinput template.toList "input" List.mem_cons_self

/-! ## The order of keys -/

/-- The names may come in any order, if their placeholders do not overlap in the template. -/
theorem templatePieces_congr {names others : List String} (h : ∀ name, name ∈ names ↔ name ∈ others)
    {template : List Char} (hseparate : Separate template names) :
    templatePieces others template = templatePieces names template := by
  refine templatePieces_induction
    (motive := fun text pieces => (∀ name ∈ names, StandsAtSlots [] name pieces) → templatePieces others text = pieces)
    (fun _ => rfl) ?_ ?_ template hseparate
  · intro name rest hname ih hall
    rw [← ih fun other hother => (hall other hother).tail]
    refine templatePieces_slot ?_
    cases hfind : others.find? fun other => (placeholder other).isPrefixOf (placeholder name ++ rest) with
    | none =>
      have hfront := List.find?_eq_none.mp hfind name ((h name).mp hname)
      exact absurd (List.isPrefixOf_iff_prefix.mpr (List.prefix_append ..)) hfront
    | some other =>
      -- both placeholders stand here, and this is a slot of one name only
      refine congrArg some (Classical.byContradiction fun hne => ?_)
      have hmatch : (placeholder other).isPrefixOf (placeholder name ++ rest) = true :=
        List.find?_some (p := fun other => (placeholder other).isPrefixOf (placeholder name ++ rest)) hfind
      have hfront := List.isPrefixOf_iff_prefix.mp hmatch
      rw [← fill_templatePieces names rest] at hfront
      have hpiece : fillPiece [] (.slot name) = [] ++ placeholder name := fillPiece_open List.not_mem_nil
      refine (hall other ((h other).mpr (List.mem_of_find?_eq_some hfind))).not_prefix_inside ?_ hpiece
        (placeholder_ne_nil name) hfront
      rintro ⟨⟩
      exact absurd rfl hne
  · intro c rest hnone ih hall
    rw [← ih fun other hother => (hall other hother).tail]
    refine templatePieces_char (List.find?_eq_none.mpr fun other hother hfront => ?_)
    exact hnone other ((h other).mpr hother) (List.isPrefixOf_iff_prefix.mp hfront)

/-- A slot is an occurrence of its placeholder in the template. -/
theorem infix_of_slot {names : List String} {template : List Char}
    (h : .slot name ∈ templatePieces names template) : placeholder name <:+: template := by
  obtain ⟨first, rest, hpieces⟩ := List.append_of_mem h
  refine ⟨fill [] first, fill [] rest, ?_⟩
  rw [← fill_templatePieces names template, hpieces, fill, fill, fill, List.flatMap_append, List.flatMap_cons]
  exact List.append_assoc ..

/-- **One pass does not depend on the order of the keys**, if the template does not ask for the whole input. -/
theorem renderOnce_congr {template : String} {fields others : Fields} (hkeys : fields.keys.Nodup)
    (hperm : fields.Perm others) (hinput : ¬placeholder "input" <:+: template.toList)
    (hseparate : Separate template.toList (promptParts (.obj fields)).keys) :
    renderOnce template (.obj others) = renderOnce template (.obj fields) := by
  have hnames : ∀ name, name ∈ (promptParts (.obj fields)).keys ↔ name ∈ (promptParts (.obj others)).keys :=
    fun name => ((hperm.map (·.1)).cons "input").mem_iff
  rw [renderOnce, renderOnce, templatePieces_congr hnames hseparate]
  congr 1
  refine List.flatMap_congr fun piece hpiece => ?_
  cases piece with
  | char c => rfl
  | slot name =>
    have hname : name ≠ "input" := by
      rintro rfl
      exact hinput (infix_of_slot hpiece)
    have hvalue : (promptParts (.obj others)).get? name = (promptParts (.obj fields)).get? name := by
      rw [promptParts, promptParts, Fields.get?_cons, Fields.get?_cons, if_neg hname, if_neg hname]
      exact (Fields.get?_eq_of_perm hkeys hperm name).symm
    rw [fillPiece, fillPiece, hvalue]

/-! ## Rendering -/

/-- Inert values are filled in as in one pass. -/
theorem renderPrompt_of_inert {template : String} {input : Json} (h : Inert template input) :
    renderPrompt template input = renderOnce template input := by
  have hfill := fill_templatePieces (promptParts input).keys template.toList
  have hfold : (promptParts input).foldl (fun text part => substitute text part.1 part.2)
      (fill [] (templatePieces (promptParts input).keys template.toList)) =
        fill ([] ++ promptParts input) (templatePieces (promptParts input).keys template.toList) :=
    foldl_substitute_fill h
  rw [hfill, List.nil_append] at hfold
  rw [renderPrompt, renderOnce, hfold]

/-- **Rendering is one simultaneous substitution unless a value brings in a placeholder.** An input that is no object is
always rendered as in one pass, and an object is if it is inert. Then the order of its keys does not matter either, when
the template does not ask for the whole input, its placeholders do not overlap, and the other order is inert too. -/
theorem renderPrompt_eq_renderOnce (template : String) (input : Json) (h : input.isObject = true → Inert template input) :
    renderPrompt template input = renderOnce template input ∧
      ∀ fields others : Fields, input = .obj fields → fields.keys.Nodup → fields.Perm others →
        Text.occursIn (placeholder "input") template.toList = false →
        Separate template.toList (promptParts input).keys → Inert template (.obj others) →
          renderPrompt template (.obj others) = renderPrompt template input := by
  have hinert : Inert template input := by
    cases hobject : input.isObject with
    | true => exact h hobject
    | false => exact inert_of_not_object template hobject
  refine ⟨renderPrompt_of_inert hinert, ?_⟩
  rintro fields others rfl hkeys hperm hinput hseparate hothers
  rw [← Bool.not_eq_true, Text.occursIn_iff] at hinput
  rw [renderPrompt_of_inert hothers, renderPrompt_of_inert hinert, renderOnce_congr hkeys hperm hinput hseparate]

/-- A forecast whose values have braces of their own, and a key that is called like the whole input. -/
def forecast : Fields :=
  [("sky", .str "sun\x7d\x7d or \x7brain"), ("place", .obj [("city", .str "Rome")]), ("input", .null)]

/-- A template about a forecast. -/
def outlook : String := "\x7b\x7bsky\x7d\x7d in \x7b\x7bplace\x7d\x7d\x7d"

/-- A forecast is filled in as in one pass, in either order of its keys. -/
theorem renderPrompt_forecast :
    Inert outlook (.obj forecast) ∧ Inert outlook (.obj forecast.reverse) ∧
      renderPrompt outlook (.obj forecast) = renderOnce outlook (.obj forecast) ∧
      renderPrompt outlook (.obj forecast.reverse) = renderPrompt outlook (.obj forecast) ∧
      renderPrompt outlook (.obj forecast) = "sun\x7d\x7d or \x7brain in \x7b\"city\": \"Rome\"\x7d\x7d" := by
  have hkeys : ∀ key ∈ (promptParts (.obj forecast)).keys, Braceless key := by decide +kernel
  have hinert : Inert outlook (.obj forecast) := inert_of_quiet hkeys (by decide +kernel)
  have hreverse : Inert outlook (.obj forecast.reverse) := inert_of_quiet (by decide +kernel) (by decide +kernel)
  obtain ⟨honce, horder⟩ := renderPrompt_eq_renderOnce outlook (.obj forecast) fun _ => hinert
  refine ⟨hinert, hreverse, honce, ?_, by decide +kernel⟩
  exact horder forecast forecast.reverse rfl (by decide +kernel) (List.reverse_perm forecast).symm (by decide +kernel)
    (separate_of_braceless hkeys _) hreverse

/-- An input with a value that looks like the placeholder of another key. -/
def crossed : Fields := [("a", .str "\x7b\x7bb\x7d\x7d"), ("b", .str "x")]

/-- **A value that has been filled in is read as a part of the template**: one pass would leave it as it is, as the other
order of the keys does, and the whole input does not stand in the prompt as it is either. -/
theorem renderPrompt_crossed :
    renderPrompt "\x7b\x7ba\x7d\x7d" (.obj crossed) = "x" ∧
      renderOnce "\x7b\x7ba\x7d\x7d" (.obj crossed) = "\x7b\x7bb\x7d\x7d" ∧
      renderPrompt "\x7b\x7ba\x7d\x7d" (.obj crossed.reverse) = "\x7b\x7bb\x7d\x7d" ∧
      renderPrompt "\x7b\x7binput\x7d\x7d" (.obj crossed) = "\x7b\"a\": \"x\", \"b\": \"x\"\x7d" ∧
      stringifyValue (.obj crossed) = "\x7b\"a\": \"\x7b\x7bb\x7d\x7d\", \"b\": \"x\"\x7d" := by
  decide +kernel

end WorkflowLab.Run
