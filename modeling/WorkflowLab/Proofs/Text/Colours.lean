import Mathlib.Data.List.TakeWhile
import WorkflowLab.Text.Ansi

/-!
# What is left without colours

One pass removes every colour sequence of a text. What is left holds one again exactly where the text has one that other
sequences interrupt: when these are gone, its parts come together.

- `IsColour`, `HoldsColour`: a colour sequence, and a text with one in it;
- `Interspersed`, `IsInterrupted`, `HoldsInterrupted`: characters with colour sequences among them, a colour sequence
  made of such, and a text with one in it;
- `strip_induction`: induction along the pass;
- `strip_append_escape`, `strip_interspersed`: what the pass does up to an escape character, and with what is
  interspersed;
- `holdsColour_strip_iff`: **when a colour sequence is left**;
- `strip_eq_self_iff`: a text is its own rest exactly when it holds no colour sequence.
-/

namespace WorkflowLab.Text.Ansi

/-- The text is a colour sequence. -/
def IsColour (text : List Char) : Prop :=
  ∃ parameters, (∀ c ∈ parameters, isParameter c = true) ∧ text = escape :: '[' :: (parameters ++ ['m'])

/-- The text holds a colour sequence. -/
def HoldsColour (text : List Char) : Prop := ∃ sequence, IsColour sequence ∧ sequence <:+: text

/-- The second text is the first one with colour sequences anywhere among its characters. -/
inductive Interspersed : List Char → List Char → Prop
  | nil : Interspersed [] []
  | char (c : Char) {chars text : List Char} (h : Interspersed chars text) : Interspersed (c :: chars) (c :: text)
  | colour {sequence chars text : List Char} (hsequence : IsColour sequence) (h : Interspersed chars text) :
    Interspersed chars (sequence ++ text)

/-- The text would be a colour sequence, if there were no other ones between its escape character and its last
letter. -/
def IsInterrupted (text : List Char) : Prop :=
  ∃ parameters inner, (∀ c ∈ parameters, isParameter c = true) ∧ Interspersed ('[' :: parameters) inner ∧
    inner ≠ '[' :: parameters ∧ text = escape :: (inner ++ ['m'])

/-- The text holds a colour sequence that others interrupt. -/
def HoldsInterrupted (text : List Char) : Prop := ∃ sequence, IsInterrupted sequence ∧ sequence <:+: text

/-- The text without its colour sequences. -/
def strip (text : List Char) : List Char := stripFrom 0 text

/-! ## Sequences -/

theorem IsColour.ne_nil {sequence : List Char} (h : IsColour sequence) : sequence ≠ [] := by
  obtain ⟨parameters, -, rfl⟩ := h
  exact List.cons_ne_nil _ _

/-- Only a bracket and parameters stand between the ends of a colour sequence. -/
theorem not_mem_body {parameters : List Char} (h : ∀ c ∈ parameters, isParameter c = true) {c : Char}
    (hc : isParameter c = false) (hbracket : c ≠ '[') : c ∉ '[' :: parameters := by
  intro hmem
  rcases List.mem_cons.mp hmem with rfl | hmem
  · exact hbracket rfl
  · rw [h c hmem] at hc
    cases hc

/-- A colour sequence has its escape character at the front and nowhere else. -/
theorem IsColour.escape_not_mem {c : Char} {tail : List Char} (h : IsColour (c :: tail)) : escape ∉ tail := by
  obtain ⟨parameters, hparameters, htext⟩ := h
  obtain ⟨-, rfl⟩ := List.cons.inj htext
  have hbody : escape ∉ '[' :: parameters := not_mem_body hparameters (by decide) (by decide)
  rw [← List.cons_append, List.mem_append, List.mem_singleton, not_or]
  exact ⟨hbody, by decide⟩

/-- The length that is measured is that of the colour sequence at the front. -/
theorem colourLength?_eq_some {text : List Char} {n : Nat} (h : colourLength? text = some n) :
    ∃ sequence rest, IsColour sequence ∧ text = sequence ++ rest ∧ n = sequence.length := by
  unfold colourLength? at h
  split at h
  · next e b rest =>
    split at h
    · next hfront =>
      obtain ⟨rfl, rfl⟩ := hfront
      split at h
      · next after hafter =>
        have hsplit : rest = rest.takeWhile isParameter ++ 'm' :: after := by
          rw [← hafter, List.takeWhile_append_dropWhile]
        cases h
        refine ⟨escape :: '[' :: (rest.takeWhile isParameter ++ ['m']), after,
          ⟨_, fun c hc => List.mem_takeWhile_imp hc, rfl⟩, ?_, by simp⟩
        simpa using hsplit
      · cases h
    · cases h
  · cases h

/-- A colour sequence at the front is measured. -/
theorem colourLength?_append {sequence : List Char} (h : IsColour sequence) (rest : List Char) :
    colourLength? (sequence ++ rest) = some sequence.length := by
  obtain ⟨parameters, hparameters, rfl⟩ := h
  have hdrop : (parameters ++ ('m' :: rest)).dropWhile isParameter = 'm' :: rest := by
    rw [List.dropWhile_append_of_pos hparameters, List.dropWhile_cons_of_neg (by decide)]
  have htake : (parameters ++ ('m' :: rest)).takeWhile isParameter = parameters := by
    rw [List.takeWhile_append_of_pos hparameters, List.takeWhile_cons_of_neg (by decide), List.append_nil]
  simp only [List.cons_append, List.append_assoc, List.nil_append, colourLength?, and_self, if_true, hdrop, htake]
  simp

/-! ## The pass -/

/-- Characters that are used up are passed over. -/
theorem stripFrom_eq_drop (skip : Nat) (text : List Char) : stripFrom skip text = strip (text.drop skip) := by
  induction skip generalizing text with
  | zero => rfl
  | succ skip ih =>
    cases text with
    | nil => rfl
    | cons c rest => rw [stripFrom, ih, List.drop_succ_cons]

/-- A colour sequence at the front is removed. -/
theorem strip_colour {sequence : List Char} (h : IsColour sequence) (rest : List Char) :
    strip (sequence ++ rest) = strip rest := by
  have hlength := colourLength?_append h rest
  obtain ⟨c, tail, rfl⟩ := List.exists_cons_of_ne_nil h.ne_nil
  rw [List.cons_append] at hlength ⊢
  rw [strip, stripFrom, hlength]
  dsimp only
  rw [stripFrom_eq_drop, List.length_cons, Nat.add_sub_cancel, List.drop_left]

/-- A character at which no colour sequence begins is kept. -/
theorem strip_char {c : Char} {rest : List Char} (h : ∀ sequence, IsColour sequence → ¬sequence <+: c :: rest) :
    strip (c :: rest) = c :: strip rest := by
  have hnone : colourLength? (c :: rest) = none := by
    cases hlength : colourLength? (c :: rest) with
    | none => rfl
    | some n =>
      obtain ⟨sequence, after, hsequence, htext, -⟩ := colourLength?_eq_some hlength
      exact absurd ⟨after, htext.symm⟩ (h sequence hsequence)
  rw [strip, stripFrom, hnone]
  rfl

/-- Colour sequences begin with an escape character. -/
theorem strip_cons_of_ne {c : Char} (h : c ≠ escape) (rest : List Char) : strip (c :: rest) = c :: strip rest := by
  refine strip_char ?_
  rintro sequence ⟨parameters, -, rfl⟩ hfront
  exact h (List.cons_prefix_cons.mp hfront).1.symm

/-- **Induction along the pass**: the front of a text is a colour sequence, or a character at which none begins. -/
theorem strip_induction {motive : List Char → Prop} (nil : motive [])
    (colour : ∀ sequence rest, IsColour sequence → motive rest → motive (sequence ++ rest))
    (char : ∀ c rest, (∀ sequence, IsColour sequence → ¬sequence <+: c :: rest) → motive rest → motive (c :: rest))
    (text : List Char) : motive text := by
  induction hlength : text.length using Nat.strongRecOn generalizing text with
  | _ length ih =>
    subst hlength
    cases text with
    | nil => exact nil
    | cons c rest =>
      by_cases hfront : ∃ sequence, IsColour sequence ∧ sequence <+: c :: rest
      · obtain ⟨sequence, hsequence, tail, htail⟩ := hfront
        rw [← htail] at ih ⊢
        refine colour sequence tail hsequence (ih tail.length ?_ tail rfl)
        rw [List.length_append]
        exact Nat.lt_add_of_pos_left (List.length_pos_iff.mpr hsequence.ne_nil)
      · refine char c rest (fun sequence hsequence hbegin => hfront ⟨sequence, hsequence, hbegin⟩) ?_
        exact ih rest.length (Nat.lt_succ_self _) rest rfl

/-- The text is what is left, with colour sequences among its characters. -/
theorem interspersed_strip (text : List Char) : Interspersed (strip text) text := by
  induction text using strip_induction with
  | nil => exact .nil
  | colour sequence rest hsequence ih =>
    rw [strip_colour hsequence]
    exact .colour hsequence ih
  | char c rest hnone ih =>
    rw [strip_char hnone]
    exact .char c ih

/-- What is left is no longer. -/
theorem length_strip_le (text : List Char) : (strip text).length ≤ text.length := by
  induction text using strip_induction with
  | nil => exact Nat.le_refl 0
  | colour sequence rest hsequence ih =>
    rw [strip_colour hsequence, List.length_append]
    omega
  | char c rest hnone ih =>
    rw [strip_char hnone, List.length_cons, List.length_cons]
    omega

/-! ## What is left -/

/-- **A character that is left was kept**: no colour sequence begins there, and what is left before and behind it is
left of the text before and behind it. -/
theorem exists_of_strip_eq {text before after : List Char} {c : Char} (h : strip text = before ++ c :: after) :
    ∃ front back, text = front ++ c :: back ∧ strip front = before ∧ strip back = after ∧
      ∀ sequence, IsColour sequence → ¬sequence <+: c :: back := by
  induction text using strip_induction generalizing before with
  | nil =>
    have hlength := congrArg List.length h
    simp [strip, stripFrom] at hlength
  | colour sequence rest hsequence ih =>
    rw [strip_colour hsequence] at h
    obtain ⟨front, back, rfl, hfront, hback, hnone⟩ := ih h
    exact ⟨sequence ++ front, back, (List.append_assoc ..).symm, by rw [strip_colour hsequence, hfront], hback, hnone⟩
  | char d rest hd ih =>
    rw [strip_char hd] at h
    cases before with
    | nil =>
      obtain ⟨rfl, hrest⟩ := List.cons.inj h
      exact ⟨[], rest, rfl, rfl, hrest, hd⟩
    | cons d' before =>
      obtain ⟨rfl, hrest⟩ := List.cons.inj h
      obtain ⟨front, back, rfl, hfront, hback, hnone⟩ := ih hrest
      have hshort : ∀ sequence, IsColour sequence → ¬sequence <+: d :: front := fun sequence hsequence hbegin =>
        hd sequence hsequence (hbegin.trans (List.prefix_append (d :: front) (c :: back)))
      exact ⟨d :: front, back, rfl, by rw [strip_char hshort, hfront], hback, hnone⟩

/-- **No colour sequence goes on over an escape character**: what stands before one is stripped for itself. -/
theorem strip_append_escape (text rest : List Char) :
    strip (text ++ escape :: rest) = strip text ++ strip (escape :: rest) := by
  induction text using strip_induction with
  | nil => rfl
  | colour sequence text hsequence ih =>
    rw [List.append_assoc, strip_colour hsequence, strip_colour hsequence, ih]
  | char c text hnone ih =>
    have hlong : ∀ sequence, IsColour sequence → ¬sequence <+: c :: (text ++ escape :: rest) := by
      rintro sequence hsequence ⟨after, hafter⟩
      rw [← List.cons_append] at hafter
      rcases List.append_eq_append_iff.mp hafter with ⟨more, htext, -⟩ | ⟨more, rfl, hmore⟩
      · exact hnone sequence hsequence ⟨more, htext.symm⟩
      · cases more with
        | nil =>
          rw [List.append_nil] at hsequence
          exact hnone _ hsequence (List.prefix_refl _)
        | cons d more =>
          -- the sequence would have a second escape character
          obtain rfl := (List.cons.inj hmore).1
          exact hsequence.escape_not_mem (List.mem_append_right text List.mem_cons_self)
    rw [strip_char hnone, List.cons_append, strip_char hlong, ih, List.cons_append]

section

variable {chars text : List Char}

/-- The colour sequences among other characters are removed, whatever follows. -/
theorem strip_interspersed (h : Interspersed chars text) (hchars : escape ∉ chars) (rest : List Char) :
    strip (text ++ rest) = chars ++ strip rest := by
  induction h with
  | nil => rfl
  | char c _ ih =>
    rw [List.mem_cons, not_or] at hchars
    obtain ⟨hc, hchars⟩ := hchars
    rw [List.cons_append, strip_cons_of_ne (Ne.symm hc), ih hchars, List.cons_append]
  | colour hsequence _ ih => rw [List.append_assoc, strip_colour hsequence, ih hchars]

/-- Where colour sequences stand among characters, an escape character comes before the `m` behind them. -/
theorem not_prefix_of_interspersed (h : Interspersed chars text) (hchars : 'm' ∉ chars) (hne : text ≠ chars)
    {body : List Char} (hbody : escape ∉ body) (rest : List Char) : ¬body ++ ['m'] <+: text ++ 'm' :: rest := by
  induction h generalizing body with
  | nil => exact absurd rfl hne
  | char c _ ih =>
    rw [List.mem_cons, not_or] at hchars
    obtain ⟨hc, hchars⟩ := hchars
    intro hbegin
    cases body with
    | nil => exact hc (List.cons_prefix_cons.mp hbegin).1
    | cons d body =>
      obtain ⟨rfl, htail⟩ := List.cons_prefix_cons.mp hbegin
      refine ih hchars (fun heq => hne (congrArg _ heq)) ?_ htail
      exact fun hmem => hbody (List.mem_cons_of_mem _ hmem)
  | colour hsequence _ _ =>
    obtain ⟨parameters, -, rfl⟩ := hsequence
    intro hbegin
    cases body with
    | nil => exact absurd (List.cons_prefix_cons.mp hbegin).1 (by decide)
    | cons d body =>
      obtain ⟨rfl, -⟩ := List.cons_prefix_cons.mp hbegin
      exact hbody List.mem_cons_self

end

/-- **When a colour sequence is left**: the text holds one that others interrupt. -/
theorem holdsColour_strip_iff (text : List Char) :
    HoldsColour (strip text) ↔ HoldsInterrupted text := by
  constructor
  · rintro ⟨_, ⟨parameters, hparameters, rfl⟩, before, after, hleft⟩
    have hescape : strip text = before ++ escape :: ('[' :: parameters ++ 'm' :: after) := by
      rw [← hleft]
      simp
    obtain ⟨front, back, rfl, -, hback, hnone⟩ := exists_of_strip_eq hescape
    obtain ⟨inner, last, rfl, hinner, -, -⟩ := exists_of_strip_eq hback
    refine ⟨escape :: (inner ++ ['m']), ⟨parameters, inner, hparameters, ?_, ?_, rfl⟩, front, last, by simp⟩
    · rw [← hinner]
      exact interspersed_strip inner
    · rintro rfl
      exact hnone _ ⟨parameters, hparameters, rfl⟩ ⟨last, by simp⟩
  · rintro ⟨_, ⟨parameters, inner, hparameters, hinner, hne, rfl⟩, before, after, rfl⟩
    have hescape : escape ∉ '[' :: parameters := not_mem_body hparameters (by decide) (by decide)
    have hletter : 'm' ∉ '[' :: parameters := not_mem_body hparameters (by decide) (by decide)
    have hkept : ∀ sequence, IsColour sequence → ¬sequence <+: escape :: (inner ++ 'm' :: after) := by
      rintro _ ⟨others, hothers, rfl⟩ hbegin
      exact not_prefix_of_interspersed hinner hletter hne (not_mem_body hothers (by decide) (by decide)) after
        (List.cons_prefix_cons.mp hbegin).2
    have hm : 'm' ≠ escape := by decide
    refine ⟨escape :: '[' :: (parameters ++ ['m']), ⟨parameters, hparameters, rfl⟩, strip before, strip after, ?_⟩
    have htext : before ++ escape :: (inner ++ ['m']) ++ after = before ++ escape :: (inner ++ 'm' :: after) := by simp
    rw [htext, strip_append_escape, strip_char hkept, strip_interspersed hinner hescape, strip_cons_of_ne hm]
    simp

/-- **A text is its own rest exactly when it holds no colour sequence.** -/
theorem strip_eq_self_iff {text : List Char} : strip text = text ↔ ¬HoldsColour text := by
  constructor
  · rintro hself ⟨sequence, hsequence, before, after, rfl⟩
    have hpositive : 0 < sequence.length := List.length_pos_iff.mpr hsequence.ne_nil
    have hstrip : strip (before ++ sequence ++ after) = strip before ++ strip after := by
      obtain ⟨parameters, hparameters, rfl⟩ := hsequence
      rw [List.append_assoc, List.cons_append, strip_append_escape, ← List.cons_append,
        strip_colour ⟨parameters, hparameters, rfl⟩]
    have hlength := congrArg List.length (hself.symm.trans hstrip)
    have hbefore := length_strip_le before
    have hafter := length_strip_le after
    simp only [List.length_append] at hlength
    omega
  · intro hnone
    induction text using strip_induction with
    | nil => rfl
    | colour sequence rest hsequence _ =>
      exact absurd ⟨sequence, hsequence, (List.prefix_append sequence rest).isInfix⟩ hnone
    | char c rest hchar ih =>
      rw [strip_char hchar, ih]
      rintro ⟨sequence, hsequence, hinfix⟩
      exact hnone ⟨sequence, hsequence, hinfix.trans (List.suffix_cons c rest).isInfix⟩

end WorkflowLab.Text.Ansi
