import WorkflowLab.Proofs.Json.Numerals
import WorkflowLab.Proofs.Json.Strings

/-!
# Values that are read back

A value that is written in some layout is read as it was, if no object repeats a key and every number is plain.

- `Style.IsSeparated`: the layouts whose separators are a comma and a colon, perhaps with blanks;
- `head_renderAt`: what a value starts with;
- `readItems_render`, `readMembers_render`: the items of a list and the members of an object, given that each of them is
  read;
- `readsBack`, `parse_renderAt`: **a value that is written is read**.
-/

namespace WorkflowLab.Json

/-! ## Layouts -/

/-- The separators of the layout are a comma and a colon, perhaps with blanks behind them. -/
structure Style.IsSeparated (style : Style) : Prop where
  items : ∃ blanks, style.itemSeparator = ',' :: blanks ∧ ∀ c ∈ blanks, isSpace c = true
  keys : ∃ blanks, style.keySeparator = ':' :: blanks ∧ ∀ c ∈ blanks, isSpace c = true

theorem isSeparated_compact : compact.IsSeparated :=
  ⟨⟨[], rfl, List.forall_mem_nil _⟩, [], rfl, List.forall_mem_nil _⟩

theorem isSeparated_spaced : spaced.IsSeparated :=
  have hblank : ∀ c ∈ [' '], isSpace c = true := List.forall_mem_singleton.mpr rfl
  ⟨⟨[' '], rfl, hblank⟩, [' '], rfl, hblank⟩

theorem isSeparated_indented : indented.IsSeparated :=
  ⟨⟨[], rfl, List.forall_mem_nil _⟩, [' '], rfl, List.forall_mem_singleton.mpr rfl⟩

/-- Blanks before a text are skipped. -/
theorem skipSpace_append {blanks : List Char} (h : ∀ c ∈ blanks, isSpace c = true) (text : List Char) :
    skipSpace (blanks ++ text) = skipSpace text := List.dropWhile_append_of_pos h

theorem skipSpace_cons {c : Char} (h : isSpace c = false) (text : List Char) : skipSpace (c :: text) = c :: text :=
  List.dropWhile_cons_of_neg (by simp [h])

theorem isSpace_breakLine (style : Style) (level : Nat) : ∀ c ∈ breakLine style level, isSpace c = true := by
  unfold breakLine
  split
  · refine List.forall_mem_cons.mpr ⟨rfl, fun c hc => ?_⟩
    obtain ⟨-, rfl⟩ := List.mem_replicate.mp hc
    rfl
  · exact List.forall_mem_nil _

/-- A line break before a text that can follow a number can follow it too. -/
theorem endsNumber_breakLine (style : Style) (level : Nat) {text : List Char} (h : endsNumber text = true) :
    endsNumber (breakLine style level ++ text) = true := by
  unfold breakLine
  split
  · rfl
  · exact h

/-! ## Values -/

/-- What a number starts with starts nothing else. -/
theorem ne_of_number {c d : Char} (hc : c = '-' ∨ c.isDigit = true) (hd : d ≠ '-') (hdigit : d.isDigit = false) :
    c ≠ d := by
  rintro rfl
  rcases hc with rfl | hc
  · exact hd rfl
  · rw [hdigit] at hc
    cases hc

/-- A number is no word. -/
theorem readWord?_of_number {c : Char} (hc : c = '-' ∨ c.isDigit = true) (text : List Char) :
    readWord? (c :: text) = none := by
  have hnone (word : String) {w : Char} {ws : List Char} (hword : word.toList = w :: ws) (hw : w ≠ '-')
      (hletter : w.isDigit = false) : dropWord? word (c :: text) = none :=
    dropWord?_of_ne hword (ne_of_number hc hw hletter)
  unfold readWord?
  dsimp only
  rw [hnone "null" rfl (by decide) rfl, hnone "true" rfl (by decide) rfl, hnone "false" rfl (by decide) rfl,
    hnone "NaN" rfl (by decide) rfl, hnone "Infinity" rfl (by decide) rfl]
  rfl

/-- A value starts with a character that is neither a blank nor the end of a list. -/
theorem head_renderAt (style : Style) (level : Nat) {v : Json} (h : v.isPlain = true) :
    ∃ c cs, renderAt style level v = c :: cs ∧ isSpace c = false ∧ c ≠ ']' := by
  cases v with
  | null => exact ⟨'n', _, rfl, rfl, by decide⟩
  | bool b =>
    cases b with
    | true => exact ⟨'t', _, rfl, rfl, by decide⟩
    | false => exact ⟨'f', _, rfl, rfl, by decide⟩
  | num n =>
    obtain ⟨c, cs, htext, hc⟩ := head_render (n := n) h
    refine ⟨c, cs, htext, ?_, ne_of_number hc (by decide) rfl⟩
    simp only [isSpace, Bool.or_eq_false_iff, decide_eq_false_iff_not]
    exact ⟨⟨⟨ne_of_number hc (by decide) rfl, ne_of_number hc (by decide) rfl⟩, ne_of_number hc (by decide) rfl⟩,
      ne_of_number hc (by decide) rfl⟩
  | str s => exact ⟨'"', _, rfl, rfl, by decide⟩
  | arr items => cases items <;> exact ⟨'[', _, rfl, rfl, by decide⟩
  | obj fields =>
    cases fields with
    | nil => exact ⟨'{', _, rfl, rfl, by decide⟩
    | cons m rest => exact ⟨'{', _, rfl, rfl, by decide⟩

/-! ## Steps of the reader -/

section

variable {fuel : Nat} {text rest after : List Char} {v : Json}

/-- The last item. -/
theorem readItems_last (hread : readValue fuel none text = .ok (v, rest)) (hskip : skipSpace rest = ']' :: after) :
    readItems (fuel + 1) none text = .ok ([v], after) := by
  rw [readItems, hread]
  simp only [bind, Except.bind, hskip]
  rfl

/-- An item with others behind it. -/
theorem readItems_more {others : List Json} {last : List Char} (hread : readValue fuel none text = .ok (v, rest))
    (hskip : skipSpace rest = ',' :: after) (hmore : readItems fuel none (skipSpace after) = .ok (others, last)) :
    readItems (fuel + 1) none text = .ok (v :: others, last) := by
  rw [readItems, hread]
  simp only [bind, Except.bind, hskip, hmore]
  rfl

/-- A list with items. -/
theorem readValue_list {items : List Json} (hopen : (skipSpace text).head? ≠ some ']')
    (hread : readItems fuel none (skipSpace text) = .ok (items, rest)) :
    readValue (fuel + 1) none ('[' :: text) = .ok (.arr items, rest) := by
  rw [readValue]
  split
  · next h =>
    rw [h] at hopen
    exact absurd rfl hopen
  · simp only [enter, bind, Except.bind, hread]
    rfl

variable {key colon value : List Char} {acc : Fields}

/-- The last member. -/
theorem readMembers_last (hkey : readChars text = .ok (key, colon)) (hcolon : skipSpace colon = ':' :: value)
    (hread : readValue fuel none (skipSpace value) = .ok (v, rest)) (hskip : skipSpace rest = '}' :: after) :
    readMembers (fuel + 1) none acc ('"' :: text) = .ok (acc.set (String.ofList key) v, after) := by
  rw [readMembers, hkey]
  simp only [bind, Except.bind, hcolon, hread, hskip]
  rfl

/-- A member with others behind it. -/
theorem readMembers_more (hkey : readChars text = .ok (key, colon)) (hcolon : skipSpace colon = ':' :: value)
    (hread : readValue fuel none (skipSpace value) = .ok (v, rest)) (hskip : skipSpace rest = ',' :: after) :
    readMembers (fuel + 1) none acc ('"' :: text) =
      readMembers fuel none (acc.set (String.ofList key) v) (skipSpace after) := by
  rw [readMembers, hkey]
  simp only [bind, Except.bind, hcolon, hread, hskip]

/-- An object with members. -/
theorem readValue_object {fields : Fields} (hopen : (skipSpace text).head? ≠ some '}')
    (hread : readMembers fuel none [] (skipSpace text) = .ok (fields, rest)) :
    readValue (fuel + 1) none ('{' :: text) = .ok (.obj fields, rest) := by
  rw [readValue]
  split
  · next h =>
    rw [h] at hopen
    exact absurd rfl hopen
  · simp only [enter, bind, Except.bind, hread]
    rfl

end

/-- A value is read wherever it stands. -/
def ReadsBack (style : Style) (v : Json) : Prop :=
  ∀ level fuel rest, (renderAt style level v).length ≤ fuel → endsNumber rest = true →
    readValue fuel none (renderAt style level v ++ rest) = .ok (v, rest)

theorem readsBack_null (style : Style) : ReadsBack style .null := by
  intro level fuel rest hfuel hrest
  obtain ⟨fuel, rfl⟩ : ∃ k, fuel = k + 1 := ⟨fuel - 1, by simp [renderAt] at hfuel; omega⟩
  rfl

theorem readsBack_bool (style : Style) (b : Bool) : ReadsBack style (.bool b) := by
  intro level fuel rest hfuel hrest
  obtain ⟨fuel, rfl⟩ : ∃ k, fuel = k + 1 := ⟨fuel - 1, by cases b <;> simp [renderAt] at hfuel <;> omega⟩
  cases b <;> rfl

theorem readsBack_num (style : Style) {n : Number} (h : hasPlainNumber (.num n) = true) : ReadsBack style (.num n) := by
  intro level fuel rest hfuel hrest
  have hread := readNumber_render h hrest
  obtain ⟨c, cs, htext, hc⟩ := head_render h
  rw [renderAt, htext] at hfuel ⊢
  rw [htext] at hread
  obtain ⟨fuel, rfl⟩ : ∃ k, fuel = k + 1 := ⟨fuel - 1, by simp at hfuel; omega⟩
  have hne {d : Char} (hd : d ≠ '-') (hdigit : d.isDigit = false) : c ≠ d := ne_of_number hc hd hdigit
  rw [List.cons_append] at hread ⊢
  rw [readValue, readWord?_of_number hc]
  · dsimp only
    rw [hread]
    rfl
  · intro _ heq
    exact hne (by decide) rfl (List.cons.inj heq).1
  · intro _ heq
    exact hne (by decide) rfl (List.cons.inj heq).1
  · intro _ heq
    exact hne (by decide) rfl (List.cons.inj heq).1

theorem readsBack_str (style : Style) (s : String) : ReadsBack style (.str s) := by
  intro level fuel rest hfuel hrest
  obtain ⟨fuel, rfl⟩ : ∃ k, fuel = k + 1 := ⟨fuel - 1, by simp [renderAt, renderString] at hfuel; omega⟩
  have hread := readChars_renderString style s.toList rest
  have htext : renderAt style level (.str s) ++ rest = '"' :: (s.toList.flatMap (renderChar style) ++ '"' :: rest) := by
    simp [renderAt, renderString]
  rw [htext, readValue, hread]
  simp only [bind, Except.bind, String.ofList_toList]
  rfl

/-- A key that is read is a new one where no key is repeated. -/
theorem set_ofList_of_nodup {acc members : Fields} {k : String} {v : Json}
    (h : (Fields.keys (acc ++ (k, v) :: members)).Nodup) : acc.set (String.ofList k.toList) v = acc ++ [(k, v)] := by
  rw [String.ofList_toList]
  refine Fields.set_of_not_mem (fun hmem => ?_) v
  rw [Fields.keys, List.map_append] at h
  exact (List.nodup_append.mp h).2.2 k hmem k List.mem_cons_self rfl

/-! ## Lists -/

section

variable {style : Style} (hstyle : style.IsSeparated)
include hstyle

/-- **Items that are read make a list that is read**, up to its closing bracket. -/
theorem readItems_render {x : Json} {xs : List Json} (hread : ∀ y ∈ x :: xs, ReadsBack style y)
    (hplain : ∀ y ∈ x :: xs, y.isPlain = true) (level inner fuel : Nat) (rest : List Char)
    (hfuel : (renderAt style inner x).length + (renderItems style inner xs).length < fuel) :
    readItems fuel none (renderAt style inner x ++ (renderItems style inner xs ++ (breakLine style level ++ ']' :: rest))) =
      .ok (x :: xs, rest) := by
  obtain ⟨blanks, hseparator, hblanks⟩ := hstyle.items
  obtain ⟨fuel, rfl⟩ : ∃ k, fuel = k + 1 := ⟨fuel - 1, by omega⟩
  induction xs generalizing x fuel with
  | nil =>
    refine readItems_last (hread x List.mem_cons_self inner fuel _ (by omega) ?_) ?_
    · exact endsNumber_breakLine style level rfl
    · exact (skipSpace_append (isSpace_breakLine style level) _).trans (skipSpace_cons rfl _)
  | cons y ys ih =>
    rw [renderItems, hseparator] at hfuel ⊢
    simp only [List.length_append, List.length_cons] at hfuel
    obtain ⟨fuel, rfl⟩ : ∃ k, fuel = k + 1 := ⟨fuel - 1, by omega⟩
    have hmore := ih (x := y) (fun z hz => hread z (List.mem_cons_of_mem _ hz))
      (fun z hz => hplain z (List.mem_cons_of_mem _ hz)) fuel (by omega)
    obtain ⟨c, cs, htext, hc, -⟩ := head_renderAt style inner (hplain y (List.mem_cons_of_mem _ List.mem_cons_self))
    simp only [List.append_assoc, List.cons_append]
    refine readItems_more (hread x List.mem_cons_self inner (fuel + 1) _ (by omega) rfl) (skipSpace_cons rfl _) ?_
    rw [skipSpace_append hblanks, skipSpace_append (isSpace_breakLine style inner), htext, List.cons_append,
      skipSpace_cons hc, ← List.cons_append, ← htext]
    exact hmore

/-- A list of items that are read is read. -/
theorem readsBack_arr {items : List Json} (hread : ∀ y ∈ items, ReadsBack style y)
    (hplain : ∀ y ∈ items, y.isPlain = true) : ReadsBack style (.arr items) := by
  intro level fuel rest hfuel hrest
  obtain ⟨fuel, rfl⟩ : ∃ k, fuel = k + 1 := ⟨fuel - 1, by cases items <;> simp [renderAt] at hfuel <;> omega⟩
  cases items with
  | nil => rfl
  | cons x xs =>
    obtain ⟨c, cs, htext, hc, hopen⟩ := head_renderAt style (level + 1) (hplain x List.mem_cons_self)
    have hitems := readItems_render hstyle hread hplain level (level + 1) fuel rest
    rw [renderAt] at hfuel ⊢
    simp only [List.length_cons, List.length_append] at hfuel
    simp only [List.append_assoc, List.cons_append, List.nil_append]
    have hskip : skipSpace (breakLine style (level + 1) ++ (renderAt style (level + 1) x ++
        (renderItems style (level + 1) xs ++ (breakLine style level ++ ']' :: rest)))) =
        renderAt style (level + 1) x ++ (renderItems style (level + 1) xs ++ (breakLine style level ++ ']' :: rest)) := by
      rw [skipSpace_append (isSpace_breakLine style _), htext, List.cons_append, skipSpace_cons hc]
    refine readValue_list ?_ ?_
    · rw [hskip, htext]
      rintro ⟨⟩
      exact hopen rfl
    · rw [hskip]
      exact hitems (by simp at hfuel; omega)

/-! ## Objects -/

/-- The text of a member: its key, a colon, and a value that is read. -/
theorem exists_member (k : String) {v : Json} (hread : ReadsBack style v) (hplain : v.isPlain = true)
    (inner fuel : Nat) (hfuel : (renderAt style inner v).length ≤ fuel) (more : List Char)
    (hmore : endsNumber more = true) :
    ∃ text colon value, renderString style k ++ (style.keySeparator ++ (renderAt style inner v ++ more)) = '"' :: text ∧
      readChars text = .ok (k.toList, colon) ∧ skipSpace colon = ':' :: value ∧
      readValue fuel none (skipSpace value) = .ok (v, more) := by
  obtain ⟨gaps, hseparator, hgaps⟩ := hstyle.keys
  obtain ⟨c, cs, htext, hc, -⟩ := head_renderAt style inner hplain
  refine ⟨_, _, gaps ++ (renderAt style inner v ++ more), ?_, readChars_renderString style k.toList
    (style.keySeparator ++ (renderAt style inner v ++ more)), ?_, ?_⟩
  · simp [renderString]
  · rw [hseparator, List.cons_append, skipSpace_cons rfl]
  · rw [skipSpace_append hgaps, htext, List.cons_append, skipSpace_cons hc, ← List.cons_append, ← htext]
    exact hread inner fuel more hfuel hmore

/-- **Members whose values are read make an object that is read**, up to its closing brace, behind those that were read
before. -/
theorem readMembers_render {k : String} {v : Json} {members : Fields}
    (hread : ∀ m ∈ (k, v) :: members, ReadsBack style m.2) (hplain : ∀ m ∈ (k, v) :: members, m.2.isPlain = true)
    (acc : Fields) (hkeys : (Fields.keys (acc ++ (k, v) :: members)).Nodup) (level inner fuel : Nat) (rest : List Char)
    (hfuel : (renderAt style inner v).length + (renderMembers style inner members).length < fuel) :
    readMembers fuel none acc (renderString style k ++ (style.keySeparator ++ (renderAt style inner v ++
      (renderMembers style inner members ++ (breakLine style level ++ '}' :: rest))))) =
      .ok (acc ++ (k, v) :: members, rest) := by
  obtain ⟨blanks, hseparator, hblanks⟩ := hstyle.items
  obtain ⟨fuel, rfl⟩ : ∃ k, fuel = k + 1 := ⟨fuel - 1, by omega⟩
  induction members generalizing k v acc fuel with
  | nil =>
    have hset := set_ofList_of_nodup hkeys
    obtain ⟨text, colon, value, htext, hkey, hcolon, hvalue⟩ := exists_member hstyle k (hread _ List.mem_cons_self)
      (hplain _ List.mem_cons_self) inner fuel (by dsimp only; omega) (breakLine style level ++ '}' :: rest)
      (endsNumber_breakLine style level rfl)
    have hskip : skipSpace (breakLine style level ++ '}' :: rest) = '}' :: rest :=
      (skipSpace_append (isSpace_breakLine style level) _).trans (skipSpace_cons rfl _)
    rw [renderMembers, List.nil_append, htext, readMembers_last hkey hcolon hvalue hskip, hset]
  | cons m ms ih =>
    obtain ⟨k', v'⟩ := m
    have hset := set_ofList_of_nodup hkeys
    rw [renderMembers, hseparator] at hfuel ⊢
    simp only [List.length_append, List.length_cons] at hfuel
    simp only [List.append_assoc, List.cons_append]
    obtain ⟨fuel, rfl⟩ : ∃ k, fuel = k + 1 := ⟨fuel - 1, by omega⟩
    obtain ⟨text, colon, value, htext, hkey, hcolon, hvalue⟩ := exists_member hstyle k (hread _ List.mem_cons_self)
      (hplain _ List.mem_cons_self) inner (fuel + 1) (by dsimp only; omega)
      (',' :: (blanks ++ (breakLine style inner ++ (renderString style k' ++ (style.keySeparator ++
        (renderAt style inner v' ++ (renderMembers style inner ms ++ (breakLine style level ++ '}' :: rest)))))))) rfl
    have hkeys : (Fields.keys (acc ++ [(k, v)] ++ (k', v') :: ms)).Nodup := by
      rwa [List.append_assoc, List.singleton_append]
    have hmore := ih (fun z hz => hread z (List.mem_cons_of_mem _ hz))
      (fun z hz => hplain z (List.mem_cons_of_mem _ hz)) _ hkeys fuel (by omega)
    have hquote : skipSpace (renderString style k' ++ (style.keySeparator ++ (renderAt style inner v' ++
        (renderMembers style inner ms ++ (breakLine style level ++ '}' :: rest))))) = renderString style k' ++
        (style.keySeparator ++ (renderAt style inner v' ++ (renderMembers style inner ms ++
          (breakLine style level ++ '}' :: rest)))) := skipSpace_cons rfl _
    rw [htext, readMembers_more hkey hcolon hvalue (skipSpace_cons rfl _), hset, skipSpace_append hblanks,
      skipSpace_append (isSpace_breakLine style inner), hquote, hmore, List.append_assoc, List.singleton_append]

/-- An object whose values are read is read, if it repeats no key. -/
theorem readsBack_obj {fields : Fields} (hread : ∀ m ∈ fields, ReadsBack style m.2)
    (hplain : ∀ m ∈ fields, m.2.isPlain = true) (hkeys : fields.keys.Nodup) : ReadsBack style (.obj fields) := by
  intro level fuel rest hfuel hrest
  obtain ⟨fuel, rfl⟩ : ∃ k, fuel = k + 1 := ⟨fuel - 1, by cases fields <;> simp [renderAt] at hfuel <;> omega⟩
  cases fields with
  | nil => rfl
  | cons m members =>
    obtain ⟨k, v⟩ := m
    have hmembers := readMembers_render hstyle hread hplain [] hkeys level (level + 1) fuel rest
    rw [renderAt] at hfuel ⊢
    simp only [List.length_cons, List.length_append] at hfuel
    simp only [List.append_assoc, List.cons_append, List.nil_append] at hmembers ⊢
    have hskip : skipSpace (breakLine style (level + 1) ++ (renderString style k ++ (style.keySeparator ++
        (renderAt style (level + 1) v ++ (renderMembers style (level + 1) members ++
          (breakLine style level ++ '}' :: rest)))))) = renderString style k ++ (style.keySeparator ++
        (renderAt style (level + 1) v ++ (renderMembers style (level + 1) members ++
          (breakLine style level ++ '}' :: rest)))) :=
      (skipSpace_append (isSpace_breakLine style _) _).trans (skipSpace_cons rfl _)
    refine readValue_object ?_ ?_
    · rw [hskip]
      exact nofun
    · rw [hskip]
      exact hmembers (by simp at hfuel; omega)

/-! ## Documents -/

/-- **A value that is written is read**, up to what follows it. -/
theorem readsBack {v : Json} (hproper : v.isProper = true) (hplain : v.isPlain = true) : ReadsBack style v := by
  induction v using Json.induction with
  | null => exact readsBack_null style
  | bool b => exact readsBack_bool style b
  | num n => exact readsBack_num style hplain
  | str s => exact readsBack_str style s
  | arr items ih =>
    rw [isProper_arr] at hproper
    rw [isPlain_arr] at hplain
    exact readsBack_arr hstyle (fun y hy => ih y hy (hproper y hy) (hplain y hy)) hplain
  | obj fields ih =>
    rw [isProper_obj] at hproper
    rw [isPlain_obj] at hplain
    exact readsBack_obj hstyle (fun m hm => ih m hm (hproper.2 m hm) (hplain m hm)) hplain hproper.1

/-- **A document that is written is read as it was.** -/
theorem parse_renderAt {v : Json} (hproper : v.isProper = true) (hplain : v.isPlain = true) :
    parse (renderAt style 0 v) = .ok v := by
  obtain ⟨c, cs, htext, hc, -⟩ := head_renderAt style 0 hplain
  have hread := readsBack hstyle hproper hplain 0 (2 * (renderAt style 0 v).length + 2) [] (by omega) rfl
  rw [List.append_nil] at hread
  have hskip : skipSpace (renderAt style 0 v) = renderAt style 0 v := by
    rw [htext, skipSpace_cons hc]
  rw [parse, parseWithin, hskip, hread]
  rfl

end

end WorkflowLab.Json
