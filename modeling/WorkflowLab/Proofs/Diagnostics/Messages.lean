import WorkflowLab.Diagnostics.Report
import WorkflowLab.Proofs.Json.Parts
import WorkflowLab.Proofs.Text.Colours

/-!
# The message of a report

- `toList_stripColours`: a text without colours is what the pass over it leaves;
- `get?_merge`: what is found in an object after the members of another one were set;
- `structured_eq`, `get?_message`: the report for machines, and its message;
- `colours_left`: **when colours are left in a text, and in the message of a report**.
-/

namespace WorkflowLab

namespace Text.Ansi

theorem toList_stripColours (text : String) : (stripColours text).toList = strip text.toList := String.toList_ofList

/-- A text is stripped of nothing exactly when it holds no colour sequence. -/
theorem stripColours_eq_self_iff {text : String} : stripColours text = text ↔ ¬HoldsColour text.toList := by
  rw [← strip_eq_self_iff, ← toList_stripColours, String.toList_inj]

end Text.Ansi

namespace Fields

/-- **What is found after members were set**: the new value of a key, if there is one, else the old one. -/
theorem get?_merge {more : Fields} (hkeys : more.keys.Nodup) (fields : Fields) (key : String) :
    (fields.merge more).get? key = (more.get? key).or (fields.get? key) := by
  induction more generalizing fields with
  | nil => rfl
  | cons m rest ih =>
    obtain ⟨k, v⟩ := m
    obtain ⟨hfresh, hrest⟩ := List.nodup_cons.mp hkeys
    rw [merge, List.foldl_cons]
    refine (ih hrest (fields.set k v)).trans ?_
    rw [get?_cons]
    split
    · next hkey =>
      have hnone : Fields.get? rest k = none := get?_eq_none_iff.mpr hfresh
      rw [hkey, hnone, get?_set_self]
      rfl
    · next hkey => rw [get?_set_of_ne hkey]

end Fields

namespace Diagnostics

open Text.Ansi

namespace Report

variable (r : Report)

/-- A report whose message can be filled in is written. -/
theorem structured_eq {r : Report} {message : String} (h : r.message = .ok message) (context : Fields)
    (clock : Time.Clock) :
    (r.structured context clock).1 =
      .ok ((Json.obj (r.structuredFields context clock.tick.1.iso message)).render Json.spaced) := by
  unfold structured
  rw [h]
  rfl

/-- The members that machines get to see are in order of their names, each at most once. -/
theorem keys_plainMembers (r : Report) : r.plainMembers.keys.Sublist memberNames := by
  unfold plainMembers
  induction memberNames with
  | nil => exact List.Sublist.slnil
  | cons name names ih =>
    rw [List.filterMap_cons]
    cases r.member? name with
    | none => exact ih.cons name
    | some v => exact ih.cons_cons name

/-- **The message of a report for machines** is that of the context, if the context has one, and else the message that
was filled in, without its colours. -/
theorem get?_message (r : Report) {context : Fields} (hcontext : context.keys.Nodup) (time message : String) :
    (r.structuredFields context time message).get? "message" =
      some ((context.get? "message").getD (.str (stripColours message))) := by
  have hnames : memberNames.Nodup := by decide
  have hother : "message" ∉ memberNames := by decide
  have hkeys : r.plainMembers.keys.Nodup := (keys_plainMembers r).nodup hnames
  have hmembers : r.plainMembers.get? "message" = none :=
    Fields.get?_eq_none_iff.mpr fun hmem => hother ((keys_plainMembers r).subset hmem)
  unfold structuredFields
  dsimp only
  generalize hbase : [("timestamp", Json.str time), ("level", .str (Text.lower r.level.name)),
    ("logger", .str r.logger), ("message", plain (.str message))] = base
  have hwritten : Fields.get? base "message" = some (.str (stripColours message)) := by
    rw [← hbase]
    rfl
  have hall : ((Fields.merge base context).merge r.plainMembers).get? "message" =
      some ((context.get? "message").getD (.str (stripColours message))) := by
    rw [Fields.get?_merge hkeys, hmembers, Option.none_or, Fields.get?_merge hcontext, hwritten]
    cases context.get? "message" <;> rfl
  cases r.failure with
  | none => exact hall
  | some f =>
    dsimp only
    rw [Fields.get?_set_of_ne (by decide)]
    exact hall

/-! ## Colours -/

/-- **When colours are left.** A text is what one pass leaves of it, with colour sequences among its characters. A
colour sequence is left, and the pass changes the rest once more, exactly when the text holds one that others interrupt.
And every report with this message is written, in whatever context, with what is left as its message, unless the context
brings a message of its own, which is written as it is. -/
theorem colours_left (text : String) :
    Interspersed (stripColours text).toList text.toList ∧
    (HoldsColour (stripColours text).toList ↔ HoldsInterrupted text.toList) ∧
    (stripColours (stripColours text) = stripColours text ↔ ¬HoldsInterrupted text.toList) ∧
    ∀ (r : Report) (context : Fields) (clock : Time.Clock), r.message = .ok text → context.keys.Nodup →
      ∃ fields : Fields, (r.structured context clock).1 = .ok ((Json.obj fields).render Json.spaced) ∧
        fields.get? "message" = some ((context.get? "message").getD (.str (stripColours text))) := by
  have hleft : HoldsColour (stripColours text).toList ↔ HoldsInterrupted text.toList := by
    rw [toList_stripColours]
    exact holdsColour_strip_iff text.toList
  refine ⟨?_, hleft, ?_, ?_⟩
  · rw [toList_stripColours]
    exact interspersed_strip text.toList
  · rw [stripColours_eq_self_iff, hleft]
  · intro r context clock hmessage hcontext
    exact ⟨_, structured_eq hmessage context clock, get?_message r hcontext _ text⟩

/-- A report of a call, with a name that is filled in between colours. -/
def called : Report where
  level := .info
  logger := "lab"
  template := setColour 32 ++ "%s" ++ setColour 0
  arguments := [.str "called"]
  members := [("model", .str "mock")]
  failure := none

/-- Its message is written without the colours. -/
theorem colours_left_called :
    called.message = .ok (setColour 32 ++ "called" ++ setColour 0) ∧
    (Fields.keys [("run_id", .str "run")]).Nodup ∧
      ∃ fields : Fields, (called.structured [("run_id", .str "run")] ⟨⟨0, none⟩, 0⟩).1 =
          .ok ((Json.obj fields).render Json.spaced) ∧
        fields.get? "message" = some (.str "called") := by
  have hmessage : called.message = .ok (setColour 32 ++ "called" ++ setColour 0) := by decide
  have hcontext : (Fields.keys [("run_id", .str "run")]).Nodup := by decide
  have hplain : stripColours (setColour 32 ++ "called" ++ setColour 0) = "called" := by decide
  obtain ⟨-, -, -, hwritten⟩ := colours_left (setColour 32 ++ "called" ++ setColour 0)
  rw [hplain] at hwritten
  exact ⟨hmessage, hcontext, hwritten called _ _ hmessage hcontext⟩

/-- A colour sequence with another one in it. -/
def nested : String := String.ofList (escape :: '[' :: '3' :: ((setColour 1).toList ++ ['1', 'm']))

/-- When the inner sequence is gone, the outer one is left. -/
theorem stripColours_nested : stripColours nested = setColour 31 ∧
    HoldsColour (stripColours nested).toList ∧ stripColours (stripColours nested) ≠ stripColours nested := by
  have hleft : stripColours nested = setColour 31 := by decide
  have hparameters : ∀ c ∈ ['3', '1'], isParameter c = true :=
    List.forall_mem_cons.mpr ⟨rfl, List.forall_mem_singleton.mpr rfl⟩
  rw [hleft]
  exact ⟨rfl, ⟨_, ⟨['3', '1'], hparameters, rfl⟩, [], [], rfl⟩, by decide⟩

end Report

end Diagnostics

end WorkflowLab
