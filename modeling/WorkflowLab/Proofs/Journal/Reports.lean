import WorkflowLab.Proofs.Journal.Writes
import WorkflowLab.Proofs.Walk.Wiring
import WorkflowLab.Run.Runner

/-!
# Reports in the log

- `Report`: a log ends with the report of a failure, the only error of its node;
- `Block.report`: the entries of an executor of the library that fails are such a log;
- `Turn.KeepsWord`, `Executor.KeepsWord`: an executor from elsewhere has reported what it says it has reported;
- `Executor.WritesOwn`, `Registry.WritesOwn`: executors write about the node that they run;
- `runGuest_writes`, `report_iff_of_gists`: what such executors write, and when it ends with a report.
-/

namespace WorkflowLab.Run

/-- No error of a node is in a log. -/
def NoError (id : String) (log : List Entry) : Prop := ∀ entry ∈ log, entry.nodeId = id → entry.event ≠ .error

/-- **A log ends with the report of a failure of a node**, the only error of that node. -/
def Report (id message : String) (log : List Entry) : Prop :=
  ∃ front entry, log = front ++ [entry] ∧ IsReport id message entry ∧ NoError id front

/-- A log with a report at its end reports the failure if no error of the node comes before. -/
theorem report_concat_iff {id message : String} {log : List Entry} {entry : Entry} (h : IsReport id message entry) :
    Report id message (log ++ [entry]) ↔ NoError id log := by
  constructor
  · rintro ⟨front, other, hsplit, _, hclean⟩
    rwa [(List.append_inj' hsplit rfl).1]
  · exact fun hclean => ⟨log, entry, rfl, h, hclean⟩

/-- Entries of other nodes do not matter to a report. -/
theorem report_append_iff {id message : String} {old added : List Entry} (hold : ∀ entry ∈ old, entry.nodeId ≠ id) :
    Report id message (old ++ added) ↔ Report id message added := by
  constructor
  · rintro ⟨front, entry, hsplit, hreport, hclean⟩
    rcases List.eq_nil_or_concat added with rfl | ⟨init, last, rfl⟩
    · have hmem : entry ∈ old := by
        rw [List.append_nil] at hsplit
        rw [hsplit]
        exact List.mem_append_right _ (List.mem_singleton_self entry)
      exact absurd hreport.1 (hold entry hmem)
    · rw [List.concat_eq_append, ← List.append_assoc] at hsplit
      obtain ⟨hfront, hlast⟩ := List.append_inj' hsplit rfl
      obtain rfl : last = entry := List.singleton_inj.mp hlast
      refine ⟨init, last, List.concat_eq_append, hreport, fun other hother => hclean other ?_⟩
      rw [← hfront]
      exact List.mem_append_right _ hother
  · rintro ⟨front, entry, rfl, hreport, hclean⟩
    refine ⟨old ++ front, entry, (List.append_assoc _ _ _).symm, hreport, fun other hother => ?_⟩
    rcases List.mem_append.mp hother with hother | hother
    · exact fun hid => absurd hid (hold other hother)
    · exact hclean other hother

/-- A log without entries of a node does not report its failure. -/
theorem not_report_of_foreign {id message : String} {log : List Entry} (hlog : ∀ entry ∈ log, entry.nodeId ≠ id) :
    ¬Report id message log := by
  rintro ⟨front, entry, rfl, hreport, -⟩
  exact hlog entry (List.mem_append_right _ (List.mem_singleton_self entry)) hreport.1

/-! ## Executors of the library -/

/-- Entries with the tags of a node are of the node. -/
theorem nodeId_of_tags {log : List Entry} {id : String} {events : List Event}
    (h : tags log = events.map fun event => (id, event)) :
    ∀ entry ∈ log, entry.nodeId = id ∧ entry.event ∈ events := by
  intro entry hentry
  have hmem : (entry.nodeId, entry.event) ∈ tags log := List.mem_map_of_mem hentry
  rw [h] at hmem
  obtain ⟨event, hevent, heq⟩ := List.mem_map.mp hmem
  obtain ⟨hid, rfl⟩ := Prod.mk.inj heq
  exact ⟨hid.symm, hevent⟩

/-- All entries of a block are of its node. -/
theorem Block.nodeId {phases : List Event} {task : Task} {result : Except NodeFault Json} {added : List Entry}
    (h : Block phases task result added) : ∀ entry ∈ added, entry.nodeId = task.id := by
  match result, h with
  | .ok _, h => exact fun entry hentry => (nodeId_of_tags h entry hentry).1
  | .error (.reported message), ⟨_, front, last, hadded, hfront, hreport⟩ =>
    intro entry hentry
    rw [hadded] at hentry
    rcases List.mem_append.mp hentry with hentry | hentry
    · rcases hfront with rfl | hfront
      · cases hentry
      · exact (nodeId_of_tags hfront entry hentry).1
    · rw [List.mem_singleton.mp hentry]
      exact hreport.1

/-- The phases of an executor are no errors. -/
theorem Executor.error_not_mem_phases (e : Executor) : .error ∉ e.phases := by cases e <;> simp [Executor.phases]

/-- A block of a failure is its report. -/
theorem Block.report {e : Executor} {task : Task} {message : String} {added : List Entry}
    (h : Block e.phases task (.error (.reported message)) added) : message ≠ "" ∧ Report task.id message added := by
  obtain ⟨hmessage, front, entry, hadded, hfront, hreport⟩ := h
  refine ⟨hmessage, front, entry, hadded, hreport, fun other hother _ herror => ?_⟩
  rcases hfront with rfl | hfront
  · cases hother
  · exact e.error_not_mem_phases (herror ▸ (nodeId_of_tags hfront other hother).2)

/-! ## Executors from elsewhere -/

namespace Note

/-- The node that the entry is about. A report is about the node that is run. -/
def about (id : String) : Note → String
  | .entry nodeId _ _ _ => nodeId
  | .report _ => id

/-- The event of the entry. -/
def event : Note → Event
  | .entry _ event _ _ => event
  | .report _ => .error

/-- The message of the entry. -/
def message : Note → String
  | .entry _ _ message _ => message
  | .report message => message

end Note

/-- **What executors promise about failures**: one that they report is the last thing that they note, in the words of
the failed run and as their only error; and they note no error for one that passes, which is reported for them. -/
def Turn.KeepsWord (turn : Turn) : Prop :=
  match turn.result with
  | .ok _ => True
  | .error (.reported message) => ∃ front last, turn.notes = front ++ [last] ∧ last.event = .error ∧
    last.message = failureText message ∧ ∀ note ∈ front, note.event ≠ .error
  | .error (.raised _) => ∀ note ∈ turn.notes, note.event ≠ .error

/-- An executor has kept its word, given the tasks of executors from elsewhere. Those of the library always do. -/
def Executor.KeepsWord (guests : List Task) : Executor → Prop
  | .guest _ act => (act guests).KeepsWord
  | _ => True

/-- **An executor writes about the node that it runs**, and no other. Those of the library do. -/
def Executor.WritesOwn (e : Executor) : Prop :=
  ∀ tasks task turn, e.turn? (tasks ++ [task]) = some turn → ∀ note ∈ turn.notes, note.about task.id = task.id

theorem Executor.writesOwn_of_library {e : Executor} (hlibrary : ∀ name act, e ≠ .guest name act) : e.WritesOwn := by
  intro tasks task turn hturn
  rw [turn?_of_library hlibrary] at hturn
  cases hturn

/-- The executors of a registry write about the nodes that they run. -/
def Registry.WritesOwn (r : Registry) : Prop := ∀ node e, r.resolve? node = some e → e.WritesOwn

/-- The node, the event and the message of an entry. -/
def gist (entry : Entry) : String × Event × String := (entry.nodeId, entry.event, entry.message)

/-- The gist of the entry of a note. -/
def Note.gist (id : String) (note : Note) : String × Event × String := (note.about id, note.event, note.message)

/-- The entries of notes. -/
theorem writeAll_gists (task : Task) (notes : List Note) (w : World) :
    ∃ w' added, Work.writeAll task notes w = (.ok (), w') ∧ w'.guests = w.guests ∧ w'.log = w.log ++ added ∧
      added.map gist = notes.map (Note.gist task.id) := by
  induction notes generalizing w with
  | nil => exact ⟨w, [], rfl, rfl, (List.append_nil _).symm, rfl⟩
  | cons note rest ih =>
    obtain ⟨w₁, entry, hwrite, hguests₁, hlog₁, hgist⟩ : ∃ w₁ entry, note.write task w = (.ok (), w₁) ∧
        w₁.guests = w.guests ∧ w₁.log = w.log ++ [entry] ∧ gist entry = note.gist task.id := by
      cases note with
      | entry => exact ⟨_, _, rfl, rfl, rfl, rfl⟩
      | report => exact ⟨_, _, rfl, rfl, rfl, rfl⟩
    obtain ⟨w₂, added, hrest, hguests₂, hlog₂, hgists⟩ := ih w₁
    refine ⟨w₂, entry :: added, ?_, hguests₂.trans hguests₁, ?_, by simp [hgist, hgists]⟩
    · exact (Work.bind_of_ok hwrite).trans hrest
    · rw [hlog₂, hlog₁, List.append_assoc, List.singleton_append]

/-- What an executor from elsewhere writes. -/
theorem runGuest_writes (act : List Task → Turn) (task : Task) (w : World) :
    ∃ w' added, runGuest act task w = ((act w'.guests).result, w') ∧ w'.guests = w.guests ++ [task] ∧
      w'.log = w.log ++ added ∧ added.map gist = (act w'.guests).notes.map (Note.gist task.id) := by
  have henroll : (ExceptT.lift (Lab.enroll task) : Work (List Task)) w =
      (.ok (w.guests ++ [task]), { w with guests := w.guests ++ [task] }) := rfl
  obtain ⟨w', added, hwrite, hguests, hlog, hgists⟩ :=
    writeAll_gists task (act (w.guests ++ [task])).notes { w with guests := w.guests ++ [task] }
  have hguests : w'.guests = w.guests ++ [task] := hguests
  refine ⟨w', added, ?_, hguests, hlog, hguests ▸ hgists⟩
  rw [runGuest, Work.bind_of_ok henroll, Turn.carryOut, Work.bind_of_ok hwrite, hguests]
  cases (act (w.guests ++ [task])).result <;> rfl

section Gists

variable {id : String} {added : List Entry} {notes : List Note} (hgists : added.map gist = notes.map (Note.gist id))
  (hown : ∀ note ∈ notes, note.about id = id)
include hgists hown

/-- The entries of notes are of the node. -/
theorem nodeId_of_gists : ∀ entry ∈ added, entry.nodeId = id := by
  intro entry hentry
  have hmem : gist entry ∈ added.map gist := List.mem_map_of_mem hentry
  rw [hgists] at hmem
  obtain ⟨note, hnote, hgist⟩ := List.mem_map.mp hmem
  exact (congrArg Prod.fst hgist.symm).trans (hown note hnote)

/-- The errors among the entries are those among the notes. -/
theorem noError_iff_of_gists : NoError id added ↔ ∀ note ∈ notes, note.event ≠ .error := by
  constructor
  · intro hclean note hnote
    have hmem : Note.gist id note ∈ notes.map (Note.gist id) := List.mem_map_of_mem hnote
    rw [← hgists] at hmem
    obtain ⟨entry, hentry, hgist⟩ := List.mem_map.mp hmem
    have hevent : entry.event = note.event := congrArg (·.2.1) hgist
    exact hevent ▸ hclean entry hentry ((congrArg Prod.fst hgist).trans (hown note hnote))
  · intro hquiet entry hentry _
    have hmem : gist entry ∈ added.map gist := List.mem_map_of_mem hentry
    rw [hgists] at hmem
    obtain ⟨note, hnote, hgist⟩ := List.mem_map.mp hmem
    have hevent : note.event = entry.event := congrArg (·.2.1) hgist
    exact hevent ▸ hquiet note hnote

/-- The entries of notes end with a report when the notes do. -/
theorem report_iff_of_gists {message : String} :
    Report id message added ↔ ∃ front last, notes = front ++ [last] ∧ last.event = .error ∧
      last.message = message ∧ ∀ note ∈ front, note.event ≠ .error := by
  constructor
  · rintro ⟨front, entry, rfl, ⟨_, hevent, hmessage⟩, hclean⟩
    rw [List.map_append] at hgists
    obtain ⟨before, after, rfl, hfront, hlast⟩ := List.map_eq_append_iff.mp hgists.symm
    obtain ⟨last, rfl, hgist⟩ := List.map_eq_singleton_iff.mp hlast
    exact ⟨before, last, rfl, (congrArg (·.2.1) hgist).trans hevent, (congrArg (·.2.2) hgist).trans hmessage,
      (noError_iff_of_gists hfront.symm fun note hnote => hown note (List.mem_append_left _ hnote)).mp hclean⟩
  · rintro ⟨before, last, rfl, hevent, hmessage, hquiet⟩
    rw [List.map_append] at hgists
    obtain ⟨front, back, rfl, hfront, hlast⟩ := List.map_eq_append_iff.mp hgists
    obtain ⟨entry, rfl, hgist⟩ := List.map_eq_singleton_iff.mp hlast
    have habout := hown last (List.mem_append_right _ (List.mem_singleton_self last))
    exact ⟨front, entry, rfl, ⟨(congrArg Prod.fst hgist).trans habout, (congrArg (·.2.1) hgist).trans hevent,
      (congrArg (·.2.2) hgist).trans hmessage⟩,
      (noError_iff_of_gists hfront fun note hnote => hown note (List.mem_append_left _ hnote)).mpr hquiet⟩

end Gists

/-- What is written by an executor that writes about its own node is about this node. -/
theorem run_written {e : Executor} (he : e.WritesOwn) (task : Task) :
    (e.run task).Writes fun _ added => ∀ entry ∈ added, entry.nodeId = task.id := by
  intro w
  rcases e.guest_or_library with ⟨name, act, rfl⟩ | hlibrary
  · obtain ⟨w', added, hrun, hguests, hlog, hgists⟩ := runGuest_writes act task w
    refine ⟨added, ?_, nodeId_of_gists hgists (he w.guests task _ (hguests ▸ rfl))⟩
    show (runGuest act task w).2.log = w.log ++ added
    rw [hrun]
    exact hlog
  · obtain ⟨added, hlog, hblock⟩ := run_block hlibrary task w
    exact ⟨added, hlog, hblock.nodeId⟩

end WorkflowLab.Run
