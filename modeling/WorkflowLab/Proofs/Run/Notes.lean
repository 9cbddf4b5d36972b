import WorkflowLab.Proofs.Run.Keeps
import WorkflowLab.Proofs.Run.Reported

/-!
# Records and their context

- `World.NotesTo`: from one world to another nothing was recorded but in the trace context of the first, which stays;
- `World.respected_notesTo`: the steps of executors record in this way only, the calls included;
- `notes_run`: so do all executors, those from elsewhere included;
- `handle_notes`: so does the run of a node, in the context that names the node.
-/

namespace WorkflowLab.Run

variable {α β : Type}

/-- **From one world to another, records were written only in the trace context of the first**, and this context
stays. -/
structure World.NotesTo (w w' : World) : Prop where
  trace : w'.trace = w.trace
  records : ∃ added, w'.records = w.records ++ added ∧ ∀ r ∈ added, r.context = w.trace

namespace World.NotesTo

variable {w w' w'' : World}

/-- Nothing was recorded, and the context is the same. -/
theorem of_eq (htrace : w'.trace = w.trace) (hrecords : w'.records = w.records) : w.NotesTo w' :=
  ⟨htrace, [], by rw [hrecords, List.append_nil], List.forall_mem_nil _⟩

theorem refl (w : World) : w.NotesTo w := of_eq rfl rfl

theorem trans (h : w.NotesTo w') (h' : w'.NotesTo w'') : w.NotesTo w'' := by
  obtain ⟨added, hadded, hcontext⟩ := h.records
  obtain ⟨more, hmore, hcontext'⟩ := h'.records
  refine ⟨h'.trace.trans h.trace, added ++ more, by rw [hmore, hadded, List.append_assoc], ?_⟩
  rw [h.trace] at hcontext'
  exact List.forall_mem_append.mpr ⟨hcontext, hcontext'⟩

/-- One record was written. -/
theorem one {r : Record} (htrace : w'.trace = w.trace) (hrecords : w'.records = w.records ++ [r])
    (hcontext : r.context = w.trace) : w.NotesTo w' :=
  ⟨htrace, [r], hrecords, List.forall_mem_singleton.mpr hcontext⟩

end World.NotesTo

/-- Whatever makes no calls records in this way only. -/
theorem World.respected_notesTo : Respected World.NotesTo where
  refl := .refl
  trans := .trans
  enter _ _ _ _ _ := .of_eq rfl rfl
  note _ _ _ _ _ := .one rfl rfl rfl
  stamp _ := .of_eq rfl rfl

open World (respected_notesTo)

namespace Work

/-- A computation records only in the trace context that it finds. -/
def Notes (c : Work α) : Prop := c.Respects World.NotesTo

theorem notes_enroll (task : Task) : Notes (ExceptT.lift (Lab.enroll task) : Work (List Task)) :=
  fun _ => .of_eq rfl rfl

/-- A gateway may warn of a request before it answers it. -/
theorem notes_ask (provider : Provider) (r : CompletionRequest) :
    Notes (ExceptT.lift (Lab.ask provider r) : Work (Except Failure Completion)) := fun w => by
  show w.NotesTo (Lab.ask provider r w).2
  unfold Lab.ask
  cases provider.warning? w.completions r with
  | none => exact .of_eq rfl rfl
  | some message => exact .one rfl rfl rfl

/-- A fetcher may note a reply. -/
theorem notes_send (fetcher : Fetcher) (r : WebRequest) :
    Notes (ExceptT.lift (Lab.send fetcher r) : Work (Except Failure WebReply)) := fun w => by
  show w.NotesTo (Lab.send fetcher r w).2
  unfold Lab.send
  cases fetcher.reply (w.fetches ++ [r]) with
  | error f => exact .of_eq rfl rfl
  | ok reply =>
    dsimp only
    cases fetcher.note? r reply with
    | none => exact .of_eq rfl rfl
    | some message => exact .one rfl rfl rfl

theorem notes_writeAll (task : Task) (notes : List Note) : (writeAll task notes).Notes := by
  induction notes with
  | nil => exact respected_notesTo.pure ()
  | cons note rest ih =>
    refine respected_notesTo.bind ?_ fun _ => ih
    cases note with
    | entry nodeId event message data =>
      exact respects_lift fun w => respected_notesTo.enter w nodeId event message data
    | report message => exact respected_notesTo.report task message

end Work

open Work

section Executors

variable (task : Task)

theorem notes_runPrompt (service : PromptService) : (service.run task).Notes := by
  have rules := respected_notesTo
  refine rules.bind (rules.settings task _) fun s => rules.bind (rules.workEnter task _ _ _) fun _ => ?_
  cases service.provider with
  | none => exact rules.fail task _
  | some provider =>
    refine rules.bind ?_ ?_
    · unfold PromptService.attempt
      cases limitFault? service.timeout with
      | some f => exact respects_lift rules.refl
      | none => exact notes_ask provider _
    · rintro (f | c)
      · exact rules.fail task _
      · exact rules.bind (rules.workEnter task _ _ _) fun _ => rules.bind (rules.workNote _ _ _ _) fun _ => rules.pure _

theorem notes_exchange (fetcher : Fetcher) (r : WebRequest) (opening label : String) :
    (exchange fetcher task r opening label).Notes := by
  have rules := respected_notesTo
  refine rules.bind (rules.workEnter task _ _ _) fun _ => rules.bind (notes_send fetcher r) ?_
  rintro (f | reply)
  · exact rules.fail task _
  · exact rules.bind (rules.workEnter task _ _ _) fun _ => rules.pure _

theorem notes_runRequest (fetcher : Fetcher) (demoUrl : Json) : (runRequest fetcher demoUrl task).Notes := by
  refine respected_notesTo.bind (respected_notesTo.settings task _) fun s => ?_
  cases filled? s.url with
  | none => exact notes_exchange task fetcher _ _ _
  | some url => exact notes_exchange task fetcher _ _ _

theorem notes_runGuest (act : List Task → Turn) : (runGuest act task).Notes := by
  refine respected_notesTo.bind (notes_enroll task) fun tasks => ?_
  refine respected_notesTo.bind (notes_writeAll task (act tasks).notes) fun _ => ?_
  cases (act tasks).result with
  | ok output => exact respected_notesTo.pure output
  | error fault => exact respected_notesTo.throw fault

/-- **Every executor records only in the trace context that it finds.** -/
theorem notes_run (e : Executor) : (e.run task).Notes := by
  cases e with
  | prompt service => exact notes_runPrompt task service
  | request fetcher demoUrl => exact notes_runRequest task fetcher demoUrl
  | guest name act => exact notes_runGuest task act
  | manual | webhook | transform | condition | trigger | passthrough | output =>
    exact respects_run respected_notesTo task trivial

end Executors

/-- **Running a node records only in the context that names the node**, also when it fails. -/
theorem Runner.handle_notes (runner : Runner) (node : Node) (input : Json) (w : World) :
    (entered node w).NotesTo (runner.handle node input w).2 := by
  cases hexecutor : runner.registry.resolve? node with
  | none =>
    rw [handle_of_none hexecutor]
    exact .refl _
  | some executor =>
    have hrun := notes_run (Task.mk node input) executor (entered node w)
    rw [handle_of_some hexecutor]
    generalize executor.run (Task.mk node input) (entered node w) = ended at hrun
    obtain ⟨(message | f) | output, w'⟩ := ended
    · exact hrun
    · exact hrun.trans (.one rfl rfl rfl)
    · exact hrun

end WorkflowLab.Run
