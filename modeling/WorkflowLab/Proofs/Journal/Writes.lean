import WorkflowLab.Run.Executor

/-!
# What executors write

- `Work.Writes`: what a computation appends to the log, and with which result; the rules for the steps of executors;
- `IsReport`: the entries that report a failure;
- `Block`: the entries of an executor of the library: those of its phases and one for success, or one for the failure
  that it reports;
- `run_block`: every executor of the library writes such a block.
-/

namespace WorkflowLab.Run

namespace Work

variable {α β : Type}

/-- A computation appends entries to the log, such that they and its result are in `Q`. -/
def Writes (c : Work α) (Q : Except NodeFault α → List Entry → Prop) : Prop :=
  ∀ w : World, ∃ added, (c w).2.log = w.log ++ added ∧ Q (c w).1 added

/-- What is in `Q` is in every larger `R`. -/
theorem Writes.mono {c : Work α} {Q R : Except NodeFault α → List Entry → Prop} (h : c.Writes Q)
    (hQ : ∀ result added, Q result added → R result added) : c.Writes R := fun w => by
  obtain ⟨added, hlog, hadded⟩ := h w
  exact ⟨added, hlog, hQ _ _ hadded⟩

section Rules

variable {task : Task} {Q : Except NodeFault α → List Entry → Prop}

theorem writes_pure {a : α} (h : Q (.ok a) []) : (pure a : Work α).Writes Q := fun w =>
  ⟨[], (List.append_nil w.log).symm, h⟩

/-- A failure that is reported has an error entry. -/
theorem writes_fail {message : String}
    (h : ∀ time, Q (.error (.reported message)) [⟨task.id, .error, message, time, .null, []⟩]) :
    (fail task message : Work α).Writes Q := fun w =>
  ⟨_, rfl, h w.clock.tick.1.iso⟩

/-- An entry, and then what follows it. -/
theorem writes_enter_bind {event : Event} {message : String} {data : Json} {f : Unit → Work α}
    (h : ∀ time, (f ()).Writes fun result added => Q result (⟨task.id, event, message, time, data, []⟩ :: added)) :
    (enter task event message data >>= f).Writes Q := fun w => by
  obtain ⟨added, hlog, hQ⟩ := h w.clock.tick.1.iso (Lab.enter task.id event message data w).2
  refine ⟨⟨task.id, event, message, w.clock.tick.1.iso, data, []⟩ :: added, ?_, hQ⟩
  have hentry : (Lab.enter task.id event message data w).2.log =
      w.log ++ [⟨task.id, event, message, w.clock.tick.1.iso, data, []⟩] := rfl
  rw [hentry, List.append_assoc, List.singleton_append] at hlog
  exact hlog

/-- A computation that leaves the log alone, and then what follows it. -/
theorem writes_lift_bind {c : Lab β} {f : β → Work α} (hlog : ∀ w, (c w).2.log = w.log) (h : ∀ b, (f b).Writes Q) :
    ((ExceptT.lift c : Work β) >>= f : Work α).Writes Q := fun w => by
  obtain ⟨added, hadded, hQ⟩ := h (c w).1 (c w).2
  exact ⟨added, by rw [← hlog w]; exact hadded, hQ⟩

end Rules

end Work

/-! ## Calls leave the log alone -/

theorem log_ask (provider : Provider) (r : CompletionRequest) (w : World) : (Lab.ask provider r w).2.log = w.log := by
  unfold Lab.ask
  cases provider.warning? w.completions r <;> rfl

theorem log_attempt (service : PromptService) (provider : Provider) (r : CompletionRequest) (w : World) :
    (service.attempt provider r w).2.log = w.log := by
  unfold PromptService.attempt
  cases limitFault? service.timeout with
  | some f => rfl
  | none => exact log_ask provider r w

theorem log_send (fetcher : Fetcher) (r : WebRequest) (w : World) : (Lab.send fetcher r w).2.log = w.log := by
  unfold Lab.send
  cases fetcher.reply (w.fetches ++ [r]) with
  | error f => rfl
  | ok reply =>
    dsimp only
    cases fetcher.note? r reply <;> rfl

/-! ## Texts of failures -/

theorem textOr_ne_empty {f : Failure} {default : String} (h : default ≠ "") : f.textOr default ≠ "" := by
  unfold Failure.textOr
  split
  · exact h
  · assumption

theorem faultMessage_ne_empty (service : PromptService) (f : Failure) : service.faultMessage f ≠ "" := by
  cases f with
  | timedOut text =>
    show "OpenAI call timed out after " ++ service.timeout.display ++ "s" ≠ ""
    simp
  | provider | noChoice | badLimit | other => exact textOr_ne_empty (by decide)

/-! ## Blocks -/

/-- The node and the event of each entry. -/
def tags (log : List Entry) : List (String × Event) := log.map fun entry => (entry.nodeId, entry.event)

/-- An entry that reports the failure of a node. -/
def IsReport (id message : String) (entry : Entry) : Prop :=
  entry.nodeId = id ∧ entry.event = .error ∧ entry.message = message

/-- **The entries of an executor of the library**: its phases and a success, or, instead of the success, a report, which
may also come before the phases. No failure passes it. -/
def Block (phases : List Event) (task : Task) : Except NodeFault Json → List Entry → Prop
  | .ok _, added => tags added = (phases ++ [Event.success]).map fun event => (task.id, event)
  | .error (.reported message), added => message ≠ "" ∧ ∃ front entry, added = front ++ [entry] ∧
    (front = [] ∨ tags front = phases.map fun event => (task.id, event)) ∧ IsReport task.id message entry
  | .error (.raised _), _ => False

/-- What an executor of the library logs before it succeeds. -/
def Executor.phases : Executor → List Event
  | .prompt _ | .request _ _ | .transform => [.start]
  | _ => []

section Blocks

variable (task : Task)

/-- A failure after the start of the work. -/
theorem fail_block {message : String} (h : message ≠ "") {opening time : String} {data : Json} :
    (Work.fail task message).Writes fun result added =>
      Block [.start] task result (⟨task.id, .start, opening, time, data, []⟩ :: added) :=
  Work.writes_fail fun _ => ⟨h, [_], _, rfl, .inr rfl, rfl, rfl, rfl⟩

/-- Issues with the settings are reported before anything else. -/
theorem settings_block {α : Type} {read : Json → Intake.Checked α} {f : α → Work Json} {phases : List Event}
    (h : ∀ s, (f s).Writes (Block phases task)) : (Work.settings task read >>= f).Writes (Block phases task) := by
  unfold Work.settings
  cases read (.obj task.config) with
  | good s => exact h s
  | bad issues => exact Work.writes_fail fun _ => ⟨by simp, [], _, rfl, .inl rfl, rfl, rfl, rfl⟩

theorem runManual_block : (runManual task).Writes (Block [] task) := by
  refine settings_block task fun s => ?_
  by_cases h : s.value.isNull
  · simp only [h, if_true, pure_bind]
    exact Work.writes_lift_bind (fun _ => rfl) fun time => Work.writes_enter_bind fun _ => Work.writes_pure rfl
  · rw [if_neg h, pure_bind]
    exact Work.writes_enter_bind fun _ => Work.writes_pure rfl

theorem runWebhook_block : (runWebhook task).Writes (Block [] task) :=
  settings_block task fun _ => Work.writes_enter_bind fun _ => Work.writes_pure rfl

theorem runTrigger_block : (runTrigger task).Writes (Block [] task) :=
  Work.writes_enter_bind fun _ => Work.writes_pure rfl

theorem runPrompt_block (service : PromptService) : (service.run task).Writes (Block [.start] task) := by
  refine settings_block task fun s => Work.writes_enter_bind fun time => ?_
  cases service.provider with
  | none => exact fail_block task (by decide)
  | some provider =>
    refine Work.writes_lift_bind (log_attempt service provider _) fun result => ?_
    cases result with
    | error f => exact fail_block task (faultMessage_ne_empty service f)
    | ok c =>
      exact Work.writes_enter_bind fun _ => Work.writes_lift_bind (fun _ => rfl) fun _ => Work.writes_pure rfl

theorem exchange_block (fetcher : Fetcher) (r : WebRequest) (opening label : String) :
    (exchange fetcher task r opening label).Writes (Block [.start] task) := by
  refine Work.writes_enter_bind fun time => Work.writes_lift_bind (log_send fetcher r) fun result => ?_
  cases result with
  | error f => exact fail_block task (textOr_ne_empty (by simp))
  | ok reply => exact Work.writes_enter_bind fun _ => Work.writes_pure rfl

theorem runRequest_block (fetcher : Fetcher) (demoUrl : Json) :
    (runRequest fetcher demoUrl task).Writes (Block [.start] task) := by
  refine settings_block task fun s => ?_
  cases filled? s.url with
  | none => exact exchange_block task fetcher _ _ _
  | some url => exact exchange_block task fetcher _ _ _

theorem runTransform_block : (runTransform task).Writes (Block [.start] task) :=
  settings_block task fun _ => Work.writes_enter_bind fun _ => Work.writes_enter_bind fun _ => Work.writes_pure rfl

theorem runCondition_block : (runCondition task).Writes (Block [] task) :=
  settings_block task fun _ => Work.writes_enter_bind fun _ => Work.writes_pure rfl

theorem runOutput_block : (runOutput task).Writes (Block [] task) :=
  Work.writes_enter_bind fun _ => Work.writes_pure rfl

theorem runPassthrough_block : (runPassthrough task).Writes (Block [] task) :=
  Work.writes_enter_bind fun _ => Work.writes_pure rfl

end Blocks

/-- An executor is from elsewhere or of the library. -/
theorem Executor.guest_or_library (e : Executor) :
    (∃ name act, e = .guest name act) ∨ ∀ name act, e ≠ .guest name act := by
  cases e with
  | guest name act => exact .inl ⟨name, act, rfl⟩
  | _ => exact .inr fun _ _ => nofun

/-- **Every executor of the library writes its block.** -/
theorem run_block {e : Executor} (h : ∀ name act, e ≠ .guest name act) (task : Task) :
    (e.run task).Writes (Block e.phases task) := by
  cases e with
  | manual => exact runManual_block task
  | webhook => exact runWebhook_block task
  | trigger => exact runTrigger_block task
  | prompt service => exact runPrompt_block task service
  | request fetcher demoUrl => exact runRequest_block task fetcher demoUrl
  | transform => exact runTransform_block task
  | condition => exact runCondition_block task
  | passthrough => exact runPassthrough_block task
  | output => exact runOutput_block task
  | guest name act => exact absurd rfl (h name act)

end WorkflowLab.Run
