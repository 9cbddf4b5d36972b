import WorkflowLab.Proofs.Run.Calls
import WorkflowLab.Proofs.Run.Departure

/-!
# What gateways are sent

- `sentFor`: what a provider sends its gateway for some calls;
- `World.Forwards`: for the calls from one world to another, the gateway was sent this;
- `World.respected_forwards`, `forwards_standardFor`: executors of the library make it so;
- `forwards_of_moves`: so does every step of a walk;
- `run_sent`: **what the gateway is sent in a run**.
-/

namespace WorkflowLab.Run

open Node

/-- What a provider sends its gateway for some calls, if it has one: something for each completion. -/
def sentFor (provider : Option Provider) (calls : List Call) : List Fields :=
  calls.filterMap fun call => provider.bind fun p => call.completion?.bind p.members?

@[simp] theorem sentFor_append (provider : Option Provider) (before after : List Call) :
    sentFor provider (before ++ after) = sentFor provider before ++ sentFor provider after := List.filterMap_append

/-- **For the calls from one world to another, the gateway was sent what the provider sends for them.** -/
def World.Forwards (provider : Option Provider) (w w' : World) : Prop :=
  ∃ made, w'.calls = w.calls ++ made ∧ w'.sent = w.sent ++ sentFor provider made

namespace World.Forwards

variable {provider : Option Provider} {w w' w'' : World}

/-- No calls were made, and nothing was sent. -/
theorem of_eq (hcalls : w'.calls = w.calls) (hsent : w'.sent = w.sent) : w.Forwards provider w' :=
  ⟨[], by rw [hcalls, List.append_nil], by rw [hsent]; exact (List.append_nil _).symm⟩

theorem refl (w : World) : w.Forwards provider w := of_eq rfl rfl

theorem trans (h : w.Forwards provider w') (h' : w'.Forwards provider w'') : w.Forwards provider w'' := by
  obtain ⟨made, hcalls, hsent⟩ := h
  obtain ⟨more, hcalls', hsent'⟩ := h'
  refine ⟨made ++ more, ?_, ?_⟩
  · rw [hcalls', hcalls, List.append_assoc]
  · rw [hsent', hsent, sentFor_append, List.append_assoc]

end World.Forwards

/-- Whatever makes no calls sends nothing. -/
theorem World.respected_forwards (provider : Option Provider) : Respected (World.Forwards provider) where
  refl := .refl
  trans := .trans
  enter _ _ _ _ _ := .of_eq rfl rfl
  note _ _ _ _ _ := .of_eq rfl rfl
  stamp _ := .of_eq rfl rfl

open World (respected_forwards)

section Executors

variable (task : Task)

/-- A gateway is sent something for a completion. -/
theorem forwards_ask (p : Provider) (r : CompletionRequest) (w : World) :
    w.Forwards (some p) (Lab.ask p r w).2 := by
  have hmade : sentFor (some p) [.completion r] = (p.members? r).toList := by
    cases h : p.members? r <;> simp [sentFor, Call.completion?, h]
  refine ⟨[.completion r], calls_ask p r w, ?_⟩
  rw [hmade]
  unfold Lab.ask
  cases p.warning? w.completions r <;> rfl

/-- Nothing is sent for a request to the web. -/
theorem forwards_send (provider : Option Provider) (fetcher : Fetcher) (r : WebRequest) (w : World) :
    w.Forwards provider (Lab.send fetcher r w).2 := by
  have hmade : sentFor provider [.fetch r] = [] := by cases provider <;> rfl
  refine ⟨[.fetch r], calls_send fetcher r w, ?_⟩
  rw [hmade, List.append_nil]
  unfold Lab.send
  cases fetcher.reply (w.fetches ++ [r]) with
  | error f => rfl
  | ok reply =>
    dsimp only
    cases fetcher.note? r reply <;> rfl

theorem forwards_runPrompt (service : PromptService) :
    (service.run task).Respects (World.Forwards service.provider) := by
  have rules := respected_forwards service.provider
  refine rules.bind (rules.settings task _) fun s => rules.bind (rules.workEnter task _ _ _) fun _ => ?_
  cases hprovider : service.provider with
  | none => exact (respected_forwards none).fail task _
  | some p =>
    have rules := respected_forwards (some p)
    refine rules.bind ?_ ?_
    · unfold PromptService.attempt
      cases limitFault? service.timeout with
      | some f => exact Work.respects_lift rules.refl
      | none => exact Work.respects_lift (forwards_ask p _)
    · rintro (f | c)
      · exact rules.fail task _
      · exact rules.bind (rules.workEnter task _ _ _) fun _ => rules.bind (rules.workNote _ _ _ _) fun _ => rules.pure _

theorem forwards_runRequest (provider : Option Provider) (fetcher : Fetcher) (demoUrl : Json) :
    (runRequest fetcher demoUrl task).Respects (World.Forwards provider) := by
  have rules := respected_forwards provider
  have hexchange (r : WebRequest) (opening label : String) :
      (exchange fetcher task r opening label).Respects (World.Forwards provider) := by
    refine rules.bind (rules.workEnter task _ _ _) fun _ => ?_
    refine rules.bind (Work.respects_lift (forwards_send provider fetcher r)) ?_
    rintro (f | reply)
    · exact rules.fail task _
    · exact rules.bind (rules.workEnter task _ _ _) fun _ => rules.pure _
  refine rules.bind (rules.settings task _) fun s => ?_
  cases filled? s.url with
  | none => exact hexchange _ _ _
  | some url => exact hexchange _ _ _

/-- **The executors of the library send what their provider sends for their calls.** -/
theorem forwards_standardFor (provider : Option Provider) (fetcher : Fetcher) (setup : Setup) (node : Node) :
    ((Registry.standardFor provider fetcher setup node).run task).Respects (World.Forwards provider) := by
  unfold Registry.standardFor
  cases Service.ofVariant? node.variant with
  | none =>
    have hquiet : (Registry.fallbackOf node.kind).IsQuiet := by cases node.kind <;> trivial
    exact respects_run (respected_forwards provider) task hquiet
  | some s =>
    cases s with
    | openai => exact forwards_runPrompt task (setup.promptService provider)
    | http => exact forwards_runRequest task provider fetcher setup.demoUrl
    | manual | webhook | code | ifElse =>
      refine respects_run (respected_forwards provider) task ?_
      trivial

end Executors

namespace Runner

variable (provider : Option Provider) (fetcher : Fetcher) (setup : Setup)

/-- Running a node sends what the provider sends for its calls. -/
theorem handle_forwards (node : Node) (input : Json) (w : World) :
    w.Forwards provider ((standard provider fetcher setup).handle node input w).2 := by
  rw [handle_standard]
  exact forwards_standardFor ⟨node, input⟩ provider fetcher setup node (entered node w)

/-- A step of the walk goes on sending what the provider sends for its calls. -/
theorem forwards_of_moves (graph : Graph) {w : World} {p q : Progress World} {target : Target}
    {targets : List Target} (hmove : ((standard provider fetcher setup).tour graph).Moves p target q targets)
    (h : w.Forwards provider p.state) : w.Forwards provider q.state := by
  cases hmove with
  | stopped | again => exact h
  | missing => exact h.trans (.of_eq rfl rfl)
  | @failed node _ state _ _ _ _ hrun | @passed node _ state _ _ _ _ hrun =>
    obtain rfl : ((standard provider fetcher setup).handle node target.2 p.state).2 = state := congrArg Prod.snd hrun
    exact h.trans (handle_forwards provider fetcher setup node target.2 p.state)

/-- **A run sends what the provider sends for its calls.** -/
theorem run_forwards (graph : Graph) (w : World) :
    w.Forwards provider ((standard provider fetcher setup).run graph w).2 := by
  cases hlocate : (standard provider fetcher setup).locateTrigger graph with
  | error fault =>
    obtain ⟨trace, records, hrun⟩ := run_eq_refusal hlocate w
    rw [hrun]
    exact .of_eq rfl rfl
  | ok trigger =>
    obtain ⟨trace, records, hend⟩ := noteEnd_eq (.ofWalk ((standard provider fetcher setup).voyage graph trigger w))
      ((standard provider fetcher setup).voyage graph trigger w).state
    obtain ⟨trace', records', hdeparture⟩ := departure_eq graph trigger w
    have hstart : w.Forwards provider (Progress.start (departure graph trigger w)).state := by
      show w.Forwards provider (departure graph trigger w)
      rw [hdeparture]
      exact .of_eq rfl rfl
    have hwalk := Tour.explore_keeps _ (forwards_of_moves provider fetcher setup graph) [(trigger.id, .null)] hstart
    rw [run_eq_walk hlocate, hend]
    exact hwalk.trans (.of_eq rfl rfl)

/-- **What the gateway is sent in a run**: for the calls that were made, what the provider sends for them, in order. -/
theorem run_sent {graph : Graph} {w : World} {made : List Call}
    (hcalls : ((standard provider fetcher setup).run graph w).2.calls = w.calls ++ made) :
    ((standard provider fetcher setup).run graph w).2.sent = w.sent ++ sentFor provider made := by
  obtain ⟨same, hsame, hsent⟩ := run_forwards provider fetcher setup graph w
  obtain rfl : same = made := List.append_cancel_left (hsame.symm.trans hcalls)
  exact hsent

end Runner

end WorkflowLab.Run
