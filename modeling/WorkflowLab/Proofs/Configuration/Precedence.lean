import WorkflowLab.Configuration.Preferences
import WorkflowLab.Proofs.Json.Parts
import WorkflowLab.Proofs.Run.Sent

/-!
# Which settings reach a language model

- `Preferences.Reaches`: what the gateway is sent follows the settings of a node first, then the preferences;
- `reaches_request`: so do the requests of openai nodes on their way from the runner to the gateway;
- `run_reaches`: in a run, what the gateway is sent for each such node has the place of the node among what it is sent.
-/

namespace WorkflowLab

open Intake Node Run

namespace Run

/-- A text that is filled in is not empty. -/
theorem ne_of_filled? {text : Option String} {s : String} (h : filled? text = some s) : s ≠ "" := by
  rintro rfl
  cases text with
  | none => cases h
  | some t =>
    by_cases ht : t = "" <;> simp [filled?, ht] at h

/-- A text counts as nothing when it is not filled in. -/
theorem orElse_ofString? (text : Option String) (other : Json) :
    (Json.ofString? text).orElse other = ((filled? text).map Json.str).getD other := by
  cases text with
  | none => rfl
  | some s =>
    by_cases hs : s = "" <;> simp [Json.ofString?, Json.ofOption, Json.orElse, Json.truthy, filled?, hs]

end Run

namespace Account

/-- A member that is left out is not found, nor is any other. -/
theorem get?_whenTruthy (name : String) (v : Json) (key : String) :
    (whenTruthy name v).get? key = if key = name ∧ v.truthy = true then some v else none := by
  unfold whenTruthy
  by_cases hv : v.truthy = true <;> by_cases hkey : key = name <;> simp [hv, hkey, Fields.get?_cons]

/-- The members of a call, one after the other. -/
theorem get?_callMembers (account : Account) (r : CompletionRequest) (key : String) :
    (account.callMembers r).get? key =
      if key = "model" then some (account.modelFor r)
      else if key = "messages" then some (.arr (messagesFor r))
      else if key = "max_tokens" then some r.maxTokens
      else if key = "temperature" ∧ r.temperature.isNull = false then some r.temperature
      else if key = "api_key" ∧ account.apiKey.truthy = true then some account.apiKey
      else if key = "api_base" ∧ account.apiBase.truthy = true then some account.apiBase
      else if key = "timeout" ∧ account.timeout.truthy = true then some account.timeout
      else none := by
  have htemperature : Fields.get? (if r.temperature.isNull then [] else [("temperature", r.temperature)]) key =
      if key = "temperature" ∧ r.temperature.isNull = false then some r.temperature else none := by
    cases r.temperature.isNull <;> simp [Fields.get?_cons]
  unfold callMembers
  rw [Fields.get?_append, Fields.get?_append, Fields.get?_append, Fields.get?_append, htemperature, get?_whenTruthy,
    get?_whenTruthy, get?_whenTruthy, Fields.get?_cons, Fields.get?_cons, Fields.get?_cons, Fields.get?_nil]
  split_ifs <;> rfl

/-- The model of an openai node is its own, or the one that runner and gateway prefer. -/
theorem modelFor_request (account : Account) {service : PromptService} (h : account.model = service.model)
    (s : PromptSettings) (input : Json) :
    account.modelFor (service.request s input) = ((filled? s.model).map Json.str).getD service.model := by
  rw [modelFor, PromptService.request, h, ← orElse_ofString?]
  by_cases hmodel : ((Json.ofString? s.model).orElse service.model).truthy = true
  · rw [Json.orElse, if_pos hmodel]
  · -- nothing is preferred by the runner either, and then the gateway asks for the same model again
    have hown : (Json.ofString? s.model).truthy = false := by
      rw [Bool.eq_false_iff]
      intro hown
      rw [Json.orElse, if_pos hown] at hmodel
      exact hmodel hown
    simp [Json.orElse, hown]

/-- An openai node sends the system prompt and then its prompt. -/
theorem messagesFor_request (service : PromptService) (s : PromptSettings) (input : Json) :
    messagesFor (service.request s input) =
      [chatMessage "system" (.str ((filled? s.systemPrompt).getD defaultSystemPrompt)),
        chatMessage "user" (.str (renderPrompt ((filled? s.prompt).getD defaultPrompt) input))] := by
  have hsystem : (service.request s input).system.truthy = true := by
    unfold PromptService.request
    cases hfilled : filled? s.systemPrompt with
    | none => rfl
    | some text => simpa [Json.truthy] using ne_of_filled? hfilled
  rw [messagesFor, if_pos hsystem]
  rfl

end Account

namespace Configuration.Preferences

/-- **What the gateway is sent follows the settings of a node first, then the preferences.** A text of the node counts if
it is not empty, a number if it is there, zero included; the temperature is left out if it is null in the end, and key and
address if the preferences have none. -/
structure Reaches (rc : Preferences) (s : PromptSettings) (input : Json) (members : Fields) : Prop where
  model : members.get? "model" = some (((filled? s.model).map Json.str).getD rc.model)
  messages : members.get? "messages" = some (.arr [
    chatMessage "system" (.str ((filled? s.systemPrompt).getD defaultSystemPrompt)),
    chatMessage "user" (.str (renderPrompt ((filled? s.prompt).getD defaultPrompt) input))])
  limit : members.get? "max_tokens" = some ((s.maxTokens.map Json.int).getD rc.maxTokens)
  temperature : members.get? "temperature" =
    let t := (s.temperature.map Json.float).getD rc.temperature
    if t.isNull then none else some t
  apiKey : members.get? "api_key" = if rc.apiKey.truthy then some rc.apiKey else none
  apiBase : members.get? "api_base" = if rc.apiBase.truthy then some rc.apiBase else none
  others : ∀ name ∈ members.keys, name ∈ ["model", "messages", "max_tokens", "temperature", "api_key", "api_base"]

/-- The settings of runs are those of the preferences, but for the way of branching, which is read. -/
theorem setup_eq {rc : Preferences} {setup : Setup} (h : rc.setup = .ok setup) :
    ∃ mode, setup = ⟨mode, false, rc.promptTimeout, rc.fetchTimeout, rc.model, rc.maxTokens, rc.temperature,
      rc.demoUrl⟩ := by
  unfold Preferences.setup at h
  cases hmode : readBranchMode rc.branchMode with
  | error fault =>
    rw [hmode] at h
    cases h
  | ok mode =>
    rw [hmode] at h
    exact ⟨mode, (Except.ok.inj h).symm⟩

/-- The runner of the preferences has the executors of the library. -/
theorem runner_eq {rc : Preferences} {complete : List Fields → Except Failure RawCompletion}
    {fetch : List WebRequest → Except Failure WebReply} {runner : Runner} (h : rc.runner complete fetch = .ok runner) :
    ∃ setup, rc.setup = .ok setup ∧ runner = .standard (some (rc.gateway complete)) (rc.fetcher fetch) setup := by
  unfold Preferences.runner at h
  cases hsetup : rc.setup with
  | error fault =>
    rw [hsetup] at h
    cases h
  | ok setup =>
    rw [hsetup] at h
    exact ⟨setup, rfl, (Except.ok.inj h).symm⟩

/-- **The request of an openai node reaches the gateway so**: no setting is lost between the runner and the gateway. -/
theorem reaches_request (rc : Preferences) {setup : Setup} (hsetup : rc.setup = .ok setup) (provider : Option Provider)
    (s : PromptSettings) (input : Json) :
    rc.Reaches s input (rc.account.callMembers ((setup.promptService provider).request s input)) := by
  obtain ⟨mode, rfl⟩ := setup_eq hsetup
  refine ⟨?_, ?_, ?_, ?_, ?_, ?_, fun name hname => ?_⟩
  · rw [Account.get?_callMembers, if_pos rfl]
    exact congrArg some (Account.modelFor_request rc.account rfl s input)
  · rw [Account.get?_callMembers, if_neg (by decide), if_pos rfl, Account.messagesFor_request]
  · rw [Account.get?_callMembers, if_neg (by decide), if_neg (by decide), if_pos rfl]
    rfl
  · simp only [Account.get?_callMembers, String.reduceEq, if_false, true_and, false_and]
    show (if ((s.temperature.map Json.float).getD rc.temperature).isNull = false then _ else _) = _
    cases ((s.temperature.map Json.float).getD rc.temperature).isNull <;> rfl
  · simp only [Account.get?_callMembers, String.reduceEq, if_false, true_and, false_and]
    rfl
  · simp only [Account.get?_callMembers, String.reduceEq, if_false, true_and, false_and]
    rfl
  · by_contra hother
    simp only [List.mem_cons, List.not_mem_nil, or_false, not_or] at hother
    obtain ⟨v, hv⟩ := Fields.mem_keys_iff.mp hname
    have htimeout : rc.account.timeout.truthy = false := rfl
    simp [Account.get?_callMembers, hother, htimeout] at hv

/-- The calls of a run that has a trigger are those of the nodes that its walk handles. -/
theorem calls_of_trigger {provider : Option Provider} {fetcher : Fetcher} {setup : Setup} {graph : Graph} {trigger : Node}
    (h : (Runner.standard provider fetcher setup).locateTrigger graph = .ok trigger) (w : World) :
    ((Runner.standard provider fetcher setup).run graph w).2.calls = w.calls ++
      callsOf provider setup graph ((Runner.standard provider fetcher setup).voyage graph trigger w).handled := by
  have hstart : Called provider fetcher setup graph (Runner.departure graph trigger w).calls
      (.start (Runner.departure graph trigger w)) := called_start _
  have hcalled := Tour.explore_keeps _ called_of_moves [(trigger.id, .null)] hstart
  rw [Runner.run_eq_walk h, Runner.calls_noteEnd, ← Runner.calls_departure graph trigger w]
  exact hcalled.calls

/-- The call of an openai node whose settings can be read, if there is time for it. -/
theorem callOf?_of_prompt (provider : Provider) (setup : Setup) {node : Node}
    (hvariant : node.variant = Service.openai.variant) {s : PromptSettings}
    (hsettings : PromptSettings.read (.obj node.config) = .good s) (input : Json) :
    callOf? (some provider) setup node input =
      if leavesTime setup.promptTimeout then some (.completion ((setup.promptService (some provider)).request s input))
      else none := by
  rw [callOf?, if_pos hvariant, hsettings]
  rfl

/-- A call of an openai node comes to what its account makes of the request. -/
theorem sentFor_gateway (rc : Preferences) (complete : List Fields → Except Failure RawCompletion)
    (r : CompletionRequest) :
    sentFor (some (rc.gateway complete)) [.completion r] = [rc.account.callMembers r] := rfl

/-- **The preferences reach every call to a language model.** For each openai node that a run has handled, and whose
settings can be read, the gateway is sent one call if the preferences leave time for calls, and none otherwise. This call
stands after those of the nodes before it and before those of the nodes after it; and it follows the settings of the node
first, then the preferences. -/
theorem run_reaches {rc : Preferences} {complete : List Fields → Except Failure RawCompletion}
    {fetch : List WebRequest → Except Failure WebReply} {runner : Runner} (hrunner : rc.runner complete fetch = .ok runner)
    {graph : Graph} {trigger : Node} (htrigger : graph.trigger? = some trigger) (w : World) :
    (runner.run graph w).1 = .ofWalk (runner.voyage graph trigger w) ∧
    ∃ setup, rc.setup = .ok setup ∧
      ∀ u input node s, (u, input) ∈ (runner.voyage graph trigger w).handled → graph.node? u = some node →
        node.variant = Service.openai.variant → PromptSettings.read (.obj node.config) = .good s →
        ∃ before after members, (runner.voyage graph trigger w).handled = before ++ (u, input) :: after ∧
          (runner.run graph w).2.sent = w.sent ++
            (sentFor (some (rc.gateway complete)) (callsOf (some (rc.gateway complete)) setup graph before) ++
              ((if leavesTime rc.promptTimeout then [members] else []) ++
                sentFor (some (rc.gateway complete)) (callsOf (some (rc.gateway complete)) setup graph after))) ∧
          rc.Reaches s input members := by
  obtain ⟨setup, hsetup, rfl⟩ := runner_eq hrunner
  have hlocate : (Runner.standard (some (rc.gateway complete)) (rc.fetcher fetch) setup).locateTrigger graph =
      .ok trigger := by
    obtain ⟨mode, rfl⟩ := setup_eq hsetup
    exact Runner.locateTrigger_of_trigger? rfl htrigger
  have htimeout : setup.promptTimeout = rc.promptTimeout := by
    obtain ⟨mode, rfl⟩ := setup_eq hsetup
    rfl
  refine ⟨congrArg Prod.fst (Runner.run_eq_walk hlocate w), setup, hsetup, ?_⟩
  intro u input node s hmem hnode hvariant hsettings
  obtain ⟨before, after, hhandled⟩ := List.append_of_mem hmem
  refine ⟨before, after, _, hhandled, ?_, reaches_request rc hsetup (some (rc.gateway complete)) s input⟩
  have hcalls : callsOf (some (rc.gateway complete)) setup graph (before ++ (u, input) :: after) =
      callsOf (some (rc.gateway complete)) setup graph before ++
        ((callOf? (some (rc.gateway complete)) setup node input).toList ++
          callsOf (some (rc.gateway complete)) setup graph after) := by
    rw [callsOf, List.flatMap_append, List.flatMap_cons, hnode]
    rfl
  rw [Runner.run_sent _ _ _ (calls_of_trigger hlocate w), hhandled, hcalls, sentFor_append, sentFor_append,
    callOf?_of_prompt _ _ hvariant hsettings, htimeout]
  cases leavesTime rc.promptTimeout with
  | false => rfl
  | true => rw [if_pos rfl, if_pos rfl, Option.toList_some, sentFor_gateway]

/-- Preferences with a key but no address. -/
def keyed : Preferences where
  model := .str "large"
  temperature := .int 1
  maxTokens := .int 500
  apiKey := .str "secret"
  apiBase := .str ""
  promptTimeout := .int 60
  fetchTimeout := .int 30
  demoUrl := .str Setup.defaultDemoUrl
  branchMode := .str "legacy"

/-- An openai node whose model is empty and whose temperature is zero. -/
def asking : Node where
  id := "q"
  kind := .action
  service := "openai"
  config := [("prompt", .str "about \x7b\x7binput\x7d\x7d"), ("model", .str ""), ("temperature", .int 0)]
  successors := []
  position := none
  extra := []

/-- A trigger with a topic. -/
def topic : Node where
  id := "t"
  kind := .trigger
  service := "manual"
  config := [("inputData", .str "sun")]
  successors := ["q"]
  position := none
  extra := []

/-- A question about the topic. -/
def question : Graph := ⟨[topic, asking]⟩

/-- The settings of the openai node are good. -/
theorem read_asking : ∃ s, PromptSettings.read (.obj asking.config) = .good s ∧ s.model = some "" ∧ s.maxTokens = none ∧
    s.temperature.map Float.toBits = some 0 := by
  have hread : ((PromptSettings.read (.obj asking.config)).toExcept.toOption.any fun s =>
      s.model == some "" && s.maxTokens.isNone && s.temperature.map Float.toBits == some 0) = true := by decide +kernel
  cases hsettings : PromptSettings.read (.obj asking.config) with
  | bad issues =>
    rw [hsettings] at hread
    cases hread
  | good s =>
    rw [hsettings] at hread
    simp only [Checked.toExcept, Except.toOption, Option.any_some, Bool.and_eq_true, beq_iff_eq, Option.isNone_iff_eq_none]
      at hread
    exact ⟨s, rfl, hread.1.1, hread.1.2, hread.2⟩

/-- The question is put with the topic. -/
theorem mem_handled_question (provider : Option Provider) (fetcher : Fetcher) (setup : Setup) (w : World) :
    ("q", .str "sun") ∈ ((Runner.standard provider fetcher setup).voyage question topic w).handled := by
  rw [Runner.voyage, Tour.explore_singleton _ _ _ [("q", .str "sun")] rfl, Tour.explore_singleton _ _ _ _ rfl]
  have hmove := ((Runner.standard provider fetcher setup).tour question).step_moves
    (((Runner.standard provider fetcher setup).tour question).step
      (.start (Runner.departure question topic w)) ("t", .null)).1 ("q", .str "sun")
  refine Tour.mem_handled_explore _ (hmove.handled _ rfl ?_ rfl) _
  exact (by decide : "q" ∉ ["t"])

/-- The question reaches the gateway: the model of the preferences stands in for the empty one of the node, but their
temperature does not for its zero. -/
theorem run_reaches_question :
    question.trigger? = some topic ∧
      ∃ runner members, keyed.runner (fun _ => .error (.timedOut "")) (fun _ => .error (.timedOut "")) = .ok runner ∧
        members ∈ (runner.run question Runner.dawn).2.sent ∧
        members.get? "model" = some (.str "large") ∧ members.get? "max_tokens" = some (.int 500) ∧
        (∃ x, members.get? "temperature" = some (.float x) ∧ x.toBits = 0) ∧
        members.get? "api_key" = some (.str "secret") ∧ members.get? "api_base" = none := by
  have htime : leavesTime keyed.promptTimeout = true := by decide +kernel
  have htrigger : question.trigger? = some topic := rfl
  have hrunner : keyed.runner (fun _ => .error (.timedOut "")) (fun _ => .error (.timedOut "")) = .ok _ := rfl
  obtain ⟨s, hsettings, hmodel, hlimit, htemperature⟩ := read_asking
  obtain ⟨-, setup, -, hreaches⟩ := run_reaches hrunner htrigger Runner.dawn
  obtain ⟨before, after, members, -, hsent, hmembers⟩ :=
    hreaches "q" (.str "sun") asking s (mem_handled_question _ _ _ Runner.dawn) rfl rfl hsettings
  obtain ⟨x, hx, hbits⟩ := Option.map_eq_some_iff.mp htemperature
  refine ⟨htrigger, _, members, hrunner, ?_, ?_, ?_, ⟨x, ?_, hbits⟩, hmembers.apiKey, hmembers.apiBase⟩
  · rw [hsent, if_pos htime]
    exact List.mem_append_right _ (List.mem_append_right _ List.mem_cons_self)
  · rw [hmembers.model, hmodel]
    rfl
  · rw [hmembers.limit, hlimit]
    rfl
  · rw [hmembers.temperature, hx]
    rfl

end Configuration.Preferences

end WorkflowLab
