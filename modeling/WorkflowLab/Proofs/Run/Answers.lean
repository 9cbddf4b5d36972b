import WorkflowLab.Proofs.Run.Twins

/-!
# What comes of a call

- `Concluded`: a node that makes a call succeeds or fails as the call does, between two entries of its log;
- `handle_concluded`: so does every node of the library that makes one, and it starts in the same way whatever the answer;
- `exists_call_of_passed`: an openai node that succeeds has made its call.
-/

namespace WorkflowLab.Run

open Node Work

/-- **What comes of a call.** After the entry `start` follows one more; if the call has failed, it is the error entry of
the node, and the node fails; otherwise the node has an output. -/
structure Concluded {ε : Type} (id : String) (start : Entry) (Failed : Prop) (w : World)
    (r : Except ε Json × World) : Prop where
  passes : ¬Failed → ∃ output, r.1 = .ok output
  fails : Failed → ∃ fault, r.1 = .error fault
  log : ∃ last, r.2.log = w.log ++ [start, last] ∧ (Failed → last.nodeId = id ∧ last.event = .error)

/-- The entry for the start of a node's work. -/
def startEntry (id opening : String) (clock : Time.Clock) : Entry :=
  ⟨id, .start, opening, clock.tick.1.iso, .null, []⟩

section Executors

variable (task : Task)

/-- What follows the start of the work: an answer, which is reported if it is a failure, and logged if it is none. -/
theorem concluded_of_answer {β : Type} {c : Lab (Except Failure β)} {f : Except Failure β → Work Json}
    {answer : Except Failure β} {Failed : Prop} {w v : World} {opening : String}
    (hcall : c (Lab.enter task.id .start opening .null w).2 = (answer, v))
    (hlog : v.log = (Lab.enter task.id .start opening .null w).2.log)
    (hfailed : Failed ↔ ∃ failure, answer = .error failure)
    (hfails : ∀ failure, ∃ message, f (.error failure) = fail task message)
    (hpasses : ∀ b, ∃ output last, (f (.ok b) v).1 = .ok output ∧ (f (.ok b) v).2.log = v.log ++ [last]) :
    Concluded task.id (startEntry task.id opening w.clock) Failed w
      ((enter task .start opening .null >>= fun _ => ExceptT.lift c >>= f) w) := by
  have hrun : (enter task .start opening .null >>= fun _ => ExceptT.lift c >>= f) w = f answer v := by
    have hbind : (ExceptT.lift c >>= f : Work Json) (Lab.enter task.id .start opening .null w).2 = f answer v :=
      bind_of_ok (by
        show ((Except.ok (c _).1, (c _).2) : Except NodeFault _ × World) = _
        rw [hcall])
    exact hbind
  have hstart : v.log = w.log ++ [startEntry task.id opening w.clock] := hlog
  rw [hrun]
  cases answer with
  | error failure =>
    obtain ⟨message, hfail⟩ := hfails failure
    have hyes : Failed := hfailed.mpr ⟨failure, rfl⟩
    rw [hfail]
    refine ⟨fun hnot => absurd hyes hnot, fun _ => ⟨.reported message, rfl⟩,
      ⟨task.id, .error, message, v.clock.tick.1.iso, .null, []⟩, ?_, fun _ => ⟨rfl, rfl⟩⟩
    show v.log ++ [_] = _
    rw [hstart, List.append_assoc]
    rfl
  | ok b =>
    obtain ⟨output, last, houtput, hlast⟩ := hpasses b
    have hno : ¬Failed := fun hyes => nomatch hfailed.mp hyes
    refine ⟨fun _ => ⟨output, houtput⟩, fun hyes => absurd hyes hno, last, ?_, fun hyes => absurd hyes hno⟩
    rw [hlast, hstart, List.append_assoc]
    rfl

theorem exchange_concluded (fetcher : Fetcher) (r : WebRequest) (opening label : String) (w : World) :
    Concluded task.id (startEntry task.id opening w.clock) (∃ f, fetcher.reply (w.fetches ++ [r]) = .error f) w
      (exchange fetcher task r opening label w) := by
  obtain ⟨records, hsend⟩ := send_eq fetcher r (Lab.enter task.id .start opening .null w).2
  exact concluded_of_answer task hsend rfl Iff.rfl (fun _ => ⟨_, rfl⟩) fun _ => ⟨_, _, rfl, rfl⟩

/-- The request of an http node starts in the same way whoever sends it. -/
theorem runRequest_concluded (demoUrl : Json) {s : RequestSettings}
    (hsettings : RequestSettings.read (.obj task.config) = .good s) :
    ∃ opening, ∀ (fetcher : Fetcher) (w : World),
      Concluded task.id (startEntry task.id opening w.clock)
        (∃ f, fetcher.reply (w.fetches ++ [requestOf demoUrl s task.input]) = .error f) w
        (runRequest fetcher demoUrl task w) := by
  unfold runRequest requestOf
  rw [settings_of_good hsettings]
  cases hurl : filled? s.url with
  | none =>
    refine ⟨"No URL configured, using demo: GET " ++ demoUrl.display, fun fetcher w => ?_⟩
    rw [pure_bind, hurl]
    exact exchange_concluded task fetcher _ _ _ w
  | some url =>
    refine ⟨(webRequest s url task.input).method ++ " " ++ url, fun fetcher w => ?_⟩
    rw [pure_bind, hurl]
    exact exchange_concluded task fetcher _ _ _ w

/-- The question of an openai node is asked of whichever provider there is, if there is time. -/
theorem runPrompt_concluded {service : PromptService} {s : PromptSettings} {p : Provider}
    (hsettings : PromptSettings.read (.obj task.config) = .good s) (hprovider : service.provider = some p)
    (htime : leavesTime service.timeout = true) (w : World) :
    Concluded task.id
      (startEntry task.id ("Calling OpenAI " ++ (service.request s task.input).model.display ++ "...") w.clock)
      (∃ f, p.answer w.completions (service.request s task.input) = .error f) w (service.run task w) := by
  obtain ⟨sent, records, hask⟩ := ask_eq p (service.request s task.input) (Lab.enter task.id .start
    ("Calling OpenAI " ++ (service.request s task.input).model.display ++ "...") .null w).2
  unfold PromptService.run
  rw [settings_of_good hsettings, pure_bind]
  simp only [hprovider, PromptService.attempt, (limitFault?_eq_none_iff _).mpr htime]
  exact concluded_of_answer task hask rfl Iff.rfl (fun _ => ⟨_, rfl⟩) fun _ => ⟨_, _, rfl, rfl⟩

/-- An openai node that makes no call has no output. -/
theorem runPrompt_of_no_call {service : PromptService}
    (h : ∀ s, PromptSettings.read (.obj task.config) = .good s →
      (service.provider.isSome && leavesTime service.timeout) = false) (w : World) (output : Json) :
    (service.run task w).1 ≠ .ok output := by
  unfold PromptService.run
  cases hsettings : PromptSettings.read (.obj task.config) with
  | bad issues =>
    rw [settings, hsettings]
    intro houtput
    cases houtput
  | good s =>
    have hnone := h s hsettings
    rw [settings_of_good hsettings, pure_bind]
    cases hprovider : service.provider with
    | none =>
      intro houtput
      cases houtput
    | some p =>
      rw [hprovider, Option.isSome_some, Bool.true_and] at hnone
      cases hlimit : limitFault? service.timeout with
      | none => rw [(limitFault?_eq_none_iff _).mp hlimit] at hnone; cases hnone
      | some f =>
        simp only [PromptService.attempt, hlimit]
        intro houtput
        cases houtput

end Executors

/-! ## Nodes -/

/-- A question fails when the provider does not answer it. -/
theorem Call.fails_completion_iff {p : Provider} {fetcher : Fetcher} {earlier : List Call} {r : CompletionRequest} :
    (Call.completion r).Fails (some p) fetcher earlier ↔
      ∃ f, p.answer (earlier.filterMap Call.completion?) r = .error f := by
  constructor
  · rintro ⟨q, f, hq, hf⟩
    cases hq
    exact ⟨f, hf⟩
  · rintro ⟨f, hf⟩
    exact ⟨p, f, rfl, hf⟩

section Nodes

variable (setup : Setup) (node : Node) (input : Json)

/-- The call of an openai node is the question of its settings, to a provider that has time for it. -/
theorem callOf?_openai_eq_some_iff {provider : Option Provider} (h : node.variant = Service.openai.variant)
    {call : Call} :
    callOf? provider setup node input = some call ↔ ∃ p s, provider = some p ∧
      PromptSettings.read (.obj node.config) = .good s ∧ leavesTime setup.promptTimeout = true ∧
      .completion ((setup.promptService none).request s input) = call := by
  unfold callOf?
  rw [if_pos h]
  cases hsettings : PromptSettings.read (.obj node.config) with
  | bad issues => simp
  | good s =>
    cases provider with
    | none => simp
    | some p =>
      cases htime : leavesTime setup.promptTimeout with
      | false => simp
      | true => simp [PromptService.request, Setup.promptService]

/-- The call of an http node is the request of its settings. -/
theorem callOf?_http_eq_some_iff {provider : Option Provider} (h : node.variant = Service.http.variant) {call : Call} :
    callOf? provider setup node input = some call ↔ ∃ s, RequestSettings.read (.obj node.config) = .good s ∧
      .fetch (requestOf setup.demoUrl s input) = call := by
  unfold callOf?
  rw [h, if_neg (by decide), if_pos rfl]
  cases RequestSettings.read (.obj node.config) with
  | bad issues => simp
  | good s => simp

/-- A call that fails with other capabilities is made with these too. -/
theorem callOf?_of_fails {provider provider' : Option Provider} {fetcher' : Fetcher} {earlier : List Call} {call : Call}
    (h : callOf? provider setup node input = some call) (hfails : call.Fails provider' fetcher' earlier) :
    callOf? provider' setup node input = some call := by
  by_cases hprompt : node.variant = Service.openai.variant
  · obtain ⟨p, s, -, hsettings, htime, rfl⟩ := (callOf?_openai_eq_some_iff setup node input hprompt).mp h
    obtain ⟨p', f, hp', -⟩ := hfails
    exact (callOf?_openai_eq_some_iff setup node input hprompt).mpr ⟨p', s, hp', hsettings, htime, rfl⟩
  · unfold callOf? at h ⊢
    rw [if_neg hprompt] at h ⊢
    exact h

/-- Only these two make calls. -/
theorem service_of_callOf? {provider : Option Provider} {call : Call}
    (h : callOf? provider setup node input = some call) :
    Service.ofVariant? node.variant = some .openai ∨ Service.ofVariant? node.variant = some .http := by
  unfold callOf? at h
  split at h
  · next hprompt => exact .inl (by rw [hprompt, Service.ofVariant?_variant])
  · split at h
    · next hrequest => exact .inr (by rw [hrequest, Service.ofVariant?_variant])
    · cases h

/-- An openai node succeeds or fails with its question. -/
theorem openai_concluded (hvariant : node.variant = Service.openai.variant) (call : Call) :
    ∃ opening, ∀ (provider : Option Provider) (fetcher : Fetcher) (w : World),
      callOf? provider setup node input = some call →
        Concluded node.id (startEntry node.id opening w.clock) (call.Fails provider fetcher w.calls) w
          ((setup.promptService provider).run (Task.mk node input) w) := by
  cases hsettings : PromptSettings.read (.obj node.config) with
  | bad issues =>
    refine ⟨"", fun provider fetcher w hcall => ?_⟩
    obtain ⟨p, s, -, hgood, -⟩ := (callOf?_openai_eq_some_iff setup node input hvariant).mp hcall
    rw [hsettings] at hgood
    cases hgood
  | good s =>
    refine ⟨"Calling OpenAI " ++ ((setup.promptService none).request s input).model.display ++ "...",
      fun provider fetcher w hcall => ?_⟩
    obtain ⟨p, s', rfl, hgood, htime, rfl⟩ := (callOf?_openai_eq_some_iff setup node input hvariant).mp hcall
    rw [hsettings] at hgood
    cases hgood
    rw [Call.fails_completion_iff]
    have hprovider : (setup.promptService (some p)).provider = some p := rfl
    exact runPrompt_concluded (Task.mk node input) hsettings hprovider htime w

/-- An http node succeeds or fails with its request. -/
theorem http_concluded (hvariant : node.variant = Service.http.variant) (call : Call) :
    ∃ opening, ∀ (provider : Option Provider) (fetcher : Fetcher) (w : World),
      callOf? provider setup node input = some call →
        Concluded node.id (startEntry node.id opening w.clock) (call.Fails provider fetcher w.calls) w
          (runRequest fetcher setup.demoUrl (Task.mk node input) w) := by
  cases hsettings : RequestSettings.read (.obj node.config) with
  | bad issues =>
    refine ⟨"", fun provider fetcher w hcall => ?_⟩
    obtain ⟨s, hgood, -⟩ := (callOf?_http_eq_some_iff setup node input hvariant).mp hcall
    rw [hsettings] at hgood
    cases hgood
  | good s =>
    obtain ⟨opening, hconcluded⟩ := runRequest_concluded (Task.mk node input) setup.demoUrl hsettings
    refine ⟨opening, fun provider fetcher w hcall => ?_⟩
    obtain ⟨s', hgood, rfl⟩ := (callOf?_http_eq_some_iff setup node input hvariant).mp hcall
    rw [hsettings] at hgood
    cases hgood
    exact hconcluded fetcher w

/-- **A node of the library that makes a call succeeds or fails with it**, and its work starts in the same way whatever
the capabilities. -/
theorem standardFor_concluded (call : Call) : ∃ opening, ∀ (provider : Option Provider) (fetcher : Fetcher) (w : World),
    callOf? provider setup node input = some call →
      Concluded node.id (startEntry node.id opening w.clock) (call.Fails provider fetcher w.calls) w
        ((Registry.standardFor provider fetcher setup node).run (Task.mk node input) w) := by
  unfold Registry.standardFor
  cases hservice : Service.ofVariant? node.variant with
  | none =>
    refine ⟨"", fun provider fetcher w hcall => ?_⟩
    rcases service_of_callOf? setup node input hcall with h | h <;> rw [hservice] at h <;> cases h
  | some s =>
    have hvariant := (Service.variant_of_ofVariant? hservice).symm
    cases s with
    | openai => exact openai_concluded setup node input hvariant call
    | http => exact http_concluded setup node input hvariant call
    | manual | webhook | code | ifElse =>
      refine ⟨"", fun provider fetcher w hcall => ?_⟩
      rcases service_of_callOf? setup node input hcall with h | h <;> rw [hservice] at h <;> cases h

namespace Runner

/-- **Running a node that makes a call** ends as the call does. -/
theorem handle_concluded (call : Call) : ∃ opening, ∀ (provider : Option Provider) (fetcher : Fetcher) (w : World),
    callOf? provider setup node input = some call →
      Concluded node.id (startEntry node.id opening w.clock) (call.Fails provider fetcher w.calls) w
        ((standard provider fetcher setup).handle node input w) := by
  obtain ⟨opening, hnode⟩ := standardFor_concluded setup node input call
  refine ⟨opening, fun provider fetcher w hcall => ?_⟩
  obtain ⟨hpasses, hfails, hlog⟩ := hnode provider fetcher (entered node w) hcall
  rw [handle_standard]
  refine ⟨fun hno => ?_, fun hyes => ?_, hlog⟩
  · obtain ⟨output, houtput⟩ := hpasses hno
    exact ⟨output, by rw [houtput]; rfl⟩
  · obtain ⟨fault, hfault⟩ := hfails hyes
    exact ⟨fault.message, by rw [hfault]; rfl⟩

/-- An openai node that has an output has made its call. -/
theorem exists_call_of_passed {provider : Option Provider} {fetcher : Fetcher}
    (hvariant : node.variant = Service.openai.variant) {w : World} {output : Json}
    (hpassed : ((standard provider fetcher setup).handle node input w).1 = .ok output) :
    ∃ call, callOf? provider setup node input = some call := by
  refine Classical.byContradiction fun hnone => ?_
  have hstandard : Registry.standardFor provider fetcher setup node = .prompt (setup.promptService provider) := by
    rw [Registry.standardFor, hvariant, Service.ofVariant?_variant]
    rfl
  have hno : ∀ s, PromptSettings.read (.obj (Task.mk node input).config) = .good s →
      ((setup.promptService provider).provider.isSome && leavesTime (setup.promptService provider).timeout) = false := by
    intro s hsettings
    rw [Bool.eq_false_iff]
    intro hboth
    rw [Bool.and_eq_true] at hboth
    obtain ⟨p, hp⟩ := Option.isSome_iff_exists.mp hboth.1
    exact hnone ⟨_, (callOf?_openai_eq_some_iff setup node input hvariant).mpr ⟨p, s, hp, hsettings, hboth.2, rfl⟩⟩
  have hfailed := runPrompt_of_no_call (Task.mk node input) hno (entered node w)
  rw [handle_standard, hstandard] at hpassed
  cases hrun : ((Executor.prompt (setup.promptService provider)).run (Task.mk node input) (entered node w)).1 with
  | error fault => rw [hrun] at hpassed; cases hpassed
  | ok other => exact hfailed other hrun

end Runner

end Nodes

end WorkflowLab.Run
