import WorkflowLab.Proofs.Run.Keeps
import WorkflowLab.Proofs.Run.Standard
import WorkflowLab.Proofs.Walk.Outputs

/-!
# The calls of a run

- `leavesTime`: the time limits under which a language model is asked at all; `limitFault?_eq_none_iff`;
- `Node.call?`: the one call that a node makes for an input, if it makes one;
- `Call.Fails`, `NoFailure`: calls that fail, given the calls before them, and sequences without such a call;
- `Work.Makes`: a computation makes a call, and comes to nothing if that fails; `standardFor_makes`: the executors of the
  library make the calls of their nodes;
- `Called`: the calls of a walk are those of the nodes that it handled;
- `run_calls`: the calls of every run with the executors of the library.
-/

namespace WorkflowLab.Run

open Node

/-! ## The call of a node -/

/-- A time limit leaves time for a call: there is none, or it is a number of seconds above zero. -/
def leavesTime (timeout : Json) : Bool :=
  timeout.isNull || timeout.asNumber?.any fun seconds => !seconds.atMost 0 && seconds.toFloat?.isSome

/-- A limit that is a number leaves time if it is above zero and no integer that is too large for a double. -/
theorem limitFault?_of_number {timeout : Json} {n : Number} (h : timeout.asNumber? = some n) :
    limitFault? timeout = none ↔ (!n.atMost 0 && n.toFloat?.isSome) = true := by
  unfold limitFault?
  split
  · cases h
  · rw [h]
    dsimp only
    cases n.atMost 0 <;> cases n.toFloat? <;> simp

/-- A call is made exactly under these limits. -/
theorem limitFault?_eq_none_iff (timeout : Json) : limitFault? timeout = none ↔ leavesTime timeout = true := by
  cases timeout with
  | null => simp [limitFault?, leavesTime, Json.isNull]
  | bool b => exact limitFault?_of_number rfl
  | num n => exact limitFault?_of_number rfl
  | str | arr | obj => simp [limitFault?, leavesTime, Json.isNull, Json.asNumber?]

/-- The request of a node with these settings. -/
def requestOf (demoUrl : Json) (s : RequestSettings) (input : Json) : WebRequest :=
  match filled? s.url with
  | none => demoRequest demoUrl
  | some url => webRequest s url input

/-- **The call of a node for an input**: one completion if it is an openai action whose settings can be read, given a
provider and time for the call; one request if it is an http action whose settings can be read; and nothing otherwise. -/
def callOf? (provider : Option Provider) (setup : Setup) (node : Node) (input : Json) : Option Call :=
  if node.variant = Service.openai.variant then
    match PromptSettings.read (.obj node.config) with
    | .good s =>
      if provider.isSome && leavesTime setup.promptTimeout then
        some (.completion ((setup.promptService provider).request s input))
      else none
    | .bad _ => none
  else if node.variant = Service.http.variant then
    match RequestSettings.read (.obj node.config) with
    | .good s => some (.fetch (requestOf setup.demoUrl s input))
    | .bad _ => none
  else none

/-- A call has no answer, after the calls before it. -/
def Call.Fails (provider : Option Provider) (fetcher : Fetcher) (earlier : List Call) : Call → Prop
  | .completion r => ∃ p f, provider = some p ∧ p.answer (earlier.filterMap Call.completion?) r = .error f
  | .fetch r => ∃ f, fetcher.reply (earlier.filterMap Call.fetch? ++ [r]) = .error f

/-! ## The calls of executors -/

namespace Work

variable {α β : Type} {Fails : List Call → Call → Prop} {call? : Option Call}

/-- A computation makes a call, or none, and has no result if the call fails. -/
def Makes (c : Work α) (call? : Option Call) (Fails : List Call → Call → Prop) : Prop :=
  ∀ w, (c w).2.calls = w.calls ++ call?.toList ∧ ∀ a, (c w).1 = .ok a → ∀ call ∈ call?, ¬Fails w.calls call

/-- What leaves the calls alone makes none. -/
theorem Keeps.makes {c : Work α} (h : c.Keeps World.calls) : c.Makes none Fails := fun w =>
  ⟨(h w).trans (List.append_nil _).symm, fun _ _ _ hcall => nomatch hcall⟩

/-- An entry of the log is no call. -/
theorem Makes.enter_bind {task : Task} {event : Event} {message : String} {data : Json} {f : Unit → Work α}
    (h : (f ()).Makes call? Fails) : (enter task event message data >>= f).Makes call? Fails := fun w =>
  h (Lab.enter task.id event message data w).2

/-- A call, and then what makes no other call and fails when it has failed. -/
theorem makes_call_bind {c : Lab (Except Failure β)} {f : Except Failure β → Work α} {call : Call}
    (hcalls : ∀ w, (c w).2.calls = w.calls ++ [call])
    (hfails : ∀ w, Fails w.calls call → ∃ failure, (c w).1 = .error failure)
    (hrest : ∀ result, (f result).Keeps World.calls) (hstop : ∀ failure w a, (f (.error failure) w).1 ≠ .ok a) :
    Makes (ExceptT.lift c >>= f : Work α) (some call) Fails := fun w => by
  have hrun : (ExceptT.lift c >>= f : Work α) w = f (c w).1 (c w).2 := rfl
  rw [hrun]
  refine ⟨(hrest _ _).trans (hcalls w), fun a hok other hother hfail => ?_⟩
  obtain rfl : call = other := Option.some.inj hother
  obtain ⟨failure, herror⟩ := hfails w hfail
  rw [herror] at hok
  exact hstop failure _ a hok

/-- Settings that can be read are at hand. -/
theorem settings_of_good {task : Task} {read : Json → Intake.Checked α} {s : α} (h : read (.obj task.config) = .good s) :
    settings task read = pure s := by rw [settings, h]

/-- Without settings nothing else happens. -/
theorem makes_settings_of_bad {task : Task} {read : Json → Intake.Checked β} {issues : List Intake.Issue}
    (h : read (.obj task.config) = .bad issues) (f : β → Work α) : (settings task read >>= f).Makes none Fails := by
  refine Keeps.makes fun w => ?_
  rw [settings, h]
  exact keeps_fail apart_calls task _ w

end Work

open Work

theorem calls_ask (provider : Provider) (r : CompletionRequest) (w : World) :
    (Lab.ask provider r w).2.calls = w.calls ++ [.completion r] := by
  unfold Lab.ask
  cases provider.warning? w.completions r <;> rfl

theorem calls_send (fetcher : Fetcher) (r : WebRequest) (w : World) :
    (Lab.send fetcher r w).2.calls = w.calls ++ [.fetch r] := by
  unfold Lab.send
  cases fetcher.reply (w.fetches ++ [r]) with
  | error f => rfl
  | ok reply =>
    dsimp only
    cases fetcher.note? r reply <;> rfl

/-- A request that is not answered has failed. -/
theorem send_of_fails {fetcher : Fetcher} {r : WebRequest} {w : World} {f : Failure}
    (h : fetcher.reply (w.fetches ++ [r]) = .error f) : (Lab.send fetcher r w).1 = .error f := by
  unfold Lab.send
  rw [h]

section Executors

variable {provider : Option Provider} {fetcher : Fetcher} (task : Task)

theorem exchange_makes (r : WebRequest) (opening label : String) :
    (exchange fetcher task r opening label).Makes (some (.fetch r)) (Call.Fails provider fetcher) := by
  refine .enter_bind (makes_call_bind (calls_send fetcher r) ?_ ?_ ?_)
  · rintro w ⟨f, hreply⟩
    exact ⟨f, send_of_fails hreply⟩
  · rintro (f | reply)
    · exact keeps_fail apart_calls task _
    · exact (keeps_enter apart_calls task _ _ _).bind fun _ => keeps_pure _
  · intro failure w a h
    cases h

theorem runRequest_makes (demoUrl : Json) :
    (runRequest fetcher demoUrl task).Makes
      (match RequestSettings.read (.obj task.config) with
        | .good s => some (.fetch (requestOf demoUrl s task.input))
        | .bad _ => none)
      (Call.Fails provider fetcher) := by
  unfold runRequest
  cases hsettings : RequestSettings.read (.obj task.config) with
  | bad issues => exact makes_settings_of_bad hsettings _
  | good s =>
    rw [settings_of_good hsettings, pure_bind]
    show Makes _ (some (.fetch (requestOf demoUrl s task.input))) _
    unfold requestOf
    cases filled? s.url with
    | none => exact exchange_makes task (demoRequest demoUrl) _ _
    | some url => exact exchange_makes task (webRequest s url task.input) _ _

/-- A language model is asked if there is time, and then comes what makes no other call and fails when that has failed. -/
theorem makes_attempt_bind {service : PromptService} {p : Provider} {r : CompletionRequest}
    {f : Except Failure Completion → Work Json} (hrest : ∀ result, (f result).Keeps World.calls)
    (hstop : ∀ failure w a, (f (.error failure) w).1 ≠ .ok a) :
    Makes (ExceptT.lift (service.attempt p r) >>= f : Work Json)
      (if leavesTime service.timeout then some (.completion r) else none) (Call.Fails (some p) fetcher) := by
  unfold PromptService.attempt
  cases hlimit : limitFault? service.timeout with
  | some failure =>
    have hlate : leavesTime service.timeout = false := by
      rw [Bool.eq_false_iff]
      intro htime
      rw [(limitFault?_eq_none_iff _).mpr htime] at hlimit
      cases hlimit
    rw [hlate]
    exact (Keeps.bind (keeps_lift fun _ => rfl) hrest).makes
  | none =>
    rw [(limitFault?_eq_none_iff _).mp hlimit]
    refine makes_call_bind (calls_ask p r) ?_ hrest hstop
    rintro w ⟨other, failure, hother, hanswer⟩
    cases hother
    exact ⟨failure, hanswer⟩

theorem runPrompt_makes (service : PromptService) :
    (service.run task).Makes
      (match PromptSettings.read (.obj task.config) with
        | .good s =>
          if service.provider.isSome && leavesTime service.timeout then some (.completion (service.request s task.input))
          else none
        | .bad _ => none)
      (Call.Fails service.provider fetcher) := by
  unfold PromptService.run
  cases hsettings : PromptSettings.read (.obj task.config) with
  | bad issues => exact makes_settings_of_bad hsettings _
  | good s =>
    rw [settings_of_good hsettings, pure_bind]
    refine .enter_bind ?_
    cases hprovider : service.provider with
    | none => exact (keeps_fail apart_calls task _).makes
    | some p =>
      simp only [Option.isSome_some, Bool.true_and]
      refine makes_attempt_bind ?_ ?_
      · rintro (f | c)
        · exact keeps_fail apart_calls task _
        · exact (keeps_enter apart_calls task _ _ _).bind fun _ => (keeps_note apart_calls _ _ _ _).bind fun _ =>
            keeps_pure _
      · intro failure w a h
        cases h

end Executors

section Walks

variable (provider : Option Provider) (fetcher : Fetcher) (setup : Setup)

/-- **The executors of the library make the calls of their nodes**, and no others. -/
theorem standardFor_makes (node : Node) (input : Json) :
    ((Registry.standardFor provider fetcher setup node).run (Task.mk node input)).Makes
      (callOf? provider setup node input) (Call.Fails provider fetcher) := by
  unfold Registry.standardFor callOf?
  cases hservice : Service.ofVariant? node.variant with
  | none =>
    have hother (s : Service) : node.variant ≠ s.variant := by
      intro hvariant
      rw [hvariant, s.ofVariant?_variant] at hservice
      cases hservice
    rw [if_neg (hother .openai), if_neg (hother .http)]
    have hquiet : (Registry.fallbackOf node.kind).IsQuiet := by cases node.kind <;> trivial
    exact (keeps_run apart_calls _ hquiet).makes
  | some s =>
    rw [← Service.variant_of_ofVariant? hservice]
    cases s with
    | openai => exact runPrompt_makes (Task.mk node input) (setup.promptService provider)
    | http => exact runRequest_makes (Task.mk node input) setup.demoUrl
    | manual | webhook | code | ifElse =>
      rw [if_neg (by decide), if_neg (by decide)]
      refine (keeps_run apart_calls _ ?_).makes
      trivial

/-- Running a node makes its call, and has no output if that fails. -/
theorem handle_calls (node : Node) (input : Json) (w : World) :
    ((Runner.standard provider fetcher setup).handle node input w).2.calls =
        w.calls ++ (callOf? provider setup node input).toList ∧
      ∀ output, ((Runner.standard provider fetcher setup).handle node input w).1 = .ok output →
        ∀ call ∈ callOf? provider setup node input, ¬call.Fails provider fetcher w.calls := by
  obtain ⟨hcalls, hfails⟩ := standardFor_makes provider fetcher setup node input (Runner.entered node w)
  rw [Runner.handle_standard]
  generalize (Registry.standardFor provider fetcher setup node).run (Task.mk node input) (Runner.entered node w) = ended
    at hcalls hfails
  refine ⟨hcalls, fun output hok => ?_⟩
  obtain ⟨fault | other, w'⟩ := ended
  · cases hok
  · exact hfails other rfl

/-- The calls of the nodes of a graph that were handled, in this order. -/
def callsOf (graph : Graph) (handled : List Target) : List Call :=
  handled.flatMap fun target => ((graph.node? target.1).bind fun node => callOf? provider setup node target.2).toList

/-- No call of a sequence fails, after some calls before. -/
def NoFailure (earlier made : List Call) : Prop :=
  ∀ before call, before ++ [call] <+: made → ¬call.Fails provider fetcher (earlier ++ before)

/-- No call of a sequence follows one that fails. -/
def StopsAtFailure (earlier made : List Call) : Prop :=
  ∀ before call after, made = before ++ call :: after → call.Fails provider fetcher (earlier ++ before) → after = []

variable {provider fetcher}

/-- One more call that does not fail. -/
theorem NoFailure.append {earlier made : List Call} {call? : Option Call} (h : NoFailure provider fetcher earlier made)
    (hcall : ∀ call ∈ call?, ¬call.Fails provider fetcher (earlier ++ made)) :
    NoFailure provider fetcher earlier (made ++ call?.toList) := by
  cases call? with
  | none => rwa [Option.toList_none, List.append_nil]
  | some last =>
    intro before call hprefix
    rw [Option.toList_some, List.prefix_concat_iff] at hprefix
    rcases hprefix with heq | hprefix
    · obtain ⟨rfl, hlast⟩ := List.append_inj' heq rfl
      obtain rfl : call = last := List.singleton_inj.mp hlast
      exact hcall call rfl
    · exact h before call hprefix

/-- One more call that may fail. -/
theorem NoFailure.stops {earlier made : List Call} (call? : Option Call) (h : NoFailure provider fetcher earlier made) :
    StopsAtFailure provider fetcher earlier (made ++ call?.toList) := by
  intro before call after hsplit hfail
  refine Classical.byContradiction fun hafter => h before call ?_ hfail
  have hprefix : before ++ [call] <+: made ++ call?.toList := ⟨after, by rw [hsplit]; simp⟩
  cases call? with
  | none => rwa [Option.toList_none, List.append_nil] at hprefix
  | some last =>
    rw [Option.toList_some, List.prefix_concat_iff] at hprefix
    refine hprefix.resolve_left fun heq => hafter ?_
    have hall : before ++ [call] = before ++ call :: after := heq.trans hsplit
    exact (List.cons.inj (List.append_cancel_left hall)).2.symm

/-! ## The calls of walks -/

/-- **The calls of a walk**, after some calls before: those of the nodes that it handled, none of them after one that has
failed. -/
structure Called (provider : Option Provider) (fetcher : Fetcher) (setup : Setup) (graph : Graph) (earlier : List Call)
    (p : Progress World) : Prop where
  calls : p.state.calls = earlier ++ callsOf provider setup graph p.handled
  answered : p.fault = none → NoFailure provider fetcher earlier (callsOf provider setup graph p.handled)
  stops : StopsAtFailure provider fetcher earlier (callsOf provider setup graph p.handled)

variable {setup} {graph : Graph}

/-- Nothing done makes no calls. -/
theorem called_start (w : World) : Called provider fetcher setup graph w.calls (.start w) where
  calls := (List.append_nil _).symm
  answered _ _ _ h := by simp [callsOf, Progress.start] at h
  stops _ _ _ h := by simp [callsOf, Progress.start] at h

/-- One more node makes its call. -/
theorem callsOf_concat {id : String} {node : Node} (hnode : graph.node? id = some node) (handled : List Target)
    (input : Json) :
    callsOf provider setup graph (handled ++ [(id, input)]) =
      callsOf provider setup graph handled ++ (callOf? provider setup node input).toList := by
  rw [callsOf, List.flatMap_append, List.flatMap_singleton, hnode]
  rfl

/-- Every move makes at most the call of its node. -/
theorem called_of_moves {earlier : List Call} {p q : Progress World} {target : Target} {targets : List Target}
    (hmove : ((Runner.standard provider fetcher setup).tour graph).Moves p target q targets)
    (h : Called provider fetcher setup graph earlier p) : Called provider fetcher setup graph earlier q := by
  cases hmove with
  | stopped | again => exact h
  | missing => exact ⟨h.calls, h.answered, h.stops⟩
  | @failed node message state hfault hnew hnode hid hrun =>
    have hnode : graph.node? node.id = some node := hid ▸ hnode
    have hrun : (Runner.standard provider fetcher setup).handle node target.2 p.state = (.error message, state) := hrun
    obtain ⟨hcalls, -⟩ := handle_calls provider fetcher setup node target.2 p.state
    rw [hrun, h.calls, List.append_assoc] at hcalls
    refine ⟨?_, (fun hnone => nomatch hnone), ?_⟩
    · rw [Progress.failed, callsOf_concat hnode]
      exact hcalls
    · rw [Progress.failed, callsOf_concat hnode]
      exact (h.answered hfault).stops _
  | @passed node output state hfault hnew hnode hid hrun =>
    have hnode : graph.node? node.id = some node := hid ▸ hnode
    have hrun : (Runner.standard provider fetcher setup).handle node target.2 p.state = (.ok output, state) := hrun
    obtain ⟨hcalls, hfails⟩ := handle_calls provider fetcher setup node target.2 p.state
    rw [hrun, h.calls] at hcalls hfails
    rw [List.append_assoc] at hcalls
    refine ⟨?_, fun _ => ?_, ?_⟩
    · rw [Progress.passed, callsOf_concat hnode]
      exact hcalls
    · rw [Progress.passed, callsOf_concat hnode]
      exact (h.answered hfault).append (hfails output rfl)
    · rw [Progress.passed, callsOf_concat hnode]
      exact (h.answered hfault).stops _

end Walks

/-! ## The calls of runs -/

namespace Runner

theorem calls_noteEnd (r : RunResult) (w : World) : (noteEnd r w).2.calls = w.calls := by
  unfold noteEnd
  cases r.verdict <;> rfl

/-- **The calls of a run**: those of the nodes on its path, one after the other in the order of the path, on which no
node occurs twice; and a call that fails is the last one. So nothing else makes a call: not a second visit, not a node
that fails before it works. -/
theorem run_calls (provider : Option Provider) (fetcher : Fetcher) (setup : Setup) (graph : Graph) (w : World) :
    ∃ handled : List Target, ((standard provider fetcher setup).run graph w).1.path = handled.map (·.1) ∧
      (handled.map (·.1)).Nodup ∧
      ((standard provider fetcher setup).run graph w).2.calls = w.calls ++ callsOf provider setup graph handled ∧
      StopsAtFailure provider fetcher w.calls (callsOf provider setup graph handled) := by
  cases h : (standard provider fetcher setup).locateTrigger graph with
  | error fault =>
    obtain ⟨start, -, hcalls, hrun⟩ := run_of_error h w
    refine ⟨[], by rw [hrun]; rfl, List.nodup_nil, ?_, ?_⟩
    · rw [hrun]
      exact hcalls.trans (List.append_nil _).symm
    · intro before call after hsplit
      simp [callsOf] at hsplit
  | ok trigger =>
    obtain ⟨start, p, -, hstart, hwalk, hrun⟩ := run_of_ok h w
    have hnothing : Called provider fetcher setup graph start.calls (.start start) := called_start start
    have hcalled := hwalk ▸ Tour.explore_keeps _ called_of_moves [(trigger.id, .null)] hnothing
    have hconsistent := hwalk ▸ Tour.consistent_explore ((standard provider fetcher setup).tour graph)
      (Tour.consistent_start _ start) [(trigger.id, .null)]
    rw [hrun, ← hstart]
    exact ⟨p.handled, rfl, hconsistent.nodup, (calls_noteEnd _ _).trans hcalled.calls, hcalled.stops⟩

end Runner

end WorkflowLab.Run
