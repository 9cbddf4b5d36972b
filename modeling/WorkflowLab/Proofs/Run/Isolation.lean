import WorkflowLab.Proofs.Journal.Blocks
import WorkflowLab.Proofs.Run.Departure
import WorkflowLab.Proofs.Run.Twins

/-!
# Runs that follow one another

- `voyage_alike`, `run_agree`, `runPayload_agree`: capabilities that agree on all calls give the same walks and runs;
- `clock_runPayload`: a clock that stands still is the same after a run;
- `remaining`, `agree_canned`: a provider of canned answers after some questions answers like one with what is left;
- `runs_isolated`: all that a run on one executor has of the runs before it are the canned answers that they have used up.
-/

namespace WorkflowLab.Run

/-- The result at a place of a list of computations is that of the computation there, in the world that the ones before
leave behind. -/
theorem getElem?_mapM_lab {α β : Type} (f : α → Lab β) (items : List α) (w : World) (k : Nat) :
    ((items.mapM f) w).1[k]? = items[k]?.map fun a => (f a (((items.take k).mapM f) w).2).1 := by
  induction items generalizing w k with
  | nil => rfl
  | cons a rest ih =>
    have hcons (more : List α) : ((a :: more).mapM f) w =
        ((f a w).1 :: ((more.mapM f) (f a w).2).1, ((more.mapM f) (f a w).2).2) := by
      rw [List.mapM_cons]
      rfl
    cases k with
    | zero =>
      rw [hcons]
      rfl
    | succ k =>
      rw [hcons, List.take_succ_cons, hcons, List.getElem?_cons_succ, List.getElem?_cons_succ]
      exact ih (f a w).2 k

namespace Runner

/-! ## Capabilities that agree -/

section Agreement

variable {provider provider' : Option Provider} {fetcher fetcher' : Fetcher} {setup : Setup} {w w' : World}

/-- Capabilities that agree on all calls to come give walks that do the same. -/
theorem voyage_alike (hclock : w'.clock = w.clock) (hprovider : provider'.isSome = provider.isSome)
    (hagree : ∀ made call, Call.Agree provider provider' fetcher fetcher' (w.calls ++ made) (w'.calls ++ made) call)
    (graph : Graph) (trigger : Node) :
    ((standard provider fetcher setup).voyage graph trigger w).Alike
      (InStep (departure graph trigger w) (departure graph trigger w'))
      ((standard provider' fetcher' setup).voyage graph trigger w') := by
  have hclocks : (departure graph trigger w').clock = (departure graph trigger w).clock := by
    rw [clock_departure, clock_departure, hclock]
  refine Tour.explore_alike ?_ ?_ ?_ ?_ ?_ _
  · rfl
  · rfl
  · intro id s s' hstep
    exact hstep.trans (.retold hstep.clock _ _ _ _)
  · intro node input s s' hstep
    obtain ⟨made, hmade, hmade'⟩ := hstep.calls
    obtain ⟨hsame, hnode⟩ := handle_standard_twin setup node input hstep.clock (fun _ => hprovider) (by
      intro call _
      rw [hmade, hmade', calls_departure, calls_departure]
      exact hagree made call)
    exact ⟨hsame, hstep.trans hnode⟩
  · exact .start (.refl hclocks)

/-- **Capabilities that agree on all calls to come give the same run.** -/
theorem run_agree (hclock : w'.clock = w.clock) (hprovider : provider'.isSome = provider.isSome)
    (hagree : ∀ made call, Call.Agree provider provider' fetcher fetcher' (w.calls ++ made) (w'.calls ++ made) call)
    (graph : Graph) :
    ((standard provider' fetcher' setup).run graph w').1 = ((standard provider fetcher setup).run graph w).1 := by
  have hlocate := locateTrigger_standard provider provider' fetcher fetcher' setup graph
  cases htrigger : (standard provider fetcher setup).locateTrigger graph with
  | error fault =>
    rw [htrigger] at hlocate
    obtain ⟨trace, records, hrun⟩ := run_eq_refusal htrigger w
    obtain ⟨trace', records', hrun'⟩ := run_eq_refusal hlocate w'
    rw [hrun, hrun', hclock]
  | ok trigger =>
    rw [htrigger] at hlocate
    have hlog : (departure graph trigger w').log = (departure graph trigger w).log := by
      rw [log_departure, log_departure]
    have halike : ((standard provider fetcher setup).voyage graph trigger w).Alike _
        ((standard provider' fetcher' setup).voyage graph trigger w') :=
      voyage_alike hclock hprovider hagree graph trigger
    rw [run_eq_walk htrigger, run_eq_walk hlocate]
    show RunResult.ofWalk _ = RunResult.ofWalk _
    unfold RunResult.ofWalk
    rw [halike.outputs, halike.state.log_eq hlog, halike.path, halike.fault, halike.final]

/-- The same of what an editor sends. -/
theorem runPayload_agree (hclock : w'.clock = w.clock) (hprovider : provider'.isSome = provider.isSome)
    (hagree : ∀ made call, Call.Agree provider provider' fetcher fetcher' (w.calls ++ made) (w'.calls ++ made) call)
    (payload : Json) :
    ((standard provider' fetcher' setup).runPayload payload w').1 =
      ((standard provider fetcher setup).runPayload payload w).1 := by
  unfold runPayload
  cases Graph.ofPayload payload with
  | ok graph => exact run_agree hclock hprovider hagree graph
  | error fault =>
    show RunResult.refusal fault.message w'.clock.tick.1.iso = RunResult.refusal fault.message w.clock.tick.1.iso
    rw [hclock]

end Agreement

/-! ## Clocks that stand still -/

/-- Runs of payloads, one after the other. -/
def runEach (runner : Runner) (payloads : List Json) : Lab (List RunResult) := payloads.mapM runner.runPayload

/-- A clock that stands still is the same after a step. -/
theorem clock_of_moves {runner : Runner} {graph : Graph} {p q : Progress World} {target : Target}
    {targets : List Target} (hmove : (runner.tour graph).Moves p target q targets) (hstill : p.state.clock.step = 0) :
    q.state.clock = p.state.clock := by
  cases hmove with
  | stopped | again | missing => rfl
  | @failed node _ state _ _ _ _ hrun =>
    have hstate : (runner.handle node target.2 p.state).2 = state := congrArg Prod.snd hrun
    rw [Progress.failed, ← hstate]
    exact (runner.handle_inStep node target.2 p.state).still hstill
  | @passed node _ state _ _ _ _ hrun =>
    have hstate : (runner.handle node target.2 p.state).2 = state := congrArg Prod.snd hrun
    rw [Progress.passed, ← hstate]
    exact (runner.handle_inStep node target.2 p.state).still hstill

/-- The same of a run. -/
theorem clock_run (runner : Runner) (graph : Graph) {w : World} (hstill : w.clock.step = 0) :
    (runner.run graph w).2.clock = w.clock := by
  cases htrigger : runner.locateTrigger graph with
  | error fault =>
    obtain ⟨trace, records, hrun⟩ := run_eq_refusal htrigger w
    rw [hrun]
    exact tick_of_still hstill
  | ok trigger =>
    have hkeeps : ∀ {p target q targets}, (runner.tour graph).Moves p target q targets →
        p.state.clock = w.clock → q.state.clock = w.clock :=
      fun hmove hp => (clock_of_moves hmove (by rw [hp]; exact hstill)).trans hp
    obtain ⟨_, _, hend⟩ := noteEnd_eq (.ofWalk (runner.voyage graph trigger w)) (runner.voyage graph trigger w).state
    rw [run_eq_walk htrigger, hend]
    exact (runner.tour graph).explore_keeps hkeeps [(trigger.id, .null)] (clock_departure graph trigger w)

/-- The same of what an editor sends. -/
theorem clock_runPayload (runner : Runner) (payload : Json) {w : World} (hstill : w.clock.step = 0) :
    (runner.runPayload payload w).2.clock = w.clock := by
  unfold runPayload
  cases Graph.ofPayload payload with
  | ok graph => exact runner.clock_run graph hstill
  | error fault => exact tick_of_still hstill

/-- The same of several runs. -/
theorem clock_runEach (runner : Runner) (payloads : List Json) {w : World} (hstill : w.clock.step = 0) :
    (runner.runEach payloads w).2.clock = w.clock := by
  induction payloads generalizing w with
  | nil => rfl
  | cons payload rest ih =>
    have hfirst := runner.clock_runPayload payload hstill
    have hrest := ih (by rw [hfirst]; exact hstill)
    rw [runEach, List.mapM_cons]
    exact hrest.trans hfirst

/-! ## Canned answers -/

/-- The canned answers that are left after some questions. The last one is never used up. -/
def remaining (responses : List String) (asked : Nat) : List String := responses.drop (min asked (responses.length - 1))

/-- What is left answers the next questions. -/
theorem cannedContent_remaining (responses : List String) (asked more : Nat) :
    Provider.cannedContent (remaining responses asked) more = Provider.cannedContent responses (asked + more) := by
  unfold Provider.cannedContent remaining
  rw [List.getD_eq_getElem?_getD, List.getD_eq_getElem?_getD, List.getElem?_drop, List.length_drop]
  have hplace : min asked (responses.length - 1) + min more (responses.length - min asked (responses.length - 1) - 1) =
      min (asked + more) (responses.length - 1) := by omega
  rw [hplace]

/-- The same content makes the same answer. -/
theorem answer_canned {responses responses' : List String} {earlier earlier' : List CompletionRequest}
    (h : Provider.cannedContent responses' earlier'.length = Provider.cannedContent responses earlier.length)
    (r : CompletionRequest) :
    (Provider.canned responses' none).answer earlier' r = (Provider.canned responses none).answer earlier r := by
  simp only [Provider.answer, h]

/-- A provider of canned answers, after some questions, answers like a new one with what is left. -/
theorem agree_canned (responses : List String) {fetcher : Fetcher}
    (hfetcher : ∀ earlier r, fetcher.reply (earlier ++ [r]) = fetcher.reply [r]) {w v : World}
    (hfresh : v.completions = []) (made : List Call) (call : Call) :
    Call.Agree (some (.canned responses none)) (some (.canned (remaining responses w.completions.length) none)) fetcher
      fetcher (w.calls ++ made) (v.calls ++ made) call := by
  cases call with
  | fetch r => exact (hfetcher _ r).trans (hfetcher _ r).symm
  | completion r =>
    have hfresh : v.calls.filterMap Call.completion? = [] := hfresh
    have hcount : (w.calls.filterMap Call.completion?).length = w.completions.length := rfl
    refine congrArg some (answer_canned ?_ r)
    rw [List.filterMap_append, List.filterMap_append, hfresh, List.nil_append, List.length_append, hcount]
    exact cannedContent_remaining responses _ _

/-- **Runs on one executor are isolated but for the answers that they use up.** When payloads are run one after the other
with canned answers, a clock that stands still and replies from the web that depend on the request alone, the result of
each run is that of its payload alone, at the same time and without questions before it, with the answers that are left
after the questions of the earlier runs. -/
theorem runs_isolated (responses : List String) {fetcher : Fetcher} (setup : Setup)
    (hfetcher : ∀ earlier r, fetcher.reply (earlier ++ [r]) = fetcher.reply [r]) (payloads : List Json) {w : World}
    (hstill : w.clock.step = 0) (k : Nat) {v : World} (hclock : v.clock = w.clock) (hfresh : v.completions = []) :
    ((standard (some (.canned responses none)) fetcher setup).runEach payloads w).1[k]? =
      payloads[k]?.map fun payload =>
        ((standard (some (.canned (remaining responses (((standard (some (.canned responses none)) fetcher setup).runEach
          (payloads.take k) w).2.completions.length)) none)) fetcher setup).runPayload payload v).1 := by
  rw [runEach, getElem?_mapM_lab]
  congr 1
  funext payload
  symm
  apply runPayload_agree
  · have hstays := (standard (some (.canned responses none)) fetcher setup).clock_runEach (payloads.take k) hstill
    exact hclock.trans hstays.symm
  · rfl
  · exact agree_canned responses hfetcher hfresh

/-- Settings without a time limit for language models. -/
def unhurried : Setup := { Setup.standard with promptTimeout := .null }

/-- A question to a language model, as an editor sends it. -/
def question : Json := .arr [
  .obj [("id", .str "t"), ("type", .str "trigger"), ("service", .str "manual"), ("connections", .arr [.str "ask"])],
  .obj [("id", .str "ask"), ("type", .str "action"), ("service", .str "openai"), ("connections", .arr [.str "t"])]]

/-- The question is asked once in a run. -/
theorem completions_question (responses : List String) :
    ((standard (some (.canned responses none)) offline unhurried).runPayload question dawn).2.completions.length =
      1 := by
  have hgraph : Graph.ofPayload question = .ok inquiry := rfl
  have htrigger : (standard (some (.canned responses none)) offline unhurried).locateTrigger inquiry = .ok _ := rfl
  rw [World.completions, runPayload, hgraph]
  dsimp only
  rw [run_eq_walk htrigger, calls_noteEnd, voyage, Tour.explore_of_within rfl]
  rfl

/-- Asked twice, the second run gets the second answer, like a first run with this answer alone. -/
theorem runs_isolated_question :
    ((standard (some (.canned ["one", "two"] none)) offline unhurried).runEach [question, question] dawn).1[1]? =
      some ((standard (some (.canned ["two"] none)) offline unhurried).runPayload question dawn).1 := by
  have hfetcher : ∀ earlier r, offline.reply (earlier ++ [r]) = offline.reply [r] := fun _ _ => rfl
  have hstill : dawn.clock.step = 0 := rfl
  have hfresh : dawn.completions = [] := rfl
  have hcount : ((standard (some (.canned ["one", "two"] none)) offline unhurried).runEach ([question, question].take 1)
      dawn).2.completions.length = 1 := completions_question ["one", "two"]
  rw [runs_isolated ["one", "two"] unhurried hfetcher [question, question] hstill 1 rfl hfresh, hcount]
  rfl

end Runner

end WorkflowLab.Run
