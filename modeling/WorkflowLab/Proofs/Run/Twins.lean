import WorkflowLab.Proofs.Run.Calls
import WorkflowLab.Proofs.Walk.Simulation
import WorkflowLab.Proofs.Walk.Wiring

/-!
# Nodes that are run in two worlds

- `InStep`: two worlds have gone on in the same way from two others, but for traces and records;
- `Work.Steady`: what a computation does depends on the clock alone;
- `Call.Agree`: two sets of capabilities give the same answer to a call;
- `handle_twin`: a runner treats two nodes alike that differ only in successors, in worlds with the same clock and calls;
- `handle_standard_twin`: so do the runners of the library, whatever their capabilities, if these agree on its call.
-/

namespace WorkflowLab.Run

open Node

/-! ## Worlds in step -/

/-- **Two worlds `v` and `v'` in step**: they show the same time, and what was added to the log, the calls and the tasks
since `w` and `w'` is the same in both, but for the successors of nodes. A clock with no step between its readings has
stood still. -/
structure InStep (w w' v v' : World) : Prop where
  clock : v'.clock = v.clock
  still : w.clock.step = 0 → v.clock = w.clock
  log : ∃ added, v.log = w.log ++ added ∧ v'.log = w'.log ++ added
  calls : ∃ made, v.calls = w.calls ++ made ∧ v'.calls = w'.calls ++ made
  guests : ∃ tasks, v.guests.map Task.unwired = w.guests.map Task.unwired ++ tasks ∧
    v'.guests.map Task.unwired = w'.guests.map Task.unwired ++ tasks

/-- The same was added to two lists in two steps. -/
theorem added_trans {α : Type} {l l' m m' n n' : List α} (h : ∃ added, m = l ++ added ∧ m' = l' ++ added)
    (h' : ∃ added, n = m ++ added ∧ n' = m' ++ added) : ∃ added, n = l ++ added ∧ n' = l' ++ added := by
  obtain ⟨first, rfl, rfl⟩ := h
  obtain ⟨second, rfl, rfl⟩ := h'
  exact ⟨first ++ second, List.append_assoc .., List.append_assoc ..⟩

/-- Nothing was added to two lists. -/
theorem added_nothing {α : Type} (l l' : List α) : ∃ added, l = l ++ added ∧ l' = l' ++ added :=
  ⟨[], (List.append_nil l).symm, (List.append_nil l').symm⟩

/-- A clock without a step between its readings stands still. -/
theorem tick_of_still {clock : Time.Clock} (h : clock.step = 0) : clock.tick.2 = clock := by
  obtain ⟨now, step⟩ := clock
  obtain rfl : step = 0 := h
  rfl

namespace InStep

variable {w w' v v' u u' : World}

theorem refl (h : w'.clock = w.clock) : InStep w w' w w' :=
  ⟨h, fun _ => rfl, added_nothing _ _, added_nothing _ _, added_nothing _ _⟩

theorem trans (h : InStep w w' v v') (h' : InStep v v' u u') : InStep w w' u u' where
  clock := h'.clock
  still hstep := by
    have hmiddle := h.still hstep
    rw [h'.still (by rw [hmiddle]; exact hstep), hmiddle]
  log := added_trans h.log h'.log
  calls := added_trans h.calls h'.calls
  guests := added_trans h.guests h'.guests

/-- Worlds that go on from the same calls have made the same calls. -/
theorem calls_eq (h : InStep w w' v v') (hcalls : w'.calls = w.calls) : v'.calls = v.calls := by
  obtain ⟨made, hv, hv'⟩ := h.calls
  rw [hv, hv', hcalls]

/-- Worlds that go on from the same log have the same log. -/
theorem log_eq (h : InStep w w' v v') (hlog : w'.log = w.log) : v'.log = v.log := by
  obtain ⟨added, hv, hv'⟩ := h.log
  rw [hv, hv', hlog]

/-- Worlds that go on from the same tasks have given out the same tasks. -/
theorem guests_eq (h : InStep w w' v v') (hguests : w'.guests.map Task.unwired = w.guests.map Task.unwired) :
    v'.guests.map Task.unwired = v.guests.map Task.unwired := by
  obtain ⟨tasks, hv, hv'⟩ := h.guests
  rw [hv, hv', hguests]

/-- Traces and records are not compared. -/
theorem retold (h : w'.clock = w.clock) (trace trace' : Fields) (records records' : List Record) :
    InStep w w' { w with trace, records } { w' with trace := trace', records := records' } :=
  ⟨h, fun _ => rfl, added_nothing _ _, added_nothing _ _, added_nothing _ _⟩

/-- The same entry is added in both. -/
theorem entered (h : w'.clock = w.clock) (id : String) (event : Event) (message : String) (data : Json) :
    InStep w w' (Lab.enter id event message data w).2 (Lab.enter id event message data w').2 where
  clock := congrArg (fun clock => clock.tick.2) h
  still := tick_of_still
  log := ⟨[⟨id, event, message, w.clock.tick.1.iso, data, []⟩], rfl, by rw [← h]; rfl⟩
  calls := added_nothing _ _
  guests := added_nothing _ _

/-- The same call is made in both. -/
theorem called (h : w'.clock = w.clock) (call : Call) (sent sent' : List Fields) (records records' : List Record) :
    InStep w w' { w with calls := w.calls ++ [call], sent, records }
      { w' with calls := w'.calls ++ [call], sent := sent', records := records' } :=
  ⟨h, fun _ => rfl, added_nothing _ _, ⟨[call], rfl, rfl⟩, added_nothing _ _⟩

end InStep

/-! ## Steady computations -/

namespace Work

variable {α β : Type}

/-- What a computation does depends on the clock alone. -/
def Steady (c : Work α) : Prop := ∀ w w', w'.clock = w.clock → SameResult (InStep w w') (c w) (c w')

theorem steady_pure (a : α) : (pure a : Work α).Steady := fun _ _ h => ⟨rfl, .refl h⟩

theorem steady_enter (task : Task) (event : Event) (message : String) (data : Json) :
    (enter task event message data).Steady := fun _ _ h => ⟨rfl, .entered h _ _ _ _⟩

theorem steady_note (level : Level) (origin : Part) (message : String) (members : Fields) :
    Steady (ExceptT.lift (Lab.note level origin message members) : Work Unit) := fun w w' h =>
  ⟨rfl, .retold h w.trace w'.trace _ _⟩

theorem steady_stamp : Steady (ExceptT.lift (Lab.clocked Time.Clock.stamp) : Work String) := fun w w' h => by
  have hstamp : (Time.Clock.stamp w'.clock) = Time.Clock.stamp w.clock := congrArg Time.Clock.stamp h
  refine ⟨?_, ?_, tick_of_still, added_nothing _ _, added_nothing _ _, added_nothing _ _⟩
  · exact congrArg (fun read => Except.ok read.1) hstamp
  · exact congrArg Prod.snd hstamp

/-- **Two computations after a steady one.** -/
theorem Steady.bind_twin {c : Work β} (hc : c.Steady) {f f' : β → Work α} {w w' : World} (h : w'.clock = w.clock)
    (hf : ∀ b v v', c w = (.ok b, v) → c w' = (.ok b, v') → InStep w w' v v' →
      SameResult (InStep v v') (f b v) (f' b v')) :
    SameResult (InStep w w') ((c >>= f) w) ((c >>= f') w') := by
  obtain ⟨hresult, hstep⟩ := hc w w' h
  cases hrun : c w with
  | mk result v =>
    cases hrun' : c w' with
    | mk result' v' =>
      rw [hrun, hrun'] at hresult hstep
      dsimp only at hresult hstep
      subst hresult
      cases result' with
      | error fault =>
        have herror {g : β → Work α} {x y : World} (hx : c x = (.error fault, y)) :
            (c >>= g) x = (.error fault, y) := by
          show (ExceptT.bindCont g (c x).1 : Lab (Except NodeFault α)) (c x).2 = _
          rw [hx]
          rfl
        rw [herror hrun, herror hrun']
        exact ⟨rfl, hstep⟩
      | ok b =>
        rw [bind_of_ok hrun, bind_of_ok hrun']
        obtain ⟨hsame, hrest⟩ := hf b v v' hrun hrun' hstep
        exact ⟨hsame, hstep.trans hrest⟩

/-- A steady computation and what follows it. -/
theorem Steady.bind {c : Work β} {f : β → Work α} (hc : c.Steady) (hf : ∀ b, (f b).Steady) : (c >>= f).Steady := by
  intro w w' h
  apply hc.bind_twin h
  intro b v v' _ _ hstep
  exact hf b v v' hstep.clock

theorem steady_report (task : Task) (message : String) : (report task message).Steady := fun w w' h =>
  ⟨rfl, (InStep.entered h task.id .error message .null).trans
    (.retold (congrArg (fun clock => clock.tick.2) h) w.trace w'.trace _ _)⟩

theorem steady_throw (fault : NodeFault) : (throw fault : Work α).Steady := fun _ _ h => ⟨rfl, .refl h⟩

theorem steady_fail (task : Task) (message : String) : (fail task message : Work α).Steady :=
  (steady_report task message).bind fun _ => steady_throw _

theorem steady_settings (task : Task) (read : Json → Intake.Checked α) : (settings task read).Steady := by
  unfold settings
  cases read (.obj task.config) with
  | good s => exact steady_pure s
  | bad issues => exact steady_fail task _

theorem steady_writeAll (task : Task) (notes : List Note) : (writeAll task notes).Steady := by
  induction notes with
  | nil => exact steady_pure ()
  | cons note rest ih =>
    refine Steady.bind ?_ fun _ => ih
    cases note with
    | entry nodeId event message data => exact fun _ _ h => ⟨rfl, .entered h nodeId event message data⟩
    | report message => exact steady_report task message

theorem steady_carryOut (task : Task) (turn : Turn) : (turn.carryOut task).Steady := by
  refine (steady_writeAll task turn.notes).bind fun _ => ?_
  cases turn.result with
  | ok output => exact steady_pure output
  | error fault => exact steady_throw fault

end Work

open Work

section Executors

variable (task : Task)

theorem steady_runManual : (runManual task).Steady := by
  apply (steady_settings task readManual).bind
  intro s
  have hrest (payload : Json) : (do
      Work.enter task .success "Manual trigger activated" payload
      return payload : Work Json).Steady :=
    (steady_enter task _ _ _).bind fun _ => steady_pure payload
  by_cases h : s.value.isNull
  · simp only [h, if_true, pure_bind]
    exact steady_stamp.bind fun time => hrest _
  · rw [if_neg h, pure_bind]
    exact hrest s.value

/-- **Executors that make no calls are steady.** -/
theorem steady_run {e : Executor} (h : e.IsQuiet) : (e.run task).Steady := by
  cases e with
  | prompt | request | guest => cases h
  | manual => exact steady_runManual task
  | webhook | condition =>
    exact (steady_settings task _).bind fun s => (steady_enter task _ _ _).bind fun _ => steady_pure _
  | transform =>
    exact (steady_settings task _).bind fun s => (steady_enter task _ _ _).bind fun _ =>
      (steady_enter task _ _ _).bind fun _ => steady_pure _
  | trigger | passthrough | output => exact (steady_enter task _ _ _).bind fun _ => steady_pure _

end Executors

/-! ## Calls in two worlds -/

/-- Two sets of capabilities give the same answer to a call, each after the calls that it had before. -/
def Call.Agree (provider provider' : Option Provider) (fetcher fetcher' : Fetcher) (earlier earlier' : List Call) :
    Call → Prop
  | .completion r =>
    (provider'.map fun p => p.answer (earlier'.filterMap Call.completion?) r) =
      provider.map fun p => p.answer (earlier.filterMap Call.completion?) r
  | .fetch r =>
    fetcher'.reply (earlier'.filterMap Call.fetch? ++ [r]) = fetcher.reply (earlier.filterMap Call.fetch? ++ [r])

/-- Asking a language model keeps the call, what a gateway is sent, and perhaps a record. -/
theorem ask_eq (provider : Provider) (r : CompletionRequest) (w : World) :
    ∃ sent records, Lab.ask provider r w =
      (provider.answer w.completions r, { w with calls := w.calls ++ [.completion r], sent, records }) := by
  unfold Lab.ask
  cases provider.warning? w.completions r with
  | none => exact ⟨_, w.records, rfl⟩
  | some message => exact ⟨_, _, rfl⟩

/-- Sending a request keeps the call, and perhaps a record. -/
theorem send_eq (fetcher : Fetcher) (r : WebRequest) (w : World) :
    ∃ records, Lab.send fetcher r w =
      (fetcher.reply (w.fetches ++ [r]), { w with calls := w.calls ++ [.fetch r], records }) := by
  unfold Lab.send
  cases fetcher.reply (w.fetches ++ [r]) with
  | error f => exact ⟨w.records, rfl⟩
  | ok reply =>
    cases hnote : fetcher.note? r reply with
    | none => exact ⟨w.records, by simp [hnote]⟩
    | some message => exact ⟨_, by simp only [hnote]; rfl⟩

/-- What follows a call that has the same answer in two worlds. -/
theorem call_bind_twin {α β : Type} {c c' : Lab β} {f f' : β → Work α} {w w' v v' : World} {b : β}
    (hc : c w = (b, v)) (hc' : c' w' = (b, v')) (hstep : InStep w w' v v')
    (hf : SameResult (InStep v v') (f b v) (f' b v')) :
    SameResult (InStep w w') ((ExceptT.lift c >>= f : Work α) w) ((ExceptT.lift c' >>= f' : Work α) w') := by
  have hbind {c : Lab β} {f : β → Work α} {w v : World} (h : c w = (b, v)) :
      (ExceptT.lift c >>= f : Work α) w = f b v := bind_of_ok (by
        show ((Except.ok (c w).1, (c w).2) : Except NodeFault β × World) = _
        rw [h])
  rw [hbind hc, hbind hc']
  exact ⟨hf.1, hstep.trans hf.2⟩

section Twins

variable {provider provider' : Option Provider} {fetcher fetcher' : Fetcher} {w w' : World} (task : Task)

theorem exchange_twin (r : WebRequest) (opening label : String) (hclock : w'.clock = w.clock)
    (hreply : fetcher'.reply (w'.fetches ++ [r]) = fetcher.reply (w.fetches ++ [r])) :
    SameResult (InStep w w') (exchange fetcher task r opening label w) (exchange fetcher' task r opening label w') := by
  apply (steady_enter task .start opening .null).bind_twin hclock
  intro _ v v' hv hv' hstep
  obtain rfl : v = (Lab.enter task.id .start opening .null w).2 := (congrArg Prod.snd hv).symm
  obtain rfl : v' = (Lab.enter task.id .start opening .null w').2 := (congrArg Prod.snd hv').symm
  obtain ⟨records, hsend⟩ := send_eq fetcher r (Lab.enter task.id .start opening .null w).2
  obtain ⟨records', hsend'⟩ := send_eq fetcher' r (Lab.enter task.id .start opening .null w').2
  have hsame : fetcher'.reply ((Lab.enter task.id .start opening .null w').2.fetches ++ [r]) =
    fetcher.reply ((Lab.enter task.id .start opening .null w).2.fetches ++ [r]) := hreply
  rw [hsame] at hsend'
  have hcalled := InStep.called hstep.clock (.fetch r) w.sent w'.sent records records'
  apply call_bind_twin hsend hsend' hcalled
  cases fetcher.reply ((Lab.enter task.id .start opening .null w).2.fetches ++ [r]) with
  | error f => exact steady_fail task _ _ _ hcalled.clock
  | ok reply => exact ((steady_enter task _ _ _).bind fun _ => steady_pure _) _ _ hcalled.clock

theorem runRequest_twin (demoUrl : Json) (hclock : w'.clock = w.clock)
    (hreply : ∀ s, RequestSettings.read (.obj task.config) = .good s →
      fetcher'.reply (w'.fetches ++ [requestOf demoUrl s task.input]) =
        fetcher.reply (w.fetches ++ [requestOf demoUrl s task.input])) :
    SameResult (InStep w w') (runRequest fetcher demoUrl task w) (runRequest fetcher' demoUrl task w') := by
  unfold runRequest
  cases hsettings : RequestSettings.read (.obj task.config) with
  | bad issues =>
    apply (steady_settings task RequestSettings.read).bind_twin hclock
    intro s v v' hv
    rw [settings, hsettings] at hv
    cases hv
  | good s =>
    have hsame := hreply s hsettings
    rw [settings_of_good hsettings, pure_bind, pure_bind]
    unfold requestOf at hsame
    cases hurl : filled? s.url with
    | none =>
      rw [hurl] at hsame
      exact exchange_twin task _ _ _ hclock hsame
    | some url =>
      rw [hurl] at hsame
      exact exchange_twin task _ _ _ hclock hsame

/-- A language model is asked if there is time, and what follows is steady. -/
theorem attempt_twin {service : PromptService} {p p' : Provider} {r : CompletionRequest}
    {f : Except Failure Completion → Work Json} (hclock : w'.clock = w.clock)
    (hanswer : leavesTime service.timeout = true → p'.answer w'.completions r = p.answer w.completions r)
    (hf : ∀ result, (f result).Steady) :
    SameResult (InStep w w') ((ExceptT.lift (service.attempt p r) >>= f : Work Json) w)
      ((ExceptT.lift (service.attempt p' r) >>= f : Work Json) w') := by
  unfold PromptService.attempt
  cases hlimit : limitFault? service.timeout with
  | some failure => exact hf (.error failure) w w' hclock
  | none =>
    obtain ⟨sent, records, hask⟩ := ask_eq p r w
    obtain ⟨sent', records', hask'⟩ := ask_eq p' r w'
    rw [hanswer ((limitFault?_eq_none_iff _).mp hlimit)] at hask'
    have hcalled := InStep.called hclock (.completion r) sent sent' records records'
    exact call_bind_twin hask hask' hcalled (hf _ _ _ hcalled.clock)

theorem runPrompt_twin {service service' : PromptService} (hservice : service' = { service with provider := provider' })
    (hclock : w'.clock = w.clock) (hprovider : provider'.isSome = service.provider.isSome)
    (hanswer : ∀ s, PromptSettings.read (.obj task.config) = .good s → service.provider.isSome = true →
      leavesTime service.timeout = true →
      (provider'.map fun p => p.answer w'.completions (service.request s task.input)) =
        service.provider.map fun p => p.answer w.completions (service.request s task.input)) :
    SameResult (InStep w w') (service.run task w) (service'.run task w') := by
  obtain ⟨provider, timeout, model, maxTokens, temperature⟩ := service
  subst hservice
  unfold PromptService.run
  cases hsettings : PromptSettings.read (.obj task.config) with
  | bad issues =>
    apply (steady_settings task PromptSettings.read).bind_twin hclock
    intro s v v' hv
    rw [settings, hsettings] at hv
    cases hv
  | good s =>
    have hsame := hanswer s hsettings
    rw [settings_of_good hsettings, pure_bind, pure_bind]
    apply (steady_enter task _ _ _).bind_twin hclock
    intro _ v v' hv hv' hstep
    have hcalls : v.calls = w.calls := (congrArg (fun ended => ended.2.calls) hv).symm
    have hcalls' : v'.calls = w'.calls := (congrArg (fun ended => ended.2.calls) hv').symm
    cases provider with
    | none =>
      cases provider' with
      | none => exact steady_fail task _ _ _ hstep.clock
      | some p' => cases hprovider
    | some p =>
      cases provider' with
      | none => cases hprovider
      | some p' =>
        apply attempt_twin hstep.clock
        · intro htime
          rw [World.completions, World.completions, hcalls, hcalls']
          exact Option.some.inj (hsame rfl htime)
        · rintro (failure | c)
          · exact steady_fail task _
          · exact (steady_enter task _ _ _).bind fun _ => (steady_note _ _ _ _).bind fun _ => steady_pure _

/-- An executor from elsewhere does the same for tasks that differ only in successors, if its turn is the same. -/
theorem runGuest_twin {act : List Task → Turn} {task' : Task} (htask : task'.unwired = task.unwired)
    (hclock : w'.clock = w.clock) (hturn : act (w'.guests ++ [task']) = act (w.guests ++ [task])) :
    SameResult (InStep w w') (runGuest act task w) (runGuest act task' w') := by
  have hrun (task : Task) (w : World) : runGuest act task w =
    (act (w.guests ++ [task])).carryOut task { w with guests := w.guests ++ [task] } := bind_of_ok rfl
  have hstep : InStep w w' { w with guests := w.guests ++ [task] } { w' with guests := w'.guests ++ [task'] } := by
    refine ⟨hclock, fun _ => rfl, added_nothing _ _, added_nothing _ _, [task.unwired], ?_, ?_⟩
    · exact List.map_append
    · rw [← htask]
      exact List.map_append
  rw [hrun, hrun, hturn, ← Turn.carryOut_unwired _ task', htask, Turn.carryOut_unwired]
  obtain ⟨hsame, hrest⟩ := steady_carryOut task (act (w.guests ++ [task])) _ _ hstep.clock
  exact ⟨hsame, hstep.trans hrest⟩

/-- **An executor does the same in worlds with the same clock and calls**, for tasks that differ only in successors, if
the turn of one from elsewhere is the same. -/
theorem run_twin (e : Executor) {task' : Task} (htask : task'.unwired = task.unwired) (hclock : w'.clock = w.clock)
    (hcalls : w'.calls = w.calls) (hturn : e.turn? (w'.guests ++ [task']) = e.turn? (w.guests ++ [task])) :
    SameResult (InStep w w') (e.run task w) (e.run task' w') := by
  rcases e.guest_or_library with ⟨name, act, rfl⟩ | hlibrary
  · exact runGuest_twin task htask hclock (Option.some.inj hturn)
  · rw [← Executor.run_unwired hlibrary task', htask, Executor.run_unwired hlibrary]
    cases e with
    | guest name act => exact absurd rfl (hlibrary name act)
    | manual | webhook | trigger | transform | condition | passthrough | output =>
      refine steady_run task ?_ w w' hclock
      trivial
    | prompt service =>
      apply runPrompt_twin task rfl hclock rfl
      intro s _ _ _
      rw [World.completions, World.completions, hcalls]
    | request fetcher demoUrl =>
      apply runRequest_twin task demoUrl hclock
      intro s _
      rw [World.fetches, World.fetches, hcalls]

/-- **The executors of the library do the same with different capabilities**, if these agree on the call of the node. -/
theorem standardFor_twin (setup : Setup) (node : Node) (input : Json) (hclock : w'.clock = w.clock)
    (hprovider : node.variant = Service.openai.variant → provider'.isSome = provider.isSome)
    (hagree : ∀ call ∈ callOf? provider setup node input,
      call.Agree provider provider' fetcher fetcher' w.calls w'.calls) :
    SameResult (InStep w w') ((Registry.standardFor provider fetcher setup node).run (Task.mk node input) w)
      ((Registry.standardFor provider' fetcher' setup node).run (Task.mk node input) w') := by
  unfold Registry.standardFor
  cases hservice : Service.ofVariant? node.variant with
  | none =>
    have hquiet : (Registry.fallbackOf node.kind).IsQuiet := by cases node.kind <;> trivial
    exact steady_run _ hquiet w w' hclock
  | some s =>
    have hvariant := Service.variant_of_ofVariant? hservice
    unfold callOf? at hagree
    rw [← hvariant] at hagree hprovider
    cases s with
    | openai =>
      apply runPrompt_twin (Task.mk node input) rfl hclock (hprovider rfl)
      intro s hsettings hsome htime
      have hsome : provider.isSome = true := hsome
      have htime : leavesTime setup.promptTimeout = true := htime
      have hsettings : PromptSettings.read (.obj node.config) = .good s := hsettings
      refine hagree (.completion ((setup.promptService provider).request s input)) ?_
      rw [if_pos rfl, hsettings]
      simp only [hsome, htime]
      rfl
    | http =>
      apply runRequest_twin (Task.mk node input) setup.demoUrl hclock
      intro s hsettings
      have hsettings : RequestSettings.read (.obj node.config) = .good s := hsettings
      refine hagree (.fetch (requestOf setup.demoUrl s input)) ?_
      rw [if_neg (by decide), if_pos rfl, hsettings]
      rfl
    | manual | webhook | code | ifElse =>
      refine steady_run _ ?_ w w' hclock
      trivial

end Twins

/-! ## Nodes in two worlds -/

namespace Runner

variable {w w' : World}

theorem entered_twin (node : Node) (hclock : w'.clock = w.clock) :
    InStep w w' (entered node w) (entered node w') :=
  .retold hclock _ _ w.records w'.records

theorem reportRaised_twin (node : Node) (f : Failure) (hclock : w'.clock = w.clock) :
    SameResult (InStep w w') (reportRaised node f w) (reportRaised node f w') :=
  ⟨rfl, (InStep.entered hclock node.id .error _ .null).trans
    (.retold (congrArg (fun clock => clock.tick.2) hclock) w.trace w'.trace _ _)⟩

/-- Reports read nothing of a node but its id. -/
theorem reportRaised_node {node node' : Node} (hid : node'.id = node.id) (f : Failure) :
    reportRaised node' f = reportRaised node f := by rw [reportRaised, reportRaised, hid]

/-- **A runner treats nodes alike that differ only in successors**, in worlds with the same clock and calls, if the turn
of an executor from elsewhere is the same. -/
theorem handle_twin (runner : Runner) {node node' : Node} (input : Json) (hnode : node'.unwired = node.unwired)
    (hclock : w'.clock = w.clock) (hcalls : w'.calls = w.calls)
    (hturn : ∀ e, runner.registry.resolve? node = some e →
      e.turn? (w'.guests ++ [⟨node', input⟩]) = e.turn? (w.guests ++ [⟨node, input⟩])) :
    SameResult (InStep w w') (runner.handle node input w) (runner.handle node' input w') := by
  have hid : node'.id = node.id := Node.id_eq_of_unwired hnode
  have hentered : InStep w w' (entered node w) (entered node' w') := .retold hclock _ _ w.records w'.records
  have hresolve := runner.registry.resolve?_eq_of_unwired hnode
  cases hexecutor : runner.registry.resolve? node with
  | none =>
    rw [handle_of_none hexecutor, handle_of_none (hresolve.trans hexecutor), Node.kind_eq_of_unwired hnode]
    exact ⟨rfl, hentered⟩
  | some e =>
    rw [handle_of_some hexecutor, handle_of_some (hresolve.trans hexecutor)]
    have htask : (Task.mk node' input).unwired = (Task.mk node input).unwired := congrArg (Task.mk · input) hnode
    obtain ⟨hsame, hstep⟩ := run_twin ⟨node, input⟩ e htask hentered.clock hcalls (hturn e hexecutor)
    generalize e.run ⟨node, input⟩ (entered node w) = ended,
      e.run ⟨node', input⟩ (entered node' w') = ended' at hsame hstep
    obtain ⟨result, v⟩ := ended
    obtain ⟨result', v'⟩ := ended'
    obtain rfl : result' = result := hsame
    have hboth : InStep w w' v v' := hentered.trans hstep
    rcases result' with (message | f) | output
    · exact ⟨rfl, hboth⟩
    · obtain ⟨hraised, hreport⟩ := reportRaised_twin node f hboth.clock
      simp only [reportRaised_node hid]
      exact ⟨congrArg Except.error hraised, hboth.trans hreport⟩
    · exact ⟨rfl, hboth⟩

/-- **A runner treats nodes alike that differ only in successors**, if these make no difference to its executors. -/
theorem handle_unwired {runner : Runner} (hignores : runner.registry.IgnoresWiring) {node node' : Node} (input : Json)
    (hnode : node'.unwired = node.unwired) (hclock : w'.clock = w.clock) (hcalls : w'.calls = w.calls)
    (hguests : w'.guests.map Task.unwired = w.guests.map Task.unwired) :
    SameResult (InStep w w') (runner.handle node input w) (runner.handle node' input w') := by
  apply runner.handle_twin input hnode hclock hcalls
  intro e hexecutor
  apply hignores node e hexecutor
  have htask : (Task.mk node' input).unwired = (Task.mk node input).unwired := congrArg (Task.mk · input) hnode
  rw [List.map_append, List.map_append, hguests, List.map_singleton, List.map_singleton, htask]

/-- What a runner does with a node only adds to the log, the calls and the tasks. -/
theorem handle_inStep (runner : Runner) (node : Node) (input : Json) (w : World) :
    InStep w w (runner.handle node input w).2 (runner.handle node input w).2 :=
  (runner.handle_twin input rfl rfl rfl fun _ _ => rfl).2

/-- **Runners of the library with different capabilities treat a node alike**, if these agree on its call. -/
theorem handle_standard_twin {provider provider' : Option Provider} {fetcher fetcher' : Fetcher} (setup : Setup)
    (node : Node) (input : Json) (hclock : w'.clock = w.clock)
    (hprovider : node.variant = Service.openai.variant → provider'.isSome = provider.isSome)
    (hagree : ∀ call ∈ callOf? provider setup node input,
      call.Agree provider provider' fetcher fetcher' w.calls w'.calls) :
    SameResult (InStep w w') ((standard provider fetcher setup).handle node input w)
      ((standard provider' fetcher' setup).handle node input w') := by
  obtain ⟨hsame, hstep⟩ := standardFor_twin setup node input
    (entered_twin node hclock).clock hprovider hagree
  rw [handle_standard, handle_standard]
  exact ⟨congrArg (Except.mapError NodeFault.message) hsame, (entered_twin node hclock).trans hstep⟩

end Runner

end WorkflowLab.Run
