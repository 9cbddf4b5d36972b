import WorkflowLab.Run.Runner

/-!
# What executors leave alone

- `Respected`: a relation between worlds that every step of an executor respects but its calls;
- `Work.Respects`: a computation respects a relation, from the world before it to the world after it; the rules for the
  steps of executors;
- `Executor.IsQuiet`, `respects_run`: executors that make no calls respect all that is respected;
- `Apart`, `Work.Keeps`: a part of the world that clock, log and notes do not touch, and computations that leave it alone;
  `keeps_run`.
-/

namespace WorkflowLab.Run

variable {α β γ : Type}

/-- **A relation that holds from each world to those after it**, while a node is run that makes no calls. -/
structure Respected (R : World → World → Prop) : Prop where
  refl : ∀ w, R w w
  trans : ∀ {w w' w''}, R w w' → R w' w'' → R w w''
  enter : ∀ (w : World) (id : String) (event : Event) (message : String) (data : Json),
    R w (Lab.enter id event message data w).2
  note : ∀ (w : World) (level : Level) (origin : Part) (message : String) (members : Fields),
    R w (w.noted level origin message members)
  stamp : ∀ w : World, R w (Lab.clocked Time.Clock.stamp w).2

namespace Work

/-- A computation respects a relation. -/
def Respects (c : Work α) (R : World → World → Prop) : Prop := ∀ w, R w (c w).2

/-- A step that does not fail respects what its computation does. -/
theorem respects_lift {R : World → World → Prop} {c : Lab α} (h : ∀ w, R w (c w).2) :
    Respects (ExceptT.lift c : Work α) R := h

/-- The second of two steps starts in the world that the first one leaves, and is left out where the first one fails. -/
theorem respects_bind {R : World → World → Prop} (hrefl : ∀ w, R w w) (htrans : ∀ {w w' w''}, R w w' → R w' w'' → R w w'')
    {c : Work β} {f : β → Work α} (h : c.Respects R) (hf : ∀ b, (f b).Respects R) : (c >>= f).Respects R := fun w => by
  show R w ((ExceptT.bindCont f (c w).1 : Lab (Except NodeFault α)) (c w).2).2
  refine htrans (h w) ?_
  obtain ⟨fault | b, w'⟩ := c w
  · exact hrefl w'
  · exact hf b w'

end Work

namespace Respected

open Work

variable {R : World → World → Prop} (hR : Respected R)
include hR

theorem pure (a : α) : (Pure.pure a : Work α).Respects R := hR.refl

theorem throw (fault : NodeFault) : (MonadExcept.throw fault : Work α).Respects R := hR.refl

/-- What a step and all that may follow it respect. -/
theorem bind {c : Work β} {f : β → Work α} (h : c.Respects R) (hf : ∀ b, (f b).Respects R) :
    (c >>= f).Respects R := respects_bind hR.refl hR.trans h hf

variable (task : Task)

theorem workEnter (event : Event) (message : String) (data : Json) :
    (Work.enter task event message data).Respects R := fun w => hR.enter w task.id event message data

theorem workNote (level : Level) (origin : Part) (message : String) (members : Fields) :
    Respects (ExceptT.lift (Lab.note level origin message members) : Work Unit) R :=
  fun w => hR.note w level origin message members

theorem report (message : String) : (Work.report task message).Respects R :=
  fun w => hR.trans (hR.enter w task.id .error message .null) (hR.note _ _ _ _ _)

theorem fail (message : String) : (Work.fail task message : Work α).Respects R :=
  hR.bind (hR.report task message) fun _ => hR.throw _

theorem settings (read : Json → Intake.Checked α) : (Work.settings task read).Respects R := by
  unfold Work.settings
  cases read (.obj task.config) with
  | good s => exact hR.pure s
  | bad issues => exact hR.fail task _

end Respected

/-- The executors of the library that make no calls. -/
def Executor.IsQuiet : Executor → Prop
  | .prompt _ | .request _ _ | .guest _ _ => False
  | _ => True

section Quiet

variable {R : World → World → Prop} (hR : Respected R) (task : Task)
include hR

theorem respects_runManual : (runManual task).Respects R := by
  refine hR.bind (hR.settings task _) fun s => ?_
  have hrest (payload : Json) : (do
      Work.enter task .success "Manual trigger activated" payload
      return payload : Work Json).Respects R :=
    hR.bind (hR.workEnter task _ _ _) fun _ => hR.pure payload
  by_cases h : s.value.isNull
  · simp only [h, if_true, pure_bind]
    exact hR.bind (Work.respects_lift hR.stamp) fun time => hrest _
  · rw [if_neg h, pure_bind]
    exact hrest s.value

/-- **Executors that make no calls respect all that is respected.** -/
theorem respects_run {e : Executor} (h : e.IsQuiet) : (e.run task).Respects R := by
  cases e with
  | prompt | request | guest => cases h
  | manual => exact respects_runManual hR task
  | webhook =>
    exact hR.bind (hR.settings task _) fun s => hR.bind (hR.workEnter task _ _ _) fun _ => hR.pure _
  | transform =>
    exact hR.bind (hR.settings task _) fun s => hR.bind (hR.workEnter task _ _ _) fun _ =>
      hR.bind (hR.workEnter task _ _ _) fun _ => hR.pure _
  | condition =>
    exact hR.bind (hR.settings task _) fun s => hR.bind (hR.workEnter task _ _ _) fun _ => hR.pure _
  | trigger | passthrough | output => exact hR.bind (hR.workEnter task _ _ _) fun _ => hR.pure _

end Quiet

/-! ## Parts of the world -/

/-- A part of the world that clock, log and notes do not touch. -/
def Apart (part : World → γ) : Prop :=
  ∀ (w : World) (clock : Time.Clock) (log : List Entry) (records : List Record),
    part { w with clock, log, records } = part w

/-- The calls are apart. -/
theorem apart_calls : Apart World.calls := fun _ _ _ _ => rfl

/-- That a part which is apart stays the same is respected. -/
theorem Apart.respected {part : World → γ} (hpart : Apart part) : Respected fun w w' => part w' = part w where
  refl _ := rfl
  trans h h' := h'.trans h
  enter w _ _ _ _ := hpart w w.clock.tick.2 _ w.records
  note w _ _ _ _ := hpart w w.clock w.log _
  stamp w := hpart w w.clock.tick.2 w.log w.records

namespace Work

/-- A computation leaves a part of the world alone. -/
def Keeps (c : Work α) (part : World → γ) : Prop := ∀ w, part (c w).2 = part w

variable {part : World → γ}

theorem keeps_pure (a : α) : (pure a : Work α).Keeps part := fun _ => rfl

/-- What a step and all that may follow it leave alone. -/
theorem Keeps.bind {c : Work β} {f : β → Work α} (h : c.Keeps part) (hf : ∀ b, (f b).Keeps part) :
    (c >>= f).Keeps part :=
  respects_bind (R := fun w w' => part w' = part w) (fun _ => rfl) (fun hstep hrest => hrest.trans hstep) h hf

/-- A step that does not fail leaves alone what its computation does. -/
theorem keeps_lift {c : Lab α} (h : ∀ w, part (c w).2 = part w) : Keeps (ExceptT.lift c : Work α) part := h

section Apart

variable (hpart : Apart part) (task : Task)
include hpart

theorem keeps_enter (event : Event) (message : String) (data : Json) : (enter task event message data).Keeps part :=
  hpart.respected.workEnter task event message data

theorem keeps_note (level : Level) (origin : Part) (message : String) (members : Fields) :
    Keeps (ExceptT.lift (Lab.note level origin message members) : Work Unit) part :=
  hpart.respected.workNote level origin message members

theorem keeps_fail (message : String) : (fail task message : Work α).Keeps part := hpart.respected.fail task message

/-- **Executors that make no calls leave all that is apart alone.** -/
theorem keeps_run {e : Executor} (h : e.IsQuiet) : (e.run task).Keeps part := respects_run hpart.respected task h

end Apart

end Work

end WorkflowLab.Run
