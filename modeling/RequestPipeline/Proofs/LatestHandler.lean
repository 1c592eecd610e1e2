import RequestPipeline.Proofs.Coherence
import RequestPipeline.Proofs.SlotHistory

/-!
# The latest error handler

The unit that serves what no pattern accepts is chosen while a context is built, or set by a call
that only a context at rest accepts.  Nothing else changes it, so after every run the context holds
the one that was chosen or set last.
-/

namespace RequestPipeline

/-! ## Choosing and calling -/

/-- What may be chosen about a context while it is built. -/
inductive Choice
  | name (name : String)
  | mount (path : String)
  | loader (loader : ClassLoader)
  | factory (factory : StageFactory)
  | errorHandler (unit : Instance ServiceUnit)
  | onStartup (name : Option String) (program : Journal → String → StartupProgram)
  | onShutdown (name : Option String) (line : Option String)

inductive Act
  | choose (choice : Choice)
  | call (call : Call)

namespace Act

def isChoice : Act → Bool
  | .choose _ => true
  | .call _ => false

/-- The error handler that an act sets, or that it takes away. -/
def handling? : Act → Option (Option (Instance ServiceUnit))
  | .choose (.errorHandler unit) => some (some unit)
  | .call (.setErrorHandler unit) => some unit
  | _ => none

end Act

namespace Context

def choose (context : Context) : Choice → Context
  | .name name => context.named name
  | .mount path => context.mounted path
  | .loader loader => { context with loader := loader }
  | .factory factory => { context with factory := factory }
  | .errorHandler unit => { context with errorUnit := some unit }
  | .onStartup name program => context.onStartup name program
  | .onShutdown name line => context.onShutdown name line

variable {context : Context}

theorem choose_state (context : Context) (choice : Choice) :
    (context.choose choice).state = context.state := by
  cases choice <;> rfl

theorem choose_coherent (coherent : context.Coherent) (choice : Choice) :
    (context.choose choice).Coherent := by
  have chains {pipeline : Pipeline} (installed : context.pipeline = some pipeline) :
      (context.choose choice).Chains pipeline := by
    refine (coherent.chains pipeline installed).congr (fun kind => ?_) ?_
    · cases choice <;> cases kind <;> rfl
    · cases choice <;> rfl
  cases choice <;>
    exact ⟨coherent.installed, coherent.opened, coherent.frozen, fun _ there => chains there⟩

/-- Nothing but the life cycle, the registrations, the stages and the pipeline has changed; what was
chosen for the context is as it was. -/
structure Proceeds (before after : Context) : Prop where
  rest : ∃ lifecycle registrations session security dispatch pipeline, after = { before with
    lifecycle := lifecycle, registrations := registrations, session := session,
    security := security, dispatch := dispatch, pipeline := pipeline }

namespace Proceeds

variable {before middle after : Context}

theorem refl (context : Context) : context.Proceeds context := ⟨_, _, _, _, _, _, rfl⟩

theorem trans (first : before.Proceeds middle) (second : middle.Proceeds after) :
    before.Proceeds after := by
  obtain ⟨_, _, _, _, _, _, rfl⟩ := first.rest
  obtain ⟨_, _, _, _, _, _, rfl⟩ := second.rest
  exact ⟨_, _, _, _, _, _, rfl⟩

theorem errorUnit (proceeds : before.Proceeds after) : after.errorUnit = before.errorUnit := by
  obtain ⟨_, _, _, _, _, _, rfl⟩ := proceeds.rest
  rfl

end Proceeds

theorem Refits.proceeds {before after : Context} (refits : before.Refits after) :
    before.Proceeds after := by
  obtain ⟨session, security, dispatch, rfl⟩ := refits.rest
  exact ⟨_, _, _, _, _, _, rfl⟩

theorem Registers.proceeds {before after : Context} (registers : before.Registers after) :
    before.Proceeds after := by
  obtain ⟨-, table, grown, -, -, rfl⟩ := registers
  exact ⟨_, _, _, _, _, _, rfl⟩

end Context

namespace Deployment

def take (deployment : Deployment) : Act → Except Error Answer × Deployment
  | .choose choice => deployment.accept .done (deployment.context.choose choice)
  | .call call => deployment.perform call

def takeAll (deployment : Deployment) (acts : List Act) : Deployment :=
  acts.foldl (fun deployment act => (deployment.take act).2) deployment

/-- Nothing is chosen any more once a start has been tried. -/
def ChoosesEarly : Deployment → List Act → Prop
  | _, [] => True
  | deployment, act :: rest =>
      (act.isChoice = true → deployment.context.state = .uninitialized) ∧
        ChoosesEarly (deployment.take act).2 rest

/-- The error handler after an act: the one that it sets if it is accepted, or the one before. -/
def handlerAfter (deployment : Deployment) (held : Option (Instance ServiceUnit)) (act : Act) :
    Option (Instance ServiceUnit) :=
  match act.handling?, (deployment.take act).1 with
  | some handler, .ok _ => handler
  | _, _ => held

/-- The error handler over a run: that of the last accepted act that sets one, or the one that was
there at first. -/
def latestHandler : Deployment → Option (Instance ServiceUnit) → List Act →
    Option (Instance ServiceUnit)
  | _, held, [] => held
  | deployment, held, act :: rest =>
      latestHandler (deployment.take act).2 (deployment.handlerAfter held act) rest

/-! ## What life-cycle calls leave alone -/

variable {before after deployment : Deployment}

theorem entered_proceeds (deployment : Deployment) (target : LifecycleState) :
    deployment.context.Proceeds (deployment.entered target).context :=
  ⟨_, _, _, _, _, _, rfl⟩

theorem RunHooks.proceeds {result : Except Error Unit} (hooks : before.RunHooks result after) :
    before.context.Proceeds after.context := by
  cases hooks with
  | hookless none => exact .refl _
  | closed closed => exact .refl _
  | ran opened grows adds => exact ⟨_, _, _, _, _, _, rfl⟩

theorem SetUp.proceeds {result : Except Error Unit} (setUp : before.SetUp result after) :
    before.context.Proceeds after.context := by
  have installs (ready : Deployment) (pipeline : Pipeline) (host : Host) :
      ready.context.Proceeds (ready.withPipeline pipeline host).context :=
    ⟨_, _, _, _, _, _, rfl⟩
  cases setUp with
  | unfurnished fetches => exact fetches.refits.proceeds
  | refused fetches chains outcome => exact fetches.refits.proceeds.trans (installs _ _ _)
  | hooked fetches chains outcome hooks =>
      exact (fetches.refits.proceeds.trans (installs _ _ _)).trans hooks.proceeds

theorem abortStart_proceeds (active : deployment.context.state ∈ [.starting, .started]) :
    deployment.context.Proceeds deployment.abortStart.context := by
  rw [abortStart_eq (canMoveTo_failed_of_active active)]
  exact ⟨_, _, _, _, _, _, rfl⟩

theorem BeginStart.proceeds {result : Except Error Unit}
    (begins : before.BeginStart result after) : before.context.Proceeds after.context := by
  have entered := before.entered_proceeds .starting
  cases begins with
  | barred barred => exact .refl _
  | @failed ready _ allowed setUp =>
      have active : ready.context.state ∈ [.starting, .started] :=
        List.mem_cons.mpr (.inl setUp.active)
      exact (entered.trans setUp.proceeds).trans (abortStart_proceeds active)
  | begun allowed setUp => exact entered.trans setUp.proceeds

theorem Freeze.proceeds {result : Except Error Snapshot} (freeze : before.Freeze result after) :
    before.context.Proceeds after.context := by
  cases freeze with
  | failed opened outcome => exact .refl _
  | frozen opened outcome => exact ⟨_, _, _, _, _, _, rfl⟩
  | already frozen => exact .refl _

theorem Complete.proceeds {result : Except Error Unit} (complete : before.Complete result after) :
    before.context.Proceeds after.context := by
  cases complete with
  | unfrozen freeze => exact freeze.proceeds
  | frozen freeze route =>
      rw [route.context]
      exact freeze.proceeds.trans (entered_proceeds _ .started)

theorem FinishStart.proceeds {result : Except Error Unit}
    (finishes : before.FinishStart result after) : before.context.Proceeds after.context := by
  cases finishes with
  | barred barred => exact .refl _
  | failed starting complete =>
      exact complete.proceeds.trans (abortStart_proceeds (complete.keeps starting).2.2)
  | finished starting complete => exact complete.proceeds

theorem BeginStop.proceeds {result : Except Error Unit} (begins : before.BeginStop result after) :
    before.context.Proceeds after.context := by
  cases begins with
  | barred barred => exact .refl _
  | bare started bare rests kept => exact before.entered_proceeds .stopping
  | begun started installed rests kept => exact before.entered_proceeds .stopping

theorem FinishStop.proceeds {result : Except Error Unit}
    (finishes : before.FinishStop result after) : before.context.Proceeds after.context := by
  cases finishes with
  | barred barred => exact .refl _
  | bare stopping bare => exact ⟨_, _, _, _, _, _, rfl⟩
  | finished stopping installed => exact ⟨_, _, _, _, _, _, rfl⟩

/-! ## What the context holds -/

open Context in
/-- A call that sets no error handler keeps the one there is. -/
theorem perform_errorUnit (deployment : Deployment) {call : Call}
    (other : (Act.call call).handling? = none) :
    (deployment.perform call).2.context.errorUnit = deployment.context.errorUnit := by
  cases call with
  | beginStart => exact deployment.beginStart_spec.proceeds.errorUnit
  | finishStart => exact deployment.finishStart_spec.proceeds.errorUnit
  | beginStop => exact deployment.beginStop_spec.proceeds.errorUnit
  | finishStop => exact deployment.finishStop_spec.proceeds.errorUnit
  | sessionStage => exact (deployment.fetch_spec .session).refits.proceeds.errorUnit
  | securityStage => exact (deployment.fetch_spec .security).refits.proceeds.errorUnit
  | dispatchStage => exact (deployment.fetch_spec .dispatch).refits.proceeds.errorUnit
  | setErrorHandler unit => cases other
  | setSessionStage | setSecurityStage | setDispatchStage | setStageFactory
  | clearRegistrations => exact settle_set_part Context.errorUnit rfl
  | addUnit | addInterceptor | registerUnit | registerInterceptor | mapUnit
  | mapInterceptorToUnits =>
      exact perform_registration_part Context.errorUnit (fun _ _ => rfl) deployment rfl
  | resolveDispatcher | keepDispatcher | callNamed | serve | serveFrom => rfl

/-- The setter is refused and changes nothing, or leaves the context with the handler. -/
theorem perform_setErrorHandler (deployment : Deployment)
    (handler : Option (Instance ServiceUnit)) :
    (∃ e, deployment.perform (.setErrorHandler handler) = (.error e, deployment)) ∨
      deployment.perform (.setErrorHandler handler) = (.ok .done,
        { deployment with context := { deployment.context with errorUnit := handler } }) :=
  deployment.settle_set "set_error_handler" _

/-- What one act does to the error handler that the context holds. -/
theorem take_errorUnit (deployment : Deployment) (act : Act) :
    (deployment.take act).2.context.errorUnit =
      deployment.handlerAfter deployment.context.errorUnit act := by
  unfold handlerAfter
  cases act with
  | choose choice => cases choice <;> rfl
  | call call =>
      cases sets : (Act.call call).handling? with
      | none => exact deployment.perform_errorUnit sets
      | some handler =>
          cases call with
          | setErrorHandler unit =>
              cases sets
              rw [take]
              obtain ⟨e, refused⟩ | accepted := deployment.perform_setErrorHandler handler
              · rw [refused]
              · rw [accepted]
          | _ => cases sets

theorem takeAll_errorUnit (deployment : Deployment) (acts : List Act) :
    (deployment.takeAll acts).context.errorUnit =
      deployment.latestHandler deployment.context.errorUnit acts := by
  induction acts generalizing deployment with
  | nil => rfl
  | cons act rest ih =>
      rw [latestHandler, ← take_errorUnit]
      exact ih (deployment.take act).2

theorem latestHandler_append (deployment : Deployment) (held : Option (Instance ServiceUnit))
    (first second : List Act) : deployment.latestHandler held (first ++ second) =
      (deployment.takeAll first).latestHandler (deployment.latestHandler held first) second := by
  induction first generalizing deployment held with
  | nil => rfl
  | cons act rest ih => exact ih (deployment.take act).2 (deployment.handlerAfter held act)

/-- Calls that set no error handler leave the latest one as it is. -/
theorem latestHandler_of_other (deployment : Deployment) (held : Option (Instance ServiceUnit))
    {calls : List Call} (others : ∀ unit, .setErrorHandler unit ∉ calls) :
    deployment.latestHandler held (calls.map .call) = held := by
  induction calls generalizing deployment with
  | nil => rfl
  | cons call rest ih =>
      have kept : deployment.handlerAfter held (.call call) = held := by
        cases call with
        | setErrorHandler unit => exact absurd List.mem_cons_self (others unit)
        | _ => rfl
      rw [List.map_cons, latestHandler, kept]
      exact ih _ fun unit member => others unit (List.mem_cons_of_mem _ member)

/-- A setter in a state that admits it decides the latest handler, until there is another one. -/
theorem latestHandler_of_set (deployment : Deployment) (held : Option (Instance ServiceUnit))
    {past : List Act} (admitted : (deployment.takeAll past).context.state ∈ Context.configurable)
    (handler : Option (Instance ServiceUnit)) {calls : List Call}
    (others : ∀ unit, .setErrorHandler unit ∉ calls) :
    deployment.latestHandler held (past ++ .call (.setErrorHandler handler) :: calls.map .call) =
      handler := by
  have accepted : (deployment.takeAll past).context.lifecycle.require "set_error_handler"
      Context.configurable = .ok () := Context.require_ok_iff.mpr admitted
  rw [latestHandler_append, latestHandler, latestHandler_of_other _ _ others, handlerAfter]
  simp only [Act.handling?, take, perform, Context.setErrorHandler, accepted, settle, accept]

end Deployment

end RequestPipeline
