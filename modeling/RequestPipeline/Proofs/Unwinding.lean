import RequestPipeline.Proofs.Links
import RequestPipeline.Proofs.Tenancy

/-!
# Unwinding a failed start

A start can fail at a stage that is made or started, in a hook, while the registrations are frozen,
and while routing is initialised.  Wherever it does, the same is left: a failed context without
pipeline, links or routing, everything stopped and destroyed that was started or initialised, and
the registrations as they were, with what the hooks have added.
-/

namespace RequestPipeline

/-! ## Everything started has been stopped -/

/-- Every start of a stage has been followed by a stop of it, but for the stages that run. -/
def Stilled (running : List StageRef) (events : List Event) : Prop :=
  ∀ past ref later, events = past ++ .stage ref .started :: later →
    ref ∈ running ∨ Event.stage ref .stopped ∈ later

namespace Stilled

variable {running wider : List StageRef} {events later : List Event}

/-- Starts and stops in balance leave no start without a stop behind it. -/
theorem of_balanced (balanced : Balanced running events) : Stilled running events := by
  intro past ref later split
  by_cases runs : ref ∈ running
  · exact Or.inl runs
  · refine Or.inr (List.count_pos_iff.mp ?_)
    have whole := balanced.count ref
    have early := balanced.answered ref past (split ▸ List.prefix_append _ _)
    have none : running.count ref = 0 := List.count_eq_zero.mpr runs
    simp only [split, List.count_append, List.count_cons] at whole
    simp only [beq_self_eq_true, if_true] at whole
    rw [if_neg (by simp)] at whole
    omega

theorem of_mem (starts : ∀ ref, Event.stage ref .started ∈ events → ref ∈ running) :
    Stilled running events := by
  rintro past ref later rfl
  exact Or.inl (starts ref (by simp))

/-- What has been running goes on to run or is stopped by what is added. -/
theorem append (stilled : Stilled running events) (added : Stilled wider later)
    (kept : ∀ ref ∈ running, ref ∈ wider ∨ Event.stage ref .stopped ∈ later) :
    Stilled wider (events ++ later) := by
  intro past ref rest split
  rcases List.append_eq_append_iff.mp split with ⟨middle, rfl, inLater⟩ | ⟨middle, rfl, tail⟩
  · exact added middle ref rest inLater
  · rcases List.cons_eq_append_iff.mp tail with ⟨rfl, inLater⟩ | ⟨early, rfl, rfl⟩
    · exact added [] ref rest inLater
    · rcases stilled past ref early rfl with runs | stopped
      · exact (kept ref runs).imp_right fun found => List.mem_append_right _ found
      · exact Or.inr (List.mem_append_left _ stopped)

theorem quiet (stilled : Stilled running events)
    (minor : ∀ event ∈ later, event.isPower = false) : Stilled running (events ++ later) := by
  refine stilled.append (.of_mem fun ref started => ?_) fun ref runs => Or.inl runs
  cases minor _ started

theorem stopped (stilled : Stilled running events) :
    Stilled [] (events ++ running.map (Event.stage · .stopped)) := by
  refine stilled.append (.of_mem fun ref started => ?_) fun ref runs => Or.inr ?_
  · obtain ⟨other, -, same⟩ := List.mem_map.mp started
    cases same
  · exact List.mem_map.mpr ⟨ref, runs, rfl⟩

end Stilled

theorem Journal.Since.imp {base : List Event} {holds wider : List Event → Prop}
    {journal : Journal} (since : journal.Since base holds)
    (wide : ∀ events, holds events → wider events) : journal.Since base wider := by
  obtain ⟨added, entered, held⟩ := since
  exact ⟨added, entered, wide added held⟩

theorem Journal.Since.stilled {base : List Event} {before after : Journal}
    {running : List StageRef} (since : before.Since base (Stilled running))
    (adds : Adds (·.isPower = false) before after) : after.Since base (Stilled running) :=
  since.grow adds Stilled.quiet

namespace Pipeline

variable {base : List Event} {before after : Host} {pipeline : Pipeline}

/-- Whether the stages of a pipeline start or one of them refuses, what runs is of the pipeline. -/
theorem startAll_stilled {result : Except Error Unit}
    (since : before.journal.Since base (Stilled []))
    (outcome : pipeline.startAll before = (result, after)) :
    after.journal.Since base (Stilled (before.present pipeline.stages)) := by
  obtain ⟨added, entered, stilled⟩ := since
  have among {tried : List StageRef} (within : tried ⊆ pipeline.stages) {ref : StageRef}
      (started : Event.stage ref .started ∈ (before.present tried).map (Event.stage · .started)) :
      ref ∈ before.present pipeline.stages := by
    obtain ⟨other, held, same⟩ := List.mem_map.mp started
    cases same
    obtain ⟨member, there⟩ := List.mem_filter.mp held
    exact List.mem_filter.mpr ⟨within member, there⟩
  cases result with
  | ok done =>
      have started := startFrom_ok outcome
      rw [entered, List.append_assoc] at started
      refine ⟨_, started, stilled.append (.of_mem fun ref => ?_) nofun⟩
      exact among fun _ member => List.mem_reverse.mp member
  | error e =>
      obtain ⟨tried, last, within, -, started⟩ := startFrom_error outcome
      rw [entered, List.append_assoc, List.append_assoc, List.append_assoc] at started
      refine ⟨_, started, stilled.append (.of_mem fun ref member => ?_) nofun⟩
      have tried_subset : tried ⊆ pipeline.stages := fun _ member =>
        List.mem_reverse.mp (within.subset (List.mem_append_left _ member))
      rcases List.mem_append.mp member with begun | ended
      · exact among tried_subset begun
      · simp at ended

theorem stopAll_stilled
    (since : before.journal.Since base (Stilled (before.present pipeline.stages))) :
    (pipeline.stopAll before).journal.Since base (Stilled []) := by
  obtain ⟨added, entered, stilled⟩ := since
  refine ⟨_, ?_, stilled.stopped⟩
  rw [stopAll, stopEach_events, entered, List.append_assoc]

end Pipeline

/-! ## Everything initialised has been destroyed -/

/-- An object that was initialised is alive or has been destroyed since. -/
theorem Lives.destroyed_of_initialized {calls : List (InstanceId × Moment)}
    {alive : Option InstanceId} (lives : Lives calls alive) {past : List (InstanceId × Moment)}
    {id : InstanceId} {later : List (InstanceId × Moment)}
    (split : calls = past ++ (id, .initialized) :: later) :
    alive = some id ∨ (id, Moment.destroyed) ∈ later := by
  induction lives generalizing later with
  | new => simp at split
  | @call earlier last before after lives turn ih =>
      rcases List.eq_nil_or_concat later with rfl | ⟨rest, final, rfl⟩
      · obtain ⟨-, same⟩ := List.append_inj' split rfl
        rw [List.head_eq_of_cons_eq same] at turn
        cases turn
        exact Or.inl rfl
      · rw [List.concat_eq_append, ← List.cons_append, ← List.append_assoc] at split
        obtain ⟨front, same⟩ := List.append_inj' split rfl
        rw [List.head_eq_of_cons_eq same] at turn
        rw [List.concat_eq_append]
        rcases ih front with rfl | destroyed
        · cases turn with
          | entered => exact Or.inl rfl
          | left => exact Or.inl rfl
          | destroyed => exact Or.inr (by simp)
        · exact Or.inr (List.mem_append_left _ destroyed)

/-- When nobody is alive, every initialisation has been followed by a destruction. -/
theorem Living.destroyed_of_initialized {events : List Event} (living : Living [] events)
    {past later : List Event} {role : Role} {id : InstanceId}
    (split : events = past ++ .registration role id .initialized :: later) :
    Event.registration role id .destroyed ∈ later := by
  have calls : callsTo role events =
      callsTo role past ++ (id, .initialized) :: callsTo role later := by
    rw [split, callsTo_append, ← List.singleton_append (l := later), callsTo_append, callsTo_self]
    rfl
  rcases (living role).destroyed_of_initialized calls with alive | destroyed
  · cases alive
  · obtain ⟨event, member, called⟩ := List.mem_filterMap.mp destroyed
    cases event with
    | registration other object moment =>
        dsimp only at called
        split at called
        · next same =>
            cases called
            exact same ▸ member
        · cases called
    | _ => cases called

/-! ## Everything registered is still there -/

namespace RegistrationTable

/-- Everything in one table is in the other, in the same order: units, interceptors and mappings
of units stand first there, and the mappings of interceptors next to each other. -/
structure Extends (before after : RegistrationTable) : Prop where
  units : before.units <+: after.units
  interceptors : before.interceptors <+: after.interceptors
  unitMappings : before.unitMappings <+: after.unitMappings
  interceptorMappings : before.interceptorMappings <:+: after.interceptorMappings

variable {before middle after : RegistrationTable}

theorem Extends.refl (table : RegistrationTable) : table.Extends table :=
  ⟨List.prefix_rfl, List.prefix_rfl, List.prefix_rfl, List.infix_rfl⟩

theorem Extends.trans (first : before.Extends middle) (second : middle.Extends after) :
    before.Extends after where
  units := first.units.trans second.units
  interceptors := first.interceptors.trans second.interceptors
  unitMappings := first.unitMappings.trans second.unitMappings
  interceptorMappings := first.interceptorMappings.trans second.interceptorMappings

theorem Step.extends (step : before.Step after) : before.Extends after := by
  have same := Extends.refl before
  cases step with
  | unit registered =>
      obtain ⟨-, rfl⟩ := registerUnit_ok registered
      exact { same with units := List.prefix_append _ _ }
  | interceptor registered =>
      obtain ⟨-, rfl⟩ := registerInterceptor_ok registered
      exact { same with interceptors := List.prefix_append _ _ }
  | mapUnit mapped =>
      obtain ⟨parsed, -, rfl⟩ := mapUnit_ok mapped
      exact { same with unitMappings := List.prefix_append _ _ }
  | mapInterceptor mapping behind =>
      refine { same with interceptorMappings := ?_ }
      cases behind with
      | true => exact (List.prefix_append _ _).isInfix
      | false => exact (List.suffix_cons _ _).isInfix

theorem Grows.extends (grows : before.Grows after) : before.Extends after := by
  induction grows with
  | refl => exact .refl _
  | tail _ step ih => exact ih.trans step.extends

/-- A unit is found with the same binding, and with its mappings before any that were added. -/
theorem Extends.findUnit (larger : before.Extends after) {name : String} {view : UnitView}
    (found : before.findUnit name = some view) :
    ∃ more, after.findUnit name = some { view with mappings := view.mappings ++ more } := by
  obtain ⟨record, held, rfl⟩ := Option.map_eq_some_iff.mp found
  have kept : after.unit? name = some record := larger.units.find?_eq_some held
  obtain ⟨more, whole⟩ := (larger.unitMappings.filter (·.unit == record.name)).map (·.pattern.text)
  refine ⟨more, ?_⟩
  simp only [RegistrationTable.findUnit, kept, Option.map_some, patternsFor, whole]

/-- An interceptor is found with the same binding and phases, and with its mappings between any
that were added. -/
theorem Extends.findInterceptor (larger : before.Extends after) {name : String}
    {view : InterceptorView} (found : before.findInterceptor name = some view) :
    ∃ front back, after.findInterceptor name =
      some { view with mappings := front ++ view.mappings ++ back } := by
  obtain ⟨record, held, rfl⟩ := Option.map_eq_some_iff.mp found
  have kept : after.interceptor? name = some record := larger.interceptors.find?_eq_some held
  obtain ⟨front, back, whole⟩ := larger.interceptorMappings.filter (·.interceptor == record.name)
  refine ⟨front, back, ?_⟩
  simp only [RegistrationTable.findInterceptor, kept, Option.map_some, mappingsFor, whole]

end RegistrationTable

namespace Deployment

variable {base : List Event} {before after deployment : Deployment}

/-! ## Starts under way -/

/-- A start is under way: what runs is of the installed pipeline, which alone is linked, and the
registrations extend those from which the start began. -/
structure UnderWay (base : List Event) (table : RegistrationTable) (deployment : Deployment) :
    Prop where
  active : deployment.context.state ∈ [.starting, .started]
  linked : deployment.Linked
  since : deployment.host.journal.Since base (Stilled deployment.running)
  declared : table.Extends deployment.context.registrations.declared

theorem RunHooks.extends {result : Except Error Unit} (hooks : before.RunHooks result after) :
    before.context.registrations.declared.Extends after.context.registrations.declared := by
  cases hooks with
  | hookless none => exact .refl _
  | closed closed => exact .refl _
  | ran opened grows adds =>
      rw [opened]
      exact grows.extends

/-- Setting up, as far as it comes, is a start under way. -/
theorem SetUp.underWay {result : Except Error Unit} (setUp : before.SetUp result after)
    (starting : before.context.state = .starting) (bare : before.context.pipeline = none)
    (unlinked : before.host.Unlinked) (since : before.host.journal.Since base (Stilled [])) :
    after.UnderWay base before.context.registrations.declared := by
  have active : after.context.state ∈ [.starting, .started] := by
    simp [setUp.state, starting]
  have linked : after.Linked := setUp.linked unlinked bare
  have ready {middle : Deployment} (fetches : before.Fetches middle) :
      middle.host.journal.Since base (Stilled []) :=
    since.stilled (fetches.widens.journal.mono fun _ => Event.not_isPower_of_isMinor)
  have started {middle : Deployment} {pipeline : Pipeline} {host : Host}
      {result : Except Error Unit} (fetches : before.Fetches middle)
      (outcome : pipeline.startAll (pipeline.assemble middle.host) = (result, host)) :
      host.journal.Since base (Stilled (host.present pipeline.stages)) := by
    have assembled := (ready fetches).stilled
      (Host.quiet_of_rests (pipeline.assemble_rests middle.host)).journal
    have starts := pipeline.startAll_evolves (pipeline.assemble middle.host)
    rw [outcome] at starts
    rw [starts.present]
    exact Pipeline.startAll_stilled assembled outcome
  cases setUp with
  | unfurnished fetches =>
      refine ⟨active, linked, ?_, ?_⟩
      · rw [running_bare (fetches.refits.pipeline.trans bare)]
        exact ready fetches
      · rw [fetches.refits.registrations]
        exact .refl _
  | refused fetches chains outcome =>
      refine ⟨active, linked, ?_, ?_⟩
      · rw [running_piped rfl active]
        exact started fetches outcome
      · rw [withPipeline, fetches.refits.registrations]
        exact .refl _
  | @hooked middle after pipeline host result fetches chains outcome hooks =>
      refine ⟨active, linked, ?_, ?_⟩
      · rw [running_piped hooks.keeps.2.1 active, hooks.quiet.present]
        exact (started fetches outcome).stilled hooks.quiet.journal
      · refine RegistrationTable.Extends.trans ?_ hooks.extends
        rw [withPipeline, fetches.refits.registrations]
        exact .refl _

theorem Freeze.declared {result : Except Error Snapshot} (freeze : before.Freeze result after) :
    after.context.registrations.declared = before.context.registrations.declared := by
  cases freeze with
  | failed opened outcome => rfl
  | frozen opened outcome =>
      rw [opened]
      exact RegistrationTable.table_of_freeze outcome
  | already frozen => rfl

theorem Complete.declared {result : Except Error Unit} (complete : before.Complete result after) :
    after.context.registrations.declared = before.context.registrations.declared := by
  cases complete with
  | unfrozen freeze => exact freeze.declared
  | frozen freeze route =>
      rw [route.context]
      exact freeze.declared

theorem abortStart_registrations (deployment : Deployment) :
    deployment.abortStart.context.registrations = deployment.context.registrations := by
  unfold abortStart
  dsimp only
  split <;> rfl

/-- Completing a start changes nothing of what is registered, whether it succeeds or fails. -/
theorem FinishStart.declared {result : Except Error Unit}
    (finishes : before.FinishStart result after) :
    after.context.registrations.declared = before.context.registrations.declared := by
  cases finishes with
  | barred barred => rfl
  | failed starting complete =>
      rw [abortStart_registrations]
      exact complete.declared
  | finished starting complete => exact complete.declared

/-- Completing a start, as far as it comes, is a start under way. -/
theorem Complete.underWay {result : Except Error Unit} (complete : before.Complete result after)
    (starting : before.context.state = .starting) (coherent : before.context.Coherent)
    (linked : before.Linked) (since : before.host.journal.Since base (Stilled before.running)) :
    after.UnderWay base before.context.registrations.declared := by
  obtain ⟨quiet, same, active⟩ := complete.keeps starting
  obtain ⟨pipeline, installed, -⟩ := coherent.piped (by simp [starting])
  refine ⟨active, complete.linked linked, ?_, ?_⟩
  · rw [running_piped (same.trans installed) active, quiet.present,
      ← running_piped installed (by simp [starting])]
    exact since.stilled quiet.journal
  · rw [complete.declared]
    exact .refl _

namespace UnderWay

variable {table : RegistrationTable}

/-- Giving up stops whatever runs. -/
theorem stilled (underWay : deployment.UnderWay base table) :
    deployment.abortStart.host.journal.Since base (Stilled []) := by
  have entered := underWay.since.stilled (deployment.entered_quiet .failed).journal
  rw [abortStart_eq (canMoveTo_failed_of_active underWay.active)]
  change (deployment.entered .failed).takenDown.journal.Since base (Stilled [])
  cases held : (deployment.entered .failed).context.pipeline with
  | none =>
      have bare : deployment.context.pipeline = none := held
      rw [takenDown, held]
      rwa [running_bare bare] at entered
  | some pipeline =>
      have installed : deployment.context.pipeline = some pipeline := held
      rw [running_piped installed underWay.active, ← (deployment.entered_quiet .failed).present]
        at entered
      exact (Pipeline.stopAll_stilled entered).stilled (takenDown_quiet held).journal

theorem extends_abortStart (underWay : deployment.UnderWay base table) :
    table.Extends deployment.abortStart.context.registrations.declared := by
  rw [abortStart_registrations]
  exact underWay.declared

end UnderWay

/-- A start has met an error on the way, at its beginning or while it is completed. -/
inductive GivesUp (before : Deployment) : Call → Deployment → Prop
  | setUp {e : Error} {ready : Deployment} (admitted : before.context.state ∈ Context.configurable)
      (setUp : (before.entered .starting).SetUp (.error e) ready) :
      GivesUp before .beginStart ready
  | complete {e : Error} {ready : Deployment} (starting : before.context.state = .starting)
      (complete : before.Complete (.error e) ready) : GivesUp before .finishStart ready

theorem GivesUp.active {call : Call} {ready : Deployment} (gives : before.GivesUp call ready) :
    ready.context.state ∈ [.starting, .started] := by
  cases gives with
  | setUp admitted setUp => simp [setUp.active]
  | complete starting complete => exact (complete.keeps starting).2.2

/-- A start that was admitted and returns an error is given up where it met the error. -/
theorem start_gives_up {call : Call} (start : call.isStart = true) {operation : String}
    {allowed : List LifecycleState} (gated : call.gate? = some (operation, allowed))
    (admitted : before.context.state ∈ allowed) {e : Error}
    (failed : (before.perform call).1 = .error e) :
    ∃ ready, before.GivesUp call ready ∧ (before.perform call).2 = ready.abortStart := by
  cases call with
  | beginStart =>
      cases gated
      have spec := before.beginStart_spec
      rw [settleMove_error_iff.mp failed] at spec
      obtain ⟨ready, setUp, same⟩ := spec.given_up admitted
      exact ⟨ready, .setUp admitted setUp, same⟩
  | finishStart =>
      cases gated
      have starting := List.mem_singleton.mp admitted
      have spec := before.finishStart_spec
      rw [settleMove_error_iff.mp failed] at spec
      obtain ⟨ready, complete, same⟩ := spec.given_up starting
      exact ⟨ready, .complete starting complete, same⟩
  | _ => cases start

/-- A start was under way when it was given up. -/
theorem GivesUp.underWay {call : Call} {ready : Deployment} (gives : before.GivesUp call ready)
    (coherent : before.context.Coherent) (linked : before.Linked)
    (accounted : before.Accounted base) :
    ready.UnderWay base before.context.registrations.declared := by
  cases gives with
  | setUp admitted setUp =>
      have idle : before.context.state ∉ [.starting, .started, .stopping] ∧
          before.context.state ≠ .failed := by
        revert admitted
        cases before.context.state <;> decide
      have bare := coherent.bare idle.1
      have since := (accounted.since idle.2).balanced (before.entered_quiet .starting).journal
      rw [running_bare bare] at since
      exact setUp.underWay rfl bare ((linked.unlinked bare).congr rfl)
        (since.imp fun _ => Stilled.of_balanced)
  | complete starting complete =>
      have since := accounted.since (by simp [starting])
      exact complete.underWay starting coherent linked (since.imp fun _ => Stilled.of_balanced)

/-- A start that was admitted and has failed was under way when it was given up. -/
theorem given_up {call : Call} (start : call.isStart = true) {operation : String}
    {allowed : List LifecycleState} (gated : call.gate? = some (operation, allowed))
    (admitted : before.context.state ∈ allowed) (coherent : before.context.Coherent)
    (linked : before.Linked) (accounted : before.Accounted base) {e : Error}
    (failed : (before.perform call).1 = .error e) :
    ∃ ready : Deployment, ready.UnderWay base before.context.registrations.declared ∧
      (before.perform call).2 = ready.abortStart := by
  obtain ⟨ready, gives, same⟩ := start_gives_up start gated admitted failed
  exact ⟨ready, gives.underWay coherent linked accounted, same⟩

/-! ## After the failure -/

/-- A failed context stays so. -/
theorem Step.failed (step : before.Step after) (failed : before.context.state = .failed) :
    after.context.state = .failed := by
  have outside {allowed : List LifecycleState} (admitted : before.context.state ∈ allowed)
      (never : LifecycleState.failed ∉ allowed) : False := by
    rw [failed] at admitted
    exact never admitted
  cases step with
  | same => exact failed
  | reconfigured reconfigures => exact reconfigures.state.trans failed
  | registered registers => exact (outside registers.allowed (by decide)).elim
  | fetched fetch => exact fetch.refits.state.trans failed
  | kept key dispatcher => exact failed
  | served serves => exact failed
  | startBegun begins =>
      cases begins with
      | barred barred => exact failed
      | failed allowed setUp =>
          exact (outside ((canMoveTo_starting_iff _).mp allowed) (by decide)).elim
      | begun allowed setUp =>
          exact (outside ((canMoveTo_starting_iff _).mp allowed) (by decide)).elim
  | startFinished finishes =>
      cases finishes with
      | barred barred => exact failed
      | failed starting complete => cases failed.symm.trans starting
      | finished starting complete => cases failed.symm.trans starting
  | stopBegun begins =>
      cases begins with
      | barred barred => exact failed
      | bare started bare rests kept => cases failed.symm.trans started
      | begun started installed rests kept => cases failed.symm.trans started
  | stopFinished finishes =>
      cases finishes with
      | barred barred => exact failed
      | bare stopping bare => cases failed.symm.trans stopping
      | finished stopping installed => cases failed.symm.trans stopping

/-- Without a pipeline a request is answered at once, and nothing else happens. -/
theorem perform_serve_bare (bare : deployment.context.pipeline = none) (request : Request) :
    deployment.perform (.serve request) = (.ok (.response .unavailable), deployment) := by
  simp only [perform, settleResponse, Context.handle, bare]

end Deployment

/-- The stages that an application has made for a context are not in use: none is linked and none is
routed. -/
structure Host.IsUnused (host : Host) : Prop where
  unlinked : host.Unlinked
  unrouted : ∀ index, host.routing? index = none

namespace Deployment

/-- When a start that was admitted fails, at whatever step, after any calls on a new context: the
context has failed for good, without pipeline, links or routing; whatever has ever been started or
initialised has been stopped or destroyed since; what was registered is found as before, with what
the hooks have added; and from then on every request is turned away and every call that asks for
the state is refused, and nothing else happens. -/
theorem failed_start_is_unwound {context : Context} (new : context.IsNew) {host : Host}
    (unused : host.IsUnused) (calls : List Call) {call : Call} (start : call.isStart = true)
    {operation : String} {allowed : List LifecycleState}
    (gated : call.gate? = some (operation, allowed))
    (admitted : (runCalls ⟨context, host⟩ calls).context.state ∈ allowed) {e : Error}
    (failed : ((runCalls ⟨context, host⟩ calls).perform call).1 = .error e) :
    let before := runCalls ⟨context, host⟩ calls
    let after := (before.perform call).2
    after.context.state = .failed ∧ after.context.pipeline = none ∧ after.context.head? = none ∧
    (∀ index, after.host.nextOf (.wrapper index) = none) ∧
    (∀ index, after.host.routing? index = none) ∧
    (∃ added, after.host.journal.events = host.journal.events ++ added ∧
      (∀ past ref later, added = past ++ .stage ref .started :: later →
        Event.stage ref .stopped ∈ later) ∧
      (∀ past role id later, added = past ++ .registration role id .initialized :: later →
        Event.registration role id .destroyed ∈ later)) ∧
    (∀ name view, before.context.findUnit name = some view →
      ∃ more, after.context.findUnit name =
        some { view with mappings := view.mappings ++ more }) ∧
    (∀ name view, before.context.findInterceptor name = some view →
      ∃ front back, after.context.findInterceptor name =
        some { view with mappings := front ++ view.mappings ++ back }) ∧
    (call = .finishStart →
      after.context.registrations.declared = before.context.registrations.declared) ∧
    (∀ later, let reached := after.runCalls later
      (∀ request, ∃ response, response.status = 503 ∧
        reached.perform (.serve request) = (.ok (.response response), reached)) ∧
      (∀ call operation allowed, call.gate? = some (operation, allowed) →
        reached.perform call = (.error (.illegalState operation .failed), reached))) := by
  intro before after
  have coherent : before.context.Coherent := runCalls_coherent new.coherent calls
  have linked : before.Linked := runCalls_linked new unused.unlinked calls
  have accounted : before.Accounted host.journal.events := runCalls_accounted new host calls
  have tended : after.Tended host.journal.events :=
    (before.perform_step call).tended coherent (runCalls_tended new unused.unrouted calls)
  obtain ⟨ready, underWay, same⟩ := given_up start gated admitted coherent linked accounted failed
  change after = ready.abortStart at same
  have state : after.context.state = .failed := by
    rw [same]
    exact abortStart_state underWay.active
  have bare : after.context.pipeline = none := by
    rw [same]
    exact abortStart_bare underWay.active
  have larger : before.context.registrations.declared.Extends
      after.context.registrations.declared := by
    rw [same]
    exact underWay.extends_abortStart
  obtain ⟨added, entered, stilled⟩ : after.host.journal.Since host.journal.events (Stilled []) := by
    rw [same]
    exact underWay.stilled
  have idle := tended.vacant (by simp [state])
  cases idle with
  | vacant unrouted since =>
  obtain ⟨others, sameEvents, living⟩ := since
  obtain rfl : added = others := List.append_cancel_left (entered.symm.trans sameEvents)
  refine ⟨state, bare, ?_, ?_, unrouted, ⟨added, entered, ?_, ?_⟩, ?_, ?_, ?_, ?_⟩
  · rw [Context.head?, bare]
    rfl
  · rw [same]
    exact abortStart_unlinked underWay.active underWay.linked
  · intro past ref later split
    exact (stilled past ref later split).resolve_left List.not_mem_nil
  · intro past role id later split
    exact living.destroyed_of_initialized split
  · intro name view found
    exact larger.findUnit found
  · intro name view found
    exact larger.findInterceptor found
  · rintro rfl
    exact before.finishStart_spec.declared
  · intro later reached
    have reachedCoherent : reached.context.Coherent :=
      runCalls_coherent ((before.perform_step call).coherent coherent) later
    have stays : reached.context.state = .failed :=
      runCalls_keeps (fun step => step.failed) later state
    refine ⟨fun request => ⟨.unavailable, rfl, ?_⟩, ?_⟩
    · exact perform_serve_bare (reachedCoherent.bare (by simp [stays])) request
    · intro call operation allowed gated
      have refused := gated_refused_iff reachedCoherent gated
      rw [stays] at refused
      exact refused.mpr (Call.failed_not_mem_of_gate gated)

def stubborn : Instance ServiceUnit :=
  ⟨.supplied 2, {
    init := fun _ _ => .error (.configuration "stubborn")
    service := fun _ _ => .answer (.text 200 "never") }⟩

/-- The unit that was initialised first is destroyed again, and found with its mapping. -/
theorem greeter_gone_with_stubborn :
    let before := runCalls ⟨.withOptions ⟨true, true⟩, {}⟩ [.beginStart,
      .registerUnit "home" (.shared greeter) [["/"]], .registerUnit "till" (.shared stubborn) []]
    let after := (before.perform .finishStart).2
    after.context.state = .failed ∧
      Event.registration (.unit "home") (.supplied 1) .initialized ∈ after.host.journal.events ∧
      Event.registration (.unit "home") (.supplied 1) .destroyed ∈ after.host.journal.events ∧
      ∃ more, after.context.findUnit "home" = some ⟨"home", .shared greeter, ["/"] ++ more⟩ := by
  intro before after
  have initialized : Event.registration (.unit "home") (.supplied 1) .initialized ∈
      after.host.journal.events := by decide
  obtain ⟨state, -, -, -, -, ⟨added, entered, -, destroyed⟩, found, -⟩ :=
    failed_start_is_unwound (Context.isNew_withOptions ⟨true, true⟩)
      (⟨fun _ => rfl, fun _ => rfl⟩ : Host.IsUnused {}) [.beginStart,
        .registerUnit "home" (.shared greeter) [["/"]],
        .registerUnit "till" (.shared stubborn) []]
      (rfl : Call.finishStart.isStart = true) rfl (by decide) rfl
  refine ⟨state, initialized, ?_, found "home" _ rfl⟩
  have same : after.host.journal.events = added := entered.trans (List.nil_append added)
  obtain ⟨past, later, split⟩ := List.append_of_mem (same ▸ initialized)
  rw [same, split]
  exact List.mem_append_right _ (List.mem_cons_of_mem _ (destroyed past _ _ later split))

end Deployment

end RequestPipeline
