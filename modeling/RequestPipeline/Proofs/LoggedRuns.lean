import RequestPipeline.Proofs.RegistrationLog
import RequestPipeline.Proofs.Unwinding

/-!
# Look-ups after a run

What a call enters into the log of registrations is read off from the call and from what it gives
back; of a start, from the calls that its hooks make.  After any run, whatever state it has led to,
looking a name up shows what the log of the run tells.
-/

namespace RequestPipeline

/-- What an accepted call has registered and mapped, as told by what it gives back. -/
def Call.entries : Call → Answer → RegistrationLog
  | .addUnit binding pattern, .name given => [.unit given binding, .mapUnit given [pattern]]
  | .addInterceptor binding pattern phases, .name given =>
      [.interceptor given binding phases, .mapInterceptor given phases true [pattern] []]
  | .registerUnit name binding calls, _ => .ofUnit name binding calls
  | .registerInterceptor name binding phases calls, _ => .ofInterceptor name binding phases calls
  | .mapUnit name patterns, _ => [.mapUnit name patterns]
  | .mapInterceptorToUnits name phases after units, _ =>
      [.mapInterceptor name phases after [] units]
  | _, _ => []

def Call.registers : Call → Bool
  | .beginStart | .clearRegistrations | .addUnit _ _ | .addInterceptor _ _ _
  | .registerUnit _ _ _ | .registerInterceptor _ _ _ _ | .mapUnit _ _
  | .mapInterceptorToUnits _ _ _ _ => true
  | _ => false

namespace Deployment

/-! ## The log of a run -/

def hookEntries (deployment : Deployment) : RegistrationLog :=
  match deployment.context.registrations with
  | .opened table => startupEntries deployment.context.name deployment.context.startupHooks table
      deployment.host.journal
  | .frozen _ => []

/-- What beginning a start registers and maps: the hooks run once the pipeline is installed. -/
def startEntries (deployment : Deployment) : RegistrationLog :=
  if deployment.context.state.canMoveTo .starting then
    match (deployment.entered .starting).installPipeline with
    | (.error _, _) => []
    | (.ok (), ready) => ready.hookEntries
  else []

/-- What a call has registered and mapped, beginning a start apart: nothing unless it succeeded. -/
def entriesOf (deployment : Deployment) (call : Call) : RegistrationLog :=
  match (deployment.perform call).1 with
  | .ok answer => call.entries answer
  | .error _ => []

/-- The log after a call: what the hooks of a start have registered stays although the start may
fail, an accepted clearing leaves nothing, and any other call adds its entries. -/
def logAfter (deployment : Deployment) (log : RegistrationLog) : Call → RegistrationLog
  | .beginStart => log ++ deployment.startEntries
  | .clearRegistrations => if (deployment.perform .clearRegistrations).1.isOk then [] else log
  | call => log ++ deployment.entriesOf call

/-- The log of a run, from an earlier log on. -/
def runLog (deployment : Deployment) (log : RegistrationLog) : List Call → RegistrationLog
  | [] => log
  | call :: rest => (deployment.perform call).2.runLog (deployment.logAfter log call) rest

def declared (deployment : Deployment) : RegistrationTable :=
  deployment.context.registrations.declared

variable {log : RegistrationLog} {deployment before after : Deployment}

/-! ## Calls that register nothing -/

theorem Fetch.declared {kind : StageKind} {result : Except Error (Option Nat)}
    (fetch : before.Fetch kind result after) : after.declared = before.declared :=
  congrArg Registrations.declared fetch.refits.registrations

theorem BeginStop.declared {result : Except Error Unit} (begins : before.BeginStop result after) :
    after.declared = before.declared := by
  cases begins <;> rfl

/-- Completing a stop opens the table again as it was frozen. -/
theorem FinishStop.declared {result : Except Error Unit}
    (finishes : before.FinishStop result after) : after.declared = before.declared := by
  cases finishes with
  | barred barred => rfl
  | bare stopping bare => exact Registrations.declared_thaw _
  | finished stopping installed => exact Registrations.declared_thaw _

theorem perform_declared {call : Call} (silent : call.registers = false) :
    (deployment.perform call).2.declared = deployment.declared := by
  cases call with
  | finishStart => exact deployment.finishStart_spec.declared
  | beginStop => exact deployment.beginStop_spec.declared
  | finishStop => exact deployment.finishStop_spec.declared
  | sessionStage => exact (deployment.fetch_spec .session).declared
  | securityStage => exact (deployment.fetch_spec .security).declared
  | dispatchStage => exact (deployment.fetch_spec .dispatch).declared
  | setSessionStage stage => exact settle_set_part (·.registrations.declared) rfl
  | setSecurityStage stage => exact settle_set_part (·.registrations.declared) rfl
  | setDispatchStage stage => exact settle_set_part (·.registrations.declared) rfl
  | setStageFactory factory => exact settle_set_part (·.registrations.declared) rfl
  | setErrorHandler unit => exact settle_set_part (·.registrations.declared) rfl
  | resolveDispatcher name => rfl
  | keepDispatcher key dispatcher => rfl
  | callNamed dispatcher mode request => rfl
  | serve request => rfl
  | serveFrom head request => rfl
  | _ => cases silent

theorem logAfter_of_silent {call : Call} (silent : call.registers = false) :
    deployment.logAfter log call = log := by
  have nothing : deployment.entriesOf call = [] := by
    unfold entriesOf
    split
    · cases call <;> first | rfl | cases silent
    · rfl
  have added : log ++ deployment.entriesOf call = log := by rw [nothing, List.append_nil]
  cases call <;> first | exact added | cases silent

/-! ## Calls that register -/

/-- A registration call that is accepted, by what it does to an open table. -/
theorem settleWith_reflects {α : Type} {answer : α → Answer}
    {result : Except Error (α × Context)} {call : Call}
    (performed : deployment.perform call = deployment.settleWith answer result)
    (reflects : Reflects log deployment.declared)
    (accepted : ∀ a context, result = .ok (a, context) →
      ∃ table grown, deployment.context.registrations = .opened table ∧
        context = deployment.context.withTable grown ∧
        (Reflects log table → Reflects (log ++ call.entries (answer a)) grown)) :
    Reflects (log ++ deployment.entriesOf call) (deployment.perform call).2.declared := by
  rw [entriesOf, performed]
  cases result with
  | error e => rwa [settleWith, List.append_nil]
  | ok pair =>
      obtain ⟨table, grown, opened, same, larger⟩ := accepted pair.1 pair.2 rfl
      rw [declared, opened] at reflects
      change Reflects (log ++ call.entries (answer pair.1)) pair.2.registrations.declared
      rw [same]
      exact larger reflects

theorem addUnit_reflects (reflects : Reflects log deployment.declared)
    (binding : Binding ServiceUnit) (pattern : String) :
    Reflects (deployment.logAfter log (.addUnit binding pattern))
      (deployment.perform (.addUnit binding pattern)).2.declared := by
  refine settleWith_reflects rfl reflects fun name context added => ?_
  obtain ⟨-, table, larger, grown, opened, registered, mapped, same⟩ := Context.addUnit_ok added
  refine ⟨table, grown, opened, same, fun reflects => ?_⟩
  have both := (reflects.registerUnit registered).mapUnit mapped
  rwa [List.append_assoc] at both

theorem addInterceptor_reflects (reflects : Reflects log deployment.declared)
    (binding : Binding Interceptor) (pattern : String) (phases : Phases) :
    Reflects (deployment.logAfter log (.addInterceptor binding pattern phases))
      (deployment.perform (.addInterceptor binding pattern phases)).2.declared := by
  refine settleWith_reflects rfl reflects fun name context added => ?_
  obtain ⟨-, table, larger, grown, opened, registered, mapped, same⟩ :=
    Context.addInterceptor_ok added
  refine ⟨table, grown, opened, same, fun reflects => ?_⟩
  have both := ((reflects.registerInterceptor registered).mapInterceptorTo mapped).2
  rwa [List.append_assoc] at both

theorem registerUnit_reflects (reflects : Reflects log deployment.declared) (name : String)
    (binding : Binding ServiceUnit) (calls : List (List String)) :
    Reflects (deployment.logAfter log (.registerUnit name binding calls))
      (deployment.perform (.registerUnit name binding calls)).2.declared := by
  refine settleWith_reflects rfl reflects fun result context registered => ?_
  obtain ⟨-, table, grown, opened, carried, same⟩ := Context.registerUnit_ok_iff.mp registered
  refine ⟨table, grown, opened, same, fun reflects => ?_⟩
  have all := reflects.registerUnitWith name binding calls
  rwa [carried] at all

theorem registerInterceptor_reflects (reflects : Reflects log deployment.declared)
    (name : String) (binding : Binding Interceptor) (phases : Phases)
    (calls : List InterceptorFollowUp) :
    Reflects (deployment.logAfter log (.registerInterceptor name binding phases calls))
      (deployment.perform (.registerInterceptor name binding phases calls)).2.declared := by
  refine settleWith_reflects rfl reflects fun result context registered => ?_
  obtain ⟨-, table, grown, opened, carried, same⟩ :=
    Context.registerInterceptor_ok_iff.mp registered
  refine ⟨table, grown, opened, same, fun reflects => ?_⟩
  have all := reflects.registerInterceptorWith name binding phases calls
  rwa [carried] at all

theorem mapUnit_reflects (reflects : Reflects log deployment.declared) (name : String)
    (patterns : List String) :
    Reflects (deployment.logAfter log (.mapUnit name patterns))
      (deployment.perform (.mapUnit name patterns)).2.declared := by
  refine settleWith_reflects rfl reflects fun done context changed => ?_
  obtain ⟨-, table, grown, opened, mapped, same⟩ := Context.mapUnit_ok_iff.mp changed
  exact ⟨table, grown, opened, same, fun reflects => reflects.mapUnit mapped⟩

theorem mapInterceptorToUnits_reflects (reflects : Reflects log deployment.declared)
    (name : String) (phases : Phases) (behind : Bool) (units : List String) :
    Reflects (deployment.logAfter log (.mapInterceptorToUnits name phases behind units))
      (deployment.perform (.mapInterceptorToUnits name phases behind units)).2.declared := by
  refine settleWith_reflects rfl reflects fun done context changed => ?_
  obtain ⟨-, table, opened, same⟩ := Context.mapInterceptorToUnits_ok_iff.mp changed
  refine ⟨table, _, opened, same, fun reflects => ?_⟩
  exact reflects.mapInterceptor name phases behind List.map_nil units

theorem clearRegistrations_reflects (reflects : Reflects log deployment.declared) :
    Reflects (deployment.logAfter log .clearRegistrations)
      (deployment.perform .clearRegistrations).2.declared := by
  unfold logAfter
  cases cleared : deployment.context.clearRegistrations with
  | error e =>
      simp only [perform, cleared, settle]
      exact reflects
  | ok context =>
      simp only [perform, cleared, settle]
      unfold Context.clearRegistrations at cleared
      split at cleared
      · cases cleared
      · cases cleared
        exact .empty

/-! ## Beginning a start -/

/-- Making, linking and starting stages registers nothing, however far it comes. -/
theorem InstallPipeline.declared {result : Except Error Unit}
    (installs : before.InstallPipeline result after) : after.declared = before.declared := by
  cases installs with
  | unfurnished fetches => exact congrArg Registrations.declared fetches.refits.registrations
  | installed fetches chains outcome =>
      exact congrArg Registrations.declared fetches.refits.registrations

theorem runHooks_reflects (reflects : Reflects log deployment.declared) :
    Reflects (log ++ deployment.hookEntries) deployment.runHooks.2.declared := by
  unfold runHooks hookEntries
  dsimp only
  split
  · next table opened =>
      rw [opened]
      rw [declared, opened] at reflects
      split
      · next none =>
          rw [List.isEmpty_iff.mp none, startupEntries, List.append_nil, declared, opened]
          exact reflects
      · exact reflects.runStartupHooks _ _ _
  · next snapshot frozen =>
      rw [frozen, List.append_nil]
      split <;> exact reflects

theorem orAbort_declared (step : Except Error Unit × Deployment) :
    (orAbort step).2.declared = step.2.declared := by
  obtain ⟨result, ready⟩ := step
  cases result with
  | error e => exact congrArg Registrations.declared ready.abortStart_registrations
  | ok _ => rfl

/-- What the hooks of a start have registered stays, even if the start fails in one of them. -/
theorem beginStart_reflects (reflects : Reflects log deployment.declared) :
    Reflects (log ++ deployment.startEntries) deployment.beginStart.2.declared := by
  unfold beginStart startEntries
  cases allowed : deployment.context.state.canMoveTo .starting with
  | false =>
      rw [move_barred allowed, if_neg Bool.false_ne_true, List.append_nil]
      exact reflects
  | true =>
      rw [move_allowed allowed, if_pos rfl]
      have spec := installPipeline_spec (deployment.entered .starting) rfl
      unfold setUp
      dsimp only
      generalize (deployment.entered .starting).installPipeline = outcome at spec
      obtain ⟨result, ready⟩ := outcome
      have kept : Reflects log ready.declared := by
        rw [spec.declared]
        exact reflects
      rw [orAbort_declared]
      cases result with
      | error e =>
          rw [List.append_nil]
          exact kept
      | ok _ => exact runHooks_reflects kept

/-! ## Runs -/

/-- A call takes a table that reflects a log to one that reflects the log after the call. -/
theorem perform_reflects (reflects : Reflects log deployment.declared) (call : Call) :
    Reflects (deployment.logAfter log call) (deployment.perform call).2.declared := by
  cases registers : call.registers with
  | false =>
      rw [logAfter_of_silent registers, perform_declared registers]
      exact reflects
  | true =>
      cases call with
      | beginStart => exact beginStart_reflects reflects
      | clearRegistrations => exact clearRegistrations_reflects reflects
      | addUnit binding pattern => exact addUnit_reflects reflects binding pattern
      | addInterceptor binding pattern phases =>
          exact addInterceptor_reflects reflects binding pattern phases
      | registerUnit name binding calls =>
          exact registerUnit_reflects reflects name binding calls
      | registerInterceptor name binding phases calls =>
          exact registerInterceptor_reflects reflects name binding phases calls
      | mapUnit name patterns => exact mapUnit_reflects reflects name patterns
      | mapInterceptorToUnits name phases behind units =>
          exact mapInterceptorToUnits_reflects reflects name phases behind units
      | _ => cases registers

theorem runCalls_reflects (reflects : Reflects log deployment.declared) (calls : List Call) :
    Reflects (deployment.runLog log calls) (deployment.runCalls calls).declared := by
  induction calls generalizing log deployment with
  | nil => exact reflects
  | cons call rest ih => exact ih (perform_reflects reflects call)

/-- After any calls on a new context, in whatever state they have left it, looking a name up shows
what the log of the run tells: the binding of the first registration under that name and all
patterns, as written, that were mapped to it, or nothing if there was no registration since all
was cleared.  Entries about other names, or about the other kind of thing, make no difference. -/
theorem lookups_tell_the_log {context : Context} (new : context.IsNew) (host : Host)
    (calls : List Call) (name : String) :
    let reached := runCalls ⟨context, host⟩ calls
    let log := runLog ⟨context, host⟩ [] calls
    reached.context.findUnit name = log.findUnit name ∧
    (reached.context.findInterceptor name).map InterceptorView.written =
      log.findInterceptor name ∧
    ((reached.context.findUnit name).isSome = true ↔
      ∃ binding, LogEntry.unit name binding ∈ log) ∧
    ((reached.context.findInterceptor name).isSome = true ↔
      ∃ binding phases, LogEntry.interceptor name binding phases ∈ log) ∧
    reached.context.findUnit name =
      RegistrationLog.findUnit (log.filter (·.isOfUnit name)) name ∧
    (reached.context.findInterceptor name).map InterceptorView.written =
      RegistrationLog.findInterceptor (log.filter (·.isOfInterceptor name)) name := by
  intro reached log
  have start : Reflects [] (Deployment.mk context host).declared := by
    rw [declared, new.registrations]
    exact .empty
  have reflects : Reflects log reached.declared := runCalls_reflects start calls
  have units : reached.context.findUnit name = log.findUnit name := reflects.findUnit name
  have interceptors : (reached.context.findInterceptor name).map InterceptorView.written =
      log.findInterceptor name := reflects.findInterceptor name
  refine ⟨units, interceptors, ?_, ?_, ?_, ?_⟩
  · rw [units]
    exact RegistrationLog.findUnit_isSome_iff
  · rw [← Option.isSome_map, interceptors]
    exact RegistrationLog.findInterceptor_isSome_iff
  · rw [units, RegistrationLog.findUnit_filter]
  · rw [interceptors, RegistrationLog.findInterceptor_filter]

def settling : Journal → String → StartupProgram := fun _ _ =>
  .registerUnit "home" (.shared greeter) [["/home"], ["home"], ["/late"]] fun _ => .done

/-- The mapping made before the unit was registered comes first, the malformed one and those after
it are missing, and at the second start the name is taken. -/
theorem home_found_after_restart :
    let context := (Context.withOptions ⟨true, true⟩).onStartup none settling
    let reached := runCalls ⟨context, {}⟩ [.mapUnit "home" ["/"], .beginStart, .finishStart,
      .beginStop, .finishStop, .beginStart, .registerInterceptor "home" (.named "Guard") .none
        [.path "/first"], .mapInterceptorToUnits "home" (.only .async) false ["home"]]
    (reached.context.findUnit "home").map (·.mappings) = some ["/", "/home"] ∧
    ((reached.context.findInterceptor "home").map InterceptorView.written).map
      (fun view => (view.phases, view.mappings)) = some (.only .request,
        [⟨"home", .only .async, [], ["home"]⟩, ⟨"home", .only .request, ["/first"], []⟩]) := by
  intro context reached
  obtain ⟨unit, interceptor, -⟩ := lookups_tell_the_log (⟨rfl, rfl, rfl⟩ : context.IsNew) {}
    [.mapUnit "home" ["/"], .beginStart, .finishStart,
      .beginStop, .finishStop, .beginStart, .registerInterceptor "home" (.named "Guard") .none
        [.path "/first"], .mapInterceptorToUnits "home" (.only .async) false ["home"]] "home"
  refine ⟨?_, ?_⟩
  · rw [unit]
    decide +kernel
  · rw [interceptor]
    decide +kernel

end Deployment

end RequestPipeline
