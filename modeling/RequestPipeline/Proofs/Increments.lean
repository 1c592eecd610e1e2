import RequestPipeline.Metrics
import RequestPipeline.Proofs.SlotHistory

/-!
# What is counted

Counters are read off the journal, so what has been counted is a part of what has been entered
there.  Only moves of a life cycle and dispatched requests are counted; asking for stages, working
on them, hooks and the freezing of registrations are not.
-/

namespace RequestPipeline

def Call.isServing : Call → Bool
  | .serve .. | .serveFrom .. | .callNamed .. => true
  | _ => false

def Event.Uncounted (event : Event) : Prop := Counter.ofEvent? event = none

namespace Journal

variable {before after : Journal}

/-- The counters in the order in which they have been incremented, each as often as it was. -/
def increments (journal : Journal) : List Counter := journal.events.filterMap Counter.ofEvent?

theorem counted_eq (journal : Journal) (counter : Counter) :
    journal.counted counter = journal.increments.count counter := by
  rw [counted, count, increments, List.count_eq_countP, List.countP_filterMap]
  refine List.countP_congr fun event _ => ?_
  cases Counter.ofEvent? event <;> simp

theorem increments_note (journal : Journal) (event : Event) (line : Option String) :
    (journal.note event line).increments =
      journal.increments ++ (Counter.ofEvent? event).toList := by
  rw [increments, events_note, List.filterMap_append]
  cases counts : Counter.ofEvent? event <;> simp [increments, counts]

theorem increments_of_adds (adds : Adds Event.Uncounted before after) :
    after.increments = before.increments := by
  obtain ⟨added, events, uncounted⟩ := adds
  have nothing : added.filterMap Counter.ofEvent? = [] := List.filterMap_eq_nil_iff.mpr uncounted
  rw [increments, events, List.filterMap_append, nothing, List.append_nil]
  rfl

end Journal

namespace Deployment

variable {before middle after deployment : Deployment}

/-- The life cycle stands where it stood, and nothing has been counted. -/
structure Lingers (before after : Deployment) : Prop where
  lifecycle : after.context.lifecycle = before.context.lifecycle
  journal : Journal.Adds Event.Uncounted before.host.journal after.host.journal

namespace Lingers

theorem refl (deployment : Deployment) : deployment.Lingers deployment := ⟨rfl, .refl _⟩

theorem trans (first : before.Lingers middle) (second : middle.Lingers after) :
    before.Lingers after :=
  ⟨second.lifecycle.trans first.lifecycle, first.journal.trans second.journal⟩

theorem of_works (lifecycle : after.context.lifecycle = before.context.lifecycle)
    (works : before.host.Works after.host) : before.Lingers after := by
  refine ⟨lifecycle, works.journal.mono fun event hosted => ?_⟩
  cases event <;> first | rfl | cases hosted

end Lingers

theorem Fetch.lingers {kind : StageKind} {result : Except Error (Option Nat)}
    (fetch : before.Fetch kind result after) : before.Lingers after := by
  have requested (line : Option String) : Journal.Adds Event.Uncounted before.host.journal
      (before.host.note (.requested kind) line).journal := .note _ line rfl
  obtain ⟨session, security, dispatch, refitted⟩ := fetch.refits.rest
  refine ⟨by rw [refitted], ?_⟩
  cases fetch with
  | kept settled => exact .refl _
  | refused wants e line => exact requested line
  | made wants makes =>
      cases makes with
      | wrapper optional line wrapper => exact requested line
      | dispatch line stage => exact requested line

theorem Fetches.lingers (fetches : before.Fetches after) : before.Lingers after := by
  induction fetches with
  | refl => exact .refl _
  | tail _ fetch ih =>
      obtain ⟨kind, result, fetch⟩ := fetch
      exact ih.trans fetch.lingers

theorem RunHooks.lingers {result : Except Error Unit} (hooks : before.RunHooks result after) :
    before.Lingers after := by
  cases hooks with
  | hookless none => exact .refl _
  | closed closed => exact .refl _
  | ran opened grows adds =>
      refine ⟨rfl, adds.mono ?_⟩
      rintro event rfl
      rfl

theorem SetUp.lingers {result : Except Error Unit} (setUp : before.SetUp result after) :
    before.Lingers after := by
  have installs {ready : Deployment} {pipeline : Pipeline} {host : Host}
      {result : Except Error Unit}
      (outcome : pipeline.startAll (pipeline.assemble ready.host) = (result, host)) :
      ready.Lingers (ready.withPipeline pipeline host) := by
    have works := ready.install_works pipeline
    rw [install, outcome] at works
    exact .of_works rfl works
  cases setUp with
  | unfurnished fetches => exact fetches.lingers
  | refused fetches chains outcome => exact fetches.lingers.trans (installs outcome)
  | hooked fetches chains outcome hooks =>
      exact (fetches.lingers.trans (installs outcome)).trans hooks.lingers

theorem Freeze.lingers {result : Except Error Snapshot} (freeze : before.Freeze result after) :
    before.Lingers after := by
  have constructs {table : RegistrationTable} {journal : Journal}
      {result : Except Error Snapshot}
      (outcome : table.freeze before.context.loader before.host.journal = (result, journal)) :
      Journal.Adds Event.Uncounted before.host.journal journal := by
    have adds := table.freeze_constructs before.context.loader before.host.journal
    rw [outcome] at adds
    refine adds.mono fun event construction => ?_
    cases event <;> first | rfl | cases construction
  cases freeze with
  | failed opened outcome => exact ⟨rfl, constructs outcome⟩
  | frozen opened outcome => exact ⟨rfl, constructs outcome⟩
  | already frozen => exact .refl _

theorem RouteBy.lingers {snapshot : Snapshot} {result : Except Error Unit}
    (route : before.RouteBy snapshot result after) : before.Lingers after :=
  .of_works (congrArg Context.lifecycle route.context) route.works

/-- A call that does not move the life cycle leaves it alone. -/
theorem perform_lifecycle (deployment : Deployment) {call : Call} (resting : call.isMove = false) :
    (deployment.perform call).2.context.lifecycle = deployment.context.lifecycle := by
  have fetched (kind : StageKind) :
      (deployment.fetch kind).2.context.lifecycle = deployment.context.lifecycle :=
    (deployment.fetch_spec kind).lingers.lifecycle
  cases call with
  | beginStart | finishStart | beginStop | finishStop => cases resting
  | sessionStage => exact fetched .session
  | securityStage => exact fetched .security
  | dispatchStage => exact fetched .dispatch
  | setSessionStage | setSecurityStage | setDispatchStage | setStageFactory | setErrorHandler
  | clearRegistrations => exact settle_set_part Context.lifecycle rfl
  | addUnit | addInterceptor | registerUnit | registerInterceptor | mapUnit
  | mapInterceptorToUnits =>
      exact perform_registration_part Context.lifecycle (fun _ _ => rfl) deployment rfl
  | resolveDispatcher | keepDispatcher | callNamed | serve | serveFrom => rfl

theorem settle_host (deployment : Deployment) (result : Except Error Context) :
    (deployment.settle result).2.host = deployment.host := by
  cases result <;> rfl

theorem settleWith_host {α : Type} (deployment : Deployment) (answer : α → Answer)
    (result : Except Error (α × Context)) :
    (deployment.settleWith answer result).2.host = deployment.host := by
  cases result <;> rfl

/-- A call that neither moves the life cycle nor serves a request counts nothing. -/
theorem perform_lingers (deployment : Deployment) {call : Call} (resting : call.isMove = false)
    (idle : call.isServing = false) : deployment.Lingers (deployment.perform call).2 := by
  refine ⟨deployment.perform_lifecycle resting, ?_⟩
  cases call with
  | beginStart | finishStart | beginStop | finishStop => cases resting
  | serve | serveFrom | callNamed => cases idle
  | sessionStage => exact (deployment.fetch_spec .session).lingers.journal
  | securityStage => exact (deployment.fetch_spec .security).lingers.journal
  | dispatchStage => exact (deployment.fetch_spec .dispatch).lingers.journal
  | setSessionStage | setSecurityStage | setDispatchStage | setStageFactory | setErrorHandler
  | clearRegistrations =>
      rw [perform, settle_host]
      exact .refl _
  | addUnit | addInterceptor | registerUnit | registerInterceptor | mapUnit
  | mapInterceptorToUnits =>
      rw [perform, settleWith_host]
      exact .refl _
  | resolveDispatcher | keepDispatcher => exact .refl _

/-- A call that serves a request changes the host alone, as serving does. -/
theorem perform_serves (deployment : Deployment) {call : Call} (serving : call.isServing = true) :
    (deployment.perform call).2.context = deployment.context ∧
      deployment.host.Serves (deployment.perform call).2.host := by
  cases call with
  | serve request => exact ⟨rfl, deployment.context.handle_serves request deployment.host⟩
  | serveFrom head request => exact ⟨rfl, deployment.host.handle_serves head request⟩
  | callNamed dispatcher mode request =>
      exact ⟨rfl, Host.callNamed_gentle dispatcher mode request deployment.host⟩
  | _ => cases serving

end Deployment

end RequestPipeline
