import RequestPipeline.Proofs.Refusals
import RequestPipeline.Proofs.Retention

/-!
# What asks for no stage

A factory is asked for a stage by the getters and at the beginning of a start.  Everything else
leaves the stages on a host as they are and enters no request for one in the journal.
-/

namespace RequestPipeline

namespace Event

def isRequest : Event → Bool
  | .requested _ => true
  | _ => false

theorem not_isRequest_of_isHosted {event : Event} (hosted : event.isHosted = true) :
    event.isRequest = false := by
  cases event <;> first | rfl | cases hosted

theorem not_isRequest_of_isConstruction {event : Event}
    (constructs : Journal.isConstruction event = true) : event.isRequest = false := by
  cases event <;> first | rfl | cases constructs

end Event

namespace Host

/-- The stages are those of before, and no factory has been asked for one. -/
abbrev Unasked (before after : Host) : Prop := Remains (·.isRequest = false) before after

variable {before after : Host}

theorem Remains.unasked (works : before.Works after) : before.Unasked after :=
  works.mono fun _ => Event.not_isRequest_of_isHosted

theorem Serves.unasked (serves : before.Serves after) : before.Unasked after := by
  refine ⟨congrArg _ serves.wrappers, congrArg _ serves.dispatches, serves.journal.mono ?_⟩
  intro event admitted
  cases event with
  | requested kind => exact admitted.elim
  | _ => rfl

end Host

/-! ## Calls -/

def Call.getting? : Call → Option StageKind
  | .sessionStage => some .session
  | .securityStage => some .security
  | .dispatchStage => some .dispatch
  | _ => none

/-- The kind whose slot a setter changes, and the stage that it puts there. -/
def Call.setting? : Call → Option (StageKind × Option Nat)
  | .setSessionStage stage => some (.session, stage)
  | .setSecurityStage stage => some (.security, stage)
  | .setDispatchStage stage => some (.dispatch, stage)
  | _ => none

namespace Deployment

/-- Options and slots are as before, and no factory has been asked for a stage. -/
structure Unasked (before after : Deployment) : Prop where
  options : after.context.options = before.context.options
  slots : ∀ kind, after.context.slot kind = before.context.slot kind
  host : before.host.Unasked after.host

variable {before middle after deployment : Deployment}

namespace Unasked

theorem refl (deployment : Deployment) : deployment.Unasked deployment :=
  ⟨rfl, fun _ => rfl, .refl _⟩

theorem trans (first : before.Unasked middle) (second : middle.Unasked after) :
    before.Unasked after where
  options := second.options.trans first.options
  slots kind := (second.slots kind).trans (first.slots kind)
  host := first.host.trans second.host

theorem withHost (deployment : Deployment) {host : Host}
    (unasked : deployment.host.Unasked host) :
    deployment.Unasked { deployment with host := host } :=
  ⟨rfl, fun _ => rfl, unasked⟩

end Unasked

/-- Taking a pipeline down works on its stages. -/
theorem takenDown_works (deployment : Deployment) :
    deployment.host.Works deployment.takenDown := by
  unfold takenDown
  split
  · exact .refl _
  · next pipeline _ =>
      exact (pipeline.stopAll_works _).trans (pipeline.unlink_clearRouting_arranges _).toRemains

/-- Installing a pipeline works on its stages. -/
theorem install_works (deployment : Deployment) (pipeline : Pipeline) :
    deployment.host.Works (deployment.install pipeline).2.host :=
  (pipeline.assemble_arranges _).toRemains.trans (pipeline.startAll_works _)

theorem RouteBy.works {snapshot : Snapshot} {result : Except Error Unit}
    (route : before.RouteBy snapshot result after) : before.host.Works after.host := by
  cases route with
  | unrouted => exact .refl _
  | @routed pipeline _ host installed outcome =>
      have handled :=
        before.host.setErrorHandler_arranges pipeline.dispatch before.context.errorUnit
      have finalized := handled.trans (Host.finalizeRouting_arranges _ pipeline.dispatch snapshot)
      rw [outcome] at finalized
      exact finalized.toRemains

theorem entered_unasked (deployment : Deployment) (target : LifecycleState) :
    deployment.Unasked (deployment.entered target) :=
  ⟨rfl, fun kind => by cases kind <;> rfl, .note _ none rfl⟩

theorem abortStart_unasked (active : deployment.context.state.canMoveTo .failed = true) :
    deployment.Unasked deployment.abortStart := by
  rw [abortStart_eq active]
  exact (deployment.entered_unasked .failed).trans
    ⟨rfl, fun kind => by cases kind <;> rfl, (deployment.entered .failed).takenDown_works.unasked⟩

theorem RunHooks.unasked {result : Except Error Unit} (hooks : before.RunHooks result after) :
    before.Unasked after := by
  cases hooks with
  | hookless none => exact .refl _
  | closed closed => exact .refl _
  | ran opened grows adds =>
      refine ⟨rfl, fun kind => by cases kind <;> rfl, .withJournal _ (adds.mono ?_)⟩
      rintro event rfl
      rfl

theorem install_unasked (deployment : Deployment) (pipeline : Pipeline) :
    deployment.Unasked (deployment.install pipeline).2 :=
  ⟨rfl, fun kind => by cases kind <;> rfl, (deployment.install_works pipeline).unasked⟩

theorem Freeze.unasked {result : Except Error Snapshot} (freeze : before.Freeze result after) :
    before.Unasked after := by
  have constructs {table : RegistrationTable} {journal : Journal}
      {result : Except Error Snapshot}
      (outcome : table.freeze before.context.loader before.host.journal = (result, journal)) :
      before.host.Unasked { before.host with journal := journal } := by
    have adds := table.freeze_constructs before.context.loader before.host.journal
    rw [outcome] at adds
    exact .withJournal _ (adds.mono fun _ => Event.not_isRequest_of_isConstruction)
  cases freeze with
  | failed opened outcome => exact .withHost _ (constructs outcome)
  | frozen opened outcome =>
      exact ⟨rfl, fun kind => by cases kind <;> rfl, constructs outcome⟩
  | already frozen => exact .refl _

theorem RouteBy.unasked {snapshot : Snapshot} {result : Except Error Unit}
    (route : before.RouteBy snapshot result after) : before.Unasked after := by
  refine ⟨?_, ?_, route.works.unasked⟩
  · cases route <;> rfl
  · cases route <;> exact fun _ => rfl

theorem Complete.unasked {result : Except Error Unit} (complete : before.Complete result after) :
    before.Unasked after := by
  cases complete with
  | unfrozen freeze => exact freeze.unasked
  | frozen freeze route =>
      exact (freeze.unasked.trans (entered_unasked _ .started)).trans route.unasked

theorem FinishStart.unasked {result : Except Error Unit}
    (finishes : before.FinishStart result after) : before.Unasked after := by
  cases finishes with
  | barred barred => exact .refl _
  | failed starting complete =>
      have active := canMoveTo_failed_of_active (complete.keeps starting).2.2
      exact complete.unasked.trans (abortStart_unasked active)
  | finished starting complete => exact complete.unasked

theorem beginStop_unasked (deployment : Deployment) :
    deployment.Unasked deployment.beginStop.2 := by
  unfold beginStop
  cases allowed : deployment.context.state.canMoveTo .stopping with
  | false =>
      rw [move_barred allowed]
      exact .refl _
  | true =>
      rw [move_allowed allowed]
      have remarked : Journal.Adds (·.isRequest = false) _ _ :=
        (runShutdownHooks_adds deployment.context.shutdownHooks
          (deployment.entered .stopping).host.journal).mono (by rintro event rfl; rfl)
      have hooked := (deployment.entered_unasked .stopping).trans
        (.withHost _ (.withJournal _ remarked))
      dsimp only
      split
      · exact hooked
      · next pipeline _ => exact hooked.trans (.withHost _ ((pipeline.stopAll_works _).unasked))

theorem FinishStop.unasked {result : Except Error Unit}
    (finishes : before.FinishStop result after) : before.Unasked after := by
  cases finishes with
  | barred barred => exact .refl _
  | bare stopping bare =>
      refine (before.entered_unasked .stopped).trans ⟨rfl, fun kind => ?_, .refl _⟩
      cases kind <;> rfl
  | @finished pipeline stopping installed =>
      refine (before.entered_unasked .stopped).trans ⟨rfl, fun kind => by cases kind <;> rfl, ?_⟩
      exact (pipeline.unlink_clearRouting_arranges _).toRemains.unasked

/-- A setter of something else than a stage keeps the options and the slots. -/
theorem keeps_of_set {context changed after : Context} {operation : String}
    (options : changed.options = context.options)
    (slots : ∀ kind, changed.slot kind = context.slot kind)
    (set : (match context.lifecycle.require operation Context.configurable with
      | .error e => Except.error e
      | .ok () => Except.ok changed) = Except.ok after) :
    after.options = context.options ∧ ∀ kind, after.slot kind = context.slot kind := by
  split at set
  · cases set
  · cases set
    exact ⟨options, slots⟩

theorem settle_unasked {result : Except Error Context}
    (keeps : ∀ context, result = .ok context →
      context.options = deployment.context.options ∧
        ∀ kind, context.slot kind = deployment.context.slot kind) :
    deployment.Unasked (deployment.settle result).2 := by
  cases result with
  | error e => exact .refl _
  | ok context =>
      obtain ⟨options, slots⟩ := keeps context rfl
      exact ⟨options, slots, .refl _⟩

theorem settleWith_unasked {α : Type} {answer : α → Answer}
    {result : Except Error (α × Context)}
    (registers : ∀ a context, result = .ok (a, context) →
      deployment.context.Registers context) :
    deployment.Unasked (deployment.settleWith answer result).2 := by
  cases result with
  | error e => exact .refl _
  | ok pair =>
      obtain ⟨given, context⟩ := pair
      obtain ⟨-, table, grown, -, -, rfl⟩ := registers given context rfl
      exact ⟨rfl, fun kind => by cases kind <;> rfl, .refl _⟩

open Context in
/-- A call asks for no stage unless it is a getter, a setter of a stage, or the beginning of a
start. -/
theorem perform_unasked (deployment : Deployment) {call : Call} (noGetter : call.getting? = none)
    (noSetter : call.setting? = none) (noStart : call ≠ .beginStart) :
    deployment.Unasked (deployment.perform call).2 := by
  cases call with
  | beginStart => exact absurd rfl noStart
  | finishStart => exact deployment.finishStart_spec.unasked
  | beginStop => exact deployment.beginStop_unasked
  | finishStop => exact deployment.finishStop_spec.unasked
  | sessionStage | securityStage | dispatchStage => cases noGetter
  | setSessionStage | setSecurityStage | setDispatchStage => cases noSetter
  | setStageFactory | setErrorHandler | clearRegistrations =>
      exact settle_unasked fun _ => keeps_of_set rfl fun kind => by cases kind <;> rfl
  | addUnit binding pattern => exact settleWith_unasked fun _ _ added => addUnit_registers added
  | addInterceptor binding pattern phases =>
      exact settleWith_unasked fun _ _ added => addInterceptor_registers added
  | registerUnit name binding calls =>
      exact settleWith_unasked fun _ _ registered => registerUnit_registers registered
  | registerInterceptor name binding phases calls =>
      exact settleWith_unasked fun _ _ registered => registerInterceptor_registers registered
  | mapUnit name patterns => exact settleWith_unasked fun _ _ mapped => mapUnit_registers mapped
  | mapInterceptorToUnits name phases after units =>
      exact settleWith_unasked fun _ _ mapped => mapInterceptorToUnits_registers mapped
  | resolveDispatcher name => exact .refl _
  | keepDispatcher key dispatcher => exact ⟨rfl, fun _ => rfl, ⟨rfl, rfl, .refl _⟩⟩
  | callNamed dispatcher mode request =>
      exact .withHost _
        (Host.callNamed_gentle dispatcher mode request deployment.host).unasked
  | serve request => exact .withHost _ (deployment.context.handle_serves request _).unasked
  | serveFrom head request => exact .withHost _ (deployment.host.handle_serves head request).unasked

end Deployment

end RequestPipeline
