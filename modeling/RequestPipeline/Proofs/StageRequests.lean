import RequestPipeline.Proofs.SlotHistory

/-!
# Requests for stages

When the factory is asked for stages during a call and during a run.  The journal tells of these
requests and of no others, and there is one more stage for each of them that is granted.
-/

namespace RequestPipeline

instance (context : Context) (kind : StageKind) : Decidable (context.Wants kind) :=
  inferInstanceAs (Decidable (slotDecision _ _ _ = .create))

/-- The factory is asked for a stage of some kind, at some moment. -/
structure Asking where
  kind : StageKind
  moment : Deployment

namespace Asking

def outcome (asking : Asking) : Except Error (Option Nat) :=
  (asking.moment.fetch asking.kind).1

def stage? (asking : Asking) : Option Nat :=
  match asking.outcome with
  | .ok stage => stage
  | .error _ => none

/-- The time has come to ask: no start has been completed, the slot is empty, and the kind is
enabled. -/
structure IsDue (asking : Asking) : Prop where
  state : asking.moment.context.state ∈ [.uninitialized, .starting]
  slot : (asking.moment.context.slot asking.kind).stage = none
  enabled : asking.moment.context.options.enables asking.kind = true

theorem isDue {asking : Asking} (wants : asking.moment.context.Wants asking.kind) :
    asking.IsDue := by
  obtain ⟨empty, enabled, early⟩ := (asking.moment.context.wants_iff asking.kind).mp wants
  refine ⟨?_, empty, enabled⟩
  generalize asking.moment.context.state = state at early ⊢
  cases state <;> first | decide | cases early

end Asking

namespace Host

def stageCount (host : Host) : Nat := host.wrappers.length + host.dispatches.length

variable {host made before after : Host} {kind : StageKind} {index : Nat}

theorem Makes.events (makes : host.Makes kind index made) :
    made.journal.events = host.journal.events ++ [.requested kind] := by
  cases makes with
  | wrapper optional line wrapper => exact Journal.events_note ..
  | dispatch line stage => exact Journal.events_note ..

theorem Makes.stageCount (makes : host.Makes kind index made) :
    made.stageCount = host.stageCount + 1 := by
  cases makes with
  | wrapper optional line wrapper =>
      simp only [Host.stageCount, Host.addWrapper, Host.note, List.length_append,
        List.length_singleton]
      omega
  | dispatch line stage =>
      simp only [Host.stageCount, Host.addDispatch, Host.note, List.length_append,
        List.length_singleton]
      omega

theorem Unasked.stageCount (unasked : before.Unasked after) :
    after.stageCount = before.stageCount := by
  have wrappers := congrArg List.length unasked.wrappers
  have dispatches := congrArg List.length unasked.stages
  rw [List.length_map, List.length_map] at wrappers dispatches
  rw [Host.stageCount, wrappers, dispatches, Host.stageCount]

end Host

namespace Deployment

variable {deployment before middle after : Deployment} {kind : StageKind}

/-- How the factory is asked when the stage of a kind is fetched. -/
def asks (deployment : Deployment) (kind : StageKind) : List Asking :=
  if deployment.context.Wants kind then [⟨kind, deployment⟩] else []

/-- Fetches the stages of some kinds, up to the first that fails. -/
def fetchAlong : List StageKind → Deployment → Except Error Unit × Deployment
  | [], deployment => (.ok (), deployment)
  | kind :: rest, deployment =>
      match deployment.fetch kind with
      | (.error e, deployment) => (.error e, deployment)
      | (.ok _, deployment) => fetchAlong rest deployment

/-- How the factory is asked when the stages of some kinds are fetched. -/
def asksAlong : List StageKind → Deployment → List Asking
  | [], _ => []
  | kind :: rest, deployment =>
      deployment.asks kind ++
        match deployment.fetch kind with
        | (.error _, _) => []
        | (.ok _, deployment) => asksAlong rest deployment

/-- How the factory is asked during a call: by a getter for its kind, and by the beginning of a
start for every kind in turn. -/
def asksFor (deployment : Deployment) : Call → List Asking
  | .sessionStage => deployment.asks .session
  | .securityStage => deployment.asks .security
  | .dispatchStage => deployment.asks .dispatch
  | .beginStart =>
      if deployment.context.state.canMoveTo .starting then
        asksAlong StageKind.all (deployment.entered .starting)
      else []
  | _ => []

/-- How the factory is asked during a run. -/
def askings : Deployment → List Call → List Asking
  | _, [] => []
  | deployment, call :: rest =>
      deployment.asksFor call ++ (deployment.perform call).2.askings rest

theorem asks_wanted (wants : deployment.context.Wants kind) :
    deployment.asks kind = [⟨kind, deployment⟩] :=
  if_pos wants

theorem asks_settled (settled : ¬ deployment.context.Wants kind) : deployment.asks kind = [] :=
  if_neg settled

theorem asksFor_beginStart (allowed : deployment.context.state.canMoveTo .starting = true) :
    deployment.asksFor .beginStart = asksAlong StageKind.all (deployment.entered .starting) :=
  if_pos allowed

theorem asksFor_beginStart_barred
    (barred : deployment.context.state.canMoveTo .starting = false) :
    deployment.asksFor .beginStart = [] :=
  if_neg (by simp [barred])

theorem mem_asksFor_beginStart {asking : Asking} (asked : asking ∈ deployment.asksFor .beginStart) :
    deployment.context.state.canMoveTo .starting = true ∧
      asking ∈ asksAlong StageKind.all (deployment.entered .starting) := by
  cases allowed : deployment.context.state.canMoveTo .starting with
  | false =>
      rw [asksFor_beginStart_barred allowed] at asked
      cases asked
  | true =>
      rw [asksFor_beginStart allowed] at asked
      exact ⟨rfl, asked⟩

theorem asksFor_setting (deployment : Deployment) {call : Call}
    {setting : StageKind × Option Nat} (sets : call.setting? = some setting) :
    deployment.asksFor call = [] := by
  cases call <;> first | rfl | cases sets

/-! ## The beginning of a start -/

/-- A step that begins with another one: it asks for no more stages, and fails as that one does. -/
structure GoesOn (first whole : Except Error Unit × Deployment) : Prop where
  unasked : first.2.Unasked whole.2
  failed : ∀ e, first.1 = .error e → whole.1 = .error e

theorem GoesOn.refl (step : Except Error Unit × Deployment) : GoesOn step step :=
  ⟨.refl _, fun _ => id⟩

theorem installPipeline_goesOn (deployment : Deployment) :
    GoesOn (fetchAlong StageKind.all deployment) deployment.installPipeline := by
  unfold installPipeline
  cases one : deployment.sessionStage with
  | mk result first =>
  cases result with
  | error e =>
      simp only [StageKind.all, fetchAlong, fetch, one]
      exact .refl _
  | ok session =>
  cases two : first.securityStage with
  | mk result second =>
  cases result with
  | error e =>
      simp only [StageKind.all, fetchAlong, fetch, one, two]
      exact .refl _
  | ok security =>
  cases three : second.dispatchStage with
  | mk result ready =>
  cases result with
  | error e =>
      simp only [StageKind.all, fetchAlong, fetch, one, two, three]
      exact .refl _
  | ok found =>
  simp only [StageKind.all, fetchAlong, fetch, one, two, three]
  cases found with
  | none => exact ⟨.refl _, nofun⟩
  | some dispatch => exact ⟨ready.install_unasked _, nofun⟩

theorem setUp_goesOn (deployment : Deployment) :
    GoesOn (fetchAlong StageKind.all deployment) deployment.setUp := by
  have installed := deployment.installPipeline_goesOn
  unfold setUp
  generalize deployment.installPipeline = step at installed ⊢
  obtain ⟨result, ready⟩ := step
  cases result with
  | error e => exact installed
  | ok _ =>
      refine ⟨installed.unasked.trans ready.runHooks_spec.unasked, fun e failed => ?_⟩
      cases installed.failed e failed

theorem beginStart_goesOn (allowed : deployment.context.state.canMoveTo .starting = true) :
    GoesOn (fetchAlong StageKind.all (deployment.entered .starting)) deployment.beginStart := by
  have goesOn := setUp_goesOn (deployment.entered .starting)
  have state := (setUp_spec (deployment.entered .starting) rfl).active
  rw [beginStart, move_allowed allowed]
  dsimp only
  generalize (deployment.entered .starting).setUp = step at goesOn state ⊢
  obtain ⟨result, ready⟩ := step
  cases result with
  | error e =>
      have active := canMoveTo_failed_of_active (List.mem_cons.mpr (.inl state))
      exact ⟨goesOn.unasked.trans (abortStart_unasked active), goesOn.failed⟩
  | ok _ => exact goesOn

/-! ## Readings of what is asked -/

/-- What can be said of two deployments and of how the factory is asked in between: it holds of a
fetch, passes over what asks for no stage, and can be put together. -/
structure Reading (Holds : Deployment → List Asking → Deployment → Prop) : Prop where
  unasked : ∀ {before after}, before.Unasked after → Holds before [] after
  fetched : ∀ deployment kind,
    Holds deployment (deployment.asks kind) (deployment.fetch kind).2
  trans : ∀ {before middle after first second}, Holds before first middle →
    Holds middle second after → Holds before (first ++ second) after

namespace Reading

variable {Holds : Deployment → List Asking → Deployment → Prop} (reading : Reading Holds)
include reading

theorem fetchAlong (kinds : List StageKind) (deployment : Deployment) :
    Holds deployment (asksAlong kinds deployment) (fetchAlong kinds deployment).2 := by
  induction kinds generalizing deployment with
  | nil => exact reading.unasked (.refl _)
  | cons kind rest ih =>
      have first := reading.fetched deployment kind
      unfold asksAlong Deployment.fetchAlong
      generalize deployment.fetch kind = step at first ⊢
      obtain ⟨result, next⟩ := step
      cases result with
      | error e =>
          dsimp only
          rw [List.append_nil]
          exact first
      | ok stage => exact reading.trans first (ih next)

theorem beginStart (deployment : Deployment) :
    Holds deployment (deployment.asksFor .beginStart) deployment.beginStart.2 := by
  cases allowed : deployment.context.state.canMoveTo .starting with
  | false =>
      rw [asksFor_beginStart_barred allowed, Deployment.beginStart, move_barred allowed]
      exact reading.unasked (.refl _)
  | true =>
      rw [asksFor_beginStart allowed]
      have entered := reading.unasked (deployment.entered_unasked .starting)
      have fetched := reading.fetchAlong StageKind.all (deployment.entered .starting)
      have ended := reading.unasked (beginStart_goesOn allowed).unasked
      have whole := reading.trans (reading.trans entered fetched) ended
      rwa [List.nil_append, List.append_nil] at whole

/-- It holds of every call that is no setter of a stage. -/
theorem perform (deployment : Deployment) {call : Call} (noSetter : call.setting? = none) :
    Holds deployment (deployment.asksFor call) (deployment.perform call).2 := by
  cases call with
  | beginStart => exact reading.beginStart deployment
  | sessionStage => exact reading.fetched deployment .session
  | securityStage => exact reading.fetched deployment .security
  | dispatchStage => exact reading.fetched deployment .dispatch
  | setSessionStage | setSecurityStage | setDispatchStage => cases noSetter
  | _ =>
      refine reading.unasked (deployment.perform_unasked rfl rfl ?_)
      nofun

end Reading

/-! ## What the journal tells -/

/-- From one host to a later one, the factory has been asked like this and in no other way. -/
inductive Asked : Host → List Asking → Host → Prop
  | idle {before after : Host} (unasked : before.Unasked after) : Asked before [] after
  | asked (asking : Asking) (wants : asking.moment.context.Wants asking.kind) :
      Asked asking.moment.host [asking] (asking.moment.fetch asking.kind).2.host
  | trans {before middle after : Host} {first second : List Asking}
      (begun : Asked before first middle) (ended : Asked middle second after) :
      Asked before (first ++ second) after

namespace Asked

variable {before middle after : Host} {askings : List Asking}

/-- The journal goes on with the request itself. -/
theorem events_of_wants {asking : Asking} (wants : asking.moment.context.Wants asking.kind) :
    (asking.moment.fetch asking.kind).2.host.journal.events =
      asking.moment.host.journal.events ++ [.requested asking.kind] := by
  obtain ⟨e, line, refused⟩ | ⟨index, host, makes, made⟩ := fetch_of_wants wants
  · rw [refused]
    exact Journal.events_note ..
  · rw [made]
    exact makes.events

theorem continues (asked : Asked before askings after) :
    before.journal.Continues after.journal := by
  induction asked with
  | idle unasked => exact unasked.journal.continues
  | asked asking wants => exact ⟨_, events_of_wants wants, fun _ _ => trivial⟩
  | trans begun ended first second => exact first.trans second

/-- The requests in the journal are those of the askings, in order. -/
theorem requests (asked : Asked before askings after) :
    after.journal.events.filter Event.isRequest =
      before.journal.events.filter Event.isRequest ++ askings.map (Event.requested ·.kind) := by
  induction asked with
  | idle unasked =>
      obtain ⟨added, grown, silent⟩ := unasked.journal
      have nothing : added.filter Event.isRequest = [] :=
        List.filter_eq_nil_iff.mpr fun event member => by simp [silent event member]
      rw [grown, List.filter_append, nothing, List.map_nil]
  | asked asking wants =>
      rw [events_of_wants wants, List.filter_append]
      rfl
  | trans begun ended first second =>
      rw [second, first, List.map_append, List.append_assoc]

/-- Each asking was due, and the journal tells of it right after its moment. -/
theorem moments (asked : Asked before askings after) : ∀ asking ∈ askings,
    asking.IsDue ∧ ∃ earlier later,
      asking.moment.host.journal.events = before.journal.events ++ earlier ∧
      after.journal.events =
        asking.moment.host.journal.events ++ .requested asking.kind :: later := by
  induction asked with
  | idle unasked => exact fun _ member => absurd member List.not_mem_nil
  | asked asking wants =>
      intro other member
      rw [List.mem_singleton.mp member]
      exact ⟨asking.isDue wants, [], [], (List.append_nil _).symm, events_of_wants wants⟩
  | trans begun ended first second =>
      intro asking member
      rcases List.mem_append.mp member with early | late
      · obtain ⟨due, earlier, later, here, there⟩ := first asking early
        obtain ⟨added, grown, -⟩ := ended.continues
        refine ⟨due, earlier, later ++ added, here, ?_⟩
        rw [grown, there, List.append_assoc, List.cons_append]
      · obtain ⟨due, earlier, later, here, there⟩ := second asking late
        obtain ⟨added, grown, -⟩ := begun.continues
        refine ⟨due, added ++ earlier, later, ?_, there⟩
        rw [here, grown, List.append_assoc]

/-- There is one more stage for each request that was granted. -/
theorem stageCount (asked : Asked before askings after) :
    after.stageCount = before.stageCount + (askings.filterMap Asking.stage?).length := by
  induction asked with
  | idle unasked => exact unasked.stageCount
  | asked asking wants =>
      obtain ⟨e, line, refused⟩ | ⟨index, host, makes, made⟩ := fetch_of_wants wants
      · have nothing : asking.stage? = none := by simp [Asking.stage?, Asking.outcome, refused]
        rw [refused, List.filterMap_cons_none nothing]
        rfl
      · have granted : asking.stage? = some index := by
          simp [Asking.stage?, Asking.outcome, made]
        rw [made, List.filterMap_cons_some granted]
        exact makes.stageCount
  | trans begun ended first second =>
      rw [second, first, List.filterMap_append, List.length_append, Nat.add_assoc]

end Asked

/-! ## What is asked during calls -/

theorem fetch_asked (deployment : Deployment) (kind : StageKind) :
    Asked deployment.host (deployment.asks kind) (deployment.fetch kind).2.host := by
  by_cases wants : deployment.context.Wants kind
  · rw [asks_wanted wants]
    exact .asked ⟨kind, deployment⟩ wants
  · rw [asks_settled wants, fetch_of_not_wants wants]
    exact .idle (.refl _)

theorem asked_reading :
    Reading fun before askings after => Asked before.host askings after.host where
  unasked unasked := .idle unasked.host
  fetched := fetch_asked
  trans := .trans

/-- A setter of a stage does not ask for one. -/
theorem perform_setting_unasked (deployment : Deployment) {call : Call} {set : StageKind}
    {stage : Option Nat} (sets : call.setting? = some (set, stage)) :
    deployment.host.Unasked (deployment.perform call).2.host := by
  obtain ⟨e, refused⟩ | accepted := deployment.perform_setting sets
  · rw [refused]
    exact .refl _
  · rw [accepted]
    exact .refl _

/-- During a call the factory is asked as described, and in no other way. -/
theorem perform_asked (deployment : Deployment) (call : Call) :
    Asked deployment.host (deployment.asksFor call) (deployment.perform call).2.host := by
  cases sets : call.setting? with
  | none => exact asked_reading.perform deployment sets
  | some setting =>
      rw [deployment.asksFor_setting sets]
      exact .idle (deployment.perform_setting_unasked sets)

theorem runCalls_asked (calls : List Call) (deployment : Deployment) :
    Asked deployment.host (deployment.askings calls) (deployment.runCalls calls).host := by
  induction calls generalizing deployment with
  | nil => exact .idle (.refl _)
  | cons call rest ih => exact (deployment.perform_asked call).trans (ih _)

end Deployment

end RequestPipeline
