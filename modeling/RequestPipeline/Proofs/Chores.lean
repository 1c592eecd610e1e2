import RequestPipeline.Proofs.Increments
import RequestPipeline.Proofs.Jobs
import RequestPipeline.Proofs.Tenancy

/-!
# Chores and lives

What a call under way has yet to do fits who is alive and where the routing is, at every point of
it.  Each chore keeps this, and keeps every registration to the order of its lives: nothing is
routed before all of it has been initialised, and nothing is destroyed before the routing is gone.
-/

namespace RequestPipeline

/-- A succession of lives goes on with another one where it has ended. -/
theorem Lives.append {first later : List (InstanceId × Moment)} {alive : Option InstanceId}
    (ended : Lives first none) (lives : Lives later alive) : Lives (first ++ later) alive := by
  induction lives with
  | new =>
      rw [List.append_nil]
      exact ended
  | call lives turn ih =>
      rw [← List.append_assoc]
      exact .call ih turn

theorem Living.append {alive : List Participant} {first later : List Event}
    (ended : Living [] first) (living : Living alive later) : Living alive (first ++ later) := by
  intro role
  rw [callsTo_append]
  exact (ended role).append (living role)

abbrev Place := Option (Nat × RoutingTable)

/-- Those who are alive while a stage is routed, the last one initialised first. -/
def residents : Place → List Participant
  | none => []
  | some (_, routing) => routing.participants.reverse

namespace Host

/-- At most one stage is routed, with routing in which no role is shared. -/
inductive Lodges (host : Host) : Place → Prop
  | vacant (unrouted : ∀ index, host.routing? index = none) : Lodges host none
  | occupied {index : Nat} {routing : RoutingTable}
      (routed : host.routing? index = some routing)
      (others : ∀ other, other ≠ index → host.routing? other = none)
      (distinct : routing.Distinct) : Lodges host (some (index, routing))

namespace Lodges

variable {before after host : Host} {place : Place}

theorem congr (lodges : before.Lodges place)
    (same : ∀ index, after.routing? index = before.routing? index) : after.Lodges place := by
  cases lodges with
  | vacant unrouted => exact .vacant fun index => (same index).trans (unrouted index)
  | occupied routed others distinct =>
      exact .occupied ((same _).trans routed)
        (fun other differs => (same other).trans (others other differs)) distinct

/-- Where the place is the same, so is the routing of every stage. -/
theorem same (here : before.Lodges place) (there : after.Lodges place) (index : Nat) :
    after.routing? index = before.routing? index := by
  cases here with
  | vacant unrouted =>
      cases there with
      | vacant vacant => rw [unrouted, vacant]
  | @occupied stage routing routed others =>
      cases there with
      | occupied found rest =>
          by_cases same : index = stage
          · rw [same, routed, found]
          · rw [others index same, rest index same]

/-- What is routed is alive as long as those alive are the residents. -/
theorem alive (lodges : host.Lodges place) {role : Role} {id : InstanceId}
    (routes : host.Routes role id) : tenant (residents place) role = some id := by
  cases lodges with
  | vacant unrouted => exact absurd routes (not_routes_of_unrouted unrouted role id)
  | occupied routed others distinct =>
      exact (routes_iff_tenant routed others distinct role id).mp routes

theorem routes (lodges : host.Lodges place) {role : Role} {id : InstanceId}
    (awake : tenant (residents place) role = some id) : host.Routes role id := by
  cases lodges with
  | vacant unrouted => cases awake
  | occupied routed others distinct =>
      exact (routes_iff_tenant routed others distinct role id).mpr awake

end Lodges

end Host

def Context.ServesAt (context : Context) (index : Nat) : Prop :=
  context.state ∈ [.started, .stopping] ∧
    ∃ pipeline, context.pipeline = some pipeline ∧ pipeline.dispatch = index

/-- What is left to do fits the place that is routed, those who are alive, and the number of
dispatch stages that there are. -/
inductive Planned (context : Context) (stages : Nat) :
    List Chore → Place → List Participant → Prop
  | resting (coherent : context.Coherent) : Planned context stages [] none []
  | serving {index : Nat} {routing : RoutingTable} (coherent : context.Coherent)
      (serves : context.ServesAt index) :
      Planned context stages [] (some (index, routing)) (residents (some (index, routing)))
  | init {participant : Participant} {rest : List Chore} {alive : List Participant}
      (active : context.state.canMoveTo .failed = true)
      (distinct : ((participant :: alive).map (·.role)).Nodup)
      (next : Planned context stages rest none (participant :: alive)) :
      Planned context stages (.init participant alive :: rest) none alive
  | install {index : Nat} {routing : RoutingTable} (coherent : context.Coherent)
      (serves : context.ServesAt index) (there : index < stages) (distinct : routing.Distinct) :
      Planned context stages [.install index routing] none (residents (some (index, routing)))
  | withdraw {pipeline : Pipeline} {place : Place} (coherent : context.Coherent)
      (here : ∀ index routing, place = some (index, routing) → index = pipeline.dispatch) :
      Planned context stages [.withdraw pipeline.dispatch, .unlink pipeline] place (residents place)
  | destroy {participant : Participant} {rest : List Chore} {alive : List Participant}
      (fresh : participant.role ∉ alive.map (·.role))
      (next : Planned context stages rest none alive) :
      Planned context stages (.destroy participant :: rest) none (participant :: alive)
  | abort (e : Error) (active : context.state.canMoveTo .failed = true) :
      Planned context stages [.abort e] none []
  | unlink (pipeline : Pipeline) (coherent : context.Coherent) :
      Planned context stages [.unlink pipeline] none []

namespace Planned

variable {context : Context} {stages : Nat} {chores rest : List Chore} {place : Place}
  {alive done participants : List Participant}

/-- While a stage is routed, those alive are all that its routing lists. -/
theorem alive_of_routed {index : Nat} {routing : RoutingTable}
    (planned : Planned context stages chores (some (index, routing)) alive) :
    alive = residents (some (index, routing)) := by
  cases planned <;> rfl

/-- Whatever is routed is alive. -/
theorem awake {host : Host} (planned : Planned context stages chores place alive)
    (lodges : host.Lodges place) {role : Role} {id : InstanceId} (routes : host.Routes role id) :
    tenant alive role = some id := by
  have resident := lodges.alive routes
  cases lodges with
  | vacant unrouted => cases resident
  | occupied routed others distinct =>
      rw [planned.alive_of_routed]
      exact resident

/-- Between two calls those alive are the residents, and outside of serving there are none. -/
theorem settled (planned : Planned context stages [] place alive) : alive = residents place := by
  cases planned <;> rfl

theorem coherent (planned : Planned context stages [] place alive) : context.Coherent := by
  cases planned with
  | resting coherent => exact coherent
  | serving coherent serves => exact coherent

theorem vacant (planned : Planned context stages [] place alive)
    (idle : context.state ∉ [.started, .stopping]) : place = none := by
  cases planned with
  | resting coherent => rfl
  | serving coherent serves => exact absurd serves.1 idle

theorem destroys (distinct : (alive.map (·.role)).Nodup)
    (planned : Planned context stages rest none []) :
    Planned context stages (alive.map .destroy ++ rest) none alive := by
  induction alive with
  | nil => exact planned
  | cons participant alive ih =>
      obtain ⟨fresh, others⟩ := List.nodup_cons.mp distinct
      exact .destroy fresh (ih others)

theorem initializes (active : context.state.canMoveTo .failed = true)
    (distinct : (done.map (·.role) ++ participants.map (·.role)).Nodup)
    (planned : Planned context stages rest none (participants.reverse ++ done)) :
    Planned context stages (initializeFrom done participants ++ rest) none done := by
  induction participants generalizing done with
  | nil => exact planned
  | cons participant participants ih =>
      have moved : ((participant :: done).map (·.role) ++ participants.map (·.role)).Nodup :=
        List.nodup_middle.mp distinct
      rw [List.reverse_cons, List.append_assoc] at planned
      exact .init active (List.nodup_append.mp moved).1 (ih moved planned)

/-- With another context that agrees on what matters, the plan is as good. -/
theorem congr {after : Context} {more : Nat} (planned : Planned context stages [] place alive)
    (coherent : after.Coherent)
    (serves : ∀ index, context.ServesAt index → after.ServesAt index) :
    Planned after more [] place alive := by
  cases planned with
  | resting _ => exact .resting coherent
  | serving _ here => exact .serving coherent (serves _ here)

end Planned

/-- Names are distinct, what is left to do fits who is alive, and those have lived in order. -/
structure Orderly (place : Place) (chores : List Chore) (deployment : Deployment)
    (events : List Event) : Prop where
  distinct : deployment.context.registrations.declared.Distinct
  lodges : deployment.host.Lodges place
  control : ∃ alive, Planned deployment.context deployment.host.dispatches.length chores place
    alive ∧ Living alive events

/-- On a host that differs in nothing that matters, the order is the same. -/
theorem Orderly.withHost {place : Place} {chores : List Chore} {deployment : Deployment}
    {events : List Event} (orderly : Orderly place chores deployment events) {host : Host}
    (routing : ∀ index, host.routing? index = deployment.host.routing? index)
    (stages : host.dispatches.length = deployment.host.dispatches.length) :
    Orderly place chores { deployment with host := host } events := by
  obtain ⟨distinct, lodges, alive, planned, living⟩ := orderly
  refine ⟨distinct, lodges.congr routing, alive, ?_, living⟩
  rw [stages]
  exact planned

/-- Something that is no call leaves the order as it is. -/
theorem Orderly.noted {place : Place} {chores : List Chore} {deployment : Deployment}
    {events : List Event} (orderly : Orderly place chores deployment events) {event : Event}
    (line : Option String) (silent : event.isCall = false) :
    Orderly place chores { deployment with host := deployment.host.note event line }
      (events ++ [event]) := by
  obtain ⟨distinct, lodges, alive, planned, living⟩ := orderly
  refine ⟨distinct, lodges.congr fun _ => rfl, alive, planned, living.silent fun other member => ?_⟩
  rw [List.mem_singleton.mp member]
  exact silent

/-- What is routed may be called. -/
theorem Orderly.called {place : Place} {chores : List Chore} {deployment : Deployment}
    {events : List Event} (orderly : Orderly place chores deployment events) {index : Nat}
    {routing : RoutingTable} (routed : deployment.host.routing? index = some routing)
    {role : Role} {id : InstanceId} (has : routing.Has role id) {moment : Moment}
    (line : Option String) (moments : moment = .entered ∨ moment = .left) :
    Orderly place chores
      { deployment with host := deployment.host.note (.registration role id moment) line }
      (events ++ [.registration role id moment]) := by
  obtain ⟨distinct, lodges, alive, planned, living⟩ := orderly
  have awake := planned.awake lodges ⟨index, routing, routed, has⟩
  exact ⟨distinct, lodges.congr fun _ => rfl, alive, planned, living.called awake moments⟩

namespace Deployment

variable {before after deployment : Deployment} {chores rest : List Chore} {past : List Event}
  {place : Place} {alive : List Participant}

abbrev KeepsOrder (place : Place) (past : List Event) (before : Deployment)
    (reached : Job × Deployment) : Prop :=
  reached.2.host.journal.Since before.host.journal.events fun added =>
    Orderly place reached.1.chores reached.2 (past ++ added)

/-- A block of work on a vacant host, by what is known of such blocks from their beginning. -/
theorem Idle.keepsOrder (idle : after.Idle before.host.journal.events) (ended : Living [] past)
    {job : Job}
    (planned : Planned after.context after.host.dispatches.length job.chores none []) :
    KeepsOrder none past before (job, after) := by
  obtain ⟨distinct, houses⟩ := idle
  cases houses with
  | vacant unrouted since =>
      obtain ⟨added, events, living⟩ := since
      exact ⟨added, events, distinct, .vacant unrouted, [], planned, ended.append living⟩

theorem idle_of_vacant (distinct : deployment.context.registrations.declared.Distinct)
    (lodges : deployment.host.Lodges none) : deployment.Idle deployment.host.journal.events := by
  cases lodges with
  | vacant unrouted => exact ⟨distinct, .vacant unrouted ⟨[], (List.append_nil _).symm, .nil⟩⟩

theorem Idle.rests {base : List Event} (idle : deployment.Idle base) {host : Host}
    (rests : deployment.host.Rests host) : Idle base { deployment with host := host } :=
  ⟨idle.distinct, idle.houses.rests rests⟩

/-- Work that calls nobody and leaves the routing alone. -/
theorem keepsOrder_of_widens {kind : Event → Prop} {job : Job}
    (distinct : after.context.registrations.declared.Distinct)
    (lodges : before.host.Lodges place) (living : Living alive past)
    (widens : before.host.Widens kind after.host)
    (silent : ∀ event, kind event → event.isCall = false)
    (planned : Planned after.context after.host.dispatches.length job.chores place alive) :
    KeepsOrder place past before (job, after) := by
  obtain ⟨added, events, all⟩ := widens.journal
  refine ⟨added, events, distinct, lodges.congr widens.routing, alive, planned, ?_⟩
  exact living.silent fun event member => silent event (all event member)

/-! ## Beginning a call -/

theorem Aside.distinct (aside : before.Aside after)
    (distinct : before.context.registrations.declared.Distinct) :
    after.context.registrations.declared.Distinct := by
  cases aside with
  | same | kept | served => exact distinct
  | reconfigured reconfigures =>
      rcases reconfigures.registrations with same | empty
      · rw [same]
        exact distinct
      · rw [empty]
        exact RegistrationTable.distinct_empty
  | registered registers =>
      obtain ⟨-, table, grown, opened, grows, rfl⟩ := registers
      rw [opened] at distinct
      exact grows.distinct distinct
  | fetched fetch =>
      rw [fetch.refits.registrations]
      exact distinct

theorem Aside.pipeline (aside : before.Aside after) :
    after.context.pipeline = before.context.pipeline := by
  cases aside with
  | same | kept | served => rfl
  | reconfigured reconfigures => exact reconfigures.pipeline
  | registered registers =>
      obtain ⟨-, table, grown, -, -, rfl⟩ := registers
      rfl
  | fetched fetch => exact fetch.refits.pipeline

/-- A call that neither moves the life cycle nor serves a request calls nobody. -/
theorem perform_widens (deployment : Deployment) {call : Call} (resting : call.isMove = false)
    (idle : call.isServing = false) :
    deployment.host.Widens (·.isMinor = true) (deployment.perform call).2.host := by
  cases call with
  | beginStart | finishStart | beginStop | finishStop => cases resting
  | serve | serveFrom | callNamed => cases idle
  | sessionStage => exact (deployment.fetch_spec .session).widens
  | securityStage => exact (deployment.fetch_spec .security).widens
  | dispatchStage => exact (deployment.fetch_spec .dispatch).widens
  | setSessionStage | setSecurityStage | setDispatchStage | setStageFactory | setErrorHandler
  | clearRegistrations =>
      rw [perform, settle_host]
      exact .refl _
  | addUnit | addInterceptor | registerUnit | registerInterceptor | mapUnit
  | mapInterceptorToUnits =>
      rw [perform, settleWith_host]
      exact .refl _
  | resolveDispatcher | keepDispatcher => exact ⟨fun _ => rfl, .refl _⟩

theorem perform_keepsOrder (orderly : Orderly place [] deployment past) {call : Call}
    (resting : call.isMove = false) (idle : call.isServing = false) :
    KeepsOrder place past deployment
      (⟨[], (deployment.perform call).1⟩, (deployment.perform call).2) := by
  obtain ⟨distinct, lodges, alive, planned, living⟩ := orderly
  have aside := deployment.perform_aside resting
  have lifecycle := deployment.perform_lifecycle resting
  refine keepsOrder_of_widens (aside.distinct distinct) lodges living
    (deployment.perform_widens resting idle) (fun _ => Event.not_isCall_of_isMinor) ?_
  refine planned.congr (aside.step.coherent planned.coherent) ?_
  rintro index ⟨running, pipeline, installed, here⟩
  refine ⟨?_, pipeline, aside.pipeline.trans installed, here⟩
  rw [Context.state, lifecycle]
  exact running

theorem beginStop_keepsOrder (orderly : Orderly place [] deployment past) :
    KeepsOrder place past deployment
      (⟨[], (deployment.perform .beginStop).1⟩, (deployment.perform .beginStop).2) := by
  obtain ⟨distinct, lodges, alive, planned, living⟩ := orderly
  have stops := deployment.beginStop_spec
  have coherent := stops.coherent planned.coherent
  change KeepsOrder place past deployment (_, deployment.beginStop.2)
  have stopping : LifecycleState.stopping ∈ [.started, .stopping] := by decide
  generalize deployment.beginStop.1 = result at stops
  generalize deployment.beginStop.2 = after at stops coherent ⊢
  cases stops with
  | barred barred =>
      exact keepsOrder_of_widens distinct lodges living (.refl deployment.host)
        (fun _ => Event.not_isCall_of_isMinor) planned
  | bare started bare rests =>
      exact keepsOrder_of_widens distinct lodges living rests.toWidens
        (fun _ => Event.not_isCall_of_isMinor)
        (planned.congr coherent fun index serves => ⟨stopping, serves.2⟩)
  | @begun host pipeline started installed rests =>
      have stopped : deployment.host.Widens (·.isCall = false) (pipeline.stopAll host) :=
        (rests.toWidens.mono fun _ => Event.not_isCall_of_isMinor).trans
          ((Pipeline.stopEach_evolves pipeline.stages host).toWidens.mono
            fun _ => Event.not_isCall_of_isPower)
      exact keepsOrder_of_widens distinct lodges living stopped (fun _ silent => silent)
        (planned.congr coherent fun index serves => ⟨stopping, serves.2⟩)

theorem beginStart_keepsOrder (orderly : Orderly place [] deployment past) :
    KeepsOrder place past deployment (deployment.begin .beginStart) := by
  obtain ⟨distinct, lodges, alive, planned, living⟩ := orderly
  simp only [begin]
  cases allowed : deployment.context.state.canMoveTo .starting with
  | false =>
      rw [move_barred allowed]
      exact keepsOrder_of_widens distinct lodges living (.refl deployment.host)
        (fun _ => Event.not_isCall_of_isMinor) planned
  | true =>
      have settled : deployment.context.state ∉ [.started, .stopping] := by
        revert allowed
        cases deployment.context.state <;> decide
      obtain rfl := planned.vacant settled
      obtain rfl := planned.settled
      have opened := opened_of_canStart planned.coherent allowed
      have idle := (idle_of_vacant distinct lodges).entered .starting
      have setUp := setUp_spec (deployment.entered .starting) rfl
      rw [move_allowed allowed]
      dsimp only
      generalize (deployment.entered .starting).setUp = outcome at setUp ⊢
      obtain ⟨result, ready⟩ := outcome
      cases result with
      | error e =>
          refine (setUp.idle idle).keepsOrder living (.abort e ?_)
          rw [setUp.state]
          rfl
      | ok accepted =>
          exact (setUp.idle idle).keepsOrder living (.resting (setUp.coherent rfl opened))

theorem finishStop_keepsOrder (orderly : Orderly place [] deployment past) :
    KeepsOrder place past deployment (deployment.begin .finishStop) := by
  obtain ⟨distinct, lodges, alive, planned, living⟩ := orderly
  simp only [begin]
  cases allowed : deployment.context.state.canMoveTo .stopped with
  | false =>
      rw [move_barred allowed]
      exact keepsOrder_of_widens distinct lodges living (.refl deployment.host)
        (fun _ => Event.not_isCall_of_isMinor) planned
  | true =>
      have stopping := (canMoveTo_stopped_iff _).mp allowed
      obtain ⟨pipeline, installed, -⟩ := planned.coherent.piped (by simp [stopping])
      have stops : deployment.FinishStop (.ok ()) _ := .finished stopping installed
      have coherent := stops.coherent planned.coherent
      have held : (deployment.entered .stopped).context.pipeline = some pipeline := installed
      obtain rfl := planned.settled
      rw [move_allowed allowed]
      simp only [held]
      refine keepsOrder_of_widens ?_ lodges living
        (deployment.entered_rests .stopped).toWidens (fun _ => Event.not_isCall_of_isMinor)
        (.withdraw coherent ?_)
      · change deployment.context.registrations.thaw.declared.Distinct
        rw [Registrations.declared_thaw]
        exact distinct
      · rintro index routing rfl
        cases planned with
        | serving _ serves =>
            obtain ⟨-, other, there, here⟩ := serves
            cases installed.symm.trans there
            exact here.symm

/-- Routing that has been prepared is all initialised before it is put in place. -/
theorem prepareRouting_planned {context : Context} {index : Nat} {snapshot : Snapshot}
    (host : Host) (coherent : context.Coherent) (serves : context.ServesAt index)
    (distinct : ∀ errorUnit, (RoutingTable.build snapshot errorUnit).Distinct)
    (active : context.state.canMoveTo .failed = true) :
    host.Rests (host.prepareRouting index snapshot).2 ∧
      Planned context (host.prepareRouting index snapshot).2.dispatches.length
        (Job.after (host.prepareRouting index snapshot).1).chores none [] := by
  unfold Host.prepareRouting
  split
  · exact ⟨.refl host, .resting coherent⟩
  · next cell found =>
      have noted : host.Rests (host.note (.stage (.dispatch index) .finalized)
          cell.stage.finalizeLine) := .note host _ rfl
      obtain ⟨there, -⟩ := List.getElem?_eq_some_iff.mp found
      dsimp only
      split
      · exact ⟨noted, .abort _ active⟩
      · refine ⟨noted, ?_⟩
        dsimp only [Job.after]
        rw [RoutingTable.initialization_eq]
        refine .initializes active (distinct cell.errorUnit) ?_
        rw [List.append_nil]
        exact .install coherent serves there (distinct cell.errorUnit)

theorem prepare_keepsOrder (orderly : Orderly place [] deployment past)
    (starting : deployment.context.state = .starting) :
    KeepsOrder place past deployment (.after deployment.prepare.1, deployment.prepare.2) := by
  obtain ⟨distinct, lodges, alive, planned, living⟩ := orderly
  obtain rfl := planned.vacant (by simp [starting])
  obtain rfl := planned.settled
  have idle := idle_of_vacant distinct lodges
  have freeze := deployment.freeze_spec
  unfold prepare
  generalize deployment.freeze = outcome at freeze ⊢
  obtain ⟨result, ready⟩ := outcome
  cases result with
  | error e =>
      refine (freeze.idle idle).keepsOrder living (.abort e ?_)
      rw [freeze.state, starting]
      rfl
  | ok snapshot =>
      have allowed : ready.context.state.canMoveTo .started = true := by
        rw [freeze.state, starting]
        rfl
      have completed : deployment.FinishStart (.ok ()) (ready.entered .started) :=
        .finished starting (.frozen freeze .unrouted)
      have coherent := completed.coherent planned.coherent
      have entered : (ready.entered .started).Idle _ := (freeze.idle idle).entered .started
      have opened := planned.coherent.opened (by simp [starting])
      dsimp only
      rw [move_allowed allowed]
      have started : (ready.entered .started).context.state = .started := rfl
      generalize ready.entered .started = moved at coherent entered started ⊢
      dsimp only
      split
      · exact entered.keepsOrder living (.resting coherent)
      · next pipeline installed =>
          split
          · have serves : moved.context.ServesAt pipeline.dispatch :=
              ⟨by simp [started], pipeline, installed, rfl⟩
            have active : moved.context.state.canMoveTo .failed = true := by
              rw [started]
              rfl
            have handles := moved.host.setErrorHandler_rests pipeline.dispatch
              moved.context.errorUnit
            obtain ⟨rests, prepared⟩ := prepareRouting_planned
              (moved.host.setErrorHandler pipeline.dispatch moved.context.errorUnit)
              coherent serves (freeze.distinct_build opened idle) active
            exact (entered.rests (handles.trans rests)).keepsOrder living prepared
          · exact entered.keepsOrder living (.resting coherent)

theorem begin_keepsOrder (orderly : Orderly place [] deployment past) {call : Call}
    (idle : call.isServing = false) : KeepsOrder place past deployment (deployment.begin call) := by
  cases call with
  | beginStart => exact beginStart_keepsOrder orderly
  | finishStart =>
      simp only [begin]
      split
      · obtain ⟨distinct, lodges, alive, planned, living⟩ := orderly
        exact keepsOrder_of_widens distinct lodges living (.refl deployment.host)
          (fun _ => Event.not_isCall_of_isMinor) planned
      · next accepted =>
          have starting : deployment.context.state = .starting :=
            List.mem_singleton.mp (Context.require_ok_iff.mp accepted)
          exact prepare_keepsOrder orderly starting
  | beginStop => exact beginStop_keepsOrder orderly
  | finishStop => exact finishStop_keepsOrder orderly
  | serve | serveFrom | callNamed => cases idle
  | _ => exact perform_keepsOrder orderly (by rfl) idle

/-! ## Going on with a call -/

theorem init_keepsOrder {participant : Participant} {answer : Except Error Answer}
    (distinct : deployment.context.registrations.declared.Distinct)
    (lodges : deployment.host.Lodges none) (living : Living alive past)
    (active : deployment.context.state.canMoveTo .failed = true)
    (roles : ((participant :: alive).map (·.role)).Nodup)
    (next : Planned deployment.context deployment.host.dispatches.length rest none
      (participant :: alive)) :
    KeepsOrder none past deployment
      (deployment.proceed ⟨.init participant alive :: rest, answer⟩) := by
  obtain ⟨fresh, others⟩ := List.nodup_cons.mp roles
  cases started : participant.init deployment.host.journal with
  | ok accepted =>
      simp only [proceed, Participant.start, started]
      exact ⟨_, Journal.events_note .., distinct, lodges.congr fun _ => rfl, _, next,
        living.initialized fresh⟩
  | error e =>
      simp only [proceed, Participant.start, started]
      exact ⟨_, Journal.events_note .., distinct, lodges.congr fun _ => rfl, _,
        .destroys others (.abort e active), living.initFailed fresh⟩

theorem install_keepsOrder {index : Nat} {routing : RoutingTable} {answer : Except Error Answer}
    (distinct : deployment.context.registrations.declared.Distinct)
    (lodges : deployment.host.Lodges none) (living : Living routing.participants.reverse past)
    (coherent : deployment.context.Coherent) (serves : deployment.context.ServesAt index)
    (there : index < deployment.host.dispatches.length) (roles : routing.Distinct) :
    KeepsOrder (some (index, routing)) past deployment
      (deployment.proceed ⟨[.install index routing], answer⟩) := by
  cases lodges with
  | vacant unrouted =>
      have found := List.getElem?_eq_getElem there
      have empty : deployment.host.dispatches[index].routing = none := by
        have here := unrouted index
        rw [Host.routing?, found] at here
        exact here
      simp only [proceed, Host.installRouting, found, empty]
      refine ⟨[], (List.append_nil _).symm, distinct,
        .occupied (Host.routing?_updateDispatch_self found _) ?_ roles, _,
        .serving coherent serves, ?_⟩
      · intro other differs
        rw [Host.routing?_updateDispatch_other differs]
        exact unrouted other
      · rw [List.append_nil]
        exact living

theorem withdraw_keepsOrder {pipeline : Pipeline} {answer : Except Error Answer}
    (distinct : deployment.context.registrations.declared.Distinct)
    (lodges : deployment.host.Lodges place) (living : Living (residents place) past)
    (coherent : deployment.context.Coherent)
    (here : ∀ index routing, place = some (index, routing) → index = pipeline.dispatch) :
    KeepsOrder none past deployment (deployment.proceed
      ⟨[.withdraw pipeline.dispatch, .unlink pipeline], answer⟩) := by
  have bare (vacant : deployment.host.routing? pipeline.dispatch = none) : place = none := by
    cases lodges with
    | vacant unrouted => rfl
    | occupied routed others roles =>
        rw [here _ _ rfl, vacant] at routed
        cases routed
  cases found : deployment.host.dispatches[pipeline.dispatch]? with
  | none =>
      obtain rfl := bare (by rw [Host.routing?, found]; rfl)
      simp only [proceed, Host.withdrawRouting, found]
      exact keepsOrder_of_widens distinct lodges living (.refl deployment.host)
        (fun _ => Event.not_isCall_of_isMinor) (.unlink pipeline coherent)
  | some cell =>
      have noted : deployment.host.Rests (deployment.host.note
          (.stage (.dispatch pipeline.dispatch) .cleared) cell.stage.clearLine) := .note _ _ rfl
      cases held : cell.routing with
      | none =>
          obtain rfl := bare (by rw [Host.routing?, found]; exact held)
          simp only [proceed, Host.withdrawRouting, found, held]
          exact keepsOrder_of_widens distinct lodges living noted.toWidens
            (fun _ => Event.not_isCall_of_isMinor) (.unlink pipeline coherent)
      | some routing =>
          cases lodges with
          | vacant unrouted =>
              have absent := unrouted pipeline.dispatch
              rw [Host.routing?, found] at absent
              cases held.symm.trans absent
          | @occupied index listed routed others roles =>
              obtain rfl := here _ _ rfl
              rw [Host.routing?, found] at routed
              cases held.symm.trans routed
              simp only [proceed, Host.withdrawRouting, found, held, routing.destruction_eq]
              refine ⟨_, Journal.events_note .., distinct, .vacant ?_, _,
                .destroys roles.reverse (.unlink pipeline coherent), ?_⟩
              · intro other
                by_cases same : other = pipeline.dispatch
                · rw [same]
                  exact Host.routing?_updateDispatch_self found _
                · exact (Host.routing?_updateDispatch_other same _).trans (others other same)
              · refine living.silent fun event member => ?_
                rw [List.mem_singleton.mp member]
                rfl

theorem abort_keepsOrder {e : Error} {answer : Except Error Answer}
    (distinct : deployment.context.registrations.declared.Distinct)
    (lodges : deployment.host.Lodges none) (living : Living [] past)
    (active : deployment.context.state.canMoveTo .failed = true) :
    KeepsOrder none past deployment (deployment.proceed ⟨[.abort e], answer⟩) := by
  have possible : deployment.context.lifecycle.state.canMoveTo .failed = true := active
  have failed := deployment.entered_rests .failed
  cases installed : deployment.context.pipeline with
  | none =>
      simp only [proceed, Lifecycle.fail, possible, if_true, installed]
      exact keepsOrder_of_widens distinct lodges living failed.toWidens
        (fun _ => Event.not_isCall_of_isMinor)
        (.resting (Context.coherent_of_failed rfl rfl))
  | some pipeline =>
      simp only [proceed, Lifecycle.fail, possible, if_true, installed]
      have stopped : deployment.host.Widens (·.isCall = false)
          (pipeline.stopAll (deployment.entered .failed).host) :=
        (failed.toWidens.mono fun _ => Event.not_isCall_of_isMinor).trans
          ((Pipeline.stopEach_evolves pipeline.stages _).toWidens.mono
            fun _ => Event.not_isCall_of_isPower)
      refine keepsOrder_of_widens distinct lodges living stopped (fun _ silent => silent)
        (.withdraw (Context.coherent_of_failed rfl rfl) ?_)
      intro index routing vacant
      cases vacant

/-- Each chore keeps the order, and leaves a plan that fits.  Routing is exchanged on no stage while
another one is routed. -/
theorem proceed_keepsOrder {job : Job} (orderly : Orderly place job.chores deployment past) :
    ∃ next, KeepsOrder next past deployment (deployment.proceed job) ∧
      (job.exchanged = none → next = place) ∧
      ∀ stage, job.exchanged = some stage → ∀ other, other ≠ stage →
        deployment.host.routing? other = none := by
  obtain ⟨chores, answer⟩ := job
  obtain ⟨distinct, lodges, alive, planned, living⟩ := orderly
  cases planned with
  | resting coherent =>
      refine ⟨none, ?_, fun _ => rfl, nofun⟩
      exact keepsOrder_of_widens distinct lodges living (.refl deployment.host)
        (fun _ => Event.not_isCall_of_isMinor) (.resting coherent)
  | serving coherent serves =>
      refine ⟨_, ?_, fun _ => rfl, nofun⟩
      exact keepsOrder_of_widens distinct lodges living (.refl deployment.host)
        (fun _ => Event.not_isCall_of_isMinor) (.serving coherent serves)
  | init active roles next =>
      exact ⟨none, init_keepsOrder distinct lodges living active roles next, fun _ => rfl, nofun⟩
  | install coherent serves there roles =>
      refine ⟨_, install_keepsOrder distinct lodges living coherent serves there roles, nofun, ?_⟩
      cases lodges with
      | vacant unrouted => exact fun _ _ other _ => unrouted other
  | withdraw coherent here =>
      refine ⟨none, withdraw_keepsOrder distinct lodges living coherent here, nofun, ?_⟩
      rintro stage ⟨⟩ other differs
      cases lodges with
      | vacant unrouted => exact unrouted other
      | occupied routed others roles =>
          refine others other fun same => differs ?_
          exact same.trans (here _ _ rfl)
  | destroy fresh next =>
      refine ⟨none, ?_, fun _ => rfl, nofun⟩
      exact ⟨_, Journal.events_note .., distinct, lodges.congr fun _ => rfl, _, next,
        living.destroyed fresh⟩
  | abort e active =>
      exact ⟨none, abort_keepsOrder distinct lodges living active, fun _ => rfl, nofun⟩
  | unlink pipeline coherent =>
      refine ⟨none, ?_, fun _ => rfl, nofun⟩
      exact keepsOrder_of_widens distinct lodges living
        (pipeline.unlink_rests deployment.host).toWidens (fun _ => Event.not_isCall_of_isMinor)
        (.resting coherent)

end Deployment

end RequestPipeline
