import RequestPipeline.Proofs.Accounts
import RequestPipeline.Proofs.Lives

/-!
# Tenancy

At most one dispatch stage is ever routed, that of an installed pipeline, and only while the context
is started or stopping.  What its routing lists is alive, and nothing else is; so every registration
lives in order over every run, and none outlives a stop.
-/

namespace RequestPipeline

/-! ## Routings of frozen tables -/

namespace RoutingTable

theorem roles_build (snapshot : Snapshot) (errorUnit : Option (Instance ServiceUnit)) :
    (build snapshot errorUnit).participants.map (·.role) =
      (snapshot.interceptors.map Prod.fst).map Role.interceptor
        ++ (snapshot.units.map Prod.fst).map Role.unit
        ++ (errorUnit.map fun _ => Role.errorHandler).toList := by
  rw [participants, List.map_append, List.map_append]
  simp only [List.map_map]
  cases errorUnit <;> rfl

/-- The names of a table are distinct, so the participants of its routing share no role. -/
theorem distinct_build {table : RegistrationTable} (distinct : table.Distinct)
    {loader : ClassLoader} {journal later : Journal} {snapshot : Snapshot}
    (frozen : table.freeze loader journal = (.ok snapshot, later))
    (errorUnit : Option (Instance ServiceUnit)) : (build snapshot errorUnit).Distinct := by
  obtain ⟨units, interceptors⟩ := RegistrationTable.names_of_freeze frozen
  rw [Distinct, roles_build, units, interceptors]
  have interceptorRoles := distinct.interceptors.map fun _ _ => Role.interceptor.inj
  have unitRoles := distinct.units.map fun _ _ => Role.unit.inj
  have handlerRole : (errorUnit.map fun _ => Role.errorHandler).toList.Nodup := by
    cases errorUnit <;> simp
  refine List.nodup_append.mpr ⟨List.nodup_append.mpr ⟨interceptorRoles, unitRoles, ?_⟩,
    handlerRole, ?_⟩
  · intro role first other second same
    obtain ⟨name, -, rfl⟩ := List.mem_map.mp first
    obtain ⟨unit, -, rfl⟩ := List.mem_map.mp second
    cases same
  · intro role first other second same
    have handler : other = .errorHandler := by
      cases errorUnit <;> simp_all
    rcases List.mem_append.mp first with interceptor | unit
    · obtain ⟨name, -, rfl⟩ := List.mem_map.mp interceptor
      rw [handler] at same
      cases same
    · obtain ⟨name, -, rfl⟩ := List.mem_map.mp unit
      rw [handler] at same
      cases same

end RoutingTable

/-! ## Who lives on a host -/

namespace Host

/-- The dispatch stage that is routed, if there is one, and that what its routing lists is alive. -/
inductive Houses (base : List Event) (host : Host) : Option Nat → Prop
  | vacant (unrouted : ∀ index, host.routing? index = none)
      (since : host.journal.Since base (Living [])) : Houses base host none
  | occupied {index : Nat} {routing : RoutingTable}
      (routed : host.routing? index = some routing)
      (others : ∀ other, other ≠ index → host.routing? other = none)
      (distinct : routing.Distinct)
      (since : host.journal.Since base (Living routing.participants.reverse)) :
      Houses base host (some index)

namespace Houses

variable {base : List Event} {before after : Host} {place : Option Nat}

/-- What calls nobody and routes nothing anew keeps the tenancy. -/
theorem widens {kind : Event → Prop} (houses : before.Houses base place)
    (widens : before.Widens kind after) (silent : ∀ event, kind event → event.isCall = false) :
    after.Houses base place := by
  have adds := widens.journal.mono silent
  cases houses with
  | vacant unrouted since =>
      exact .vacant (fun index => (widens.routing index).trans (unrouted index))
        (since.grow adds Living.silent)
  | occupied routed others distinct since =>
      exact .occupied ((widens.routing _).trans routed)
        (fun other differs => (widens.routing other).trans (others other differs)) distinct
        (since.grow adds Living.silent)

theorem rests (houses : before.Houses base place) (rests : before.Rests after) :
    after.Houses base place :=
  houses.widens rests.toWidens fun _ => Event.not_isCall_of_isMinor

theorem power (houses : before.Houses base place)
    (evolves : before.Evolves (·.isPower = true) after) : after.Houses base place :=
  houses.widens evolves.toWidens fun _ => Event.not_isCall_of_isPower

end Houses

end Host

/-- A request calls those who are alive. -/
theorem Living.admitted {host : Host} {alive : List Participant} {events added : List Event}
    (awake : ∀ role id, host.Routes role id → tenant alive role = some id)
    (living : Living alive events) (all : ∀ event ∈ added, host.Admits event) :
    Living alive (events ++ added) := by
  induction added generalizing events with
  | nil =>
      rw [List.append_nil]
      exact living
  | cons event rest ih =>
      have first : Living alive (events ++ [event]) := by
        have admitted := all event List.mem_cons_self
        cases event with
        | registration role id moment =>
            obtain ⟨moments, routed⟩ := admitted
            exact living.called (awake role id routed) moments
        | _ =>
            refine living.silent fun other member => ?_
            rw [List.mem_singleton.mp member]
            rfl
      rw [List.append_cons]
      exact ih first fun other member => all other (List.mem_cons_of_mem _ member)

namespace Host

variable {base : List Event} {before after host : Host} {place : Option Nat}

theorem not_routes_of_unrouted (unrouted : ∀ index, host.routing? index = none) (role : Role)
    (id : InstanceId) : ¬ host.Routes role id := by
  rintro ⟨index, routing, routed, -⟩
  rw [unrouted index] at routed
  cases routed

/-- With one routing in place, those who can be called are those whom it lists. -/
theorem routes_iff_tenant {index : Nat} {routing : RoutingTable}
    (routed : host.routing? index = some routing)
    (others : ∀ other, other ≠ index → host.routing? other = none) (distinct : routing.Distinct)
    (role : Role) (id : InstanceId) :
    host.Routes role id ↔ tenant routing.participants.reverse role = some id := by
  constructor
  · rintro ⟨other, placed, found, has⟩
    by_cases same : other = index
    · rw [same, routed] at found
      cases found
      exact RoutingTable.tenant_of_has distinct has
    · rw [others other same] at found
      cases found
  · exact fun awake => ⟨index, routing, routed, RoutingTable.has_of_tenant awake⟩

theorem Houses.serves (houses : before.Houses base place) (serves : before.Serves after) :
    after.Houses base place := by
  have same := routing?_congr serves.dispatches
  cases houses with
  | vacant unrouted since =>
      refine .vacant (fun index => (same index).trans (unrouted index)) ?_
      refine since.grow serves.journal fun living all => living.admitted ?_ all
      exact fun role id routed => absurd routed (not_routes_of_unrouted unrouted role id)
  | @occupied index routing routed others distinct since =>
      refine .occupied ((same index).trans routed)
        (fun other differs => (same other).trans (others other differs)) distinct ?_
      refine since.grow serves.journal fun living all => living.admitted ?_ all
      exact fun role id => (routes_iff_tenant routed others distinct role id).mp

/-! ## Moving in and out -/

theorem routing?_updateDispatch_self {index : Nat} {cell : DispatchCell}
    (found : host.dispatches[index]? = some cell) (change : DispatchCell → DispatchCell) :
    (host.updateDispatch index change).routing? index = (change cell).routing := by
  simp [routing?, updateDispatch, found]

theorem routing?_updateDispatch_other {index other : Nat} (differs : other ≠ index)
    (change : DispatchCell → DispatchCell) :
    (host.updateDispatch index change).routing? other = host.routing? other := by
  simp [routing?, updateDispatch, Ne.symm differs]

theorem replaceRouting_houses {index : Nat} {routing : RoutingTable}
    (unrouted : ∀ other, host.routing? other = none) (distinct : routing.Distinct)
    (since : host.journal.Since base (Living routing.participants.reverse))
    {cell : DispatchCell} (found : host.dispatches[index]? = some cell) :
    (host.replaceRouting index routing).Houses base (some index) := by
  have vacant : cell.routing = none := by
    have here := unrouted index
    rw [routing?, found] at here
    exact here
  unfold replaceRouting
  simp only [found, vacant]
  refine .occupied (routing?_updateDispatch_self found _) ?_ distinct since
  intro other differs
  rw [routing?_updateDispatch_other differs]
  exact unrouted other

/-- New routing for a vacant host: all of it moves in, or none. -/
theorem finalizeRouting_houses (houses : host.Houses base none) {snapshot : Snapshot}
    (distinct : ∀ errorUnit, (RoutingTable.build snapshot errorUnit).Distinct) (index : Nat) :
    (host.finalizeRouting index snapshot).2.Houses base none ∨
      (host.finalizeRouting index snapshot).1 = .ok () ∧
        (host.finalizeRouting index snapshot).2.Houses base (some index) := by
  unfold finalizeRouting
  split
  · exact Or.inl houses
  · next cell found =>
      have noted : (host.note (.stage (.dispatch index) .finalized)
          cell.stage.finalizeLine).Houses base none := by
        refine houses.rests (.note host _ ?_)
        rfl
      dsimp only
      split
      · exact Or.inl noted
      · obtain ⟨unrouted, since⟩ := noted
        split
        · next failed =>
            exact Or.inl (.vacant unrouted (RoutingTable.initAll_failed (distinct _) since failed))
        · next started =>
            have living := RoutingTable.initAll_living (distinct _) since started
            exact Or.inr ⟨rfl, replaceRouting_houses unrouted (distinct _) living found⟩

/-- Clearing the stage that is routed leaves nobody alive. -/
theorem clearRouting_houses {index : Nat} (houses : host.Houses base place)
    (here : ∀ other, place = some other → other = index) :
    (host.clearRouting index).Houses base none := by
  cases houses with
  | vacant unrouted since =>
      unfold clearRouting
      split
      · exact .vacant unrouted since
      · next cell found =>
          have vacant : cell.routing = none := by
            have here := unrouted index
            rw [routing?, found] at here
            exact here
          simp only [vacant]
          refine (Houses.vacant unrouted since).rests (.note host _ ?_)
          rfl
  | @occupied place routing routed others distinct since =>
      obtain rfl := here place rfl
      obtain ⟨cell, found, held⟩ := Option.bind_eq_some_iff.mp routed
      have noted : (host.note (.stage (.dispatch place) .cleared)
          cell.stage.clearLine).Houses base (some place) := by
        refine (Houses.occupied routed others distinct since).rests (.note host _ ?_)
        rfl
      simp only [clearRouting, found, held]
      refine .vacant ?_ (RoutingTable.destroyAll_living distinct ?_)
      · intro other
        by_cases same : other = place
        · rw [same]
          exact routing?_updateDispatch_self found _
        · exact (routing?_updateDispatch_other same _).trans (others other same)
      · have adds : Journal.Adds (·.isCall = false) host.journal (host.journal.note
            (.stage (.dispatch place) .cleared) cell.stage.clearLine) := .note host.journal _ rfl
        exact since.grow adds Living.silent

end Host

namespace Deployment

/-- Names are distinct, and a dispatch stage is routed only while the context serves and its
pipeline has that stage. -/
structure Tended (base : List Event) (deployment : Deployment) : Prop where
  distinct : deployment.context.registrations.declared.Distinct
  houses : ∃ place, deployment.host.Houses base place ∧ ∀ index, place = some index →
    deployment.context.state ∈ [.started, .stopping] ∧
      ∃ pipeline, deployment.context.pipeline = some pipeline ∧ pipeline.dispatch = index

variable {base : List Event} {before after deployment : Deployment}

namespace Tended

/-- Outside of serving, nobody is at home. -/
theorem vacant (tended : deployment.Tended base)
    (idle : deployment.context.state ∉ [.started, .stopping]) :
    deployment.host.Houses base none := by
  obtain ⟨place, houses, serving⟩ := tended.houses
  cases place with
  | none => exact houses
  | some index => exact absurd (serving index rfl).1 idle

/-- A step on the host alone that keeps the tenancy. -/
theorem moves {host : Host} (tended : deployment.Tended base)
    (keeps : ∀ place, deployment.host.Houses base place → host.Houses base place) :
    Tended base { deployment with host := host } := by
  obtain ⟨distinct, place, houses, serving⟩ := tended
  exact ⟨distinct, place, keeps place houses, serving⟩

end Tended

/-! ## Setting up and giving up -/

theorem Fetch.tended {kind : StageKind} {result : Except Error (Option Nat)}
    (fetch : before.Fetch kind result after) (tended : before.Tended base) :
    after.Tended base := by
  obtain ⟨distinct, place, houses, serving⟩ := tended
  refine ⟨?_, place, houses.widens fetch.widens fun _ => Event.not_isCall_of_isMinor, ?_⟩
  · rw [fetch.refits.registrations]
    exact distinct
  · rw [fetch.refits.state, fetch.refits.pipeline]
    exact serving

/-- Names are distinct and nobody is at home. -/
structure Idle (base : List Event) (deployment : Deployment) : Prop where
  distinct : deployment.context.registrations.declared.Distinct
  houses : deployment.host.Houses base none

theorem Tended.idle (tended : deployment.Tended base)
    (settled : deployment.context.state ∉ [.started, .stopping]) : deployment.Idle base :=
  ⟨tended.distinct, tended.vacant settled⟩

theorem Idle.tended (idle : deployment.Idle base) : deployment.Tended base :=
  ⟨idle.distinct, none, idle.houses, nofun⟩

theorem Idle.entered (idle : deployment.Idle base) (target : LifecycleState) :
    (deployment.entered target).Idle base :=
  ⟨idle.distinct, idle.houses.rests (deployment.entered_rests target)⟩

theorem Fetches.idle (fetches : before.Fetches after) (idle : before.Idle base) :
    after.Idle base := by
  refine ⟨?_, idle.houses.widens fetches.widens fun _ => Event.not_isCall_of_isMinor⟩
  rw [fetches.refits.registrations]
  exact idle.distinct

theorem RunHooks.idle {result : Except Error Unit} (hooks : before.RunHooks result after)
    (idle : before.Idle base) : after.Idle base := by
  cases hooks with
  | hookless none => exact idle
  | closed closed => exact idle
  | ran opened grows adds =>
      have distinct := idle.distinct
      rw [opened] at distinct
      have remarked : Host.Widens (· = .remark) before.host _ :=
        (Host.Evolves.withJournal _ adds).toWidens
      refine ⟨grows.distinct distinct, idle.houses.widens remarked ?_⟩
      rintro event rfl
      rfl

theorem SetUp.idle {result : Except Error Unit} (setUp : before.SetUp result after)
    (idle : before.Idle base) : after.Idle base := by
  have installed {ready : Deployment} {pipeline : Pipeline} {outcome : Except Error Unit × Host}
      (fetches : before.Fetches ready)
      (started : pipeline.startAll (pipeline.assemble ready.host) = outcome) :
      (ready.withPipeline pipeline outcome.2).Idle base := by
    have fetched := fetches.idle idle
    refine ⟨fetched.distinct, ?_⟩
    have assembled := fetched.houses.rests (pipeline.assemble_rests ready.host)
    rw [← started]
    exact assembled.power (pipeline.startAll_evolves _)
  cases setUp with
  | unfurnished fetches => exact fetches.idle idle
  | refused fetches chains outcome => exact installed fetches outcome
  | hooked fetches chains outcome hooks => exact hooks.idle (installed fetches outcome)

theorem takenDown_houses (houses : deployment.host.Houses base none) :
    deployment.takenDown.Houses base none := by
  unfold takenDown
  split
  · exact houses
  · next pipeline _ =>
      have stopped := houses.power (Pipeline.stopEach_evolves pipeline.stages deployment.host)
      exact (Host.clearRouting_houses stopped nofun).rests (pipeline.unlink_rests _)

theorem abortStart_idle (active : deployment.context.state.canMoveTo .failed = true)
    (idle : deployment.Idle base) : deployment.abortStart.Idle base := by
  rw [abortStart_eq active]
  exact ⟨idle.distinct, takenDown_houses (idle.entered .failed).houses⟩

theorem BeginStart.tended {result : Except Error Unit} (begins : before.BeginStart result after)
    (tended : before.Tended base) : after.Tended base := by
  have entered (allowed : before.context.state.canMoveTo .starting = true) :
      (before.entered .starting).Idle base := by
    refine (tended.idle ?_).entered .starting
    revert allowed
    cases before.context.state <;> decide
  cases begins with
  | barred barred => exact tended
  | failed allowed setUp =>
      refine (abortStart_idle ?_ (setUp.idle (entered allowed))).tended
      rw [setUp.state]
      rfl
  | begun allowed setUp => exact (setUp.idle (entered allowed)).tended

/-! ## Serving -/

theorem Freeze.idle {result : Except Error Snapshot} (freeze : before.Freeze result after)
    (idle : before.Idle base) : after.Idle base := by
  have houses {table : RegistrationTable} {outcome : Except Error Snapshot × Journal}
      (frozen : table.freeze before.context.loader before.host.journal = outcome) :
      ({ before.host with journal := outcome.2 } : Host).Houses base none := by
    have adds := table.freeze_adds before.context.loader before.host.journal
    rw [frozen] at adds
    exact idle.houses.rests (.withJournal _ adds)
  cases freeze with
  | failed opened outcome => exact ⟨idle.distinct, houses outcome⟩
  | frozen opened outcome =>
      refine ⟨?_, houses outcome⟩
      have distinct := idle.distinct
      rw [opened] at distinct
      change (Snapshot.table _).Distinct
      rw [RegistrationTable.table_of_freeze outcome]
      exact distinct
  | already frozen => exact idle

/-- A snapshot made of open registrations gives a routing in which no role is shared. -/
theorem Freeze.distinct_build {snapshot : Snapshot} (freeze : before.Freeze (.ok snapshot) after)
    (opened : ∃ table, before.context.registrations = .opened table) (idle : before.Idle base)
    (errorUnit : Option (Instance ServiceUnit)) :
    (RoutingTable.build snapshot errorUnit).Distinct := by
  cases freeze with
  | frozen opened outcome =>
      have distinct := idle.distinct
      rw [opened] at distinct
      exact RoutingTable.distinct_build distinct outcome errorUnit
  | already frozen =>
      obtain ⟨table, held⟩ := opened
      cases frozen.symm.trans held

/-- Routing is the last thing that a start does, so a start that fails leaves nobody at home. -/
theorem Complete.tended {result : Except Error Unit} (complete : before.Complete result after)
    (opened : ∃ table, before.context.registrations = .opened table) (idle : before.Idle base) :
    after.Idle base ∨ result = .ok () ∧ after.Tended base := by
  cases complete with
  | unfrozen freeze => exact Or.inl (freeze.idle idle)
  | @frozen ready after snapshot result freeze route =>
      have frozen := (freeze.idle idle).entered .started
      cases route with
      | unrouted => exact Or.inl frozen
      | @routed pipeline result host installed outcome =>
          have prepared := frozen.houses.rests ((ready.entered .started).host.setErrorHandler_rests
            pipeline.dispatch (ready.entered .started).context.errorUnit)
          have moved := Host.finalizeRouting_houses prepared
            (freeze.distinct_build opened idle) pipeline.dispatch
          rw [outcome] at moved
          rcases moved with vacant | ⟨accepted, occupied⟩
          · exact Or.inl ⟨frozen.distinct, vacant⟩
          · refine Or.inr ⟨accepted, frozen.distinct, _, occupied, ?_⟩
            rintro index same
            exact ⟨List.mem_cons_self, pipeline, installed, Option.some.inj same⟩

theorem FinishStart.tended {result : Except Error Unit}
    (finishes : before.FinishStart result after) (coherent : before.context.Coherent)
    (tended : before.Tended base) : after.Tended base := by
  cases finishes with
  | barred barred => exact tended
  | @failed ready e starting complete =>
      have opened := coherent.opened (by simp [starting])
      rcases complete.tended opened (tended.idle (by simp [starting])) with idle | ⟨accepted, -⟩
      · refine (abortStart_idle ?_ idle).tended
        have active := (complete.keeps starting).2.2
        revert active
        cases ready.context.state <;> decide
      · cases accepted
  | finished starting complete =>
      have opened := coherent.opened (by simp [starting])
      rcases complete.tended opened (tended.idle (by simp [starting])) with idle | ⟨-, tended⟩
      · exact idle.tended
      · exact tended

theorem BeginStop.tended {result : Except Error Unit} (begins : before.BeginStop result after)
    (tended : before.Tended base) : after.Tended base := by
  have stopping : LifecycleState.stopping ∈ [.started, .stopping] := by decide
  cases begins with
  | barred barred => exact tended
  | bare started bare rests =>
      obtain ⟨distinct, place, houses, serving⟩ := tended
      exact ⟨distinct, place, houses.rests rests,
        fun index same => ⟨stopping, (serving index same).2⟩⟩
  | @begun host pipeline started installed rests =>
      obtain ⟨distinct, place, houses, serving⟩ := tended
      have stopped := (houses.rests rests).power (Pipeline.stopEach_evolves pipeline.stages host)
      exact ⟨distinct, place, stopped, fun index same => ⟨stopping, (serving index same).2⟩⟩

theorem FinishStop.tended {result : Except Error Unit} (finishes : before.FinishStop result after)
    (coherent : before.context.Coherent) (tended : before.Tended base) : after.Tended base := by
  cases finishes with
  | barred barred => exact tended
  | bare stopping bare =>
      have installed := coherent.installed.mpr (by simp [stopping])
      rw [bare] at installed
      cases installed
  | @finished pipeline stopping installed =>
      obtain ⟨distinct, place, houses, serving⟩ := tended
      have cleared : ((before.entered .stopped).host.clearRouting pipeline.dispatch).Houses
          base none := by
        refine Host.clearRouting_houses (houses.rests (before.entered_rests .stopped)) ?_
        intro index same
        obtain ⟨-, other, held, here⟩ := serving index same
        rw [installed] at held
        cases held
        exact here.symm
      refine Idle.tended ⟨?_, cleared.rests (pipeline.unlink_rests _)⟩
      change before.context.registrations.thaw.declared.Distinct
      rw [Registrations.declared_thaw]
      exact distinct

theorem Step.tended (step : before.Step after) (coherent : before.context.Coherent)
    (tended : before.Tended base) : after.Tended base := by
  cases step with
  | same => exact tended
  | reconfigured reconfigures =>
      obtain ⟨distinct, place, houses, serving⟩ := tended
      refine ⟨?_, place, houses, ?_⟩
      · rcases reconfigures.registrations with same | empty
        · rw [same]
          exact distinct
        · rw [empty]
          exact RegistrationTable.distinct_empty
      · rw [reconfigures.state, reconfigures.pipeline]
        exact serving
  | registered registers =>
      obtain ⟨-, table, grown, opened, grows, rfl⟩ := registers
      obtain ⟨distinct, place, houses, serving⟩ := tended
      rw [opened] at distinct
      exact ⟨grows.distinct distinct, place, houses, serving⟩
  | fetched fetch => exact fetch.tended tended
  | kept key dispatcher =>
      refine tended.moves fun place houses => ?_
      exact houses.rests ⟨⟨fun _ => rfl, .refl _⟩, rfl, rfl⟩
  | served serves => exact tended.moves fun place houses => houses.serves serves
  | startBegun begins => exact begins.tended tended
  | startFinished finishes => exact finishes.tended coherent tended
  | stopBegun begins => exact begins.tended tended
  | stopFinished finishes => exact finishes.tended coherent tended

/-- The tenancy is kept over every run of a new context whose host has no routing yet. -/
theorem runCalls_tended {context : Context} (new : context.IsNew) {host : Host}
    (unrouted : ∀ index, host.routing? index = none) (calls : List Call) :
    (runCalls ⟨context, host⟩ calls).Tended host.journal.events := by
  have initial : (⟨context, host⟩ : Deployment).Idle host.journal.events := by
    refine ⟨?_, .vacant unrouted ⟨[], (List.append_nil _).symm, .nil⟩⟩
    rw [new.registrations]
    exact RegistrationTable.distinct_empty
  have keeps {before after : Deployment} (step : before.Step after)
      (holds : before.context.Coherent ∧ before.Tended host.journal.events) :
      after.context.Coherent ∧ after.Tended host.journal.events :=
    ⟨step.coherent holds.1, step.tended holds.1 holds.2⟩
  exact (runCalls_keeps keeps calls ⟨new.coherent, initial.tended⟩).2

/-- Over every run of a new context, each registration lives in order: it is initialised, serves and
is destroyed, any number of times.  Those alive are those that can be reached, and outside of
serving there are none. -/
theorem registrations_live_in_order {context : Context} (new : context.IsNew) {host : Host}
    (unrouted : ∀ index, host.routing? index = none) (calls : List Call) :
    let reached := runCalls ⟨context, host⟩ calls
    ∃ added, reached.host.journal.events = host.journal.events ++ added ∧
      ∀ role, ∃ alive, Lives (callsTo role added) alive ∧
        (∀ past id moment, past ++ [(id, moment)] <+: callsTo role added →
          moment = .entered ∨ moment = .left → Lives past (some id)) ∧
        (callsTo role added).countP (·.2 = .initialized) =
          (callsTo role added).countP (·.2 = .destroyed) + alive.toList.length ∧
        (∀ id, alive = some id ↔ reached.host.Routes role id) ∧
        (reached.context.state ∉ [.started, .stopping] → alive = none) := by
  intro reached
  have tended : reached.Tended host.journal.events := runCalls_tended new unrouted calls
  have inOrder {role : Role} {added : List Event} {alive : Option InstanceId}
      (lives : Lives (callsTo role added) alive) (past : List (InstanceId × Moment))
      (id : InstanceId) (moment : Moment) (early : past ++ [(id, moment)] <+: callsTo role added)
      (called : moment = .entered ∨ moment = .left) : Lives past (some id) := by
    obtain ⟨before, earlier⟩ := lives.of_prefix early
    exact earlier.alive_of_called called
  obtain ⟨-, place, houses, serving⟩ := tended
  cases houses with
  | vacant unrouted since =>
      obtain ⟨added, events, living⟩ := since
      refine ⟨added, events, fun role => ⟨none, living role, inOrder (living role),
        (living role).count, ?_, fun _ => rfl⟩⟩
      intro id
      constructor
      · exact nofun
      · exact fun routed => absurd routed (Host.not_routes_of_unrouted unrouted role id)
  | @occupied index routing routed others distinct since =>
      obtain ⟨added, events, living⟩ := since
      refine ⟨added, events, fun role => ⟨_, living role, inOrder (living role),
        (living role).count, ?_, ?_⟩⟩
      · exact fun id => (Host.routes_iff_tenant routed others distinct role id).symm
      · exact fun idle => absurd (serving index rfl).1 idle

def greeter : Instance ServiceUnit :=
  ⟨.supplied 1, { service := fun _ _ => .answer (.text 200 "hello") }⟩

/-- A unit is served through the chain and by name, destroyed by a stop, and alive again after the
next start. -/
example :
    let reached := runCalls ⟨.withOptions {}, {}⟩
      [.beginStart, .registerUnit "home" (.shared greeter) [["/"]], .finishStart,
        .serve (.get "/a"), .callNamed ⟨0, "home"⟩ .forward (.get "/b"), .beginStop, .finishStop,
        .beginStart, .finishStart]
    callsTo (.unit "home") reached.host.journal.events =
      [(.supplied 1, .initialized), (.supplied 1, .entered), (.supplied 1, .entered),
        (.supplied 1, .destroyed), (.supplied 1, .initialized)] := rfl

end Deployment

end RequestPipeline
