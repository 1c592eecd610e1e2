import RequestPipeline.Proofs.Restarts
import RequestPipeline.Proofs.Unwinding

/-!
# Resemblance

A context that has been restarted, however often, looks like the one that was started first: its
stages and links, what is registered, and where every path leads.  A binding that holds an object is
served by it still; behind every other binding stands an object of the last start.
-/

namespace RequestPipeline

/-! ## Snapshots of one table -/

namespace RoutingTable

/-- Two indices lead every path to a unit of the same name, or both to none, through interceptors of
the same names, and every call by name through interceptors of the same names; and what is held by
the bindings of the first is found in both. -/
structure Resembles (before after : RoutingTable) : Prop where
  routes : after.routes = before.routes
  errorUnit : after.errorUnit = before.errorUnit
  selected : ∀ path, (after.resolve? path).map (·.name) = (before.resolve? path).map (·.name)
  around : ∀ path unit phase, (after.interceptorsFor path unit phase).map (·.name) =
    (before.interceptorsFor path unit phase).map (·.name)
  aroundUnit : ∀ unit phase, (after.interceptorsForUnit unit phase).map (·.name) =
    (before.interceptorsForUnit unit phase).map (·.name)
  heldUnits : ∀ name record object, before.snapshot.table.unit? name = some record →
    record.binding = .shared object →
    before.snapshot.unit? name = some object ∧ after.snapshot.unit? name = some object
  heldInterceptors : ∀ name record object,
    before.snapshot.table.interceptor? name = some record → record.binding = .shared object →
    before.snapshot.interceptor? name = some object ∧
      after.snapshot.interceptor? name = some object

variable {table : RegistrationTable} {loader : ClassLoader} {journal later start finish : Journal}
  {snapshot renewed : Snapshot}

/-- Which unit a path leads to is told from the table alone. -/
theorem name_resolve? (frozen : table.freeze loader journal = (.ok snapshot, later))
    (errorUnit : Option (Instance ServiceUnit)) (path : String) :
    ((build snapshot errorUnit).resolve? path).map (·.name) =
      ((bestRoute? (table.unitMappings.foldl enter []) path).map Prod.snd).filter
        table.containsUnit := by
  have routes : (build snapshot errorUnit).routes = table.unitMappings.foldl enter [] := by
    rw [build, RegistrationTable.table_of_freeze frozen]
  rw [resolve?, routes]
  cases bestRoute? (table.unitMappings.foldl enter []) path with
  | none => rfl
  | some route =>
      have known := unit?_isSome frozen route.2
      change Option.map _ ((snapshot.unit? route.2).map (Named.mk route.2)) = _
      rw [Option.map_some, Option.filter_some, ← known]
      cases snapshot.unit? route.2 <;> rfl

/-- The indices of two snapshots of one table resemble each other. -/
theorem build_resembles (frozen : table.freeze loader journal = (.ok snapshot, later))
    (refrozen : table.freeze loader start = (.ok renewed, finish))
    (errorUnit : Option (Instance ServiceUnit)) :
    (build snapshot errorUnit).Resembles (build renewed errorUnit) := by
  have first := RegistrationTable.table_of_freeze frozen
  have second := RegistrationTable.table_of_freeze refrozen
  have chains (phase : Phase) (applies : InterceptorMapping → Bool) :
      ((build renewed errorUnit).interceptorsWhere phase applies).map (·.name) =
        ((build snapshot errorUnit).interceptorsWhere phase applies).map (·.name) := by
    rw [names_interceptorsWhere refrozen, names_interceptorsWhere frozen]
  obtain ⟨early, -⟩ := RegistrationTable.freeze_renews frozen
  obtain ⟨late, -⟩ := RegistrationTable.freeze_renews refrozen
  refine ⟨?_, rfl, ?_, ?_, ?_, ?_, ?_⟩
  · rw [build, build, first, second]
  · intro path
    rw [name_resolve? refrozen, name_resolve? frozen]
  · exact fun path unit phase => chains phase _
  · exact fun unit phase => chains phase _
  · intro name record object registered held
    have known : table.unit? name = some record := first ▸ registered
    obtain ⟨one, found, served⟩ := early.unit?_served known
    obtain ⟨two, refound, reserved⟩ := late.unit?_served known
    rw [held] at served reserved
    exact ⟨served.held ▸ found, reserved.held ▸ refound⟩
  · intro name record object registered held
    have known : table.interceptor? name = some record := first ▸ registered
    obtain ⟨one, found, served⟩ := early.interceptor?_served known
    obtain ⟨two, refound, reserved⟩ := late.interceptor?_served known
    rw [held] at served reserved
    exact ⟨served.held ▸ found, reserved.held ▸ refound⟩

end RoutingTable

/-! ## Stages and links -/

namespace Host

variable {before after : Host}

/-- Wrappers that are the same objects and linked alike are in the same cells. -/
theorem wrappers_eq_of_links
    (objects : after.wrappers.map (·.wrapper) = before.wrappers.map (·.wrapper))
    (links : ∀ index, after.nextOf (.wrapper index) = before.nextOf (.wrapper index)) :
    after.wrappers = before.wrappers := by
  apply List.ext_getElem?
  intro index
  have object : (after.wrappers[index]?).map (·.wrapper) =
      (before.wrappers[index]?).map (·.wrapper) := by
    rw [← List.getElem?_map, ← List.getElem?_map, objects]
  have link : (after.wrappers[index]?).bind (·.next) = (before.wrappers[index]?).bind (·.next) :=
    links index
  cases late : after.wrappers[index]? with
  | none =>
      rw [late] at object
      exact (Option.map_eq_none_iff.mp object.symm).symm
  | some cell =>
      rw [late] at object link
      obtain ⟨other, early, same⟩ := Option.map_eq_some_iff.mp object.symm
      rw [early] at link ⊢
      obtain ⟨wrapper, next⟩ := cell
      obtain ⟨held, linked⟩ := other
      cases same
      cases link
      rfl

theorem follow_congr (wrappers : after.wrappers = before.wrappers) (fuel : Nat) (ref : StageRef) :
    after.follow fuel ref = before.follow fuel ref := by
  induction fuel generalizing ref with
  | zero => rfl
  | succ fuel ih =>
      rw [follow, follow, nextOf_congr wrappers]
      cases before.nextOf ref with
      | none => rfl
      | some next =>
          dsimp only
          rw [ih next]

theorem stageName_congr (wrappers : after.wrappers = before.wrappers)
    (stages : after.dispatches.map (·.stage) = before.dispatches.map (·.stage)) (ref : StageRef) :
    after.stageName ref = before.stageName ref := by
  cases ref with
  | wrapper index => rw [stageName, stageName, wrappers]
  | dispatch index =>
      have same : (after.dispatches[index]?).map (·.stage) =
          (before.dispatches[index]?).map (·.stage) := by
        rw [← List.getElem?_map, ← List.getElem?_map, stages]
      have named := congrArg (Option.map DispatchStage.name) same
      rw [Option.map_map, Option.map_map] at named
      exact congrArg (Option.getD · "") named

theorem linkedNames_congr (wrappers : after.wrappers = before.wrappers)
    (stages : after.dispatches.map (·.stage) = before.dispatches.map (·.stage)) (ref : StageRef) :
    after.linkedNames ref = before.linkedNames ref := by
  rw [linkedNames, linkedNames, linkedFrom, linkedFrom, wrappers, follow_congr wrappers]
  exact List.map_congr_left fun other _ => stageName_congr wrappers stages other

end Host

namespace Deployment

variable {before after : Deployment} {pipeline : Pipeline}

theorem Linked.wrappers_eq (early : before.Linked) (late : after.Linked)
    (objects : after.host.wrappers.map (·.wrapper) = before.host.wrappers.map (·.wrapper))
    (installed : after.context.pipeline = before.context.pipeline) :
    after.host.wrappers = before.host.wrappers := by
  apply Host.wrappers_eq_of_links objects
  intro index
  have length : after.host.wrappers.length = before.host.wrappers.length := by
    simpa using congrArg List.length objects
  rw [late index, early index, length, installed]

/-- One context looks like another: it differs in nothing but its snapshot, finds the same units and
interceptors, has the same stages linked in the same way, and its pipeline, if it is routed, is
routed alike. -/
structure Resembles (before after : Deployment) : Prop where
  context : ∃ registrations, after.context = { before.context with registrations := registrations }
  units : ∀ name, after.context.findUnit name = before.context.findUnit name
  interceptors : ∀ name, after.context.findInterceptor name = before.context.findInterceptor name
  chainNames : after.context.chainNames after.host = before.context.chainNames before.host
  wrappers : after.host.wrappers = before.host.wrappers
  stages : after.host.dispatches.map (·.stage) = before.host.dispatches.map (·.stage)
  routing : ∀ pipeline, before.context.pipeline = some pipeline →
    Option.Rel RoutingTable.Resembles (before.host.routing? pipeline.dispatch)
      (after.host.routing? pipeline.dispatch)

/-- After any number of restarts a context looks as it did. -/
theorem Restarted.resembles {rounds : Nat} (restarted : Restarted pipeline rounds before after)
    (restartable : before.Restartable pipeline) (again : after.Restartable pipeline)
    (early : before.Linked) (late : after.Linked) (current : before.Current)
    (latest : after.Current) : before.Resembles after := by
  have declared := restarted.declared
  obtain ⟨other, table, context⟩ := restarted.context
  have wrappers := early.wrappers_eq late restarted.persists.wrappers
    (again.installed.trans restartable.installed.symm)
  refine ⟨⟨_, context⟩, ?_, ?_, ?_, wrappers, restarted.persists.stages, ?_⟩
  · exact fun name => congrArg (RegistrationTable.findUnit · name) declared
  · exact fun name => congrArg (RegistrationTable.findInterceptor · name) declared
  · rw [Context.chainNames, Context.chainNames, Context.head?, Context.head?, again.installed,
      restartable.installed]
    exact Host.linkedNames_congr wrappers restarted.persists.stages _
  · intro installed there
    cases restartable.installed.symm.trans there
    obtain ⟨snapshot, journal, later, frozen, made⟩ := restartable.frozen
    obtain ⟨renewed, start, finish, refrozen, remade⟩ := again.frozen
    have same : renewed.table = snapshot.table := by
      rw [frozen, refrozen] at declared
      exact declared
    rw [current.routed restartable.started pipeline snapshot restartable.installed frozen,
      latest.routed again.started pipeline renewed again.installed refrozen, restarted.reports]
    rw [same] at remade
    split
    · have unit : after.context.errorUnit = before.context.errorUnit := by rw [context]
      have loader : after.context.loader = before.context.loader := by rw [context]
      rw [loader] at remade
      rw [unit]
      exact .some (RoutingTable.build_resembles made remade _)
    · exact .none

/-! ## Runs -/

theorem runCalls_append (deployment : Deployment) (calls more : List Call) :
    deployment.runCalls (calls ++ more) = (deployment.runCalls calls).runCalls more :=
  List.foldl_append

/-- A started context that a run has led to can be restarted if it has no startup hooks and
everything does as it has done. -/
theorem runCalls_restartable {context : Context} (new : context.IsNew) {host : Host}
    (unused : host.IsUnused) (calls : List Call)
    (started : (runCalls ⟨context, host⟩ calls).context.state = .started)
    (hookless : (runCalls ⟨context, host⟩ calls).context.startupHooks = [])
    (installed : (runCalls ⟨context, host⟩ calls).context.pipeline = some pipeline)
    (steady : (runCalls ⟨context, host⟩ calls).Steady pipeline) :
    (runCalls ⟨context, host⟩ calls).Restartable pipeline := by
  have coherent : (runCalls ⟨context, host⟩ calls).context.Coherent :=
    runCalls_coherent new.coherent calls
  have current := runCalls_current new unused.unrouted calls
  obtain ⟨snapshot, frozen⟩ := coherent.frozen (by simp [started])
  obtain ⟨journal, later, made⟩ := current.frozen (by simp [started]) snapshot frozen
  exact ⟨started, installed, coherent.chains pipeline installed, hookless,
    ⟨snapshot, journal, later, frozen, made⟩, steady⟩

/-- After any calls on a new context that lead to a started context without startup hooks, whose
stages, units and interceptors do as they have done: any number of restarts is accepted call by call
and leads to a context that looks like the first.  Each restart constructs one object for every
binding that declares a class; after the last of them, the snapshot by which requests are routed has
the objects that bindings hold, and for each of the others the one just constructed. -/
theorem restarts_resemble {context : Context} (new : context.IsNew) {host : Host}
    (unused : host.IsUnused) (calls : List Call)
    (started : (runCalls ⟨context, host⟩ calls).context.state = .started)
    (hookless : (runCalls ⟨context, host⟩ calls).context.startupHooks = [])
    (steady : ∀ pipeline, (runCalls ⟨context, host⟩ calls).context.pipeline = some pipeline →
      (runCalls ⟨context, host⟩ calls).Steady pipeline) (rounds : Nat) :
    let reached := runCalls ⟨context, host⟩ calls
    let table := reached.context.registrations.declared
    let made := reached.host.journal.constructions
    let after := reached.runCalls (restartsOf rounds)
    reached.Passes (restartsOf rounds) after ∧ reached.Resembles after ∧
    after.host.journal.constructions = made + rounds * table.declaredBindings ∧
    ∃ snapshot, after.context.registrations = .frozen snapshot ∧
      (∀ pipeline, after.context.pipeline = some pipeline →
        after.host.routing? pipeline.dispatch =
          if after.host.isStarted pipeline.dispatch then
            some (.build snapshot after.context.errorUnit)
          else none) ∧
      ∀ earlier, rounds = earlier + 1 →
        table.RenewedFrom (made + earlier * table.declaredBindings) snapshot := by
  intro reached table made after
  have coherent : reached.context.Coherent := runCalls_coherent new.coherent calls
  have serving : reached.context.state = .started := started
  obtain ⟨pipeline, installed, -⟩ := coherent.piped (by simp [serving])
  have restartable : reached.Restartable pipeline :=
    runCalls_restartable new unused calls started hookless installed (steady pipeline installed)
  obtain ⟨last, passes, again, restarted⟩ := restartable.passes rounds
  obtain rfl : after = last := passes.runCalls
  have whole : runCalls ⟨context, host⟩ (calls ++ restartsOf rounds) = after :=
    runCalls_append _ _ _
  have linked : reached.Linked := runCalls_linked new unused.unlinked calls
  have current : reached.Current := runCalls_current new unused.unrouted calls
  have late := runCalls_linked new unused.unlinked (calls ++ restartsOf rounds)
  have latest := runCalls_current new unused.unrouted (calls ++ restartsOf rounds)
  rw [whole] at late latest
  obtain ⟨snapshot, -, -, frozen, -⟩ := again.frozen
  refine ⟨passes, restarted.resembles restartable again linked late current latest,
    restarted.constructions, snapshot, frozen, ?_, ?_⟩
  · exact fun pipeline there => latest.routed again.started pipeline snapshot there frozen
  · rintro earlier rfl
    obtain ⟨middle, before, ready, far⟩ := restartable.passes earlier
    obtain ⟨renewed, final, once, -, -, refrozen, renews⟩ := ready.restarts
    have same : after = final := by
      have both := before.append once
      rw [← restartsOf_succ] at both
      exact both.runCalls
    rw [far.constructions, far.declared] at renews
    rw [← same, frozen] at refrozen
    cases refrozen
    exact renews

def receptionist : ClassRef ServiceUnit :=
  ⟨"Receptionist", fun _ => { service := fun _ _ => .answer (.text 200 "welcome") }⟩

/-- A start of a context with a greeter, who is there already, and a receptionist, who is not. -/
def reception : List Call :=
  [.beginStart, .registerUnit "home" (.shared greeter) [["/home"]],
    .registerUnit "desk" (.constructed receptionist) [["/desk"]], .finishStart]

theorem reception_steady :
    (runCalls ⟨.withOptions {}, {}⟩ reception).Steady ⟨none, none, 0⟩ := by
  have stock : (runCalls ⟨.withOptions {}, {}⟩ reception).host.stageAt? 0 = some .stock := rfl
  have bindings : (runCalls ⟨.withOptions {}, {}⟩
      reception).context.registrations.declared.unitBindings =
        [("home", .shared greeter), ("desk", .constructed receptionist)] := rfl
  refine ⟨ClassLoader.none_steady, ?_, ?_, ?_, ?_, ?_, ?_⟩
  · intro ref member
    obtain rfl := List.mem_singleton.mp member
    intro stage there later _
    cases stock.symm.trans there
    exact ⟨true, rfl⟩
  · intro stage there later reported _ started
    cases stock.symm.trans there
    cases started
    rfl
  · intro _ stage there later _
    cases stock.symm.trans there
    rfl
  · rw [bindings]
    intro _ name binding listed before object after _ found later _
    rcases List.mem_cons.mp listed with home | rest
    · cases home
      cases found
      rfl
    · cases List.mem_singleton.mp rest
      cases found
      rfl
  · intro _ name binding listed
    cases listed
  · intro _ unit given
    cases given

/-- After two restarts the greeter is still there, and the third receptionist. -/
theorem third_receptionist :
    let reached := runCalls ⟨.withOptions {}, {}⟩ reception
    let after := reached.runCalls (restartsOf 2)
    reached.Passes (restartsOf 2) after ∧ reached.Resembles after ∧
      reached.host.journal.constructions = 1 ∧ after.host.journal.constructions = 3 ∧
      ∃ snapshot, after.context.registrations = .frozen snapshot ∧
        snapshot.unit? "home" = some greeter ∧
        ∃ object, snapshot.unit? "desk" = some object ∧ object.id = .constructed 3 := by
  dsimp only
  have steady : ∀ pipeline,
      (runCalls ⟨.withOptions {}, {}⟩ reception).context.pipeline = some pipeline →
        (runCalls ⟨.withOptions {}, {}⟩ reception).Steady pipeline := by
    intro pipeline installed
    obtain rfl : ⟨none, none, 0⟩ = pipeline := Option.some.inj installed
    exact reception_steady
  obtain ⟨passes, resembles, constructions, snapshot, frozen, -, renewed⟩ :=
    restarts_resemble (Context.isNew_withOptions {})
      (⟨fun _ => rfl, fun _ => rfl⟩ : Host.IsUnused {}) reception rfl rfl steady 2
  have made : (runCalls ⟨.withOptions {}, {}⟩ reception).host.journal.constructions = 1 := rfl
  have each : (runCalls ⟨.withOptions {}, {}⟩
      reception).context.registrations.declared.declaredBindings = 1 := rfl
  have latest := renewed 1 rfl
  rw [made, each] at constructions latest
  refine ⟨passes, resembles, made, constructions, snapshot, frozen, ?_, ?_⟩
  · have home : (runCalls ⟨.withOptions {}, {}⟩ reception).context.registrations.declared.unit?
        "home" = some ⟨"home", .shared greeter⟩ := rfl
    obtain ⟨object, found, served⟩ := latest.unit?_served home
    rw [found, served.held]
  · have desk : (runCalls ⟨.withOptions {}, {}⟩ reception).context.registrations.declared.unit?
        "desk" = some ⟨"desk", .constructed receptionist⟩ := rfl
    obtain ⟨object, found, served⟩ := latest.unit?_served desk
    rw [each] at served
    rcases served with same | ⟨-, number, numbered, after, within⟩
    · cases same
    · obtain rfl : number = 3 := Nat.le_antisymm within after
      exact ⟨object, found, numbered⟩

end Deployment

end RequestPipeline
