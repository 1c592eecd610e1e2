import RequestPipeline.Context.Basic
import RequestPipeline.Proofs.HostFrames
import RequestPipeline.Proofs.InitLoops

/-!
# What a request leaves behind

Serving a request, also with units that call upon each other by name, changes nothing on the host
but the journal.  What it enters there is that stages, units and interceptors were called, and the
units and interceptors are those of routings that are in place.
-/

namespace RequestPipeline

namespace Snapshot

variable {snapshot : Snapshot} {name : String}

theorem mem_units {object : Instance ServiceUnit} (found : snapshot.unit? name = some object) :
    (name, object) ∈ snapshot.units := by
  obtain ⟨entry, first, rfl⟩ := Option.map_eq_some_iff.mp found
  have named : entry.1 = name := by simpa using List.find?_some first
  rw [← named]
  exact List.mem_of_find?_eq_some first

theorem mem_interceptors {object : Instance Interceptor}
    (found : snapshot.interceptor? name = some object) :
    (name, object) ∈ snapshot.interceptors := by
  obtain ⟨entry, first, rfl⟩ := Option.map_eq_some_iff.mp found
  have named : entry.1 = name := by simpa using List.find?_some first
  rw [← named]
  exact List.mem_of_find?_eq_some first

theorem find?_of_listed {α : Type} {entries : List (String × α)}
    (listed : name ∈ entries.map Prod.fst) :
    ∃ value, (entries.find? (·.1 == name)).map Prod.snd = some value := by
  obtain ⟨entry, member, same⟩ := List.mem_map.mp listed
  cases found : entries.find? (·.1 == name) with
  | none =>
      have absent := List.find?_eq_none.mp found entry member
      simp [same] at absent
  | some entry => exact ⟨entry.2, rfl⟩

theorem unit?_of_listed (listed : name ∈ snapshot.units.map Prod.fst) :
    ∃ object, snapshot.unit? name = some object :=
  find?_of_listed listed

theorem interceptor?_of_listed (listed : name ∈ snapshot.interceptors.map Prod.fst) :
    ∃ object, snapshot.interceptor? name = some object :=
  find?_of_listed listed

end Snapshot

namespace RoutingTable

/-- Whether the routing has a registration in some capacity, with some object. -/
def Has (routing : RoutingTable) (role : Role) (id : InstanceId) : Prop :=
  ∃ participant ∈ routing.participants, participant.role = role ∧ participant.id = id

theorem has_unit {routing : RoutingTable} {name : String} {object : Instance ServiceUnit}
    (found : routing.snapshot.unit? name = some object) : routing.Has (.unit name) object.id := by
  refine ⟨.ofUnit name object, ?_, rfl, rfl⟩
  simp only [participants, List.mem_append, List.mem_map]
  exact Or.inl (Or.inr ⟨(name, object), Snapshot.mem_units found, rfl⟩)

theorem has_interceptor {routing : RoutingTable} {name : String} {object : Instance Interceptor}
    (found : routing.snapshot.interceptor? name = some object) :
    routing.Has (.interceptor name) object.id := by
  refine ⟨.ofInterceptor name object, ?_, rfl, rfl⟩
  simp only [participants, List.mem_append, List.mem_map]
  exact Or.inl (Or.inl ⟨(name, object), Snapshot.mem_interceptors found, rfl⟩)

theorem has_errorUnit {routing : RoutingTable} {unit : Instance ServiceUnit}
    (given : routing.errorUnit = some unit) : routing.Has .errorHandler unit.id := by
  refine ⟨.ofErrorUnit unit, ?_, rfl, rfl⟩
  simp [participants, given]

/-- Every interceptor that is selected was found in the snapshot. -/
theorem has_of_mem_interceptorsWhere {routing : RoutingTable} {phase : Phase}
    {applies : InterceptorMapping → Bool} {named : Named Interceptor}
    (selected : named ∈ routing.interceptorsWhere phase applies) :
    routing.Has (.interceptor named.name) named.object.id := by
  obtain ⟨mapping, -, picked⟩ := List.mem_filterMap.mp selected
  obtain ⟨object, found, rfl⟩ := Option.map_eq_some_iff.mp picked
  exact has_interceptor found

theorem has_of_resolve? {routing : RoutingTable} {path : String} {named : Named ServiceUnit}
    (resolved : routing.resolve? path = some named) :
    routing.Has (.unit named.name) named.object.id := by
  unfold resolve? at resolved
  split at resolved
  · cases resolved
  · obtain ⟨object, found, rfl⟩ := Option.map_eq_some_iff.mp resolved
    exact has_unit found

end RoutingTable

namespace Host

/-- Whether some dispatch stage is routed to a registration in some capacity. -/
def Routes (host : Host) (role : Role) (id : InstanceId) : Prop :=
  ∃ index routing, host.routing? index = some routing ∧ routing.Has role id

/-- The events that a request may leave behind. -/
def Admits (host : Host) : Event → Prop
  | .registration role id moment => (moment = .entered ∨ moment = .left) ∧ host.Routes role id
  | .stage _ moment => moment = .entered
  | .sessionIssued | .dispatched .. | .unmatched => True
  | .constructed _ | .requested _ | .moved .. | .remark => False

/-- A request has been served: the journal has grown by admitted events and nothing else has
changed. -/
structure Serves (before after : Host) : Prop where
  wrappers : after.wrappers = before.wrappers
  dispatches : after.dispatches = before.dispatches
  dispatchers : after.dispatchers = before.dispatchers
  journal : Journal.Adds before.Admits before.journal after.journal

/-- How a call upon another unit is served leaves the host as a request does. -/
def Gentle (caller : Caller) : Prop :=
  ∀ dispatcher mode request (host : Host), host.Serves (caller dispatcher mode request host).2

variable {before middle after host : Host}

theorem routing?_congr (same : after.dispatches = before.dispatches) (index : Nat) :
    after.routing? index = before.routing? index := by
  simp only [routing?, same]

theorem admits_congr (same : after.dispatches = before.dispatches) {event : Event}
    (admitted : after.Admits event) : before.Admits event := by
  cases event with
  | registration role id moment =>
      obtain ⟨called, index, routing, installed, has⟩ := admitted
      exact ⟨called, index, routing, (routing?_congr same index).symm.trans installed, has⟩
  | stage ref moment => exact admitted
  | sessionIssued => trivial
  | dispatched unit status => trivial
  | unmatched => trivial
  | constructed className => exact admitted
  | requested kind => exact admitted
  | moved context target => exact admitted
  | remark => exact admitted

theorem not_isPower_of_admits {event : Event} (admitted : host.Admits event) :
    event.isPower = false := by
  cases event with
  | stage ref moment => cases admitted; rfl
  | _ => rfl

namespace Serves

theorem refl (host : Host) : host.Serves host := ⟨rfl, rfl, rfl, .refl _⟩

theorem trans (first : before.Serves middle) (second : middle.Serves after) :
    before.Serves after where
  wrappers := second.wrappers.trans first.wrappers
  dispatches := second.dispatches.trans first.dispatches
  dispatchers := second.dispatchers.trans first.dispatchers
  journal := first.journal.trans
    (second.journal.mono fun _ => admits_congr first.dispatches)

theorem note (host : Host) {event : Event} (line : Option String) (admitted : host.Admits event) :
    host.Serves (host.note event line) :=
  ⟨rfl, rfl, rfl, .note _ line admitted⟩

theorem evolves (serves : before.Serves after) : Evolves before.Admits before after where
  wrappers := congrArg List.length serves.wrappers
  dispatches := congrArg List.length serves.dispatches
  routing := routing?_congr serves.dispatches
  journal := serves.journal

theorem routes (serves : before.Serves after) {role : Role} {id : InstanceId}
    (routed : before.Routes role id) : after.Routes role id := by
  obtain ⟨index, routing, installed, has⟩ := routed
  exact ⟨index, routing, (routing?_congr serves.dispatches index).trans installed, has⟩

end Serves

end Host

open Host (Gentle)

/-! ## Units and chains -/

theorem ServiceStep.run_serves {caller : Caller} (gentle : Gentle caller) (step : ServiceStep)
    (host : Host) : host.Serves (step.run caller host).2 := by
  induction step generalizing host with
  | answer response => exact .refl host
  | call key mode request resume ih =>
      unfold ServiceStep.run
      split
      · exact ih none host
      · next dispatcher _ =>
          exact (gentle dispatcher mode request host).trans (ih _ _)

theorem serveUnit_serves {caller : Caller} (gentle : Gentle caller) {unit : Called ServiceUnit}
    {host : Host} (routed : host.Routes unit.role unit.object.id) (request : Request) :
    host.Serves (serveUnit caller unit request host).2 := by
  have noted : host.Serves (host.note (.registration unit.role unit.object.id .entered)
      unit.object.body.serviceLine) := .note host _ ⟨Or.inl rfl, routed⟩
  exact noted.trans (ServiceStep.run_serves gentle _ _)

theorem runChain_serves {caller : Caller} (gentle : Gentle caller) {unit : Called ServiceUnit}
    {host : Host} (routed : host.Routes unit.role unit.object.id)
    {interceptors : List (Called Interceptor)}
    (around : ∀ interceptor ∈ interceptors, host.Routes interceptor.role interceptor.object.id)
    (request : Request) : host.Serves (runChain caller unit interceptors request host).2 := by
  induction interceptors generalizing host request with
  | nil => exact serveUnit_serves gentle routed request
  | cons interceptor inner ih =>
      have outer := around interceptor List.mem_cons_self
      have noted : host.Serves
          (host.note (.registration interceptor.role interceptor.object.id .entered)
            interceptor.object.body.enterLine) := .note host _ ⟨Or.inl rfl, outer⟩
      unfold runChain
      dsimp only
      split
      · exact noted
      · next passed finish _ =>
          have within := ih (noted.routes routed)
            (fun other member => noted.routes (around other (List.mem_cons_of_mem _ member)))
            passed
          have reached := noted.trans within
          exact reached.trans (.note _ _ ⟨Or.inr rfl, reached.routes outer⟩)

namespace Host

/-! ## Calls by name -/

theorem dispatchNamedBy_serves {caller : Caller} (gentle : Gentle caller) (stage : Nat)
    (unit : String) (phase : Phase) (request : Request) (host : Host) :
    host.Serves (dispatchNamedBy caller stage unit phase request host).2 := by
  unfold dispatchNamedBy
  split
  · exact .refl host
  · next routing installed =>
      split
      · exact .refl host
      · next object found =>
          refine runChain_serves gentle ⟨stage, routing, installed, RoutingTable.has_unit found⟩
            ?_ _
          intro interceptor member
          obtain ⟨named, selected, rfl⟩ := List.mem_map.mp member
          exact ⟨stage, routing, installed, RoutingTable.has_of_mem_interceptorsWhere selected⟩

theorem callWithin_gentle (depth : Nat) : Gentle (callWithin depth) := by
  induction depth with
  | zero => exact fun _ _ _ host => .refl host
  | succ depth ih =>
      intro dispatcher mode request host
      exact dispatchNamedBy_serves ih _ _ _ request host

theorem callNamed_gentle : Gentle callNamed :=
  fun dispatcher mode request host => callWithin_gentle host.nesting dispatcher mode request host

/-! ## Requests on their way through the stages -/

theorem route_serves {index : Nat} {routing : RoutingTable} {host : Host}
    (installed : host.routing? index = some routing) (request : Request) :
    host.Serves (route routing request host).2 := by
  have around : ∀ path unit phase {later : Host}, host.Serves later → ∀ interceptor ∈
      (routing.interceptorsFor path unit phase).map Called.interceptor,
      later.Routes interceptor.role interceptor.object.id := by
    intro path unit phase later serves interceptor member
    obtain ⟨named, selected, rfl⟩ := List.mem_map.mp member
    exact serves.routes
      ⟨index, routing, installed, RoutingTable.has_of_mem_interceptorsWhere selected⟩
  unfold route
  dsimp only
  split
  · next unit resolved =>
      have routed : host.Routes (Called.unit unit).role (Called.unit unit).object.id :=
        ⟨index, routing, installed, RoutingTable.has_of_resolve? resolved⟩
      have served := runChain_serves callNamed_gentle routed
        (around request.routedPath (some unit.name) (phaseOf request) (.refl host)) request
      exact served.trans (.note _ _ trivial)
  · have noted : host.Serves (host.note .unmatched none) := .note host _ trivial
    split
    · exact noted
    · next unit given =>
        have handler := noted.routes
          ⟨index, routing, installed, RoutingTable.has_errorUnit given⟩
        exact noted.trans (runChain_serves callNamed_gentle handler (around _ _ _ noted) _)

theorem dispatch_serves (host : Host) (index : Nat) (request : Request) :
    host.Serves (host.dispatch index request).2 := by
  unfold dispatch
  split
  · exact .refl host
  · next cell found =>
      have noted : host.Serves (host.note (.stage (.dispatch index) .entered)
          cell.stage.enterLine) := .note host _ rfl
      dsimp only
      split
      · exact noted
      · next routing installed =>
          have placed : (host.note (.stage (.dispatch index) .entered)
              cell.stage.enterLine).routing? index = some routing := by
            simp [routing?, note, found, installed]
          exact noted.trans (route_serves placed request)

theorem resolveSession_serves (host : Host) (stage : SessionStage) (request : Request) :
    host.Serves (host.resolveSession stage request).2 := by
  unfold resolveSession
  split
  · exact .refl host
  · exact .note host _ trivial

theorem handleAlong_serves (refs : List StageRef) (request : Request) (host : Host) :
    host.Serves (handleAlong refs request host).2 := by
  induction refs generalizing request host with
  | nil => exact .refl host
  | cons ref rest ih =>
      cases ref with
      | dispatch index => exact host.dispatch_serves index request
      | wrapper index =>
          unfold handleAlong
          split
          · exact .refl host
          · next cell _ =>
              have noted : host.Serves (host.note (.stage (.wrapper index) .entered)
                  cell.wrapper.enterLine) := .note host _ rfl
              dsimp only
              split
              · next stage _ =>
                  exact noted.trans ((resolveSession_serves _ stage request).trans (ih _ _))
              · split
                · exact noted
                · exact noted.trans (ih _ _)
              · split
                · exact noted
                · exact noted.trans (ih _ _)

theorem handle_serves (host : Host) (ref : StageRef) (request : Request) :
    host.Serves (host.handle ref request).2 :=
  handleAlong_serves _ request host

end Host

theorem Context.handle_serves (context : Context) (request : Request) (host : Host) :
    host.Serves (context.handle request host).2 := by
  unfold Context.handle
  split
  · exact .refl host
  · split
    · split
      · exact .refl host
      · exact host.handle_serves _ _
    · exact .refl host

end RequestPipeline
