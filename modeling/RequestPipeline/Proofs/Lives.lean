import Mathlib.Data.List.Nodup
import RequestPipeline.Proofs.Serving

/-!
# Lives of registrations

The order in which a registration may be called: it is initialised, called any number of times and
destroyed, and all this again.  Initialising and destroying all participants of a routing keeps
every registration to that order.
-/

namespace RequestPipeline

/-- The calls that a registration sees in some capacity. -/
def callsTo (role : Role) (events : List Event) : List (InstanceId × Moment) :=
  events.filterMap fun event =>
    match event with
    | .registration called id moment => if called = role then some (id, moment) else none
    | _ => none

/-- One call on a registration, from the object that is alive to the one alive afterwards.  While
none is alive, nothing happens but initialisations. -/
inductive Turn : Option InstanceId → InstanceId × Moment → Option InstanceId → Prop
  | initFailed (id : InstanceId) : Turn none (id, .initFailed) none
  | initialized (id : InstanceId) : Turn none (id, .initialized) (some id)
  | entered (id : InstanceId) : Turn (some id) (id, .entered) (some id)
  | left (id : InstanceId) : Turn (some id) (id, .left) (some id)
  | destroyed (id : InstanceId) : Turn (some id) (id, .destroyed) none

/-- The prefixes of a succession of lives, with the object that is alive at the end. -/
inductive Lives : List (InstanceId × Moment) → Option InstanceId → Prop
  | new : Lives [] none
  | call {past : List (InstanceId × Moment)} {call : InstanceId × Moment}
      {before after : Option InstanceId} (lives : Lives past before)
      (turn : Turn before call after) : Lives (past ++ [call]) after

/-- Every life that began has ended, but for the one at the end. -/
theorem Lives.count {past : List (InstanceId × Moment)} {alive : Option InstanceId}
    (lives : Lives past alive) :
    past.countP (·.2 = .initialized) = past.countP (·.2 = .destroyed) + alive.toList.length := by
  induction lives with
  | new => rfl
  | call lives turn ih =>
      rw [List.countP_append, List.countP_append, ih]
      cases turn <;> rfl

/-- What has been lived so far is a succession of lives as well. -/
theorem Lives.of_prefix {past calls : List (InstanceId × Moment)} {alive : Option InstanceId}
    (lives : Lives calls alive) (early : past <+: calls) : ∃ before, Lives past before := by
  induction lives with
  | new =>
      rw [List.prefix_nil.mp early]
      exact ⟨none, .new⟩
  | call lives turn ih =>
      rcases List.prefix_concat_iff.mp early with whole | shorter
      · rw [whole]
        exact ⟨_, .call lives turn⟩
      · exact ih shorter

/-- An object is called only while it is alive. -/
theorem Lives.alive_of_called {past : List (InstanceId × Moment)} {alive : Option InstanceId}
    {id : InstanceId} {moment : Moment} (lives : Lives (past ++ [(id, moment)]) alive)
    (called : moment = .entered ∨ moment = .left) : Lives past (some id) := by
  generalize whole : past ++ [(id, moment)] = calls at lives
  cases lives with
  | new => simp at whole
  | call lives turn =>
      obtain ⟨rfl, last⟩ := List.append_inj' whole rfl
      rw [← List.head_eq_of_cons_eq last] at turn
      rcases called with rfl | rfl
      · cases turn
        exact lives
      · cases turn
        exact lives

/-! ## Calls among events -/

theorem callsTo_append (role : Role) (events added : List Event) :
    callsTo role (events ++ added) = callsTo role events ++ callsTo role added :=
  List.filterMap_append

theorem callsTo_self (role : Role) (id : InstanceId) (moment : Moment) :
    callsTo role [.registration role id moment] = [(id, moment)] := by
  simp [callsTo]

theorem callsTo_other {role called : Role} (differs : called ≠ role) (id : InstanceId)
    (moment : Moment) : callsTo role [.registration called id moment] = [] := by
  simp [callsTo, differs]

theorem callsTo_silent (role : Role) {events : List Event}
    (silent : ∀ event ∈ events, event.isCall = false) : callsTo role events = [] := by
  apply List.filterMap_eq_nil_iff.mpr
  intro event member
  have uncalled := silent event member
  cases event with
  | registration called id moment => cases uncalled
  | _ => rfl

/-! ## Tenants -/

/-- The object that stands behind a role among participants. -/
def tenant (participants : List Participant) (role : Role) : Option InstanceId :=
  (participants.find? (·.role = role)).map (·.id)

section Tenant

variable {participant : Participant} {participants : List Participant} {role : Role}

theorem tenant_self : tenant (participant :: participants) participant.role
    = some participant.id := by
  simp [tenant]

theorem tenant_other (differs : role ≠ participant.role) :
    tenant (participant :: participants) role = tenant participants role := by
  simp [tenant, Ne.symm differs]

theorem tenant_absent (absent : role ∉ participants.map (·.role)) :
    tenant participants role = none := by
  simp only [tenant, Option.map_eq_none_iff, List.find?_eq_none, decide_eq_true_eq]
  intro participant member same
  exact absent (List.mem_map.mpr ⟨participant, member, same⟩)

/-- As long as no two participants share a role, each is the tenant of its own. -/
theorem tenant_of_mem (distinct : (participants.map (·.role)).Nodup)
    (member : participant ∈ participants) :
    tenant participants participant.role = some participant.id := by
  induction participants with
  | nil => cases member
  | cons first rest ih =>
      obtain ⟨fresh, others⟩ := List.nodup_cons.mp distinct
      rcases List.mem_cons.mp member with rfl | later
      · exact tenant_self
      · rw [tenant_other ?_]
        · exact ih others later
        · intro same
          exact fresh (List.mem_map.mpr ⟨participant, later, same⟩)

end Tenant

/-- Every registration has lived in order, and those alive are the ones listed. -/
def Living (alive : List Participant) (events : List Event) : Prop :=
  ∀ role, Lives (callsTo role events) (tenant alive role)

namespace Living

variable {alive next : List Participant} {participant : Participant}
  {events added : List Event}

theorem nil : Living [] [] := fun _ => .new

theorem silent (living : Living alive events)
    (quiet : ∀ event ∈ added, event.isCall = false) : Living alive (events ++ added) := by
  intro role
  rw [callsTo_append, callsTo_silent role quiet, List.append_nil]
  exact living role

/-- A call concerns the one role that it is made in. -/
theorem call (living : Living alive events) {role : Role} {id : InstanceId} {moment : Moment}
    (here : Lives (callsTo role events ++ [(id, moment)]) (tenant next role))
    (elsewhere : ∀ other, other ≠ role → tenant next other = tenant alive other) :
    Living next (events ++ [.registration role id moment]) := by
  intro other
  rw [callsTo_append]
  by_cases same : other = role
  · rw [same, callsTo_self]
    exact here
  · rw [callsTo_other (Ne.symm same), List.append_nil, elsewhere other same]
    exact living other

theorem initialized (living : Living alive events)
    (fresh : participant.role ∉ alive.map (·.role)) : Living (participant :: alive)
      (events ++ [.registration participant.role participant.id .initialized]) := by
  have asleep := living participant.role
  rw [tenant_absent fresh] at asleep
  apply living.call
  · rw [tenant_self]
    exact .call asleep (.initialized _)
  · exact fun _ differs => tenant_other differs

theorem initFailed (living : Living alive events)
    (fresh : participant.role ∉ alive.map (·.role)) : Living alive
      (events ++ [.registration participant.role participant.id .initFailed]) := by
  have asleep := living participant.role
  rw [tenant_absent fresh] at asleep
  apply living.call
  · rw [tenant_absent fresh]
    exact .call asleep (.initFailed _)
  · exact fun _ _ => rfl

theorem destroyed (living : Living (participant :: alive) events)
    (fresh : participant.role ∉ alive.map (·.role)) : Living alive
      (events ++ [.registration participant.role participant.id .destroyed]) := by
  have awake := living participant.role
  rw [tenant_self] at awake
  apply living.call
  · rw [tenant_absent fresh]
    exact .call awake (.destroyed _)
  · exact fun _ differs => (tenant_other differs).symm

theorem called (living : Living alive events) {role : Role} {id : InstanceId} {moment : Moment}
    (awake : tenant alive role = some id) (moments : moment = .entered ∨ moment = .left) :
    Living alive (events ++ [.registration role id moment]) := by
  have here := living role
  rw [awake] at here
  apply living.call
  · rw [awake]
    rcases moments with rfl | rfl
    · exact .call here (.entered id)
    · exact .call here (.left id)
  · exact fun _ _ => rfl

end Living

/-! ## Participants in turn -/

namespace Participant

variable {base : List Event} {alive done rest : List Participant} {journal after : Journal}

theorem stop_living {participant : Participant}
    (fresh : participant.role ∉ alive.map (·.role))
    (since : journal.Since base (Living (participant :: alive))) :
    (participant.stop journal).Since base (Living alive) := by
  obtain ⟨events, entered, living⟩ := since
  refine ⟨_, ?_, living.destroyed fresh⟩
  rw [stop, Journal.events_note, entered, List.append_assoc]

/-- Stopping all that are alive, in turn, leaves none alive. -/
theorem stopAll_living (distinct : (alive.map (·.role)).Nodup)
    (since : journal.Since base (Living alive)) :
    (stopAll alive journal).Since base (Living []) := by
  induction alive generalizing journal with
  | nil => exact since
  | cons participant alive ih =>
      obtain ⟨fresh, others⟩ := List.nodup_cons.mp distinct
      exact ih others (stop_living fresh since)

theorem start_living {participant : Participant}
    (fresh : participant.role ∉ alive.map (·.role))
    (since : journal.Since base (Living alive))
    (started : participant.start journal = (.ok (), after)) :
    after.Since base (Living (participant :: alive)) := by
  obtain ⟨events, entered, living⟩ := since
  unfold start at started
  split at started
  · obtain ⟨-, rfl⟩ := Prod.mk.inj started
    refine ⟨_, ?_, living.initialized fresh⟩
    rw [Journal.events_note, entered, List.append_assoc]
  · cases congrArg Prod.fst started

theorem start_failed {participant : Participant} {e : Error}
    (fresh : participant.role ∉ alive.map (·.role))
    (since : journal.Since base (Living alive))
    (failed : participant.start journal = (.error e, after)) :
    after.Since base (Living alive) := by
  obtain ⟨events, entered, living⟩ := since
  unfold start at failed
  split at failed
  · cases congrArg Prod.fst failed
  · obtain ⟨-, rfl⟩ := Prod.mk.inj failed
    refine ⟨_, ?_, living.initFailed fresh⟩
    rw [Journal.events_note, entered, List.append_assoc]

theorem startFrom_living (distinct : (done.map (·.role) ++ rest.map (·.role)).Nodup)
    (since : journal.Since base (Living done))
    (started : startFrom done rest journal = (.ok (), after)) :
    after.Since base (Living (rest.reverse ++ done)) := by
  induction rest generalizing done journal with
  | nil =>
      obtain ⟨-, rfl⟩ := Prod.mk.inj started
      exact since
  | cons participant rest ih =>
      have moved : ((participant :: done).map (·.role) ++ rest.map (·.role)).Nodup :=
        List.nodup_middle.mp distinct
      unfold startFrom at started
      split at started
      · next middle first =>
          have fresh : participant.role ∉ done.map (·.role) := fun member =>
            (List.nodup_cons.mp moved).1 (List.mem_append_left _ member)
          have reached := ih moved (start_living fresh since first) started
          rw [List.reverse_cons, List.append_assoc]
          exact reached
      · cases congrArg Prod.fst started

/-- When one fails, those before it are destroyed again and none is alive. -/
theorem startFrom_failed {e : Error} (distinct : (done.map (·.role) ++ rest.map (·.role)).Nodup)
    (since : journal.Since base (Living done))
    (failed : startFrom done rest journal = (.error e, after)) :
    after.Since base (Living []) := by
  induction rest generalizing done journal with
  | nil => cases congrArg Prod.fst failed
  | cons participant rest ih =>
      have moved : ((participant :: done).map (·.role) ++ rest.map (·.role)).Nodup :=
        List.nodup_middle.mp distinct
      have fresh : participant.role ∉ done.map (·.role) := fun member =>
        (List.nodup_cons.mp moved).1 (List.mem_append_left _ member)
      unfold startFrom at failed
      split at failed
      · next middle first => exact ih moved (start_living fresh since first) failed
      · next fault middle first =>
          obtain ⟨-, rfl⟩ := Prod.mk.inj failed
          exact stopAll_living (List.nodup_append.mp distinct).1 (start_failed fresh since first)

end Participant

/-! ## Whole routings -/

namespace RoutingTable

variable {base : List Event} {routing : RoutingTable} {journal after : Journal}

def Distinct (routing : RoutingTable) : Prop := (routing.participants.map (·.role)).Nodup

theorem Distinct.reverse (distinct : routing.Distinct) :
    (routing.participants.reverse.map (·.role)).Nodup := by
  rw [List.map_reverse]
  exact List.nodup_reverse.mpr distinct

theorem initAll_living (distinct : routing.Distinct) (since : journal.Since base (Living []))
    (started : routing.initAll journal = (.ok (), after)) :
    after.Since base (Living routing.participants.reverse) := by
  have whole : (([] : List Participant).map (·.role)
      ++ routing.participants.map (·.role)).Nodup := distinct
  rw [initAll_eq] at started
  have reached := Participant.startFrom_living whole since started
  rw [List.append_nil] at reached
  exact reached

theorem initAll_failed {e : Error} (distinct : routing.Distinct)
    (since : journal.Since base (Living []))
    (failed : routing.initAll journal = (.error e, after)) :
    after.Since base (Living []) := by
  have whole : (([] : List Participant).map (·.role)
      ++ routing.participants.map (·.role)).Nodup := distinct
  rw [initAll_eq] at failed
  exact Participant.startFrom_failed whole since failed

theorem destroyAll_living (distinct : routing.Distinct)
    (since : journal.Since base (Living routing.participants.reverse)) :
    (routing.destroyAll journal).Since base (Living []) := by
  rw [destroyAll_eq]
  exact Participant.stopAll_living distinct.reverse since

/-- A participant is the tenant of its role. -/
theorem tenant_of_has (distinct : routing.Distinct) {role : Role} {id : InstanceId}
    (has : routing.Has role id) : tenant routing.participants.reverse role = some id := by
  obtain ⟨participant, member, rfl, rfl⟩ := has
  exact tenant_of_mem distinct.reverse (List.mem_reverse.mpr member)

theorem has_of_tenant {role : Role} {id : InstanceId}
    (awake : tenant routing.participants.reverse role = some id) : routing.Has role id := by
  obtain ⟨participant, found, same⟩ := Option.map_eq_some_iff.mp awake
  have role_eq : participant.role = role := by simpa using List.find?_some found
  exact ⟨participant, List.mem_reverse.mp (List.mem_of_find?_eq_some found), role_eq, same⟩

end RoutingTable

end RequestPipeline
