import Mathlib.Data.List.Induction
import RequestPipeline.Proofs.Resemblance

/-!
# New routing for old

A dispatch stage initialises new routing before it destroys the routing that was there, and destroys
again what it has initialised when an object refuses.  Either way an object that the old routing
holds and the stage initialises once more is destroyed, or has refused, while requests still reach
it; and these are the only ones.
-/

namespace RequestPipeline

/-! ## Lives of objects -/

/-- Whether a call begins the life of an object, fails to, or ends it. -/
def Moment.isVital : Moment → Bool
  | .initialized | .initFailed | .destroyed => true
  | .entered | .left => false

/-- Whether an event is a call in the life cycle of some object. -/
def Event.isVital : Event → Bool
  | .registration _ _ moment => moment.isVital
  | _ => false

/-- What an event is in the life cycle of an object, in whatever capacity the object is called. -/
def Event.vital? (id : InstanceId) : Event → Option Moment
  | .registration _ called moment => if called = id ∧ moment.isVital then some moment else none
  | _ => none

/-- The latest call in the life cycle of an object. -/
def lastVital? (id : InstanceId) (events : List Event) : Option Moment :=
  (events.filterMap (Event.vital? id)).getLast?

/-- An object has been initialised, with success, and nothing has happened to it since but that it
served. -/
def Alive (id : InstanceId) (events : List Event) : Prop :=
  lastVital? id events = some .initialized

/-- The object that an event initialises, or tries to. -/
def Event.initialises? : Event → Option InstanceId
  | .registration _ id .initialized | .registration _ id .initFailed => some id
  | _ => none

variable {added : List Event}

theorem lastVital?_append (id : InstanceId) (events added : List Event) :
    lastVital? id (events ++ added) = (lastVital? id added).or (lastVital? id events) := by
  rw [lastVital?, List.filterMap_append, List.getLast?_append]
  rfl

theorem lastVital?_silent (id : InstanceId) (silent : ∀ event ∈ added, event.isVital = false) :
    lastVital? id added = none := by
  rw [lastVital?, List.getLast?_eq_none_iff, List.filterMap_eq_nil_iff]
  intro event member
  have idle := silent event member
  cases event with
  | registration role called moment =>
      change moment.isVital = false at idle
      simp [Event.vital?, idle]
  | _ => rfl

theorem initialises?_silent (silent : ∀ event ∈ added, event.isVital = false) :
    added.filterMap Event.initialises? = [] := by
  rw [List.filterMap_eq_nil_iff]
  intro event member
  have idle := silent event member
  cases event with
  | registration role called moment => cases moment <;> first | rfl | cases idle
  | _ => rfl

/-! ## Initialising and destroying, entry by entry -/

namespace Participant

/-- What is entered in the journal when something happens to a participant. -/
def entry (participant : Participant) (moment : Moment) : Event :=
  .registration participant.role participant.id moment

variable {done rest : List Participant} {journal after : Journal}

theorem lastVital?_entries {moment : Moment} (vital : moment.isVital = true) (id : InstanceId)
    (participants : List Participant) : lastVital? id (participants.map (·.entry moment)) =
      if id ∈ participants.map (·.id) then some moment else none := by
  induction participants with
  | nil => rfl
  | cons participant rest ih =>
      rw [List.map_cons, ← List.singleton_append, lastVital?_append, ih]
      by_cases later : id ∈ rest.map (·.id)
      · simp [later]
      · by_cases here : participant.id = id
        · simp [later, here, lastVital?, entry, Event.vital?, vital]
        · simp [later, here, Ne.symm here, lastVital?, entry, Event.vital?]

theorem stopAll_events (participants : List Participant) (journal : Journal) :
    (stopAll participants journal).events =
      journal.events ++ participants.map (·.entry .destroyed) := by
  induction participants generalizing journal with
  | nil => simp [stopAll]
  | cons participant rest ih =>
      have later := ih (participant.stop journal)
      rw [stop, Journal.events_note, List.append_assoc] at later
      exact later

theorem start_ok {participant : Participant}
    (started : participant.start journal = (.ok (), after)) :
    after.events = journal.events ++ [participant.entry .initialized] := by
  unfold start at started
  split at started
  · obtain ⟨-, rfl⟩ := Prod.mk.inj started
    exact Journal.events_note _ _ _
  · cases congrArg Prod.fst started

theorem start_error {participant : Participant} {e : Error}
    (refused : participant.start journal = (.error e, after)) :
    after.events = journal.events ++ [participant.entry .initFailed] := by
  unfold start at refused
  split at refused
  · cases congrArg Prod.fst refused
  · obtain ⟨-, rfl⟩ := Prod.mk.inj refused
    exact Journal.events_note _ _ _

theorem startFrom_ok (started : startFrom done rest journal = (.ok (), after)) :
    after.events = journal.events ++ rest.map (·.entry .initialized) := by
  induction rest generalizing done journal with
  | nil =>
      obtain ⟨-, rfl⟩ := Prod.mk.inj started
      simp
  | cons participant rest ih =>
      unfold startFrom at started
      split at started
      · next middle first =>
          rw [ih started, start_ok first, List.append_assoc]
          rfl
      · cases congrArg Prod.fst started

/-- When a participant refuses, those initialised before it are destroyed again, the latest first. -/
theorem startFrom_error {e : Error} (refused : startFrom done rest journal = (.error e, after)) :
    ∃ tried failing later, rest = tried ++ failing :: later ∧
      after.events = journal.events ++ (tried.map (·.entry .initialized)
        ++ [failing.entry .initFailed] ++ (tried.reverse ++ done).map (·.entry .destroyed)) := by
  induction rest generalizing done journal with
  | nil => cases congrArg Prod.fst refused
  | cons participant rest ih =>
      unfold startFrom at refused
      split at refused
      · next middle first =>
          obtain ⟨tried, failing, later, rfl, events⟩ := ih refused
          refine ⟨participant :: tried, failing, later, rfl, ?_⟩
          rw [events, start_ok first]
          simp
      · next fault middle first =>
          obtain ⟨-, rfl⟩ := Prod.mk.inj refused
          refine ⟨[], participant, rest, rfl, ?_⟩
          rw [stopAll_events, start_error first]
          simp

end Participant

theorem RoutingTable.destroyAll_events (routing : RoutingTable) (journal : Journal) :
    (routing.destroyAll journal).events =
      journal.events ++ routing.participants.reverse.map (·.entry .destroyed) := by
  rw [destroyAll_eq]
  exact Participant.stopAll_events _ _

/-! ## Turns of lives -/

namespace Journal

/-- What the journal has gained about lives: some participants were initialised, then some refused,
and then some were destroyed. -/
def Turns (before after : Journal) (begun refused ended : List Participant) : Prop :=
  ∃ noted, (∀ event ∈ noted, event.isVital = false) ∧
    after.events = before.events ++ (noted ++ (begun.map (·.entry .initialized)
      ++ refused.map (·.entry .initFailed) ++ ended.map (·.entry .destroyed)))

/-- The objects that have been initialised from one state of the journal to a later one, or have
refused. -/
def initialised (before after : Journal) : List InstanceId :=
  (after.events.drop before.events.length).filterMap Event.initialises?

namespace Turns

variable {before middle after : Journal} {begun refused ended : List Participant}

theorem of_adds {kind : Event → Prop} (adds : Adds kind before after)
    (idle : ∀ event, kind event → event.isVital = false) : before.Turns after [] [] [] := by
  obtain ⟨added, events, all⟩ := adds
  exact ⟨added, fun event member => idle event (all event member), by simp [events]⟩

theorem lastVital?_eq (turns : before.Turns after begun refused ended) (id : InstanceId) :
    lastVital? id after.events =
      if id ∈ ended.map (·.id) then some .destroyed
      else if id ∈ refused.map (·.id) then some .initFailed
      else if id ∈ begun.map (·.id) then some .initialized
      else lastVital? id before.events := by
  obtain ⟨noted, idle, events⟩ := turns
  rw [events, lastVital?_append, lastVital?_append, lastVital?_append, lastVital?_append,
    lastVital?_silent id idle, Participant.lastVital?_entries rfl,
    Participant.lastVital?_entries rfl, Participant.lastVital?_entries rfl]
  split
  · rfl
  · split
    · rfl
    · split <;> rfl

theorem mem_initialised (turns : before.Turns after begun refused ended) (id : InstanceId) :
    id ∈ before.initialised after ↔ id ∈ begun.map (·.id) ∨ id ∈ refused.map (·.id) := by
  obtain ⟨noted, idle, events⟩ := turns
  rw [initialised, events, List.drop_left, List.filterMap_append, initialises?_silent idle]
  simp [Participant.entry, Event.initialises?]

/-- Where whoever was initialised has been destroyed again, those remain alive who were not
initialised. -/
theorem alive_iff_of_undone {tried : List Participant}
    (turns : before.Turns after tried refused tried.reverse) (id : InstanceId) :
    Alive id after.events ↔ Alive id before.events ∧ id ∉ before.initialised after := by
  rw [Alive, turns.lastVital?_eq, turns.mem_initialised]
  simp only [List.map_reverse, List.mem_reverse]
  by_cases begun : id ∈ tried.map (·.id)
  · simp [begun]
  · by_cases barred : id ∈ refused.map (·.id)
    · simp [begun, barred]
    · simp [begun, barred, Alive]

/-- Of those who were initialised, those remain alive who were not destroyed afterwards. -/
theorem alive_iff_of_begun (turns : before.Turns after begun [] ended) {id : InstanceId}
    (member : id ∈ begun.map (·.id)) : Alive id after.events ↔ id ∉ ended.map (·.id) := by
  rw [Alive, turns.lastVital?_eq]
  by_cases gone : id ∈ ended.map (·.id)
  · simp [gone]
  · simp [gone, member]

end Turns

end Journal

/-! ## Who is routed -/

namespace Host

/-- The participants of the routing of a dispatch stage. -/
def routed (host : Host) (index : Nat) : List Participant :=
  ((host.routing? index).map RoutingTable.participants).getD []

/-- The objects that can be reached through the routing of a dispatch stage. -/
def reachable (host : Host) (index : Nat) : List InstanceId := (host.routed index).map (·.id)

/-- Whoever can be reached through the routing of a dispatch stage is alive. -/
def Lively (host : Host) (index : Nat) : Prop :=
  ∀ id ∈ host.reachable index, Alive id host.journal.events

variable {host before after : Host} {index : Nat} {cell : DispatchCell} {snapshot : Snapshot}
  {routing : RoutingTable}

theorem routed_of_routing? (placed : host.routing? index = some routing) :
    host.routed index = routing.participants := by
  rw [routed, placed]
  rfl

theorem routed_of_unrouted (unrouted : host.routing? index = none) : host.routed index = [] := by
  rw [routed, unrouted]
  rfl

theorem reachable_congr (same : after.routing? index = before.routing? index) :
    after.reachable index = before.reachable index := by
  rw [reachable, routed, same, reachable, routed]

theorem reachable_of_has {role : Role} {id : InstanceId}
    (placed : host.routing? index = some routing) (has : routing.Has role id) :
    id ∈ host.reachable index := by
  obtain ⟨participant, member, -, rfl⟩ := has
  rw [reachable, routed_of_routing? placed]
  exact List.mem_map_of_mem member

/-! ## What one call does -/

/-- What can become of the routing of a dispatch stage, and of lives meanwhile.  Either it stays, and
whoever has been initialised has been destroyed again; or those who are routed now have been
initialised, and after them those who were routed before have been destroyed. -/
inductive Rerouted (index : Nat) (before after : Host) : Prop
  | kept {tried refused : List Participant}
      (same : after.routing? index = before.routing? index)
      (turns : before.journal.Turns after.journal tried refused tried.reverse)
  | replaced (turns : before.journal.Turns after.journal (after.routed index) []
      (before.routed index).reverse)

theorem Widens.rerouted {kind : Event → Prop} (widens : before.Widens kind after)
    (idle : ∀ event, kind event → event.isVital = false) : before.Rerouted index after := by
  have turns : before.journal.Turns after.journal [] [] [] := .of_adds widens.journal idle
  exact .kept (widens.routing index) turns

theorem replaceRouting_events (host : Host) (index : Nat) (routing : RoutingTable) :
    (host.replaceRouting index routing).journal.events =
      host.journal.events ++ (host.routed index).reverse.map (·.entry .destroyed) := by
  unfold replaceRouting
  split
  · next missing => simp [routed, routing?, missing]
  · next cell found =>
      dsimp only
      split
      · next vacant => simp [updateDispatch, routed, routing?, found, vacant]
      · next previous there =>
          rw [routed_of_routing? (by rw [routing?, found]; exact there)]
          exact RoutingTable.destroyAll_events previous _

/-- A dispatch stage whose new routing is refused is left as it was. -/
theorem finalizeRouting_error {e : Error}
    (failed : host.finalizeRouting index snapshot = (.error e, after)) :
    after = { host with journal := after.journal } ∧
      ∃ tried refused : List Participant,
        host.journal.Turns after.journal tried refused tried.reverse := by
  unfold finalizeRouting at failed
  split at failed
  · cases congrArg Prod.fst failed
  · next cell found =>
      dsimp only at failed
      split at failed
      · obtain ⟨-, rfl⟩ := Prod.mk.inj failed
        refine ⟨rfl, [], [], ?_⟩
        have noted : host.Evolves (·.isVital = false) (host.note
            (.stage (.dispatch index) .finalized) cell.stage.finalizeLine) := .note host _ rfl
        exact .of_adds noted.journal fun _ => id
      · split at failed
        · next fault journal refused =>
            obtain ⟨-, rfl⟩ := Prod.mk.inj failed
            rw [RoutingTable.initAll_eq] at refused
            obtain ⟨tried, failing, later, -, events⟩ := Participant.startFrom_error refused
            refine ⟨rfl, tried, [failing], [.stage (.dispatch index) .finalized], ?_, ?_⟩
            · simp [Event.isVital]
            · rw [events, List.append_nil]
              simp [note, Journal.events_note]
        · cases congrArg Prod.fst failed

/-- New routing that is accepted is initialised, and then the old one is destroyed. -/
theorem finalizeRouting_turns (found : host.dispatches[index]? = some cell)
    (accepted : host.finalizeRouting index snapshot = (.ok (), after)) :
    host.journal.Turns after.journal (after.routed index) [] (host.routed index).reverse := by
  rw [routed_of_routing? (finalizeRouting_ok found accepted)]
  unfold finalizeRouting at accepted
  rw [found] at accepted
  dsimp only at accepted
  split at accepted
  · cases congrArg Prod.fst accepted
  · split at accepted
    · cases congrArg Prod.fst accepted
    · next journal initialized =>
        obtain ⟨-, rfl⟩ := Prod.mk.inj accepted
        refine ⟨[.stage (.dispatch index) .finalized], by simp [Event.isVital], ?_⟩
        refine (replaceRouting_events _ index _).trans ?_
        change journal.events ++ (host.routed index).reverse.map (·.entry .destroyed) = _
        rw [RoutingTable.initAll_eq] at initialized
        rw [Participant.startFrom_ok initialized]
        simp [note, Journal.events_note]

theorem finalizeRouting_rerouted (host : Host) (index : Nat) (snapshot : Snapshot) :
    host.Rerouted index (host.finalizeRouting index snapshot).2 := by
  cases outcome : host.finalizeRouting index snapshot with
  | mk result after =>
      cases result with
      | error e =>
          obtain ⟨same, tried, refused, turns⟩ := finalizeRouting_error outcome
          refine .kept ?_ turns
          rw [same]
          rfl
      | ok =>
          cases found : host.dispatches[index]? with
          | none =>
              rw [finalizeRouting, found] at outcome
              obtain ⟨-, rfl⟩ := Prod.mk.inj outcome
              have still : host.Widens (·.isVital = false) host := .refl host
              exact still.rerouted fun _ => id
          | some cell => exact .replaced (finalizeRouting_turns found outcome)

theorem routing?_clearRouting (host : Host) (index : Nat) :
    (host.clearRouting index).routing? index = none := by
  unfold clearRouting
  split
  · next missing =>
      rw [routing?, missing]
      rfl
  · next cell found =>
      dsimp only
      split
      · next vacant =>
          rw [routing?, note, found]
          exact vacant
      · exact routing?_updateDispatch_self found _

theorem clearRouting_rerouted (host : Host) (index : Nat) :
    host.Rerouted index (host.clearRouting index) := by
  refine .replaced ?_
  rw [routed_of_unrouted (routing?_clearRouting host index)]
  unfold clearRouting
  split
  · next missing =>
      have unrouted : host.routed index = [] := by simp [routed, routing?, missing]
      rw [unrouted]
      exact .of_adds (.refl _) fun _ => id
  · next cell found =>
      refine ⟨[.stage (.dispatch index) .cleared], by simp [Event.isVital], ?_⟩
      dsimp only
      split
      · next vacant => simp [routed, routing?, found, vacant, note, Journal.events_note]
      · next routing there =>
          rw [routed_of_routing? (by rw [routing?, found]; exact there)]
          refine (RoutingTable.destroyAll_events routing _).trans ?_
          simp [note, updateDispatch, Journal.events_note]

/-! ## Being alive -/

/-- Nobody who could be reached has been initialised, or tried to, from one state to a later one. -/
def Spares (index : Nat) (before after : Host) : Prop :=
  ∀ id ∈ before.reachable index, id ∉ before.journal.initialised after.journal

namespace Rerouted

theorem lively (rerouted : before.Rerouted index after) (lively : before.Lively index)
    (spares : before.Spares index after) : after.Lively index := by
  intro id reached
  cases rerouted with
  | kept same turns =>
      rw [reachable_congr same] at reached
      exact (turns.alive_iff_of_undone id).mpr ⟨lively id reached, spares id reached⟩
  | replaced turns =>
      rw [turns.alive_iff_of_begun reached, List.map_reverse, List.mem_reverse]
      -- Whoever is reachable before and after has been initialised once more in between.
      intro early
      exact spares id early ((turns.mem_initialised id).mpr (.inl reached))

theorem spares (rerouted : before.Rerouted index after) (lively : after.Lively index) :
    before.Spares index after := by
  intro id reached initialised
  cases rerouted with
  | kept same turns =>
      have awake := lively id ((reachable_congr same).symm ▸ reached)
      exact ((turns.alive_iff_of_undone id).mp awake).2 initialised
  | replaced turns =>
      rcases (turns.mem_initialised id).mp initialised with begun | refused
      · have awake := lively id begun
        rw [turns.alive_iff_of_begun begun, List.map_reverse, List.mem_reverse] at awake
        exact awake reached
      · cases refused

end Rerouted

end Host

/-! ## Runs of calls -/

inductive StageCall
  | finalize (snapshot : Snapshot)
  | clear
  | setErrorHandler (unit : Option (Instance ServiceUnit))
  | dispatch (request : Request)
  | dispatchNamed (unit : String) (phase : Phase) (request : Request)

namespace Host

variable {host before after : Host} {index : Nat} {snapshot : Snapshot}

def performOn (host : Host) (index : Nat) : StageCall → Host
  | .finalize snapshot => (host.finalizeRouting index snapshot).2
  | .clear => host.clearRouting index
  | .setErrorHandler unit => host.setErrorHandler index unit
  | .dispatch request => (host.dispatch index request).2
  | .dispatchNamed unit phase request => (host.dispatchNamed index unit phase request).2

def runOn (host : Host) (index : Nat) (calls : List StageCall) : Host :=
  calls.foldl (·.performOn index ·) host

theorem runOn_concat (host : Host) (index : Nat) (calls : List StageCall) (call : StageCall) :
    host.runOn index (calls ++ [call]) = (host.runOn index calls).performOn index call :=
  List.foldl_concat _ _ _ _

theorem not_isVital_of_admits {event : Event} (admitted : host.Admits event) :
    event.isVital = false := by
  cases event with
  | registration role id moment => rcases admitted.1 with rfl | rfl <;> rfl
  | _ => rfl

theorem performOn_rerouted (host : Host) (index : Nat) (call : StageCall) :
    host.Rerouted index (host.performOn index call) := by
  cases call with
  | finalize snapshot => exact host.finalizeRouting_rerouted index snapshot
  | clear => exact host.clearRouting_rerouted index
  | setErrorHandler unit =>
      refine (host.setErrorHandler_rests index unit).toWidens.rerouted fun event minor => ?_
      cases event <;> first | rfl | cases minor
  | dispatch request =>
      exact (host.dispatch_serves index request).evolves.toWidens.rerouted
        fun _ => not_isVital_of_admits
  | dispatchNamed unit phase request =>
      have served := dispatchNamedBy_serves callNamed_gentle index unit phase request host
      exact served.evolves.toWidens.rerouted fun _ => not_isVital_of_admits

/-- Whoever can be reached is alive after each of some calls if and only if no call initialises one
of those who could be reached before it. -/
theorem runOn_lively_iff (lively : host.Lively index) (calls : List StageCall) :
    (∀ past, past <+: calls → (host.runOn index past).Lively index) ↔
      ∀ past call, past ++ [call] <+: calls →
        (host.runOn index past).Spares index (host.runOn index (past ++ [call])) := by
  have step (past : List StageCall) (call : StageCall) :
      (host.runOn index past).Rerouted index (host.runOn index (past ++ [call])) := by
    rw [runOn_concat]
    exact performOn_rerouted _ index call
  constructor
  · exact fun always past call early => (step past call).spares (always _ early)
  · intro spared past
    -- The last call is taken off, since each is judged by what was reachable before it.
    induction past using List.reverseRecOn with
    | nil => exact fun _ => lively
    | append_singleton past call ih =>
        intro early
        have before := ih ((List.prefix_append past [call]).trans early)
        exact (step past call).lively before (spared past call early)

/-- A dispatch stage answers every request, every call by name and every lookup as it did before, in
view of what has happened since. -/
structure AnswersAs (index : Nat) (before after : Host) : Prop where
  routing : after.routing? index = before.routing? index
  lookup : ∀ name, after.lookupUnit index name = before.lookupUnit index name
  dispatch : ∀ request, after.dispatch index request =
    Host.dispatch { before with journal := after.journal } index request
  named : ∀ unit phase request, after.dispatchNamed index unit phase request =
    Host.dispatchNamed { before with journal := after.journal } index unit phase request

theorem answersAs_of_journal {journal : Journal} :
    before.AnswersAs index { before with journal := journal } :=
  ⟨rfl, fun _ => rfl, fun _ => rfl, fun _ _ _ => rfl⟩

/-- Any calls upon a dispatch stage, and then new routing.  If that is refused, the stage answers as
it did before, and of those who can be reached everyone is alive who was and has not been
initialised meanwhile.  If it is accepted, it takes the place of the old one, and everyone who can be
reached is alive but for those who could be reached before.  So whoever can be reached is alive after
each of the calls if and only if none of them initialises one of those who could be reached before
it. -/
theorem rerouted_stay_alive_iff_spared (lively : host.Lively index) (calls : List StageCall) :
    let reached := host.runOn index calls
    (∀ snapshot e after, reached.finalizeRouting index snapshot = (.error e, after) →
      reached.AnswersAs index after ∧
      ∀ id ∈ after.reachable index, Alive id after.journal.events ↔
        Alive id reached.journal.events ∧ id ∉ reached.journal.initialised after.journal) ∧
    (∀ snapshot after, reached.finalizeRouting index snapshot = (.ok (), after) →
      ∀ cell, reached.dispatches[index]? = some cell →
        after.routing? index = some (.build snapshot cell.errorUnit) ∧
        ∀ id ∈ after.reachable index, Alive id after.journal.events ↔
          id ∉ reached.reachable index) ∧
    ((∀ past, past <+: calls → (host.runOn index past).Lively index) ↔
      ∀ past call, past ++ [call] <+: calls →
        (host.runOn index past).Spares index (host.runOn index (past ++ [call]))) := by
  intro reached
  refine ⟨?_, ?_, runOn_lively_iff lively calls⟩
  · intro snapshot e after failed
    obtain ⟨same, tried, refused, turns⟩ := finalizeRouting_error failed
    refine ⟨?_, fun id _ => turns.alive_iff_of_undone id⟩
    rw [same]
    exact answersAs_of_journal
  · intro snapshot after accepted cell found
    refine ⟨finalizeRouting_ok found accepted, fun id begun => ?_⟩
    have turns := finalizeRouting_turns found accepted
    rw [turns.alive_iff_of_begun begun, List.map_reverse, List.mem_reverse]
    rfl

def plainStage : Host := (addDispatch {} .stock).2

def emptySnapshot : Snapshot := ⟨{}, [], []⟩

/-- An error handler is alive once the stage has been routed.  It is destroyed when the stage is
routed anew, and also when it is to be routed as a unit, too, and another error handler refuses;
either way it goes on to serve what no pattern accepts. -/
theorem greeter_is_routed_though_destroyed :
    let once := plainStage.runOn 0 [.setErrorHandler (some Deployment.greeter),
      .finalize emptySnapshot]
    let twice := once.performOn 0 (.finalize emptySnapshot)
    let guarded := once.performOn 0 (.setErrorHandler (some Deployment.stubborn))
    let refused := guarded.performOn 0
      (.finalize { emptySnapshot with units := [("home", Deployment.greeter)] })
    once.Lively 0 ∧
      (twice.reachable 0 = [.supplied 1] ∧ ¬ Alive (.supplied 1) twice.journal.events) ∧
      guarded.AnswersAs 0 refused ∧ refused.reachable 0 = [.supplied 1] ∧
        ¬ Alive (.supplied 1) refused.journal.events := by
  intro once twice guarded refused
  have fresh : plainStage.Lively 0 := by
    intro id reached
    cases reached
  have lively : once.Lively 0 := by
    intro id reached
    obtain rfl := List.mem_singleton.mp reached
    rfl
  obtain ⟨-, replaced, -⟩ := rerouted_stay_alive_iff_spared fresh
    [.setErrorHandler (some Deployment.greeter), .finalize emptySnapshot]
  obtain ⟨-, anew⟩ := replaced emptySnapshot twice rfl _ rfl
  obtain ⟨kept, -, -⟩ := rerouted_stay_alive_iff_spared lively
    [.setErrorHandler (some Deployment.stubborn)]
  obtain ⟨answers, awake⟩ := kept { emptySnapshot with units := [("home", Deployment.greeter)] }
    (.configuration "stubborn") refused rfl
  refine ⟨lively, ⟨rfl, ?_⟩, answers, rfl, ?_⟩
  · rw [anew (.supplied 1) (List.mem_singleton.mpr rfl)]
    exact not_not_intro (List.mem_singleton.mpr rfl)
  · rw [awake (.supplied 1) (List.mem_singleton.mpr rfl)]
    exact fun alive => alive.2 (by decide)

/-- Thawing a snapshot and freezing it again yields the objects that bindings hold; so when a stage
that is routed by a snapshot accepts the one that was thawed from it, each of these objects is in
the new routing and has been destroyed. -/
theorem thawed_objects_are_destroyed {table : RegistrationTable} {loader : ClassLoader}
    {journal later start finish : Journal} {snapshot renewed : Snapshot}
    {errorUnit : Option (Instance ServiceUnit)}
    (frozen : table.freeze loader journal = (.ok snapshot, later))
    (refrozen : snapshot.thaw.freeze loader start = (.ok renewed, finish))
    (routed : host.routing? index = some (.build snapshot errorUnit))
    (accepted : host.finalizeRouting index renewed = (.ok (), after)) {name : String}
    {record : UnitRecord} {object : Instance ServiceUnit}
    (registered : table.unit? name = some record) (held : record.binding = .shared object) :
    after.lookupUnit index name = some object ∧ ¬ Alive object.id after.journal.events := by
  have same : snapshot.table = table := RegistrationTable.table_of_freeze frozen
  rw [Snapshot.thaw, same] at refrozen
  obtain ⟨cell, placed, -⟩ := Option.bind_eq_some_iff.mp routed
  have renewal := finalizeRouting_ok placed accepted
  have alike := RoutingTable.build_resembles frozen refrozen errorUnit
  obtain ⟨early, late⟩ := alike.heldUnits name record object (same ▸ registered) held
  have before := reachable_of_has routed (RoutingTable.has_unit early)
  have now : object.id ∈ after.reachable index :=
    reachable_of_has renewal (RoutingTable.has_unit late)
  constructor
  · rw [lookupUnit, renewal]
    exact late
  · rw [(finalizeRouting_turns placed accepted).alive_iff_of_begun now, List.map_reverse,
      List.mem_reverse]
    exact not_not_intro before

end Host

end RequestPipeline
