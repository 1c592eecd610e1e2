import RequestPipeline.Proofs.StageRequests

/-!
# Stages made when they are needed

A stage that was made for a slot stays there until a setter of its kind is accepted, so at most one
is made for the slot in between.  A factory that refuses leaves the slot empty, and is asked again.
-/

namespace RequestPipeline

namespace StageKind

def getter : StageKind → Call
  | .session => .sessionStage
  | .security => .securityStage
  | .dispatch => .dispatchStage

def ref : StageKind → Nat → StageRef
  | .dispatch => .dispatch
  | _ => .wrapper

theorem mem_all (kind : StageKind) : kind ∈ all := by
  cases kind <;> decide

end StageKind

namespace Asking

/-- The number of the stage, if one of the given kind was made. -/
def made? (kind : StageKind) (asking : Asking) : Option Nat :=
  if asking.kind = kind then asking.stage? else none

/-- A request is made during a call: by a getter at once, or by the beginning of a start after the
life cycle has moved.  Already before the call the slot was empty. -/
structure ArisesIn (asking : Asking) (deployment : Deployment) (call : Call) : Prop where
  slot : (deployment.context.slot asking.kind).stage = none
  enabled : deployment.context.options.enables asking.kind = true
  state : call = asking.kind.getter ∧ asking.moment = deployment ∧
      deployment.context.state ∈ [.uninitialized, .starting] ∨
    call = .beginStart ∧ asking.moment.context.state = .starting ∧
      deployment.context.state ∈ [.uninitialized, .stopped]

end Asking

/-- A slot comes to hold one thing after the other, while these stages are made for it. -/
inductive Provision : Option Nat → List Nat → Option Nat → Prop
  | kept (held : Option Nat) : Provision held [] held
  | made (index : Nat) : Provision none [index] (some index)

namespace Provision

variable {before middle after : Option Nat} {first second made : List Nat}

/-- No stage is made for a slot that is filled. -/
theorem trans (begun : Provision before first middle) (ended : Provision middle second after) :
    Provision before (first ++ second) after := by
  cases begun with
  | kept => exact ended
  | made index =>
      cases ended with
      | kept => exact .made index

theorem length_le (provision : Provision before made after) : made.length ≤ 1 := by
  cases provision with
  | kept => exact Nat.zero_le 1
  | made index => exact Nat.le_refl 1

theorem held {index : Nat} (provision : Provision before made after)
    (there : index ∈ made ∨ before = some index) : after = some index := by
  cases provision with
  | kept =>
      rcases there with made | same
      · cases made
      · exact same
  | made number =>
      rcases there with made | same
      · rw [List.mem_singleton.mp made]
      · cases same

end Provision

namespace Deployment

variable {deployment before after : Deployment} {kind : StageKind}

/-- The stages made for a slot when the factory was asked like this. -/
abbrev madeFor (kind : StageKind) (askings : List Asking) : List Nat :=
  askings.filterMap (Asking.made? kind)

/-- The slot of a kind goes from what it held in one deployment to what it holds in another, while
these stages are made for it. -/
abbrev Provides (before : Deployment) (kind : StageKind) (askings : List Asking)
    (after : Deployment) : Prop :=
  Provision (before.context.slot kind).stage (madeFor kind askings) (after.context.slot kind).stage

theorem Unasked.provides (unasked : before.Unasked after) (kind : StageKind) :
    before.Provides kind [] after := by
  unfold Provides
  rw [unasked.slots kind]
  exact .kept _

theorem Provides.trans {middle : Deployment} {first second : List Asking}
    (begun : before.Provides kind first middle) (ended : middle.Provides kind second after) :
    before.Provides kind (first ++ second) after := by
  have both := Provision.trans begun ended
  rwa [← List.filterMap_append] at both

theorem fetch_provides (deployment : Deployment) (asked kind : StageKind) :
    deployment.Provides kind (deployment.asks asked) (deployment.fetch asked).2 := by
  by_cases wants : deployment.context.Wants asked
  · rw [asks_wanted wants]
    obtain ⟨e, line, refused⟩ | ⟨index, host, makes, made⟩ := fetch_of_wants wants
    · have nothing : Asking.made? kind ⟨asked, deployment⟩ = none := by
        simp [Asking.made?, Asking.stage?, Asking.outcome, refused]
      unfold Provides madeFor
      rw [refused, List.filterMap_cons_none nothing]
      exact .kept _
    · unfold Provides madeFor
      rw [made]
      by_cases same : asked = kind
      · subst same
        have granted : Asking.made? asked ⟨asked, deployment⟩ = some index := by
          simp [Asking.made?, Asking.stage?, Asking.outcome, made]
        rw [List.filterMap_cons_some granted, Context.slot_withStage_self,
          ((deployment.context.wants_iff asked).mp wants).1]
        exact .made index
      · have nothing : Asking.made? kind ⟨asked, deployment⟩ = none := by
          simp [Asking.made?, same]
        rw [List.filterMap_cons_none nothing, Context.slot_withStage_of_ne _ _ (Ne.symm same)]
        exact .kept _
  · rw [asks_settled wants, fetch_of_not_wants wants]
    exact .kept _

theorem provides_reading (kind : StageKind) :
    Reading fun before askings after => before.Provides kind askings after where
  unasked unasked := unasked.provides kind
  fetched deployment asked := deployment.fetch_provides asked kind
  trans := .trans

/-! ## Calls and runs -/

/-- No setter of a kind is accepted during a run. -/
def Unset (kind : StageKind) : Deployment → List Call → Prop
  | _, [] => True
  | deployment, call :: rest =>
      (∀ stage, call.setting? = some (kind, stage) → ∃ e, (deployment.perform call).1 = .error e) ∧
        Unset kind (deployment.perform call).2 rest

theorem perform_getter (deployment : Deployment) (kind : StageKind) :
    deployment.perform kind.getter = settleStage kind.ref (deployment.fetch kind) := by
  cases kind <;> rfl

theorem asksFor_getter (deployment : Deployment) (kind : StageKind) :
    deployment.asksFor kind.getter = deployment.asks kind := by
  cases kind <;> rfl

/-- A setter of another kind, or one that is refused, leaves the slot alone. -/
theorem perform_setting_provides (deployment : Deployment) {call : Call} {set : StageKind}
    {stage : Option Nat} (sets : call.setting? = some (set, stage))
    (unset : set = kind → ∃ e, (deployment.perform call).1 = .error e) :
    deployment.Provides kind [] (deployment.perform call).2 := by
  obtain ⟨e, refused⟩ | accepted := deployment.perform_setting sets
  · rw [refused]
    exact .kept _
  · have differs : kind ≠ set := by
      intro same
      obtain ⟨e, refused⟩ := unset same.symm
      rw [accepted] at refused
      cases refused
    unfold Provides
    rw [accepted, Context.slot_withStage_of_ne _ _ differs]
    exact .kept _

/-- During a call without an accepted setter of the kind, its slot is filled at most. -/
theorem perform_provides (deployment : Deployment) {call : Call}
    (unset : ∀ stage, call.setting? = some (kind, stage) →
      ∃ e, (deployment.perform call).1 = .error e) :
    deployment.Provides kind (deployment.asksFor call) (deployment.perform call).2 := by
  cases sets : call.setting? with
  | none => exact (provides_reading kind).perform deployment sets
  | some setting =>
      rw [deployment.asksFor_setting sets]
      refine deployment.perform_setting_provides sets fun same => unset setting.2 ?_
      rw [sets, ← same]

/-- During a run without an accepted setter of the kind, its slot is filled at most. -/
theorem runCalls_provides (calls : List Call) {deployment : Deployment}
    (unset : deployment.Unset kind calls) :
    deployment.Provides kind (deployment.askings calls) (deployment.runCalls calls) := by
  induction calls generalizing deployment with
  | nil => exact .kept _
  | cons call rest ih => exact (deployment.perform_provides unset.1).trans (ih unset.2)

/-- A getter gives back the stage that is there and changes nothing, in whatever state. -/
theorem perform_getter_of_held {index : Nat}
    (held : (deployment.context.slot kind).stage = some index) :
    deployment.perform kind.getter = (.ok (.stage (some (kind.ref index))), deployment) := by
  have settled : ¬ deployment.context.Wants kind := by
    rw [Context.wants_iff, held]
    exact fun wants => nomatch wants.1
  rw [perform_getter, fetch_of_not_wants settled, held]
  rfl

/-- What a getter gives back is in the slot from then on. -/
theorem held_of_perform_getter {ref : StageRef}
    (answered : (deployment.perform kind.getter).1 = .ok (.stage (some ref))) :
    ∃ index, ref = kind.ref index ∧
      ((deployment.perform kind.getter).2.context.slot kind).stage = some index := by
  have spec := deployment.fetch_spec kind
  rw [perform_getter] at answered ⊢
  generalize deployment.fetch kind = step at spec answered ⊢
  obtain ⟨result, next⟩ := step
  cases result with
  | error e => cases answered
  | ok stage =>
      have there := Fetch.stage spec
      cases stage with
      | none => cases answered
      | some index =>
          cases answered
          exact ⟨index, rfl, there⟩

/-! ## Where requests come from -/

theorem mem_asks {asking : Asking} (asked : asking ∈ deployment.asks kind) :
    asking = ⟨kind, deployment⟩ ∧ deployment.context.Wants kind := by
  by_cases wants : deployment.context.Wants kind
  · rw [asks_wanted wants] at asked
    exact ⟨List.mem_singleton.mp asked, wants⟩
  · rw [asks_settled wants] at asked
    cases asked

/-- The requests of a beginning start are made while stages are fetched. -/
theorem mem_asksAlong {kinds : List StageKind} {deployment : Deployment} {asking : Asking}
    (asked : asking ∈ asksAlong kinds deployment) :
    deployment.Fetches asking.moment ∧ asking.IsDue := by
  induction kinds generalizing deployment with
  | nil => cases asked
  | cons kind rest ih =>
      rcases List.mem_append.mp asked with now | later
      · obtain ⟨rfl, wants⟩ := mem_asks now
        exact ⟨.refl, Asking.isDue wants⟩
      · have spec := deployment.fetch_spec kind
        generalize deployment.fetch kind = step at spec later
        obtain ⟨result, next⟩ := step
        cases result with
        | error e => cases later
        | ok stage =>
            obtain ⟨fetches, due⟩ := ih later
            exact ⟨.head ⟨_, _, spec⟩ fetches, due⟩

theorem getter_arises {asking : Asking} (asked : asking ∈ deployment.asks kind) :
    asking.ArisesIn deployment kind.getter := by
  obtain ⟨rfl, wants⟩ := mem_asks asked
  have due : Asking.IsDue ⟨kind, deployment⟩ := Asking.isDue wants
  exact ⟨due.slot, due.enabled, .inl ⟨rfl, rfl, due.state⟩⟩

theorem beginStart_arises {asking : Asking} (asked : asking ∈ deployment.asksFor .beginStart) :
    asking.ArisesIn deployment .beginStart := by
  obtain ⟨allowed, along⟩ := mem_asksFor_beginStart asked
  obtain ⟨fetches, due⟩ := mem_asksAlong along
  have refits := fetches.refits
  have entered := deployment.entered_unasked .starting
  refine ⟨?_, ?_, .inr ⟨rfl, refits.state, ?_⟩⟩
  · -- a slot that was filled would still be
    cases held : (deployment.context.slot asking.kind).stage with
    | none => rfl
    | some index =>
        have there := (congrArg Slot.stage (entered.slots asking.kind)).trans held
        have same := refits.filled asking.kind (by rw [there]; rfl)
        rw [← there, ← same]
        exact due.slot
  · rw [← entered.options, ← refits.options]
    exact due.enabled
  · generalize deployment.context.state = state at allowed ⊢
    cases state <;> first | decide | cases allowed

theorem asksFor_arises {call : Call} {asking : Asking} (asked : asking ∈ deployment.asksFor call) :
    asking.ArisesIn deployment call := by
  cases call with
  | sessionStage => exact getter_arises asked
  | securityStage => exact getter_arises asked
  | dispatchStage => exact getter_arises asked
  | beginStart => exact beginStart_arises asked
  | _ => cases asked

/-! ## Refused requests -/

/-- A getter whose request is refused changes nothing but the journal. -/
theorem fetch_failed {asking : Asking} {e : Error} (asked : asking ∈ deployment.asks kind)
    (failed : asking.outcome = .error e) :
    asking = ⟨kind, deployment⟩ ∧ deployment.context.Wants kind ∧ ∃ line, deployment.fetch kind =
      (.error e, { deployment with host := deployment.host.note (.requested kind) line }) := by
  obtain ⟨rfl, wants⟩ := mem_asks asked
  obtain ⟨own, line, refused⟩ | ⟨index, host, makes, made⟩ := fetch_of_wants wants
  · simp only [Asking.outcome, refused] at failed
    cases failed
    exact ⟨rfl, wants, line, refused⟩
  · simp [Asking.outcome, made] at failed

/-- A refused request is the last one: its error is reported and its slot stays empty. -/
theorem fetchAlong_failed (kinds : List StageKind) {deployment : Deployment} {asking : Asking}
    {e : Error} (asked : asking ∈ asksAlong kinds deployment) (failed : asking.outcome = .error e) :
    (fetchAlong kinds deployment).1 = .error e ∧
      ((fetchAlong kinds deployment).2.context.slot asking.kind).stage = none := by
  induction kinds generalizing deployment with
  | nil => cases asked
  | cons kind rest ih =>
      unfold fetchAlong
      rcases List.mem_append.mp asked with now | later
      · obtain ⟨rfl, wants, line, refused⟩ := fetch_failed now failed
        rw [refused]
        exact ⟨rfl, ((deployment.context.wants_iff kind).mp wants).1⟩
      · generalize deployment.fetch kind = step at later ⊢
        obtain ⟨result, next⟩ := step
        cases result with
        | error own => cases later
        | ok stage => exact ih later

/-- When a stage is still to be made, it is asked for, or an earlier request is refused. -/
theorem asked_of_wants {kinds : List StageKind} {deployment : Deployment}
    (member : kind ∈ kinds) (wants : deployment.context.Wants kind) :
    ∃ asking ∈ asksAlong kinds deployment, asking.kind = kind ∨ asking.stage? = none := by
  induction kinds generalizing deployment with
  | nil => cases member
  | cons first rest ih =>
      unfold asksAlong
      by_cases same : kind = first
      · subst same
        rw [asks_wanted wants]
        exact ⟨_, List.mem_cons_self, .inl rfl⟩
      · have later := (List.mem_cons.mp member).resolve_left same
        by_cases wanted : deployment.context.Wants first
        · rw [asks_wanted wanted]
          obtain ⟨e, line, refused⟩ | ⟨index, host, makes, made⟩ := fetch_of_wants wanted
          · refine ⟨_, List.mem_cons_self, .inr ?_⟩
            simp [Asking.stage?, Asking.outcome, refused]
          · rw [made]
            have still : (deployment.context.withStage first (some index)).Wants kind := by
              rw [Context.wants_iff] at wants ⊢
              rw [Context.slot_withStage_of_ne _ _ same]
              cases first <;> exact wants
            obtain ⟨asking, asked, either⟩ := @ih ⟨_, host⟩ later still
            exact ⟨asking, List.mem_append_right _ asked, either⟩
        · rw [asks_settled wanted, fetch_of_not_wants wanted]
          exact ih later wants

/-- The stage of a kind is still to be made: its getter asks the factory for it, and so does the
beginning of a start, unless another request is refused before. -/
structure Lacks (deployment : Deployment) (kind : StageKind) : Prop where
  getter : deployment.asksFor kind.getter = [⟨kind, deployment⟩]
  start : deployment.context.state.canMoveTo .starting = true →
    ∃ asking ∈ deployment.asksFor .beginStart, asking.kind = kind ∨ asking.stage? = none

theorem lacks_of_wants (wants : deployment.context.Wants kind) : deployment.Lacks kind where
  getter := (deployment.asksFor_getter kind).trans (asks_wanted wants)
  start allowed := by
    have still : (deployment.entered .starting).context.Wants kind := by
      rw [Context.wants_iff] at wants ⊢
      rw [(deployment.entered_unasked .starting).slots kind]
      exact ⟨wants.1, wants.2.1, rfl⟩
    rw [asksFor_beginStart allowed]
    exact asked_of_wants kind.mem_all still

/-- The factory has been asked in vain: the error is that of the call and the slot stays empty.
Unless a start was begun, the context is as before and the stage is still to be made. -/
structure Refuses (deployment : Deployment) (call : Call) (kind : StageKind) (e : Error) :
    Prop where
  answer : (deployment.perform call).1 = .error e
  slot : ((deployment.perform call).2.context.slot kind).stage = none
  aside : call ≠ .beginStart → (deployment.perform call).2.context = deployment.context ∧
    (deployment.perform call).2.Lacks kind

theorem getter_refuses {asking : Asking} {e : Error} (asked : asking ∈ deployment.asks kind)
    (failed : asking.outcome = .error e) : deployment.Refuses kind.getter asking.kind e := by
  obtain ⟨rfl, wants, line, refused⟩ := fetch_failed asked failed
  have performed : deployment.perform kind.getter =
      (.error e, { deployment with host := deployment.host.note (.requested kind) line }) := by
    rw [perform_getter, refused]
    rfl
  constructor
  case answer => rw [performed]
  case slot =>
    rw [performed]
    exact ((deployment.context.wants_iff kind).mp wants).1
  case aside =>
    intro
    rw [performed]
    exact ⟨rfl, lacks_of_wants wants⟩

theorem perform_refuses {call : Call} {asking : Asking} {e : Error}
    (asked : asking ∈ deployment.asksFor call) (failed : asking.outcome = .error e) :
    deployment.Refuses call asking.kind e := by
  cases call with
  | sessionStage => exact getter_refuses asked failed
  | securityStage => exact getter_refuses asked failed
  | dispatchStage => exact getter_refuses asked failed
  | beginStart =>
      obtain ⟨allowed, along⟩ := mem_asksFor_beginStart asked
      have goesOn := beginStart_goesOn allowed
      obtain ⟨stopped, empty⟩ := fetchAlong_failed StageKind.all along failed
      refine ⟨?_, ?_, fun other => absurd rfl other⟩
      · rw [perform, settleMove, goesOn.failed e stopped]
        rfl
      · exact (congrArg Slot.stage (goesOn.unasked.slots asking.kind)).trans empty
  | _ => cases asked

/-! ## Any run -/

/-- During every run the factory is asked for a stage only before a start has been completed, while
the slot is empty and the kind enabled, and every stage that is made answers such a request.  As
long as no setter of a kind is accepted, at most one stage of the kind is made, and once there is
one every getter gives back the same.  A request that is refused leaves the slot empty, and unless
a start was begun it leaves the context as it was and is made again. -/
theorem stages_are_made_once (deployment : Deployment) (early stretch : List Call) :
    let begun := deployment.runCalls early
    let reached := begun.runCalls stretch
    let asked := deployment.askings (early ++ stretch)
    (reached.host.journal.events.filter Event.isRequest =
        deployment.host.journal.events.filter Event.isRequest ++
          asked.map (Event.requested ·.kind) ∧
      reached.host.stageCount =
        deployment.host.stageCount + (asked.filterMap Asking.stage?).length ∧
      ∀ asking ∈ asked, asking.IsDue ∧ ∃ earlier later,
        asking.moment.host.journal.events = deployment.host.journal.events ++ earlier ∧
        reached.host.journal.events =
          asking.moment.host.journal.events ++ .requested asking.kind :: later) ∧
    (∀ kind, begun.Unset kind stretch →
      (madeFor kind (begun.askings stretch)).length ≤ 1 ∧
      (∀ index ∈ madeFor kind (begun.askings stretch),
        reached.perform kind.getter = (.ok (.stage (some (kind.ref index))), reached)) ∧
      ∀ rest ref, stretch = kind.getter :: rest →
        (begun.perform kind.getter).1 = .ok (.stage (some ref)) →
          reached.perform kind.getter = (.ok (.stage (some ref)), reached)) ∧
    ∀ call, ∀ asking ∈ reached.asksFor call, asking.ArisesIn reached call ∧
      ∀ e, asking.outcome = .error e → reached.Refuses call asking.kind e := by
  intro begun reached asked
  have whole : Asked deployment.host asked reached.host := by
    have run := deployment.runCalls_asked (early ++ stretch)
    rwa [runCalls, List.foldl_append] at run
  refine ⟨⟨whole.requests, whole.stageCount, whole.moments⟩, ?_, fun call asking member =>
    ⟨asksFor_arises member, fun e => perform_refuses member⟩⟩
  intro kind unset
  have provides := runCalls_provides stretch unset
  refine ⟨provides.length_le, fun index made => ?_, ?_⟩
  · exact perform_getter_of_held (provides.held (.inl made))
  · rintro rest ref rfl answered
    obtain ⟨index, rfl, held⟩ := held_of_perform_getter answered
    have later := runCalls_provides rest unset.2
    exact perform_getter_of_held (later.held (.inr held))

/-- A context with sessions whose factory makes a session stage when it is asked a second time. -/
def reluctant : Deployment where
  context := { options := ⟨true, false⟩, factory := { StageFactory.stock with
    session := fun journal =>
      if journal.isEmpty then .error (.configuration "not yet") else .ok (.session {}) } }

/-- After a refusal the factory is asked again; the stage that it makes then is the one of the
pipeline, and the one given back once the context is started. -/
theorem sessionStage_on_second_request :
    let begun := reluctant.runCalls [.sessionStage]
    let stretch := [.sessionStage, .beginStart, .finishStart]
    let reached := begun.runCalls stretch
    (reluctant.perform .sessionStage).1 =
        .error (.configurationFrom "failed to create session stage" (.configuration "not yet")) ∧
      begun.asksFor .sessionStage = [⟨.session, begun⟩] ∧
      reached.context.state = .started ∧
      madeFor .session (begun.askings stretch) = [0] ∧
      reached.perform .sessionStage = (.ok (.stage (some (.wrapper 0))), reached) := by
  intro begun stretch reached
  have failed := ((stages_are_made_once reluctant [] []).2.2 .sessionStage ⟨.session, reluctant⟩
    (List.mem_singleton.mpr rfl)).2 _ rfl
  have made : madeFor .session (begun.askings stretch) = [0] := by decide
  have unset : begun.Unset .session stretch := ⟨nofun, nofun, nofun, trivial⟩
  have run := ((stages_are_made_once reluctant [.sessionStage] stretch).2.1 .session unset).2.1
  exact ⟨failed.answer, (failed.aside nofun).2.getter, rfl, made, run 0 (by rw [made]; decide)⟩

end Deployment

end RequestPipeline
