import Mathlib.Data.List.Perm.Subperm
import RequestPipeline.Proofs.Links
import RequestPipeline.Proofs.SlotHistory

/-!
# Walks along a chain

Following the links from the head of an installed pipeline ends, and leads through the stages of the
filled slots.  A wrapper that has been in a pipeline of the context is linked as long as one that
holds it is installed, whatever it was linked to before it came to the context.
-/

namespace RequestPipeline

namespace Host

/-- Following the links from a stage to the end leads through these stages.  Nothing bounds the
walk, so from a stage whose links never end there is none. -/
inductive Walks (host : Host) : StageRef → List StageRef → Prop
  | last {ref : StageRef} (ends : host.nextOf ref = none) : Walks host ref [ref]
  | next {ref next : StageRef} {rest : List StageRef} (leads : host.nextOf ref = some next)
      (walks : Walks host next rest) : Walks host ref (ref :: rest)

theorem Walks.unique {host : Host} {ref : StageRef} {stages others : List StageRef}
    (walks : host.Walks ref stages) (other : host.Walks ref others) : others = stages := by
  induction walks generalizing others with
  | last ends =>
      cases other with
      | last => rfl
      | next leads => exact nomatch ends.symm.trans leads
  | next leads walks ih =>
      cases other with
      | last ends => exact nomatch ends.symm.trans leads
      | next leadsToo walksToo =>
          cases leads.symm.trans leadsToo
          rw [ih walksToo]

/-- A bounded walk that may be as long as the walk to the end is that walk. -/
theorem Walks.follow {host : Host} {ref : StageRef} {stages : List StageRef}
    (walks : host.Walks ref stages) {fuel : Nat} (enough : stages.length ≤ fuel + 1) :
    host.follow fuel ref = stages := by
  induction walks generalizing fuel with
  | last ends => cases fuel <;> simp [Host.follow, ends]
  | next leads walks ih =>
      cases fuel with
      | zero =>
          cases walks <;> simp at enough
      | succ fuel =>
          rw [Host.follow, leads]
          exact congrArg (List.cons _) (ih (Nat.le_of_succ_le_succ enough))

theorem nextOf_of_missing {host : Host} {index : Nat}
    (missing : ¬ index < host.wrappers.length) : host.nextOf (.wrapper index) = none := by
  rw [nextOf, List.getElem?_eq_none (Nat.le_of_not_lt missing)]
  rfl

/-- Making a stage changes no link. -/
theorem Makes.nextOf {host made : Host} {kind : StageKind} {made' : Nat}
    (makes : host.Makes kind made' made) (ref : StageRef) : made.nextOf ref = host.nextOf ref := by
  cases ref with
  | dispatch => rfl
  | wrapper index =>
      cases makes with
      | dispatch line stage => rfl
      | wrapper optional line wrapper =>
          simp only [Host.nextOf, addWrapper, note, List.getElem?_append]
          split
          · rfl
          · next beyond =>
              rw [List.getElem?_eq_none (Nat.le_of_not_lt beyond)]
              cases index - host.wrappers.length <;> simp

end Host

/-- Assembling a pipeline links its wrappers, whatever they were linked to, and no others. -/
theorem Pipeline.nextOf_assemble_of (pipeline : Pipeline) {host : Host} {index : Nat}
    (free : host.nextOf (.wrapper index) = none ∨ index ∈ pipeline.wrappers) :
    (pipeline.assemble host).nextOf (.wrapper index) =
      if index < host.wrappers.length then pipeline.link? index else none := by
  have length := (linkSome_rests host pipeline.security (.dispatch pipeline.dispatch)).wrappers
  rw [assemble, nextOf_linkSome, length, nextOf_linkSome]
  by_cases inside : index < host.wrappers.length
  · by_cases outer : pipeline.session = some index
    · simp [inside, link?, outer]
    · by_cases inner : pipeline.security = some index
      · simp [inside, link?, outer, inner]
      · have unlinked : host.nextOf (.wrapper index) = none := by
          refine free.resolve_right fun member => ?_
          simp [wrappers, outer, inner] at member
        simp [inside, link?, outer, inner, unlinked]
  · simp [inside, Host.nextOf_of_missing inside]

namespace Deployment

variable {before after deployment : Deployment}

/-! ## The pipelines of a run -/

/-- The pipeline that a call assembles, whatever becomes of it before the call ends. -/
def assembled? (deployment : Deployment) : Call → Option Pipeline
  | .beginStart =>
      if deployment.context.state.canMoveTo .starting then
        (deployment.entered .starting).installPipeline.2.context.pipeline
      else none
  | _ => none

def wrappersOf (pipeline : Option Pipeline) : List Nat :=
  (pipeline.map Pipeline.wrappers).getD []

/-- The wrappers that have been part of a pipeline of the context at some time of a run. -/
def chained : Deployment → List Call → List Nat
  | _, [] => []
  | deployment, call :: rest =>
      wrappersOf (deployment.assembled? call) ++ chained (deployment.perform call).2 rest

/-- Of some wrappers, among which are those of the installed pipeline, each is linked as that
pipeline links it, and to nothing when it stands in none. -/
structure Tied (known : List Nat) (deployment : Deployment) : Prop where
  members : ∀ index ∈ wrappersOf deployment.context.pipeline, index ∈ known
  links : ∀ index ∈ known, deployment.host.nextOf (.wrapper index) =
    if index < deployment.host.wrappers.length then
      deployment.context.pipeline.bind (·.link? index)
    else none

namespace Tied

variable {known : List Nat}

theorem congr (tied : before.Tied known) (wrappers : after.host.wrappers = before.host.wrappers)
    (pipeline : after.context.pipeline = before.context.pipeline) : after.Tied known where
  members := by
    rw [pipeline]
    exact tied.members
  links index member := by
    rw [Host.nextOf_congr wrappers, wrappers, pipeline]
    exact tied.links index member

theorem of_bare (bare : deployment.context.pipeline = none)
    (unlinked : ∀ index ∈ known, deployment.host.nextOf (.wrapper index) = none) :
    deployment.Tied known where
  members := by
    rw [bare]
    exact fun _ member => nomatch member
  links index member := by
    rw [unlinked index member, bare]
    exact (ite_self _).symm

theorem unlinked (tied : deployment.Tied known) (bare : deployment.context.pipeline = none) :
    ∀ index ∈ known, deployment.host.nextOf (.wrapper index) = none := by
  intro index member
  rw [tied.links index member, bare]
  exact ite_self _

/-- Where the links of the installed pipeline are taken away, no known wrapper is linked. -/
theorem unlink {pipeline : Pipeline} (tied : deployment.Tied known)
    (installed : deployment.context.pipeline = some pipeline) {host : Host}
    (kept : host.wrappers = deployment.host.wrappers) :
    ∀ index ∈ known, (pipeline.unlink host).nextOf (.wrapper index) = none := by
  intro index member
  rw [Pipeline.unlink, Host.nextOf_unlinkEach]
  split
  · rfl
  · next outside =>
      rw [Host.nextOf_congr kept, tied.links index member, installed]
      have unlinked : pipeline.link? index = none := by
        by_contra linked
        exact outside (Pipeline.mem_wrappers_of_link linked)
      rw [Option.bind_some, unlinked]
      exact ite_self _

end Tied

variable {known : List Nat}

/-! ## Starting -/

theorem Fetch.nextOf {kind : StageKind} {result : Except Error (Option Nat)}
    (fetch : before.Fetch kind result after) (ref : StageRef) :
    after.host.nextOf ref = before.host.nextOf ref := by
  cases fetch with
  | kept settled => rfl
  | refused wants e line => cases ref <;> rfl
  | made wants makes => exact makes.nextOf ref

theorem Fetches.nextOf (fetches : before.Fetches after) (ref : StageRef) :
    after.host.nextOf ref = before.host.nextOf ref := by
  induction fetches with
  | refl => rfl
  | tail _ fetch ih =>
      obtain ⟨kind, result, fetch⟩ := fetch
      exact (fetch.nextOf ref).trans ih

/-- While a pipeline is installed no stage is made. -/
theorem Fetch.tied {kind : StageKind} {result : Except Error (Option Nat)}
    (fetch : before.Fetch kind result after) (coherent : before.context.Coherent)
    (tied : before.Tied known) : after.Tied known := by
  cases fetch with
  | kept settled => exact tied
  | refused wants e line => exact tied.congr rfl rfl
  | @made wants index host makes =>
      have bare := coherent.uninstalled_of_wants wants
      have refits := Context.Refits.withStage (some index) ((Context.wants_iff _ _).mp wants).1
      refine .of_bare (refits.pipeline.trans bare) fun index member => ?_
      exact (makes.nextOf _).trans (tied.unlinked bare index member)

/-- Installing ties the wrappers of the new pipeline as well. -/
theorem InstallPipeline.tied {result : Except Error Unit}
    (installs : before.InstallPipeline result after) (tied : before.Tied known)
    (bare : before.context.pipeline = none) :
    after.Tied (known ++ wrappersOf after.context.pipeline) := by
  cases installs with
  | unfurnished fetches =>
      have still := fetches.refits.pipeline.trans bare
      rw [still, wrappersOf, Option.map_none, Option.getD_none, List.append_nil]
      refine .of_bare still fun index member => ?_
      exact (fetches.nextOf _).trans (tied.unlinked bare index member)
  | @installed ready pipeline host result fetches chains outcome =>
      have kept : host.wrappers = (pipeline.assemble ready.host).wrappers := by
        have started := Pipeline.startFrom_wrappers [] pipeline.stages.reverse
          (pipeline.assemble ready.host)
        rwa [← Pipeline.startAll, outcome] at started
      have length : host.wrappers.length = ready.host.wrappers.length := by
        rw [kept, (pipeline.assemble_rests ready.host).wrappers]
      refine ⟨fun index member => List.mem_append_right known member, fun index member => ?_⟩
      change host.nextOf _ = if index < host.wrappers.length then pipeline.link? index else none
      rw [Host.nextOf_congr kept, length]
      apply pipeline.nextOf_assemble_of
      obtain old | new := List.mem_append.mp member
      · exact .inl ((fetches.nextOf _).trans (tied.unlinked bare index old))
      · exact .inr new

/-- Hooks leave the links and the pipeline as they were installed. -/
theorem setUp_keeps (deployment : Deployment) :
    deployment.setUp.2.host.wrappers = deployment.installPipeline.2.host.wrappers ∧
      deployment.setUp.2.context.pipeline = deployment.installPipeline.2.context.pipeline := by
  unfold setUp
  cases deployment.installPipeline with
  | mk result ready =>
      cases result with
      | error e => exact ⟨rfl, rfl⟩
      | ok _ => exact ⟨ready.runHooks_spec.wrappers, ready.runHooks_spec.keeps.2.1⟩

theorem abortStart_tied (active : deployment.context.state.canMoveTo .failed = true)
    (tied : deployment.Tied known) : deployment.abortStart.Tied known := by
  rw [abortStart_eq active]
  have entered : (deployment.entered .failed).Tied known := tied.congr rfl rfl
  refine .of_bare rfl ?_
  change ∀ index ∈ known, (deployment.entered .failed).takenDown.nextOf _ = none
  unfold takenDown
  split
  · next bare => exact entered.unlinked bare
  · next pipeline installed =>
      exact entered.unlink installed ((Host.clearRouting_wrappers _ _).trans
        (Pipeline.stopEach_wrappers pipeline.stages _))

theorem beginStart_tied (coherent : before.context.Coherent) (tied : before.Tied known) :
    before.beginStart.2.Tied (known ++ wrappersOf (before.assembled? .beginStart)) := by
  unfold beginStart assembled?
  cases allowed : before.context.state.canMoveTo .starting with
  | false =>
      rw [move_barred allowed]
      simpa [wrappersOf] using tied
  | true =>
      rw [move_allowed allowed, if_pos rfl]
      have bare : before.context.pipeline = none := by
        apply coherent.bare
        revert allowed
        cases before.context.state <;> decide
      have installs := (before.entered .starting).installPipeline_spec rfl
      have spec := (before.entered .starting).setUp_spec rfl
      obtain ⟨wrappers, pipeline⟩ := (before.entered .starting).setUp_keeps
      have start : (before.entered .starting).Tied known := tied.congr rfl rfl
      have ready := (installs.tied start bare).congr wrappers pipeline
      dsimp only
      generalize (before.entered .starting).setUp = outcome at ready spec
      obtain ⟨result, reached⟩ := outcome
      cases result with
      | ok _ => exact ready
      | error e =>
          refine abortStart_tied (canMoveTo_failed_of_active ?_) ready
          exact List.mem_cons.mpr (.inl spec.state)

/-! ## The other calls -/

theorem Complete.tied {result : Except Error Unit} (complete : before.Complete result after)
    (tied : before.Tied known) : after.Tied known := by
  cases complete with
  | unfrozen freeze => exact tied.congr freeze.wrappers freeze.pipeline
  | frozen freeze route =>
      refine tied.congr (route.wrappers.trans freeze.wrappers) ?_
      rw [route.context]
      exact freeze.pipeline

theorem FinishStart.tied {result : Except Error Unit}
    (finishes : before.FinishStart result after) (tied : before.Tied known) :
    after.Tied known := by
  cases finishes with
  | barred barred => exact tied
  | failed starting complete =>
      exact abortStart_tied (canMoveTo_failed_of_active (complete.keeps starting).2.2)
        (complete.tied tied)
  | finished starting complete => exact complete.tied tied

theorem BeginStop.tied {result : Except Error Unit} (begins : before.BeginStop result after)
    (tied : before.Tied known) : after.Tied known := by
  cases begins with
  | barred barred => exact tied
  | bare started bare rests kept => exact tied.congr kept rfl
  | begun started installed rests kept =>
      exact tied.congr ((Pipeline.stopEach_wrappers _ _).trans kept) rfl

theorem FinishStop.tied {result : Except Error Unit} (finishes : before.FinishStop result after)
    (tied : before.Tied known) : after.Tied known := by
  cases finishes with
  | barred barred => exact tied
  | bare stopping bare => exact tied.congr rfl rfl
  | finished stopping installed =>
      exact .of_bare rfl (tied.unlink installed (Host.clearRouting_wrappers _ _))

theorem Aside.tied (aside : before.Aside after) (coherent : before.context.Coherent)
    (tied : before.Tied known) : after.Tied known := by
  cases aside with
  | same => exact tied
  | reconfigured reconfigures => exact tied.congr rfl reconfigures.pipeline
  | registered registers =>
      obtain ⟨-, table, grown, -, -, rfl⟩ := registers
      exact tied.congr rfl rfl
  | fetched fetch => exact fetch.tied coherent tied
  | kept key dispatcher => exact tied.congr rfl rfl
  | served serves => exact tied.congr serves.wrappers rfl

theorem perform_tied (coherent : deployment.context.Coherent) (tied : deployment.Tied known)
    (call : Call) :
    (deployment.perform call).2.Tied (known ++ wrappersOf (deployment.assembled? call)) := by
  have unassembled (none : deployment.assembled? call = none)
      (kept : (deployment.perform call).2.Tied known) :
      (deployment.perform call).2.Tied (known ++ wrappersOf (deployment.assembled? call)) := by
    rw [none, wrappersOf, Option.map_none, Option.getD_none, List.append_nil]
    exact kept
  cases moves : call.isMove with
  | true =>
      cases call with
      | beginStart => exact beginStart_tied coherent tied
      | finishStart => exact unassembled rfl (deployment.finishStart_spec.tied tied)
      | beginStop => exact unassembled rfl (deployment.beginStop_spec.tied tied)
      | finishStop => exact unassembled rfl (deployment.finishStop_spec.tied tied)
      | _ => cases moves
  | false =>
      refine unassembled ?_ ((deployment.perform_aside moves).tied coherent tied)
      cases call <;> first | rfl | cases moves

/-- Over every run, the wrappers that have been in a pipeline are tied. -/
theorem runCalls_tied (calls : List Call) (coherent : deployment.context.Coherent)
    (tied : deployment.Tied known) :
    (deployment.runCalls calls).Tied (known ++ deployment.chained calls) := by
  induction calls generalizing deployment known with
  | nil => exact (List.append_nil known).symm ▸ tied
  | cons call rest ih =>
      rw [chained, ← List.append_assoc]
      exact ih ((deployment.perform_step call).coherent coherent) (perform_tied coherent tied call)

/-! ## Walking -/

/-- The walk from the head of an installed pipeline leads through its stages, provided that the
wrappers exist and differ. -/
theorem Tied.walks (tied : deployment.Tied known) {pipeline : Pipeline}
    (installed : deployment.context.pipeline = some pipeline)
    (real : ∀ index ∈ pipeline.wrappers, index < deployment.host.wrappers.length)
    (apart : pipeline.wrappers.Nodup) :
    deployment.host.Walks pipeline.head pipeline.stages := by
  have linked (index : Nat) (member : index ∈ pipeline.wrappers) :
      deployment.host.nextOf (.wrapper index) = pipeline.link? index := by
    have inside : index ∈ wrappersOf deployment.context.pipeline := by
      rw [installed]
      exact member
    rw [tied.links index (tied.members index inside), installed, if_pos (real index member)]
    rfl
  obtain ⟨session, security, dispatch⟩ := pipeline
  have ends : deployment.host.Walks (.dispatch dispatch) [.dispatch dispatch] := .last rfl
  have inward : deployment.host.Walks (Pipeline.afterSession ⟨session, security, dispatch⟩)
      (security.toList.map StageRef.wrapper ++ [.dispatch dispatch]) := by
    cases security with
    | none => exact ends
    | some inner =>
        refine .next ?_ ends
        have differs : session ≠ some inner := by
          rintro rfl
          simp [Pipeline.wrappers] at apart
        have next := linked inner (by simp [Pipeline.wrappers])
        rwa [Pipeline.link?, if_neg differs, if_pos rfl] at next
  cases session with
  | none => exact inward
  | some outer =>
      refine .next ?_ inward
      have next := linked outer (by simp [Pipeline.wrappers])
      rwa [Pipeline.link?, if_pos rfl] at next

/-- Distinct wrappers that exist are no more than the host has. -/
theorem wrappers_length_le {pipeline : Pipeline}
    (real : ∀ index ∈ pipeline.wrappers, index < deployment.host.wrappers.length)
    (apart : pipeline.wrappers.Nodup) :
    pipeline.wrappers.length ≤ deployment.host.wrappers.length := by
  have within : pipeline.wrappers ⊆ List.range deployment.host.wrappers.length :=
    fun index member => List.mem_range.mpr (real index member)
  have bounded := (List.subperm_of_subset apart within).length_le
  rwa [List.length_range] at bounded

/-- After any calls on a new context whose wrappers exist when they are supplied: while a pipeline
is installed and its session and access-control stages are not the same one, following the links
from its head ends and leads through the stages of the filled slots, the session stage first, then
the access-control stage, then the dispatch stage; the names told along the links are those of the
pipeline; and the slot of a kind is filled if and only if the last accepted setter has supplied a
stage, which is then the one in it, or the kind is enabled.  While none is installed, no wrapper
that has ever been in a pipeline of the context is linked to anything. -/
theorem chains_lead_through_slots {context : Context} (new : context.IsNew) {host : Host}
    (stocked : Stocked ⟨context, host⟩) {calls : List Call}
    (supplies : Supplies ⟨context, host⟩ calls) :
    let reached := runCalls ⟨context, host⟩ calls
    (∀ pipeline, reached.context.pipeline = some pipeline →
      (∀ index, reached.context.session.stage = some index →
        reached.context.security.stage ≠ some index) →
      let stages := reached.context.session.stage.toList.map StageRef.wrapper
        ++ reached.context.security.stage.toList.map StageRef.wrapper
        ++ [.dispatch pipeline.dispatch]
      reached.context.dispatch.stage = some pipeline.dispatch ∧
      (∀ walk, reached.host.Walks pipeline.head walk ↔ walk = stages) ∧
      reached.host.linkedFrom pipeline.head = stages ∧
      reached.context.chainNames reached.host = pipeline.names reached.host ∧
      pipeline.names reached.host = stages.map reached.host.stageName) ∧
    (∀ pipeline, reached.context.pipeline = some pipeline → ∀ kind,
      let held := supplied kind ⟨context, host⟩ (context.slot kind).stage calls
      ((reached.context.slot kind).stage.isSome ↔
        held.isSome ∨ context.options.enables kind = true) ∧
      (held.isSome → (reached.context.slot kind).stage = held)) ∧
    (reached.context.pipeline = none → ∀ index ∈ chained ⟨context, host⟩ calls,
      reached.host.nextOf (.wrapper index) = none) := by
  intro reached
  have coherent : reached.context.Coherent := runCalls_coherent new.coherent calls
  have start : Tied [] ⟨context, host⟩ :=
    .of_bare new.pipeline fun index member => nomatch member
  have tied : reached.Tied (chained ⟨context, host⟩ calls) :=
    runCalls_tied calls new.coherent start
  refine ⟨?_, ?_, tied.unlinked⟩
  · intro pipeline installed separate stages
    have chains := coherent.chains pipeline installed
    have same : pipeline.stages = stages := by
      rw [Pipeline.stages, chains.session, chains.security]
    have real : ∀ index ∈ pipeline.wrappers, index < reached.host.wrappers.length := by
      have stockedNow := runCalls_stocked calls supplies stocked
      intro index member
      obtain inner | outer := List.mem_append.mp member
      · exact stockedNow .security index rfl (chains.security ▸ Option.mem_toList.mp inner)
      · exact stockedNow .session index rfl (chains.session ▸ Option.mem_toList.mp outer)
    have apart : pipeline.wrappers.Nodup := by
      rw [Pipeline.wrappers, chains.session, chains.security]
      cases outer : reached.context.session.stage with
      | none => cases reached.context.security.stage <;> simp
      | some index =>
          have other := separate index outer
          cases inner : reached.context.security.stage with
          | none => simp
          | some below => simpa [inner] using other
    have walks := tied.walks installed real apart
    have followed : reached.host.linkedFrom pipeline.head = pipeline.stages := by
      refine walks.follow ?_
      have few := wrappers_length_le real apart
      simp only [Pipeline.wrappers, Pipeline.stages, List.length_append, List.length_map,
        List.length_singleton] at few ⊢
      omega
    have told : reached.context.chainNames reached.host = pipeline.names reached.host := by
      rw [Context.chainNames, Context.head?, installed]
      exact congrArg (List.map reached.host.stageName) followed
    rw [← same]
    refine ⟨chains.dispatch, fun walk => ⟨walks.unique, ?_⟩, followed, told, rfl⟩
    rintro rfl
    exact walks
  · intro pipeline installed kind held
    have chains := coherent.chains pipeline installed
    have atFirst : Holds ⟨context, host⟩ kind (context.slot kind).stage := .inl rfl
    obtain ⟨holds, options⟩ := runCalls_holds calls atFirst
    have furnished := chains.furnished kind
    rw [show reached.context.options = context.options from options] at furnished
    obtain own | ⟨unsupplied, enabled⟩ := holds
    · have same : (reached.context.slot kind).stage = held := own
      refine ⟨?_, fun _ => same⟩
      rw [same] at furnished ⊢
      exact ⟨.inl, Or.rec id furnished⟩
    · rw [options] at enabled
      have absent : held = none := unsupplied
      refine ⟨⟨fun _ => .inr enabled, fun _ => furnished enabled⟩, fun given => ?_⟩
      rw [absent] at given
      cases given

/-- A context with access control, and two session stages, of which the first one has been linked
elsewhere before. -/
def twoSessions : Deployment where
  context := .withOptions ⟨false, true⟩
  host.wrappers :=
    [{ wrapper := .session {}, next := some (.dispatch 7) }, { wrapper := .session {} }]

/-- The context is started, stopped and started again with the other session stage. -/
def exchange : List Call :=
  [.setSessionStage (some 0), .beginStart, .finishStart, .beginStop, .finishStop,
    .setSessionStage (some 1), .beginStart]

theorem exchange_supplies : twoSessions.Supplies exchange := by
  refine ⟨?_, nofun, nofun, nofun, nofun, ?_, nofun, trivial⟩
  · intro kind index set optional
    cases set
    decide
  · intro kind index set optional
    cases set
    decide +kernel

/-- The walk leads through the second session stage once it has taken the place of the first, which
is linked to nothing when the context has stopped. -/
theorem exchanged_session_is_walked :
    (runCalls twoSessions exchange).host.Walks (.wrapper 1) [.wrapper 1, .wrapper 2, .dispatch 0] ∧
    (runCalls twoSessions (exchange.take 5)).host.nextOf (.wrapper 0) = none := by
  have stocked : twoSessions.Stocked := by
    intro kind index optional held
    cases kind <;> cases held
  have stopped : twoSessions.Supplies (exchange.take 5) := by
    obtain ⟨first, -⟩ := exchange_supplies
    exact ⟨first, nofun, nofun, nofun, nofun, trivial⟩
  constructor
  · obtain ⟨walks, -⟩ := chains_lead_through_slots (Context.isNew_withOptions _) stocked
      exchange_supplies
    have installed : (runCalls twoSessions exchange).context.pipeline =
        some ⟨some 1, some 2, 0⟩ := by decide +kernel
    have session : (runCalls twoSessions exchange).context.session.stage = some 1 := by
      decide +kernel
    have security : (runCalls twoSessions exchange).context.security.stage = some 2 := by
      decide +kernel
    obtain ⟨-, walk, -⟩ := walks _ installed fun index held other => by
      cases session.symm.trans held
      cases security.symm.trans other
    exact (walk _).mpr (by decide +kernel)
  · obtain ⟨-, -, unlinked⟩ := chains_lead_through_slots (Context.isNew_withOptions _) stocked
      stopped
    exact unlinked (by decide +kernel) 0 (by decide +kernel)

end Deployment

end RequestPipeline
