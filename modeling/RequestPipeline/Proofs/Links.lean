import RequestPipeline.Proofs.Refusals

/-!
# Links

A wrapper is linked to another stage as long as the pipeline that it stands in is installed, and to
nothing at any other time.  Starting, stopping, routing and serving leave every link alone.
-/

namespace RequestPipeline

/-- The stage that a pipeline links a wrapper to.  The session link is made last, so it is the one
that holds for a wrapper in both places. -/
def Pipeline.link? (pipeline : Pipeline) (index : Nat) : Option StageRef :=
  if pipeline.session = some index then some pipeline.afterSession
  else if pipeline.security = some index then some (.dispatch pipeline.dispatch)
  else none

theorem Pipeline.mem_wrappers_of_link {pipeline : Pipeline} {index : Nat}
    (linked : pipeline.link? index ≠ none) : index ∈ pipeline.wrappers := by
  unfold link? at linked
  split at linked
  · next session => simp [wrappers, session]
  · split at linked
    · next security => simp [wrappers, security]
    · exact absurd rfl linked

namespace Host

variable {before after : Host}

/-- No wrapper is linked to anything. -/
def Unlinked (host : Host) : Prop := ∀ index, host.nextOf (.wrapper index) = none

theorem nextOf_congr (kept : after.wrappers = before.wrappers) (ref : StageRef) :
    after.nextOf ref = before.nextOf ref := by
  cases ref <;> simp only [nextOf, kept]

theorem Unlinked.congr (unlinked : before.Unlinked) (kept : after.wrappers = before.wrappers) :
    after.Unlinked :=
  fun index => (nextOf_congr kept _).trans (unlinked index)

/-! ## Linking and unlinking -/

theorem nextOf_updateWrapper (host : Host) (index other : Nat) (next : Option StageRef) :
    (host.updateWrapper index fun cell => { cell with next := next }).nextOf (.wrapper other) =
      if index = other ∧ other < host.wrappers.length then next
      else host.nextOf (.wrapper other) := by
  simp only [nextOf, updateWrapper, List.getElem?_modify]
  by_cases same : index = other
  · by_cases inside : other < host.wrappers.length
    · simp [same, inside]
    · simp [inside]
  · simp [same]

theorem nextOf_link (host : Host) (index other : Nat) (next : StageRef) :
    (host.link index next).nextOf (.wrapper other) =
      if index = other ∧ other < host.wrappers.length then some next
      else host.nextOf (.wrapper other) := by
  unfold link
  split
  · next missing =>
      have outside := List.getElem?_eq_none_iff.mp missing
      rw [if_neg]
      rintro ⟨rfl, inside⟩
      omega
  · exact nextOf_updateWrapper _ index other (some next)

theorem nextOf_unlink (host : Host) (index other : Nat) :
    (host.unlink index).nextOf (.wrapper other) =
      if index = other then none else host.nextOf (.wrapper other) := by
  unfold unlink
  split
  · next missing =>
      split
      · next same => simp [nextOf, ← same, missing]
      · rfl
  · next cell found =>
      obtain ⟨inside, -⟩ := List.getElem?_eq_some_iff.mp found
      refine (nextOf_updateWrapper _ index other none).trans ?_
      by_cases same : index = other
      · rw [if_pos ⟨same, same ▸ inside⟩, if_pos same]
      · rw [if_neg (fun both => same both.1), if_neg same]
        rfl

theorem nextOf_unlinkEach (indices : List Nat) (host : Host) (other : Nat) :
    (indices.foldl unlink host).nextOf (.wrapper other) =
      if other ∈ indices then none else host.nextOf (.wrapper other) := by
  induction indices generalizing host with
  | nil => rfl
  | cons index rest ih =>
      rw [List.foldl_cons, ih, nextOf_unlink]
      by_cases later : other ∈ rest
      · simp [later]
      · by_cases same : index = other
        · simp [same]
        · simp [later, same, Ne.symm same]

/-! ## What leaves the links alone -/

theorem startStage_wrappers (host : Host) (ref : StageRef) :
    (host.startStage ref).2.wrappers = host.wrappers := by
  cases ref with
  | wrapper index =>
      simp only [startStage, startWrapper]
      split <;> rfl
  | dispatch index =>
      simp only [startStage, startDispatch]
      split
      · rfl
      · split <;> rfl

theorem stopStage_wrappers (host : Host) (ref : StageRef) :
    (host.stopStage ref).wrappers = host.wrappers := by
  unfold stopStage
  split <;> split <;> rfl

theorem setErrorHandler_wrappers (host : Host) (index : Nat)
    (unit : Option (Instance ServiceUnit)) :
    (host.setErrorHandler index unit).wrappers = host.wrappers := by
  unfold setErrorHandler
  split <;> rfl

theorem replaceRouting_wrappers (host : Host) (index : Nat) (routing : RoutingTable) :
    (host.replaceRouting index routing).wrappers = host.wrappers := by
  unfold replaceRouting
  split
  · rfl
  · dsimp only
    split <;> rfl

theorem finalizeRouting_wrappers (host : Host) (index : Nat) (snapshot : Snapshot) :
    (host.finalizeRouting index snapshot).2.wrappers = host.wrappers := by
  unfold finalizeRouting
  split
  · rfl
  · dsimp only
    split
    · rfl
    · split
      · rfl
      · exact replaceRouting_wrappers _ index _

theorem clearRouting_wrappers (host : Host) (index : Nat) :
    (host.clearRouting index).wrappers = host.wrappers := by
  unfold clearRouting
  split
  · rfl
  · dsimp only
    split <;> rfl

/-- A stage that has just been made is not linked. -/
theorem Makes.unlinked {host made : Host} {kind : StageKind} {index : Nat}
    (makes : host.Makes kind index made) (unlinked : host.Unlinked) : made.Unlinked := by
  cases makes with
  | wrapper optional line wrapper =>
      intro other
      have before := unlinked other
      simp only [nextOf, addWrapper, note, List.getElem?_append] at before ⊢
      split
      · exact before
      · cases other - host.wrappers.length <;> simp
  | dispatch line stage => exact unlinked

end Host

namespace Pipeline

theorem stopEach_wrappers (refs : List StageRef) (host : Host) :
    (stopEach refs host).wrappers = host.wrappers := by
  induction refs generalizing host with
  | nil => rfl
  | cons ref rest ih => exact (ih (host.stopStage ref)).trans (host.stopStage_wrappers ref)

theorem startFrom_wrappers (done rest : List StageRef) (host : Host) :
    (startFrom done rest host).2.wrappers = host.wrappers := by
  induction rest generalizing done host with
  | nil => rfl
  | cons ref rest ih =>
      have first := host.startStage_wrappers ref
      unfold startFrom
      split
      · next started =>
          rw [started] at first
          exact (ih _ _).trans first
      · next refused =>
          rw [refused] at first
          exact (stopEach_wrappers done _).trans first

theorem nextOf_linkSome (host : Host) (index : Option Nat) (next : StageRef) (other : Nat) :
    (linkSome host index next).nextOf (.wrapper other) =
      if index = some other ∧ other < host.wrappers.length then some next
      else host.nextOf (.wrapper other) := by
  cases index with
  | none => rfl
  | some index =>
      simp only [linkSome, Option.some.injEq]
      exact host.nextOf_link index other next

/-- Assembling a pipeline links its wrappers and no others. -/
theorem nextOf_assemble (pipeline : Pipeline) {host : Host} (unlinked : host.Unlinked)
    (index : Nat) : (pipeline.assemble host).nextOf (.wrapper index) =
      if index < host.wrappers.length then pipeline.link? index else none := by
  have length := (linkSome_rests host pipeline.security (.dispatch pipeline.dispatch)).wrappers
  rw [assemble, nextOf_linkSome, length, nextOf_linkSome, unlinked index]
  by_cases inside : index < host.wrappers.length
  · simp [inside, link?]
  · simp [inside]

/-- When no wrapper but those of a pipeline is linked, taking the links of the pipeline away leaves
none. -/
theorem unlink_unlinked (pipeline : Pipeline) {host : Host}
    (within : ∀ index, host.nextOf (.wrapper index) ≠ none → index ∈ pipeline.wrappers) :
    (pipeline.unlink host).Unlinked := by
  intro index
  rw [unlink, Host.nextOf_unlinkEach]
  split
  · rfl
  · next outside =>
      by_contra linked
      exact outside (within index linked)

end Pipeline

namespace Deployment

variable {before after deployment : Deployment}

/-- The links are those of the installed pipeline. -/
def Linked (deployment : Deployment) : Prop :=
  ∀ index, deployment.host.nextOf (.wrapper index) =
    if index < deployment.host.wrappers.length then
      deployment.context.pipeline.bind (·.link? index)
    else none

namespace Linked

theorem congr (linked : before.Linked) (wrappers : after.host.wrappers = before.host.wrappers)
    (pipeline : after.context.pipeline = before.context.pipeline) : after.Linked := by
  intro index
  rw [Host.nextOf_congr wrappers, wrappers, pipeline]
  exact linked index

theorem of_unlinked (bare : deployment.context.pipeline = none)
    (unlinked : deployment.host.Unlinked) : deployment.Linked := by
  intro index
  rw [unlinked index, bare]
  exact (ite_self _).symm

theorem unlinked (linked : deployment.Linked) (bare : deployment.context.pipeline = none) :
    deployment.host.Unlinked := by
  intro index
  rw [linked index, bare]
  exact ite_self _

theorem within (linked : deployment.Linked) {pipeline : Pipeline}
    (installed : deployment.context.pipeline = some pipeline) {index : Nat}
    (some : deployment.host.nextOf (.wrapper index) ≠ none) : index ∈ pipeline.wrappers := by
  apply Pipeline.mem_wrappers_of_link
  intro none
  apply some
  rw [linked index, installed, Option.bind_some, none]
  exact ite_self _

end Linked

/-! ## Starting -/

theorem Fetch.unlinked {kind : StageKind} {result : Except Error (Option Nat)}
    (fetch : before.Fetch kind result after) (unlinked : before.host.Unlinked) :
    after.host.Unlinked := by
  cases fetch with
  | kept settled => exact unlinked
  | refused wants e line => exact unlinked.congr rfl
  | made wants makes => exact makes.unlinked unlinked

/-- While a pipeline is installed no stage is made, and so no wrapper added. -/
theorem Fetch.linked {kind : StageKind} {result : Except Error (Option Nat)}
    (fetch : before.Fetch kind result after) (coherent : before.context.Coherent)
    (linked : before.Linked) : after.Linked := by
  cases held : before.context.pipeline with
  | none =>
      exact .of_unlinked (fetch.refits.pipeline.trans held) (fetch.unlinked (linked.unlinked held))
  | some pipeline =>
      cases fetch with
      | kept settled => exact linked
      | refused wants e line => exact linked.congr rfl rfl
      | made wants makes =>
          rw [coherent.uninstalled_of_wants wants] at held
          cases held

theorem Fetches.unlinked (fetches : before.Fetches after) (unlinked : before.host.Unlinked) :
    after.host.Unlinked := by
  induction fetches with
  | refl => exact unlinked
  | tail _ fetch ih =>
      obtain ⟨kind, result, fetch⟩ := fetch
      exact fetch.unlinked ih

theorem RunHooks.wrappers {result : Except Error Unit} (hooks : before.RunHooks result after) :
    after.host.wrappers = before.host.wrappers := by
  cases hooks <;> rfl

theorem withPipeline_linked {ready : Deployment} {pipeline : Pipeline} {host : Host}
    (unlinked : ready.host.Unlinked)
    (kept : host.wrappers = (pipeline.assemble ready.host).wrappers) :
    (ready.withPipeline pipeline host).Linked := by
  intro index
  have length : host.wrappers.length = ready.host.wrappers.length := by
    rw [kept, (pipeline.assemble_rests ready.host).wrappers]
  change host.nextOf _ = if index < host.wrappers.length then pipeline.link? index else none
  rw [Host.nextOf_congr kept, pipeline.nextOf_assemble unlinked, length]

theorem SetUp.linked {result : Except Error Unit} (setUp : before.SetUp result after)
    (unlinked : before.host.Unlinked) (bare : before.context.pipeline = none) :
    after.Linked := by
  have kept {ready : Deployment} {pipeline : Pipeline} {host : Host} {result : Except Error Unit}
      (outcome : pipeline.startAll (pipeline.assemble ready.host) = (result, host)) :
      host.wrappers = (pipeline.assemble ready.host).wrappers := by
    have started := Pipeline.startFrom_wrappers [] pipeline.stages.reverse
      (pipeline.assemble ready.host)
    rwa [← Pipeline.startAll, outcome] at started
  cases setUp with
  | unfurnished fetches =>
      exact .of_unlinked (fetches.refits.pipeline.trans bare) (fetches.unlinked unlinked)
  | refused fetches chains outcome =>
      exact withPipeline_linked (fetches.unlinked unlinked) (kept outcome)
  | hooked fetches chains outcome hooks =>
      have linked := withPipeline_linked (fetches.unlinked unlinked) (kept outcome)
      exact linked.congr hooks.wrappers hooks.keeps.2.1

theorem Freeze.wrappers {result : Except Error Snapshot} (freeze : before.Freeze result after) :
    after.host.wrappers = before.host.wrappers := by
  cases freeze <;> rfl

theorem RouteBy.wrappers {snapshot : Snapshot} {result : Except Error Unit}
    (route : before.RouteBy snapshot result after) :
    after.host.wrappers = before.host.wrappers := by
  cases route with
  | unrouted => rfl
  | @routed pipeline result host installed outcome =>
      have finalized := Host.finalizeRouting_wrappers (before.host.setErrorHandler
        pipeline.dispatch before.context.errorUnit) pipeline.dispatch snapshot
      rw [outcome] at finalized
      exact finalized.trans (Host.setErrorHandler_wrappers _ _ _)

theorem Complete.linked {result : Except Error Unit} (complete : before.Complete result after)
    (linked : before.Linked) : after.Linked := by
  cases complete with
  | unfrozen freeze => exact linked.congr freeze.wrappers freeze.pipeline
  | frozen freeze route =>
      refine linked.congr (route.wrappers.trans freeze.wrappers) ?_
      rw [route.context]
      exact freeze.pipeline

/-! ## Taking down -/

theorem takenDown_unlinked (linked : deployment.Linked) : deployment.takenDown.Unlinked := by
  unfold takenDown
  split
  · next bare => exact linked.unlinked bare
  · next pipeline installed =>
      have kept := (Host.clearRouting_wrappers (pipeline.stopAll deployment.host)
        pipeline.dispatch).trans (Pipeline.stopEach_wrappers pipeline.stages deployment.host)
      apply pipeline.unlink_unlinked
      intro index some
      rw [Host.nextOf_congr kept] at some
      exact linked.within installed some

theorem abortStart_unlinked (active : deployment.context.state ∈ [.starting, .started])
    (linked : deployment.Linked) : deployment.abortStart.host.Unlinked := by
  rw [abortStart_eq (canMoveTo_failed_of_active active)]
  exact takenDown_unlinked (linked.congr rfl rfl)

theorem abortStart_linked (active : deployment.context.state ∈ [.starting, .started])
    (linked : deployment.Linked) : deployment.abortStart.Linked :=
  .of_unlinked (abortStart_bare active) (abortStart_unlinked active linked)

theorem BeginStart.linked {result : Except Error Unit} (begins : before.BeginStart result after)
    (coherent : before.context.Coherent) (linked : before.Linked) : after.Linked := by
  have setUpLinked {result : Except Error Unit} {ready : Deployment}
      (allowed : before.context.state.canMoveTo .starting = true)
      (setUp : (before.entered .starting).SetUp result ready) : ready.Linked := by
    have bare : before.context.pipeline = none := by
      apply coherent.bare
      revert allowed
      cases before.context.state <;> decide
    exact setUp.linked ((linked.unlinked bare).congr rfl) bare
  cases begins with
  | barred barred => exact linked
  | failed allowed setUp =>
      exact abortStart_linked (by simp [setUp.active]) (setUpLinked allowed setUp)
  | begun allowed setUp => exact setUpLinked allowed setUp

theorem FinishStart.linked {result : Except Error Unit}
    (finishes : before.FinishStart result after) (linked : before.Linked) : after.Linked := by
  cases finishes with
  | barred barred => exact linked
  | failed starting complete =>
      exact abortStart_linked (complete.keeps starting).2.2 (complete.linked linked)
  | finished starting complete => exact complete.linked linked

theorem BeginStop.linked {result : Except Error Unit} (begins : before.BeginStop result after)
    (linked : before.Linked) : after.Linked := by
  cases begins with
  | barred barred => exact linked
  | bare started bare rests kept => exact linked.congr kept rfl
  | begun started installed rests kept =>
      exact linked.congr ((Pipeline.stopEach_wrappers _ _).trans kept) rfl

theorem FinishStop.linked {result : Except Error Unit} (finishes : before.FinishStop result after)
    (linked : before.Linked) : after.Linked := by
  cases finishes with
  | barred barred => exact linked
  | bare stopping bare => exact linked.congr rfl rfl
  | @finished pipeline stopping installed =>
      refine .of_unlinked rfl (pipeline.unlink_unlinked ?_)
      intro index some
      rw [Host.nextOf_congr (Host.clearRouting_wrappers _ _)] at some
      exact linked.within installed some

/-! ## Runs -/

theorem Step.linked (step : before.Step after) (coherent : before.context.Coherent)
    (linked : before.Linked) : after.Linked := by
  cases step with
  | same => exact linked
  | reconfigured reconfigures => exact linked.congr rfl reconfigures.pipeline
  | registered registers =>
      obtain ⟨-, table, grown, -, -, rfl⟩ := registers
      exact linked.congr rfl rfl
  | fetched fetch => exact fetch.linked coherent linked
  | kept key dispatcher => exact linked.congr rfl rfl
  | served serves => exact linked.congr serves.wrappers rfl
  | startBegun begins => exact begins.linked coherent linked
  | startFinished finishes => exact finishes.linked linked
  | stopBegun begins => exact begins.linked linked
  | stopFinished finishes => exact finishes.linked linked

/-- Over every run of a new context whose host has no links yet, the links are those of the
installed pipeline. -/
theorem runCalls_linked {context : Context} (new : context.IsNew) {host : Host}
    (unlinked : host.Unlinked) (calls : List Call) :
    (runCalls ⟨context, host⟩ calls).Linked := by
  have initial : (⟨context, host⟩ : Deployment).Linked := .of_unlinked new.pipeline unlinked
  have keeps {before after : Deployment} (step : before.Step after)
      (holds : before.context.Coherent ∧ before.Linked) :
      after.context.Coherent ∧ after.Linked :=
    ⟨step.coherent holds.1, step.linked holds.1 holds.2⟩
  exact (runCalls_keeps keeps calls ⟨new.coherent, initial⟩).2

end Deployment

end RequestPipeline
