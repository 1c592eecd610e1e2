import RequestPipeline.Proofs.Unasked

/-!
# Which stage a slot holds

A slot is changed by the accepted setters of its kind, and filled when it is empty and its kind is
enabled.  So at any time it holds the stage of the last accepted setter, or else one that has been
made for it since.
-/

namespace RequestPipeline

namespace Deployment

variable {before middle after : Deployment}

/-- Every wrapper in a slot exists on the host. -/
def Stocked (deployment : Deployment) : Prop :=
  ∀ kind index, kind.isOptional = true → (deployment.context.slot kind).stage = some index →
    index < deployment.host.wrappers.length

/-- Slots have changed by being filled alone, with stages that exist. -/
structure Fills (before after : Deployment) : Prop where
  options : after.context.options = before.context.options
  wrappers : before.host.wrappers.length ≤ after.host.wrappers.length
  slots : ∀ kind, (after.context.slot kind).stage = (before.context.slot kind).stage ∨
    (before.context.slot kind).stage = none ∧ before.context.options.enables kind = true ∧
      ∀ index, kind.isOptional = true → (after.context.slot kind).stage = some index →
        index < after.host.wrappers.length

namespace Fills

theorem refl (deployment : Deployment) : deployment.Fills deployment :=
  ⟨rfl, Nat.le_refl _, fun _ => .inl rfl⟩

theorem of_keeps (options : after.context.options = before.context.options)
    (wrappers : after.host.wrappers.length = before.host.wrappers.length)
    (slots : ∀ kind, after.context.slot kind = before.context.slot kind) :
    before.Fills after :=
  ⟨options, Nat.le_of_eq wrappers.symm, fun kind => .inl (congrArg Slot.stage (slots kind))⟩

theorem trans (first : before.Fills middle) (second : middle.Fills after) :
    before.Fills after where
  options := second.options.trans first.options
  wrappers := Nat.le_trans first.wrappers second.wrappers
  slots kind := by
    obtain same | ⟨empty, enabled, real⟩ := second.slots kind
    · obtain kept | ⟨empty, enabled, real⟩ := first.slots kind
      · exact .inl (same.trans kept)
      · refine .inr ⟨empty, enabled, fun index optional held => ?_⟩
        exact Nat.lt_of_lt_of_le (real index optional (same ▸ held)) second.wrappers
    · obtain kept | ⟨free, _, _⟩ := first.slots kind
      · exact .inr ⟨kept ▸ empty, first.options ▸ enabled, real⟩
      · exact .inr ⟨free, first.options ▸ enabled, real⟩

theorem stocked (fills : before.Fills after) (stocked : before.Stocked) : after.Stocked := by
  intro kind index optional held
  obtain same | ⟨empty, enabled, real⟩ := fills.slots kind
  · exact Nat.lt_of_lt_of_le (stocked kind index optional (same ▸ held)) fills.wrappers
  · exact real index optional held

end Fills

/-! ## The calls that fill slots -/

theorem Fetch.fills {kind : StageKind} {result : Except Error (Option Nat)}
    (fetch : before.Fetch kind result after) : before.Fills after := by
  cases fetch with
  | kept settled => exact .refl _
  | refused wants e line => exact .of_keeps rfl rfl fun _ => rfl
  | @made wants index host makes =>
      obtain ⟨empty, enabled, -⟩ := (Context.wants_iff _ _).mp wants
      refine ⟨(Context.Refits.withStage _ empty).options, ?_, fun other => ?_⟩
      · cases makes <;> simp [Host.addWrapper, Host.addDispatch, Host.note]
      · by_cases same : other = kind
        · subst same
          refine .inr ⟨empty, enabled, fun held optional holds => ?_⟩
          rw [Context.slot_withStage_self] at holds
          cases holds
          cases makes with
          | wrapper _ _ wrapper => simp [Host.addWrapper, Host.note]
          | dispatch => cases optional
        · exact .inl (congrArg Slot.stage (Context.slot_withStage_of_ne _ _ same))

theorem Fetches.fills (fetches : before.Fetches after) : before.Fills after := by
  induction fetches with
  | refl => exact .refl _
  | tail _ fetch ih =>
      obtain ⟨kind, result, fetch⟩ := fetch
      exact ih.trans fetch.fills

theorem Unasked.fills (unasked : before.Unasked after) : before.Fills after := by
  have wrappers := congrArg List.length unasked.host.wrappers
  rw [List.length_map, List.length_map] at wrappers
  exact .of_keeps unasked.options wrappers unasked.slots

theorem SetUp.fills {result : Except Error Unit} (setUp : before.SetUp result after) :
    before.Fills after := by
  have installs {ready : Deployment} {pipeline : Pipeline} {host : Host}
      {result : Except Error Unit}
      (outcome : pipeline.startAll (pipeline.assemble ready.host) = (result, host)) :
      ready.Fills (ready.withPipeline pipeline host) := by
    have installed := ready.install_unasked pipeline
    rw [install, outcome] at installed
    exact installed.fills
  cases setUp with
  | unfurnished fetches => exact fetches.fills
  | refused fetches chains outcome => exact fetches.fills.trans (installs outcome)
  | hooked fetches chains outcome hooks =>
      exact (fetches.fills.trans (installs outcome)).trans hooks.unasked.fills

theorem BeginStart.fills {result : Except Error Unit} (begins : before.BeginStart result after) :
    before.Fills after := by
  have entered := (before.entered_unasked .starting).fills
  cases begins with
  | barred barred => exact .refl _
  | failed allowed setUp =>
      have active := canMoveTo_failed_of_active (List.mem_cons.mpr (.inl setUp.active))
      exact (entered.trans setUp.fills).trans (abortStart_unasked active).fills
  | begun allowed setUp => exact entered.trans setUp.fills

/-- A call that is no setter of a stage changes slots by filling them alone. -/
theorem perform_fills (deployment : Deployment) {call : Call} (other : call.setting? = none) :
    deployment.Fills (deployment.perform call).2 := by
  cases call with
  | beginStart => exact deployment.beginStart_spec.fills
  | sessionStage => exact (deployment.fetch_spec .session).fills
  | securityStage => exact (deployment.fetch_spec .security).fills
  | dispatchStage => exact (deployment.fetch_spec .dispatch).fills
  | _ =>
      refine Unasked.fills (deployment.perform_unasked rfl other ?_)
      nofun

/-- A setter is refused and changes nothing, or leaves the changed context. -/
theorem settle_set (deployment : Deployment) (operation : String) (changed : Context) :
    let set := match deployment.context.lifecycle.require operation Context.configurable with
      | .error e => Except.error e
      | .ok () => Except.ok changed
    (∃ e, deployment.settle set = (.error e, deployment)) ∨
      deployment.settle set = (.ok .done, { deployment with context := changed }) := by
  dsimp only
  split
  · exact .inl ⟨_, rfl⟩
  · exact .inr rfl

/-- A setter of a stage is refused and changes nothing, or puts its stage into its slot. -/
theorem perform_setting (deployment : Deployment) {call : Call} {kind : StageKind}
    {stage : Option Nat} (sets : call.setting? = some (kind, stage)) :
    (∃ e, deployment.perform call = (.error e, deployment)) ∨
      deployment.perform call =
        (.ok .done, { deployment with context := deployment.context.withStage kind stage }) := by
  cases call with
  | setSessionStage given =>
      cases sets
      exact deployment.settle_set "set_session_stage" _
  | setSecurityStage given =>
      cases sets
      exact deployment.settle_set "set_security_stage" _
  | setDispatchStage given =>
      cases sets
      exact deployment.settle_set "set_dispatch_stage" _
  | _ => cases sets

/-! ## Runs -/

/-- The stage supplied for a kind after a call: that of an accepted setter, or the one before. -/
def supply (deployment : Deployment) (kind : StageKind) (held : Option Nat) (call : Call) :
    Option Nat :=
  match call.setting?, (deployment.perform call).1 with
  | some (set, stage), .ok _ => if set = kind then stage else held
  | _, _ => held

/-- The stage supplied for a kind over a run: that of the last accepted setter, or the one that was
supplied at first. -/
def supplied (kind : StageKind) : Deployment → Option Nat → List Call → Option Nat
  | _, held, [] => held
  | deployment, held, call :: rest =>
      supplied kind (deployment.perform call).2 (deployment.supply kind held call) rest

/-- Every wrapper that a run supplies exists by then. -/
def Supplies : Deployment → List Call → Prop
  | _, [] => True
  | deployment, call :: rest =>
      (∀ kind index, call.setting? = some (kind, some index) → kind.isOptional = true →
        index < deployment.host.wrappers.length) ∧ Supplies (deployment.perform call).2 rest

/-- A slot holds the stage supplied for its kind.  If none is supplied it is empty, or holds a stage
made because the kind is enabled. -/
def Holds (deployment : Deployment) (kind : StageKind) (held : Option Nat) : Prop :=
  (deployment.context.slot kind).stage = held ∨
    held = none ∧ deployment.context.options.enables kind = true

theorem Fills.holds (fills : before.Fills after) {kind : StageKind} {held : Option Nat}
    (holds : before.Holds kind held) : after.Holds kind held := by
  unfold Holds at holds ⊢
  rw [fills.options]
  obtain same | ⟨empty, enabled, -⟩ := fills.slots kind
  · rw [same]
    exact holds
  · obtain own | made := holds
    · exact .inr ⟨own.symm.trans empty, enabled⟩
    · exact .inr made

/-- What one call keeps: the slots hold what is supplied, and wrappers in them exist. -/
theorem perform_holds (deployment : Deployment) (call : Call) {kind : StageKind}
    {held : Option Nat} (holds : deployment.Holds kind held) :
    (deployment.perform call).2.Holds kind (deployment.supply kind held call) ∧
      (deployment.perform call).2.context.options = deployment.context.options := by
  unfold supply
  cases sets : call.setting? with
  | none =>
      have fills := deployment.perform_fills sets
      exact ⟨fills.holds holds, fills.options⟩
  | some setting =>
      obtain ⟨set, stage⟩ := setting
      obtain ⟨e, refused⟩ | accepted := deployment.perform_setting sets
      · rw [refused]
        exact ⟨holds, rfl⟩
      · rw [accepted]
        have options : (deployment.context.withStage set stage).options =
            deployment.context.options := by cases set <;> rfl
        refine ⟨?_, options⟩
        dsimp only
        split
        · next same =>
            subst same
            exact .inl (Context.slot_withStage_self _ _ _)
        · next differs =>
            unfold Holds at holds ⊢
            rw [options, Context.slot_withStage_of_ne _ _ (Ne.symm differs)]
            exact holds

theorem perform_stocked (deployment : Deployment) {call : Call}
    (supplies : ∀ kind index, call.setting? = some (kind, some index) →
      kind.isOptional = true → index < deployment.host.wrappers.length)
    (stocked : deployment.Stocked) : (deployment.perform call).2.Stocked := by
  cases sets : call.setting? with
  | none => exact (deployment.perform_fills sets).stocked stocked
  | some setting =>
      obtain ⟨set, stage⟩ := setting
      obtain ⟨e, refused⟩ | accepted := deployment.perform_setting sets
      · rw [refused]
        exact stocked
      · rw [accepted]
        intro kind index optional held
        by_cases same : kind = set
        · subst same
          rw [Context.slot_withStage_self] at held
          exact supplies kind index (held ▸ sets) optional
        · rw [Context.slot_withStage_of_ne _ _ same] at held
          exact stocked kind index optional held

/-- After any run a slot holds the stage supplied for its kind over the run, or one that was made
for it. -/
theorem runCalls_holds (calls : List Call) {deployment : Deployment} {kind : StageKind}
    {held : Option Nat} (holds : deployment.Holds kind held) :
    (deployment.runCalls calls).Holds kind (supplied kind deployment held calls) ∧
      (deployment.runCalls calls).context.options = deployment.context.options := by
  induction calls generalizing deployment held with
  | nil => exact ⟨holds, rfl⟩
  | cons call rest ih =>
      obtain ⟨next, options⟩ := deployment.perform_holds call holds
      obtain ⟨last, kept⟩ := ih next
      exact ⟨last, kept.trans options⟩

/-- After a run whose wrappers exist when they are supplied, the wrappers in the slots exist. -/
theorem runCalls_stocked (calls : List Call) {deployment : Deployment}
    (supplies : deployment.Supplies calls) (stocked : deployment.Stocked) :
    (deployment.runCalls calls).Stocked := by
  induction calls generalizing deployment with
  | nil => exact stocked
  | cons call rest ih => exact ih supplies.2 (deployment.perform_stocked supplies.1 stocked)

end Deployment

end RequestPipeline
