import Mathlib.Logic.Relation
import RequestPipeline.Context.Call
import RequestPipeline.Proofs.HostFrames

/-!
# Slots and the stages in them

The three getters are one operation on the slot of a kind.  It gives back what the slot holds or
has a stage made for it, and a filled slot is never touched.
-/

namespace RequestPipeline

namespace Context

def slot (context : Context) : StageKind → Slot Nat
  | .session => context.session
  | .security => context.security
  | .dispatch => context.dispatch

def withSlot (context : Context) (kind : StageKind) (slot : Slot Nat) : Context :=
  match kind with
  | .session => { context with session := slot }
  | .security => { context with security := slot }
  | .dispatch => { context with dispatch := slot }

def withStage (context : Context) (kind : StageKind) (stage : Option Nat) : Context :=
  context.withSlot kind { context.slot kind with stage := stage }

@[simp] theorem slot_withSlot_self (context : Context) (kind : StageKind) (slot : Slot Nat) :
    (context.withSlot kind slot).slot kind = slot := by
  cases kind <;> rfl

theorem slot_withSlot_of_ne (context : Context) {kind other : StageKind} (slot : Slot Nat)
    (differs : other ≠ kind) : (context.withSlot kind slot).slot other = context.slot other := by
  cases kind <;> cases other <;> first | rfl | exact absurd rfl differs

@[simp] theorem withSlot_slot (context : Context) (kind : StageKind) :
    context.withSlot kind (context.slot kind) = context := by
  cases kind <;> rfl

@[simp] theorem slot_withStage_self (context : Context) (kind : StageKind)
    (stage : Option Nat) : ((context.withStage kind stage).slot kind).stage = stage := by
  simp [withStage]

theorem slot_withStage_of_ne (context : Context) {kind other : StageKind} (stage : Option Nat)
    (differs : other ≠ kind) : (context.withStage kind stage).slot other = context.slot other :=
  slot_withSlot_of_ne context _ differs

/-- Nothing but slots that were empty has changed. -/
structure Refits (before after : Context) : Prop where
  rest : ∃ session security dispatch, after =
    { before with session := session, security := security, dispatch := dispatch }
  filled : ∀ kind, (before.slot kind).stage.isSome → after.slot kind = before.slot kind

namespace Refits

theorem refl (context : Context) : context.Refits context :=
  ⟨⟨_, _, _, rfl⟩, fun _ _ => rfl⟩

theorem trans {before middle after : Context} (first : before.Refits middle)
    (second : middle.Refits after) : before.Refits after := by
  obtain ⟨session, security, dispatch, rfl⟩ := first.rest
  obtain ⟨lastSession, lastSecurity, lastDispatch, rfl⟩ := second.rest
  refine ⟨⟨_, _, _, rfl⟩, ?_⟩
  intro kind filled
  have kept := first.filled kind filled
  exact (second.filled kind (kept ▸ filled)).trans kept

theorem withStage {context : Context} {kind : StageKind} (stage : Option Nat)
    (empty : (context.slot kind).stage = none) : context.Refits (context.withStage kind stage) := by
  refine ⟨by cases kind <;> exact ⟨_, _, _, rfl⟩, ?_⟩
  intro other filled
  apply slot_withStage_of_ne
  rintro rfl
  rw [empty] at filled
  cases filled

variable {before after : Context}

theorem state (refits : before.Refits after) : after.state = before.state := by
  obtain ⟨session, security, dispatch, rfl⟩ := refits.rest
  rfl

theorem registrations (refits : before.Refits after) :
    after.registrations = before.registrations := by
  obtain ⟨session, security, dispatch, rfl⟩ := refits.rest
  rfl

theorem pipeline (refits : before.Refits after) : after.pipeline = before.pipeline := by
  obtain ⟨session, security, dispatch, rfl⟩ := refits.rest
  rfl

theorem options (refits : before.Refits after) : after.options = before.options := by
  obtain ⟨session, security, dispatch, rfl⟩ := refits.rest
  rfl

end Refits

/-- Whether a stage has yet to be made for the slot of a kind. -/
def Wants (context : Context) (kind : StageKind) : Prop :=
  slotDecision (context.slot kind).stage.isSome (context.options.enables kind) context.state
    = .create

theorem wants_iff (context : Context) (kind : StageKind) : context.Wants kind ↔
    (context.slot kind).stage = none ∧ context.options.enables kind = true ∧
      context.state.isStartedOrLater = false := by
  simp [Wants, Slot.slotDecision_create]

/-- Every kind of stage that is enabled has a stage in its slot. -/
def Furnished (context : Context) : Prop :=
  ∀ kind, context.options.enables kind = true → (context.slot kind).stage.isSome

theorem Furnished.not_wants {context : Context} (furnished : context.Furnished)
    (kind : StageKind) : ¬ context.Wants kind := by
  intro wants
  obtain ⟨empty, enabled, -⟩ := (context.wants_iff kind).mp wants
  have filled := furnished kind enabled
  rw [empty] at filled
  cases filled

end Context

/-- A factory was asked for a stage and made it; the stage has the first number that was free. -/
inductive Host.Makes (host : Host) : StageKind → Nat → Host → Prop
  | wrapper {kind : StageKind} (optional : kind.isOptional = true) (line : Option String)
      (wrapper : Wrapper) : Makes host kind host.wrappers.length
        ((host.note (.requested kind) line).addWrapper wrapper).2
  | dispatch (line : Option String) (stage : DispatchStage) :
      Makes host .dispatch host.dispatches.length
        ((host.note (.requested .dispatch) line).addDispatch stage).2

namespace Host.Makes

variable {host made : Host} {kind : StageKind} {index : Nat}

theorem widens (makes : host.Makes kind index made) :
    host.Widens (·.isMinor = true) made := by
  cases makes with
  | wrapper optional line wrapper =>
      refine .trans (Evolves.note host line ?_).toWidens (.addWrapper _ wrapper)
      rfl
  | dispatch line stage =>
      refine .trans (Evolves.note host line ?_).toWidens (.addDispatch _ stage)
      rfl

end Host.Makes

namespace StageFactory

/-- A way of making stages of one kind: it reports an error or makes a stage, and either way the
request is entered in the journal. -/
def Produces (kind : StageKind) (create : Host → Except Error Nat × Host) : Prop :=
  ∀ host, (∃ e line, create host = (.error e, host.note (.requested kind) line)) ∨
    ∃ index made, create host = (.ok index, made) ∧ host.Makes kind index made

theorem createWrapper_produces {kind : StageKind} (optional : kind.isOptional = true)
    (make : Journal → Except Error Wrapper) (line : Option String) :
    Produces kind (createWrapper kind make line) := by
  intro host
  unfold createWrapper
  cases make host.journal with
  | error e => exact Or.inl ⟨e, line, rfl⟩
  | ok wrapper => exact Or.inr ⟨_, _, rfl, .wrapper optional line wrapper⟩

theorem createDispatch_produces (factory : StageFactory) :
    Produces .dispatch factory.createDispatch := by
  intro host
  unfold createDispatch
  cases factory.dispatch host.journal with
  | error e => exact Or.inl ⟨e, _, rfl⟩
  | ok stage => exact Or.inr ⟨_, _, rfl, .dispatch _ stage⟩

end StageFactory

namespace Slot

variable {α σ : Type} {slot : Slot α} {enabled : Bool} {state : LifecycleState}
  {create : σ → Except Error α × σ}

theorem getOrCreate_kept (settled : slotDecision slot.stage.isSome enabled state ≠ .create)
    (s : σ) : slot.getOrCreate enabled state create s = (.ok slot.stage, slot, s) := by
  unfold getOrCreate
  split
  · rfl
  · next absent =>
      cases held : slot.stage with
      | none => rfl
      | some stage => simp [slotDecision, held] at absent
  · next wanted => exact absurd wanted settled

end Slot

namespace Deployment

def fetch (deployment : Deployment) : StageKind → Except Error (Option Nat) × Deployment
  | .session => deployment.sessionStage
  | .security => deployment.securityStage
  | .dispatch => deployment.dispatchStage

inductive Fetch (deployment : Deployment) (kind : StageKind) :
    Except Error (Option Nat) → Deployment → Prop
  | kept (settled : ¬ deployment.context.Wants kind) :
      Fetch deployment kind (.ok (deployment.context.slot kind).stage) deployment
  | refused (wants : deployment.context.Wants kind) (e : Error) (line : Option String) :
      Fetch deployment kind (.error e)
        { deployment with host := deployment.host.note (.requested kind) line }
  | made (wants : deployment.context.Wants kind) {index : Nat} {host : Host}
      (makes : deployment.host.Makes kind index host) :
      Fetch deployment kind (.ok (some index))
        ⟨deployment.context.withStage kind (some index), host⟩

/-- The three getters differ in the slot and in how a stage is made. -/
theorem fetch_of_getOrCreate (deployment : Deployment) {kind : StageKind}
    {create : Host → Except Error Nat × Host} (produces : StageFactory.Produces kind create)
    {result : Except Error (Option Nat)} {slot : Slot Nat} {host : Host}
    (outcome : (deployment.context.slot kind).getOrCreate
      (deployment.context.options.enables kind) deployment.context.state create deployment.host
        = (result, slot, host)) :
    deployment.Fetch kind result ⟨deployment.context.withSlot kind slot, host⟩ := by
  by_cases wants : deployment.context.Wants kind
  · simp only [Slot.getOrCreate, show slotDecision _ _ _ = _ from wants] at outcome
    rcases produces deployment.host with ⟨e, line, refused⟩ | ⟨index, made, created, makes⟩
    · simp only [refused, Prod.mk.injEq] at outcome
      obtain ⟨rfl, rfl, rfl⟩ := outcome
      rw [Context.withSlot_slot]
      exact .refused wants _ line
    · simp only [created, Prod.mk.injEq] at outcome
      obtain ⟨rfl, rfl, rfl⟩ := outcome
      exact .made wants makes
  · rw [Slot.getOrCreate_kept wants] at outcome
    simp only [Prod.mk.injEq] at outcome
    obtain ⟨rfl, rfl, rfl⟩ := outcome
    rw [Context.withSlot_slot]
    exact .kept wants

theorem fetch_spec (deployment : Deployment) (kind : StageKind) :
    deployment.Fetch kind (deployment.fetch kind).1 (deployment.fetch kind).2 := by
  cases kind with
  | session =>
      exact deployment.fetch_of_getOrCreate
        (StageFactory.createWrapper_produces rfl deployment.context.factory.session _) rfl
  | security =>
      exact deployment.fetch_of_getOrCreate
        (StageFactory.createWrapper_produces rfl deployment.context.factory.security _) rfl
  | dispatch =>
      exact deployment.fetch_of_getOrCreate
        deployment.context.factory.createDispatch_produces rfl

theorem fetch_of_not_wants {deployment : Deployment} {kind : StageKind}
    (settled : ¬ deployment.context.Wants kind) :
    deployment.fetch kind = (.ok (deployment.context.slot kind).stage, deployment) := by
  have spec := deployment.fetch_spec kind
  generalize deployment.fetch kind = outcome at spec ⊢
  obtain ⟨result, after⟩ := outcome
  dsimp only at spec
  cases spec with
  | kept settled => rfl
  | refused wants => exact absurd wants settled
  | made wants => exact absurd wants settled

/-- A factory that is asked refuses, or makes a stage for the slot. -/
theorem fetch_of_wants {deployment : Deployment} {kind : StageKind}
    (wants : deployment.context.Wants kind) :
    (∃ e line, deployment.fetch kind =
      (.error e, { deployment with host := deployment.host.note (.requested kind) line })) ∨
    ∃ index host, deployment.host.Makes kind index host ∧ deployment.fetch kind =
      (.ok (some index), ⟨deployment.context.withStage kind (some index), host⟩) := by
  have spec := deployment.fetch_spec kind
  generalize deployment.fetch kind = outcome at spec ⊢
  obtain ⟨result, after⟩ := outcome
  dsimp only at spec
  cases spec with
  | kept settled => exact absurd wants settled
  | refused _ e line => exact .inl ⟨e, line, rfl⟩
  | made _ makes => exact .inr ⟨_, _, makes, rfl⟩

namespace Fetch

variable {before after : Deployment} {kind : StageKind} {result : Except Error (Option Nat)}

theorem refits (fetch : before.Fetch kind result after) :
    before.context.Refits after.context := by
  cases fetch with
  | kept settled => exact .refl _
  | refused wants e line => exact .refl _
  | made wants makes => exact .withStage _ ((Context.wants_iff _ _).mp wants).1

theorem widens (fetch : before.Fetch kind result after) :
    before.host.Widens (·.isMinor = true) after.host := by
  cases fetch with
  | kept settled => exact .refl _
  | refused wants e line =>
      refine (Host.Evolves.note _ line ?_).toWidens
      rfl
  | made wants makes => exact makes.widens

/-- What is given back is what the slot holds from then on. -/
theorem stage {stage : Option Nat} (fetch : before.Fetch kind (.ok stage) after) :
    (after.context.slot kind).stage = stage := by
  cases fetch with
  | kept settled => rfl
  | made wants makes => simp

/-- The slots of the other kinds are left alone. -/
theorem other (fetch : before.Fetch kind result after) (asked : StageKind)
    (differs : asked ≠ kind) : after.context.slot asked = before.context.slot asked := by
  cases fetch with
  | kept settled => rfl
  | refused wants e line => rfl
  | made wants makes => exact Context.slot_withStage_of_ne _ _ differs

/-- Before a start has been completed, a stage that is enabled is there once it was asked for. -/
theorem filled {stage : Option Nat} (fetch : before.Fetch kind (.ok stage) after)
    (early : before.context.state.isStartedOrLater = false)
    (enabled : before.context.options.enables kind = true) :
    (after.context.slot kind).stage.isSome := by
  cases fetch with
  | kept settled =>
      rw [Context.wants_iff] at settled
      cases held : (before.context.slot kind).stage with
      | none => exact absurd ⟨held, enabled, early⟩ settled
      | some index => rfl
  | made wants makes => simp

end Fetch

/-- Any number of stages are asked for. -/
abbrev Fetches : Deployment → Deployment → Prop :=
  Relation.ReflTransGen fun before after => ∃ kind result, Fetch before kind result after

theorem Fetches.refits {before after : Deployment} (fetches : before.Fetches after) :
    before.context.Refits after.context := by
  induction fetches with
  | refl => exact .refl _
  | tail _ fetch ih =>
      obtain ⟨kind, result, fetch⟩ := fetch
      exact ih.trans fetch.refits

theorem Fetches.widens {before after : Deployment} (fetches : before.Fetches after) :
    before.host.Widens (·.isMinor = true) after.host := by
  induction fetches with
  | refl => exact .refl _
  | tail _ fetch ih =>
      obtain ⟨kind, result, fetch⟩ := fetch
      exact ih.trans fetch.widens

end Deployment

end RequestPipeline
