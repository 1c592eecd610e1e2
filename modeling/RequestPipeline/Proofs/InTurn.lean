import RequestPipeline.Proofs.Jobs
import RequestPipeline.Proofs.Visits

/-!
# Calls in turn

Where every call is carried to its end before the next one is made, and every request too, a scene
comes to what a run of calls comes to.
-/

namespace RequestPipeline

namespace Scene

/-- Something may happen that leads from one scene to another. -/
def Leads (before after : Scene) : Prop := ∃ happenings, before.run happenings = after

theorem Leads.refl (scene : Scene) : Leads scene scene := ⟨[], rfl⟩

theorem Leads.head {before after : Scene} (happening : Happening)
    (leads : Leads (before.step happening) after) : Leads before after := by
  obtain ⟨happenings, reached⟩ := leads
  exact ⟨happening :: happenings, reached⟩

theorem Leads.trans {before middle after : Scene} (first : Leads before middle)
    (second : Leads middle after) : Leads before after := by
  obtain ⟨happenings, rfl⟩ := first
  obtain ⟨later, rfl⟩ := second
  exact ⟨happenings ++ later, List.foldl_append⟩

/-- Nothing is under way, and stages are not linked anew while a request is. -/
structure Settled (scene : Scene) : Prop where
  chores : scene.job.chores = []
  ended : ∀ visitor ∈ scene.visitors, visitor.visit.isOver = true
  patience : scene.patience = 0

theorem Settled.free {scene : Scene} (settled : scene.Settled) : scene.isFree = true := by
  simp only [isFree, isIdle, Bool.and_eq_true, List.all_eq_true, List.isEmpty_iff]
  refine ⟨settled.chores, fun visitor member => ?_⟩
  rw [settled.ended visitor member, Bool.or_true]

/-- The call under way is carried on as if there were no requests. -/
theorem leads_proceed {scene : Scene} {job : Job} {deployment : Deployment}
    (leads : Deployment.Leads (scene.job, scene.deployment) (job, deployment)) :
    ∃ exchanges, Leads scene
      { scene with job := job, deployment := deployment, exchanges := exchanges } := by
  obtain ⟨steps, reached⟩ := leads
  induction steps generalizing scene with
  | zero =>
      obtain ⟨rfl, rfl⟩ := Prod.mk.inj reached
      exact ⟨scene.exchanges, .refl scene⟩
  | succ steps ih =>
      rw [Function.iterate_succ_apply] at reached
      obtain ⟨exchanges, further⟩ := @ih scene.proceed reached
      exact ⟨exchanges, .head .continued further⟩

def moved (scene : Scene) (index : Nat) (visitor : Visitor) (reached : Visit × Host) : Scene :=
  { scene with
    deployment := { scene.deployment with host := reached.2 }
    visitors := scene.visitors.set index { visitor with visit := reached.1 } }

/-- A request is carried on as if it were alone. -/
theorem leads_advance {scene : Scene} {index : Nat} (there : index < scene.visitors.length)
    (visitor : Visitor) (steps : Nat) (before : Visit × Host) :
    Leads (scene.moved index visitor before) (scene.moved index visitor
      ((fun reached : Visit × Host => reached.1.step scene.generation reached.2)^[steps]
        before)) := by
  induction steps generalizing before with
  | zero => exact .refl _
  | succ steps ih =>
      rw [Function.iterate_succ_apply]
      refine .head (.advanced index) ?_
      have found : (scene.moved index visitor before).visitors[index]? =
          some { visitor with visit := before.1 } := List.getElem?_set_self there
      have next : (scene.moved index visitor before).step (.advanced index) =
          scene.moved index visitor (before.1.step scene.generation before.2) := by
        rw [step, advance, found]
        simp only [moved, List.set_set]
        rfl
      rw [next]
      exact ih _

/-- A request that comes in where nothing else is under way is served to its end. -/
theorem Settled.received {scene : Scene} (settled : scene.Settled) (visitor : Visitor) :
    ∃ after, Leads (scene.receive visitor) after ∧ after.Settled ∧
      after.deployment = { scene.deployment with
        host := (visitor.visit.run scene.generation scene.deployment.host).2 } := by
  obtain ⟨steps, last⟩ := visitor.visit.iterate_step scene.generation scene.deployment.host
  have there : scene.visitors.length < (scene.receive visitor).visitors.length := by
    simp [receive]
  have leads := leads_advance there visitor steps (visitor.visit, scene.deployment.host)
  have placed (reached : Visit × Host) :
      ((scene.receive visitor).moved scene.visitors.length visitor reached).visitors =
        scene.visitors ++ [{ visitor with visit := reached.1 }] := by
    simp [moved, receive]
  have first : (scene.receive visitor).moved scene.visitors.length visitor
      (visitor.visit, scene.deployment.host) = scene.receive visitor := by
    simp [moved, receive]
  have same : (scene.receive visitor).generation = scene.generation := rfl
  rw [first, same, last] at leads
  refine ⟨_, leads, ⟨settled.chores, ?_, settled.patience⟩, rfl⟩
  intro other member
  rw [placed] at member
  rcases List.mem_append.mp member with earlier | here
  · exact settled.ended other earlier
  · rw [List.mem_singleton.mp here]
    rfl

/-- What a call comes to where nothing is under way. -/
def Performs (scene : Scene) (call : Call) : Prop :=
  ∃ after, Leads (scene.call call) after ∧ after.Settled ∧
    after.deployment = (scene.deployment.perform call).2

theorem Settled.begun {scene : Scene} (settled : scene.Settled) {call : Call}
    (turn : scene.call call = if scene.isFree then scene.begin call else scene) :
    scene.Performs call := by
  rw [settled.free, if_pos rfl] at turn
  obtain ⟨exchanges, leads⟩ : ∃ exchanges, Leads (scene.begin call) _ :=
    leads_proceed (scene.deployment.leads_begin call)
  unfold Performs
  rw [turn]
  exact ⟨_, leads, ⟨rfl, settled.ended, settled.patience⟩, rfl⟩

theorem Settled.performs {scene : Scene} (settled : scene.Settled) (call : Call) :
    scene.Performs call := by
  cases call with
  | serve request =>
      have idle : scene.isIdle = true := List.isEmpty_iff.mpr settled.chores
      obtain ⟨after, leads, rests, reached⟩ := settled.received
        ⟨true, scene.deployment.context.visit scene.patience request⟩
      rw [settled.patience, Context.run_visit] at reached
      refine ⟨after, ?_, rests, reached⟩
      simp only [call, idle, if_true]
      exact leads
  | serveFrom head request =>
      obtain ⟨after, leads, rests, reached⟩ :=
        settled.received ⟨false, .handle scene.patience head request⟩
      rw [settled.patience, Visit.run_handle] at reached
      exact ⟨after, leads, rests, reached⟩
  | callNamed dispatcher mode request =>
      obtain ⟨after, leads, rests, reached⟩ :=
        settled.received ⟨false, .callNamed dispatcher mode request (.done ∘ some)⟩
      rw [Visit.run_callNamed] at reached
      exact ⟨after, leads, rests, reached⟩
  | keepDispatcher key dispatcher =>
      exact ⟨_, .refl _, ⟨settled.chores, settled.ended, settled.patience⟩, rfl⟩
  | _ => exact settled.begun rfl

/-- Every run of calls is one of the ways in which a scene may go on. -/
theorem Settled.runCalls {scene : Scene} (settled : scene.Settled) (calls : List Call) :
    ∃ after, Leads scene after ∧ after.Settled ∧
      after.deployment = scene.deployment.runCalls calls := by
  induction calls generalizing scene with
  | nil => exact ⟨scene, .refl scene, settled, rfl⟩
  | cons call calls ih =>
      obtain ⟨middle, first, rests, reached⟩ := settled.performs call
      obtain ⟨after, leads, settled, whole⟩ := ih rests
      refine ⟨after, .head (.called call) (first.trans leads), settled, ?_⟩
      rw [whole, reached]
      rfl

end Scene

end RequestPipeline
