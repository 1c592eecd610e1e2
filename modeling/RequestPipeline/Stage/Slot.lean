import RequestPipeline.Error
import RequestPipeline.StageKind

/-!
# Stage slots

A slot holds at most one stage of its kind and has it made when it is first needed.
-/

namespace RequestPipeline

inductive SlotDecision
  | returnExisting
  | absent
  | create
  deriving DecidableEq, Repr

/-- A stage that is there is returned; a missing one is made only while its kind is enabled and
no start has been completed. -/
def slotDecision (filled enabled : Bool) (state : LifecycleState) : SlotDecision :=
  if filled then .returnExisting
  else if !enabled || state.isStartedOrLater then .absent
  else .create

structure Slot (α : Type) where
  kind : StageKind
  stage : Option α := none

namespace Slot

/-- A configuration error while making a stage is reported as one of the stage's kind. -/
def factoryError (kind : StageKind) (e : Error) : Error :=
  if e.isConfiguration then
    .configurationFrom ("failed to create " ++ kind.word ++ " stage") e
  else e

/-- The stage of a slot, made by `create` if need be; a failure leaves the slot empty. -/
def getOrCreate {α σ : Type} (slot : Slot α) (enabled : Bool) (state : LifecycleState)
    (create : σ → Except Error α × σ) (s : σ) : Except Error (Option α) × Slot α × σ :=
  match slotDecision slot.stage.isSome enabled state with
  | .returnExisting => (.ok slot.stage, slot, s)
  | .absent => (.ok none, slot, s)
  | .create =>
      match create s with
      | (.error e, s) => (.error (factoryError slot.kind e), slot, s)
      | (.ok stage, s) => (.ok (some stage), { slot with stage := some stage }, s)

theorem slotDecision_create {filled enabled : Bool} {state : LifecycleState} :
    slotDecision filled enabled state = .create ↔
      filled = false ∧ enabled = true ∧ state.isStartedOrLater = false := by
  cases filled <;> cases enabled <;> cases state <;> decide

end Slot

end RequestPipeline
