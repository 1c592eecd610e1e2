import RequestPipeline.LifecycleState
import RequestPipeline.StageKind

/-!
# The journal

Every call that reaches a collaborator, every move of a life cycle and every counted dispatch is
entered in one journal, in order. Counts, serial numbers and the trail of remarks are read off it.
-/

namespace RequestPipeline

/-- Which object stands behind a registration: one supplied by a caller, or the n-th one
constructed from a class. -/
inductive InstanceId
  | supplied (number : Nat)
  | constructed (number : Nat)
  deriving DecidableEq, Repr

inductive Role
  | unit (name : String)
  | interceptor (name : String)
  | errorHandler
  | unregistered
  deriving DecidableEq, Repr

/-- What happens to a unit or an interceptor. Only an interceptor that passes a request on is
left again. -/
inductive Moment
  | initialized
  | initFailed
  | entered
  | left
  | destroyed
  deriving DecidableEq, Repr

/-- A stage, by its number among the wrappers or among the dispatch stages. -/
inductive StageRef
  | wrapper (index : Nat)
  | dispatch (index : Nat)
  deriving DecidableEq, Repr

inductive StageMoment
  | started
  | startFailed
  | stopped
  | linked (next : StageRef)
  | unlinked
  | entered
  | finalized
  | cleared
  | errorHandlerSet (given : Bool)
  deriving DecidableEq, Repr

inductive Event
  | registration (role : Role) (id : InstanceId) (moment : Moment)
  | stage (ref : StageRef) (moment : StageMoment)
  | constructed (className : String)
  | requested (kind : StageKind)
  | sessionIssued
  | moved (context : String) (target : LifecycleState)
  | dispatched (unit : String) (status : Nat)
  | unmatched
  | remark
  deriving DecidableEq, Repr

/-- An event with the remark that the object concerned makes on it, if any. -/
structure Entry where
  event : Event
  line : Option String
  deriving DecidableEq, Repr

/-- The entries so far, the oldest first. -/
abbrev Journal := List Entry

namespace Journal

def note (journal : Journal) (event : Event) (line : Option String) : Journal :=
  journal ++ [⟨event, line⟩]

def trail (journal : Journal) : List String := journal.filterMap Entry.line

def events (journal : Journal) : List Event := journal.map Entry.event

def count (journal : Journal) (p : Event → Bool) : Nat := journal.events.countP p

def isConstruction : Event → Bool
  | .constructed _ => true
  | _ => false

def nextConstructed (journal : Journal) : InstanceId :=
  .constructed (journal.count isConstruction + 1)

def sessionsIssued (journal : Journal) : Nat := journal.count (· == .sessionIssued)

theorem events_note (journal : Journal) (event : Event) (line : Option String) :
    (journal.note event line).events = journal.events ++ [event] := by
  simp [note, events]

theorem count_note (journal : Journal) (event : Event) (line : Option String)
    (p : Event → Bool) :
    (journal.note event line).count p = journal.count p + (if p event then 1 else 0) := by
  simp [count, events_note, List.countP_singleton]

end Journal

end RequestPipeline
