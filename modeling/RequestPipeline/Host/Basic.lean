import RequestPipeline.Stage.Dispatch
import RequestPipeline.Stage.Wrapper

/-!
# The host

Everything that outlives one call: the stages that exist with their links and routing, the
dispatchers that units may call upon, and the journal.
-/

namespace RequestPipeline

structure WrapperCell where
  wrapper : Wrapper
  next : Option StageRef := none

/-- A dispatch stage with what it holds. `running` is the flag of the stock stage, `reported`
the one that the stage shows. -/
structure DispatchCell where
  stage : DispatchStage
  running : Bool := false
  reported : Bool := false
  routing : Option RoutingTable := none
  errorUnit : Option (Instance ServiceUnit) := none

/-- The stages, the kept dispatchers and the journal. `spareDepth` is how much deeper calls by
name may nest than it takes to meet every kept dispatcher once in each mode. -/
structure Host where
  wrappers : List WrapperCell := []
  dispatches : List DispatchCell := []
  dispatchers : List (String × NamedDispatcher) := []
  journal : Journal := []
  spareDepth : Nat := 0

namespace Host

def note (host : Host) (event : Event) (line : Option String) : Host :=
  { host with journal := host.journal.note event line }

def addWrapper (host : Host) (wrapper : Wrapper) : Nat × Host :=
  (host.wrappers.length, { host with wrappers := host.wrappers ++ [{ wrapper := wrapper }] })

def addDispatch (host : Host) (stage : DispatchStage) : Nat × Host :=
  (host.dispatches.length, { host with dispatches := host.dispatches ++ [{ stage := stage }] })

def updateWrapper (host : Host) (index : Nat) (change : WrapperCell → WrapperCell) : Host :=
  { host with wrappers := host.wrappers.modify index change }

def updateDispatch (host : Host) (index : Nat) (change : DispatchCell → DispatchCell) : Host :=
  { host with dispatches := host.dispatches.modify index change }

def stageName (host : Host) : StageRef → String
  | .wrapper index => ((host.wrappers[index]?).map (·.wrapper.name)).getD ""
  | .dispatch index => ((host.dispatches[index]?).map (·.stage.name)).getD ""

def nextOf (host : Host) : StageRef → Option StageRef
  | .wrapper index => (host.wrappers[index]?).bind (·.next)
  | .dispatch _ => none

def follow (host : Host) : Nat → StageRef → List StageRef
  | 0, ref => [ref]
  | fuel + 1, ref =>
      ref :: (match host.nextOf ref with
        | none => []
        | some next => host.follow fuel next)

/-- A stage and those it is linked to, one after the other. As many links as there are wrappers
are followed, since a longer walk would come back to a wrapper. -/
def linkedFrom (host : Host) (ref : StageRef) : List StageRef :=
  host.follow host.wrappers.length ref

def linkedNames (host : Host) (ref : StageRef) : List String :=
  (host.linkedFrom ref).map host.stageName

def dispatcher? (host : Host) (key : String) : Option NamedDispatcher :=
  (host.dispatchers.find? (·.1 == key)).map Prod.snd

def keepDispatcher (host : Host) (key : String) (dispatcher : NamedDispatcher) : Host :=
  { host with
    dispatchers := host.dispatchers.filter (·.1 != key) ++ [(key, dispatcher)] }

theorem journal_note (host : Host) (event : Event) (line : Option String) :
    (host.note event line).journal = host.journal.note event line := rfl

theorem linkedFrom_dispatch (host : Host) (index : Nat) :
    host.linkedFrom (.dispatch index) = [.dispatch index] := by
  unfold linkedFrom
  cases host.wrappers.length <;> simp [follow, nextOf]

end Host

end RequestPipeline
