import RequestPipeline.Host.Stages

/-!
# Pipelines

A dispatch stage with the optional stages in front of it.
-/

namespace RequestPipeline

structure Pipeline where
  session : Option Nat
  security : Option Nat
  dispatch : Nat
  deriving DecidableEq, Repr

namespace Pipeline

def stages (pipeline : Pipeline) : List StageRef :=
  pipeline.session.toList.map StageRef.wrapper ++ pipeline.security.toList.map StageRef.wrapper
    ++ [.dispatch pipeline.dispatch]

/-- The wrappers in the order in which they are linked, innermost first. -/
def wrappers (pipeline : Pipeline) : List Nat :=
  pipeline.security.toList ++ pipeline.session.toList

def afterSession (pipeline : Pipeline) : StageRef :=
  match pipeline.security with
  | some index => .wrapper index
  | none => .dispatch pipeline.dispatch

def head (pipeline : Pipeline) : StageRef :=
  match pipeline.session with
  | some index => .wrapper index
  | none => pipeline.afterSession

def names (pipeline : Pipeline) (host : Host) : List String :=
  pipeline.stages.map host.stageName

def linkSome (host : Host) (index : Option Nat) (next : StageRef) : Host :=
  match index with
  | none => host
  | some index => host.link index next

def assemble (pipeline : Pipeline) (host : Host) : Host :=
  linkSome (linkSome host pipeline.security (.dispatch pipeline.dispatch)) pipeline.session
    pipeline.afterSession

def stopEach (refs : List StageRef) (host : Host) : Host := refs.foldl Host.stopStage host

/-- Starts stages in order; `done` are those started so far, the latest first, and they are
stopped in that order when one refuses. -/
def startFrom (done : List StageRef) : List StageRef → Host → Except Error Unit × Host
  | [], host => (.ok (), host)
  | ref :: rest, host =>
      match host.startStage ref with
      | (.ok (), host) => startFrom (ref :: done) rest host
      | (.error e, host) => (.error e, stopEach done host)

def startAll (pipeline : Pipeline) (host : Host) : Except Error Unit × Host :=
  startFrom [] pipeline.stages.reverse host

def stopAll (pipeline : Pipeline) (host : Host) : Host := stopEach pipeline.stages host

def unlink (pipeline : Pipeline) (host : Host) : Host :=
  pipeline.wrappers.foldl Host.unlink host

end Pipeline

end RequestPipeline
