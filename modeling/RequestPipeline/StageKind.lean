/-!
# Kinds of stage

The session and access-control stages are optional; the dispatch stage is always there.
-/

namespace RequestPipeline

inductive StageKind
  | session
  | security
  | dispatch
  deriving DecidableEq, Repr

namespace StageKind

/-- Every kind, outermost first. -/
def all : List StageKind := [.session, .security, .dispatch]

def word : StageKind → String
  | .session => "session"
  | .security => "security"
  | .dispatch => "dispatch"

def isOptional : StageKind → Bool
  | .dispatch => false
  | _ => true

end StageKind

end RequestPipeline
