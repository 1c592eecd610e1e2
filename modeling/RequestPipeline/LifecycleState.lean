/-!
# Life-cycle states

The six states of a context and the moves between them.
-/

namespace RequestPipeline

inductive LifecycleState
  | uninitialized
  | starting
  | started
  | stopping
  | stopped
  | failed
  deriving DecidableEq, Repr

namespace LifecycleState

def all : List LifecycleState :=
  [.uninitialized, .starting, .started, .stopping, .stopped, .failed]

theorem mem_all (state : LifecycleState) : state ∈ all := by
  cases state <;> decide

def word : LifecycleState → String
  | .uninitialized => "uninitialized"
  | .starting => "starting"
  | .started => "started"
  | .stopping => "stopping"
  | .stopped => "stopped"
  | .failed => "failed"

def ofWord? (word : String) : Option LifecycleState :=
  all.find? (·.word = word)

theorem ofWord?_word (state : LifecycleState) : ofWord? state.word = some state := by
  cases state <;> decide

/-- Whether a start has been completed, also if it has since been undone. -/
def isStartedOrLater : LifecycleState → Bool
  | .started | .stopping | .stopped | .failed => true
  | .uninitialized | .starting => false

/-- Whether requests may still be under way. -/
def isRunning : LifecycleState → Bool
  | .started | .stopping => true
  | _ => false

def isTerminal : LifecycleState → Bool
  | .failed => true
  | _ => false

/-- The moves: round the cycle, and to failure from its three middle states. -/
def canMoveTo : LifecycleState → LifecycleState → Bool
  | .uninitialized, .starting | .stopped, .starting
  | .starting, .started | .started, .stopping | .stopping, .stopped
  | .starting, .failed | .started, .failed | .stopping, .failed => true
  | _, _ => false

def next (state : LifecycleState) : List LifecycleState := all.filter state.canMoveTo

theorem isTerminal_iff_next (state : LifecycleState) :
    state.isTerminal = true ↔ state.next = [] := by
  cases state <;> decide

end LifecycleState

end RequestPipeline
