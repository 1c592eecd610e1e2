import RequestPipeline.Error
import RequestPipeline.Journal

/-!
# The life cycle

The state of a named context; every move is entered in the journal.
-/

namespace RequestPipeline

structure Lifecycle where
  context : String
  state : LifecycleState := .uninitialized
  deriving DecidableEq, Repr

namespace Lifecycle

/-- Refuses an operation outside the states in which it is allowed. -/
def require (lifecycle : Lifecycle) (operation : String) (allowed : List LifecycleState) :
    Except Error Unit :=
  if lifecycle.state ∈ allowed then .ok ()
  else .error (.illegalState operation lifecycle.state)

def enter (lifecycle : Lifecycle) (target : LifecycleState) (journal : Journal) :
    Lifecycle × Journal :=
  ({ lifecycle with state := target }, journal.note (.moved lifecycle.context target) none)

def move (lifecycle : Lifecycle) (operation : String) (target : LifecycleState)
    (journal : Journal) : Except Error Unit × Lifecycle × Journal :=
  if lifecycle.state.canMoveTo target then (.ok (), lifecycle.enter target journal)
  else (.error (.illegalState operation lifecycle.state), lifecycle, journal)

def beginStart (lifecycle : Lifecycle) (journal : Journal) :
    Except Error Unit × Lifecycle × Journal :=
  lifecycle.move "begin_start" .starting journal

def finishStart (lifecycle : Lifecycle) (journal : Journal) :
    Except Error Unit × Lifecycle × Journal :=
  lifecycle.move "finish_start" .started journal

def beginStop (lifecycle : Lifecycle) (journal : Journal) :
    Except Error Unit × Lifecycle × Journal :=
  lifecycle.move "begin_stop" .stopping journal

def finishStop (lifecycle : Lifecycle) (journal : Journal) :
    Except Error Unit × Lifecycle × Journal :=
  lifecycle.move "finish_stop" .stopped journal

/-- Fails, if there is such a move. -/
def fail (lifecycle : Lifecycle) (journal : Journal) : Lifecycle × Journal :=
  if lifecycle.state.canMoveTo .failed then lifecycle.enter .failed journal
  else (lifecycle, journal)

theorem require_error {lifecycle : Lifecycle} {operation : String}
    {allowed : List LifecycleState} {e : Error}
    (refused : lifecycle.require operation allowed = .error e) :
    e = .illegalState operation lifecycle.state ∧ lifecycle.state ∉ allowed := by
  unfold require at refused
  split at refused
  · cases refused
  · next outside => exact ⟨by injection refused with e_eq; exact e_eq.symm, outside⟩

theorem move_refused {lifecycle : Lifecycle} {operation : String} {target : LifecycleState}
    {journal : Journal} (barred : lifecycle.state.canMoveTo target = false) :
    lifecycle.move operation target journal =
      (.error (.illegalState operation lifecycle.state), lifecycle, journal) := by
  simp [move, barred]

end Lifecycle

end RequestPipeline
