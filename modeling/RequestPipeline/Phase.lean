/-!
# Dispatch phases

The phase in which a request reaches a unit, and sets of phases.
-/

namespace RequestPipeline

inductive Phase
  | request
  | forward
  | inclusion
  | error
  | async
  deriving DecidableEq, Repr

namespace Phase

/-- Every phase, in the order in which sets of them are listed. -/
def all : List Phase := [.request, .forward, .inclusion, .error, .async]

theorem mem_all (phase : Phase) : phase ∈ all := by
  cases phase <;> decide

def word : Phase → String
  | .request => "request"
  | .forward => "forward"
  | .inclusion => "include"
  | .error => "error"
  | .async => "async"

def title : Phase → String
  | .request => "Request"
  | .forward => "Forward"
  | .inclusion => "Include"
  | .error => "Error"
  | .async => "Async"

def ofWord? (word : String) : Option Phase :=
  all.find? (·.word = word)

theorem ofWord?_word (phase : Phase) : ofWord? phase.word = some phase := by
  cases phase <;> decide

end Phase

structure Phases where
  request : Bool := false
  forward : Bool := false
  inclusion : Bool := false
  error : Bool := false
  async : Bool := false
  deriving DecidableEq, Repr

namespace Phases

def none : Phases := {}

def all : Phases := ⟨true, true, true, true, true⟩

def contains (phases : Phases) : Phase → Bool
  | .request => phases.request
  | .forward => phases.forward
  | .inclusion => phases.inclusion
  | .error => phases.error
  | .async => phases.async

def insert (phases : Phases) : Phase → Phases
  | .request => { phases with request := true }
  | .forward => { phases with forward := true }
  | .inclusion => { phases with inclusion := true }
  | .error => { phases with error := true }
  | .async => { phases with async := true }

def union (a b : Phases) : Phases :=
  ⟨a.request || b.request, a.forward || b.forward, a.inclusion || b.inclusion,
    a.error || b.error, a.async || b.async⟩

def only (phase : Phase) : Phases := none.insert phase

def ofList (phases : List Phase) : Phases := phases.foldl insert none

def toList (phases : Phases) : List Phase := Phase.all.filter phases.contains

def isEmpty (phases : Phases) : Bool := phases == none

/-- The empty set stands for the request phase. -/
def orDefault (phases : Phases) : Phases :=
  if phases.isEmpty then only .request else phases

/-- The set written out, such as `{Request, Async}`. -/
def text (phases : Phases) : String :=
  "\x7b" ++ ", ".intercalate (phases.toList.map Phase.title) ++ "\x7d"

theorem mem_toList (phases : Phases) (phase : Phase) :
    phase ∈ phases.toList ↔ phases.contains phase = true := by
  simp [toList, Phase.mem_all]

theorem orDefault_ne_none (phases : Phases) : phases.orDefault ≠ none := by
  unfold orDefault
  split
  · decide
  · next filled => simpa [isEmpty] using filled

end Phases

end RequestPipeline
