import RequestPipeline.Journal

/-!
# Metrics

Three counters, read off the journal.
-/

namespace RequestPipeline

inductive Counter
  | dispatched (unit : String) (status : Nat)
  | unmatched
  | transitions (context : String) (target : LifecycleState)
  deriving DecidableEq, Repr

namespace Counter

/-- The counter that an event increments. -/
def ofEvent? : Event → Option Counter
  | .dispatched unit status => some (.dispatched unit status)
  | .unmatched => some .unmatched
  | .moved context target => some (.transitions context target)
  | _ => none

def name : Counter → String
  | .dispatched .. => "plinth_dispatch_total"
  | .unmatched => "plinth_dispatch_not_found_total"
  | .transitions .. => "plinth_lifecycle_transitions_total"

def labels : Counter → List (String × String)
  | .dispatched unit status => [("status", toString status), ("unit", unit)]
  | .unmatched => []
  | .transitions context target => [("context", context), ("to", target.word)]

def text (counter : Counter) : String :=
  counter.name ++ "\x7b"
    ++ ",".intercalate (counter.labels.map fun (label, value) => label ++ "=" ++ value) ++ "\x7d"

def unitWord : String := "count"

def descriptions : List (String × String) :=
  [("plinth_dispatch_total", "Requests dispatched to a unit"),
    ("plinth_dispatch_not_found_total", "Requests that matched no unit mapping"),
    ("plinth_lifecycle_transitions_total", "Lifecycle transitions of a context")]

end Counter

namespace Journal

def counted (journal : Journal) (counter : Counter) : Nat :=
  journal.count fun event => Counter.ofEvent? event == some counter

def counters (journal : Journal) : List Counter :=
  (journal.events.filterMap Counter.ofEvent?).eraseDups

def metrics (journal : Journal) : List (Counter × Nat) :=
  journal.counters.map fun counter => (counter, journal.counted counter)

theorem counted_note (journal : Journal) (event : Event) (line : Option String)
    (counter : Counter) :
    (journal.note event line).counted counter =
      journal.counted counter + (if Counter.ofEvent? event = some counter then 1 else 0) := by
  simp [counted, count_note]

end Journal

end RequestPipeline
