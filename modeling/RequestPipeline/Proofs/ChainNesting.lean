import RequestPipeline.Proofs.Serving

/-!
# The nesting of a chain

A chain is its interceptors folded from the right over the unit.  How far a request gets is told
by the verdicts alone: each interceptor is asked about the request that the one before it passed
on, and what they finish the response with is applied from the inside out.
-/

namespace RequestPipeline

namespace Host

def extend (host : Host) (entries : Journal) : Host :=
  { host with journal := host.journal ++ entries }

theorem extend_nil (host : Host) : host.extend [] = host := by
  rw [extend, List.append_nil]

theorem extend_extend (host : Host) (first second : Journal) :
    (host.extend first).extend second = host.extend (first ++ second) := by
  rw [extend, extend, extend, List.append_assoc]

theorem events_extend (host : Host) (entries : Journal) :
    (host.extend entries).journal.events = host.journal.events ++ entries.events :=
  List.map_append

end Host

namespace Called

def enters {α : Type} (called : Called α) : Event :=
  .registration called.role called.object.id .entered

def leaves {α : Type} (called : Called α) : Event :=
  .registration called.role called.object.id .left

def entering (interceptor : Called Interceptor) : Entry :=
  ⟨interceptor.enters, interceptor.object.body.enterLine⟩

def leaving (interceptor : Called Interceptor) : Entry :=
  ⟨interceptor.leaves, interceptor.object.body.leaveLine⟩

def reaching (unit : Called ServiceUnit) : Entry :=
  ⟨unit.enters, unit.object.body.serviceLine⟩

/-- An interceptor around whatever serves the requests that it passes on. -/
def around (interceptor : Called Interceptor) (next : Request → Host → Response × Host)
    (request : Request) (host : Host) : Response × Host :=
  let entered := host.extend [interceptor.entering]
  match interceptor.object.body.intercept host.journal request with
  | .answer response => (response, entered)
  | .pass passed finish =>
      let (response, served) := next passed entered
      (finish response, served.extend [interceptor.leaving])

/-- Interceptors pass a request on, each asked about what the one before it passed on.  The list of
functions is what they finish the response with, outermost first, and the last request is the one
that comes out behind them. -/
inductive Passes : List (Called Interceptor) → Journal → Request → List (Response → Response) →
    Request → Prop
  | nil (journal : Journal) (request : Request) : Passes [] journal request [] request
  | cons {interceptor : Called Interceptor} {inner : List (Called Interceptor)}
      {journal : Journal} {request passed last : Request} {finish : Response → Response}
      {finishes : List (Response → Response)}
      (verdict : interceptor.object.body.intercept journal request = .pass passed finish)
      (onward : Passes inner (journal ++ [interceptor.entering]) passed finishes last) :
      Passes (interceptor :: inner) journal request (finish :: finishes) last

/-- Either all interceptors of a chain pass the request on, or all before one that answers. -/
theorem passes_or_answers (chain : List (Called Interceptor)) (journal : Journal)
    (request : Request) :
    (∃ finishes last, Passes chain journal request finishes last) ∨
      ∃ passed answering rest finishes last response,
        chain = passed ++ answering :: rest ∧
        Passes passed journal request finishes last ∧
        answering.object.body.intercept (journal ++ passed.map entering) last =
          .answer response := by
  induction chain generalizing journal request with
  | nil => exact Or.inl ⟨[], request, .nil journal request⟩
  | cons interceptor inner ih =>
      cases verdict : interceptor.object.body.intercept journal request with
      | answer response =>
          refine Or.inr ⟨[], interceptor, inner, [], request, response, rfl, ?_, ?_⟩
          · exact .nil journal request
          · rw [List.map_nil, List.append_nil]
            exact verdict
      | pass passed finish =>
          rcases ih (journal ++ [interceptor.entering]) passed with
            ⟨finishes, last, onward⟩ | ⟨front, answering, rest, finishes, last, response,
              rfl, onward, answers⟩
          · exact Or.inl ⟨finish :: finishes, last, .cons verdict onward⟩
          · refine Or.inr ⟨interceptor :: front, answering, rest, finish :: finishes, last,
              response, rfl, .cons verdict onward, ?_⟩
            rw [List.append_assoc] at answers
            exact answers

/-- A request has gone through a chain.  Either interceptors passed it on up to one that answered,
and were left again in reverse, or all passed it on, the unit was entered behind them, and all were
left. -/
inductive GoneThrough (unit : Called ServiceUnit) (journal : Journal) (request : Request) :
    List (Called Interceptor) → List Event → Prop
  | answered {passed rest : List (Called Interceptor)} {answering : Called Interceptor}
      {finishes : List (Response → Response)} {last : Request} {response : Response}
      (passes : Passes passed journal request finishes last)
      (answers : answering.object.body.intercept (journal ++ passed.map entering) last =
        .answer response) :
      GoneThrough unit journal request (passed ++ answering :: rest)
        (passed.map enters ++ answering.enters :: passed.reverse.map leaves)
  | served {chain : List (Called Interceptor)} {finishes : List (Response → Response)}
      {last : Request} {served : List Event}
      (passes : Passes chain journal request finishes last) :
      GoneThrough unit journal request chain
        (chain.map enters ++ unit.enters :: served ++ chain.reverse.map leaves)

end Called

open Called

variable (caller : Caller) (unit : Called ServiceUnit)

theorem runChain_cons (interceptor : Called Interceptor) (inner : List (Called Interceptor)) :
    runChain caller unit (interceptor :: inner) =
      interceptor.around (runChain caller unit inner) :=
  rfl

theorem runChain_eq_foldr (chain : List (Called Interceptor)) :
    runChain caller unit chain = chain.foldr Called.around (serveUnit caller unit) := by
  induction chain with
  | nil => rfl
  | cons interceptor inner ih => rw [runChain_cons, ih, List.foldr_cons]

/-- The part of a chain behind interceptors that pass is served as a chain of its own. -/
theorem runChain_of_passes {front : List (Called Interceptor)} {journal : Journal}
    {request last : Request} {finishes : List (Response → Response)}
    (passes : Passes front journal request finishes last) (back : List (Called Interceptor))
    (host : Host) (same : host.journal = journal) :
    runChain caller unit (front ++ back) request host =
      let behind := runChain caller unit back last (host.extend (front.map entering))
      (finishes.foldr (fun finish response => finish response) behind.1,
        behind.2.extend (front.reverse.map leaving)) := by
  induction passes generalizing host with
  | nil journal request =>
      rw [List.map_nil, host.extend_nil]
      exact Prod.ext rfl (Host.extend_nil _).symm
  | @cons interceptor inner journal request passed last finish finishes verdict onward ih =>
      have behind := ih (host.extend [interceptor.entering]) (by rw [Host.extend, same])
      rw [Host.extend_extend, List.singleton_append] at behind
      rw [List.cons_append, runChain_cons, around, same, verdict]
      dsimp only
      rw [behind, List.map_cons, List.foldr_cons, List.reverse_cons, List.map_append]
      exact Prod.ext rfl (Host.extend_extend ..)

/-- An interceptor that answers is as far as a request gets. -/
theorem runChain_of_answers {passed rest : List (Called Interceptor)}
    {answering : Called Interceptor} {host : Host} {request last : Request}
    {finishes : List (Response → Response)} {response : Response}
    (passes : Passes passed host.journal request finishes last)
    (answers : answering.object.body.intercept (host.journal ++ passed.map entering) last =
      .answer response) :
    runChain caller unit (passed ++ answering :: rest) request host =
      (finishes.foldr (fun finish response => finish response) response,
        host.extend (passed.map entering ++ [answering.entering] ++
          passed.reverse.map leaving)) := by
  rw [runChain_of_passes caller unit passes _ host rfl, runChain_cons, around]
  rw [show (host.extend (passed.map entering)).journal =
    host.journal ++ passed.map entering from rfl, answers]
  dsimp only
  rw [Host.extend_extend, Host.extend_extend, List.append_assoc]

/-- What a request enters in the journal shows how far it got. -/
theorem runChain_events {caller : Caller} (gentle : Host.Gentle caller)
    (unit : Called ServiceUnit) (chain : List (Called Interceptor)) (request : Request)
    (host : Host) : ∃ events, (runChain caller unit chain request host).2.journal.events =
      host.journal.events ++ events ∧ GoneThrough unit host.journal request chain events := by
  have entered (passed : List (Called Interceptor)) :
      Journal.events (passed.map entering) = passed.map enters := List.map_map
  have left (passed : List (Called Interceptor)) :
      Journal.events (passed.reverse.map leaving) = passed.reverse.map leaves := List.map_map
  rcases passes_or_answers chain host.journal request with
    ⟨finishes, last, passes⟩ | ⟨passed, answering, rest, finishes, last, response, rfl,
      passes, answers⟩
  · have whole := runChain_of_passes caller unit passes [] host rfl
    rw [List.append_nil] at whole
    obtain ⟨served, grown, -⟩ := (ServiceStep.run_serves gentle
      (unit.object.body.service (host.extend (chain.map entering)).journal last)
      ((host.extend (chain.map entering)).extend [unit.reaching])).journal
    refine ⟨chain.map enters ++ unit.enters :: served ++ chain.reverse.map leaves, ?_,
      .served passes⟩
    rw [whole, Host.events_extend, left]
    refine (congrArg (· ++ _) grown).trans ?_
    rw [Host.events_extend, Host.events_extend, entered]
    simp [Journal.events, reaching]
  · rw [runChain_of_answers caller unit passes answers]
    refine ⟨passed.map enters ++ answering.enters :: passed.reverse.map leaves, ?_,
      .answered passes answers⟩
    have told : Journal.events (passed.map entering ++ [answering.entering] ++
        passed.reverse.map leaving) =
        passed.map enters ++ [answering.enters] ++ passed.reverse.map leaves := by
      rw [← entered, ← left]
      exact List.map_append.trans (congrArg (· ++ _) List.map_append)
    rw [Host.events_extend, told, List.append_assoc]
    rfl

/-- A chain is its interceptors folded over the unit, which is also what wrapping them around it
from the last to the first makes.  A request for which all of them pass enters them in order, each
with the request as those before it passed it on, then the unit, once, and leaves them in reverse,
each finishing the response that those behind it made.  Otherwise it gets up to the first that
answers and no further, and those before that one are left in reverse with its response. -/
theorem runChain_nests (chain : List (Called Interceptor)) :
    runChain caller unit chain = chain.foldr Called.around (serveUnit caller unit) ∧
    runChain caller unit chain = chain.reverse.foldl
      (fun next interceptor => interceptor.around next) (serveUnit caller unit) ∧
    ∀ request host,
      (∃ finishes last, Passes chain host.journal request finishes last ∧
        let reached := host.extend (chain.map entering)
        let served := (unit.object.body.service reached.journal last).run caller
          (reached.extend [unit.reaching])
        runChain caller unit chain request host =
          (finishes.foldr (fun finish response => finish response) served.1,
            served.2.extend (chain.reverse.map leaving))) ∨
      ∃ passed answering rest finishes last response,
        chain = passed ++ answering :: rest ∧
        Passes passed host.journal request finishes last ∧
        answering.object.body.intercept (host.journal ++ passed.map entering) last =
          .answer response ∧
        runChain caller unit chain request host =
          (finishes.foldr (fun finish response => finish response) response,
            host.extend (passed.map entering ++ [answering.entering] ++
              passed.reverse.map leaving)) := by
  have folded := runChain_eq_foldr caller unit chain
  refine ⟨folded, ?_, ?_⟩
  · rw [List.foldl_reverse]
    exact folded
  · intro request host
    rcases passes_or_answers chain host.journal request with
      ⟨finishes, last, passes⟩ | ⟨passed, answering, rest, finishes, last, response, rfl,
        passes, answers⟩
    · refine Or.inl ⟨finishes, last, passes, ?_⟩
      have whole := runChain_of_passes caller unit passes [] host rfl
      rw [List.append_nil] at whole
      exact whole
    · refine Or.inr ⟨passed, answering, rest, finishes, last, response, rfl, passes, answers, ?_⟩
      exact runChain_of_answers caller unit passes answers

end RequestPipeline
