import RequestPipeline.Context.Job
import RequestPipeline.Host.Visit

/-!
# Traffic

A context while requests are on their way.  Calls come from one thread of control and are carried
out one at a time, but requests that hold a stage or a dispatcher of their own need no leave of the
context: between any two of their steps the context may be stopped, started or taken down.
-/

namespace RequestPipeline

/-- A request on its way.  One that came in through the context borrows it until it is over. -/
structure Visitor where
  borrows : Bool
  visit : Visit

/-- A deployment, the call that is under way on it, and the requests on their way, by number.
`exchanges` has a stage once for each time that its routing was exchanged. -/
structure Scene where
  deployment : Deployment
  job : Job := {}
  visitors : List Visitor := []
  exchanges : List Nat := []
  patience : Nat := 0

inductive Happening
  | called (call : Call)
  | continued
  | advanced (visitor : Nat)
  | dropped (visitor : Nat)

/-- A request for a context: it gets in while the context is started, inside its path. -/
def Context.visit (context : Context) (patience : Nat) (request : Request) : Visit :=
  match context.pipeline with
  | none => .done (some .unavailable)
  | some pipeline =>
      if context.state = .started then
        match ContextPath.split context.contextPath request.path with
        | none => .done (some .notFound)
        | some inside => .handle patience pipeline.head { request with inside := some inside }
      else .done (some .unavailable)

namespace Scene

/-- How often the routing of a stage has been exchanged. -/
def generation (scene : Scene) (stage : Nat) : Nat := scene.exchanges.count stage

def isIdle (scene : Scene) : Bool := scene.job.chores.isEmpty

/-- Whether a call that changes the context may begin: none is under way, and no request borrows
the context. -/
def isFree (scene : Scene) : Bool :=
  scene.isIdle && scene.visitors.all fun visitor => !visitor.borrows || visitor.visit.isOver

def receive (scene : Scene) (visitor : Visitor) : Scene :=
  { scene with visitors := scene.visitors ++ [visitor] }

def begin (scene : Scene) (call : Call) : Scene :=
  let (job, deployment) := scene.deployment.begin call
  { scene with deployment := deployment, job := job }

/-- A call is made.  Requests with a stage or a dispatcher of their own come in at any time, those
through the context while no call is under way, and dispatchers are kept by the application itself;
a call that has to wait for its turn is not made. -/
def call (scene : Scene) : Call → Scene
  | .serve request =>
      if scene.isIdle then
        scene.receive ⟨true, scene.deployment.context.visit scene.patience request⟩
      else scene
  | .serveFrom head request => scene.receive ⟨false, .handle scene.patience head request⟩
  | .callNamed dispatcher mode request =>
      scene.receive ⟨false, .callNamed dispatcher mode request (.done ∘ some)⟩
  | .keepDispatcher key dispatcher =>
      let host := scene.deployment.host.keepDispatcher key dispatcher
      { scene with deployment := { scene.deployment with host := host } }
  | call => if scene.isFree then scene.begin call else scene

def proceed (scene : Scene) : Scene :=
  let (job, deployment) := scene.deployment.proceed scene.job
  let exchanged := scene.job.exchanged.toList
  { scene with deployment := deployment, job := job, exchanges := exchanged ++ scene.exchanges }

def advance (scene : Scene) (index : Nat) : Scene :=
  match scene.visitors[index]? with
  | none => scene
  | some visitor =>
      let (visit, host) := visitor.visit.step scene.generation scene.deployment.host
      { scene with
        deployment := { scene.deployment with host := host }
        visitors := scene.visitors.set index { visitor with visit := visit } }

def drop (scene : Scene) (index : Nat) : Scene :=
  { scene with
    visitors := scene.visitors.modify index fun visitor =>
      { visitor with visit := visitor.visit.drop } }

def step (scene : Scene) : Happening → Scene
  | .called call => scene.call call
  | .continued => scene.proceed
  | .advanced visitor => scene.advance visitor
  | .dropped visitor => scene.drop visitor

def run (scene : Scene) (happenings : List Happening) : Scene := happenings.foldl step scene

end Scene

end RequestPipeline
