import RequestPipeline.Context.Lifecycle
import RequestPipeline.Context.Options
import RequestPipeline.Context.Startup
import RequestPipeline.Host.Pipeline
import RequestPipeline.Host.Service
import RequestPipeline.Stage.Factory
import RequestPipeline.Stage.Slot

/-!
# Contexts

One application: its settings, registrations, stage slots and hooks, and the pipeline while it
is installed.
-/

namespace RequestPipeline

structure Context where
  lifecycle : Lifecycle := { context := "default" }
  contextPath : String := ""
  options : PipelineOptions := {}
  registrations : Registrations := .empty
  session : Slot Nat := { kind := .session }
  security : Slot Nat := { kind := .security }
  dispatch : Slot Nat := { kind := .dispatch }
  factory : StageFactory := .stock
  loader : ClassLoader := .none
  errorUnit : Option (Instance ServiceUnit) := none
  pipeline : Option Pipeline := none
  startupHooks : List StartupHook := []
  shutdownHooks : List ShutdownHook := []

namespace Context

def withOptions (options : PipelineOptions) : Context := { options := options }

def named (context : Context) (name : String) : Context :=
  { context with lifecycle := { context.lifecycle with context := name } }

def mounted (context : Context) (path : String) : Context :=
  { context with contextPath := ContextPath.normalize path }

def ofSettings (settings : ContextSettings) : Context :=
  ((withOptions (.ofSettings settings)).named settings.name).mounted settings.contextPath

/-- Adds a startup hook; without a name it is numbered. -/
def onStartup (context : Context) (name : Option String)
    (program : Journal → String → StartupProgram) : Context :=
  let name := name.getD ("startup_hook_" ++ toString context.startupHooks.length)
  { context with startupHooks := context.startupHooks ++ [⟨name, program⟩] }

def onShutdown (context : Context) (name : Option String) (line : Option String) : Context :=
  let name := name.getD ("shutdown_hook_" ++ toString context.shutdownHooks.length)
  { context with shutdownHooks := context.shutdownHooks ++ [⟨name, line⟩] }

def name (context : Context) : String := context.lifecycle.context

def state (context : Context) : LifecycleState := context.lifecycle.state

/-- The states in which a context may be set up anew. -/
def configurable : List LifecycleState := [.uninitialized, .stopped]

def registering : List LifecycleState := [.uninitialized, .starting]

def findUnit (context : Context) (name : String) : Option UnitView :=
  context.registrations.declared.findUnit name

def findInterceptor (context : Context) (name : String) : Option InterceptorView :=
  context.registrations.declared.findInterceptor name

def head? (context : Context) : Option StageRef := context.pipeline.map Pipeline.head

def chainNames (context : Context) (host : Host) : List String :=
  match context.head? with
  | some head => host.linkedNames head
  | none => []

/-- Serves a request: only while the context is started, and only inside its path. -/
def handle (context : Context) (request : Request) (host : Host) : Response × Host :=
  match context.pipeline with
  | none => (.unavailable, host)
  | some pipeline =>
      if context.state = .started then
        match ContextPath.split context.contextPath request.path with
        | none => (.notFound, host)
        | some inside => host.handle pipeline.head { request with inside := some inside }
      else (.unavailable, host)

end Context

end RequestPipeline
