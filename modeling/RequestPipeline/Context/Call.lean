import RequestPipeline.Context.Deployment

/-!
# Calls on a deployment

Every call that may change a context, as data, and runs of such calls.
-/

namespace RequestPipeline

inductive Call
  | beginStart
  | finishStart
  | beginStop
  | finishStop
  | sessionStage
  | securityStage
  | dispatchStage
  | setSessionStage (stage : Option Nat)
  | setSecurityStage (stage : Option Nat)
  | setDispatchStage (stage : Option Nat)
  | setStageFactory (factory : StageFactory)
  | setErrorHandler (unit : Option (Instance ServiceUnit))
  | clearRegistrations
  | addUnit (binding : Binding ServiceUnit) (pattern : String)
  | addInterceptor (binding : Binding Interceptor) (pattern : String) (phases : Phases)
  | registerUnit (name : String) (binding : Binding ServiceUnit) (calls : List (List String))
  | registerInterceptor (name : String) (binding : Binding Interceptor) (phases : Phases)
      (calls : List InterceptorFollowUp)
  | mapUnit (name : String) (patterns : List String)
  | mapInterceptorToUnits (name : String) (phases : Phases) (after : Bool) (units : List String)
  | resolveDispatcher (name : String)
  | keepDispatcher (key : String) (dispatcher : NamedDispatcher)
  | callNamed (dispatcher : NamedDispatcher) (mode : NamedMode) (request : Request)
  | serve (request : Request)
  | serveFrom (head : StageRef) (request : Request)

inductive Answer
  | done
  | stage (ref : Option StageRef)
  | name (given : String)
  | followed (result : Except Error Unit)
  | dispatcher (found : Option NamedDispatcher)
  | response (response : Response)

namespace Deployment

/-- An accepted call that changes the context alone. -/
def accept (deployment : Deployment) (answer : Answer) (context : Context) :
    Except Error Answer × Deployment :=
  (.ok answer, { deployment with context := context })

def settle (deployment : Deployment) (result : Except Error Context) :
    Except Error Answer × Deployment :=
  match result with
  | .error e => (.error e, deployment)
  | .ok context => deployment.accept .done context

def settleWith {α : Type} (deployment : Deployment) (answer : α → Answer)
    (result : Except Error (α × Context)) : Except Error Answer × Deployment :=
  match result with
  | .error e => (.error e, deployment)
  | .ok (a, context) => deployment.accept (answer a) context

def settleMove (step : Except Error Unit × Deployment) : Except Error Answer × Deployment :=
  (step.1.map fun _ => .done, step.2)

def settleStage (ref : Nat → StageRef) (step : Except Error (Option Nat) × Deployment) :
    Except Error Answer × Deployment :=
  (step.1.map fun index => .stage (index.map ref), step.2)

def settleResponse (deployment : Deployment) (step : Response × Host) :
    Except Error Answer × Deployment :=
  (.ok (.response step.1), { deployment with host := step.2 })

/-- Carries out a call, with nothing in between until it has come to its end. -/
def perform (deployment : Deployment) : Call → Except Error Answer × Deployment
  | .beginStart => settleMove deployment.beginStart
  | .finishStart => settleMove deployment.finishStart
  | .beginStop => settleMove deployment.beginStop
  | .finishStop => settleMove deployment.finishStop
  | .sessionStage => settleStage .wrapper deployment.sessionStage
  | .securityStage => settleStage .wrapper deployment.securityStage
  | .dispatchStage => settleStage .dispatch deployment.dispatchStage
  | .setSessionStage stage => deployment.settle (deployment.context.setSessionStage stage)
  | .setSecurityStage stage => deployment.settle (deployment.context.setSecurityStage stage)
  | .setDispatchStage stage => deployment.settle (deployment.context.setDispatchStage stage)
  | .setStageFactory factory => deployment.settle (deployment.context.setStageFactory factory)
  | .setErrorHandler unit => deployment.settle (deployment.context.setErrorHandler unit)
  | .clearRegistrations => deployment.settle deployment.context.clearRegistrations
  | .addUnit binding pattern =>
      deployment.settleWith .name (deployment.context.addUnit binding pattern)
  | .addInterceptor binding pattern phases =>
      deployment.settleWith .name (deployment.context.addInterceptor binding pattern phases)
  | .registerUnit name binding calls =>
      deployment.settleWith .followed (deployment.context.registerUnit name binding calls)
  | .registerInterceptor name binding phases calls =>
      deployment.settleWith .followed
        (deployment.context.registerInterceptor name binding phases calls)
  | .mapUnit name patterns =>
      deployment.settleWith (fun _ => .done) (deployment.context.mapUnit name patterns)
  | .mapInterceptorToUnits name phases after units =>
      deployment.settleWith (fun _ => .done)
        (deployment.context.mapInterceptorToUnits name phases after units)
  | .resolveDispatcher name =>
      (.ok (.dispatcher (deployment.context.resolveDispatcher name)), deployment)
  | .keepDispatcher key dispatcher =>
      (.ok .done, { deployment with host := deployment.host.keepDispatcher key dispatcher })
  | .callNamed dispatcher mode request =>
      deployment.settleResponse (Host.callNamed dispatcher mode request deployment.host)
  | .serve request =>
      deployment.settleResponse (deployment.context.handle request deployment.host)
  | .serveFrom head request => deployment.settleResponse (deployment.host.handle head request)

/-- Carries out calls one after the other, whatever each gives back. -/
def runCalls (deployment : Deployment) (calls : List Call) : Deployment :=
  calls.foldl (fun deployment call => (deployment.perform call).2) deployment

end Deployment

end RequestPipeline
