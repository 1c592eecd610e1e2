import Mathlib.Logic.Function.Iterate
import RequestPipeline.Context.Traffic
import RequestPipeline.Proofs.Serving

/-!
# Uninterrupted requests

A request whose steps follow one another with nothing in between is served as a whole: it gets the
response, and leaves the host behind, that serving it at once does.
-/

namespace RequestPipeline

namespace Visit

/-- What a request comes to when nothing interrupts it. -/
def run (generation : Nat → Nat) : Visit → Host → Option Response × Host
  | .done response, host => (response, host)
  | .look next, host => (next host).run generation host
  | .note event line next, host => (next host.journal).run generation (host.note event line)
  | .take stage next, host =>
      (next ((host.routing? stage).map (Holding.mk stage (generation stage)))).run generation host
  | .call _ role id moment line next, host =>
      (next host.journal).run generation (host.note (.registration role id moment) line)

/-- Step after step, a request comes to its end. -/
theorem iterate_step (generation : Nat → Nat) (visit : Visit) (host : Host) :
    ∃ steps, (fun reached : Visit × Host => reached.1.step generation reached.2)^[steps]
        (visit, host) =
      (.done (visit.run generation host).1, (visit.run generation host).2) := by
  induction visit generalizing host with
  | done response => exact ⟨0, rfl⟩
  | look next ih =>
      obtain ⟨steps, reached⟩ := ih host host
      exact ⟨steps + 1, reached⟩
  | note event line next ih =>
      obtain ⟨steps, reached⟩ := ih host.journal (host.note event line)
      exact ⟨steps + 1, reached⟩
  | take stage next ih =>
      obtain ⟨steps, reached⟩ :=
        ih ((host.routing? stage).map (Holding.mk stage (generation stage))) host
      exact ⟨steps + 1, reached⟩
  | call holding role id moment line next ih =>
      obtain ⟨steps, reached⟩ :=
        ih host.journal (host.note (.registration role id moment) line)
      exact ⟨steps + 1, reached⟩

variable {generation : Nat → Nat}

/-- Going on with the outcome of serving something. -/
def resumed {α : Type} (generation : Nat → Nat) (back : α → Visit) (served : α × Host) :
    Option Response × Host :=
  (back served.1).run generation served.2

/-- Calls upon other units are visited as they are served. -/
def Follows (generation : Nat → Nat) (visiting : Caller) (caller : RequestPipeline.Caller) :
    Prop :=
  ∀ dispatcher mode request back host,
    (visiting dispatcher mode request back).run generation host =
      resumed generation back (caller dispatcher mode request host)

/-! ## Behind a dispatch stage -/

section Follows

variable {visiting : Caller} {caller : RequestPipeline.Caller}

theorem run_service (follows : Follows generation visiting caller) (step : ServiceStep)
    (back : Response → Visit) (host : Host) :
    (service visiting step back).run generation host =
      resumed generation back (step.run caller host) := by
  induction step generalizing host with
  | answer response => rfl
  | call key mode request resume ih =>
      simp only [service, run, ServiceStep.run]
      cases host.dispatcher? key with
      | none => exact ih none host
      | some dispatcher =>
          dsimp only
          rw [follows dispatcher mode request]
          exact ih _ _

theorem run_chain (follows : Follows generation visiting caller) (holding : Holding)
    (unit : Called ServiceUnit) (interceptors : List (Called Interceptor)) (request : Request)
    (back : Response → Visit) (host : Host) :
    (chain visiting holding unit interceptors request back).run generation host =
      resumed generation back (runChain caller unit interceptors request host) := by
  induction interceptors generalizing request back host with
  | nil => exact run_service follows _ back _
  | cons interceptor inner ih =>
      simp only [chain, run, runChain]
      cases interceptor.object.body.intercept host.journal request with
      | answer response => rfl
      | pass passed finish => exact ih passed _ _

theorem run_dispatchNamedBy (follows : Follows generation visiting caller) (stage : Nat)
    (unit : String) (phase : Phase) (request : Request) (back : Option Response → Visit)
    (host : Host) :
    (dispatchNamedBy visiting stage unit phase request back).run generation host =
      resumed generation back (Host.dispatchNamedBy caller stage unit phase request host) := by
  simp only [dispatchNamedBy, run, Host.routing?, Host.dispatchNamedBy]
  cases (host.dispatches[stage]?).bind (·.routing) with
  | none => rfl
  | some routing =>
      simp only [Option.map_some]
      cases routing.snapshot.unit? unit with
      | none => rfl
      | some object => exact run_chain follows _ _ _ _ _ host

end Follows

theorem callWithin_follows (depth : Nat) :
    Follows generation (callWithin depth) (Host.callWithin depth) := by
  induction depth with
  | zero => exact fun _ _ _ _ _ => rfl
  | succ depth ih =>
      intro dispatcher mode request back host
      exact run_dispatchNamedBy ih dispatcher.stage dispatcher.unit mode.phase request
        (fun response => back (mode.present response)) host

theorem callNamed_follows : Follows generation callNamed Host.callNamed :=
  fun dispatcher mode request back host =>
    callWithin_follows host.nesting dispatcher mode request back host

theorem run_route (holding : Holding) (request : Request) (back : Response → Visit)
    (host : Host) :
    (route holding request back).run generation host =
      resumed generation back (Host.route holding.routing request host) := by
  simp only [route, Host.route]
  cases holding.routing.resolve? request.routedPath with
  | some unit => exact run_chain callNamed_follows holding _ _ request _ host
  | none =>
      simp only [run]
      cases holding.routing.errorUnit with
      | none => rfl
      | some unit => exact run_chain callNamed_follows holding _ _ _ back _

theorem run_dispatch (index : Nat) (request : Request) (back : Response → Visit)
    (host : Host) :
    (dispatch index request back).run generation host =
      resumed generation back (host.dispatch index request) := by
  simp only [dispatch, run, Host.dispatch]
  cases found : host.dispatches[index]? with
  | none => rfl
  | some cell =>
      simp only [run, Host.routing?, Host.note, found, Option.bind_some]
      cases cell.routing with
      | none => rfl
      | some routing => exact run_route _ request back _

/-! ## Through the stages -/

theorem run_resolveSession (stage : SessionStage) (request : Request) (go : Session → Visit)
    (host : Host) :
    (resolveSession stage request go).run generation host =
      resumed generation go (host.resolveSession stage request) := by
  simp only [resolveSession, Host.resolveSession]
  cases stage.identifier? request <;> rfl

/-- A wrapper that hands on to what is served along some stages. -/
theorem run_wrapper {index : Nat} (rest : List StageRef) {host : Host}
    {onward : Request → (Response → Visit) → Visit}
    (follows : ∀ request back later, later.wrappers = host.wrappers →
      (onward request back).run generation later =
        resumed generation back (Host.handleAlong rest request later))
    (request : Request) (back : Response → Visit) :
    (wrapper index onward request back).run generation host =
      resumed generation back (Host.handleAlong (.wrapper index :: rest) request host) := by
  simp only [wrapper, run, Host.handleAlong]
  cases host.wrappers[index]? with
  | none => rfl
  | some cell =>
      simp only [run]
      cases cell.wrapper with
      | session stage =>
          dsimp only
          rw [run_resolveSession]
          refine follows _ _ _ ?_
          exact (Host.resolveSession_serves _ stage request).wrappers
      | security mode =>
          dsimp only
          cases (mode.decide request).answer? with
          | some response => rfl
          | none => exact follows request back _ rfl
      | custom stage =>
          dsimp only
          cases stage.handle host.journal request with
          | answer response => rfl
          | pass passed finish => exact follows passed _ _ rfl

/-- Links that are read one after the other are those of the walk. -/
theorem run_along (links : Nat) (ref : StageRef) (request : Request) (back : Response → Visit)
    {host later : Host} (same : later.wrappers = host.wrappers) :
    (along links ref request back).run generation later =
      resumed generation back (Host.handleAlong (host.follow links ref) request later) := by
  induction links generalizing ref request back later with
  | zero =>
      cases ref with
      | dispatch index => exact run_dispatch index request back later
      | wrapper index => exact run_wrapper [] (fun _ _ _ _ => rfl) request back
  | succ links ih =>
      cases ref with
      | dispatch index => exact run_dispatch index request back later
      | wrapper index =>
          refine run_wrapper _ ?_ request back
          intro request back after kept
          have unchanged : after.wrappers = host.wrappers := kept.trans same
          have next : after.nextOf (.wrapper index) = host.nextOf (.wrapper index) := by
            simp only [Host.nextOf, unchanged]
          simp only [run, next]
          cases host.nextOf (.wrapper index) with
          | none => rfl
          | some next => exact ih next request back unchanged

/-- A request that is not interrupted is served as a whole. -/
theorem run_handle (ref : StageRef) (request : Request) (host : Host) :
    (handle 0 ref request).run generation host =
      ((some (host.handle ref request).1), (host.handle ref request).2) :=
  run_along host.wrappers.length ref request _ rfl

theorem run_callNamed (dispatcher : NamedDispatcher) (mode : NamedMode) (request : Request)
    (host : Host) :
    (callNamed dispatcher mode request (.done ∘ some)).run generation host =
      (some (Host.callNamed dispatcher mode request host).1,
        (Host.callNamed dispatcher mode request host).2) :=
  callNamed_follows dispatcher mode request _ host

end Visit

theorem Context.run_visit {generation : Nat → Nat} (context : Context) (request : Request)
    (host : Host) :
    (context.visit 0 request).run generation host =
      (some (context.handle request host).1, (context.handle request host).2) := by
  unfold visit handle
  cases context.pipeline with
  | none => rfl
  | some pipeline =>
      by_cases started : context.state = .started
      · simp only [started, if_true]
        cases ContextPath.split context.contextPath request.path with
        | none => rfl
        | some inside => exact Visit.run_handle pipeline.head _ host
      · simp only [started, if_false]
        rfl

end RequestPipeline
