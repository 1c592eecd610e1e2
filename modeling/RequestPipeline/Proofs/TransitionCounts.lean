import RequestPipeline.Proofs.Increments

/-!
# Counted transitions

Whenever a context enters a state, this is counted under the name of the context.  The states that
are counted are those of one way through the life cycle, on which a stop is never given up, and so
the counts tell where a context stands and how often it has been there.
-/

namespace RequestPipeline

/-! ## Ways through the life cycle -/

namespace LifecycleState

/-- The moves that calls make.  A move from a stop to failure is allowed, too, but none makes it. -/
inductive Moves : LifecycleState → LifecycleState → Prop
  | start : Moves .uninitialized .starting
  | restart : Moves .stopped .starting
  | complete : Moves .starting .started
  | halt : Moves .started .stopping
  | stop : Moves .stopping .stopped
  | giveUp : Moves .starting .failed
  | breakDown : Moves .started .failed

/-- The states entered on a way from one state to another. -/
inductive Way : LifecycleState → List LifecycleState → LifecycleState → Prop
  | here (state : LifecycleState) : Way state [] state
  | move {state next target : LifecycleState} {states : List LifecycleState}
      (moves : state.Moves next) (rest : Way next states target) :
      Way state (next :: states) target

theorem moves_starting {state : LifecycleState} (allowed : state.canMoveTo .starting = true) :
    state.Moves .starting := by
  cases state with
  | uninitialized => exact .start
  | stopped => exact .restart
  | _ => cases allowed

theorem moves_failed {state : LifecycleState} (active : state ∈ [.starting, .started]) :
    state.Moves .failed := by
  obtain rfl | started := List.mem_cons.mp active
  · exact .giveUp
  · rw [List.mem_singleton.mp started]
    exact .breakDown

variable {state middle target : LifecycleState} {states later : List LifecycleState}

theorem Way.trans (first : Way state states middle) (second : Way middle later target) :
    Way state (states ++ later) target := by
  induction first with
  | here state => exact second
  | move moves rest ih => exact .move moves (ih second)

/-- No way leads on from failure. -/
theorem Way.of_failed (way : Way .failed states target) : states = [] ∧ target = .failed := by
  cases way with
  | here state => exact ⟨rfl, rfl⟩
  | move moves rest => cases moves

/-- One where a state is among those given, and zero elsewhere. -/
def presence (state : LifecycleState) (among : List LifecycleState) : Nat :=
  if state ∈ among then 1 else 0

/-- What is entered is left again, except for what is entered last: each start is stopped, fails or
is still to be ended, and each stop that has begun is completed or still to be. -/
theorem Way.balance (way : Way state states target) :
    states.count .starting + state.presence [.starting, .started, .stopping] =
        states.count .stopped + states.count .failed +
          target.presence [.starting, .started, .stopping] ∧
      states.count .stopping + state.presence [.stopping] =
        states.count .stopped + target.presence [.stopping] ∧
      states.count .stopping ≤ states.count .started + state.presence [.started] ∧
      states.count .started ≤ states.count .starting + state.presence [.starting] ∧
      states.count .failed + state.presence [.failed] = target.presence [.failed] := by
  induction way with
  | here state => simp
  | move moves rest ih =>
      cases moves <;> simp [presence] at ih ⊢ <;> omega

end LifecycleState

open LifecycleState (Moves Way presence)

namespace Deployment

variable {before middle after deployment : Deployment} {states later : List LifecycleState}

/-! ## The states that calls enter -/

/-- The context has kept its name and entered states on its way, and these and no others have been
counted under its name. -/
structure Enters (before : Deployment) (states : List LifecycleState) (after : Deployment) :
    Prop where
  name : after.context.name = before.context.name
  way : Way before.context.state states after.context.state
  journal : after.host.journal.increments = before.host.journal.increments ++
    states.map (.transitions before.context.name)

theorem Enters.trans (first : before.Enters states middle) (second : middle.Enters later after) :
    before.Enters (states ++ later) after where
  name := second.name.trans first.name
  way := first.way.trans second.way
  journal := by rw [second.journal, first.journal, first.name, List.map_append, List.append_assoc]

theorem Lingers.enters (lingers : before.Lingers after) : before.Enters [] after where
  name := congrArg Lifecycle.context lingers.lifecycle
  way := by
    have state : after.context.state = before.context.state :=
      congrArg Lifecycle.state lingers.lifecycle
    rw [state]
    exact .here _
  journal := by rw [Journal.increments_of_adds lingers.journal, List.map_nil, List.append_nil]

theorem Enters.linger (enters : before.Enters states middle) (lingers : middle.Lingers after) :
    before.Enters states after := by
  simpa using enters.trans lingers.enters

theorem entered_enters {target : LifecycleState} (moves : deployment.context.state.Moves target) :
    deployment.Enters [target] (deployment.entered target) :=
  ⟨rfl, .move moves (.here _), Journal.increments_note ..⟩

theorem abortStart_enters (active : deployment.context.state ∈ [.starting, .started]) :
    deployment.Enters [.failed] deployment.abortStart := by
  rw [abortStart_eq (canMoveTo_failed_of_active active)]
  refine (entered_enters (LifecycleState.moves_failed active)).linger ?_
  exact .of_works rfl (takenDown_works _)

/-- A start enters its state, and is given up where setting up fails. -/
theorem BeginStart.enters {result : Except Error Unit} (begins : before.BeginStart result after) :
    ∃ states, before.Enters states after := by
  cases begins with
  | barred barred => exact ⟨_, (Lingers.refl before).enters⟩
  | failed allowed setUp =>
      have starting := entered_enters (LifecycleState.moves_starting allowed)
      exact ⟨_, (starting.linger setUp.lingers).trans (abortStart_enters (by simp [setUp.active]))⟩
  | begun allowed setUp =>
      have starting := entered_enters (LifecycleState.moves_starting allowed)
      exact ⟨_, starting.linger setUp.lingers⟩

/-- The context is started once its registrations are frozen, before requests are routed. -/
theorem Complete.enters {result : Except Error Unit} (complete : before.Complete result after)
    (starting : before.context.state = .starting) : ∃ states, before.Enters states after := by
  cases complete with
  | unfrozen freeze => exact ⟨_, freeze.lingers.enters⟩
  | @frozen ready _ _ _ freeze route =>
      have moves : ready.context.state.Moves .started := by
        rw [freeze.state, starting]
        exact .complete
      exact ⟨_, (freeze.lingers.enters.trans (entered_enters moves)).linger route.lingers⟩

theorem FinishStart.enters {result : Except Error Unit}
    (finishes : before.FinishStart result after) : ∃ states, before.Enters states after := by
  cases finishes with
  | barred barred => exact ⟨_, (Lingers.refl before).enters⟩
  | failed starting complete =>
      obtain ⟨states, enters⟩ := complete.enters starting
      exact ⟨_, enters.trans (abortStart_enters (complete.keeps starting).2.2)⟩
  | finished starting complete => exact complete.enters starting

theorem beginStop_enters (deployment : Deployment) :
    ∃ states, deployment.Enters states deployment.beginStop.2 := by
  unfold beginStop
  cases allowed : deployment.context.state.canMoveTo .stopping with
  | false =>
      rw [move_barred allowed]
      exact ⟨_, (Lingers.refl deployment).enters⟩
  | true =>
      rw [move_allowed allowed]
      have moves : deployment.context.state.Moves .stopping := by
        rw [(canMoveTo_stopping_iff _).mp allowed]
        exact .halt
      let host : Host := { (deployment.entered .stopping).host with
        journal := runShutdownHooks deployment.context.shutdownHooks
          (deployment.entered .stopping).host.journal }
      have remarked : Journal.Adds Event.Uncounted _ host.journal :=
        (runShutdownHooks_adds deployment.context.shutdownHooks
          (deployment.entered .stopping).host.journal).mono (by rintro event rfl; rfl)
      have hooked : deployment.Enters [.stopping] ⟨(deployment.entered .stopping).context, host⟩ :=
        (entered_enters moves).linger ⟨rfl, remarked⟩
      dsimp only
      split
      · exact ⟨_, hooked⟩
      · next pipeline _ =>
          exact ⟨_, hooked.linger (.of_works rfl (pipeline.stopAll_works host))⟩

theorem FinishStop.enters {result : Except Error Unit} (finishes : before.FinishStop result after) :
    ∃ states, before.Enters states after := by
  have stops (stopping : before.context.state = .stopping) :
      before.Enters [.stopped] (before.entered .stopped) :=
    entered_enters (stopping ▸ .stop)
  cases finishes with
  | barred barred => exact ⟨_, (Lingers.refl before).enters⟩
  | bare stopping bare => exact ⟨_, (stops stopping).linger ⟨rfl, .refl _⟩⟩
  | @finished pipeline stopping installed =>
      refine ⟨_, (stops stopping).linger (.of_works rfl ?_)⟩
      exact (pipeline.unlink_clearRouting_arranges _).toRemains

/-- A call that serves no request leads on along the way of the life cycle, if only to where the
context is. -/
theorem perform_enters (deployment : Deployment) {call : Call} (idle : call.isServing = false) :
    ∃ states, deployment.Enters states (deployment.perform call).2 := by
  cases moves : call.isMove with
  | false => exact ⟨_, (deployment.perform_lingers moves idle).enters⟩
  | true =>
      cases call with
      | beginStart => exact deployment.beginStart_spec.enters
      | finishStart => exact deployment.finishStart_spec.enters
      | beginStop => exact deployment.beginStop_enters
      | finishStop => exact deployment.finishStop_spec.enters
      | _ => cases moves

/-! ## Runs -/

/-- The context has kept its name and entered states on its way, and of all transitions under its
name these and no others have been counted. -/
structure Tells (before : Deployment) (states : List LifecycleState) (after : Deployment) :
    Prop where
  name : after.context.name = before.context.name
  way : Way before.context.state states after.context.state
  counted : ∀ target, after.host.journal.counted (.transitions before.context.name target) =
    before.host.journal.counted (.transitions before.context.name target) + states.count target

theorem Tells.trans (first : before.Tells states middle) (second : middle.Tells later after) :
    before.Tells (states ++ later) after where
  name := second.name.trans first.name
  way := first.way.trans second.way
  counted target := by
    have counted := second.counted target
    rw [first.name] at counted
    rw [counted, first.counted, List.count_append, Nat.add_assoc]

theorem Enters.tells (enters : before.Enters states after) : before.Tells states after where
  name := enters.name
  way := enters.way
  counted target := by
    have distinct : Function.Injective (Counter.transitions before.context.name) :=
      fun _ _ same => (Counter.transitions.inj same).2
    rw [Journal.counted_eq, Journal.counted_eq, enters.journal, List.count_append,
      List.count_map_of_injective _ _ distinct]

/-- Serving a request counts no transition. -/
theorem tells_of_serves (context : after.context = before.context)
    (serves : before.host.Serves after.host) : before.Tells [] after where
  name := congrArg Context.name context
  way := by
    rw [context]
    exact .here _
  counted target := by
    obtain ⟨added, events, admitted⟩ := serves.journal
    rw [Journal.counted, Journal.count, events, List.countP_append]
    refine congrArg _ (List.countP_eq_zero.mpr fun event member moved => ?_)
    have allowed := admitted event member
    cases event with
    | moved context target => exact allowed
    | _ => simp [Counter.ofEvent?] at moved

/-- A call that does not move the life cycle counts no transition. -/
theorem perform_resting_tells (deployment : Deployment) {call : Call}
    (resting : call.isMove = false) : deployment.Tells [] (deployment.perform call).2 := by
  cases serving : call.isServing with
  | true =>
      obtain ⟨context, serves⟩ := deployment.perform_serves serving
      exact tells_of_serves context serves
  | false => exact (deployment.perform_lingers resting serving).enters.tells

theorem perform_tells (deployment : Deployment) (call : Call) :
    ∃ states, deployment.Tells states (deployment.perform call).2 := by
  cases serving : call.isServing with
  | true =>
      obtain ⟨context, serves⟩ := deployment.perform_serves serving
      exact ⟨_, tells_of_serves context serves⟩
  | false =>
      obtain ⟨states, enters⟩ := deployment.perform_enters serving
      exact ⟨states, enters.tells⟩

theorem runCalls_tells (deployment : Deployment) (calls : List Call) :
    ∃ states, deployment.Tells states (deployment.runCalls calls) := by
  induction calls generalizing deployment with
  | nil => exact ⟨_, (Lingers.refl deployment).enters.tells⟩
  | cons call rest ih =>
      obtain ⟨states, first⟩ := deployment.perform_tells call
      obtain ⟨later, onward⟩ := ih (deployment.perform call).2
      exact ⟨_, first.trans onward⟩

/-- After any calls on a new context, whatever each of them gave back, the transitions counted under
its name since then tell where it stands: every start but the one that is not ended has been stopped
or has failed, every stop but the one that is not completed has been, no more stops have begun than
starts were completed and no more starts completed than begun, and failure is counted once at the
most.  A call that comes at the wrong time changes nothing, a call that does not move the life cycle
counts no transition, and once the context has failed none is counted any more. -/
theorem transitions_tell_the_state {context : Context} (new : context.IsNew) (host : Host)
    (calls : List Call) :
    let reached := runCalls ⟨context, host⟩ calls
    let state := reached.context.state
    let counted (deployment : Deployment) (target : LifecycleState) : Nat :=
      deployment.host.journal.counted (.transitions context.name target)
    let count (target : LifecycleState) : Nat :=
      counted reached target - counted ⟨context, host⟩ target
    (∀ target, counted ⟨context, host⟩ target ≤ counted reached target) ∧
    count .starting = count .stopped + count .failed +
      (if state ∈ [.starting, .started, .stopping] then 1 else 0) ∧
    count .stopping = count .stopped + (if state = .stopping then 1 else 0) ∧
    (count .stopping ≤ count .started ∧ count .started ≤ count .starting) ∧
    count .failed = (if state = .failed then 1 else 0) ∧
    (∀ call operation allowed, call.gate? = some (operation, allowed) → state ∉ allowed →
      reached.perform call = (.error (.illegalState operation state), reached)) ∧
    (∀ call target, call.isMove = false →
      counted (reached.perform call).2 target = counted reached target) ∧
    (state = .failed → ∀ later target, (reached.runCalls later).context.state = .failed ∧
      counted (reached.runCalls later) target = counted reached target) := by
  intro reached state counted count
  obtain ⟨states, tells⟩ := runCalls_tells ⟨context, host⟩ calls
  have grown (target : LifecycleState) :
      counted reached target = counted ⟨context, host⟩ target + states.count target :=
    tells.counted target
  have counts (target : LifecycleState) : count target = states.count target := by
    simp only [count, grown, Nat.add_sub_cancel_left]
  have way : Way .uninitialized states state := new.state ▸ tells.way
  obtain ⟨starts, stops, halts, completions, failures⟩ := way.balance
  simp only [presence, List.mem_cons, List.not_mem_nil, reduceCtorEq, or_false, if_false,
    Nat.add_zero, ← counts] at starts stops halts completions failures
  refine ⟨fun target => ?_, ?_, stops, ⟨halts, completions⟩, failures, ?_, ?_, ?_⟩
  · rw [grown]
    exact Nat.le_add_right ..
  · simpa using starts
  · intro call operation allowed gated outside
    exact (gated_refused_iff (runCalls_coherent new.coherent calls) gated).mpr outside
  · intro call target resting
    have nothing := (reached.perform_resting_tells resting).counted target
    rwa [tells.name] at nothing
  · intro failed later target
    obtain ⟨further, onward⟩ := reached.runCalls_tells later
    have stuck : Way .failed further (reached.runCalls later).context.state := failed ▸ onward.way
    obtain ⟨rfl, stays⟩ := stuck.of_failed
    have nothing := onward.counted target
    rw [tells.name] at nothing
    exact ⟨stays, nothing⟩

/-- A context that lets itself be started once. -/
def shortLived : Context :=
  (Context.withOptions {}).onStartup none fun journal _ =>
    if journal.counted (.transitions "default" .stopped) = 0 then .done
    else .fail (.configuration "closed for good")

/-- It is started and stopped, and its second start fails; what is refused in between and afterwards
is not counted. -/
theorem shortLived_starts_twice :
    let calls : List Call := [.finishStart, .beginStart, .beginStart, .finishStart, .beginStop,
      .finishStop, .beginStart, .finishStop, .beginStart]
    let reached := runCalls ⟨shortLived, {}⟩ calls
    let counted (target : LifecycleState) : Nat :=
      reached.host.journal.counted (.transitions "default" target)
    reached.context.state = .failed ∧ counted .stopped = 1 ∧ counted .starting = 2 ∧
      counted .stopping = 1 ∧ counted .failed = 1 := by
  intro calls reached counted
  have new : shortLived.IsNew := ⟨rfl, rfl, rfl⟩
  have failed : reached.context.state = .failed := by decide +kernel
  have stopped : counted .stopped = 1 := by decide +kernel
  obtain ⟨-, starts, stops, -, failures, -⟩ := transitions_tell_the_state new {} calls
  have starting : counted .starting - 0 = (counted .stopped - 0) + (counted .failed - 0) +
      (if reached.context.state ∈ [.starting, .started, .stopping] then 1 else 0) := starts
  have stopping : counted .stopping - 0 =
      (counted .stopped - 0) + (if reached.context.state = .stopping then 1 else 0) := stops
  have failing : counted .failed - 0 = (if reached.context.state = .failed then 1 else 0) :=
    failures
  simp only [failed, Nat.sub_zero, reduceCtorEq, if_false, Nat.add_zero] at stopping
  simp only [failed, Nat.sub_zero, if_true] at failing
  rw [failed, Nat.sub_zero, Nat.sub_zero, Nat.sub_zero, stopped, failing] at starting
  exact ⟨failed, stopped, starting, stopping.trans stopped, failing⟩

end Deployment

end RequestPipeline
