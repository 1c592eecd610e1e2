import RequestPipeline.Proofs.Unwinding

/-!
# Errors of a start

An error says of itself whether it aborts a start.  What becomes of the context does not depend on
that: a start that was admitted and returns an error has failed, and one that was not admitted has
changed nothing and returns an error that aborts no start.
-/

namespace RequestPipeline

namespace Deployment

variable {before : Deployment}

/-- A start that was admitted and returns an error, whatever it is and wherever it comes from, has
failed. -/
theorem admitted_start_fails {call : Call} (start : call.isStart = true) {operation : String}
    {allowed : List LifecycleState} (gated : call.gate? = some (operation, allowed))
    (admitted : before.context.state ∈ allowed) {e : Error}
    (failed : (before.perform call).1 = .error e) :
    (before.perform call).2.context.state = .failed := by
  obtain ⟨ready, gives, same⟩ := start_gives_up start gated admitted failed
  rw [same]
  exact abortStart_state gives.active

/-- After any calls on a new context, a start returns an error.  An error that aborts a start leaves
the context failed.  Whatever the error is, the context is left failed if the state admitted the
call; otherwise it is as it was, and the error is the refusal under the name of the call, which
aborts no start.  So a context that was not failed is spared by an error if and only if the call was
not admitted. -/
theorem start_errors_leave_failed {context : Context} (new : context.IsNew) (host : Host)
    (calls : List Call) {call : Call} (start : call.isStart = true) {operation : String}
    {allowed : List LifecycleState} (gated : call.gate? = some (operation, allowed)) {e : Error}
    (returned : ((runCalls ⟨context, host⟩ calls).perform call).1 = .error e) :
    let reached := runCalls ⟨context, host⟩ calls
    let after := (reached.perform call).2
    (e.abortsStart = true → after.context.state = .failed) ∧
    (reached.context.state ∈ allowed → after.context.state = .failed) ∧
    (reached.context.state ∉ allowed → after = reached ∧
      e = .illegalState operation reached.context.state ∧ e.abortsStart = false) ∧
    (reached.context.state ≠ .failed →
      (after.context.state ≠ .failed ↔ reached.context.state ∉ allowed)) := by
  intro reached after
  have coherent : reached.context.Coherent := runCalls_coherent new.coherent calls
  have failed (admitted : reached.context.state ∈ allowed) : after.context.state = .failed :=
    admitted_start_fails start gated admitted returned
  have refused (outside : reached.context.state ∉ allowed) : after = reached ∧
      e = .illegalState operation reached.context.state ∧ e.abortsStart = false := by
    have refusal := (gated_refused_iff coherent gated).mpr outside
    have same := Except.error.inj (returned.symm.trans (congrArg Prod.fst refusal))
    refine ⟨congrArg Prod.snd refusal, same, ?_⟩
    rw [same]
    rfl
  refine ⟨?_, failed, refused, ?_⟩
  · intro aborts
    by_contra spared
    obtain ⟨-, -, harmless⟩ := refused fun admitted => spared (failed admitted)
    rw [aborts] at harmless
    cases harmless
  · intro working
    constructor
    · exact fun spared admitted => spared (failed admitted)
    · intro outside
      rw [(refused outside).1]
      exact working

/-- A second beginning of a start is refused and spares the context; a unit that cannot be
initialised fails it. -/
theorem second_start_spares_stubborn_fails :
    let starting := runCalls ⟨.withOptions {}, {}⟩
      [.beginStart, .registerUnit "till" (.shared stubborn) []]
    (starting.perform .beginStart).2 = starting ∧
      (starting.perform .finishStart).1.toOption.isNone ∧
      (starting.perform .finishStart).2.context.state = .failed := by
  intro starting
  obtain ⟨-, -, refused, -⟩ := start_errors_leave_failed (Context.isNew_withOptions {}) {}
    [.beginStart, .registerUnit "till" (.shared stubborn) []]
    (rfl : Call.beginStart.isStart = true) rfl rfl
  obtain ⟨aborted, -⟩ := start_errors_leave_failed (Context.isNew_withOptions {}) {}
    [.beginStart, .registerUnit "till" (.shared stubborn) []]
    (rfl : Call.finishStart.isStart = true) rfl rfl
  exact ⟨(refused (by decide)).1, rfl, aborted rfl⟩

/-- A startup program that registers a unit without asking whether it is there, and fails when it
is. -/
def registersAnew : StartupProgram :=
  .registerUnit "home" (.shared greeter) [] fun
    | .error e => .fail e
    | .ok _ => .done

/-- On a restart the name is taken.  That error aborts no start, says the error; yet it fails the
context. -/
theorem taken_name_fails_restart :
    let stopped := runCalls
      ⟨(Context.withOptions {}).onStartup none fun _ _ => registersAnew, {}⟩
      [.beginStart, .finishStart, .beginStop, .finishStop]
    stopped.context.state = .stopped ∧
      (stopped.perform .beginStart).1 = .error (.duplicateName .unit "home") ∧
      (Error.duplicateName .unit "home").abortsStart = false ∧
      (stopped.perform .beginStart).2.context.state = .failed := by
  intro stopped
  exact ⟨rfl, rfl, rfl, rfl⟩

end Deployment

end RequestPipeline
