import Mathlib.Data.List.Count
import RequestPipeline.Proofs.Powering

/-!
# Balance of starts and stops

When every stop of a stage answers a start of it, as a condition on the events that have been
entered, and what starting and stopping a whole pipeline does to it.
-/

namespace RequestPipeline

/-- At every point, a stage has been stopped no more often than it has been started. -/
def Answered (ref : StageRef) (events : List Event) : Prop :=
  ∀ past, past <+: events →
    past.count (.stage ref .stopped) ≤ past.count (.stage ref .started)

/-- No stage refused to start, every stop answers a start, and what has not been stopped is
running. -/
structure Balanced (running : List StageRef) (events : List Event) : Prop where
  accepted : ∀ ref, Event.stage ref .startFailed ∉ events
  answered : ∀ ref, Answered ref events
  count : ∀ ref, events.count (.stage ref .started) =
    events.count (.stage ref .stopped) + running.count ref

/-- Some stage refused to start, and what is listed has been stopped without a start. -/
structure Overstopped (excess : List StageRef) (events : List Event) : Prop where
  refused : ∃ ref, Event.stage ref .startFailed ∈ events
  count : ∀ ref, events.count (.stage ref .stopped) =
    events.count (.stage ref .started) + excess.count ref

/-! ## Counting -/

theorem count_stage_same (moment : StageMoment) (refs : List StageRef) (ref : StageRef) :
    (refs.map (Event.stage · moment)).count (.stage ref moment) = refs.count ref :=
  List.count_map_of_injective refs (Event.stage · moment)
    (fun _ _ same => (Event.stage.inj same).1) ref

theorem count_stage_other {moment other : StageMoment} (differs : moment ≠ other)
    (refs : List StageRef) (ref : StageRef) :
    (refs.map (Event.stage · moment)).count (.stage ref other) = 0 := by
  apply List.count_eq_zero.mpr
  intro member
  obtain ⟨_, -, same⟩ := List.mem_map.mp member
  exact differs (Event.stage.inj same).2

theorem count_power {events : List Event} (quiet : ∀ event ∈ events, event.isPower = false)
    {event : Event} (power : event.isPower = true) : events.count event = 0 := by
  apply List.count_eq_zero.mpr
  intro member
  rw [quiet event member] at power
  cases power

theorem Answered.append {ref : StageRef} {events later : List Event}
    (answered : Answered ref events)
    (room : events.count (.stage ref .stopped) + later.count (.stage ref .stopped) ≤
      events.count (.stage ref .started)) : Answered ref (events ++ later) := by
  intro past reached
  rcases List.prefix_or_prefix_of_prefix reached (List.prefix_append events later) with
    early | ⟨rest, rfl⟩
  · exact answered past early
  · have short : rest <+: later := (List.prefix_append_right_inj events).mp reached
    have fewer := short.sublist.count_le (Event.stage ref .stopped)
    rw [List.count_append, List.count_append]
    omega

namespace Balanced

variable {running refs : List StageRef} {events later : List Event}

theorem nil : Balanced [] [] where
  accepted _ := List.not_mem_nil
  answered _ past reached := by rw [List.prefix_nil.mp reached]; exact Nat.le_refl _
  count _ := rfl

theorem congr (balanced : Balanced running events) {other : List StageRef}
    (same : ∀ ref, other.count ref = running.count ref) : Balanced other events :=
  ⟨balanced.accepted, balanced.answered, fun ref => by rw [same ref]; exact balanced.count ref⟩

theorem accepted_append (balanced : Balanced running events) {moment : StageMoment}
    (done : moment ≠ .startFailed) (refs : List StageRef) (ref : StageRef) :
    Event.stage ref .startFailed ∉ events ++ refs.map (Event.stage · moment) := by
  intro member
  rcases List.mem_append.mp member with early | late
  · exact balanced.accepted ref early
  · obtain ⟨other, -, same⟩ := List.mem_map.mp late
    exact done (Event.stage.inj same).2

theorem quiet (balanced : Balanced running events)
    (minor : ∀ event ∈ later, event.isPower = false) : Balanced running (events ++ later) := by
  have starts (ref : StageRef) : later.count (.stage ref .started) = 0 := count_power minor rfl
  have stops (ref : StageRef) : later.count (.stage ref .stopped) = 0 := count_power minor rfl
  refine ⟨?_, ?_, ?_⟩
  · intro ref member
    rcases List.mem_append.mp member with early | late
    · exact balanced.accepted ref early
    · cases minor _ late
  · intro ref
    apply (balanced.answered ref).append
    have counted := balanced.count ref
    have none := stops ref
    omega
  · intro ref
    rw [List.count_append, List.count_append, starts, stops]
    exact balanced.count ref

theorem started (balanced : Balanced [] events) (refs : List StageRef) :
    Balanced refs (events ++ refs.map (Event.stage · .started)) := by
  refine ⟨?_, ?_, ?_⟩
  · exact balanced.accepted_append (by decide) refs
  · intro ref
    apply (balanced.answered ref).append
    have counted := balanced.count ref
    have none : (refs.map (Event.stage · .started)).count (.stage ref .stopped) = 0 :=
      count_stage_other (by decide) refs ref
    omega
  · intro ref
    have counted := balanced.count ref
    have none : (refs.map (Event.stage · .started)).count (.stage ref .stopped) = 0 :=
      count_stage_other (by decide) refs ref
    rw [List.count_append, List.count_append, count_stage_same, none, counted]
    rfl

theorem stopped (balanced : Balanced refs events) :
    Balanced [] (events ++ refs.map (Event.stage · .stopped)) := by
  have none (ref : StageRef) :
      (refs.map (Event.stage · .stopped)).count (.stage ref .started) = 0 :=
    count_stage_other (by decide) refs ref
  refine ⟨?_, ?_, ?_⟩
  · exact balanced.accepted_append (by decide) refs
  · intro ref
    apply (balanced.answered ref).append
    have counted := balanced.count ref
    rw [count_stage_same]
    omega
  · intro ref
    have counted := balanced.count ref
    rw [List.count_append, List.count_append, count_stage_same, none, counted, List.count_nil]

/-- Stages that were tried are stopped again when the next one refuses. -/
theorem refused (balanced : Balanced [] events) (tried : List StageRef) (last : StageRef) :
    Overstopped [] (events ++ tried.map (Event.stage · .started) ++ [.stage last .startFailed]
      ++ tried.reverse.map (Event.stage · .stopped)) := by
  refine ⟨⟨last, by simp⟩, ?_⟩
  intro ref
  have counted := balanced.count ref
  simp only [List.count_append, List.count_nil, Nat.add_zero, count_stage_same,
    count_stage_other (show StageMoment.started ≠ .stopped by decide),
    count_stage_other (show StageMoment.stopped ≠ .started by decide),
    List.count_reverse] at counted ⊢
  simp [counted]

end Balanced

namespace Overstopped

variable {excess refs : List StageRef} {events later : List Event}

theorem quiet (ahead : Overstopped excess events)
    (minor : ∀ event ∈ later, event.isPower = false) : Overstopped excess (events ++ later) := by
  obtain ⟨ref, member⟩ := ahead.refused
  refine ⟨⟨ref, List.mem_append_left _ member⟩, ?_⟩
  intro ref
  have starts : later.count (.stage ref .started) = 0 := count_power minor rfl
  have stops : later.count (.stage ref .stopped) = 0 := count_power minor rfl
  rw [List.count_append, List.count_append, starts, stops]
  exact ahead.count ref

theorem stopped (ahead : Overstopped [] events) (refs : List StageRef) :
    Overstopped refs (events ++ refs.map (Event.stage · .stopped)) := by
  obtain ⟨ref, member⟩ := ahead.refused
  refine ⟨⟨ref, List.mem_append_left _ member⟩, ?_⟩
  intro ref
  have counted := ahead.count ref
  have none : (refs.map (Event.stage · .stopped)).count (.stage ref .started) = 0 :=
    count_stage_other (by decide) refs ref
  rw [List.count_append, List.count_append, count_stage_same, none, counted]
  rfl

end Overstopped

/-! ## Histories of a host -/

namespace Journal.Since

variable {base : List Event} {before after : Journal} {running excess : List StageRef}

theorem balanced (since : before.Since base (Balanced running))
    (adds : Adds (·.isPower = false) before after) : after.Since base (Balanced running) :=
  since.grow adds Balanced.quiet

theorem overstopped (since : before.Since base (Overstopped excess))
    (adds : Adds (·.isPower = false) before after) : after.Since base (Overstopped excess) :=
  since.grow adds Overstopped.quiet

end Journal.Since

namespace Pipeline

variable {base : List Event} {before after host : Host} {pipeline : Pipeline}

theorem stopAll_balanced
    (since : host.journal.Since base (Balanced (host.present pipeline.stages))) :
    (pipeline.stopAll host).journal.Since base (Balanced []) := by
  obtain ⟨added, events, balanced⟩ := since
  refine ⟨_, ?_, balanced.stopped⟩
  rw [stopAll, stopEach_events, events, List.append_assoc]

theorem stopAll_overstopped (since : host.journal.Since base (Overstopped [])) :
    (pipeline.stopAll host).journal.Since base
      (Overstopped (host.present pipeline.stages)) := by
  obtain ⟨added, events, ahead⟩ := since
  refine ⟨_, ?_, ahead.stopped (host.present pipeline.stages)⟩
  rw [stopAll, stopEach_events, events, List.append_assoc]

theorem startAll_balanced (since : before.journal.Since base (Balanced []))
    (started : pipeline.startAll before = (.ok (), after)) :
    after.journal.Since base (Balanced (before.present pipeline.stages)) := by
  obtain ⟨added, events, balanced⟩ := since
  have entered := startFrom_ok started
  refine ⟨_, ?_, (balanced.started (before.present pipeline.stages.reverse)).congr ?_⟩
  · rw [entered, events, List.append_assoc]
  · intro ref
    rw [Host.present, Host.present, List.filter_reverse, List.count_reverse]

theorem startAll_overstopped {e : Error} (since : before.journal.Since base (Balanced []))
    (refused : pipeline.startAll before = (.error e, after)) :
    after.journal.Since base (Overstopped []) := by
  obtain ⟨added, events, balanced⟩ := since
  obtain ⟨tried, ref, -, -, entered⟩ := startFrom_error refused
  refine ⟨_, ?_, balanced.refused (before.present tried) ref⟩
  rw [entered, events, List.append_nil, Host.present, Host.present, List.filter_reverse]
  simp only [List.append_assoc]

/-- The stage that refuses is among those of the pipeline. -/
theorem present_of_startAll_error {e : Error}
    (refused : pipeline.startAll host = (.error e, after)) :
    ∃ ref, ref ∈ host.present pipeline.stages := by
  obtain ⟨tried, ref, among, held, -⟩ := startFrom_error refused
  refine ⟨ref, List.mem_filter.mpr ⟨?_, held⟩⟩
  exact List.mem_reverse.mp (among.subset (by simp))

end Pipeline

end RequestPipeline
