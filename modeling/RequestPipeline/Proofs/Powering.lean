import RequestPipeline.Proofs.Serving

/-!
# Starting and stopping, entry by entry

Which entries starting and stopping a list of stages makes in the journal, in order: one for each
stage that exists.  Everything else that happens on a host is quiet, in that it starts and stops
nothing.
-/

namespace RequestPipeline

namespace Host

def holds (host : Host) : StageRef → Bool
  | .wrapper index => decide (index < host.wrappers.length)
  | .dispatch index => decide (index < host.dispatches.length)

def present (host : Host) (refs : List StageRef) : List StageRef := refs.filter host.holds

/-- Nothing is started or stopped, and no stage is added or taken away. -/
structure Quiet (before after : Host) : Prop where
  wrappers : after.wrappers.length = before.wrappers.length
  dispatches : after.dispatches.length = before.dispatches.length
  journal : Journal.Adds (·.isPower = false) before.journal after.journal

variable {before middle after : Host}

theorem present_congr (wrappers : after.wrappers.length = before.wrappers.length)
    (dispatches : after.dispatches.length = before.dispatches.length) (refs : List StageRef) :
    after.present refs = before.present refs := by
  apply List.filter_congr
  intro ref _
  cases ref with
  | wrapper index => simp only [holds, wrappers]
  | dispatch index => simp only [holds, dispatches]

theorem Evolves.present {kind : Event → Prop} (evolves : Evolves kind before after)
    (refs : List StageRef) : after.present refs = before.present refs :=
  present_congr evolves.wrappers evolves.dispatches refs

/-! ## What is quiet -/

namespace Quiet

theorem refl (host : Host) : host.Quiet host := ⟨rfl, rfl, .refl _⟩

theorem trans (first : before.Quiet middle) (second : middle.Quiet after) :
    before.Quiet after :=
  ⟨second.wrappers.trans first.wrappers, second.dispatches.trans first.dispatches,
    first.journal.trans second.journal⟩

theorem present (quiet : before.Quiet after) (refs : List StageRef) :
    after.present refs = before.present refs :=
  present_congr quiet.wrappers quiet.dispatches refs

theorem withJournal (host : Host) {journal : Journal}
    (grown : Journal.Adds (·.isPower = false) host.journal journal) :
    host.Quiet { host with journal := journal } :=
  ⟨rfl, rfl, grown⟩

theorem updateDispatch (host : Host) (index : Nat) (change : DispatchCell → DispatchCell) :
    host.Quiet (host.updateDispatch index change) :=
  ⟨rfl, by simp [Host.updateDispatch], .refl _⟩

end Quiet

theorem Evolves.quiet {kind : Event → Prop} (evolves : Evolves kind before after)
    (minor : ∀ event, kind event → event.isPower = false) : before.Quiet after :=
  ⟨evolves.wrappers, evolves.dispatches, evolves.journal.mono minor⟩

theorem quiet_of_rests (rests : before.Rests after) : before.Quiet after :=
  rests.quiet fun _ => Event.not_isPower_of_isMinor

theorem Serves.quiet (serves : before.Serves after) : before.Quiet after :=
  serves.evolves.quiet fun _ => not_isPower_of_admits

end Host

/-! ## Participants -/

namespace Participant

theorem start_adds (participant : Participant) (journal : Journal) :
    Journal.Adds (·.isCall = true) journal (participant.start journal).2 := by
  unfold start
  split
  · exact .note journal _ rfl
  · exact .note journal _ rfl

theorem stopAll_adds (participants : List Participant) (journal : Journal) :
    Journal.Adds (·.isCall = true) journal (stopAll participants journal) := by
  refine .foldl (fun journal participant => ?_) participants journal
  exact .note journal _ rfl

theorem startFrom_adds (done rest : List Participant) (journal : Journal) :
    Journal.Adds (·.isCall = true) journal (startFrom done rest journal).2 := by
  induction rest generalizing done journal with
  | nil => exact .refl journal
  | cons participant rest ih =>
      have first := participant.start_adds journal
      unfold startFrom
      split
      · next started => exact (started ▸ first).trans (ih _ _)
      · next refused => exact (refused ▸ first).trans (stopAll_adds done _)

end Participant

namespace RoutingTable

theorem initAll_adds (routing : RoutingTable) (journal : Journal) :
    Journal.Adds (·.isCall = true) journal (routing.initAll journal).2 := by
  rw [initAll_eq]
  exact Participant.startFrom_adds [] routing.participants journal

theorem destroyAll_adds (routing : RoutingTable) (journal : Journal) :
    Journal.Adds (·.isCall = true) journal (routing.destroyAll journal) := by
  rw [destroyAll_eq]
  exact Participant.stopAll_adds routing.participants.reverse journal

end RoutingTable

namespace Host

theorem destroyAll_quiet (host : Host) (routing : RoutingTable) :
    host.Quiet { host with journal := routing.destroyAll host.journal } :=
  .withJournal host ((routing.destroyAll_adds _).mono fun _ => Event.not_isPower_of_isCall)

theorem replaceRouting_quiet (host : Host) (index : Nat) (routing : RoutingTable) :
    host.Quiet (host.replaceRouting index routing) := by
  unfold replaceRouting
  split
  · exact .refl host
  · have placed : host.Quiet (host.updateDispatch index
        fun cell => { cell with routing := some routing }) := .updateDispatch host index _
    dsimp only
    split
    · exact placed
    · next previous _ => exact placed.trans (destroyAll_quiet _ previous)

theorem finalizeRouting_quiet (host : Host) (index : Nat) (snapshot : Snapshot) :
    host.Quiet (host.finalizeRouting index snapshot).2 := by
  unfold finalizeRouting
  split
  · exact .refl host
  · next cell _ =>
      have noted : host.Quiet (host.note (.stage (.dispatch index) .finalized)
          cell.stage.finalizeLine) := .withJournal host (.note _ _ rfl)
      dsimp only
      split
      · exact noted
      · have begun : Journal.Adds (·.isPower = false) _ _ :=
          ((RoutingTable.build snapshot cell.errorUnit).initAll_adds
            (host.note (.stage (.dispatch index) .finalized) cell.stage.finalizeLine).journal).mono
              fun _ => Event.not_isPower_of_isCall
        split
        · next failed =>
            rw [failed] at begun
            exact noted.trans (.withJournal _ begun)
        · next passed =>
            rw [passed] at begun
            exact (noted.trans (.withJournal _ begun)).trans (replaceRouting_quiet _ index _)

theorem clearRouting_quiet (host : Host) (index : Nat) :
    host.Quiet (host.clearRouting index) := by
  unfold clearRouting
  split
  · exact .refl host
  · next cell _ =>
      have noted : host.Quiet (host.note (.stage (.dispatch index) .cleared)
          cell.stage.clearLine) := .withJournal host (.note _ _ rfl)
      dsimp only
      split
      · exact noted
      · next routing _ =>
          have emptied := noted.trans (.updateDispatch _ index
            fun cell => { cell with routing := none })
          exact emptied.trans (destroyAll_quiet _ routing)

/-! ## Single stages -/

theorem stopStage_events (host : Host) (ref : StageRef) :
    (host.stopStage ref).journal.events =
      host.journal.events ++ (host.present [ref]).map (Event.stage · .stopped) := by
  cases ref with
  | wrapper index =>
      simp only [stopStage]
      split
      · next missing => simp [present, holds, List.getElem?_eq_none_iff.mp missing]
      · next cell found =>
          obtain ⟨inside, -⟩ := List.getElem?_eq_some_iff.mp found
          simp [present, holds, inside, note, Journal.events_note]
  | dispatch index =>
      simp only [stopStage]
      split
      · next missing => simp [present, holds, List.getElem?_eq_none_iff.mp missing]
      · next cell found =>
          obtain ⟨inside, -⟩ := List.getElem?_eq_some_iff.mp found
          simp [present, holds, inside, note, updateDispatch, Journal.events_note]

theorem startStage_ok {host after : Host} {ref : StageRef}
    (started : host.startStage ref = (.ok (), after)) :
    after.journal.events =
      host.journal.events ++ (host.present [ref]).map (Event.stage · .started) := by
  cases ref with
  | wrapper index =>
      simp only [startStage, startWrapper] at started
      split at started
      · next missing =>
          obtain ⟨-, rfl⟩ := Prod.mk.inj started
          simp [present, holds, List.getElem?_eq_none_iff.mp missing]
      · next cell found =>
          obtain ⟨inside, -⟩ := List.getElem?_eq_some_iff.mp found
          obtain ⟨accepted, rfl⟩ := Prod.mk.inj started
          simp [present, holds, inside, note, Journal.events_note, accepted, startMoment]
  | dispatch index =>
      simp only [startStage, startDispatch] at started
      split at started
      · next missing =>
          obtain ⟨-, rfl⟩ := Prod.mk.inj started
          simp [present, holds, List.getElem?_eq_none_iff.mp missing]
      · next cell found =>
          obtain ⟨inside, -⟩ := List.getElem?_eq_some_iff.mp found
          split at started
          · cases congrArg Prod.fst started
          · next reported accepted =>
              obtain ⟨-, rfl⟩ := Prod.mk.inj started
              simp [present, holds, inside, note, updateDispatch, Journal.events_note, accepted,
                startMoment]

/-- Only a stage that exists refuses to start. -/
theorem startStage_error {host after : Host} {ref : StageRef} {e : Error}
    (refused : host.startStage ref = (.error e, after)) : host.holds ref = true ∧
      after.journal.events = host.journal.events ++ [.stage ref .startFailed] := by
  cases ref with
  | wrapper index =>
      simp only [startStage, startWrapper] at refused
      split at refused
      · cases congrArg Prod.fst refused
      · next cell found =>
          obtain ⟨inside, -⟩ := List.getElem?_eq_some_iff.mp found
          obtain ⟨barred, rfl⟩ := Prod.mk.inj refused
          exact ⟨decide_eq_true inside, by simp [note, Journal.events_note, barred, startMoment]⟩
  | dispatch index =>
      simp only [startStage, startDispatch] at refused
      split at refused
      · cases congrArg Prod.fst refused
      · next cell found =>
          obtain ⟨inside, -⟩ := List.getElem?_eq_some_iff.mp found
          split at refused
          · next fault barred =>
              obtain ⟨-, rfl⟩ := Prod.mk.inj refused
              exact ⟨decide_eq_true inside,
                by simp [note, Journal.events_note, barred, startMoment]⟩
          · cases congrArg Prod.fst refused

theorem present_cons (host : Host) (ref : StageRef) (refs : List StageRef) :
    host.present (ref :: refs) = host.present [ref] ++ host.present refs := by
  rw [present, ← List.singleton_append, List.filter_append]
  rfl

end Host

/-! ## Lists of stages -/

namespace Pipeline

theorem stopEach_events (refs : List StageRef) (host : Host) :
    (stopEach refs host).journal.events =
      host.journal.events ++ (host.present refs).map (Event.stage · .stopped) := by
  induction refs generalizing host with
  | nil => simp [stopEach, Host.present]
  | cons ref rest ih =>
      have later := ih (host.stopStage ref)
      rw [(host.stopStage_evolves ref).present, host.stopStage_events] at later
      rw [host.present_cons ref rest, List.map_append, ← List.append_assoc, ← later]
      rfl

theorem startFrom_ok {done rest : List StageRef} {host after : Host}
    (started : startFrom done rest host = (.ok (), after)) : after.journal.events =
      host.journal.events ++ (host.present rest).map (Event.stage · .started) := by
  induction rest generalizing done host with
  | nil =>
      obtain ⟨-, rfl⟩ := Prod.mk.inj started
      simp [Host.present]
  | cons ref rest ih =>
      have evolves := host.startStage_evolves ref
      unfold startFrom at started
      split at started
      · next middle first =>
          rw [first] at evolves
          have later := ih started
          rw [evolves.present, Host.startStage_ok first] at later
          rw [later, host.present_cons ref rest, List.map_append, List.append_assoc]
      · cases congrArg Prod.fst started

/-- When a stage refuses to start, those tried before it are stopped again, the latest first. -/
theorem startFrom_error {done rest : List StageRef} {host after : Host} {e : Error}
    (refused : startFrom done rest host = (.error e, after)) :
    ∃ tried ref, tried ++ [ref] <+: rest ∧ host.holds ref = true ∧
      after.journal.events = host.journal.events
        ++ (host.present tried).map (Event.stage · .started) ++ [.stage ref .startFailed]
        ++ (host.present (tried.reverse ++ done)).map (Event.stage · .stopped) := by
  induction rest generalizing done host with
  | nil => cases congrArg Prod.fst refused
  | cons ref rest ih =>
      have evolves := host.startStage_evolves ref
      unfold startFrom at refused
      split at refused
      · next middle first =>
          obtain ⟨tried, last, among, held, later⟩ := ih refused
          rw [first] at evolves
          have same : middle.holds last = host.holds last := by
            cases last with
            | wrapper index => simp only [Host.holds, evolves.wrappers]
            | dispatch index => simp only [Host.holds, evolves.dispatches]
          refine ⟨ref :: tried, last, ?_, same ▸ held, ?_⟩
          · exact List.cons_prefix_cons.mpr ⟨rfl, among⟩
          · rw [evolves.present, evolves.present, Host.startStage_ok first] at later
            rw [later, host.present_cons ref tried, List.reverse_cons]
            simp [List.append_assoc]
      · next fault middle first =>
          obtain ⟨held, noted⟩ := Host.startStage_error first
          rw [first] at evolves
          refine ⟨[], ref, ?_, held, ?_⟩
          · exact List.cons_prefix_cons.mpr ⟨rfl, List.nil_prefix⟩
          · obtain ⟨-, rfl⟩ := Prod.mk.inj refused
            rw [stopEach_events, evolves.present, noted]
            simp [Host.present]

end Pipeline

end RequestPipeline
