import RequestPipeline.Proofs.Powering

/-!
# What stays of the stages

Whatever is done on a host, its stages remain the same objects; links, flags and routing are all
that changes about them.  Working on stages enters in the journal what happens to them and to what
is registered, and nothing else.  Objects are constructed when registrations are frozen and at no
other time.  Where no stage is started or stopped, dispatch stages go on to report what they did before.
-/

namespace RequestPipeline

theorem map_modify_of_keeps {α β : Type} {change : α → α} {part : α → β}
    (keeps : ∀ a, part (change a) = part a) (items : List α) (index : Nat) :
    (items.modify index change).map part = items.map part := by
  apply List.ext_getElem?
  intro other
  rw [List.getElem?_map, List.getElem?_map, List.getElem?_modify]
  cases items[other]? with
  | none => rfl
  | some a =>
      by_cases same : index = other
      · simp [same, keeps]
      · simp [same]

namespace Event

/-- Something happens to a stage, or to what is registered. -/
def isHosted : Event → Bool
  | .registration .. | .stage .. => true
  | _ => false

variable {event : Event}

theorem isHosted_of_isCall (call : event.isCall = true) : event.isHosted = true := by
  cases event <;> first | rfl | cases call

theorem not_isConstruction_of_isHosted (hosted : event.isHosted = true) :
    Journal.isConstruction event = false := by
  cases event <;> first | rfl | cases hosted

end Event

namespace Host

def wrapperAt? (host : Host) (index : Nat) : Option Wrapper :=
  (host.wrappers[index]?).map (·.wrapper)

def stageAt? (host : Host) (index : Nat) : Option DispatchStage :=
  (host.dispatches[index]?).map (·.stage)

def IsStock (host : Host) (index : Nat) : Prop := host.stageAt? index = some .stock

/-- The stages are those of before, and the journal has grown by events of one kind. -/
structure Remains (kind : Event → Prop) (before after : Host) : Prop where
  wrappers : after.wrappers.map (·.wrapper) = before.wrappers.map (·.wrapper)
  stages : after.dispatches.map (·.stage) = before.dispatches.map (·.stage)
  journal : Journal.Adds kind before.journal after.journal

/-- The stages are those of before, and things have happened to them and to what is registered. -/
abbrev Works (before after : Host) : Prop := Remains (·.isHosted = true) before after

/-- The stages are those of before, and nothing has been constructed. -/
abbrev Retains (before after : Host) : Prop :=
  Remains (Journal.isConstruction · = false) before after

/-- The stages are those of before, whatever has happened. -/
abbrev Persists (before after : Host) : Prop := Remains (fun _ => True) before after

/-- Nothing has been constructed, and every dispatch stage reports itself as started if and only if
it did before. -/
structure Idles (before after : Host) : Prop
    extends Remains (Journal.isConstruction · = false) before after where
  reports : after.dispatches.map (·.reported) = before.dispatches.map (·.reported)

/-- Things have happened to the stages and to what is registered, but every dispatch stage reports
itself as started if and only if it did before. -/
structure Arranges (before after : Host) : Prop
    extends Remains (·.isHosted = true) before after where
  reports : after.dispatches.map (·.reported) = before.dispatches.map (·.reported)

variable {before middle after host : Host}

namespace Remains

variable {kind : Event → Prop}

theorem refl (host : Host) : Remains kind host host := ⟨rfl, rfl, .refl _⟩

theorem trans (first : Remains kind before middle) (second : Remains kind middle after) :
    Remains kind before after where
  wrappers := second.wrappers.trans first.wrappers
  stages := second.stages.trans first.stages
  journal := first.journal.trans second.journal

theorem withJournal (host : Host) {journal : Journal}
    (grown : Journal.Adds kind host.journal journal) :
    Remains kind host { host with journal := journal } :=
  ⟨rfl, rfl, grown⟩

theorem note (host : Host) {event : Event} (line : Option String) (holds : kind event) :
    Remains kind host (host.note event line) :=
  .withJournal host (.note _ line holds)

theorem updateDispatch (host : Host) (index : Nat) {change : DispatchCell → DispatchCell}
    (keeps : ∀ cell, (change cell).stage = cell.stage) :
    Remains kind host (host.updateDispatch index change) :=
  ⟨rfl, map_modify_of_keeps keeps _ index, .refl _⟩

theorem mono {wider : Event → Prop} (remains : Remains kind before after)
    (wide : ∀ event, kind event → wider event) : Remains wider before after :=
  ⟨remains.wrappers, remains.stages, remains.journal.mono wide⟩

theorem retains (works : before.Works after) : before.Retains after :=
  works.mono fun _ => Event.not_isConstruction_of_isHosted

theorem persists (remains : Remains kind before after) : before.Persists after :=
  ⟨remains.wrappers, remains.stages, remains.journal.continues⟩

theorem wrapperAt? (remains : Remains kind before after) (index : Nat) :
    after.wrapperAt? index = before.wrapperAt? index := by
  rw [Host.wrapperAt?, Host.wrapperAt?, ← List.getElem?_map, ← List.getElem?_map,
    remains.wrappers]

theorem stageAt? (remains : Remains kind before after) (index : Nat) :
    after.stageAt? index = before.stageAt? index := by
  rw [Host.stageAt?, Host.stageAt?, ← List.getElem?_map, ← List.getElem?_map, remains.stages]

theorem isStock (remains : Remains kind before after) {index : Nat} (stock : after.IsStock index) :
    before.IsStock index :=
  (remains.stageAt? index).symm.trans stock

end Remains

namespace Idles

theorem refl (host : Host) : host.Idles host := ⟨.refl host, rfl⟩

theorem trans (first : before.Idles middle) (second : middle.Idles after) :
    before.Idles after :=
  ⟨first.toRemains.trans second.toRemains, second.reports.trans first.reports⟩

theorem withJournal (host : Host) {journal : Journal}
    (grown : Journal.Adds (Journal.isConstruction · = false) host.journal journal) :
    host.Idles { host with journal := journal } :=
  ⟨.withJournal host grown, rfl⟩

theorem note (host : Host) {event : Event} (line : Option String)
    (holds : Journal.isConstruction event = false) : host.Idles (host.note event line) :=
  .withJournal host (.note _ line holds)

theorem isStarted (idles : before.Idles after) (index : Nat) :
    after.isStarted index = before.isStarted index := by
  rw [Host.isStarted, Host.isStarted, ← List.getElem?_map, ← List.getElem?_map, idles.reports]

end Idles

namespace Arranges

theorem refl (host : Host) : host.Arranges host := ⟨.refl host, rfl⟩

theorem trans (first : before.Arranges middle) (second : middle.Arranges after) :
    before.Arranges after :=
  ⟨first.toRemains.trans second.toRemains, second.reports.trans first.reports⟩

theorem idles (arranges : before.Arranges after) : before.Idles after :=
  ⟨arranges.toRemains.retains, arranges.reports⟩

theorem withJournal (host : Host) {journal : Journal}
    (grown : Journal.Adds (·.isHosted = true) host.journal journal) :
    host.Arranges { host with journal := journal } :=
  ⟨.withJournal host grown, rfl⟩

theorem note (host : Host) {event : Event} (line : Option String)
    (hosted : event.isHosted = true) : host.Arranges (host.note event line) :=
  .withJournal host (.note _ line hosted)

theorem updateWrapper (host : Host) (index : Nat) {change : WrapperCell → WrapperCell}
    (keeps : ∀ cell, (change cell).wrapper = cell.wrapper) :
    host.Arranges (host.updateWrapper index change) :=
  ⟨⟨map_modify_of_keeps keeps _ index, rfl, .refl _⟩, rfl⟩

theorem updateDispatch (host : Host) (index : Nat) {change : DispatchCell → DispatchCell}
    (keepsStage : ∀ cell, (change cell).stage = cell.stage)
    (keepsReport : ∀ cell, (change cell).reported = cell.reported) :
    host.Arranges (host.updateDispatch index change) :=
  ⟨.updateDispatch host index keepsStage, map_modify_of_keeps keepsReport _ index⟩

end Arranges

/-! ## Links, routing and the error handler -/

theorem link_arranges (host : Host) (index : Nat) (next : StageRef) :
    host.Arranges (host.link index next) := by
  unfold link
  split
  · exact .refl host
  · refine .trans (.note host _ ?_) (.updateWrapper _ index fun _ => rfl)
    rfl

theorem unlink_arranges (host : Host) (index : Nat) : host.Arranges (host.unlink index) := by
  unfold unlink
  split
  · exact .refl host
  · refine .trans (.note host _ ?_) (.updateWrapper _ index fun _ => rfl)
    rfl

theorem setErrorHandler_arranges (host : Host) (index : Nat)
    (unit : Option (Instance ServiceUnit)) : host.Arranges (host.setErrorHandler index unit) := by
  unfold setErrorHandler
  split
  · exact .refl host
  · refine .trans (.note host _ ?_) (.updateDispatch _ index (fun _ => rfl) fun _ => rfl)
    rfl

theorem destroyAll_arranges (host : Host) (routing : RoutingTable) :
    host.Arranges { host with journal := routing.destroyAll host.journal } :=
  .withJournal host ((routing.destroyAll_adds _).mono fun _ => Event.isHosted_of_isCall)

theorem replaceRouting_arranges (host : Host) (index : Nat) (routing : RoutingTable) :
    host.Arranges (host.replaceRouting index routing) := by
  unfold replaceRouting
  split
  · exact .refl host
  · have placed : host.Arranges (host.updateDispatch index
        fun cell => { cell with routing := some routing }) :=
      .updateDispatch host index (fun _ => rfl) fun _ => rfl
    dsimp only
    split
    · exact placed
    · next previous _ => exact placed.trans (destroyAll_arranges _ previous)

theorem finalizeRouting_arranges (host : Host) (index : Nat) (snapshot : Snapshot) :
    host.Arranges (host.finalizeRouting index snapshot).2 := by
  unfold finalizeRouting
  split
  · exact .refl host
  · next cell _ =>
      have noted : host.Arranges (host.note (.stage (.dispatch index) .finalized)
          cell.stage.finalizeLine) := .note host _ rfl
      dsimp only
      split
      · exact noted
      · have begun : Journal.Adds (·.isHosted = true) _ _ :=
          ((RoutingTable.build snapshot cell.errorUnit).initAll_adds
            (host.note (.stage (.dispatch index) .finalized) cell.stage.finalizeLine).journal).mono
              fun _ => Event.isHosted_of_isCall
        split
        · next refused =>
            rw [refused] at begun
            exact noted.trans (.withJournal _ begun)
        · next accepted =>
            rw [accepted] at begun
            exact (noted.trans (.withJournal _ begun)).trans (replaceRouting_arranges _ index _)

theorem clearRouting_arranges (host : Host) (index : Nat) :
    host.Arranges (host.clearRouting index) := by
  unfold clearRouting
  split
  · exact .refl host
  · next cell _ =>
      have noted : host.Arranges (host.note (.stage (.dispatch index) .cleared)
          cell.stage.clearLine) := .note host _ rfl
      dsimp only
      split
      · exact noted
      · next routing _ =>
          have emptied : host.Arranges ((host.note (.stage (.dispatch index) .cleared)
              cell.stage.clearLine).updateDispatch index
                fun cell => { cell with routing := none }) :=
            noted.trans (.updateDispatch _ index (fun _ => rfl) fun _ => rfl)
          exact emptied.trans (destroyAll_arranges _ routing)

/-! ## Starting and stopping -/

theorem startStage_works (host : Host) (ref : StageRef) :
    host.Works (host.startStage ref).2 := by
  cases ref with
  | wrapper index =>
      simp only [startStage, startWrapper]
      split
      · exact .refl host
      · exact .note host _ rfl
  | dispatch index =>
      simp only [startStage, startDispatch]
      split
      · exact .refl host
      · next cell _ =>
          have noted : host.Works (host.note (.stage (.dispatch index)
              (startMoment (cell.stage.start host.journal))) cell.stage.startLine) :=
            .note host _ rfl
          split
          · exact noted
          · exact noted.trans (.updateDispatch _ index fun _ => rfl)

theorem stopStage_works (host : Host) (ref : StageRef) : host.Works (host.stopStage ref) := by
  unfold stopStage
  split
  · split
    · exact .refl host
    · exact .note host _ rfl
  · split
    · exact .refl host
    · refine .trans (.note host _ ?_) (.updateDispatch _ _ fun _ => rfl)
      rfl

end Host

namespace Pipeline

theorem linkSome_arranges (host : Host) (index : Option Nat) (next : StageRef) :
    host.Arranges (linkSome host index next) := by
  cases index with
  | none => exact .refl host
  | some index => exact host.link_arranges index next

theorem assemble_arranges (pipeline : Pipeline) (host : Host) :
    host.Arranges (pipeline.assemble host) :=
  (linkSome_arranges host _ _).trans (linkSome_arranges _ _ _)

theorem unlink_arranges (pipeline : Pipeline) (host : Host) :
    host.Arranges (pipeline.unlink host) :=
  foldl_keeps .refl .trans Host.unlink_arranges pipeline.wrappers host

theorem unlink_clearRouting_arranges (pipeline : Pipeline) (host : Host) :
    host.Arranges (pipeline.unlink (host.clearRouting pipeline.dispatch)) :=
  (host.clearRouting_arranges pipeline.dispatch).trans (pipeline.unlink_arranges _)

theorem stopEach_works (refs : List StageRef) (host : Host) :
    host.Works (stopEach refs host) :=
  foldl_keeps .refl .trans Host.stopStage_works refs host

theorem startFrom_works (done rest : List StageRef) (host : Host) :
    host.Works (startFrom done rest host).2 := by
  induction rest generalizing done host with
  | nil => exact .refl host
  | cons ref rest ih =>
      have first := host.startStage_works ref
      unfold startFrom
      split
      · next started => exact (started ▸ first).trans (ih _ _)
      · next refused => exact (refused ▸ first).trans (stopEach_works done _)

theorem stopAll_works (pipeline : Pipeline) (host : Host) : host.Works (pipeline.stopAll host) :=
  stopEach_works pipeline.stages host

theorem startAll_works (pipeline : Pipeline) (host : Host) :
    host.Works (pipeline.startAll host).2 :=
  startFrom_works [] _ host

/-- The dispatch stage is started before the wrappers. -/
theorem stages_reverse (pipeline : Pipeline) : ∃ outer : List Nat,
    pipeline.stages.reverse = .dispatch pipeline.dispatch :: outer.map StageRef.wrapper := by
  refine ⟨pipeline.security.toList.reverse ++ pipeline.session.toList.reverse, ?_⟩
  simp [stages]

theorem startFrom_wrappers_dispatches (outer : List Nat) (done : List StageRef)
    {host after : Host}
    (started : startFrom done (outer.map StageRef.wrapper) host = (.ok (), after)) :
    after.dispatches = host.dispatches := by
  induction outer generalizing done host with
  | nil =>
      cases started
      rfl
  | cons index rest ih =>
      have first : (host.startStage (.wrapper index)).2.dispatches = host.dispatches := by
        simp only [Host.startStage, Host.startWrapper]
        split <;> rfl
      rw [List.map_cons, startFrom] at started
      split at started
      · next begun =>
          rw [begun] at first
          exact (ih _ started).trans first
      · cases congrArg Prod.fst started

/-- When all stages start, the dispatch stage reports what its own start said. -/
theorem startAll_reports {pipeline : Pipeline} {host after : Host}
    (started : pipeline.startAll host = (.ok (), after)) {stage : DispatchStage}
    (there : host.stageAt? pipeline.dispatch = some stage) :
    stage.start host.journal = .ok (after.isStarted pipeline.dispatch) := by
  obtain ⟨cell, found, rfl⟩ := Option.map_eq_some_iff.mp there
  obtain ⟨outer, order⟩ := pipeline.stages_reverse
  rw [startAll, order, startFrom, Host.startStage, Host.startDispatch, found] at started
  dsimp only at started
  cases result : cell.stage.start host.journal with
  | error e =>
      rw [result] at started
      cases congrArg Prod.fst started
  | ok reported =>
      rw [result] at started
      have kept := startFrom_wrappers_dispatches outer _ started
      rw [Host.isStarted, kept]
      simp [Host.updateDispatch, Host.note, found]

end Pipeline

end RequestPipeline
