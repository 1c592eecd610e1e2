import RequestPipeline.Host.Pipeline
import RequestPipeline.Proofs.JournalGrowth

/-!
# What leaves the routing alone

Most of what happens on a host adds to the journal and changes links and flags, but gives no stage
another routing and, unless a stage is made, adds none.  This is stated once, with the kind of
event that is entered, and then for each operation.
-/

namespace RequestPipeline

namespace Host

/-- Every routing stays, and the journal grows by events of one kind. -/
structure Widens (kind : Event → Prop) (before after : Host) : Prop where
  routing : ∀ index, after.routing? index = before.routing? index
  journal : Journal.Adds kind before.journal after.journal

/-- Besides, no stage is added or taken away. -/
structure Evolves (kind : Event → Prop) (before after : Host) : Prop
    extends Widens kind before after where
  wrappers : after.wrappers.length = before.wrappers.length
  dispatches : after.dispatches.length = before.dispatches.length

namespace Widens

variable {kind : Event → Prop} {before middle after : Host}

theorem refl (host : Host) : Widens kind host host := ⟨fun _ => rfl, .refl _⟩

theorem trans (first : Widens kind before middle) (second : Widens kind middle after) :
    Widens kind before after where
  routing index := (second.routing index).trans (first.routing index)
  journal := first.journal.trans second.journal

theorem mono {wider : Event → Prop} (widens : Widens kind before after)
    (wide : ∀ event, kind event → wider event) : Widens wider before after :=
  ⟨widens.routing, widens.journal.mono wide⟩

theorem addWrapper (host : Host) (wrapper : Wrapper) :
    Widens kind host (host.addWrapper wrapper).2 :=
  ⟨fun _ => rfl, .refl _⟩

/-- A new dispatch stage has no routing, so looking further than before finds none either. -/
theorem addDispatch (host : Host) (stage : DispatchStage) :
    Widens kind host (host.addDispatch stage).2 := by
  refine ⟨?_, .refl _⟩
  intro index
  simp only [routing?, Host.addDispatch, List.getElem?_append]
  split
  · rfl
  · next beyond =>
      rw [List.getElem?_eq_none (Nat.le_of_not_lt beyond)]
      cases index - host.dispatches.length <;> simp

end Widens

/-- Nothing is started, stopped or called, and every routing stays. -/
abbrev Rests (before after : Host) : Prop := Evolves (·.isMinor = true) before after

namespace Evolves

variable {kind wider : Event → Prop} {before middle after : Host}

theorem refl (host : Host) : Evolves kind host host := ⟨.refl host, rfl, rfl⟩

theorem trans (first : Evolves kind before middle) (second : Evolves kind middle after) :
    Evolves kind before after where
  toWidens := first.toWidens.trans second.toWidens
  wrappers := second.wrappers.trans first.wrappers
  dispatches := second.dispatches.trans first.dispatches

theorem withJournal (host : Host) {journal : Journal}
    (grown : Journal.Adds kind host.journal journal) :
    Evolves kind host { host with journal := journal } :=
  ⟨⟨fun _ => rfl, grown⟩, rfl, rfl⟩

theorem note (host : Host) {event : Event} (line : Option String) (holds : kind event) :
    Evolves kind host (host.note event line) :=
  .withJournal host (.note _ line holds)

theorem updateWrapper (host : Host) (index : Nat) (change : WrapperCell → WrapperCell) :
    Evolves kind host (host.updateWrapper index change) :=
  ⟨⟨fun _ => rfl, .refl _⟩, by simp [Host.updateWrapper], rfl⟩

theorem updateDispatch (host : Host) (index : Nat) {change : DispatchCell → DispatchCell}
    (keeps : ∀ cell, (change cell).routing = cell.routing) :
    Evolves kind host (host.updateDispatch index change) := by
  refine ⟨⟨?_, .refl _⟩, rfl, by simp [Host.updateDispatch]⟩
  intro other
  simp only [routing?, Host.updateDispatch, List.getElem?_modify]
  cases host.dispatches[other]? with
  | none => rfl
  | some cell =>
      by_cases same : index = other
      · simp [same, keeps]
      · simp [same]

/-- What one step of a loop keeps, the loop keeps. -/
theorem foldl {α : Type} {step : Host → α → Host}
    (keeps : ∀ host a, Evolves kind host (step host a)) (items : List α) (host : Host) :
    Evolves kind host (items.foldl step host) :=
  foldl_keeps refl trans keeps items host

end Evolves

/-! ## Linking -/

theorem link_rests (host : Host) (index : Nat) (next : StageRef) :
    host.Rests (host.link index next) := by
  unfold link
  split
  · exact .refl host
  · refine .trans (.note host _ ?_) (.updateWrapper _ index _)
    rfl

theorem unlink_rests (host : Host) (index : Nat) : host.Rests (host.unlink index) := by
  unfold unlink
  split
  · exact .refl host
  · refine .trans (.note host _ ?_) (.updateWrapper _ index _)
    rfl

theorem setErrorHandler_rests (host : Host) (index : Nat)
    (unit : Option (Instance ServiceUnit)) : host.Rests (host.setErrorHandler index unit) := by
  unfold setErrorHandler
  split
  · exact .refl host
  · refine .trans (.note host _ ?_) (.updateDispatch _ index fun _ => rfl)
    rfl

/-! ## Starting and stopping -/

theorem startMoment_isPower {α : Type} (ref : StageRef) (result : Except Error α) :
    (Event.stage ref (startMoment result)).isPower = true := by
  cases result <;> rfl

theorem startStage_evolves (host : Host) (ref : StageRef) :
    Evolves (·.isPower = true) host (host.startStage ref).2 := by
  cases ref with
  | wrapper index =>
      simp only [startStage, startWrapper]
      split
      · exact .refl host
      · exact .note host _ (startMoment_isPower _ _)
  | dispatch index =>
      simp only [startStage, startDispatch]
      split
      · exact .refl host
      · next cell _ =>
          have noted : Evolves (·.isPower = true) host (host.note (.stage (.dispatch index)
              (startMoment (cell.stage.start host.journal))) cell.stage.startLine) :=
            .note host _ (startMoment_isPower _ _)
          split
          · exact noted
          · exact noted.trans (.updateDispatch _ index fun _ => rfl)

theorem stopStage_evolves (host : Host) (ref : StageRef) :
    Evolves (·.isPower = true) host (host.stopStage ref) := by
  unfold stopStage
  split
  · split
    · exact .refl host
    · exact .note host _ rfl
  · split
    · exact .refl host
    · refine .trans (.note host _ ?_) (.updateDispatch _ _ fun _ => rfl)
      rfl

end Host

namespace Pipeline

theorem linkSome_rests (host : Host) (index : Option Nat) (next : StageRef) :
    host.Rests (linkSome host index next) := by
  cases index with
  | none => exact .refl host
  | some index => exact host.link_rests index next

theorem assemble_rests (pipeline : Pipeline) (host : Host) :
    host.Rests (pipeline.assemble host) :=
  (linkSome_rests host _ _).trans (linkSome_rests _ _ _)

theorem unlink_rests (pipeline : Pipeline) (host : Host) : host.Rests (pipeline.unlink host) :=
  .foldl Host.unlink_rests pipeline.wrappers host

theorem stopEach_evolves (refs : List StageRef) (host : Host) :
    host.Evolves (·.isPower = true) (stopEach refs host) :=
  .foldl Host.stopStage_evolves refs host

theorem startFrom_evolves (done rest : List StageRef) (host : Host) :
    host.Evolves (·.isPower = true) (startFrom done rest host).2 := by
  induction rest generalizing done host with
  | nil => exact .refl host
  | cons ref rest ih =>
      have first := host.startStage_evolves ref
      unfold startFrom
      split
      · next started => exact (started ▸ first).trans (ih _ _)
      · next refused => exact (refused ▸ first).trans (stopEach_evolves done _)

theorem startAll_evolves (pipeline : Pipeline) (host : Host) :
    host.Evolves (·.isPower = true) (pipeline.startAll host).2 :=
  startFrom_evolves [] _ host

end Pipeline

end RequestPipeline
