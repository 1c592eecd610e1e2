import RequestPipeline.Journal

/-!
# How the journal grows

The journal only ever grows.  What a call adds to it is described by the kind of event: stages
being started and stopped, registrations being called, and everything else.
-/

namespace RequestPipeline

/-- What one step of a loop keeps, the loop keeps. -/
theorem foldl_keeps {σ α : Type} {kept : σ → σ → Prop} (refl : ∀ state, kept state state)
    (trans : ∀ {before middle after}, kept before middle → kept middle after → kept before after)
    {step : σ → α → σ} (keeps : ∀ state a, kept state (step state a)) (items : List α)
    (state : σ) : kept state (items.foldl step state) := by
  induction items generalizing state with
  | nil => exact refl state
  | cons a rest ih => exact trans (keeps state a) (ih (step state a))

namespace Event

/-- A stage is started, refuses to start, or is stopped. -/
def isPower : Event → Bool
  | .stage _ .started | .stage _ .startFailed | .stage _ .stopped => true
  | _ => false

/-- A unit or an interceptor is called, in whatever capacity. -/
def isCall : Event → Bool
  | .registration .. => true
  | _ => false

/-- Nothing is started, stopped or called. -/
def isMinor (event : Event) : Bool := !event.isPower && !event.isCall

theorem not_isPower_of_isCall {event : Event} (call : event.isCall = true) :
    event.isPower = false := by
  cases event <;> simp_all [isCall, isPower]

theorem not_isCall_of_isPower {event : Event} (power : event.isPower = true) :
    event.isCall = false := by
  cases event <;> simp_all [isCall, isPower]

theorem not_isPower_of_isMinor {event : Event} (minor : event.isMinor = true) :
    event.isPower = false := by
  simp only [isMinor, Bool.and_eq_true, Bool.not_eq_true'] at minor
  exact minor.1

theorem not_isCall_of_isMinor {event : Event} (minor : event.isMinor = true) :
    event.isCall = false := by
  simp only [isMinor, Bool.and_eq_true, Bool.not_eq_true'] at minor
  exact minor.2

end Event

namespace Journal

/-- The journal has grown, by events of one kind. -/
def Adds (kind : Event → Prop) (before after : Journal) : Prop :=
  ∃ added, after.events = before.events ++ added ∧ ∀ event ∈ added, kind event

namespace Adds

variable {kind wider : Event → Prop} {before middle after : Journal}

theorem refl (journal : Journal) : Adds kind journal journal :=
  ⟨[], by simp, by simp⟩

theorem trans (first : Adds kind before middle) (second : Adds kind middle after) :
    Adds kind before after := by
  obtain ⟨added, events, all⟩ := first
  obtain ⟨later, laterEvents, laterAll⟩ := second
  refine ⟨added ++ later, ?_, ?_⟩
  · rw [laterEvents, events, List.append_assoc]
  · intro event member
    rcases List.mem_append.mp member with early | late
    · exact all event early
    · exact laterAll event late

theorem mono (grown : Adds kind before after) (wide : ∀ event, kind event → wider event) :
    Adds wider before after := by
  obtain ⟨added, events, all⟩ := grown
  exact ⟨added, events, fun event member => wide event (all event member)⟩

theorem note (journal : Journal) {event : Event} (line : Option String) (holds : kind event) :
    Adds kind journal (journal.note event line) :=
  ⟨[event], events_note journal event line, by simpa using holds⟩

/-- What one step of a loop adds, the loop adds. -/
theorem foldl {α : Type} {step : Journal → α → Journal}
    (grows : ∀ journal a, Adds kind journal (step journal a)) (items : List α)
    (journal : Journal) : Adds kind journal (items.foldl step journal) :=
  foldl_keeps refl trans grows items journal

end Adds

/-- The journal goes on, by whatever events. -/
abbrev Continues (before after : Journal) : Prop := Adds (fun _ => True) before after

theorem Adds.continues {kind : Event → Prop} {before after : Journal}
    (adds : Adds kind before after) : before.Continues after :=
  adds.mono fun _ _ => trivial

/-- What has been entered since some events satisfies a condition. -/
def Since (base : List Event) (holds : List Event → Prop) (journal : Journal) : Prop :=
  ∃ added, journal.events = base ++ added ∧ holds added

/-- The condition follows the journal as far as the events that are added allow. -/
theorem Since.grow {base : List Event} {holds later : List Event → Prop}
    {kind : Event → Prop} {before after : Journal} (since : before.Since base holds)
    (adds : Adds kind before after)
    (stable : ∀ {events added : List Event}, holds events → (∀ event ∈ added, kind event) →
      later (events ++ added)) : after.Since base later := by
  obtain ⟨events, entered, held⟩ := since
  obtain ⟨added, grown, all⟩ := adds
  exact ⟨events ++ added, by rw [grown, entered, List.append_assoc], stable held all⟩

end Journal

end RequestPipeline
