import Mathlib.Data.List.Induction
import RequestPipeline.Proofs.Chores
import RequestPipeline.Proofs.Holdings

/-!
# Requests that are overtaken

What registrations live through while requests are on their way.  A request that came in by a stage
or a dispatcher of its own may be overtaken: the routing that it took is gone, and what it calls
under it may have been destroyed.  Apart from such calls every registration lives in order.
-/

namespace RequestPipeline

namespace Scene

def events (scene : Scene) : List Event := scene.deployment.host.journal.events

def entered (scene : Scene) (happening : Happening) : List Event :=
  (scene.step happening).events.drop scene.events.length

/-- Whether a request is about to make a call under routing that has been exchanged since it took
it. -/
def isLate (scene : Scene) : Happening → Bool
  | .advanced index =>
      match scene.visitors[index]? with
      | some ⟨_, .call holding ..⟩ => holding.generation != scene.generation holding.stage
      | _ => false
  | _ => false

/-- The events of a run, but for late calls. -/
def timely : Scene → List Happening → List Event
  | _, [] => []
  | scene, happening :: rest =>
      (if scene.isLate happening then [] else scene.entered happening)
        ++ timely (scene.step happening) rest

theorem run_concat (scene : Scene) (past : List Happening) (happening : Happening) :
    scene.run (past ++ [happening]) = (scene.run past).step happening := by
  rw [run, List.foldl_append]
  rfl

theorem timely_concat (scene : Scene) (past : List Happening) (happening : Happening) :
    scene.timely (past ++ [happening]) = scene.timely past ++
      if (scene.run past).isLate happening then [] else (scene.run past).entered happening := by
  induction past generalizing scene with
  | nil =>
      rw [List.nil_append, timely, timely, timely, List.append_nil, List.nil_append]
      rfl
  | cons first rest ih =>
      rw [List.cons_append, timely, ih, timely, List.append_assoc]
      rfl

theorem entered_eq {scene : Scene} {happening : Happening} {added : List Event}
    (grown : (scene.step happening).events = scene.events ++ added) :
    scene.entered happening = added := by
  rw [entered, grown, List.drop_left]

variable {scene start : Scene} {place : Place} {past : List Event}

/-! ## Order, happening by happening -/

abbrev Ordered (place : Place) (scene : Scene) (past : List Event) : Prop :=
  Orderly place scene.job.chores scene.deployment past

abbrev KeepsOrder (place : Place) (past : List Event) (before after : Scene) : Prop :=
  after.deployment.host.journal.Since before.events fun added =>
    after.Ordered place (past ++ added)

theorem keepsOrder_of_ordered {after : Scene} (ordered : after.Ordered place past)
    (same : after.events = scene.events) : KeepsOrder place past scene after := by
  refine ⟨[], by rw [List.append_nil]; exact same, ?_⟩
  change after.Ordered place (past ++ [])
  rw [List.append_nil]
  exact ordered

/-- What a call comes to: a request comes in, a dispatcher is kept, the call has to wait, or it
begins. -/
inductive Called (scene : Scene) : Scene → Prop
  | received {visitor : Visitor} (fair : visitor.visit.Fair [])
      (idle : visitor.borrows = true → scene.job.chores = []) :
      Called scene (scene.receive visitor)
  | kept {host : Host} (dispatches : host.dispatches = scene.deployment.host.dispatches)
      (journal : host.journal = scene.deployment.host.journal) :
      Called scene { scene with deployment := { scene.deployment with host := host } }
  | refused : Called scene scene
  | begun {call : Call} (free : scene.isFree = true) (idle : call.isServing = false) :
      Called scene (scene.begin call)

theorem call_called (scene : Scene) (call : Call) : scene.Called (scene.call call) := by
  have turn (call : Call) (idle : call.isServing = false) : scene.Called
      (if scene.isFree then scene.begin call else scene) := by
    split
    · next free => exact .begun free idle
    · exact .refused
  cases call with
  | serve request =>
      simp only [Scene.call]
      split
      · next idle =>
          exact .received (scene.deployment.context.visit_fair scene.patience request [])
            fun _ => List.isEmpty_iff.mp idle
      · exact .refused
  | serveFrom head request =>
      exact .received (Visit.handle_fair scene.patience head request) nofun
  | callNamed dispatcher mode request =>
      exact .received (Visit.callNamed_fair [] dispatcher mode request _ Visit.done_onward) nofun
  | keepDispatcher key dispatcher => exact .kept rfl rfl
  | _ => exact turn _ rfl

theorem chores_of_isFree (free : scene.isFree = true) : scene.job.chores = [] := by
  simp only [isFree, isIdle, Bool.and_eq_true, List.isEmpty_iff] at free
  exact free.1

/-- While the context is free, those who borrowed it are gone. -/
theorem over_of_isFree (free : scene.isFree = true) {visitor : Visitor}
    (member : visitor ∈ scene.visitors) (borrows : visitor.borrows = true) :
    visitor.visit.isOver = true := by
  simp only [isFree, Bool.and_eq_true, List.all_eq_true] at free
  simpa [borrows] using free.2 visitor member

theorem Called.keepsOrder {after : Scene} (called : scene.Called after)
    (ordered : scene.Ordered place past) : KeepsOrder place past scene after := by
  cases called with
  | received fair idle => exact keepsOrder_of_ordered ordered rfl
  | kept dispatches journal =>
      refine keepsOrder_of_ordered (ordered.withHost ?_ (congrArg _ dispatches)) ?_
      · exact Host.routing?_congr dispatches
      · exact congrArg Journal.events journal
  | refused => exact keepsOrder_of_ordered ordered rfl
  | begun free idle =>
      unfold Ordered at ordered
      rw [chores_of_isFree free] at ordered
      exact Deployment.begin_keepsOrder ordered idle

/-! ## Holdings -/

/-- How a holding compares with what its stage has had and has. -/
structure Genuine (scene : Scene) (holding : Holding) : Prop where
  past : holding.generation ≤ scene.generation holding.stage
  current : holding.generation = scene.generation holding.stage →
    scene.deployment.host.routing? holding.stage = some holding.routing

/-- At an earlier step of its own, a request found the routing in place and took it. -/
def Took (start : Scene) (past : List Happening) (index : Nat) (holding : Holding) : Prop :=
  ∃ before between, past = before ++ .advanced index :: between ∧
    (start.run before).deployment.host.routing? holding.stage = some holding.routing ∧
    (start.run before).generation holding.stage = holding.generation

theorem Took.concat {past : List Happening} {index : Nat} {holding : Holding}
    (took : start.Took past index holding) (happening : Happening) :
    start.Took (past ++ [happening]) index holding := by
  obtain ⟨before, between, rfl, routed, generation⟩ := took
  exact ⟨before, between ++ [happening], by simp, routed, generation⟩

/-- Nothing but requests has moved. -/
structure Unmoved (before after : Scene) : Prop where
  exchanges : after.exchanges = before.exchanges
  job : after.job = before.job
  routing : ∀ index, after.deployment.host.routing? index =
    before.deployment.host.routing? index

theorem Unmoved.refl (scene : Scene) : Unmoved scene scene := ⟨rfl, rfl, fun _ => rfl⟩

theorem Unmoved.generation {after : Scene} (unmoved : Unmoved scene after) :
    after.generation = scene.generation := by
  funext stage
  rw [Scene.generation, Scene.generation, unmoved.exchanges]

theorem Genuine.unmoved {after : Scene} {holding : Holding} (genuine : scene.Genuine holding)
    (unmoved : Unmoved scene after) : after.Genuine holding := by
  refine ⟨?_, fun current => (unmoved.routing _).trans (genuine.current ?_)⟩
  · rw [unmoved.generation]
    exact genuine.past
  · rw [← unmoved.generation]
    exact current

/-- A chore leaves every holding genuine: one that is no longer current says nothing of what is in
place. -/
theorem Genuine.proceed {holding : Holding} (genuine : scene.Genuine holding)
    (ordered : scene.Ordered place past) : scene.proceed.Genuine holding := by
  obtain ⟨next, ⟨added, -, after⟩, kept, alone⟩ := Deployment.proceed_keepsOrder ordered
  have grown (other : Nat) : scene.proceed.generation other =
      scene.job.exchanged.toList.count other + scene.generation other := List.count_append
  have older := genuine.past
  cases exchanged : scene.job.exchanged with
  | none =>
      obtain rfl := kept exchanged
      rw [exchanged] at grown
      refine ⟨by rw [grown]; omega, fun current => ?_⟩
      have routed := genuine.current (by rw [grown] at current; simpa using current)
      exact (ordered.lodges.same after.lodges _).trans routed
  | some stage =>
      rw [exchanged] at grown
      refine ⟨by rw [grown]; omega, fun current => ?_⟩
      rw [grown] at current
      by_cases same : holding.stage = stage
      · rw [same, Option.toList_some, List.count_singleton_self] at current
        rw [same] at older
        omega
      · have absent := alone stage exchanged holding.stage same
        have others : stage ≠ holding.stage := Ne.symm same
        rw [genuine.current (by simpa [others] using current)] at absent
        cases absent

/-- What a request holds it found in place at an earlier step of its own.  While it borrows the
context, nothing of it has been exchanged. -/
def Holds (start : Scene) (past : List Happening) (index : Nat) (borrows : Bool)
    (held : List Holding) : Prop :=
  ∀ holding ∈ held, (start.run past).Genuine holding ∧ start.Took past index holding ∧
    (borrows = true → holding.generation = (start.run past).generation holding.stage)

/-- A request on its way goes on fairly with what it holds, and no call is under way before one that
borrows the context is over. -/
structure Attends (start : Scene) (past : List Happening) (index : Nat) (visitor : Visitor) :
    Prop where
  holds : ∃ held, visitor.visit.Fair held ∧ start.Holds past index visitor.borrows held
  borrows : visitor.borrows = true →
    visitor.visit.isOver = true ∨ (start.run past).job.chores = []

section Attends

variable {happenings : List Happening} {happening : Happening} {index : Nat} {visitor : Visitor}
  {borrows : Bool} {held : List Holding}

theorem Holds.unmoved (holds : start.Holds happenings index borrows held)
    (unmoved : Unmoved (start.run happenings) ((start.run happenings).step happening)) :
    start.Holds (happenings ++ [happening]) index borrows held := by
  intro holding member
  obtain ⟨genuine, took, current⟩ := holds holding member
  rw [run_concat, unmoved.generation]
  exact ⟨genuine.unmoved unmoved, took.concat happening, current⟩

theorem Attends.unmoved (attends : start.Attends happenings index visitor)
    (unmoved : Unmoved (start.run happenings) ((start.run happenings).step happening)) :
    start.Attends (happenings ++ [happening]) index visitor := by
  obtain ⟨⟨held, fair, holds⟩, borrows⟩ := attends
  refine ⟨⟨held, fair, holds.unmoved unmoved⟩, ?_⟩
  rw [run_concat, unmoved.job]
  exact borrows

theorem attends_of_over (ended : visitor.visit.isOver = true) :
    start.Attends happenings index visitor := by
  refine ⟨⟨[], ?_, nofun⟩, fun _ => Or.inl ended⟩
  cases held : visitor.visit with
  | done response => exact .done [] response
  | _ => simp [held, Visit.isOver] at ended

/-- A request of its own keeps what it holds whatever becomes of it. -/
theorem Attends.own (attends : start.Attends happenings index visitor)
    (own : visitor.borrows = false)
    (genuine : ∀ holding, (start.run happenings).Genuine holding →
      ((start.run happenings).step happening).Genuine holding) :
    start.Attends (happenings ++ [happening]) index visitor := by
  obtain ⟨⟨held, fair, holds⟩, -⟩ := attends
  refine ⟨⟨held, fair, fun holding member => ?_⟩, fun borrows => ?_⟩
  · obtain ⟨here, took, -⟩ := holds holding member
    rw [run_concat]
    refine ⟨genuine holding here, took.concat happening, fun borrows => ?_⟩
    cases own.symm.trans borrows
  · cases own.symm.trans borrows

/-- A visit that takes one step goes on as fairly as before, with what it has taken by then. -/
theorem Attends.advanced (attends : start.Attends happenings index visitor)
    (unmoved : Unmoved (start.run happenings)
      ((start.run happenings).step (.advanced index))) :
    start.Attends (happenings ++ [.advanced index]) index
      { visitor with
        visit := (visitor.visit.step (start.run happenings).generation
          (start.run happenings).deployment.host).1 } := by
  obtain ⟨⟨held, fair, holds⟩, free⟩ := attends
  obtain ⟨borrows, visit⟩ := visitor
  have further := holds.unmoved unmoved
  have idle (moving : visit.isOver = false) (borrowing : borrows = true) :
      (start.run (happenings ++ [.advanced index])).job.chores = [] := by
    rw [run_concat, unmoved.job]
    exact (free borrowing).resolve_left fun ended => by cases moving.symm.trans ended
  cases fair with
  | done _ response => exact attends_of_over rfl
  | look goes => exact ⟨⟨held, goes _, further⟩, fun borrowing => Or.inr (idle rfl borrowing)⟩
  | note silent goes =>
      exact ⟨⟨held, goes _, further⟩, fun borrowing => Or.inr (idle rfl borrowing)⟩
  | call taken has moments goes =>
      exact ⟨⟨held, goes _, further⟩, fun borrowing => Or.inr (idle rfl borrowing)⟩
  | @take _ stage next bare goes =>
      refine ⟨?_, fun borrowing => Or.inr (idle rfl borrowing)⟩
      cases routed : (start.run happenings).deployment.host.routing? stage with
      | none =>
          simp only [Visit.step, routed, Option.map_none]
          exact ⟨held, bare, further⟩
      | some routing =>
          simp only [Visit.step, routed, Option.map_some]
          refine ⟨_, goes _, List.forall_mem_cons.mpr ⟨⟨?_, ?_, fun _ => ?_⟩, further⟩⟩
          · rw [run_concat]
            exact Genuine.unmoved ⟨Nat.le_refl _, fun _ => routed⟩ unmoved
          · exact ⟨happenings, [], rfl, routed, rfl⟩
          · rw [run_concat, unmoved.generation]

end Attends

/-! ## Whole runs -/

/-- Some calls by requests are left out of the events. -/
inductive Thins : List Event → List Event → Prop
  | nil : Thins [] []
  | both {events kept : List Event} (thins : Thins events kept) (added : List Event) :
      Thins (events ++ added) (kept ++ added)
  | left {events kept : List Event} (thins : Thins events kept) (role : Role) (id : InstanceId)
      {moment : Moment} (called : moment = .entered ∨ moment = .left) :
      Thins (events ++ [.registration role id moment]) kept

/-- What is left out counts neither as initialised nor as destroyed. -/
theorem Thins.count {events kept : List Event} (thins : Thins events kept) (role : Role)
    {moment : Moment} (lasting : moment ≠ .entered ∧ moment ≠ .left) :
    (callsTo role events).countP (·.2 = moment) = (callsTo role kept).countP (·.2 = moment) := by
  induction thins with
  | nil => rfl
  | both thins added ih =>
      rw [callsTo_append, callsTo_append, List.countP_append, List.countP_append, ih]
  | left thins called id moments ih =>
      rw [callsTo_append, List.countP_append, ih]
      by_cases same : called = role
      · rw [same, callsTo_self]
        rcases moments with rfl | rfl
        · simp [lasting.1.symm]
        · simp [lasting.2.symm]
      · rw [callsTo_other same]
        rfl

/-- A run as far as it has come. -/
structure Reached (start : Scene) (happenings : List Happening) : Prop where
  ordered : ∃ place, (start.run happenings).Ordered place (start.timely happenings)
  attends : ∀ (index : Nat) (visitor : Visitor),
    (start.run happenings).visitors[index]? = some visitor →
      start.Attends happenings index visitor
  thins : (start.run happenings).deployment.host.journal.Since start.events
    fun added => Thins added (start.timely happenings)

section Reached

variable {happenings : List Happening} {happening : Happening} {index : Nat}

/-- Going on by something that is not a late call. -/
theorem Reached.concat (reached : start.Reached happenings)
    (prompt : (start.run happenings).isLate happening = false)
    (keeps : ∃ next, KeepsOrder next (start.timely happenings) (start.run happenings)
      ((start.run happenings).step happening))
    (attends : ∀ (index : Nat) (visitor : Visitor),
      ((start.run happenings).step happening).visitors[index]? = some visitor →
        start.Attends (happenings ++ [happening]) index visitor) :
    start.Reached (happenings ++ [happening]) := by
  obtain ⟨next, added, grown, ordered⟩ := keeps
  obtain ⟨earlier, events, thins⟩ := reached.thins
  have timely : start.timely (happenings ++ [happening]) = start.timely happenings ++ added := by
    rw [timely_concat, prompt, entered_eq grown]
    rfl
  refine ⟨⟨next, ?_⟩, ?_, earlier ++ added, ?_, ?_⟩
  · rw [run_concat, timely]
    exact ordered
  · rw [run_concat]
    exact attends
  · rw [run_concat, ← List.append_assoc, ← events]
    exact grown
  · rw [timely]
    exact thins.both added

/-- Those on their way who are left alone go on as before. -/
theorem Reached.unmoved (reached : start.Reached happenings)
    (unmoved : Unmoved (start.run happenings) ((start.run happenings).step happening))
    (index : Nat) (visitor : Visitor)
    (found : (start.run happenings).visitors[index]? = some visitor) :
    start.Attends (happenings ++ [happening]) index visitor :=
  (reached.attends index visitor found).unmoved unmoved

/-- A call under way, or one that begins, disturbs no request that borrows the context. -/
theorem Reached.disturbed (reached : start.Reached happenings)
    (borrowed : ∀ visitor ∈ (start.run happenings).visitors, visitor.borrows = true →
      visitor.visit.isOver = true)
    (genuine : ∀ holding, (start.run happenings).Genuine holding →
      ((start.run happenings).step happening).Genuine holding)
    (index : Nat) (visitor : Visitor)
    (found : (start.run happenings).visitors[index]? = some visitor) :
    start.Attends (happenings ++ [happening]) index visitor := by
  cases borrows : visitor.borrows with
  | true => exact attends_of_over (borrowed visitor (List.mem_of_getElem? found) borrows)
  | false => exact (reached.attends index visitor found).own borrows genuine

theorem Reached.attends_called (reached : start.Reached happenings) {call : Call} {after : Scene}
    (called : (start.run happenings).Called after)
    (same : (start.run happenings).step (.called call) = after)
    (routing : ∀ index, after.deployment.host.routing? index =
      (start.run happenings).deployment.host.routing? index)
    (index : Nat) (visitor : Visitor) (found : after.visitors[index]? = some visitor) :
    start.Attends (happenings ++ [.called call]) index visitor := by
  cases called with
  | @received fresh fair idle =>
      have unmoved : Unmoved (start.run happenings)
          ((start.run happenings).step (.called call)) := by
        rw [same]
        exact ⟨rfl, rfl, fun _ => rfl⟩
      rcases Nat.lt_or_ge index (start.run happenings).visitors.length with earlier | last
      · refine reached.unmoved unmoved index visitor ?_
        rw [← found]
        exact (List.getElem?_append_left earlier).symm
      · have here : visitor = fresh := by
          have held := (List.getElem?_append_right last).symm.trans found
          exact List.mem_singleton.mp (List.mem_of_getElem? held)
        rw [here]
        refine ⟨⟨[], fair, nofun⟩, fun borrows => Or.inr ?_⟩
        rw [run_concat, unmoved.job]
        exact idle borrows
  | kept dispatches journal =>
      refine reached.unmoved ?_ index visitor found
      rw [same]
      exact ⟨rfl, rfl, routing⟩
  | refused =>
      refine reached.unmoved ?_ index visitor found
      rw [same]
      exact .refl _
  | begun free idle =>
      refine reached.disturbed (fun _ => over_of_isFree free) ?_ index visitor found
      intro holding genuine
      rw [same]
      exact ⟨genuine.past, fun current => (routing _).trans (genuine.current current)⟩

theorem Reached.called (reached : start.Reached happenings) (call : Call) :
    start.Reached (happenings ++ [.called call]) := by
  obtain ⟨place, ordered⟩ := reached.ordered
  have called := call_called (start.run happenings) call
  have keeps := called.keepsOrder ordered
  refine reached.concat rfl ⟨place, keeps⟩ (reached.attends_called called rfl ?_)
  obtain ⟨added, -, after⟩ := keeps
  exact ordered.lodges.same after.lodges

theorem Reached.continued (reached : start.Reached happenings) :
    start.Reached (happenings ++ [.continued]) := by
  obtain ⟨place, ordered⟩ := reached.ordered
  obtain ⟨next, keeps, -, -⟩ := Deployment.proceed_keepsOrder ordered
  refine reached.concat rfl ⟨next, keeps⟩ fun index visitor found => ?_
  have attends := reached.attends index visitor found
  by_cases idle : (start.run happenings).job.chores = []
  · -- Without a call under way, nothing happens.
    refine attends.unmoved ?_
    change Unmoved _ (start.run happenings).proceed
    simp only [proceed, Deployment.proceed, Job.exchanged, idle]
    exact .refl _
  · cases borrows : visitor.borrows with
    | true => exact attends_of_over ((attends.borrows borrows).resolve_right idle)
    | false => exact attends.own borrows fun holding genuine => genuine.proceed ordered

theorem Reached.dropped (reached : start.Reached happenings) (index : Nat) :
    start.Reached (happenings ++ [.dropped index]) := by
  obtain ⟨place, ordered⟩ := reached.ordered
  refine reached.concat rfl ⟨place, keepsOrder_of_ordered ordered rfl⟩ ?_
  intro other visitor found
  change ((start.run happenings).visitors.modify index _)[other]? = some visitor at found
  rw [List.getElem?_modify] at found
  obtain ⟨earlier, here, changed⟩ := Option.map_eq_some_iff.mp found
  split at changed
  · refine attends_of_over ?_
    rw [← changed]
    cases earlier.visit <;> rfl
  · rw [← changed]
    exact reached.unmoved ⟨rfl, rfl, fun _ => rfl⟩ other earlier here

theorem advance_eq {visitor : Visitor} (found : scene.visitors[index]? = some visitor) :
    let stepped := visitor.visit.step scene.generation scene.deployment.host
    scene.step (.advanced index) = { scene with
      deployment := { scene.deployment with host := stepped.2 }
      visitors := scene.visitors.set index { visitor with visit := stepped.1 } } := by
  rw [step, advance, found]

theorem advance_absent (absent : scene.visitors[index]? = none) :
    scene.step (.advanced index) = scene := by
  rw [step, advance, absent]

theorem advance_unmoved (scene : Scene) (index : Nat) :
    Unmoved scene (scene.step (.advanced index)) := by
  cases found : scene.visitors[index]? with
  | none =>
      rw [advance_absent found]
      exact .refl scene
  | some visitor =>
      rw [advance_eq found]
      refine ⟨rfl, rfl, Host.routing?_congr ?_⟩
      cases visitor.visit <;> rfl

theorem Reached.attends_advanced (reached : start.Reached happenings) (other : Nat)
    (visitor : Visitor)
    (found : ((start.run happenings).step (.advanced index)).visitors[other]? = some visitor) :
    start.Attends (happenings ++ [.advanced index]) other visitor := by
  have unmoved := (start.run happenings).advance_unmoved index
  cases here : (start.run happenings).visitors[index]? with
  | none =>
      rw [advance_absent here] at found
      exact reached.unmoved unmoved other visitor found
  | some mover =>
      rw [advance_eq here] at found
      by_cases same : index = other
      · subst same
        rw [List.getElem?_set_self (List.getElem?_eq_some_iff.mp here).1] at found
        cases found
        exact (reached.attends index mover here).advanced unmoved
      · rw [List.getElem?_set_ne same] at found
        exact reached.unmoved unmoved other visitor found

theorem Reached.advanced (reached : start.Reached happenings) (index : Nat) :
    start.Reached (happenings ++ [.advanced index]) := by
  obtain ⟨place, ordered⟩ := reached.ordered
  cases found : (start.run happenings).visitors[index]? with
  | none =>
      refine reached.concat (by simp [isLate, found]) ⟨place, ?_⟩ reached.attends_advanced
      rw [advance_absent found]
      exact keepsOrder_of_ordered ordered rfl
  | some visitor =>
      obtain ⟨borrows, visit⟩ := visitor
      obtain ⟨⟨held, fair, holds⟩, -⟩ := reached.attends index _ found
      have after := advance_eq found
      cases fair with
      | done | look | take =>
          refine reached.concat (by simp [isLate, found]) ⟨place, ?_⟩ reached.attends_advanced
          rw [after]
          exact keepsOrder_of_ordered ordered rfl
      | note silent goes =>
          refine reached.concat (by simp [isLate, found]) ⟨place, ?_⟩ reached.attends_advanced
          rw [after]
          exact ⟨_, Journal.events_note .., ordered.noted _ silent⟩
      | @call _ holding role id moment line next taken has moments goes =>
          obtain ⟨genuine, -, -⟩ := holds holding taken
          by_cases current : holding.generation = (start.run happenings).generation holding.stage
          · refine reached.concat (by simp [isLate, found, current]) ⟨place, ?_⟩
              reached.attends_advanced
            rw [after]
            exact ⟨_, Journal.events_note ..,
              ordered.called (genuine.current current) has line moments⟩
          · -- The routing has been exchanged, so that the call is left out.
            have timely : start.timely (happenings ++ [.advanced index]) =
                start.timely happenings := by
              rw [timely_concat]
              simp [isLate, found, current]
            obtain ⟨added, events, thins⟩ := reached.thins
            refine ⟨⟨place, ?_⟩, ?_, added ++ [.registration role id moment], ?_, ?_⟩
            · rw [run_concat, timely, after]
              exact ordered.withHost (fun _ => rfl) rfl
            · rw [run_concat]
              exact reached.attends_advanced
            · rw [run_concat, after, ← List.append_assoc, ← events]
              exact Journal.events_note ..
            · rw [timely]
              exact thins.left role id moments

theorem reached_nil (ordered : ∃ place, start.Ordered place [])
    (alone : start.visitors = []) : start.Reached [] := by
  refine ⟨ordered, ?_, [], (List.append_nil _).symm, .nil⟩
  intro index visitor found
  change start.visitors[index]? = some visitor at found
  rw [alone] at found
  cases found

/-- Whatever happens, in whatever order. -/
theorem reached_run (ordered : ∃ place, start.Ordered place []) (alone : start.visitors = [])
    (happenings : List Happening) : start.Reached happenings := by
  induction happenings using List.reverseRecOn with
  | nil => exact reached_nil ordered alone
  | append_singleton earlier happening ih =>
      cases happening with
      | called call => exact ih.called call
      | continued => exact ih.continued
      | advanced index => exact ih.advanced index
      | dropped index => exact ih.dropped index

theorem Reached.lives_of_routes (reached : start.Reached happenings) {role : Role}
    {id : InstanceId} (routes : (start.run happenings).deployment.host.Routes role id) :
    Lives (callsTo role (start.timely happenings)) (some id) := by
  obtain ⟨place, -, lodges, participants, planned, living⟩ := reached.ordered
  rw [← planned.awake lodges routes]
  exact living role

/-- A late call is one of a request with a stage or a dispatcher of its own, upon something that was
routed when the request took what has been exchanged since. -/
theorem Reached.late (reached : start.Reached happenings)
    (late : (start.run happenings).isLate (.advanced index) = true) :
    ∃ holding role id moment,
      (start.run happenings).entered (.advanced index) = [.registration role id moment] ∧
        (moment = .entered ∨ moment = .left) ∧ holding.routing.Has role id ∧
        start.Took happenings index holding ∧
        holding.generation < (start.run happenings).generation holding.stage ∧
        ∃ visitor, (start.run happenings).visitors[index]? = some visitor ∧
          visitor.borrows = false := by
  simp only [isLate] at late
  split at late
  · next borrows holding role id moment line next found =>
      obtain ⟨⟨held, fair, holds⟩, -⟩ := reached.attends index _ found
      cases fair with
      | call taken has moments goes =>
          obtain ⟨genuine, took, current⟩ := holds holding taken
          have exchanged : holding.generation ≠ (start.run happenings).generation holding.stage :=
            by simpa using late
          refine ⟨holding, role, id, moment, entered_eq ?_, moments, has, took,
            Nat.lt_of_le_of_ne genuine.past exchanged, _, found, ?_⟩
          · rw [advance_eq found]
            exact Journal.events_note ..
          · exact Bool.eq_false_iff.mpr fun borrowing => exchanged (current borrowing)
  · cases late

end Reached

/-- Over every run of a new context, whatever happens between two steps of a request, all calls but
the late ones keep each registration in order.  What is routed is alive, and between two calls of
the context those alive are those that are routed, so that outside of serving there are none.  A
late call is made by a request that came in by a stage or a dispatcher of its own.  At an earlier
step that request found the routing in place, and what it calls was alive; the routing has been
exchanged since. -/
theorem registrations_live_in_order_under_traffic {context : Context} (new : context.IsNew)
    {host : Host} (unrouted : ∀ index, host.routing? index = none) (patience : Nat)
    (happenings : List Happening) :
    let start : Scene := { deployment := ⟨context, host⟩, patience := patience }
    let reached := start.run happenings
    (∃ added, reached.events = host.journal.events ++ added ∧
      Thins added (start.timely happenings) ∧
      ∀ role, ∃ alive, Lives (callsTo role (start.timely happenings)) alive ∧
        (callsTo role added).countP (·.2 = .initialized) =
          (callsTo role added).countP (·.2 = .destroyed) + alive.toList.length ∧
        (∀ id, reached.deployment.host.Routes role id → alive = some id) ∧
        (reached.isIdle = true → ∀ id, alive = some id → reached.deployment.host.Routes role id) ∧
        (reached.isIdle = true → reached.deployment.context.state ∉ [.started, .stopping] →
          alive = none)) ∧
    ∀ earlier index later, happenings = earlier ++ .advanced index :: later →
      (start.run earlier).isLate (.advanced index) = true →
      ∃ role id moment visitor before between stage routing,
        (start.run earlier).entered (.advanced index) = [.registration role id moment] ∧
          (moment = .entered ∨ moment = .left) ∧
          (start.run earlier).visitors[index]? = some visitor ∧ visitor.borrows = false ∧
          earlier = before ++ .advanced index :: between ∧
          (start.run before).deployment.host.routing? stage = some routing ∧
          routing.Has role id ∧ Lives (callsTo role (start.timely before)) (some id) ∧
          (start.run before).generation stage < (start.run earlier).generation stage := by
  intro start reached
  have initial : ∃ place, start.Ordered place [] := by
    refine ⟨none, ?_, .vacant unrouted, [], .resting new.coherent, .nil⟩
    change context.registrations.declared.Distinct
    rw [new.registrations]
    exact RegistrationTable.distinct_empty
  have everywhere := reached_run initial rfl
  constructor
  · obtain ⟨⟨place, -, lodges, participants, planned, living⟩, -, added, events, thins⟩ :=
      everywhere happenings
    refine ⟨added, events, thins,
      fun role => ⟨tenant participants role, living role, ?_, ?_, ?_, ?_⟩⟩
    · rw [thins.count role (by decide), thins.count role (by decide)]
      exact (living role).count
    · exact fun id routes => planned.awake lodges routes
    · intro idle id awake
      rw [List.isEmpty_iff.mp idle] at planned
      rw [planned.settled] at awake
      exact lodges.routes awake
    · intro idle resting
      rw [List.isEmpty_iff.mp idle] at planned
      obtain rfl := planned.vacant resting
      obtain rfl := planned.settled
      rfl
  · intro earlier index later _ late
    obtain ⟨holding, role, id, moment, entered, moments, has,
      ⟨before, between, split, routed, taken⟩, exchanged, visitor, found, own⟩ :=
      (everywhere earlier).late late
    have lives := (everywhere before).lives_of_routes ⟨_, _, routed, has⟩
    exact ⟨role, id, moment, visitor, before, between, holding.stage, holding.routing, entered,
      moments, found, own, split, routed, has, lives, taken ▸ exchanged⟩

/-! ## A request that is overtaken by a stop -/

def gate : Instance Interceptor :=
  ⟨.supplied 2, { intercept := fun _ request => .pass request id }⟩

/-- A request that came in by the dispatch stage itself has entered the interceptor before a unit
when the context is stopped, and the unit is destroyed. -/
def overtaken : List Happening :=
  [.called .beginStart, .called (.registerUnit "home" (.shared Deployment.greeter) [["/"]]),
    .called (.registerInterceptor "gate" (.shared gate) (.only .request) [.unit "home"]),
    .called .finishStart, .continued, .continued, .continued,
    .called (.serveFrom (.dispatch 0) (.get "/")), .advanced 0, .advanced 0, .advanced 0,
    .advanced 0, .advanced 0,
    .called .beginStop, .called .finishStop, .continued, .continued, .continued, .continued]

/-- The request goes on to the unit after it has been destroyed. -/
theorem destroyed_unit_is_called :
    let reached := run { deployment := ⟨.withOptions {}, {}⟩ } (overtaken ++ [.advanced 0])
    callsTo (.unit "home") reached.events =
        [(.supplied 1, .initialized), (.supplied 1, .destroyed), (.supplied 1, .entered)] ∧
      ¬ ∃ alive, Lives (callsTo (.unit "home") reached.events) alive := by
  intro reached
  have calls : callsTo (.unit "home") reached.events =
      [(.supplied 1, .initialized), (.supplied 1, .destroyed), (.supplied 1, .entered)] := rfl
  refine ⟨calls, fun ⟨alive, lives⟩ => ?_⟩
  rw [calls] at lives
  have served : Lives ([(.supplied 1, .initialized), (.supplied 1, .destroyed)] ++
      [(.supplied 1, .entered)]) alive := lives
  have before := served.alive_of_called (Or.inl rfl)
  exact absurd before.count (by decide)

/-- Apart from that call, the unit has lived in order, and it was alive when the request took the
routing. -/
theorem destroyed_unit_was_taken :
    let start : Scene := { deployment := ⟨.withOptions {}, {}⟩ }
    callsTo (.unit "home") (start.timely (overtaken ++ [.advanced 0])) =
        [(.supplied 1, .initialized), (.supplied 1, .destroyed)] ∧
      (∃ alive, Lives (callsTo (.unit "home") (start.timely (overtaken ++ [.advanced 0]))) alive) ∧
      ∃ before between, overtaken = before ++ .advanced 0 :: between ∧
        (start.run before).deployment.host.Routes (.unit "home") (.supplied 1) ∧
        Lives (callsTo (.unit "home") (start.timely before)) (some (.supplied 1)) := by
  intro start
  obtain ⟨⟨added, -, -, lives⟩, late⟩ := registrations_live_in_order_under_traffic
    (Context.isNew_withOptions {}) (fun _ => rfl : ∀ index, Host.routing? {} index = none) 0
    (overtaken ++ [.advanced 0])
  have calls : (start.run overtaken).entered (.advanced 0) =
      [.registration (.unit "home") (.supplied 1) .entered] := by decide +kernel
  refine ⟨by decide +kernel, ?_, ?_⟩
  · obtain ⟨alive, living, -⟩ := lives (.unit "home")
    exact ⟨alive, living⟩
  · obtain ⟨role, id, moment, visitor, before, between, stage, routing, entered, -, -, -, split,
      routed, has, living, -⟩ := late overtaken 0 [] rfl (by decide +kernel)
    cases calls.symm.trans entered
    exact ⟨before, between, split, ⟨stage, routing, routed, has⟩, living⟩

end Scene

end RequestPipeline
