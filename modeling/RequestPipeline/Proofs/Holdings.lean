import RequestPipeline.Context.Traffic
import RequestPipeline.Proofs.Serving

/-!
# What requests hold

A request calls only upon units and interceptors that are listed by routing it has taken from a
dispatch stage on its way, whatever it finds there and however long it takes.
-/

namespace RequestPipeline

namespace Visit

/-- Every call that a request may still make is upon something listed by what it holds, or takes
before it makes the call; nothing else that it enters is a call. -/
inductive Fair : List Holding → Visit → Prop
  | done (held : List Holding) (response : Option Response) : Fair held (.done response)
  | look {held : List Holding} {next : Host → Visit} (goes : ∀ host, Fair held (next host)) :
      Fair held (.look next)
  | note {held : List Holding} {event : Event} {line : Option String} {next : Journal → Visit}
      (silent : event.isCall = false) (goes : ∀ journal, Fair held (next journal)) :
      Fair held (.note event line next)
  | take {held : List Holding} {stage : Nat} {next : Option Holding → Visit}
      (bare : Fair held (next none))
      (goes : ∀ holding, Fair (holding :: held) (next (some holding))) :
      Fair held (.take stage next)
  | call {held : List Holding} {holding : Holding} {role : Role} {id : InstanceId}
      {moment : Moment} {line : Option String} {next : Journal → Visit}
      (taken : holding ∈ held) (has : holding.routing.Has role id)
      (called : moment = .entered ∨ moment = .left) (goes : ∀ journal, Fair held (next journal)) :
      Fair held (.call holding role id moment line next)

/-- However much a request holds by then, it goes on fairly. -/
def Onward {α : Type} (held : List Holding) (back : α → Visit) : Prop :=
  ∀ later, held ⊆ later → ∀ a, Fair later (back a)

/-- Calls upon other units are fair as long as what follows them is. -/
def FairCaller (caller : Caller) : Prop :=
  ∀ held dispatcher mode request back, Onward held back →
    Fair held (caller dispatcher mode request back)

variable {held : List Holding} {caller : Caller}

namespace Onward

variable {α β : Type} {back : α → Visit}

theorem here (onward : Onward held back) (a : α) : Fair held (back a) :=
  onward held (List.Subset.refl held) a

theorem widen (onward : Onward held back) {later : List Holding} (more : held ⊆ later) :
    Onward later back :=
  fun latest most => onward latest (List.Subset.trans more most)

theorem after (onward : Onward held back) (change : β → α) :
    Onward held fun b => back (change b) :=
  fun later more b => onward later more (change b)

end Onward

theorem done_onward : Onward held (Visit.done ∘ some) := fun later _ _ => .done later _

/-! ## Behind a dispatch stage -/

theorem service_fair (fair : FairCaller caller) (step : ServiceStep) {back : Response → Visit}
    (onward : Onward held back) : Fair held (service caller step back) := by
  induction step generalizing held with
  | answer response => exact onward.here response
  | call key mode request resume ih =>
      unfold service
      refine .look fun host => ?_
      split
      · exact ih none onward
      · next dispatcher _ =>
          exact fair held dispatcher mode request _ fun later more response =>
            ih (some response) (onward.widen more)

theorem chain_fair (fair : FairCaller caller) {holding : Holding} (taken : holding ∈ held)
    {unit : Called ServiceUnit} (routed : holding.routing.Has unit.role unit.object.id)
    {interceptors : List (Called Interceptor)}
    (around : ∀ interceptor ∈ interceptors,
      holding.routing.Has interceptor.role interceptor.object.id)
    (request : Request) {back : Response → Visit} (onward : Onward held back) :
    Fair held (chain caller holding unit interceptors request back) := by
  induction interceptors generalizing held request back with
  | nil =>
      exact .call taken routed (Or.inl rfl) fun journal => service_fair fair _ onward
  | cons interceptor inner ih =>
      have outer := around interceptor List.mem_cons_self
      refine .call taken outer (Or.inl rfl) fun journal => ?_
      split
      · exact onward.here _
      · next passed finish _ =>
          refine ih taken (fun other member => around other (List.mem_cons_of_mem _ member))
            passed fun later more response => ?_
          exact .call (more taken) outer (Or.inr rfl) fun _ => onward later more _

/-- The interceptors that a routing selects are listed by it. -/
theorem selected_has {routing : RoutingTable} {phase : Phase}
    {applies : InterceptorMapping → Bool} :
    ∀ interceptor ∈ (routing.interceptorsWhere phase applies).map Called.interceptor,
      routing.Has interceptor.role interceptor.object.id := by
  intro interceptor member
  obtain ⟨named, selected, rfl⟩ := List.mem_map.mp member
  exact RoutingTable.has_of_mem_interceptorsWhere selected

theorem dispatchNamedBy_fair (fair : FairCaller caller) (stage : Nat) (unit : String)
    (phase : Phase) (request : Request) {back : Option Response → Visit}
    (onward : Onward held back) :
    Fair held (dispatchNamedBy caller stage unit phase request back) := by
  refine .take (onward.here none) fun holding => ?_
  have wider := onward.widen (List.subset_cons_self holding held)
  dsimp only
  split
  · exact wider.here none
  · next object found =>
      exact chain_fair fair List.mem_cons_self (RoutingTable.has_unit found) selected_has _
        (wider.after some)

theorem callWithin_fair (depth : Nat) : FairCaller (callWithin depth) := by
  induction depth with
  | zero => exact fun held _ _ _ _ onward => onward.here _
  | succ depth ih =>
      intro held dispatcher mode request back onward
      exact dispatchNamedBy_fair ih _ _ _ request (onward.after mode.present)

theorem callNamed_fair : FairCaller callNamed :=
  fun held dispatcher mode request back onward =>
    .look fun host => callWithin_fair host.nesting held dispatcher mode request back onward

theorem route_fair {holding : Holding} (taken : holding ∈ held) (request : Request)
    {back : Response → Visit} (onward : Onward held back) :
    Fair held (route holding request back) := by
  unfold route
  dsimp only
  split
  · next unit resolved =>
      refine chain_fair callNamed_fair taken (RoutingTable.has_of_resolve? resolved) selected_has
        request fun later more response => ?_
      exact .note rfl fun _ => onward later more response
  · refine .note rfl fun _ => ?_
    split
    · exact onward.here _
    · next unit given =>
        exact chain_fair callNamed_fair taken (RoutingTable.has_errorUnit given) selected_has _
          onward

theorem dispatch_fair (index : Nat) (request : Request) {back : Response → Visit}
    (onward : Onward held back) : Fair held (dispatch index request back) := by
  refine .look fun host => ?_
  split
  · exact onward.here _
  · refine .note rfl fun _ => .take (onward.here _) fun holding => ?_
    exact route_fair List.mem_cons_self request
      (onward.widen (List.subset_cons_self holding held))

/-! ## Through the stages -/

theorem wrapper_fair (index : Nat) {onward : Request → (Response → Visit) → Visit}
    (further : ∀ request back, Onward held back → Fair held (onward request back))
    (request : Request) {back : Response → Visit} (goesOn : Onward held back) :
    Fair held (wrapper index onward request back) := by
  refine .look fun host => ?_
  split
  · exact goesOn.here _
  · next cell _ =>
      refine .note rfl fun journal => ?_
      split
      · next stage _ =>
          have offered (session : Session) : Fair held (onward
              { request with session := some session }
              fun response => back (stage.offer session response)) :=
            further _ _ (goesOn.after (stage.offer session))
          unfold resolveSession
          split
          · exact offered _
          · exact .note rfl fun _ => offered _
      · split
        · exact goesOn.here _
        · exact further request back goesOn
      · split
        · exact goesOn.here _
        · next passed finish _ => exact further passed _ (goesOn.after finish)

theorem along_fair (links : Nat) (ref : StageRef) (request : Request) {back : Response → Visit}
    (onward : Onward held back) : Fair held (along links ref request back) := by
  induction links generalizing ref request back with
  | zero =>
      cases ref with
      | dispatch index => exact dispatch_fair index request onward
      | wrapper index => exact wrapper_fair index (fun _ _ goesOn => goesOn.here _) request onward
  | succ links ih =>
      cases ref with
      | dispatch index => exact dispatch_fair index request onward
      | wrapper index =>
          refine wrapper_fair index (fun request back goesOn => .look fun host => ?_) request onward
          split
          · exact goesOn.here _
          · next next _ => exact ih next request goesOn

theorem handle_fair (patience : Nat) (ref : StageRef) (request : Request) :
    Fair held (handle patience ref request) :=
  .look fun host => along_fair (host.wrappers.length + patience) ref request done_onward

end Visit

theorem Context.visit_fair (context : Context) (patience : Nat) (request : Request)
    (held : List Holding) : Visit.Fair held (context.visit patience request) := by
  unfold visit
  split
  · exact .done held _
  · split
    · split
      · exact .done held _
      · exact Visit.handle_fair patience _ _
    · exact .done held _

end RequestPipeline
