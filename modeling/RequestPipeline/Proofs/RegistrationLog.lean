import RequestPipeline.Proofs.TableGrowth

/-!
# The log of registrations

What has been registered, as a plain log of the calls that succeeded, and what looking a name up in
such a log shows.  The registration table, which keeps records and mappings apart and patterns in
their parsed form, shows the same; this is carried through every way of registering up to the
startup hooks.
-/

namespace RequestPipeline

/-! ## Patterns are shown as they were written -/

namespace PathPattern

open Text

theorem text_of_ofChars {cs : List Char} {pattern : PathPattern}
    (read : ofChars? cs = some pattern) : pattern.text.toList = cs := by
  unfold ofChars? at read
  split at read
  · cases read
    rfl
  · cases read
    rfl
  · next ext =>
      split at read
      · cases read
      · cases read
        simp [text, String.toList_append]
  · next rest noFallback =>
      split at read
      · next stem stripped =>
          split at read
          · cases read
          · cases read
            have whole := stripEnd?_eq_some.mp stripped
            rw [whole, text, String.toList_append, String.toList_ofList]
            rfl
      · split at read
        · cases read
        · cases read
          exact String.toList_ofList
  · cases read

theorem text_of_parse {written : String} {pattern : PathPattern}
    (read : parse written = .ok pattern) : pattern.text = written := by
  unfold parse at read
  split at read
  · next found =>
      cases read
      exact String.toList_inj.mp (text_of_ofChars found)
  · cases read

theorem texts_of_parseAll {written : List String} {patterns : List PathPattern}
    (read : parseAll written = .ok patterns) : patterns.map text = written := by
  induction written generalizing patterns with
  | nil =>
      cases read
      rfl
  | cons first rest ih =>
      unfold parseAll at read
      split at read
      · cases read
      · next pattern parsed =>
          split at read
          · cases read
          · next others later =>
              cases read
              rw [List.map_cons, text_of_parse parsed, ih later]

end PathPattern

/-! ## Entries -/

/-- A registration or a mapping that has succeeded, with what it was given. -/
inductive LogEntry
  | unit (name : String) (binding : Binding ServiceUnit)
  | interceptor (name : String) (binding : Binding Interceptor) (phases : Phases)
  | mapUnit (name : String) (patterns : List String)
  | mapInterceptor (name : String) (phases : Phases) (behind : Bool)
      (patterns units : List String)

structure WrittenMapping where
  interceptor : String
  phases : Phases
  patterns : List String
  units : List String
  deriving DecidableEq, Repr

structure WrittenInterceptor where
  name : String
  binding : Binding Interceptor
  phases : Phases
  mappings : List WrittenMapping

def InterceptorMapping.written (mapping : InterceptorMapping) : WrittenMapping :=
  ⟨mapping.interceptor, mapping.phases, mapping.paths.map PathPattern.text, mapping.units⟩

def InterceptorView.written (view : InterceptorView) : WrittenInterceptor :=
  ⟨view.name, view.binding, view.phases, view.mappings.map InterceptorMapping.written⟩

namespace LogEntry

def unitBinding? (name : String) : LogEntry → Option (Binding ServiceUnit)
  | .unit other binding => if other = name then some binding else none
  | _ => none

/-- The binding and the phases given to an interceptor of the name; no phases stand for the request
phase. -/
def interceptorBinding? (name : String) : LogEntry → Option (Binding Interceptor × Phases)
  | .interceptor other binding phases =>
      if other = name then some (binding, phases.orDefault) else none
  | _ => none

def patternsFor (name : String) : LogEntry → List String
  | .mapUnit other patterns => if other = name then patterns else []
  | _ => []

/-- The mapping of an interceptor of the name, if it goes behind the others or, as asked, in front
of them. -/
def mapping? (name : String) (behind : Bool) : LogEntry → Option WrittenMapping
  | .mapInterceptor other phases last patterns units =>
      if other = name ∧ last = behind then some ⟨other, phases.orDefault, patterns, units⟩
      else none
  | _ => none

def isOfUnit (name : String) : LogEntry → Bool
  | .unit other _ | .mapUnit other _ => other == name
  | _ => false

def isOfInterceptor (name : String) : LogEntry → Bool
  | .interceptor other _ _ | .mapInterceptor other _ _ _ _ => other == name
  | _ => false

end LogEntry

def wellFormed (patterns : List String) : Bool := (PathPattern.parseAll patterns).isOk

namespace InterceptorFollowUp

def patterns : InterceptorFollowUp → List String
  | .path pattern => [pattern]
  | .unit _ => []
  | .paths _ _ patterns => patterns
  | .units _ _ _ => []

/-- The mapping that a call on the handle of an interceptor adds: for one pattern or one unit, in
the phases that the interceptor is registered for. -/
def entry (name : String) (registered : Phases) : InterceptorFollowUp → LogEntry
  | .path pattern => .mapInterceptor name registered true [pattern] []
  | .unit served => .mapInterceptor name registered true [] [served]
  | .paths phases after patterns => .mapInterceptor name phases after patterns []
  | .units phases after names => .mapInterceptor name phases after [] names

end InterceptorFollowUp

/-- The registrations and mappings that have succeeded, in the order of the calls. -/
abbrev RegistrationLog := List LogEntry

namespace RegistrationLog

/-- Registering a unit and making calls on its handle up to one with a malformed pattern. -/
def ofUnit (name : String) (binding : Binding ServiceUnit) (calls : List (List String)) :
    RegistrationLog :=
  .unit name binding :: (calls.takeWhile wellFormed).map (.mapUnit name)

/-- Registering an interceptor and making calls on its handle up to one with a malformed
pattern. -/
def ofInterceptor (name : String) (binding : Binding Interceptor) (phases : Phases)
    (calls : List InterceptorFollowUp) : RegistrationLog :=
  .interceptor name binding phases ::
    (calls.takeWhile (wellFormed ·.patterns)).map (·.entry name phases.orDefault)

/-- The entries of a call, if it succeeded. -/
def ifOk {α : Type} (result : Except Error α) (entries : RegistrationLog) : RegistrationLog :=
  match result with
  | .ok _ => entries
  | .error _ => []

/-- The binding of the first unit registered under a name. -/
def unitBinding? (log : RegistrationLog) (name : String) : Option (Binding ServiceUnit) :=
  log.findSome? (·.unitBinding? name)

def interceptorBinding? (log : RegistrationLog) (name : String) :
    Option (Binding Interceptor × Phases) :=
  log.findSome? (·.interceptorBinding? name)

/-- All patterns mapped to a unit, whether before or after it was registered. -/
def patternsFor (log : RegistrationLog) (name : String) : List String :=
  log.flatMap (·.patternsFor name)

/-- The mappings of an interceptor as they take effect: those put in front, the last one first,
and then those put behind. -/
def chainFor (log : RegistrationLog) (name : String) : List WrittenMapping :=
  (log.filterMap (·.mapping? name false)).reverse ++ log.filterMap (·.mapping? name true)

def findUnit (log : RegistrationLog) (name : String) : Option UnitView :=
  (log.unitBinding? name).map fun binding => ⟨name, binding, log.patternsFor name⟩

def findInterceptor (log : RegistrationLog) (name : String) : Option WrittenInterceptor :=
  (log.interceptorBinding? name).map fun given => ⟨name, given.1, given.2, log.chainFor name⟩

variable {log : RegistrationLog} {name : String}

/-- A unit is found exactly when one was registered under the name. -/
theorem findUnit_isSome_iff :
    (log.findUnit name).isSome = true ↔ ∃ binding, LogEntry.unit name binding ∈ log := by
  rw [findUnit, Option.isSome_map, unitBinding?, List.findSome?_isSome_iff]
  constructor
  · rintro ⟨entry, member, found⟩
    cases entry with
    | unit other binding =>
        by_cases same : other = name
        · exact ⟨binding, same ▸ member⟩
        · simp [LogEntry.unitBinding?, same] at found
    | _ => cases found
  · rintro ⟨binding, member⟩
    exact ⟨_, member, by simp [LogEntry.unitBinding?]⟩

/-- An interceptor is found exactly when one was registered under the name. -/
theorem findInterceptor_isSome_iff : (log.findInterceptor name).isSome = true ↔
    ∃ binding phases, LogEntry.interceptor name binding phases ∈ log := by
  rw [findInterceptor, Option.isSome_map, interceptorBinding?, List.findSome?_isSome_iff]
  constructor
  · rintro ⟨entry, member, found⟩
    cases entry with
    | interceptor other binding phases =>
        by_cases same : other = name
        · exact ⟨binding, phases, same ▸ member⟩
        · simp [LogEntry.interceptorBinding?, same] at found
    | _ => cases found
  · rintro ⟨binding, phases, member⟩
    exact ⟨_, member, by simp [LogEntry.interceptorBinding?]⟩

/-- Entries that give nothing may be left out. -/
theorem findSome?_filter {α : Type} {give : LogEntry → Option α} {about : LogEntry → Bool}
    (silent : ∀ entry, about entry = false → give entry = none) (log : RegistrationLog) :
    (log.filter about).findSome? give = log.findSome? give := by
  induction log with
  | nil => rfl
  | cons entry rest ih =>
      cases mentions : about entry with
      | true => rw [List.filter_cons_of_pos mentions, List.findSome?_cons, List.findSome?_cons, ih]
      | false =>
          rw [List.filter_cons_of_neg (by simp [mentions]), List.findSome?_cons,
            silent entry mentions, ih]

theorem filterMap_filter {α : Type} {give : LogEntry → Option α} {about : LogEntry → Bool}
    (silent : ∀ entry, about entry = false → give entry = none) (log : RegistrationLog) :
    (log.filter about).filterMap give = log.filterMap give := by
  rw [List.filterMap_filter]
  congr 1
  funext entry
  cases mentions : about entry with
  | true => rfl
  | false => exact (silent entry mentions).symm

theorem flatMap_filter {α : Type} {give : LogEntry → List α} {about : LogEntry → Bool}
    (silent : ∀ entry, about entry = false → give entry = []) (log : RegistrationLog) :
    (log.filter about).flatMap give = log.flatMap give := by
  induction log with
  | nil => rfl
  | cons entry rest ih =>
      cases mentions : about entry with
      | true => rw [List.filter_cons_of_pos mentions, List.flatMap_cons, List.flatMap_cons, ih]
      | false =>
          rw [List.filter_cons_of_neg (by simp [mentions]), List.flatMap_cons,
            silent entry mentions, ih, List.nil_append]

/-- What is found of a unit depends on the entries about units of its name alone. -/
theorem findUnit_filter (log : RegistrationLog) (name : String) :
    findUnit (log.filter (·.isOfUnit name)) name = log.findUnit name := by
  have binding : unitBinding? (log.filter (·.isOfUnit name)) name = log.unitBinding? name := by
    refine findSome?_filter (fun entry other => ?_) log
    cases entry <;> simp_all [LogEntry.isOfUnit, LogEntry.unitBinding?]
  have patterns : patternsFor (log.filter (·.isOfUnit name)) name = log.patternsFor name := by
    refine flatMap_filter (fun entry other => ?_) log
    cases entry <;> simp_all [LogEntry.isOfUnit, LogEntry.patternsFor]
  rw [findUnit, binding, patterns, findUnit]

/-- What is found of an interceptor depends on the entries about interceptors of its name alone. -/
theorem findInterceptor_filter (log : RegistrationLog) (name : String) :
    findInterceptor (log.filter (·.isOfInterceptor name)) name = log.findInterceptor name := by
  have binding : interceptorBinding? (log.filter (·.isOfInterceptor name)) name
      = log.interceptorBinding? name := by
    refine findSome?_filter (fun entry other => ?_) log
    cases entry <;> simp_all [LogEntry.isOfInterceptor, LogEntry.interceptorBinding?]
  have mappings (behind : Bool) : (log.filter (·.isOfInterceptor name)).filterMap
      (·.mapping? name behind) = log.filterMap (·.mapping? name behind) := by
    refine filterMap_filter (fun entry other => ?_) log
    cases entry <;> simp_all [LogEntry.isOfInterceptor, LogEntry.mapping?]
  rw [findInterceptor, binding, chainFor, mappings, mappings, findInterceptor, chainFor]

end RegistrationLog

/-! ## A table reflects a log -/

/-- By every name, a table shows what a log tells. -/
structure Reflects (log : RegistrationLog) (table : RegistrationTable) : Prop where
  units : ∀ name, table.unit? name = (log.unitBinding? name).map (UnitRecord.mk name)
  interceptors : ∀ name, table.interceptor? name =
    (log.interceptorBinding? name).map fun given => ⟨name, given.1, given.2⟩
  patterns : ∀ name, table.patternsFor name = log.patternsFor name
  chain : ∀ name, (table.mappingsFor name).map InterceptorMapping.written = log.chainFor name

namespace Reflects

variable {log : RegistrationLog} {table grown : RegistrationTable}

theorem empty : Reflects [] {} := ⟨fun _ => rfl, fun _ => rfl, fun _ => rfl, fun _ => rfl⟩

theorem findUnit (reflects : Reflects log table) (name : String) :
    table.findUnit name = log.findUnit name := by
  rw [RegistrationTable.findUnit, reflects.units, RegistrationLog.findUnit, Option.map_map]
  cases log.unitBinding? name with
  | none => rfl
  | some binding => simp [reflects.patterns]

theorem findInterceptor (reflects : Reflects log table) (name : String) :
    (table.findInterceptor name).map InterceptorView.written = log.findInterceptor name := by
  rw [RegistrationTable.findInterceptor, reflects.interceptors, RegistrationLog.findInterceptor,
    Option.map_map, Option.map_map]
  cases log.interceptorBinding? name with
  | none => rfl
  | some given => simp [InterceptorView.written, reflects.chain]

/-! ### One registration or one mapping -/

/-- A table that has grown by what an entry gives reflects the log with that entry. -/
theorem concat (reflects : Reflects log table) {entry : LogEntry}
    (units : ∀ name, grown.unit? name =
      (table.unit? name).or ((entry.unitBinding? name).map (UnitRecord.mk name)))
    (interceptors : ∀ name, grown.interceptor? name = (table.interceptor? name).or
      ((entry.interceptorBinding? name).map fun given => ⟨name, given.1, given.2⟩))
    (patterns : ∀ name, grown.patternsFor name =
      table.patternsFor name ++ entry.patternsFor name)
    (chain : ∀ name, (grown.mappingsFor name).map InterceptorMapping.written =
      (entry.mapping? name false).toList
        ++ (table.mappingsFor name).map InterceptorMapping.written
        ++ (entry.mapping? name true).toList) :
    Reflects (log ++ [entry]) grown := by
  refine ⟨?_, ?_, ?_, ?_⟩
  · intro name
    rw [units, reflects.units, RegistrationLog.unitBinding?, RegistrationLog.unitBinding?,
      List.findSome?_append, Option.map_or, List.findSome?_singleton]
  · intro name
    rw [interceptors, reflects.interceptors, RegistrationLog.interceptorBinding?,
      RegistrationLog.interceptorBinding?, List.findSome?_append, Option.map_or,
      List.findSome?_singleton]
  · intro name
    rw [patterns, reflects.patterns, RegistrationLog.patternsFor, RegistrationLog.patternsFor,
      List.flatMap_append, List.flatMap_singleton]
  · intro name
    rw [chain, reflects.chain, RegistrationLog.chainFor, RegistrationLog.chainFor,
      List.filterMap_append, List.filterMap_append, List.reverse_append]
    cases front : entry.mapping? name false <;> cases back : entry.mapping? name true <;>
      simp [front, back]

theorem registerUnit (reflects : Reflects log table) {name : String}
    {binding : Binding ServiceUnit} (registered : table.registerUnit name binding = .ok grown) :
    Reflects (log ++ [.unit name binding]) grown := by
  obtain ⟨-, rfl⟩ := RegistrationTable.registerUnit_ok registered
  refine reflects.concat ?_ (fun _ => Option.or_none.symm) (fun _ => (List.append_nil _).symm)
    (fun _ => (List.append_nil _).symm)
  intro other
  rw [RegistrationTable.unit?, List.find?_append, RegistrationTable.unit?]
  by_cases same : name = other <;> simp [LogEntry.unitBinding?, same]

theorem registerInterceptor (reflects : Reflects log table) {name : String}
    {binding : Binding Interceptor} {phases : Phases}
    (registered : table.registerInterceptor name binding phases = .ok grown) :
    Reflects (log ++ [.interceptor name binding phases]) grown := by
  obtain ⟨-, rfl⟩ := RegistrationTable.registerInterceptor_ok registered
  refine reflects.concat (fun _ => Option.or_none.symm) ?_ (fun _ => (List.append_nil _).symm)
    (fun _ => (List.append_nil _).symm)
  intro other
  rw [RegistrationTable.interceptor?, List.find?_append, RegistrationTable.interceptor?]
  by_cases same : name = other <;> simp [LogEntry.interceptorBinding?, same]

theorem mapUnit (reflects : Reflects log table) {name : String} {patterns : List String}
    (mapped : table.mapUnit name patterns = .ok grown) :
    Reflects (log ++ [.mapUnit name patterns]) grown := by
  obtain ⟨parsed, read, rfl⟩ := RegistrationTable.mapUnit_ok mapped
  refine reflects.concat (fun _ => Option.or_none.symm) (fun _ => Option.or_none.symm) ?_
    (fun _ => (List.append_nil _).symm)
  intro other
  rw [RegistrationTable.patternsFor, List.filter_append, List.map_append, List.filter_map,
    List.map_map, ← PathPattern.texts_of_parseAll read]
  congr 1
  by_cases same : name = other <;> simp [LogEntry.patternsFor, same, Function.comp_def]

/-- A mapping put in front stands before everything mapped earlier, and one put behind after it. -/
theorem mapInterceptor (reflects : Reflects log table) (name : String) (phases : Phases)
    (behind : Bool) {patterns : List String} {parsed : List PathPattern}
    (written : parsed.map PathPattern.text = patterns) (units : List String) :
    Reflects (log ++ [.mapInterceptor name phases behind patterns units])
      (table.mapInterceptor ⟨name, phases, parsed, units⟩ behind) := by
  refine reflects.concat (fun _ => Option.or_none.symm) (fun _ => Option.or_none.symm)
    (fun _ => (List.append_nil _).symm) ?_
  intro other
  cases behind with
  | true =>
      rw [RegistrationTable.mappingsFor, RegistrationTable.mapInterceptor, if_pos rfl,
        List.filter_append, List.map_append]
      by_cases same : name = other <;>
        simp [LogEntry.mapping?, InterceptorMapping.written, RegistrationTable.mappingsFor, same,
          written]
  | false =>
      rw [RegistrationTable.mappingsFor, RegistrationTable.mapInterceptor,
        if_neg Bool.false_ne_true, List.filter_cons]
      by_cases same : name = other <;>
        simp [LogEntry.mapping?, InterceptorMapping.written, RegistrationTable.mappingsFor, same,
          written]

/-! ### Handles -/

/-- Calls that are made until one is refused add the entries of those before it. -/
theorem followAll {α : Type} {step : RegistrationTable → α → Except Error RegistrationTable}
    {passes : α → Bool} {entry : α → LogEntry} (Kept : RegistrationLog → Prop)
    (taken : ∀ {log table a grown}, Kept log → Reflects log table → step table a = .ok grown →
      passes a = true ∧ Kept (log ++ [entry a]) ∧ Reflects (log ++ [entry a]) grown)
    (refused : ∀ {table a e}, step table a = .error e → passes a = false)
    (kept : Kept log) (reflects : Reflects log table) (calls : List α) :
    Reflects (log ++ (calls.takeWhile passes).map entry)
      (RegistrationTable.followAll step table calls).2 := by
  induction calls generalizing log table with
  | nil => rwa [List.takeWhile_nil, List.map_nil, List.append_nil]
  | cons call rest ih =>
      unfold RegistrationTable.followAll
      split
      · next e failed =>
          rwa [List.takeWhile_cons_of_neg (by simp [refused failed]), List.map_nil,
            List.append_nil]
      · next grown stepped =>
          obtain ⟨passed, stays, larger⟩ := taken kept reflects stepped
          rw [List.takeWhile_cons_of_pos passed, List.map_cons, List.append_cons]
          exact ih stays larger

theorem wellFormed_of_parseAll {patterns : List String} {parsed : List PathPattern}
    (read : PathPattern.parseAll patterns = .ok parsed) : wellFormed patterns = true := by
  rw [wellFormed, read]
  rfl

theorem not_wellFormed_of_parseAll {patterns : List String} {e : Error}
    (refused : PathPattern.parseAll patterns = .error e) : wellFormed patterns = false := by
  rw [wellFormed, refused]
  rfl

theorem followUnitAll (reflects : Reflects log table) (name : String)
    (calls : List (List String)) :
    Reflects (log ++ (calls.takeWhile wellFormed).map (.mapUnit name))
      (table.followUnitAll name calls).2 := by
  refine Reflects.followAll (fun _ => True) ?_ ?_ trivial reflects calls
  · intro log table patterns grown _ reflects mapped
    obtain ⟨parsed, read, -⟩ := RegistrationTable.mapUnit_ok mapped
    exact ⟨wellFormed_of_parseAll read, trivial, reflects.mapUnit mapped⟩
  · intro table patterns e failed
    unfold RegistrationTable.mapUnit at failed
    split at failed
    · next refused => exact not_wellFormed_of_parseAll refused
    · cases failed

theorem mapInterceptorTo (reflects : Reflects log table) {name : String} {phases : Phases}
    {behind : Bool} {patterns units : List String}
    (mapped : table.mapInterceptorTo name phases behind patterns units = .ok grown) :
    wellFormed patterns = true ∧
      Reflects (log ++ [.mapInterceptor name phases behind patterns units]) grown := by
  unfold RegistrationTable.mapInterceptorTo at mapped
  split at mapped
  · cases mapped
  · next parsed read =>
      rw [← Except.ok.inj mapped]
      exact ⟨wellFormed_of_parseAll read,
        reflects.mapInterceptor name phases behind (PathPattern.texts_of_parseAll read) units⟩

/-- The phases of an interceptor are those of its registration in the log. -/
theorem phasesOf (reflects : Reflects log table) {name : String} {binding : Binding Interceptor}
    {phases : Phases} (registered : log.interceptorBinding? name = some (binding, phases)) :
    table.phasesOf name = phases := by
  rw [RegistrationTable.phasesOf, reflects.interceptors, registered]
  rfl

theorem followInterceptor (reflects : Reflects log table) {name : String}
    {binding : Binding Interceptor} {phases : Phases}
    (registered : log.interceptorBinding? name = some (binding, phases))
    {call : InterceptorFollowUp} (followed : table.followInterceptor name call = .ok grown) :
    wellFormed call.patterns = true ∧ Reflects (log ++ [call.entry name phases]) grown := by
  unfold RegistrationTable.followInterceptor at followed
  rw [reflects.phasesOf registered] at followed
  cases call with
  | path pattern => exact reflects.mapInterceptorTo followed
  | unit unit =>
      rw [← Except.ok.inj followed]
      exact ⟨rfl, reflects.mapInterceptor name phases true List.map_nil [unit]⟩
  | paths phases after patterns => exact reflects.mapInterceptorTo followed
  | units phases after names =>
      rw [← Except.ok.inj followed]
      exact ⟨rfl, reflects.mapInterceptor name phases after List.map_nil names⟩

theorem followInterceptorAll (reflects : Reflects log table) {name : String}
    {binding : Binding Interceptor} {phases : Phases}
    (registered : log.interceptorBinding? name = some (binding, phases))
    (calls : List InterceptorFollowUp) :
    Reflects (log ++ (calls.takeWhile (wellFormed ·.patterns)).map (·.entry name phases))
      (table.followInterceptorAll name calls).2 := by
  refine Reflects.followAll (·.interceptorBinding? name = some (binding, phases)) ?_ ?_
    registered reflects calls
  · intro log table call grown registered reflects followed
    obtain ⟨passed, larger⟩ := reflects.followInterceptor registered followed
    refine ⟨passed, ?_, larger⟩
    rw [RegistrationLog.interceptorBinding?] at registered ⊢
    rw [List.findSome?_append, registered]
    rfl
  · intro table call e failed
    have refused {phases : Phases} {behind : Bool} {patterns : List String}
        (failed : table.mapInterceptorToPaths name phases behind patterns = .error e) :
        wellFormed patterns = false := by
      unfold RegistrationTable.mapInterceptorToPaths RegistrationTable.mapInterceptorTo at failed
      split at failed
      · next refused => exact not_wellFormed_of_parseAll refused
      · cases failed
    cases call with
    | path pattern => exact refused failed
    | unit unit => cases failed
    | paths phases after patterns => exact refused failed
    | units phases after names => cases failed

/-- The log has the first interceptor of a name as it is registered. -/
theorem interceptorBinding?_concat (reflects : Reflects log table) {name : String}
    {binding : Binding Interceptor} {phases : Phases}
    (fresh : table.containsInterceptor name = false) :
    RegistrationLog.interceptorBinding? (log ++ [.interceptor name binding phases]) name =
      some (binding, phases.orDefault) := by
  have none : log.interceptorBinding? name = none := by
    rw [RegistrationTable.containsInterceptor, reflects.interceptors] at fresh
    simpa using fresh
  rw [RegistrationLog.interceptorBinding?] at none ⊢
  rw [List.findSome?_append, none]
  simp [LogEntry.interceptorBinding?]

/-- A unit that is registered with calls on its handle. -/
theorem registerUnitWith (reflects : Reflects log table) (name : String)
    (binding : Binding ServiceUnit) (calls : List (List String)) :
    Reflects (log ++ .ifOk (table.registerUnitWith name binding calls).1
        (.ofUnit name binding calls)) (table.registerUnitWith name binding calls).2 := by
  unfold RegistrationTable.registerUnitWith
  split
  · rwa [RegistrationLog.ifOk, List.append_nil]
  · next grown registered =>
      rw [RegistrationLog.ifOk, RegistrationLog.ofUnit, List.append_cons]
      exact (reflects.registerUnit registered).followUnitAll name calls

/-- An interceptor that is registered with calls on its handle. -/
theorem registerInterceptorWith (reflects : Reflects log table) (name : String)
    (binding : Binding Interceptor) (phases : Phases) (calls : List InterceptorFollowUp) :
    Reflects (log ++ .ifOk (table.registerInterceptorWith name binding phases calls).1
        (.ofInterceptor name binding phases calls))
      (table.registerInterceptorWith name binding phases calls).2 := by
  unfold RegistrationTable.registerInterceptorWith
  split
  · rwa [RegistrationLog.ifOk, List.append_nil]
  · next grown registered =>
      rw [RegistrationLog.ifOk, RegistrationLog.ofInterceptor, List.append_cons]
      have larger := reflects.registerInterceptor registered
      obtain ⟨fresh, -⟩ := RegistrationTable.registerInterceptor_ok registered
      refine larger.followInterceptorAll (reflects.interceptorBinding?_concat ?_) calls
      rwa [← RegistrationTable.containsInterceptor_iff, Bool.not_eq_true] at fresh

theorem attempt_mapUnit (reflects : Reflects log table) (name : String)
    (patterns : List String) :
    Reflects (log ++ .ifOk (table.attempt (table.mapUnit name patterns)).1
      [.mapUnit name patterns]) (table.attempt (table.mapUnit name patterns)).2 := by
  cases mapped : table.mapUnit name patterns with
  | error e => rwa [RegistrationTable.attempt, RegistrationLog.ifOk, List.append_nil]
  | ok grown => exact reflects.mapUnit mapped

end Reflects

/-! ## Startup hooks -/

/-- What a hook registers and maps on an open table. -/
def StartupProgram.entries : StartupProgram → RegistrationTable → RegistrationLog
  | .done, _ => []
  | .fail _, _ => []
  | .remark _ next, table => next.entries table
  | .registerUnit name binding calls next, table =>
      let (result, grown) := table.registerUnitWith name binding calls
      .ifOk result (.ofUnit name binding calls) ++ (next result).entries grown
  | .registerInterceptor name binding phases calls next, table =>
      let (result, grown) := table.registerInterceptorWith name binding phases calls
      .ifOk result (.ofInterceptor name binding phases calls) ++ (next result).entries grown
  | .mapUnit name patterns next, table =>
      let (result, grown) := table.attempt (table.mapUnit name patterns)
      .ifOk result [.mapUnit name patterns] ++ (next result).entries grown
  | .findUnit name next, table => (next (table.findUnit name)).entries table
  | .findInterceptor name next, table => (next (table.findInterceptor name)).entries table

/-- What hooks register and map, up to the first that fails and with what it has done before. -/
def startupEntries (context : String) :
    List StartupHook → RegistrationTable → Journal → RegistrationLog
  | [], _, _ => []
  | hook :: rest, table, journal =>
      let program := hook.program journal context
      program.entries table ++
        match program.run table journal with
        | (.error _, _, _) => []
        | (.ok (), table, journal) => startupEntries context rest table journal

namespace Reflects

variable {log : RegistrationLog} {table : RegistrationTable}

theorem run (program : StartupProgram) (reflects : Reflects log table) (journal : Journal) :
    Reflects (log ++ program.entries table) (program.run table journal).2.1 := by
  induction program generalizing log table journal with
  | done => rwa [StartupProgram.entries, List.append_nil]
  | fail e => rwa [StartupProgram.entries, List.append_nil]
  | remark line next ih => exact ih reflects _
  | registerUnit name binding calls next ih =>
      rw [StartupProgram.entries, ← List.append_assoc]
      exact ih _ (reflects.registerUnitWith name binding calls) journal
  | registerInterceptor name binding phases calls next ih =>
      rw [StartupProgram.entries, ← List.append_assoc]
      exact ih _ (reflects.registerInterceptorWith name binding phases calls) journal
  | mapUnit name patterns next ih =>
      rw [StartupProgram.entries, ← List.append_assoc]
      exact ih _ (reflects.attempt_mapUnit name patterns) journal
  | findUnit name next ih => exact ih _ reflects journal
  | findInterceptor name next ih => exact ih _ reflects journal

theorem runStartupHooks (context : String) (hooks : List StartupHook)
    (reflects : Reflects log table) (journal : Journal) :
    Reflects (log ++ startupEntries context hooks table journal)
      (runStartupHooks context hooks table journal).2.1 := by
  induction hooks generalizing log table journal with
  | nil => rwa [startupEntries, List.append_nil]
  | cons hook rest ih =>
      have first := reflects.run (hook.program journal context) journal
      rw [startupEntries, RequestPipeline.runStartupHooks, ← List.append_assoc]
      generalize (hook.program journal context).run table journal = outcome at first ⊢
      obtain ⟨result, grown, later⟩ := outcome
      cases result with
      | error e => rwa [List.append_nil]
      | ok _ => exact ih first later

end Reflects

end RequestPipeline
