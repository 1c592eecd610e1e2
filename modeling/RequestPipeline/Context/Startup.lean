import RequestPipeline.Registration.Registrations

/-!
# Startup hooks

What a hook may do while a context starts: register and map, look registrations up, remark on
what it does, and fail.
-/

namespace RequestPipeline

inductive StartupProgram
  | done
  | fail (e : Error)
  | remark (line : String) (next : StartupProgram)
  | registerUnit (name : String) (binding : Binding ServiceUnit) (calls : List (List String))
      (next : Except Error (Except Error Unit) → StartupProgram)
  | registerInterceptor (name : String) (binding : Binding Interceptor) (phases : Phases)
      (calls : List InterceptorFollowUp)
      (next : Except Error (Except Error Unit) → StartupProgram)
  | mapUnit (name : String) (patterns : List String) (next : Except Error Unit → StartupProgram)
  | findUnit (name : String) (next : Option UnitView → StartupProgram)
  | findInterceptor (name : String) (next : Option InterceptorView → StartupProgram)

namespace RegistrationTable

def registerUnitWith (table : RegistrationTable) (name : String) (binding : Binding ServiceUnit)
    (calls : List (List String)) : Except Error (Except Error Unit) × RegistrationTable :=
  match table.registerUnit name binding with
  | .error e => (.error e, table)
  | .ok table =>
      let (result, table) := table.followUnitAll name calls
      (.ok result, table)

def registerInterceptorWith (table : RegistrationTable) (name : String)
    (binding : Binding Interceptor) (phases : Phases) (calls : List InterceptorFollowUp) :
    Except Error (Except Error Unit) × RegistrationTable :=
  match table.registerInterceptor name binding phases with
  | .error e => (.error e, table)
  | .ok table =>
      let (result, table) := table.followInterceptorAll name calls
      (.ok result, table)

/-- Applies a call that either changes the table or leaves it as it was. -/
def attempt (table : RegistrationTable) (result : Except Error RegistrationTable) :
    Except Error Unit × RegistrationTable :=
  match result with
  | .error e => (.error e, table)
  | .ok table => (.ok (), table)

end RegistrationTable

namespace StartupProgram

def run : StartupProgram → RegistrationTable → Journal →
    Except Error Unit × RegistrationTable × Journal
  | .done, table, journal => (.ok (), table, journal)
  | .fail e, table, journal => (.error e, table, journal)
  | .remark line next, table, journal => next.run table (journal.note .remark (some line))
  | .registerUnit name binding calls next, table, journal =>
      let (result, table) := table.registerUnitWith name binding calls
      (next result).run table journal
  | .registerInterceptor name binding phases calls next, table, journal =>
      let (result, table) := table.registerInterceptorWith name binding phases calls
      (next result).run table journal
  | .mapUnit name patterns next, table, journal =>
      let (result, table) := table.attempt (table.mapUnit name patterns)
      (next result).run table journal
  | .findUnit name next, table, journal => (next (table.findUnit name)).run table journal
  | .findInterceptor name next, table, journal =>
      (next (table.findInterceptor name)).run table journal

end StartupProgram

/-- A hook that runs while a context starts; it is told the name of the context. -/
structure StartupHook where
  name : String
  program : Journal → String → StartupProgram

structure ShutdownHook where
  name : String
  line : Option String

def runStartupHooks (context : String) :
    List StartupHook → RegistrationTable → Journal →
      Except Error Unit × RegistrationTable × Journal
  | [], table, journal => (.ok (), table, journal)
  | hook :: rest, table, journal =>
      match (hook.program journal context).run table journal with
      | (.error e, table, journal) => (.error e, table, journal)
      | (.ok (), table, journal) => runStartupHooks context rest table journal

/-- Runs the hooks that a stop has, the last one first. -/
def runShutdownHooks (hooks : List ShutdownHook) (journal : Journal) : Journal :=
  hooks.reverse.foldl (fun journal hook => journal.note .remark hook.line) journal

end RequestPipeline
