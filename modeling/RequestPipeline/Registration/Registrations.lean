import RequestPipeline.Registration.Snapshot

/-!
# The registrations of a context

Open while the context may still be set up, frozen while it serves.
-/

namespace RequestPipeline

/-- A table that accepts registrations, or a snapshot that does not. -/
inductive Registrations
  | opened (table : RegistrationTable)
  | frozen (snapshot : Snapshot)

namespace Registrations

def empty : Registrations := .opened {}

def declared : Registrations → RegistrationTable
  | .opened table => table
  | .frozen snapshot => snapshot.table

def openFor (registrations : Registrations) (operation : String) (state : LifecycleState) :
    Except Error RegistrationTable :=
  match registrations with
  | .opened table => .ok table
  | .frozen _ => .error (.illegalState operation state)

/-- Freezes an open table; when that fails it stays open. -/
def freeze (registrations : Registrations) (loader : ClassLoader) (journal : Journal) :
    Except Error Snapshot × Registrations × Journal :=
  match registrations with
  | .frozen snapshot => (.ok snapshot, registrations, journal)
  | .opened table =>
      match table.freeze loader journal with
      | (.error e, journal) => (.error e, registrations, journal)
      | (.ok snapshot, journal) => (.ok snapshot, .frozen snapshot, journal)

def thaw : Registrations → Registrations
  | .opened table => .opened table
  | .frozen snapshot => .opened snapshot.thaw

theorem declared_thaw (registrations : Registrations) :
    registrations.thaw.declared = registrations.declared := by
  cases registrations <;> rfl

end Registrations

end RequestPipeline
