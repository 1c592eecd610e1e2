import RequestPipeline.Collaborator

/-!
# Bindings

A registration is bound to an object, to a class, or to the name of a class that a loader knows.
-/

namespace RequestPipeline

structure ClassRef (α : Type) where
  name : String
  construct : Journal → α

inductive Binding (α : Type)
  | shared (object : Instance α)
  | constructed (source : ClassRef α)
  | named (className : String)

/-- Finds classes by name, at any time anew. -/
structure ClassLoader where
  unit : Journal → String → Except Error (ClassRef ServiceUnit)
  interceptor : Journal → String → Except Error (ClassRef Interceptor)

namespace Binding

variable {α : Type}

def declaredClass? : Binding α → Option String
  | .shared _ => none
  | .constructed source => some source.name
  | .named className => some className

def object? : Binding α → Option (Instance α)
  | .shared object => some object
  | _ => none

def word : Binding α → String
  | .shared _ => "instance"
  | .constructed _ => "class"
  | .named _ => "class_name"

def construct (source : ClassRef α) (journal : Journal) : Instance α × Journal :=
  (⟨journal.nextConstructed, source.construct journal⟩,
    journal.note (.constructed source.name) none)

/-- The object behind a binding: the one held, or a new one. -/
def resolve (load : Journal → String → Except Error (ClassRef α))
    (binding : Binding α) (journal : Journal) : Except Error (Instance α) × Journal :=
  match binding with
  | .shared object => (.ok object, journal)
  | .constructed source =>
      let (object, journal) := construct source journal
      (.ok object, journal)
  | .named className =>
      match load journal className with
      | .error e => (.error e, journal)
      | .ok source =>
          let (object, journal) := construct source journal
          (.ok object, journal)

end Binding

namespace ClassLoader

def none : ClassLoader where
  unit _ className := .error (.classResolution className "no class loader configured")
  interceptor _ className := .error (.classResolution className "no class loader configured")

end ClassLoader

structure ClassCatalog where
  units : List (String × ClassRef ServiceUnit) := []
  interceptors : List (String × ClassRef Interceptor) := []

namespace ClassCatalog

/-- Puts a value under a name, in place of the one that was there. -/
def put {α : Type} (entries : List (String × α)) (name : String) (value : α) :
    List (String × α) :=
  entries.filter (·.1 != name) ++ [(name, value)]

def find? {α : Type} (entries : List (String × α)) (name : String) : Option α :=
  (entries.find? (·.1 == name)).map Prod.snd

def addUnit (catalog : ClassCatalog) (name : String) (source : ClassRef ServiceUnit) :
    ClassCatalog :=
  { catalog with units := put catalog.units name source }

def addInterceptor (catalog : ClassCatalog) (name : String) (source : ClassRef Interceptor) :
    ClassCatalog :=
  { catalog with interceptors := put catalog.interceptors name source }

/-- Whether a class of either kind is registered under the name. -/
def contains (catalog : ClassCatalog) (name : String) : Bool :=
  (find? catalog.units name).isSome || (find? catalog.interceptors name).isSome

def size (catalog : ClassCatalog) : Nat := catalog.units.length + catalog.interceptors.length

def isEmpty (catalog : ClassCatalog) : Bool := catalog.size == 0

def loader (catalog : ClassCatalog) : ClassLoader where
  unit _ className :=
    match find? catalog.units className with
    | some source => .ok source
    | none => .error (.classResolution className "no unit class registered under this name")
  interceptor _ className :=
    match find? catalog.interceptors className with
    | some source => .ok source
    | none =>
        .error (.classResolution className "no interceptor class registered under this name")

end ClassCatalog

end RequestPipeline
