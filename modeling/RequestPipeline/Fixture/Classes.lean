import RequestPipeline.Binding
import RequestPipeline.Fixture.Echo
import RequestPipeline.Fixture.Probe

/-!
# Sample classes

Classes whose objects are numbered in the order in which they are made, units and interceptors
together.
-/

namespace RequestPipeline.Fixture

def numberedClasses : List String :=
  ["app.Alpha", "app.Beta", "app.Broken", "app.Log", "app.Probe", "app.BrokenFilter"]

def isNumbered : Event → Bool
  | .constructed className => numberedClasses.contains className
  | _ => false

def numbered (label : String) (journal : Journal) : String :=
  label ++ "#" ++ toString (journal.count isNumbered + 1)

/-- The unit class of a name; `otherwise` names the class of plain units. -/
def unitClass (otherwise className : String) : ClassRef ServiceUnit :=
  if className = "app.Alpha" then
    ⟨className, fun journal => echo (numbered "alpha" journal) true⟩
  else if className = "app.Beta" then
    ⟨className, fun journal =>
      UnitProbe.unit { label := numbered "beta" journal, status := 201 }⟩
  else if className = "app.Broken" then
    ⟨className, fun journal =>
      let label := numbered "broken" journal
      UnitProbe.unit {
        label := label, initFault := some (.configuration (label ++ " cannot start")) }⟩
  else ⟨otherwise, fun _ => blank⟩

def interceptorClass (otherwise className : String) : ClassRef Interceptor :=
  if className = "app.Log" then
    ⟨className, fun journal => recorder (numbered "log" journal)⟩
  else if className = "app.Probe" then
    ⟨className, fun journal =>
      InterceptorProbe.interceptor { label := numbered "probe" journal }⟩
  else if className = "app.BrokenFilter" then
    ⟨className, fun journal =>
      let label := numbered "filter" journal
      InterceptorProbe.interceptor {
        label := label, initFault := some (.classResolution label "no filter") }⟩
  else ⟨otherwise, fun _ => pass⟩

end RequestPipeline.Fixture
