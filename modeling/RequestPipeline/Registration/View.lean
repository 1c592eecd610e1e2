import RequestPipeline.Document
import RequestPipeline.Registration.Table

/-!
# Registrations as documents

How bindings, mappings and registrations are shown.
-/

namespace RequestPipeline

def Binding.document {α : Type} (binding : Binding α) : Document :=
  .table [
    ("class", (binding.declaredClass?.map Document.text).getD .null),
    ("instance", .flag binding.object?.isSome),
    ("kind", .text binding.word)]

def Phases.document (phases : Phases) : Document :=
  .list (phases.toList.map fun phase => .text phase.word)

def Document.texts (texts : List String) : Document := .list (texts.map Document.text)

def InterceptorMapping.document (mapping : InterceptorMapping) : Document :=
  .table [
    ("interceptor", .text mapping.interceptor),
    ("paths", .texts (mapping.paths.map PathPattern.text)),
    ("types", mapping.phases.document),
    ("units", .texts mapping.units)]

/-- A mapping of a unit as it is shown: the pattern, then the unit it leads to. -/
def UnitMapping.document (mapping : UnitMapping) : Document :=
  .texts [mapping.pattern.text, mapping.unit]

def UnitView.document (view : UnitView) : Document :=
  .table [
    ("binding", view.binding.document),
    ("mappings", .texts view.mappings),
    ("name", .text view.name)]

def InterceptorView.document (view : InterceptorView) : Document :=
  .table [
    ("binding", view.binding.document),
    ("mappings", .list (view.mappings.map InterceptorMapping.document)),
    ("name", .text view.name),
    ("types", view.phases.document)]

namespace RegistrationTable

def unitMappingsDocument (table : RegistrationTable) : Document :=
  .list (table.unitMappings.map UnitMapping.document)

def interceptorMappingsDocument (table : RegistrationTable) : Document :=
  .list (table.interceptorMappings.map InterceptorMapping.document)

def document (table : RegistrationTable) : Document :=
  .table [
    ("interceptor_mappings", table.interceptorMappingsDocument),
    ("interceptors", .list (table.interceptors.map fun record =>
      .list [.text record.name, record.binding.document, record.phases.document])),
    ("unit_mappings", table.unitMappingsDocument),
    ("units", .list (table.units.map fun record =>
      .list [.text record.name, record.binding.document]))]

end RegistrationTable

end RequestPipeline
