import RequestPipeline.Document
import RequestPipeline.Settings.Basic

/-!
# Settings as documents

How settings and the setup of the log are shown.
-/

namespace RequestPipeline

def ContextSettings.document (settings : ContextSettings) : Document :=
  .table [
    ("name", .text settings.name),
    ("context_path", .text settings.contextPath),
    ("sessions", .flag settings.sessions),
    ("security", .flag settings.security)]

def LogSettings.document (settings : LogSettings) : Document :=
  .table [
    ("level", .text settings.level),
    ("format", .text settings.format.word),
    ("ansi_enabled", .flag settings.ansiEnabled)]

/-- All settings as they are shown; a reader of settings understands this document. -/
def Settings.document (settings : Settings) : Document :=
  .table [("context", settings.context.document), ("logging", settings.logging.document)]

def LogSetup.document (setup : LogSetup) : Document :=
  .table [
    ("enabled", .flag setup.enabled),
    ("level", .text setup.level),
    ("json_format", .flag setup.jsonFormat),
    ("ansi", .flag setup.ansi),
    ("include_target", .flag setup.includeTarget)]

end RequestPipeline
