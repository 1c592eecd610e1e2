import RequestPipeline.ContextPath

/-!
# Settings

The settings of a context and of its log, two presets, and what makes settings valid.
-/

namespace RequestPipeline

structure ContextSettings where
  name : String := "default"
  contextPath : String := ""
  sessions : Bool := false
  security : Bool := false
  deriving DecidableEq, Repr

inductive LogFormat
  | json
  | pretty
  deriving DecidableEq, Repr

def LogFormat.word : LogFormat → String
  | .json => "json"
  | .pretty => "pretty"

def LogFormat.ofWord? (word : String) : Option LogFormat :=
  [LogFormat.json, .pretty].find? (·.word = word)

structure LogSettings where
  level : String := "info"
  format : LogFormat := .json
  ansiEnabled : Bool := false
  deriving DecidableEq, Repr

structure Settings where
  context : ContextSettings := {}
  logging : LogSettings := {}
  deriving DecidableEq, Repr

structure InvalidSetting where
  field : String
  reason : String
  deriving DecidableEq, Repr

namespace Settings

/-- The preset for development: both optional stages, and a readable detailed log. -/
def development : Settings where
  context := { sessions := true, security := true }
  logging := { level := "debug", format := .pretty, ansiEnabled := true }

def contextPathReason (path : String) : ContextPathFault → String
  | .noLeadingSlash => "must start with '/': " ++ path
  | .trailingSlash => "must not end with '/': " ++ path

/-- The first setting that is not acceptable: the name, then the context path, then the level. -/
def fault? (settings : Settings) : Option InvalidSetting :=
  if Text.isBlankText settings.context.name then some ⟨"context.name", "must not be empty"⟩
  else
    match ContextPath.fault? settings.context.contextPath with
    | some fault =>
        some ⟨"context.context_path", contextPathReason settings.context.contextPath fault⟩
    | none =>
        if Text.isBlankText settings.logging.level then
          some ⟨"logging.level", "must not be empty"⟩
        else none

theorem fault?_default : fault? {} = none := by decide

theorem fault?_development : fault? development = none := by decide

end Settings

structure LogSetup where
  enabled : Bool
  level : String
  jsonFormat : Bool
  ansi : Bool
  includeTarget : Bool
  deriving DecidableEq, Repr

def LogSettings.setup (settings : LogSettings) : LogSetup :=
  ⟨true, settings.level, settings.format == .json, settings.ansiEnabled, true⟩

end RequestPipeline
