import RequestPipeline.Settings.EnvFile
import RequestPipeline.Settings.Files
import RequestPipeline.Settings.Reader
import RequestPipeline.Text.Uppercase

/-!
# Loading settings

Settings are put together in layers, overridden by environment variables, and checked.
-/

namespace RequestPipeline

inductive LoadError
  | fileNotFound (name : String)
  | unreadable (name : String)
  | malformed (source : Settings.Reader.Dialect)
  | unsupportedFormat (format : String)
  | invalid (setting : InvalidSetting)
  | badVariable (name reason : String)
  | malformedEnvFile
  deriving DecidableEq, Repr

namespace LoadError

/-- The wording of an error; what is wrong with a malformed text is not put into words. -/
def message? : LoadError → Option String
  | .fileNotFound name => some ("configuration file not found: " ++ name)
  | .unreadable name => some ("failed to read configuration file: " ++ name)
  | .unsupportedFormat format => some ("unsupported configuration format: " ++ format)
  | .invalid setting =>
      some ("invalid configuration value for " ++ setting.field ++ ": " ++ setting.reason)
  | .badVariable name reason =>
      some ("failed to parse environment variable " ++ name ++ ": " ++ reason)
  | .malformed _ | .malformedEnvFile => none

end LoadError

inductive SettingField
  | contextName
  | contextPath
  | sessions
  | security
  | level
  | format
  | ansiEnabled
  deriving DecidableEq, Repr

namespace SettingField

def all : List SettingField :=
  [.contextName, .contextPath, .sessions, .security, .level, .format, .ansiEnabled]

def path : SettingField → String
  | .contextName => "CONTEXT__NAME"
  | .contextPath => "CONTEXT__CONTEXT_PATH"
  | .sessions => "CONTEXT__SESSIONS"
  | .security => "CONTEXT__SECURITY"
  | .level => "LOGGING__LEVEL"
  | .format => "LOGGING__FORMAT"
  | .ansiEnabled => "LOGGING__ANSI_ENABLED"

def variableName (leader : String) (field : SettingField) : String :=
  leader ++ "__" ++ field.path

def ofVariable? (leader name : String) : Option SettingField :=
  all.find? fun field => field.variableName leader == name

/-- A flag in words. No letter outside ASCII has a letter of these words as its lower case. -/
def flag? (value : String) : Option Bool :=
  let word := value.toLower
  if ["true", "1", "yes", "on"].contains word then some true
  else if ["false", "0", "no", "off"].contains word then some false
  else none

def readFlag (name value : String) : Except LoadError Bool :=
  match flag? value with
  | some flag => .ok flag
  | none => .error (.badVariable name "expected boolean")

def readFormat (name value : String) : Except LoadError LogFormat :=
  match LogFormat.ofWord? value.toLower with
  | some read => .ok read
  | none => .error (.badVariable name "expected 'json' or 'pretty'")

def override (field : SettingField) (name value : String) (settings : Settings) :
    Except LoadError Settings :=
  let context := settings.context
  let logging := settings.logging
  match field with
  | .contextName => .ok { settings with context := { context with name := value } }
  | .contextPath => .ok { settings with context := { context with contextPath := value } }
  | .sessions => (readFlag name value).map fun flag =>
      { settings with context := { context with sessions := flag } }
  | .security => (readFlag name value).map fun flag =>
      { settings with context := { context with security := flag } }
  | .level => .ok { settings with logging := { logging with level := value } }
  | .format => (readFormat name value).map fun read =>
      { settings with logging := { logging with format := read } }
  | .ansiEnabled => (readFlag name value).map fun flag =>
      { settings with logging := { logging with ansiEnabled := flag } }

theorem mem_all (field : SettingField) : field ∈ all := by
  cases field <;> decide

end SettingField

/-- What has been put together so far: the settings, and the beginning of the names of the
variables that override them. -/
structure Loader where
  settings : Settings := {}
  leader : Option String := none
  deriving DecidableEq, Repr

structure Surroundings where
  files : Files := []
  environment : Environment := []

inductive Layer
  | defaults
  | development
  | text (content format : String)
  | file (name : String)
  | optionalFile (name : String)
  | overrides (leader : String)
  | envFile
  deriving DecidableEq, Repr

namespace Loader

def dialect? (word : String) : Option Settings.Reader.Dialect :=
  let word := word.toLower
  if word = "toml" then some .toml else if word = "json" then some .json else none

/-- Settings from a text; a field that the text leaves out has its default value. -/
def readText (source : Settings.Reader.Dialect) (content : String) : Except LoadError Settings :=
  match Settings.Reader.read? source content with
  | some settings => .ok settings
  | none => .error (.malformed source)

def readNamed (content format : String) : Except LoadError Settings :=
  match dialect? format with
  | some source => readText source content
  | none => .error (.unsupportedFormat format)

/-- Settings from a file; its content is read before its extension is looked at. -/
def readFile (files : Files) (name : String) : Except LoadError Settings :=
  match files.lookup name with
  | none => .error (.fileNotFound name)
  | some .binary | some .directory => .error (.unreadable name)
  | some (.text content) =>
      match (Files.extension? name).bind dialect? with
      | some source => readText source content
      | none => .error (.unsupportedFormat name)

def replace (loader : Loader) (result : Except LoadError Settings) : Except LoadError Loader :=
  result.map fun settings => { loader with settings := settings }

/-- The variables that an environment file adds; a missing file adds none. -/
def loadEnvFile (surroundings : Surroundings) : Except LoadError Surroundings :=
  match surroundings.files.lookup ".env" with
  | none | some .directory => .ok surroundings
  | some .binary => .error .malformedEnvFile
  | some (.text content) =>
      match EnvFile.load? surroundings.environment content with
      | some environment => .ok { surroundings with environment := environment }
      | none => .error .malformedEnvFile

def apply (loader : Loader) (surroundings : Surroundings) (layer : Layer) :
    Except LoadError (Loader × Surroundings) :=
  match layer with
  | .defaults => .ok ({ loader with settings := {} }, surroundings)
  | .development => .ok ({ loader with settings := .development }, surroundings)
  | .text content format =>
      (loader.replace (readNamed content format)).map (·, surroundings)
  | .file name => (loader.replace (readFile surroundings.files name)).map (·, surroundings)
  | .optionalFile name =>
      if (surroundings.files.lookup name).isSome then
        (loader.replace (readFile surroundings.files name)).map (·, surroundings)
      else .ok (loader, surroundings)
  | .overrides leader =>
      .ok ({ loader with leader := some (Text.Uppercase.upper leader) }, surroundings)
  | .envFile => (loadEnvFile surroundings).map (loader, ·)

/-- Applies layers in order; an error comes with the number of its layer. -/
def applyAll (loader : Loader) (surroundings : Surroundings) (number : Nat) :
    List Layer → Except (LoadError × Nat) (Loader × Surroundings)
  | [] => .ok (loader, surroundings)
  | layer :: rest =>
      match loader.apply surroundings layer with
      | .error e => .error (e, number)
      | .ok (loader, surroundings) => applyAll loader surroundings (number + 1) rest

/-- Overrides settings by variables in the order given; other variables have no effect. -/
def overrideAll (leader : String) :
    Environment → Settings → Except LoadError Settings
  | [], settings => .ok settings
  | (name, value) :: rest, settings =>
      match SettingField.ofVariable? leader name with
      | none => overrideAll leader rest settings
      | some field =>
          match field.override name value settings with
          | .error e => .error e
          | .ok settings => overrideAll leader rest settings

def inNameOrder (environment : Environment) : Environment :=
  environment.mergeSort fun a b => a.1 ≤ b.1

def overridden (loader : Loader) (environment : Environment) : Except LoadError Settings :=
  match loader.leader with
  | none => .ok loader.settings
  | some leader => overrideAll leader (inNameOrder environment) loader.settings

def check (settings : Settings) : Except LoadError Unit :=
  match settings.fault? with
  | some fault => .error (.invalid fault)
  | none => .ok ()

def load (loader : Loader) (environment : Environment) : Except LoadError Settings :=
  match loader.overridden environment with
  | .error e => .error e
  | .ok settings => (check settings).map fun _ => settings

def loadUnchecked (loader : Loader) : Settings := loader.settings

end Loader

end RequestPipeline
