import RequestPipeline.Document.Json
import RequestPipeline.Document.Toml
import RequestPipeline.Settings.Basic

/-!
# Settings from documents

A section is a table of known fields, or a list of its fields in order. A field that is left out
has its default value; an unknown or repeated field, and a value of another kind, are refused.
What follows the last field in a list is refused in JSON and has no meaning in TOML.
-/

namespace RequestPipeline.Settings.Reader

inductive Dialect
  | toml
  | json
  deriving DecidableEq, Repr

/-- What may stand behind a word that is the only key of a table. -/
def isBare (source : Dialect) (value : Document) : Bool :=
  match source, value with
  | .json, .null => true
  | .toml, .table [] => true
  | .toml, .list [] => true
  | _, _ => false

/-- Whether a list of so many items may give a section of so many fields. -/
def fits (source : Dialect) (items fields : Nat) : Bool :=
  match source with
  | .toml => true
  | .json => items ≤ fields

def fields? (source : Dialect) (names : List String) :
    Document → Option (List (String × Document))
  | .table entries =>
      let keys := entries.map Prod.fst
      if keys.all names.contains && keys.eraseDups.length == keys.length then some entries
      else none
  | .list items => if fits source items.length names.length then some (names.zip items) else none
  | _ => none

def field? {α : Type} (read : Document → Option α) (fields : List (String × Document))
    (name : String) (default : α) : Option α :=
  match fields.find? (·.1 == name) with
  | some (_, value) => read value
  | none => some default

def text? : Document → Option String
  | .text value => some value
  | _ => none

def flag? : Document → Option Bool
  | .flag value => some value
  | _ => none

/-- A log format: its word, or a table with the word as its only key. -/
def format? (source : Dialect) : Document → Option LogFormat
  | .text word => LogFormat.ofWord? word
  | .table [(word, value)] => if isBare source value then LogFormat.ofWord? word else none
  | _ => none

def context? (source : Dialect) (document : Document) : Option ContextSettings := do
  let fields ← fields? source ["name", "context_path", "sessions", "security"] document
  let name ← field? text? fields "name" "default"
  let contextPath ← field? text? fields "context_path" ""
  let sessions ← field? flag? fields "sessions" false
  let security ← field? flag? fields "security" false
  return ⟨name, contextPath, sessions, security⟩

def logging? (source : Dialect) (document : Document) : Option LogSettings := do
  let fields ← fields? source ["level", "format", "ansi_enabled"] document
  let level ← field? text? fields "level" "info"
  let format ← field? (format? source) fields "format" .json
  let ansiEnabled ← field? flag? fields "ansi_enabled" false
  return ⟨level, format, ansiEnabled⟩

def settings? (source : Dialect) (document : Document) : Option Settings := do
  let fields ← fields? source ["context", "logging"] document
  let context ← field? (context? source) fields "context" {}
  let logging ← field? (logging? source) fields "logging" {}
  return ⟨context, logging⟩

def read? (source : Dialect) (text : String) : Option Settings :=
  match source with
  | .toml => (Document.Toml.read? text).bind (settings? .toml)
  | .json => (Document.Json.read? text).bind (settings? .json)

end RequestPipeline.Settings.Reader
