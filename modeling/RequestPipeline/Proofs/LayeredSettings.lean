import RequestPipeline.Proofs.VariableOverrides

/-!
# Settings put together in layers

What a document mentions, what a layer says about a setting, and which layer a loaded setting comes
from. A document that is read stands for all settings, so that a setting which it leaves out goes
back to its default value, whatever earlier layers made of it.
-/

namespace RequestPipeline

/-- The default value of a setting. -/
def SettingField.standard (field : SettingField) : SettingValue := ({} : Settings).value field

namespace Settings.Reader

def parse? (source : Dialect) (content : String) : Option Document :=
  match source with
  | .toml => Document.Toml.read? content
  | .json => Document.Json.read? content

theorem read?_eq (source : Dialect) (content : String) :
    read? source content = (parse? source content).bind (settings? source) := by
  cases source <;> rfl

def held? (fields : List (String × Document)) (name : String) : Option Document :=
  (fields.find? (·.1 == name)).map Prod.snd

theorem field?_eq_some {α : Type} {read : Document → Option α}
    {fields : List (String × Document)} {name : String} {default value : α}
    (found : field? read fields name default = some value) :
    (held? fields name = none ∧ value = default) ∨
      ∃ document, held? fields name = some document ∧ read document = some value := by
  unfold field? at found
  unfold held?
  cases entry : fields.find? (·.1 == name) with
  | none =>
      rw [entry] at found
      exact .inl ⟨rfl, (Option.some.inj found).symm⟩
  | some entry' =>
      rw [entry] at found
      exact .inr ⟨entry'.2, rfl, found⟩

/-- A field that is read has the value that stands under its name, or its default value. -/
theorem field?_mentioned {α : Type} {read : Document → Option α}
    {fields : List (String × Document)} {name : String} {default value : α}
    (found : field? read fields name default = some value) (wrap : α → SettingValue) :
    wrap value =
      ((held? fields name).bind fun document => (read document).map wrap).getD
        (wrap default) := by
  obtain ⟨absent, rfl⟩ | ⟨document, present, readAs⟩ := field?_eq_some found
  · rw [absent, Option.bind_none, Option.getD_none]
  · rw [present, Option.bind_some, readAs, Option.map_some, Option.getD_some]

def group : SettingField → String × List String
  | .contextName | .contextPath | .sessions | .security =>
      ("context", ["name", "context_path", "sessions", "security"])
  | .level | .format | .ansiEnabled => ("logging", ["level", "format", "ansi_enabled"])

def key : SettingField → String
  | .contextName => "name"
  | .contextPath => "context_path"
  | .sessions => "sessions"
  | .security => "security"
  | .level => "level"
  | .format => "format"
  | .ansiEnabled => "ansi_enabled"

def value? (source : Dialect) (field : SettingField) (document : Document) :
    Option SettingValue :=
  match field with
  | .contextName | .contextPath | .level => (text? document).map .text
  | .sessions | .security | .ansiEnabled => (flag? document).map .flag
  | .format => (format? source document).map .format

def mentionIn? (source : Dialect) (field : SettingField) (content : Document) :
    Option SettingValue :=
  (fields? source (group field).2 content).bind fun fields =>
    (held? fields (key field)).bind (value? source field)

/-- The value that a document mentions for a setting. -/
def mention? (source : Dialect) (field : SettingField) (document : Document) :
    Option SettingValue :=
  (fields? source ["context", "logging"] document).bind fun sections =>
    (held? sections (group field).1).bind (mentionIn? source field)

/-- The settings of a context are those its section mentions, with default values besides. -/
theorem context?_value {source : Dialect} {content : Document} {context : ContextSettings}
    (read : context? source content = some context) (logging : LogSettings)
    {field : SettingField} (inContext : (group field).1 = "context") :
    Settings.value ⟨context, logging⟩ field =
      (mentionIn? source field content).getD field.standard := by
  simp only [context?, Option.bind_eq_bind, Option.bind_eq_some_iff, Option.pure_def,
    Option.some.injEq] at read
  obtain ⟨fields, given, name, nameRead, path, pathRead, sessions, sessionsRead, security,
    securityRead, rfl⟩ := read
  cases field with
  | contextName =>
      simp only [mentionIn?, group, given, Option.bind_some]
      exact field?_mentioned nameRead .text
  | contextPath =>
      simp only [mentionIn?, group, given, Option.bind_some]
      exact field?_mentioned pathRead .text
  | sessions =>
      simp only [mentionIn?, group, given, Option.bind_some]
      exact field?_mentioned sessionsRead .flag
  | security =>
      simp only [mentionIn?, group, given, Option.bind_some]
      exact field?_mentioned securityRead .flag
  | level | format | ansiEnabled => simp [group] at inContext

/-- The settings of the log are those its section mentions, with default values besides. -/
theorem logging?_value {source : Dialect} {content : Document} {logging : LogSettings}
    (read : logging? source content = some logging) (context : ContextSettings)
    {field : SettingField} (inLogging : (group field).1 = "logging") :
    Settings.value ⟨context, logging⟩ field =
      (mentionIn? source field content).getD field.standard := by
  simp only [logging?, Option.bind_eq_bind, Option.bind_eq_some_iff, Option.pure_def,
    Option.some.injEq] at read
  obtain ⟨fields, given, level, levelRead, format, formatRead, ansi, ansiRead, rfl⟩ := read
  cases field with
  | level =>
      simp only [mentionIn?, group, given, Option.bind_some]
      exact field?_mentioned levelRead .text
  | format =>
      simp only [mentionIn?, group, given, Option.bind_some]
      exact field?_mentioned formatRead .format
  | ansiEnabled =>
      simp only [mentionIn?, group, given, Option.bind_some]
      exact field?_mentioned ansiRead .flag
  | contextName | contextPath | sessions | security => simp [group] at inLogging

/-- Settings from a document are those it mentions, with default values besides. -/
theorem settings?_value {source : Dialect} {document : Document} {settings : Settings}
    (read : settings? source document = some settings) (field : SettingField) :
    settings.value field = (mention? source field document).getD field.standard := by
  simp only [settings?, Option.bind_eq_bind, Option.bind_eq_some_iff, Option.pure_def,
    Option.some.injEq] at read
  obtain ⟨sections, given, context, contextRead, logging, loggingRead, rfl⟩ := read
  simp only [mention?, given, Option.bind_some]
  have grouped : (group field).1 = "context" ∨ (group field).1 = "logging" := by
    cases field <;> simp [group]
  obtain inContext | inLogging := grouped
  · rw [inContext]
    obtain ⟨absent, rfl⟩ | ⟨content, present, readAs⟩ := field?_eq_some contextRead
    · rw [absent]
      cases field <;> first | rfl | simp [group] at inContext
    · rw [present]
      exact context?_value readAs logging inContext
  · rw [inLogging]
    obtain ⟨absent, rfl⟩ | ⟨content, present, readAs⟩ := field?_eq_some loggingRead
    · rw [absent]
      cases field <;> first | rfl | simp [group] at inLogging
    · rw [present]
      exact logging?_value readAs context inLogging

end Settings.Reader

namespace Layer

open Settings.Reader

def document? (files : Files) : Layer → Option (Dialect × Document)
  | .text content format =>
      (Loader.dialect? format).bind fun source => (parse? source content).map (source, ·)
  | .file name | .optionalFile name =>
      match files.lookup name with
      | some (.text content) =>
          ((Files.extension? name).bind Loader.dialect?).bind fun source =>
            (parse? source content).map (source, ·)
      | _ => none
  | _ => none

/-- The value that a layer sets a field to: a preset sets every field, a document those that it
mentions. -/
def sets? (files : Files) (field : SettingField) (layer : Layer) : Option SettingValue :=
  match layer with
  | .defaults => some field.standard
  | .development => some (Settings.development.value field)
  | layer => (layer.document? files).bind fun (source, document) => mention? source field document

/-- Whether a layer gives the loader other settings in place of those it had. -/
def replaces (files : Files) : Layer → Bool
  | .defaults | .development | .text .. | .file _ => true
  | .optionalFile name => (files.lookup name).isSome
  | .overrides _ | .envFile => false

def leader? : Layer → Option String
  | .overrides leader => some (Text.Uppercase.upper leader)
  | _ => none

/-- A layer that replaces nothing sets no field. -/
theorem sets?_of_keeps {files : Files} {layer : Layer} (keeps : layer.replaces files = false)
    (field : SettingField) : layer.sets? files field = none := by
  cases layer with
  | defaults | development | text | file => cases keeps
  | optionalFile name =>
      have missing : files.lookup name = none := by simpa [replaces] using keeps
      simp only [sets?, document?, missing, Option.bind_none]
  | overrides | envFile => rfl

/-- The last layer that replaces settings. -/
def lastReplacing? (files : Files) (layers : List Layer) : Option Layer :=
  (layers.filter (·.replaces files)).getLast?

theorem lastReplacing?_cons (files : Files) (layer : Layer) (rest : List Layer) :
    lastReplacing? files (layer :: rest) =
      (lastReplacing? files rest).or (if layer.replaces files then some layer else none) := by
  unfold lastReplacing?
  cases replaces : layer.replaces files with
  | true =>
      rw [List.filter_cons_of_pos replaces, List.getLast?_cons, if_pos rfl]
      cases (rest.filter (·.replaces files)).getLast? <;> rfl
  | false =>
      rw [List.filter_cons_of_neg (by simp [replaces])]
      simp

/-- The value of a field after layers of which each changes only the fields that it sets. -/
def layered (files : Files) (field : SettingField) (layers : List Layer)
    (start : SettingValue) : SettingValue :=
  layers.foldl (fun value layer => (layer.sets? files field).getD value) start

theorem layered_cons (files : Files) (field : SettingField) (layer : Layer)
    (rest : List Layer) (start : SettingValue) :
    layered files field (layer :: rest) start =
      layered files field rest ((layer.sets? files field).getD start) := rfl

/-- The value of a field after layers of which each that is read replaces all settings. -/
def replaced (files : Files) (field : SettingField) (layers : List Layer)
    (start : SettingValue) : SettingValue :=
  match lastReplacing? files layers with
  | none => start
  | some layer => (layer.sets? files field).getD field.standard

theorem replaced_cons (files : Files) (field : SettingField) (layer : Layer)
    (rest : List Layer) (start : SettingValue) :
    replaced files field (layer :: rest) start =
      replaced files field rest
        (if layer.replaces files then (layer.sets? files field).getD field.standard
          else start) := by
  unfold replaced
  rw [lastReplacing?_cons]
  cases lastReplacing? files rest with
  | some last => rfl
  | none => cases layer.replaces files <;> rfl

/-- Where no layer replaces settings, the first value stays; and what the last one sets is the
value. -/
theorem layered_eq (files : Files) (field : SettingField) (layers : List Layer)
    (start : SettingValue) :
    (lastReplacing? files layers = none → layered files field layers start = start) ∧
      ∀ last value, lastReplacing? files layers = some last →
        last.sets? files field = some value → layered files field layers start = value := by
  induction layers generalizing start with
  | nil => exact ⟨fun _ => rfl, nofun⟩
  | cons layer rest ih =>
      obtain ⟨keeps, sets⟩ := ih ((layer.sets? files field).getD start)
      rw [lastReplacing?_cons, layered_cons]
      cases later : lastReplacing? files rest with
      | some last =>
          refine ⟨nofun, fun other value same own => ?_⟩
          cases same
          exact sets last value later own
      | none =>
          rw [Option.none_or, keeps later]
          cases replaces : layer.replaces files with
          | true =>
              refine ⟨nofun, fun other value same own => ?_⟩
              cases same
              rw [own, Option.getD_some]
          | false =>
              refine ⟨fun _ => ?_, nofun⟩
              rw [sets?_of_keeps replaces, Option.getD_none]

end Layer

namespace Loader

open Settings.Reader

theorem replace_ok {loader after : Loader} {surroundings around : Surroundings}
    {result : Except LoadError Settings}
    (replaced : (loader.replace result).map (·, surroundings) = .ok (after, around)) :
    ∃ settings, result = .ok settings ∧ after = { loader with settings := settings } ∧
      around = surroundings := by
  cases result with
  | error fault => cases replaced
  | ok settings =>
      cases replaced
      exact ⟨settings, rfl, rfl, rfl⟩

/-- Settings that a text gives are those of its document. -/
theorem readText_ok {source : Dialect} {content : String} {settings : Settings}
    (read : readText source content = .ok settings) :
    ∃ document, parse? source content = some document ∧
      settings? source document = some settings := by
  unfold readText at read
  rw [read?_eq] at read
  cases found : (parse? source content).bind (settings? source) with
  | none => rw [found] at read; cases read
  | some settings' =>
      rw [found] at read
      cases read
      exact Option.bind_eq_some_iff.mp found

/-- Settings that a text in a named format gives are those of its layer's document. -/
theorem readNamed_ok {content format : String} {settings : Settings}
    (read : readNamed content format = .ok settings) (files : Files) :
    ∃ source document, (Layer.text content format).document? files = some (source, document) ∧
      settings? source document = some settings := by
  unfold readNamed at read
  cases named : dialect? format with
  | none => rw [named] at read; cases read
  | some source =>
      rw [named] at read
      obtain ⟨document, parsed, settled⟩ := readText_ok read
      refine ⟨source, document, ?_, settled⟩
      simp only [Layer.document?, named, parsed, Option.bind_some, Option.map_some]

/-- Settings that a file gives are those of its layer's document. -/
theorem readFile_ok {files : Files} {name : String} {settings : Settings}
    (read : readFile files name = .ok settings) :
    ∃ source document, (Layer.file name).document? files = some (source, document) ∧
      settings? source document = some settings := by
  unfold readFile at read
  cases found : files.lookup name with
  | none => rw [found] at read; cases read
  | some node =>
      rw [found] at read
      cases node with
      | binary | directory => cases read
      | text content =>
          cases named : (Files.extension? name).bind dialect? with
          | none => simp only [named] at read; cases read
          | some source =>
              simp only [named] at read
              obtain ⟨document, parsed, settled⟩ := readText_ok read
              refine ⟨source, document, ?_, settled⟩
              simp only [Layer.document?, found, named, parsed, Option.bind_some,
                Option.map_some]

/-- Settings that come from a layer's document have the values which the layer sets. -/
theorem document_value {files : Files} {layer : Layer} {source : Dialect} {document : Document}
    {settings : Settings} (stands : layer.document? files = some (source, document))
    (read : settings? source document = some settings) (field : SettingField) :
    settings.value field = (layer.sets? files field).getD field.standard := by
  have mentioned : layer.sets? files field = mention? source field document := by
    cases layer with
    | defaults | development | overrides | envFile => cases stands
    | text | file | optionalFile => simp only [Layer.sets?, stands, Option.bind_some]
  rw [mentioned]
  exact settings?_value read field

/-- A layer that replaces settings leaves those that it sets, and the default values besides;
another one leaves the settings alone. No layer touches the files. -/
theorem apply_value {loader after : Loader} {surroundings around : Surroundings} {layer : Layer}
    (applied : loader.apply surroundings layer = .ok (after, around)) :
    around.files = surroundings.files ∧ after.leader = layer.leader?.or loader.leader ∧
      ∀ field, after.settings.value field =
        if layer.replaces surroundings.files
          then (layer.sets? surroundings.files field).getD field.standard
          else loader.settings.value field := by
  cases layer with
  | defaults | development | overrides =>
      cases applied
      exact ⟨rfl, rfl, fun _ => rfl⟩
  | text content format =>
      obtain ⟨settings, read, rfl, rfl⟩ := replace_ok applied
      obtain ⟨source, document, stands, settled⟩ := readNamed_ok read around.files
      exact ⟨rfl, rfl, document_value stands settled⟩
  | file name =>
      obtain ⟨settings, read, rfl, rfl⟩ := replace_ok applied
      obtain ⟨source, document, stands, settled⟩ := readFile_ok read
      exact ⟨rfl, rfl, document_value stands settled⟩
  | optionalFile name =>
      simp only [apply] at applied
      cases found : (surroundings.files.lookup name).isSome with
      | false =>
          simp only [found] at applied
          cases applied
          exact ⟨rfl, rfl, fun field => by simp [Layer.replaces, found]⟩
      | true =>
          simp only [found, if_true] at applied
          obtain ⟨settings, read, rfl, rfl⟩ := replace_ok applied
          obtain ⟨source, document, stands, settled⟩ := readFile_ok read
          refine ⟨rfl, rfl, fun field => ?_⟩
          rw [Layer.replaces, found, if_pos rfl]
          have same : (Layer.optionalFile name).document? around.files =
              some (source, document) := stands
          exact document_value same settled field
  | envFile =>
      simp only [apply] at applied
      cases read : loadEnvFile surroundings with
      | error fault => rw [read] at applied; cases applied
      | ok reached =>
          rw [read] at applied
          cases applied
          refine ⟨?_, rfl, fun _ => rfl⟩
          unfold loadEnvFile at read
          split at read
          · cases read; rfl
          · cases read; rfl
          · cases read
          · split at read
            · cases read; rfl
            · cases read

/-- After layers the loader has the settings of the last one that replaces settings, and the
beginning of names of the last one that has such. -/
theorem applyAll_value {loader reached : Loader} {surroundings around : Surroundings}
    {number : Nat} {layers : List Layer}
    (applied : loader.applyAll surroundings number layers = .ok (reached, around)) :
    reached.leader = (layers.filterMap Layer.leader?).getLast?.or loader.leader ∧
      ∀ field, reached.settings.value field =
        Layer.replaced surroundings.files field layers (loader.settings.value field) := by
  induction layers generalizing loader surroundings number with
  | nil =>
      cases applied
      exact ⟨rfl, fun _ => rfl⟩
  | cons layer rest ih =>
      unfold applyAll at applied
      cases first : loader.apply surroundings layer with
      | error fault => rw [first] at applied; cases applied
      | ok next =>
          obtain ⟨after, between⟩ := next
          rw [first] at applied
          obtain ⟨files, leader, values⟩ := apply_value first
          obtain ⟨lastLeader, lastValues⟩ := ih applied
          refine ⟨?_, fun field => ?_⟩
          · rw [lastLeader, leader, List.filterMap_cons]
            cases layer.leader? with
            | none => rfl
            | some own =>
                simp only [List.getLast?_cons]
                cases (rest.filterMap Layer.leader?).getLast? <;> rfl
          · rw [lastValues, files, values, Layer.replaced_cons]

def overriding? (loader : Loader) (layers : List Layer) (environment : Environment)
    (field : SettingField) : Option SettingValue :=
  ((layers.filterMap Layer.leader?).getLast?.or loader.leader).bind fun leader =>
    environment.given? leader field

theorem load_value {loader : Loader} {environment : Environment} {settings : Settings}
    (loaded : loader.load environment = .ok settings) (field : SettingField) :
    settings.value field =
      (loader.leader.bind fun leader => environment.given? leader field).getD
        (loader.settings.value field) := by
  unfold load at loaded
  cases done : loader.overridden environment with
  | error fault => rw [done] at loaded; cases loaded
  | ok overridden =>
      simp only [done] at loaded
      cases acceptable : check overridden with
      | error fault => rw [acceptable] at loaded; cases loaded
      | ok =>
          rw [acceptable] at loaded
          cases loaded
          unfold Loader.overridden at done
          cases known : loader.leader with
          | none =>
              rw [known] at done
              cases done
              rfl
          | some leader =>
              rw [known] at done
              rw [overrideAll_value done, Environment.given?_inNameOrder, Option.bind_some]

/-- A loaded setting has the value of its variable, or else what the last layer that replaces
settings sets it to, or else its default value. So it differs from what a reading of the layers
field by field gives exactly when no variable sets it, the last layer that replaces settings leaves
it out, and the layers before gave it a value other than the default one. -/
theorem loaded_value_of_last_layer {loader reached : Loader} {surroundings around : Surroundings}
    {number : Nat} {layers : List Layer} {environment : Environment} {settings : Settings}
    (applied : loader.applyAll surroundings number layers = .ok (reached, around))
    (loaded : reached.load environment = .ok settings) (field : SettingField) :
    let files := surroundings.files
    let given := loader.overriding? layers environment field
    let start := loader.settings.value field
    settings.value field = given.getD (Layer.replaced files field layers start) ∧
      (settings.value field ≠ given.getD (Layer.layered files field layers start) ↔
        given = none ∧
          (∃ last, Layer.lastReplacing? files layers = some last ∧
            last.sets? files field = none) ∧
          Layer.layered files field layers start ≠ field.standard) := by
  intro files given start
  obtain ⟨leader, values⟩ := applyAll_value applied
  have exact_value : settings.value field =
      given.getD (Layer.replaced files field layers start) := by
    rw [load_value loaded, leader, values]
    rfl
  refine ⟨exact_value, ?_⟩
  rw [exact_value]
  cases given with
  | some value => simp
  | none =>
      obtain ⟨keeps, sets⟩ := Layer.layered_eq files field layers start
      simp only [Option.getD_none, true_and]
      unfold Layer.replaced
      cases last : Layer.lastReplacing? files layers with
      | none => simp [keeps last]
      | some layer =>
          cases own : layer.sets? files field with
          | none => simp [own, eq_comm]
          | some value => simp [own, sets layer value last own]

/-- The development preset, and a document that names the context. -/
def shopInDevelopment : List Layer :=
  [.development, .text "[context]\nname = \"shop\"\n" "toml"]

/-- What the two layers leave: all but the name has its default value. -/
theorem shopInDevelopment_applied :
    ({} : Loader).applyAll {} 0 shopInDevelopment =
      .ok ({ settings := { context := { name := "shop" } } }, {}) := by
  have read : readNamed "[context]\nname = \"shop\"\n" "toml" =
      .ok { context := { name := "shop" } } := by decide +kernel
  rw [shopInDevelopment, applyAll, apply]
  dsimp only
  rw [applyAll, apply, read]
  rfl

/-- The level of the development preset is lost to a document that does not mention it. -/
theorem shopInDevelopment_level :
    let settings : Settings := { context := { name := "shop" } }
    settings.value .level ≠
      Layer.layered [] .level shopInDevelopment (SettingField.standard .level) := by
  have unset : Layer.sets? [] .level
      (.text "[context]\nname = \"shop\"\n" "toml") = none := by decide +kernel
  have earlier : Layer.layered [] .level shopInDevelopment (SettingField.standard .level) =
      .text "debug" := by decide +kernel
  have loaded : ({ settings := { context := { name := "shop" } } } : Loader).load [] =
      .ok { context := { name := "shop" } } := rfl
  have differs : Layer.layered [] .level shopInDevelopment (SettingField.standard .level) ≠
      SettingField.standard .level := by
    rw [earlier]
    decide
  exact (loaded_value_of_last_layer shopInDevelopment_applied loaded .level).2.mpr
    ⟨rfl, ⟨_, rfl, unset⟩, differs⟩

end Loader

end RequestPipeline
