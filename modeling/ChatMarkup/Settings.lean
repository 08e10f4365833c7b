import ChatMarkup.Number.Integer
import ChatMarkup.Options.Message

/-!
# Settings

Settings come from a configuration, from variables and from flags. Each has a kind, and what a
configuration or a variable gives is turned into a value of that kind or refused. Of several
layers the later ones win. What is no setting at all is ignored.
-/
namespace ChatMarkup

inductive SettingKind where
  | flag
  | number
  | text
deriving DecidableEq, Repr

namespace SettingKind

def name : SettingKind → String
  | .flag => "bool"
  | .number => "int"
  | .text => "str"

end SettingKind

namespace Settings

/-- All settings with their kinds: first those that are options, then those of a run. -/
def known : List (String × SettingKind) :=
  [("strategy", .text), ("char_limit", .number), ("clean_escapes", .flag), ("text_field", .text),
   ("output_field", .text), ("validate_tree", .flag), ("table_mode", .text),
   ("include_table_headers", .flag), ("parse_tables", .flag), ("parse_strikethrough", .flag),
   ("merge_text", .flag), ("format", .text), ("input_format", .text), ("continue_on_fail", .flag),
   ("rich", .flag), ("strict_mode", .flag)]

/-- The sections of a configuration whose settings count as if they stood outside; later ones win,
and what stands outside wins over all. -/
def sections : List String := ["renderer", "parser"]

/-- A configuration without its sections: their settings come first, then those outside. -/
def flatten (config : Members) : Members :=
  let inner := sections.flatMap fun name =>
    match config.get? name with
    | some (.object ms) => ms
    | _ => []
  Members.setAll (Members.ofPairs inner) (config.filter fun m => !sections.contains m.1)

inductive SettingError where
  | notFlag (name : String) (given : Value)
  | notNumber (name : String) (given : Value)
  | infinite
  | longNumber
deriving Repr

def SettingError.toFailure : SettingError → Failure
  | .notFlag name given =>
    .plain .setting s!"Setting '{name}' must be a boolean, got {given.literal}"
  | .notNumber name given =>
    .plain .setting s!"Setting '{name}' must be an integer, got {given.literal}"
  | .infinite => .plain .overflow "cannot convert float infinity to integer"
  | .longNumber => .plain .badValue Number.longMessage

def yesWords : List String := ["1", "true", "yes", "on"]

def noWords : List String := ["0", "false", "no", "off"]

/-- The written form of a value, unless a number in it is too long to be written. -/
def textOf (given : Value) : Except SettingError String :=
  if given.hasLongNumber then .error .longNumber else .ok given.plain

/-- The flag that a value gives: itself, or what its word says. -/
def flagOf (name : String) (given : Value) : Except SettingError Value :=
  match given with
  | .bool b => .ok (.bool b)
  | v => do
    let written ← textOf v
    let word := String.ofList ((Text.trim written.toList).map Char.toLower)
    if yesWords.contains word then pure (.bool true)
    else if noWords.contains word then pure (.bool false)
    else throw (.notFlag name v)

/-- The number that a value gives: a number cut to a whole one, or what a text says. A refusal names
the value, so that it must be one that can be written. -/
def numberOf (name : String) (given : Value) : Except SettingError Value :=
  match given with
  | .int n => .ok (.int n)
  | .float x =>
    match x.truncate? with
    | some n => .ok (.int n)
    | none => .error (if x.isInfinite then .infinite else .notNumber name given)
  | .text s =>
    match Number.integer? s.toList with
    | some n => .ok (.int n)
    | none => .error (.notNumber name given)
  | v => .error (if v.hasLongNumber then .longNumber else .notNumber name v)

def coerce (name : String) (kind : SettingKind) (given : Value) : Except SettingError Value :=
  match kind with
  | .flag => flagOf name given
  | .number => numberOf name given
  | .text => (textOf given).map Value.text

/-- The name of a setting, where hyphens count as underscores. -/
def settingName (name : String) : String :=
  String.ofList (name.toList.map fun c => if c == '-' then '_' else c)

/-- The settings of a flat configuration, each turned into a value of its kind. -/
def validate (flat : Members) : Except SettingError Members :=
  flat.foldlM
    (fun settings (name, given) =>
      let key := settingName name
      match known.lookup key with
      | none => .ok settings
      | some kind => (coerce key kind given).map fun v => Members.set settings key v)
    []

/-- The names in a flat configuration that are no settings, up to the first setting that is
refused. -/
def ignoredNames : Members → List String
  | [] => []
  | (name, given) :: rest =>
    let key := settingName name
    match known.lookup key with
    | none => name :: ignoredNames rest
    | some kind => if (coerce key kind given).isOk then ignoredNames rest else []

/-- The start of the names of variables that give settings. -/
def variableStart : String := "MD2TGHTML_"

def variableName (setting : String) : String :=
  variableStart ++ String.ofList (setting.toList.map Char.toUpper)

def ofVariables (environment : List (String × String)) : Except SettingError Members :=
  known.foldlM
    (fun settings (name, kind) =>
      match environment.lookup (variableName name) with
      | none => .ok settings
      | some given =>
        (coerce name kind (.text given)).map fun v => Members.set settings name v)
    []

def merge (base override : Members) : Members := Members.setAll base override

def options (settings : Members) : Except OptionError MessageOptions := do
  let pick (names : List String) : Members := settings.filter fun m => names.contains m.1
  let renderer ← RenderOptions.update {} (pick RenderOptions.names)
  let parser ← Markdown.Options.update {} (pick Markdown.Options.names)
  MessageOptions.update { renderer, parser } (pick MessageOptions.plainNames)

def flag (settings : Members) (name : String) (unset : Bool) : Bool :=
  ((settings.get? name).map Value.isGiven).getD unset

def text (settings : Members) (name unset : String) : String :=
  ((settings.get? name).map Value.plain).getD unset

end Settings

end ChatMarkup
