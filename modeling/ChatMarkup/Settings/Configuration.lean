import ChatMarkup.Data.Json.Reader
import ChatMarkup.Data.Toml.Document
import ChatMarkup.Data.Yaml.Document
import ChatMarkup.Files
import ChatMarkup.Settings

/-!
# Configuration files

A configuration is a file in TOML, YAML or JSON. It is named on the command line or by a variable,
or it is searched for: in the working folder, then in the folder that this one stands in, and so on.
In each folder the files made for the purpose come first, then a project file with a table for this
program.
-/
namespace ChatMarkup.Configuration

def fileNames : List String :=
  [".md2tghtml.toml", ".md2tghtml.yaml", ".md2tghtml.yml", ".md2tghtml.json"]

def projectFile : String := "pyproject.toml"

/-- The name of the table of this program, among the tools of a project file. -/
def toolName : String := "md2tghtml"

/-- The variable that names the configuration. -/
def pathVariable : String := Settings.variableStart ++ "CONFIG"

def smallLetters (s : String) : String := String.ofList (s.toList.map Char.toLower)

def refused (message : String) : Failure := .plain .setting message

/-- The table for this program in a project file; an empty one if there is none. -/
def projectTable (shown : String) (content : List UInt8) : Except Failure Members := do
  let text ← decodedBytes content
  match Toml.read? text with
  | none => throw (refused s!"Invalid TOML in pyproject.toml {shown}: it is no TOML")
  | some root =>
    match root.get? "tool" with
    | none => pure []
    | some (.object tools) =>
      match Members.get? tools toolName with
      | none => pure []
      | some (.object table) => pure table
      | some v =>
        throw (refused
          s!"[tool.{toolName}] section in {shown} must be a table, got {v.kindName}")
    | some v => throw (.plain .noMember s!"'{v.kindName}' object has no attribute 'get'")

/-- The project file in a folder has a table for this program. One that cannot be read is passed
over. -/
def hasProjectTable (t : FileTree) (folder : List String) : Except Failure Bool :=
  let place := folder ++ [projectFile]
  match t.at? place with
  | some (.file content) =>
    match projectTable (t.shown place) content with
    | .ok table => .ok !table.isEmpty
    | .error failure => if failure.kind == .setting then .ok false else .error failure
  | _ => .ok false

def isFile (t : FileTree) (place : List String) : Bool :=
  match t.at? place with
  | some (.file _) => true
  | _ => false

/-- The place of the configuration in a folder. -/
def inFolder? (t : FileTree) (folder : List String) : Except Failure (Option (List String)) :=
  match fileNames.find? fun name => isFile t (folder ++ [name]) with
  | some name => .ok (some (folder ++ [name]))
  | none =>
    (hasProjectTable t folder).map fun found =>
      if found then some (folder ++ [projectFile]) else none

def firstIn? (t : FileTree) : List (List String) → Except Failure (Option (List String))
  | [] => .ok none
  | folder :: rest => do
    match (← inFolder? t folder) with
    | some place => pure (some place)
    | none => firstIn? t rest

/-- A folder and those that it stands in, up to the root. -/
def upwards (folder : List String) : List (List String) :=
  (List.range (folder.length + 1)).reverse.map folder.take

/-- The place of the configuration for a folder. -/
def find? (t : FileTree) (folder : List String) : Except Failure (Option (List String)) :=
  firstIn? t (upwards folder)

def contentOf (shown ending : String) (content : List UInt8) : Except Failure Value :=
  let invalid (reason : String) : Failure :=
    refused s!"Invalid configuration in {shown}: {reason}"
  match ending with
  | ".toml" => do
    match Toml.read? (← decodedBytes content) with
    | some ms => pure (.object ms)
    | none => throw (invalid "it is no TOML")
  | ".json" => do
    let text ← textOfFile content
    match Json.read (String.ofList text) with
    | .ok v => pure v
    | .error e =>
      let reason := e.message text
      throw (match e with
        | .malformed .. => invalid reason
        | .longNumber _ => .plain .badValue reason)
  | ".yaml" => yaml invalid
  | ".yml" => yaml invalid
  | other =>
    throw (refused s!"Unsupported config file format: {other}. Use .toml, .yaml or .json")
where
  yaml (invalid : String → Failure) : Except Failure Value := do
    match Yaml.read? (← textOfFile content) with
    | some v => pure v
    | none => throw (invalid "it is no YAML")

def load (shown name : String) (located : Located) : Except Failure Members :=
  match located with
  | .file _ content => do
    let v ←
      if smallLetters name == projectFile then (projectTable shown content).map Value.object
      else contentOf shown (smallLetters (FilePath.endingOf name)) content
    match v with
    | .null => pure []
    | .object ms => pure (Settings.flatten ms)
    | v =>
      throw (refused
        s!"Config file {shown} must contain a mapping at root level, got {v.kindName}")
  | .folder _ => .error (refused s!"Configuration path is not a file: {shown}")
  | _ => .error (refused s!"Configuration file does not exist: {shown}")

def loadPath (t : FileTree) (path : String) : Except Failure Members :=
  let p := FilePath.ofText path
  load p.text p.name (t.locate p)

/-- The flat configuration that counts: the one named first, then the one that a variable names,
then the one that is found. Empty names do not count. -/
def chosen (t : FileTree) (named : Option String) (environment : List (String × String)) :
    Except Failure Members :=
  let given (s : Option String) : Option String := s.filter fun s => !s.isEmpty
  match (given named).or (given (environment.lookup pathVariable)) with
  | some path => loadPath t path
  | none => do
    match (← find? t t.working) with
    | none => pure []
    | some place =>
      let content := match t.at? place with
        | some (.file content) => content
        | _ => []
      load (t.shown place) (place.getLast?.getD "") (.file place content)

/-- The settings of a flat configuration with those of variables on top. -/
def settings (flat : Members) (environment : List (String × String)) : Except Failure Members := do
  let own ← (Settings.validate flat).mapError Settings.SettingError.toFailure
  let others ← (Settings.ofVariables environment).mapError Settings.SettingError.toFailure
  pure (Settings.merge own others)

end ChatMarkup.Configuration
