import ChatMarkup.Cli.Arguments
import ChatMarkup.Output
import ChatMarkup.Records
import ChatMarkup.Settings.Configuration
import ChatMarkup.Tree.Document

/-!
# A run of the command

A run reads its settings, then its input, converts it and writes the result. It works on a tree of
files and gives the tree as it is afterwards, with what has been written to the two outputs. Log
entries from a level on go to the output for errors, and to a file if one is named.
-/
namespace ChatMarkup.Cli

structure Session where
  files : FileTree
  output : String := ""
  errors : String := ""
  threshold : Nat := Log.Level.warning.rank
  logPlace : Option (List String) := none

/-- How a run ends before its time: with a status, or with a failure that nobody expects. -/
inductive Stop where
  | exit (status : Nat)
  | failure (cause : Failure)

abbrev Run := ExceptT Stop (StateM Session)

/-- The session with one more log entry, if its level is high enough. -/
def Session.log (s : Session) (entry : Log.Entry) : Session :=
  if entry.level.rank < s.threshold then s
  else
    let s := { s with errors := s.errors ++ entry.line }
    match s.logPlace with
    | some place => { s with files := s.files.append place entry.line }
    | none => s

def log (level : Log.Level) (text : String) : Run Unit := modify fun s => s.log ⟨level, text⟩

def stop {α : Type} (status : Nat) (message : String) : Run α := do
  modify fun s => { s with errors := s.errors ++ s!"Error: {message}\n" }
  throw (.exit status)

/-- A result, or the end of the run with the status of its failure. -/
def expect {α : Type} (r : Except Failure α) : Run α :=
  match r with
  | .ok a => return a
  | .error failure => stop failure.exitStatus failure.report

/-- A result about settings. Refused settings and texts that cannot be read end the run as such;
other failures are not expected. -/
def expectSettings {α : Type} (r : Except Failure α) : Run α :=
  match r with
  | .ok a => return a
  | .error failure =>
    match failure.kind with
    | .setting => stop (Failure.kindStatus .setting) failure.report
    | .badValue => stop (Failure.kindStatus .setting) failure.report
    | .badDecoding => stop (Failure.kindStatus .setting) failure.report
    | _ => throw (.failure failure)

def Arguments.threshold (a : Arguments) : Log.Level :=
  if a.trace || (a.verbose && a.logLevel == .warning) then .debug else a.logLevel

def beginLog (a : Arguments) : Run Unit := do
  modify fun s => { s with threshold := a.threshold.rank }
  match a.logFile.filter fun path => !path.isEmpty with
  | none => return
  | some path =>
    let (shown, located) := (← get).files.direct (FilePath.ofText path)
    match located.writable with
    | .ok place =>
      modify fun s => { s with files := s.files.append place "", logPlace := some place }
      log .info s!"Logging to file: {path}"
    | .error problem =>
      log .warning s!"Could not create log file {path}: {problem.message shown}"

/-- The settings of a run: those of its configuration, of variables and of its arguments. -/
def readSettings (a : Arguments) (environment : List (String × String)) : Run Members := do
  let flat ← expectSettings (Configuration.chosen (← get).files a.configuration environment)
  for name in Settings.ignoredNames flat do
    log .warning s!"Ignoring unknown configuration setting '{name}'"
  let settings ← expectSettings (Configuration.settings flat environment)
  return Settings.merge settings a.settings

def readInput (a : Arguments) (standard : String) : Run String := do
  if a.input == "-" then return standard
  let path := FilePath.ofText a.input
  match ((← get).files.locate path).content with
  | .error problem =>
    stop (Failure.kindStatus .file) s!"Cannot read input {a.input}: {problem.message path.text}"
  | .ok content =>
    match textOfFile content with
    | .ok text => return String.ofList text
    | .error failure => throw (.failure failure)

/-- Writes the result to the file that the arguments name, or to the output. -/
def writeOutput (a : Arguments) (content : String) : Run Unit := do
  match a.out.filter fun path => !path.isEmpty with
  | none => modify fun s => { s with output := s.output ++ content }
  | some out =>
    let path := FilePath.ofText out
    match ((← get).files.locate path).writable with
    | .error problem => expect (.error (problem.toFailure path.text))
    | .ok place =>
      modify fun s => { s with files := s.files.put place (Text.encodeUtf8 content.toList) }
      log .info s!"Wrote output to {out}"

/-- The failure of a line that is not read. Only one that is no JSON is named by its number. -/
def badLine (number : Nat) (line : List Char) (e : Json.ReadError) : Failure :=
  let reason := e.message line
  match e with
  | .malformed .. => .plain (.parsing (some "jsonl")) s!"Invalid JSON on line {number}: {reason}"
  | .longNumber _ => .plain .badValue reason

/-- The values in a text that holds one on each line; blank lines do not count. -/
def valuesOfLines (text : String) : Except Failure (List Value) := do
  let lines := ((Text.lines text.toList).zipIdx 1).filter fun l => !(Text.trim l.1).isEmpty
  lines.mapM fun (line, number) =>
    (Json.read (String.ofList line)).mapError (badLine number line)

/-- Converts an input of records, one on each line. -/
def convertLines (options : MessageOptions) (settings : Members) (text : String) :
    Run String := do
  let records ← expect (valuesOfLines text)
  let keep := Settings.flag settings "continue_on_fail" false
  if keep then
    for (index, _, outcome) in recordOutcomes Markdown.reader options records do
      if let .error failure := outcome then
        log .warning s!"Record {index} failed: {failure.report}"
  let copies ← expect (convertRecords Markdown.reader options keep records)
  expect (writtenRecords (copies.map .object))

def convertDocument (options : MessageOptions) (settings : Members) (text : String) :
    Run String := do
  let format := OutputFormat.ofName (Settings.text settings "format" "text")
  if Settings.text settings "input_format" "markdown" == "mdast" then
    let o : TreeOptions := { strictMode := Settings.flag settings "strict_mode" true }
    for warning in Node.textWarnings o text do
      log .warning warning.message
    let document ← expect (Node.documentOfJson o text)
    let markup ← expect (Render.documentMarkup options.renderer document)
    return writtenMessages format (fit options.charLimit.value options.strategy markup)
  else
    return writtenMessages format (← expect (messages Markdown.reader (.text text) options []))

def conduct (a : Arguments) (environment : List (String × String)) (standard : String) :
    Run Unit := do
  beginLog a
  let settings ← readSettings a environment
  let options ← expectSettings ((Settings.options settings).mapError OptionError.toFailure)
  let text ← readInput a standard
  let content ←
    if a.records then convertLines options settings text
    else convertDocument options settings text
  writeOutput a content

structure Outcome where
  status : Nat
  output : String
  errors : String
  files : FileTree

/-- Runs the command on files, with variables and an input; a failure that is not expected ends it
without an outcome. -/
def run (files : FileTree) (environment : List (String × String)) (standard : String)
    (a : Arguments) : Except Failure Outcome :=
  let (result, s) := ((conduct a environment standard).run.run { files } : Except Stop Unit × Session)
  let outcome (status : Nat) : Outcome :=
    { status, output := s.output, errors := s.errors, files := s.files }
  match result with
  | .ok () => .ok (outcome 0)
  | .error (.exit status) => .ok (outcome status)
  | .error (.failure cause) => .error cause

end ChatMarkup.Cli
