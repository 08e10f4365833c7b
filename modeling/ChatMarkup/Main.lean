import ChatMarkup.Cli.Run
import ChatMarkup.Cli.Usage

/-!
# The command

Reads the arguments, the variables and the files that a run can touch, runs, and writes what has
changed.
-/
namespace ChatMarkup.Cli

def misuseStatus : UInt32 := 2

def variableNames : List String :=
  Configuration.pathVariable :: Settings.known.map fun s => Settings.variableName s.1

/-- The paths that a run can touch, besides the configurations that it may find. -/
def namedPaths (a : Arguments) (environment : List (String × String)) : List String :=
  [a.input] ++ a.out.toList ++ a.configuration.toList ++ a.logFile.toList ++
    (environment.lookup Configuration.pathVariable).toList

/-- The configurations that a run may find in a folder and those that it stands in. -/
def searchedPlaces (folder : List String) : List (List String) :=
  (Configuration.upwards folder).flatMap fun place =>
    (Configuration.fileNames ++ [Configuration.projectFile]).map fun name => place ++ [name]

/-- All places on the way to a place, and that place. -/
def onTheWay (place : List String) : List (List String) :=
  ((List.range (place.length + 1)).drop 1).map place.take

/-- The places that parts of a path pass on their way from a folder. -/
def passed (folder : List String) : List String → List (List String)
  | [] => []
  | part :: rest =>
    let next := if part == ".." then folder.dropLast else folder ++ [part]
    next :: passed next rest

/-- All places that a run can look at. -/
def places (working : List String) (paths : List String) : List (List String) :=
  let ofPath (path : String) : List (List String) :=
    let p := FilePath.ofText path
    passed (if p.isAbsolute then [] else working) p.parts
  (onTheWay working ++ paths.flatMap ofPath ++ searchedPlaces working).eraseDups

def placeText (place : List String) : String := "/" ++ "/".intercalate place

def entryAt (place : List String) : IO (Option FileEntry) := do
  try
    let content ← IO.FS.readBinFile (placeText place)
    return some (.file content.toList)
  catch _ =>
    try
      let _ ← IO.FS.realPath (placeText place)
      return some .folder
    catch _ => return none

/-- The files that a run can touch. -/
def snapshot (paths : List String) : IO FileTree := do
  let folder ← IO.currentDir
  let working := (FilePath.ofText folder.toString).parts
  let mut entries := []
  for place in places working paths do
    if let some entry ← entryAt place then
      entries := entries ++ [(place, entry)]
  return { root := "", entries, working }

def writeChanges (before after : FileTree) : IO Unit := do
  for (place, entry) in after.entries do
    if before.entries.lookup place != some entry then
      if let .file content := entry then
        IO.FS.writeBinFile (placeText place) ⟨content.toArray⟩

def variablesSet : IO (List (String × String)) := do
  let mut found := []
  for name in variableNames do
    if let some given ← IO.getEnv name then
      found := found ++ [(name, given)]
  return found

/-- All that the input holds. -/
partial def readAll (input : IO.FS.Stream) (lines : List String) : IO String := do
  let line ← input.getLine
  if line.isEmpty then return String.join lines.reverse
  readAll input (line :: lines)

def start (a : Arguments) : IO UInt32 := do
  let environment ← variablesSet
  let before ← snapshot (namedPaths a environment)
  let input ← if a.input == "-" then readAll (← IO.getStdin) [] else pure ""
  match run before environment input a with
  | .error failure =>
    (← IO.getStderr).putStrLn failure.report
    return 1
  | .ok outcome =>
    writeChanges before outcome.files
    (← IO.getStderr).putStr outcome.errors
    (← IO.getStdout).putStr outcome.output
    return outcome.status.toUInt32

/-- Runs the command with its arguments, or says what else has come of them. -/
def answer (args : List String) : IO UInt32 := do
  match argumentsOf args with
  | .ok a => start a
  | .error .help =>
    (← IO.getStdout).putStr helpText
    return 0
  | .error .version =>
    (← IO.getStdout).putStr versionText
    return 0
  | .error .misused =>
    (← IO.getStderr).putStr usageText
    return misuseStatus

end ChatMarkup.Cli

def main (args : List String) : IO UInt32 := ChatMarkup.Cli.answer args
