import ChatMarkup.Data.Literal
import ChatMarkup.Failure
import ChatMarkup.Text.Lines
import ChatMarkup.Text.Search
import ChatMarkup.Text.Utf8

/-!
# Files

Files stand in a tree of folders, one of which is the working folder. A path leads there from the
working folder or from the root; every part but the last one must be a folder. Text files are UTF-8
throughout, and however their lines end, they are read with line feeds.
-/
namespace ChatMarkup

structure FilePath where
  isAbsolute : Bool
  parts : List String
deriving DecidableEq, Repr

namespace FilePath

/-- The path that a text denotes; empty parts and single dots lead nowhere. -/
def ofText (s : String) : FilePath :=
  let parts := (Text.splitAt '/' s.toList).map String.ofList
  { isAbsolute := s.toList.head? == some '/'
    parts := parts.filter fun part => !part.isEmpty && part != "." }

def text (p : FilePath) : String :=
  let joined := "/".intercalate p.parts
  if p.isAbsolute then "/" ++ joined else if p.parts.isEmpty then "." else joined

def name (p : FilePath) : String := p.parts.getLast?.getD ""

/-- The ending of a name from its last dot on, if something stands before and behind the dot. -/
def endingOf (name : String) : String :=
  match Text.lastIndex? '.' name.toList with
  | some i =>
    if 0 < i && i + 1 < name.length then String.ofList (name.toList.drop i) else ""
  | none => ""

end FilePath

inductive FileEntry where
  | file (content : List UInt8)
  | folder
deriving DecidableEq, Repr

/-- A tree of files, with what is written before the names of those in its root, and the working
folder. Folders that something stands in need no entry. -/
structure FileTree where
  root : String
  entries : List (List String × FileEntry)
  working : List String

inductive Located where
  | file (place : List String) (content : List UInt8)
  | folder (place : List String)
  /-- Nothing stands there, but the folder for it does. -/
  | vacant (place : List String)
  /-- A folder on the way is missing. -/
  | noFolder
  /-- A file stands where a folder should be. -/
  | throughFile
deriving DecidableEq, Repr

inductive FileProblem where
  | missing
  | isFolder
  | notFolder
deriving DecidableEq, Repr

def FileProblem.message (problem : FileProblem) (path : String) : String :=
  let text := match problem with
    | .missing => "[Errno 2] No such file or directory"
    | .isFolder => "[Errno 21] Is a directory"
    | .notFolder => "[Errno 20] Not a directory"
  s!"{text}: {Value.quoted path}"

def FileProblem.toFailure (problem : FileProblem) (path : String) : Failure :=
  .plain .file (problem.message path)

namespace Located

def content : Located → Except FileProblem (List UInt8)
  | .file _ content => .ok content
  | .folder _ => .error .isFolder
  | .vacant _ => .error .missing
  | .noFolder => .error .missing
  | .throughFile => .error .notFolder

/-- The place where a path lets a file be written. -/
def writable : Located → Except FileProblem (List String)
  | .file place _ => .ok place
  | .vacant place => .ok place
  | .folder _ => .error .isFolder
  | .noFolder => .error .missing
  | .throughFile => .error .notFolder

end Located

namespace FileTree

def at? (t : FileTree) (place : List String) : Option FileEntry :=
  match t.entries.lookup place with
  | some entry => some entry
  | none =>
    if place.isEmpty || t.entries.any fun e => place.isPrefixOf e.1 then some .folder else none

def walk (t : FileTree) (folder : List String) : List String → Located
  | [] => .folder folder
  | part :: rest =>
    if part == ".." then walk t folder.dropLast rest
    else
      let place := folder ++ [part]
      match t.at? place with
      | none => if rest.isEmpty then .vacant place else .noFolder
      | some (.file content) => if rest.isEmpty then .file place content else .throughFile
      | some .folder => walk t place rest

/-- Where a path leads. A tree that is only a part of all files holds nothing that a path from the
root of those leads to. -/
def locate (t : FileTree) (p : FilePath) : Located :=
  if !p.isAbsolute then
    match t.at? t.working with
    | some .folder => t.walk t.working p.parts
    | _ => .noFolder
  else if t.root.isEmpty then t.walk [] p.parts
  else .noFolder

/-- The place that parts of a path lead to by their names alone. -/
def placeFrom (folder : List String) : List String → List String
  | [] => folder
  | part :: rest =>
    if part == ".." then placeFrom folder.dropLast rest else placeFrom (folder ++ [part]) rest

/-- The place that a path leads to by its parts alone, whatever stands on the way. -/
def place (t : FileTree) (p : FilePath) : List String :=
  placeFrom (if p.isAbsolute then [] else t.working) p.parts

def shown (t : FileTree) (place : List String) : String :=
  if place.isEmpty && t.root.isEmpty then "/"
  else t.root ++ String.join (place.map ("/" ++ ·))

/-- Where a path leads if each part that goes up just takes away the one before it, and the written
form of that path from the root. -/
def direct (t : FileTree) (p : FilePath) : String × Located :=
  let place := t.place p
  if p.isAbsolute && !t.root.isEmpty then (FilePath.text ⟨true, place⟩, .noFolder)
  else (t.shown place, t.walk [] place)

def put (t : FileTree) (place : List String) (content : List UInt8) : FileTree :=
  if t.entries.any fun e => e.1 == place then
    { t with
      entries := t.entries.map fun e => if e.1 == place then (place, .file content) else e }
  else { t with entries := t.entries ++ [(place, .file content)] }

def append (t : FileTree) (place : List String) (text : String) : FileTree :=
  let before := match t.at? place with
    | some (.file content) => content
    | _ => []
  t.put place (before ++ Text.encodeUtf8 text.toList)

end FileTree

/-- The failure of bytes that are no text. -/
def undecodable (fault : Text.Utf8Fault) : Failure := .plain .badDecoding fault.message

def decodedBytes (content : List UInt8) : Except Failure (List Char) :=
  (Text.decodeStrict content).mapError undecodable

def textOfFile (content : List UInt8) : Except Failure (List Char) :=
  (decodedBytes content).map Text.normalizeLineFeeds

end ChatMarkup
