import ChatMarkup.Data.Literal
import ChatMarkup.Failure
import ChatMarkup.Render.Context
import ChatMarkup.Text.Blank

/-!
# Naming options

Options are given by name. A name that options do not have is refused before any value is looked
at. The way to show tables has several names, and one of them also says whether headers are shown.
-/
namespace ChatMarkup

inductive OptionError where
  | unknownName (name : String)
  | tableMode (given : Value)
  | strategy (given : Value)
  | limitKind (kind : String)
  | limitTooSmall (limit : Int)
  | emptyField (name : String)
deriving Repr

namespace TableMode

/-- The names of the ways to show tables, sorted; each with what it says about headers. -/
def aliases : List (String × TableMode × Option Bool) :=
  [("codeBlock", .codeBlock, none), ("code_block", .codeBlock, none),
   ("compactList", .compactList, none), ("compact_list", .compactList, none),
   ("detailedList", .detailedList, none), ("detailedListNoHeaders", .detailedList, some false),
   ("detailed_list", .detailedList, none), ("detailed_list_no_headers", .detailedList, some false)]

def name : TableMode → String
  | .codeBlock => "code_block"
  | .compactList => "compact_list"
  | .detailedList => "detailed_list"

/-- The way to show tables with that name in answers; any other name counts as the most detailed. -/
def ofOwnName (name : String) : TableMode :=
  if name == TableMode.codeBlock.name then .codeBlock
  else if name == TableMode.compactList.name then .compactList
  else .detailedList

/-- The way to show tables that a value names; hyphens count as underscores. -/
def ofName (given : Value) : Except OptionError (TableMode × Option Bool) :=
  let key := (Text.trim given.plain.toList).map fun c => if c == '-' then '_' else c
  match aliases.lookup (String.ofList key) with
  | some found => .ok found
  | none => .error (.tableMode given)

end TableMode

namespace OptionError

def message : OptionError → String
  | .unknownName name => s!"unexpected keyword argument {Value.quoted name}"
  | .tableMode given =>
    s!"Unknown table mode '{given.plain}'. Choose from: " ++
      ", ".intercalate (TableMode.aliases.map (·.1))
  | .strategy given => s!"strategy must be 'truncate' or 'split', got {given.literal}"
  | .limitKind kind => s!"char_limit must be an integer, got {kind}"
  | .limitTooSmall limit =>
    if Number.isLong limit then Number.longMessage
    else s!"char_limit must be at least 1, got {limit}"
  | .emptyField name => s!"{name} must be a non-empty string"

def toFailure (e : OptionError) : Failure :=
  match e with
  | .unknownName _ => .plain .badType e.message
  | _ => .plain .badValue e.message

end OptionError

/-- Refuses members that are not among the names of options. -/
def checkNames (names : List String) (given : Members) : Except OptionError Unit :=
  match given.find? fun m => !names.contains m.1 with
  | some m => .error (.unknownName m.1)
  | none => .ok ()

def chosen (given : Members) (name : String) (current : Bool) : Bool :=
  ((given.get? name).map Value.isGiven).getD current

def Members.partitionNames (given : Members) (names : List String) : Members × Members :=
  given.partition fun m => names.contains m.1

end ChatMarkup
