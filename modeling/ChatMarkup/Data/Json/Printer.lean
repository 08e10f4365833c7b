import ChatMarkup.Data.Literal

/-!
# Writing JSON

On one line, items are separated by a comma and a space. With an indent, each item has a line of
its own. Empty lists and objects are written without anything between their brackets. Characters
outside ASCII stand for themselves; only quotes, backslashes and controls are escaped. A value with
a number of too many digits is not written.
-/
namespace ChatMarkup.Json
open Text

def escapedChar : Char → List Char
  | '"' => ['\\', '"']
  | '\\' => ['\\', '\\']
  | '\n' => ['\\', 'n']
  | '\r' => ['\\', 'r']
  | '\t' => ['\\', 't']
  | c =>
    if c.toNat == 8 then ['\\', 'b']
    else if c.toNat == 12 then ['\\', 'f']
    else if c.toNat < 32 then ['\\', 'u'] ++ (hexText 4 c.toNat).toList
    else [c]

def quote (s : String) : String :=
  String.ofList ('"' :: s.toList.flatMap escapedChar ++ ['"'])

/-- The layout of nested items: all on one line, or a line each, indented by a number of spaces
per level. -/
structure Layout where
  indent : Option Nat := none
deriving DecidableEq, Repr

/-- Items between brackets, at a level of nesting. -/
def Layout.enclose (layout : Layout) (level : Nat) (opener closer : String)
    (items : List String) : String :=
  if items.isEmpty then opener ++ closer
  else match layout.indent with
    | none => opener ++ ", ".intercalate items ++ closer
    | some width =>
      let line (n : Nat) := "\n" ++ String.ofList (List.replicate (width * n) ' ')
      opener ++ line (level + 1) ++ ("," ++ line (level + 1)).intercalate items ++ line level ++
        closer

mutual

def printAt (layout : Layout) (level : Nat) : Value → String
  | .null => "null"
  | .bool b => if b then "true" else "false"
  | .int n => toString n
  | .float x => x.toText "Infinity" "NaN"
  | .text s => quote s
  | .list items => layout.enclose level "[" "]" (printItems layout (level + 1) items)
  | .object members =>
    layout.enclose level "\x7b" "\x7d" (printMembers layout (level + 1) members)

def printItems (layout : Layout) (level : Nat) : List Value → List String
  | [] => []
  | v :: rest => printAt layout level v :: printItems layout level rest

def printMembers (layout : Layout) (level : Nat) : List (String × Value) → List String
  | [] => []
  | (k, v) :: rest => (quote k ++ ": " ++ printAt layout level v) :: printMembers layout level rest

end

/-- The JSON text of a value, however long its numbers are. -/
def form (v : Value) (indent : Option Nat := none) : String := printAt { indent } 0 v

/-- The JSON text of a value, if all its numbers can be written. -/
def print? (v : Value) (indent : Option Nat := none) : Option String :=
  if v.hasLongNumber then none else some (form v indent)

end ChatMarkup.Json
