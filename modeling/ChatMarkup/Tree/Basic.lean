import ChatMarkup.Data.Literal

/-!
# Document trees

A document is a tree of block and inline nodes. Leaves hold text or stand for themselves,
containers hold a row of children, and tables come in two shapes: a row of children, or a header
with further rows. Nodes of an unknown kind are kept as they are, so that newer documents pass
through. Every node also carries the members of its source object that the tree has no field for.
-/
namespace ChatMarkup

/-- A whole number of a data file, where truth values count as numbers too. -/
inductive Count where
  | number (n : Int)
  | flag (b : Bool)
deriving DecidableEq, Repr

namespace Count

/-- The number itself; true counts one. -/
def toInt : Count → Int
  | .number n => n
  | .flag b => if b then 1 else 0

def toValue : Count → Value
  | .number n => .int n
  | .flag b => .bool b

def ofValue? : Value → Option Count
  | .int n => some (.number n)
  | .bool b => some (.flag b)
  | _ => none

theorem ofValue?_toValue (c : Count) : ofValue? c.toValue = some c := by
  cases c <;> rfl

end Count

/-- The rank of a heading. Only whole ranks have a use; others are kept as they came. -/
inductive Depth where
  | count (c : Count)
  | real (x : Double)
deriving DecidableEq, Repr

namespace Depth

def toValue : Depth → Value
  | .count c => c.toValue
  | .real x => .float x

def ofValue? : Value → Option Depth
  | .float x => some (.real x)
  | v => (Count.ofValue? v).map .count

/-- The rank lies between one and six. -/
def inRange : Depth → Bool
  | .count c => 1 ≤ c.toInt && c.toInt ≤ 6
  | .real x =>
    (Double.ofInt 1).le? x == some true && x.le? (Double.ofInt 6) == some true

theorem ofValue?_toValue (d : Depth) : ofValue? d.toValue = some d := by
  cases d with
  | count c => cases c <;> rfl
  | real x => rfl

end Depth

inductive Leaf where
  | text (value : String)
  | code (value : String)
  | codeBlock (value : String) (lang info : Option String)
  | image (url : String) (alt title : Option String)
  | lineBreak
  | thematicBreak
deriving DecidableEq, Repr

inductive Container where
  | document
  | heading (depth : Depth)
  | paragraph
  | blockQuote
  | list (ordered : Bool) (start : Option Count) (spread : Bool)
  | listItem (checked : Option Bool)
  | tableRow
  | tableCell
  | emphasis
  | strong
  | strikethrough
  | link (url : String) (title : Option String)
deriving DecidableEq, Repr

inductive Node where
  | leaf (kind : Leaf) (metadata : List (String × Value))
  | container (kind : Container) (children : List Node) (metadata : List (String × Value))
  | table (body : List Node) (header : Option Node) (rows : List Node) (align : List Value)
      (metadata : List (String × Value))
  | unknown (name : String) (value : Option String) (children : List Node)
      (metadata : List (String × Value))
deriving Repr, Inhabited

def Leaf.kindName : Leaf → String
  | .text _ => "Text"
  | .code _ => "Code"
  | .codeBlock .. => "CodeBlock"
  | .image .. => "Image"
  | .lineBreak => "LineBreak"
  | .thematicBreak => "ThematicBreak"

def Container.kindName : Container → String
  | .document => "Document"
  | .heading _ => "Heading"
  | .paragraph => "Paragraph"
  | .blockQuote => "BlockQuote"
  | .list .. => "List"
  | .listItem _ => "ListItem"
  | .tableRow => "TableRow"
  | .tableCell => "TableCell"
  | .emphasis => "Emphasis"
  | .strong => "Strong"
  | .strikethrough => "Strikethrough"
  | .link .. => "Link"

namespace Node

/-- A text node without further members. -/
def text (value : String) : Node := .leaf (.text value) []

def document (children : List Node) : Node := .container .document children []

def kindName : Node → String
  | .leaf kind _ => kind.kindName
  | .container kind _ _ => kind.kindName
  | .table .. => "Table"
  | .unknown .. => "UnknownNode"

def isDocument : Node → Bool
  | .container .document _ _ => true
  | _ => false

/-- The node as a whole document, which it becomes the only child of unless it is one. -/
def toDocument (n : Node) : Node := if n.isDocument then n else document [n]

end Node

end ChatMarkup
