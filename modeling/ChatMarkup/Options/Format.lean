import ChatMarkup.Markdown.Document
import ChatMarkup.Options.TableMode
import ChatMarkup.Tree.Load

/-!
# Options of reading and rendering

How Markdown and document trees are read, and how a document is rendered. All options have
defaults, are given by name and can be changed later.
-/
namespace ChatMarkup

structure RenderOptions where
  validateTree : Bool := true
  tableMode : TableMode := .codeBlock
  includeTableHeaders : Bool := true
deriving DecidableEq, Repr

namespace RenderOptions

def names : List String := ["validate_tree", "table_mode", "include_table_headers"]

/-- The options with some of them given anew. A name for a way to show tables may settle whether
headers are shown. -/
def update (o : RenderOptions) (given : Members) : Except OptionError RenderOptions := do
  checkNames names given
  let (mode, headers) ← match given.get? "table_mode" with
    | some v => TableMode.ofName v
    | none => pure (o.tableMode, none)
  pure
    { validateTree := chosen given "validate_tree" o.validateTree
      tableMode := mode
      includeTableHeaders :=
        headers.getD (chosen given "include_table_headers" o.includeTableHeaders) }

def toMembers (o : RenderOptions) : Members :=
  [("validate_tree", .bool o.validateTree), ("table_mode", .text o.tableMode.name),
   ("include_table_headers", .bool o.includeTableHeaders)]

def context (o : RenderOptions) : RenderContext :=
  { tableMode := o.tableMode, includeTableHeaders := o.includeTableHeaders }

end RenderOptions

namespace Markdown.Options

def names : List String := ["parse_tables", "parse_strikethrough", "merge_text"]

/-- The options with some of them given anew. -/
def update (o : Options) (given : Members) : Except OptionError Options := do
  checkNames names given
  pure
    { parseTables := chosen given "parse_tables" o.parseTables
      parseStrikethrough := chosen given "parse_strikethrough" o.parseStrikethrough
      mergeText := chosen given "merge_text" o.mergeText }

def toMembers (o : Options) : Members :=
  [("parse_tables", .bool o.parseTables), ("parse_strikethrough", .bool o.parseStrikethrough),
   ("merge_text", .bool o.mergeText)]

end Markdown.Options

structure TreeOptions where
  strictMode : Bool := true
deriving DecidableEq, Repr

namespace TreeOptions

def names : List String := ["strict_mode"]

/-- The options with some of them given anew. -/
def update (o : TreeOptions) (given : Members) : Except OptionError TreeOptions := do
  checkNames names given
  pure { strictMode := chosen given "strict_mode" o.strictMode }

def toMembers (o : TreeOptions) : Members := [("strict_mode", .bool o.strictMode)]

def loadMode (o : TreeOptions) : Node.LoadMode := if o.strictMode then .strict else .lenient

end TreeOptions

end ChatMarkup
