import ChatMarkup.Tree.Basic

/-!
# Values from trees

The value that denotes a tree: for every node an object with its tag first, then its fields in a
fixed order, then the members it carries along, save those that a field has the name of. Optional
fields that are absent are left out.
-/
namespace ChatMarkup.Node

/-- The fields of a node with the members that it carries along. -/
def withMembers (fields carried : Members) : Members :=
  carried.foldl (fun fs m => if fs.has m.1 then fs else fs ++ [m]) fields

def optionalField (key : String) : Option String → Members
  | none => []
  | some s => [(key, .text s)]

def leafFields : Leaf → Members
  | .text value => [("type", .text "text"), ("value", .text value)]
  | .code value => [("type", .text "inlineCode"), ("value", .text value)]
  | .codeBlock value lang info =>
    [("type", .text "code"), ("value", .text value)] ++ optionalField "lang" lang ++
      optionalField "meta" info
  | .image url alt title =>
    [("type", .text "image"), ("url", .text url)] ++ optionalField "alt" alt ++
      optionalField "title" title
  | .lineBreak => [("type", .text "break")]
  | .thematicBreak => [("type", .text "thematicBreak")]

/-- The tag and fields of a container, around the value of its children. -/
def containerFields (children : Value) : Container → Members
  | .document => [("type", .text "root"), ("children", children)]
  | .heading depth =>
    [("type", .text "heading"), ("depth", depth.toValue), ("children", children)]
  | .paragraph => [("type", .text "paragraph"), ("children", children)]
  | .blockQuote => [("type", .text "blockquote"), ("children", children)]
  | .list ordered start spread =>
    [("type", .text "list"), ("ordered", .bool ordered)] ++
      (match start with
        | some c => [("start", c.toValue)]
        | none => []) ++
      [("spread", .bool spread), ("children", children)]
  | .listItem checked =>
    [("type", .text "listItem"), ("children", children)] ++
      (match checked with
        | some b => [("checked", .bool b)]
        | none => [])
  | .tableRow => [("type", .text "tableRow"), ("children", children)]
  | .tableCell => [("type", .text "tableCell"), ("children", children)]
  | .emphasis => [("type", .text "emphasis"), ("children", children)]
  | .strong => [("type", .text "strong"), ("children", children)]
  | .strikethrough => [("type", .text "delete"), ("children", children)]
  | .link url title =>
    [("type", .text "link"), ("url", .text url)] ++ optionalField "title" title ++
      [("children", children)]

mutual

def dump : Node → Value
  | .leaf kind m => .object (withMembers (leafFields kind) m)
  | .container kind cs m => .object (withMembers (containerFields (.list (dumpList cs)) kind) m)
  | .table body header rows align m =>
    let aligned : Members := if align.isEmpty then [] else [("align", .list align)]
    let content : Members := match header, rows with
      | none, [] => [("children", .list (dumpList body))]
      | header, rows =>
        [("header", .list (dumpOption header)), ("rows", .list (dumpList rows))]
    .object (withMembers ([("type", .text "table")] ++ aligned ++ content) m)
  | .unknown name value cs m =>
    let content : Members := match cs with
      | [] => []
      | cs => [("children", .list (dumpList cs))]
    .object (withMembers
      ([("type", .text name)] ++ optionalField "value" value ++ content) m)

def dumpList : List Node → List Value
  | [] => []
  | n :: ns => dump n :: dumpList ns

def dumpOption : Option Node → List Value
  | none => []
  | some n => [dump n]

end

end ChatMarkup.Node
