import ChatMarkup.Data.Json.Printer
import ChatMarkup.Data.Yaml.Scalar

/-!
# Nodes of YAML

A node is a value with what matters of how it was written: a scalar may be given another type by a
tag, and a plain scalar of two less-than signs as a key takes over the members of its value.
-/
namespace ChatMarkup.Yaml

/-- A value as it stands in a document. The text is that of a scalar. -/
structure Node where
  value : Value
  text : Option (List Char) := none
  isPlain : Bool := false

namespace Node

def empty : Node := { value := .null, text := some [], isPlain := true }

def quoted (s : List Char) : Node := { value := .text (String.ofList s), text := some s }

/-- A scalar without quotation marks; the tag may still decide what it is. -/
def plain (s : List Char) : Node :=
  { value := (plainValue? s).getD (.text (String.ofList s)), text := some s, isPlain := true }

def isResolved (node : Node) : Bool := !(node.isPlain && node.text == some ['='])

/-- The node as a key says that the members of its value are meant. -/
def merges (node : Node) : Bool := node.isPlain && node.text == some ['<', '<']

/-- The name for a node as a key; lists and mappings are no keys. -/
def key? (node : Node) : Option String :=
  match node.value with
  | .text s => some s
  | .list _ => none
  | .object _ => none
  | v => some (Json.form v)

/-- The members that a value gives to the mapping that takes them over. Of several mappings the
first ones win. -/
def merged? (value : Value) : Option Members :=
  match value with
  | .object ms => some ms
  | .list items =>
    (items.reverse.mapM fun (item : Value) =>
      match item with
      | .object ms => some ms
      | _ => none).map List.flatten
  | _ => none

/-- A mapping with these keys and values; what is taken over comes first, so that the mapping's own
members win. -/
def mapping? (pairs : List (Node × Node)) : Option Node := do
  let (merging, own) := pairs.partition fun p => p.1.merges
  let taken ← merging.mapM fun p => merged? p.2.value
  let members ← own.mapM fun p => p.1.key?.map fun key => (key, p.2.value)
  return { value := Value.object (Members.ofPairs (taken.flatten ++ members)) }

/-- A node of the type that a tag names, if it can be one. -/
def tagged? (tag : String) (node : Node) : Option Node :=
  match node.text with
  | none =>
    match tag, node.value with
    | "!!map", .object _ => some node
    | "!!seq", .list _ => some node
    | "!", _ => some node
    | _, _ => none
  | some s =>
    let typed (p : Value → Bool) : Option Node :=
      ((plainValue? s).filter p).map fun value => { node with value, isPlain := false }
    match tag with
    | "!" => some (quoted s)
    | "!!str" => some (quoted s)
    | "!!null" => some { node with value := .null, isPlain := false }
    | "!!bool" => typed fun v => match v with | .bool _ => true | _ => false
    | "!!int" => typed fun v => match v with | .int _ => true | _ => false
    | "!!float" =>
      match plainValue? s with
      | some (.int n) => some { node with value := .float (.ofInt n), isPlain := false }
      | some (.float x) => some { node with value := .float x, isPlain := false }
      | _ => none
    | _ => none

end Node

end ChatMarkup.Yaml
