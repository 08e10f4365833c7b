import ChatMarkup.Data.Json.Reader
import ChatMarkup.Options.Format
import ChatMarkup.Text.Blank

/-!
# Documents from JSON

A document tree may be handed over as JSON text. The text must hold a value, and the value must be a
tree; a tree that is no whole document becomes the only child of one.
-/
namespace ChatMarkup.Node

def LoadError.toFailure (e : LoadError) : Failure :=
  if e.isStructural then .plain .badValue e.message else .plain .badType e.message

def ofValue (o : TreeOptions) (v : Value) : Except Failure Node :=
  (load o.loadMode v).mapError LoadError.toFailure

/-- The failure of a text that is no tree, for this reason. -/
def invalidTree (reason : String) : Failure :=
  .plain (.parsing (some "ast_deserialization")) s!"Invalid mdast structure: {reason}"

/-- The failure of a text that is not read. One with a number that is too long counts as a tree that
cannot be loaded. -/
def notJson (text : String) (e : Json.ReadError) : Failure :=
  let reason := e.message text.toList
  match e with
  | .malformed .. =>
    .plain (.parsing (some "json_parsing")) s!"Invalid JSON in mdast input: {reason}"
  | .longNumber _ => invalidTree reason

/-- The failure of a document whose tree cannot be loaded. Where a plain value is of the wrong kind,
that is reported as it is. -/
def notTree (e : LoadError) : Failure :=
  if e.isStructural then invalidTree e.message else e.toFailure

def documentOfJson (o : TreeOptions) (text : String) : Except Failure Node :=
  if (Text.trim text.toList).isEmpty then
    .error (.plain (.parsing (some "json_parsing")) "Empty mdast JSON input")
  else do
    let v ← (Json.read text).mapError (notJson text)
    let n ← (load o.loadMode v).mapError notTree
    pure n.toDocument

def textWarnings (o : TreeOptions) (text : String) : List LoadWarning :=
  match o.loadMode, Json.read text with
  | .lenient, .ok v => loadWarnings v
  | _, _ => []

end ChatMarkup.Node
