import ChatMarkup.Data.Json.Printer
import ChatMarkup.Failure

/-!
# Written results

Messages are written as text with lines of hyphens between them, or as a list in JSON. Records are
written in JSON, each on a line of its own, if all their numbers can be.
-/
namespace ChatMarkup

inductive OutputFormat where
  | text
  | json
deriving DecidableEq, Repr

/-- The form with that name; any name but that of JSON stands for text. -/
def OutputFormat.ofName (name : String) : OutputFormat := if name == "json" then .json else .text

def messageSeparator : String := "\n" ++ String.ofList (List.replicate 40 '-') ++ "\n"

def writtenMessages (format : OutputFormat) (messages : List String) : String :=
  match format with
  | .json => Json.form (.list (messages.map Value.text)) ++ "\n"
  | .text => messageSeparator.intercalate messages ++ "\n"

def writtenRecord (record : Value) : Except Failure String :=
  match Json.print? record with
  | some line => .ok (line ++ "\n")
  | none => .error (.plain .badValue Number.longMessage)

def writtenRecords (records : List Value) : Except Failure String :=
  (records.mapM writtenRecord).map String.join

end ChatMarkup
