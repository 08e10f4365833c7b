import ChatMarkup.Messages

/-!
# Records

Records are objects of which one field holds Markdown. Converting a record gives a copy for each of
its messages, with the message in another field and the position of the record beside it. A record
that fails either ends the conversion or leaves a copy with the error in it.
-/
namespace ChatMarkup

def positionField : String := "paired_item"

def errorField : String := "error"

def notObject (given : Value) : Failure :=
  .plain (.validation (some "record")) s!"Record must be a mapping, got {given.kindName}"

def notText (field : String) (given : Value) : Failure :=
  .plain (.validation (some field)) s!"Field '{field}' must be a string, got {given.kindName}"

/-- The Markdown of a record, which is empty where nothing is given. -/
def recordText (field : String) (record : Members) : Except Failure String :=
  match record.get? field with
  | none => .ok ""
  | some .null => .ok ""
  | some (.text s) => .ok s
  | some v => .error (notText field v)

/-- The copies of a record, one for each of its messages. -/
def convertRecord (reader : Markdown.Reader) (options : MessageOptions) (index : Nat)
    (record : Value) : Except Failure (List Members) := do
  match record with
  | .object members =>
    let text ← recordText options.textField members
    let text :=
      if options.cleanEscapes then String.ofList (unescapeBackslashes text.toList) else text
    let markup ← markupOfText reader options.renderer options.parser text
    pure ((fit options.charLimit.value options.strategy markup).map fun message =>
      Members.setAll members [(options.outputField, .text message), (positionField, .int index)])
  | v => throw (notObject v)

def failedRecord (index : Nat) (record : Value) (failure : Failure) : Members :=
  let members := match record with
    | .object members => members
    | _ => []
  Members.setAll members [(errorField, .text failure.message), (positionField, .int index)]

def recordOutcomes (reader : Markdown.Reader) (options : MessageOptions) (records : List Value) :
    List (Nat × Value × Except Failure (List Members)) :=
  records.zipIdx.map fun (record, index) =>
    (index, record, convertRecord reader options index record)

/-- All copies, where records that failed leave a copy with the error. -/
def keepFailed (outcomes : List (Nat × Value × Except Failure (List Members))) : List Members :=
  outcomes.flatMap fun (index, record, outcome) =>
    match outcome with
    | .ok copies => copies
    | .error failure => [failedRecord index record failure]

/-- The failure of a record, as a failure of the whole conversion. -/
def recordFailure (index : Nat) (failure : Failure) : Failure :=
  .because (.record (some index)) failure.report (some failure)

/-- All copies, or the failure of the first record that failed. -/
def firstFailure : List (Nat × Value × Except Failure (List Members)) →
    Except Failure (List Members)
  | [] => .ok []
  | (index, _, outcome) :: rest =>
    match outcome with
    | .error failure => .error (recordFailure index failure)
    | .ok copies => (firstFailure rest).map (copies ++ ·)

/-- Converts records; those that fail are kept or end the conversion. -/
def convertRecords (reader : Markdown.Reader) (options : MessageOptions) (continueOnFail : Bool)
    (records : List Value) : Except Failure (List Members) :=
  let outcomes := recordOutcomes reader options records
  if continueOnFail then .ok (keepFailed outcomes) else firstFailure outcomes

end ChatMarkup
