import ChatMarkup.Tree.Basic

/-!
# Trees from values

A document tree comes as a value: every node is an object whose member `type` tells its kind. The
strict reading refuses what is malformed. The lenient one makes do: what is no object becomes
empty text, objects without a kind pass through, rows of children that are no lists count as
empty, and headings get the nearest rank there is. Members without a field of their own are kept.
Neither reading writes out a number of too many digits where a text is wanted.
-/
namespace ChatMarkup.Node

inductive LoadMode where
  | strict
  | lenient
deriving DecidableEq, Repr

inductive LoadError where
  /-- A node is not an object but a value of this kind. -/
  | notObject (kind : String)
  /-- An object does not tell its kind. -/
  | noType
  /-- The row of children under a key is not a list. -/
  | notList (key : String) (type : Value) (kind : String)
  /-- A heading has a rank out of range. -/
  | depthRange (depth : Value)
  /-- A heading has a rank of a kind that cannot be compared with numbers. -/
  | depthKind (kind : String)
  /-- The alignment of a table is a value without items. -/
  | alignKind (kind : String)
  /-- A number that is to be written as text is too long. -/
  | longNumber
deriving Repr

def LoadError.message : LoadError → String
  | .notObject kind => s!"Node must be a mapping, got {kind}"
  | .noType => "Dictionary must contain a 'type' field"
  | .notList key type kind => s!"'{key}' of a '{type.plain}' node must be a list, got {kind}"
  | .depthRange depth => s!"Heading depth must be 1-6, got {depth.plain}"
  | .depthKind kind => s!"'<=' not supported between instances of 'int' and '{kind}'"
  | .alignKind kind => s!"'{kind}' object is not iterable"
  | .longNumber => Number.longMessage

/-- The error is about the shape of a tree, and not about the kind of a plain value. -/
def LoadError.isStructural : LoadError → Bool
  | .depthKind _ => false
  | .alignKind _ => false
  | _ => true

/-- A member read as text, if it is there and not null. -/
def textField? (ms : Members) (key : String) : Except LoadError (Option String) :=
  match ms.get? key with
  | none => .ok none
  | some .null => .ok none
  | some v => if v.hasLongNumber then .error .longNumber else .ok (some v.plain)

/-- A member read as text, empty if it is not there. -/
def textField (ms : Members) (key : String) : Except LoadError String :=
  (textField? ms key).map fun value => value.getD ""

def flagField (ms : Members) (key : String) : Bool := ((ms.get? key).map Value.isGiven).getD false

/-- The members that have no field of their own in a node. -/
def extraMembers (ms : Members) (fields : List String) : Members :=
  ms.filter fun m => m.1 != "type" && !fields.contains m.1

/-- The tag that tells the kind of a node: a text that is not empty. -/
def tag? (ms : Members) : Option String :=
  match ms.get? "type" with
  | some (.text s) => if s.isEmpty then none else some s
  | _ => none

/-- The leaf that a tag and its members denote, and the members it takes. -/
def leafOf? (tag : String) (ms : Members) : Option (Except LoadError Leaf × List String) :=
  match tag with
  | "text" => some ((textField ms "value").map .text, ["value"])
  | "inlineCode" => some ((textField ms "value").map .code, ["value"])
  | "code" =>
    some (do
      let value ← textField ms "value"
      let lang ← textField? ms "lang"
      let info ← textField? ms "meta"
      .ok (.codeBlock value lang info), ["value", "lang", "meta"])
  | "image" =>
    some (do
      let url ← textField ms "url"
      let alt ← textField? ms "alt"
      let title ← textField? ms "title"
      .ok (.image url alt title), ["url", "alt", "title"])
  | "break" => some (.ok .lineBreak, [])
  | "thematicBreak" => some (.ok .thematicBreak, [])
  | _ => none

/-- The rank of a heading. The lenient reading keeps whole ranks in range and moves others to the
nearest one, or to the first where there is none. -/
def headingDepth (mode : LoadMode) (ms : Members) : Except LoadError Depth :=
  let given := (ms.get? "depth").getD (.int 1)
  match mode with
  | .strict => match Depth.ofValue? given with
    | none => .error (.depthKind given.kindName)
    | some d =>
      if d.inRange then .ok d
      else .error (if given.hasLongNumber then .longNumber else .depthRange given)
  | .lenient => match Count.ofValue? given with
    | none => .ok (.count (.number 1))
    | some c =>
      if 1 ≤ c.toInt && c.toInt ≤ 6 then .ok (.count c)
      else .ok (.count (.number (min (max c.toInt 1) 6)))

/-- The container that a tag and its members denote, and the members it takes beside its children.
The address of a link is read ahead of the children, everything else after them. -/
def containerOf? (mode : LoadMode) (tag : String) (ms : Members) :
    Option (Except LoadError (Except LoadError Container) × List String) :=
  match tag with
  | "root" => some (.ok (.ok .document), [])
  | "heading" => some (.ok ((headingDepth mode ms).map .heading), ["depth"])
  | "paragraph" => some (.ok (.ok .paragraph), [])
  | "blockquote" => some (.ok (.ok .blockQuote), [])
  | "list" =>
    some (.ok (.ok (.list (flagField ms "ordered") ((ms.get? "start").bind Count.ofValue?)
      (flagField ms "spread"))), ["ordered", "start", "spread"])
  | "listItem" =>
    let checked := match ms.get? "checked" with
      | some (.bool b) => some b
      | _ => none
    some (.ok (.ok (.listItem checked)), ["checked"])
  | "tableRow" => some (.ok (.ok .tableRow), [])
  | "tableCell" => some (.ok (.ok .tableCell), [])
  | "emphasis" => some (.ok (.ok .emphasis), [])
  | "strong" => some (.ok (.ok .strong), [])
  | "delete" => some (.ok (.ok .strikethrough), [])
  | "link" =>
    some ((textField ms "url").map fun url => (textField? ms "title").map (.link url),
      ["url", "title"])
  | _ => none

/-- The alignment of a table: the items of a list, the characters of a text, or the names of the
members of an object. -/
def alignment (ms : Members) : Except LoadError (List Value) :=
  match ms.get? "align" with
  | none => .ok []
  | some (.list items) => .ok items
  | some (.text s) => .ok (s.toList.map fun c => .text (String.singleton c))
  | some (.object members) => .ok (members.map fun m => .text m.1)
  | some v => if v.isGiven then .error (.alignKind v.kindName) else .ok []

mutual

def load (mode : LoadMode) : Value → Except LoadError Node
  | .object ms =>
    match tag? ms with
    | none => match mode with
      | .strict => .error .noType
      | .lenient => do
        let value ← textField? ms "value"
        let cs ← loadRow mode "children" ((Members.get? ms "type").getD .null) ms
        .ok (.unknown "" value cs (extraMembers ms ["value", "children"]))
    | some tag =>
      match leafOf? tag ms with
      | some (kind, fields) => kind.map fun kind => .leaf kind (extraMembers ms fields)
      | none =>
        if tag == "table" then do
          let header ← loadHeader mode ms
          let body ← loadRow mode "children" (.text tag) ms
          let rows ← loadRow mode "rows" (.text tag) ms
          let align ← alignment ms
          .ok (.table body header rows align
            (extraMembers ms ["children", "header", "rows", "align"]))
        else match containerOf? mode tag ms with
          | some (kind, fields) => do
            let kind ← kind
            let cs ← loadRow mode "children" (.text tag) ms
            let kind ← kind
            .ok (.container kind cs (extraMembers ms ("children" :: fields)))
          | none => do
            let value ← textField? ms "value"
            let cs ← loadRow mode "children" (.text tag) ms
            .ok (.unknown tag value cs (extraMembers ms ["value", "children"]))
  | v => match mode with
    | .strict => .error (.notObject v.kindName)
    | .lenient => .ok (text "")

/-- The trees in the list under a key; there are none where the key is absent or null. -/
def loadRow (mode : LoadMode) (key : String) (type : Value) :
    List (String × Value) → Except LoadError (List Node)
  | [] => .ok []
  | (k, v) :: rest =>
    if k == key then
      match v with
      | .null => .ok []
      | .list items => loadItems mode items
      | v => match mode with
        | .strict => .error (.notList key type v.kindName)
        | .lenient => .ok []
    else loadRow mode key type rest

/-- The header of a table: an object, or the first item of a list. -/
def loadHeader (mode : LoadMode) : List (String × Value) → Except LoadError (Option Node)
  | [] => .ok none
  | (k, v) :: rest =>
    if k == "header" then
      match v with
      | .object ms => (load mode (.object ms)).map some
      | .list (item :: _) => (load mode item).map some
      | _ => .ok none
    else loadHeader mode rest

def loadItems (mode : LoadMode) : List Value → Except LoadError (List Node)
  | [] => .ok []
  | v :: rest => do
    let n ← load mode v
    let ns ← loadItems mode rest
    .ok (n :: ns)

end

inductive LoadWarning where
  | notObject (kind : String)
  | noType
  | notList (key : String) (type : Value)
  | depth (given : Value)
deriving Repr

def LoadWarning.message : LoadWarning → String
  | .notObject kind => s!"Node is not a mapping ({kind}), replacing with empty text"
  | .noType => "Dictionary missing 'type' field, treating it as a pass-through node"
  | .notList key type => s!"Ignoring non-list '{key}' on '{type.plain}' node"
  | .depth given => s!"Clamping invalid heading depth {given.literal}"

/-- The rank of a heading is not one that the lenient reading keeps. -/
def depthWarnings (ms : Members) : List LoadWarning :=
  let given := (ms.get? "depth").getD (.int 1)
  match Count.ofValue? given with
  | some c => if 1 ≤ c.toInt && c.toInt ≤ 6 then [] else [.depth given]
  | none => [.depth given]

mutual

/-- What the lenient reading of a value makes do with, in the order in which it comes to it. -/
def loadWarnings : Value → List LoadWarning
  | .object ms =>
    match tag? ms with
    | none => .noType :: rowWarnings "children" ((Members.get? ms "type").getD .null) ms
    | some tag =>
      if (leafOf? tag ms).isSome then []
      else if tag == "table" then
        headerWarnings ms ++ rowWarnings "children" (.text tag) ms ++
          rowWarnings "rows" (.text tag) ms
      else
        (if tag == "heading" then depthWarnings ms else []) ++
          rowWarnings "children" (.text tag) ms
  | v => [.notObject v.kindName]

def rowWarnings (key : String) (type : Value) : List (String × Value) → List LoadWarning
  | [] => []
  | (k, v) :: rest =>
    if k == key then
      match v with
      | .null => []
      | .list items => itemWarnings items
      | _ => [.notList key type]
    else rowWarnings key type rest

def headerWarnings : List (String × Value) → List LoadWarning
  | [] => []
  | (k, v) :: rest =>
    if k == "header" then
      match v with
      | .object ms => loadWarnings (.object ms)
      | .list (item :: _) => loadWarnings item
      | _ => []
    else headerWarnings rest

def itemWarnings : List Value → List LoadWarning
  | [] => []
  | v :: rest => loadWarnings v ++ itemWarnings rest

end

end ChatMarkup.Node
