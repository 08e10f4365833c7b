import ChatMarkup.Data.Yaml.Text

/-!
# YAML documents

Lists and mappings are written by indentation, or in brackets, where indentation does not count. A
key stands on one line with the colon behind it. What cannot be read has no value, and neither has
a text of several documents.
-/
namespace ChatMarkup.Yaml

def takeName : Reader String := do
  let _ ← take 1
  let name ← takeAll fun c => c.isAlphanum || c == '-' || c == '_'
  let next ← peek?
  if name.isEmpty || !next.all fun c => isBlank c || "?:,]\x7d%@\x60".toList.contains c then failure
  return String.ofList name

structure Properties where
  name : Option String := none
  tag : Option String := none

def Properties.isEmpty (p : Properties) : Bool := p.name.isNone && p.tag.isNone

/-- Takes what stands before a node, at most so many parts. -/
def properties (inBrackets : Bool) (found : Properties) : Nat → Reader Properties
  | 0 => return found
  | n + 1 => do
    match (← peek?) with
    | some '&' =>
      if found.name.isSome then failure
      let name ← takeName
      setFresh false
      takeSpaces
      properties inBrackets { found with name := some name } n
    | some '!' =>
      if found.tag.isSome then failure
      let tag ← takeAll fun c => !isBlank c && !(inBrackets && ",[]\x7b\x7d".toList.contains c)
      setFresh false
      takeSpaces
      properties inBrackets { found with tag := some (String.ofList tag) } n
    | _ => return found

def finish (p : Properties) (node : Node) : Reader Node := do
  let node ← match p.tag with
    | none => if node.isResolved then pure node else failure
    | some tag =>
      match node.tagged? tag with
      | some node => pure node
      | none => failure
  match p.name with
  | none => return node
  | some name =>
    let c ← get
    if (c.anchors.lookup name).isSome then failure
    set { c with anchors := (name, node) :: c.anchors }
    return node

def mapping (pairs : List (Node × Node)) : Reader Node :=
  match Node.mapping? pairs with
  | some node => return node
  | none => failure

/-- The next character, after spaces on this line, is the colon behind a key. -/
def atColon (inBrackets : Bool) (line : Nat) : Reader Bool := do
  takeSpaces
  let c ← get
  return c.line == line && (if inBrackets then c.rest.head? == some ':' else c.atMark ':')

mutual

/-- Takes a scalar, an alias or a node in brackets, within something indented so far. -/
def content (inBrackets : Bool) (indent : Nat) : Nat → Reader Node
  | 0 => failure
  | n + 1 => do
    match (← peek?) with
    | some '[' =>
      let _ ← take 1
      let entries ← bracketEntries ']' n
      setFresh false
      let items ← entries.mapM fun (node, value?) =>
        match value? with
        | none => return node.value
        | some value => return (← mapping [(node, value)]).value
      return { value := .list items }
    | some '\x7b' =>
      let _ ← take 1
      let entries ← bracketEntries '\x7d' n
      setFresh false
      mapping (entries.map fun (key, value?) => (key, value?.getD Node.empty))
    | some '*' =>
      let name ← takeName
      setFresh false
      match (← get).anchors.lookup name with
      | some node => return node
      | none => failure
    | some '"' => return Node.quoted (← quoted)
    | some '\'' => return Node.quoted (← quoted)
    | some c =>
      if !inBrackets && (c == '|' || c == '>') then return Node.quoted (← blockScalar indent)
      else if startsPlain inBrackets (← get).rest then
        return Node.plain (← plainParts inBrackets indent ((← get).rest.length + 1))
      else failure
    | none => failure

def bracketNode : Nat → Reader Node
  | 0 => failure
  | n + 1 => do
    let p ← properties true {} 2
    unless p.isEmpty do skip true
    if !p.isEmpty && (← peek?).all (",:]\x7d".toList.contains ·) then finish p Node.empty
    else finish p (← content true 0 n)

/-- Takes the entries of a list or mapping in brackets, up to its end. An entry is a node, or a key
with its value. -/
def bracketEntries (closer : Char) : Nat → Reader (List (Node × Option Node))
  | 0 => failure
  | n + 1 => do
    skip true
    if (← peek?) == some closer then
      let _ ← take 1
      return []
    let line := (← get).line
    let node ← bracketNode n
    let value? ←
      if (← atColon true line) then do
        let _ ← take 1
        skip true
        if (← peek?).any fun c => c == ',' || c == closer then pure (some Node.empty)
        else pure (some (← bracketNode n))
      else pure none
    skip true
    match (← take 1) with
    | [c] =>
      if c == ',' then return (node, value?) :: (← bracketEntries closer n)
      else if c == closer then return [(node, value?)]
      else failure
    | _ => failure

end

mutual

/-- Takes a node that must stand to the right of the given column, where nothing at all is a node
too. The value of a key may be a list whose hyphens stand in the column of the key. -/
def blockNode (column : Int) (isValue : Bool) : Nat → Reader Node
  | 0 => failure
  | n + 1 => do
    skip false
    let start ← get
    if start.atEnd then return Node.empty
    if (start.column : Int) ≤ column then
      if isValue && start.fresh && (start.column : Int) == column && start.atMark '-' then
        return { value := .list (← listItems true start.column n) }
      else return Node.empty
    else if start.atMark '-' then
      if start.fresh then return { value := .list (← listItems false start.column n) }
      else failure
    else if start.atMark '?' then
      if start.fresh then mapping (← openPair start.column n) else failure
    else
      let p ← properties false {} 2
      unless p.isEmpty do skip false
      if !p.isEmpty && (start.line != (← get).line || (← get).rest.isEmpty) then
        finish p (← blockNode column isValue n)
      else
        let node ← finish p (← content false (column + 1).toNat n)
        if (← atColon false start.line) then
          if start.fresh then mapping (← pairOf node start.column n) else failure
        else return node
termination_by structural fuel => fuel

/-- Takes the items of a list whose hyphens stand in a column. A list in the column of its key ends
where there is no hyphen. -/
def listItems (inKeyColumn : Bool) (column : Nat) : Nat → Reader (List Value)
  | 0 => failure
  | n + 1 => do
    let _ ← take 1
    setFresh true
    let node ← blockNode column false n
    skip false
    let c ← get
    if c.atEnd || c.column < column then return [node.value]
    else if c.column == column && c.fresh then
      if c.atMark '-' then return node.value :: (← listItems inKeyColumn column n)
      else if inKeyColumn then return [node.value]
      else failure
    else failure
termination_by structural fuel => fuel

/-- Takes the value of a key, from the colon on, and the further pairs of the mapping. -/
def pairOf (key : Node) (column : Nat) : Nat → Reader (List (Node × Node))
  | 0 => failure
  | n + 1 => do
    let _ ← take 1
    setFresh false
    let value ← blockNode column true n
    return (key, value) :: (← morePairs column n)
termination_by structural fuel => fuel

/-- Takes a pair whose key stands behind a question mark, and the further pairs of the mapping. -/
def openPair (column : Nat) : Nat → Reader (List (Node × Node))
  | 0 => failure
  | n + 1 => do
    let _ ← take 1
    setFresh true
    let key ← blockNode column true n
    skip false
    let c ← get
    if c.column == column && c.fresh && c.atMark ':' then
      let _ ← take 1
      setFresh true
      let value ← blockNode column true n
      return (key, value) :: (← morePairs column n)
    else return (key, Node.empty) :: (← morePairs column n)
termination_by structural fuel => fuel

/-- Takes the pairs of a mapping whose keys stand in a column, as many as there are. -/
def morePairs (column : Nat) : Nat → Reader (List (Node × Node))
  | 0 => failure
  | n + 1 => do
    skip false
    let c ← get
    if c.atEnd || c.column < column then return []
    else if c.column != column || !c.fresh then failure
    else if c.atMark '?' then openPair column n
    else
      let p ← properties false {} 2
      let key ← finish p (← content false (column + 1) n)
      if (← atColon false c.line) then pairOf key column n else failure
termination_by structural fuel => fuel

end

def directives : Nat → Reader Bool
  | 0 => return false
  | n + 1 => do
    let c ← get
    if c.column == 0 && c.rest.head? == some '%' then
      let _ ← takeAll fun c => !isBreak c
      skip false
      let _ ← directives n
      return true
    else return false

def documentEnds : Nat → Reader Unit
  | 0 => return
  | n + 1 => do
    let c ← get
    if c.atMarker && c.rest.head? == some '.' then
      let _ ← take 3
      skip false
      documentEnds n

def document : Reader Value := do
  let length := (← get).rest.length
  skip false
  let directed ← directives length
  let c ← get
  if c.atMarker then
    if c.rest.head? != some '-' then failure
    let _ ← take 3
    setFresh false
  else if directed then failure
  let node ← blockNode (-1) false (4 * length + 8)
  skip false
  documentEnds length
  if (← get).rest.isEmpty then return node.value else failure

/-- The value of a document, unless it is no YAML. A byte order mark at its start is skipped. -/
def read? (s : List Char) : Option Value :=
  if s.all isPrintable then
    let s := match s with
      | '\ufeff' :: rest => rest
      | s => s
    (document.run { rest := s }).map (·.1)
  else none

end ChatMarkup.Yaml
