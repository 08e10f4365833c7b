import ChatMarkup.Data.Toml.Atom

/-!
# TOML documents

A document is a row of statements: a key with its value, the header of a table, or the header of
one more table in a list. A table is made once: a header may not name a table that was made
already, and what was written as a value stays as it was.
-/
namespace ChatMarkup.Toml
open Text

abbrev Path := List String

/-- What has been read of a document: its tables, the paths that no header may name again, those
whose values are complete, and the table that statements go to. -/
structure Progress where
  root : Members := []
  declared : List Path := []
  sealed : List Path := []
  pending : List Path := []
  header : Path := []

/-- The path lies at or below a complete value. -/
def Progress.isSealed (p : Progress) (path : Path) : Bool :=
  p.sealed.any fun s => s.isPrefixOf path

/-- Changes the table at a path, which is made if it is not there. In a list of tables the last one
is meant, unless `throughLists` is false. -/
def changeAt (throughLists : Bool) (f : Members → Option Members) :
    Path → Members → Option Members
  | [], ms => f ms
  | key :: path, ms =>
    match ms.get? key with
    | none => (changeAt throughLists f path []).map fun inner => Members.set ms key (.object inner)
    | some (.object inner) =>
      (changeAt throughLists f path inner).map fun inner => Members.set ms key (.object inner)
    | some (.list items) =>
      match throughLists, items.getLast? with
      | true, some (.object inner) =>
        (changeAt throughLists f path inner).map fun inner =>
          Members.set ms key (.list (items.dropLast ++ [.object inner]))
      | _, _ => none
    | some _ => none

def insertNew (key : String) (v : Value) (ms : Members) : Option Members :=
  if Members.has ms key then none else some (ms ++ [(key, v)])

/-- The key without its last part, and that part. -/
def splitKey (key : Path) : Path × String := (key.dropLast, key.getLast?.getD "")

/-- The value holds others, so nothing can be added to it later. -/
def isCompound : Value → Bool
  | .list _ => true
  | .object _ => true
  | _ => false

def addInline (key : Path) (v : Value) (table : Members × List Path) :
    Option (Members × List Path) :=
  let (ms, complete) := table
  let (parent, last) := splitKey key
  if complete.any fun s => s.isPrefixOf key then none
  else (changeAt false (insertNew last v) parent ms).map fun ms =>
    (ms, if isCompound v then key :: complete else complete)

mutual

def value? : Nat → List Char → Option (Value × List Char)
  | 0, _ => none
  | n + 1, s =>
    match s with
    | '[' :: rest => (skipLines? rest.length rest).bind fun rest =>
      match rest with
      | ']' :: after => some (.list [], after)
      | rest => (items? n rest).map fun r => (.list r.1, r.2)
    | '\x7b' :: rest =>
      match skipSpaces rest with
      | '\x7d' :: after => some (.object [], after)
      | rest => (inlineTable? n ([], []) rest).map fun r => (.object r.1, r.2)
    | s => atom? s

def items? : Nat → List Char → Option (List Value × List Char)
  | 0, _ => none
  | n + 1, s =>
    (value? n s).bind fun (v, rest) =>
      (skipLines? rest.length rest).bind fun rest =>
        match rest with
        | ']' :: after => some ([v], after)
        | ',' :: more => (skipLines? more.length more).bind fun more =>
          match more with
          | ']' :: after => some ([v], after)
          | more => (items? n more).map fun r => (v :: r.1, r.2)
        | _ => none

def inlineTable? : Nat → Members × List Path → List Char → Option (Members × List Char)
  | 0, _, _ => none
  | n + 1, table, s =>
    (key? s.length s).bind fun (key, rest) =>
      match rest with
      | '=' :: rest =>
        (value? n (skipSpaces rest)).bind fun (v, rest) =>
          (addInline key v table).bind fun table =>
            match skipSpaces rest with
            | '\x7d' :: after => some (table.1, after)
            | ',' :: more => inlineTable? n table (skipSpaces more)
            | _ => none
      | _ => none

end

/-- All starts of a path but the empty one and the path itself. -/
def properStarts (path : Path) : List Path :=
  ((List.range path.length).drop 1).map path.take

def Progress.addValue (p : Progress) (key : Path) (v : Value) : Option Progress :=
  let between := (properStarts key).map (p.header ++ ·)
  let (parent, last) := splitKey key
  if between.any p.declared.contains || p.isSealed (p.header ++ parent) then none
  else (changeAt true (insertNew last v) (p.header ++ parent) p.root).map fun root =>
    { p with
      root
      pending := between ++ p.pending
      sealed := if isCompound v then (p.header ++ key) :: p.sealed else p.sealed }

def Progress.beginTable (p : Progress) (key : Path) : Option Progress :=
  let declared := p.pending ++ p.declared
  if declared.contains key || p.isSealed key then none
  else (changeAt true some key p.root).map fun root =>
    { p with root, declared := key :: declared, pending := [], header := key }

/-- The member as a list of tables with one more table at its end. -/
def appendTable (key : String) (ms : Members) : Option Members :=
  match ms.get? key with
  | none => some (ms ++ [(key, .list [.object []])])
  | some (.list items) => some (Members.set ms key (.list (items ++ [.object []])))
  | some _ => none

def Progress.beginItem (p : Progress) (key : Path) : Option Progress :=
  let below (path : Path) : Bool := key.isPrefixOf path
  let declared := (p.pending ++ p.declared).filter fun path => !below path
  let (parent, last) := splitKey key
  if p.isSealed key then none
  else (changeAt true (appendTable last) parent p.root).map fun root =>
    { root
      declared := key :: declared
      sealed := p.sealed.filter fun path => !below path
      header := key }

/-- What a statement says, and what follows it. -/
def statement? (p : Progress) (s : List Char) : Option (Progress × List Char) :=
  match s with
  | '[' :: '[' :: rest =>
    (key? rest.length (skipSpaces rest)).bind fun (key, rest) =>
      match rest with
      | ']' :: ']' :: after => (p.beginItem key).map fun p => (p, after)
      | _ => none
  | '[' :: rest =>
    (key? rest.length (skipSpaces rest)).bind fun (key, rest) =>
      match rest with
      | ']' :: after => (p.beginTable key).map fun p => (p, after)
      | _ => none
  | s =>
    (key? s.length s).bind fun (key, rest) =>
      match rest with
      | '=' :: rest =>
        (value? (rest.length + 1) (skipSpaces rest)).bind fun (v, after) =>
          (p.addValue key v).map fun p => (p, after)
      | _ => none

/-- Reads statements line by line, at most so many lines. -/
def statements? : Nat → Progress → List Char → Option Members
  | 0, _, _ => none
  | n + 1, p, s =>
    match skipSpaces s with
    | [] => some p.root
    | '\n' :: rest => statements? n p rest
    | '#' :: rest =>
      (skipComment? ('#' :: rest)).bind fun rest =>
        match rest with
        | [] => some p.root
        | _ :: rest => statements? n p rest
    | rest =>
      (statement? p rest).bind fun (p, after) =>
        (skipComment? (skipSpaces after)).bind fun after =>
          match after with
          | [] => some p.root
          | '\n' :: rest => statements? n p rest
          | _ => none

/-- The text with a line break for each carriage return and line feed. -/
def joinLineEnds : List Char → List Char
  | '\r' :: '\n' :: rest => '\n' :: joinLineEnds rest
  | c :: rest => c :: joinLineEnds rest
  | [] => []

def read? (s : List Char) : Option Members :=
  statements? (s.length + 1) {} (joinLineEnds s)

end ChatMarkup.Toml
