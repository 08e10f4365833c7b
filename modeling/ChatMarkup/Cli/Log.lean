import ChatMarkup.Data.Literal

/-!
# Log levels

A log entry has a level, and only entries from a level on are kept. Levels have numbers and names.
-/
namespace ChatMarkup.Log

inductive Level where
  | debug
  | info
  | warning
  | error
  | critical
deriving DecidableEq, Repr

namespace Level

def name : Level → String
  | .debug => "DEBUG"
  | .info => "INFO"
  | .warning => "WARNING"
  | .error => "ERROR"
  | .critical => "CRITICAL"

def rank : Level → Nat
  | .debug => 10
  | .info => 20
  | .warning => 30
  | .error => 40
  | .critical => 50

def all : List Level := [.debug, .info, .warning, .error, .critical]

def ofName? (name : String) : Option Level := all.find? fun l => l.name == name

end Level

/-- Further names of levels, and the level below all others. -/
def otherNames : List (String × Nat) := [("FATAL", 50), ("WARN", 30), ("NOTSET", 0)]

/-- The number for a name in any case; a name without a level stands for the one of information. -/
def rankOfName (name : String) : Nat :=
  let key := String.ofList (name.toList.map Char.toUpper)
  match Level.ofName? key with
  | some l => l.rank
  | none => (otherNames.lookup key).getD Level.info.rank

/-- The number that a value gives: itself, or that of its name. -/
def rankOf (given : Value) : Value :=
  match given with
  | .int n => .int n
  | .bool b => .bool b
  | v => .int (rankOfName v.plain)

structure Entry where
  level : Level
  text : String
deriving DecidableEq, Repr

def Entry.line (e : Entry) : String := s!"{e.level.name}: {e.text}\n"

end ChatMarkup.Log
