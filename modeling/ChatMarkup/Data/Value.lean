import ChatMarkup.Number.Shortest

/-!
# Dynamic values

The values that data files and structured requests hold: nothing, booleans, integers of any size,
floating-point numbers, text, lists, and objects. The members of an object keep their order, since
answers show it.
-/
namespace ChatMarkup

inductive Value where
  | null
  | bool (b : Bool)
  | int (n : Int)
  | float (x : Double)
  | text (s : String)
  | list (items : List Value)
  | object (members : List (String × Value))
deriving Repr, Inhabited

namespace Value

mutual

/-- Equality of values: same kind, same content, same order. -/
def same : Value → Value → Bool
  | .null, .null => true
  | .bool a, .bool b => a == b
  | .int a, .int b => a == b
  | .float a, .float b => a == b
  | .text a, .text b => a == b
  | .list a, .list b => sameList a b
  | .object a, .object b => sameMembers a b
  | _, _ => false

def sameList : List Value → List Value → Bool
  | [], [] => true
  | a :: as, b :: bs => same a b && sameList as bs
  | _, _ => false

def sameMembers : List (String × Value) → List (String × Value) → Bool
  | [], [] => true
  | (k, a) :: as, (l, b) :: bs => k == l && same a b && sameMembers as bs
  | _, _ => false

end

instance : BEq Value := ⟨same⟩

/-- The value counts as given: it is neither nothing, false, zero nor empty. -/
def isGiven : Value → Bool
  | .null => false
  | .bool b => b
  | .int n => n != 0
  | .float x => !x.isZero
  | .text s => !s.isEmpty
  | .list items => !items.isEmpty
  | .object members => !members.isEmpty

def isText : Value → Bool
  | .text _ => true
  | _ => false

def kindName : Value → String
  | .null => "NoneType"
  | .bool _ => "bool"
  | .int _ => "int"
  | .float _ => "float"
  | .text _ => "str"
  | .list _ => "list"
  | .object _ => "dict"

end Value

/-- Named values in order, as the members of an object are. -/
abbrev Members := List (String × Value)

namespace Members

def get? (members : Members) (key : String) : Option Value := members.lookup key

def has (members : Members) (key : String) : Bool := members.any (·.1 == key)

/-- Gives a member a value: in its place if there is one of that name, at the end otherwise. -/
def set (members : Members) (key : String) (value : Value) : Members :=
  match members with
  | [] => [(key, value)]
  | (k, v) :: rest =>
    if k == key then (k, value) :: rest else (k, v) :: set rest key value

def setAll (members : Members) (updates : Members) : Members :=
  updates.foldl (fun m u => set m u.1 u.2) members

/-- The members in order, where a repeated name keeps its first place and its last value. -/
def ofPairs (pairs : Members) : Members := setAll [] pairs

def keys (members : Members) : List String := members.map (·.1)

end Members

end ChatMarkup
