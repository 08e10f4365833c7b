import ChatMarkup.Data.Value
import ChatMarkup.Number.Integer
import ChatMarkup.Text.Digit
import ChatMarkup.Text.Printable

/-!
# Values in messages

How a value is written inside a message. Text is quoted, by single quotes unless it holds one and
no double quote; characters that are not printable are escaped. Lists stand in brackets and
objects in braces, with the names of their members quoted.
-/
namespace ChatMarkup.Value
open Text

def quotedChar (quote c : Char) : List Char :=
  if c == quote || c == '\\' then ['\\', c]
  else if c == '\n' then ['\\', 'n']
  else if c == '\r' then ['\\', 'r']
  else if c == '\t' then ['\\', 't']
  else if isPrintable c then [c]
  else if c.toNat < 0x100 then ['\\', 'x'] ++ (hexText 2 c.toNat).toList
  else if c.toNat < 0x10000 then ['\\', 'u'] ++ (hexText 4 c.toNat).toList
  else ['\\', 'U'] ++ (hexText 8 c.toNat).toList

def quoted (s : String) : String :=
  let cs := s.toList
  let quote := if cs.contains '\'' && !cs.contains '"' then '"' else '\''
  String.ofList (quote :: cs.flatMap (quotedChar quote) ++ [quote])

mutual

/-- The written form of a value in a message. -/
def literal : Value → String
  | .null => "None"
  | .bool b => if b then "True" else "False"
  | .int n => toString n
  | .float x => x.toText "inf" "nan"
  | .text s => quoted s
  | .list items => "[" ++ ", ".intercalate (literals items) ++ "]"
  | .object members => "\x7b" ++ ", ".intercalate (memberLiterals members) ++ "\x7d"

def literals : List Value → List String
  | [] => []
  | v :: rest => literal v :: literals rest

def memberLiterals : List (String × Value) → List String
  | [] => []
  | (k, v) :: rest => (quoted k ++ ": " ++ literal v) :: memberLiterals rest

end

/-- A value read as plain text: text is itself, anything else its written form. -/
def plain : Value → String
  | .text s => s
  | v => literal v

mutual

/-- A whole number in the value has more digits than are written. -/
def hasLongNumber : Value → Bool
  | .int n => Number.isLong n
  | .list items => anyLongNumber items
  | .object members => anyMemberLongNumber members
  | _ => false

def anyLongNumber : List Value → Bool
  | [] => false
  | v :: rest => hasLongNumber v || anyLongNumber rest

def anyMemberLongNumber : List (String × Value) → Bool
  | [] => false
  | (_, v) :: rest => hasLongNumber v || anyMemberLongNumber rest

end

end ChatMarkup.Value
