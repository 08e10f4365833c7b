import ChatMarkup.Data.Value
import ChatMarkup.Text.Digit
import ChatMarkup.Text.Search

/-!
# Plain scalars of YAML 1.1

A scalar without quotation marks may stand for a truth value, a number or nothing. Underscores may
stand between the digits of a number, and a number may be written in base sixty with colons.
Anything else is text, and so is a day of the calendar.
-/
namespace ChatMarkup.Yaml
open Text

def truthWords : List (String × Bool) :=
  [("yes", true), ("Yes", true), ("YES", true), ("true", true), ("True", true), ("TRUE", true),
   ("on", true), ("On", true), ("ON", true),
   ("no", false), ("No", false), ("NO", false), ("false", false), ("False", false),
   ("FALSE", false), ("off", false), ("Off", false), ("OFF", false)]

def nullWords : List String := ["", "~", "null", "Null", "NULL"]

def infinityWords : List String := [".inf", ".Inf", ".INF"]

def nanWords : List String := [".nan", ".NaN", ".NAN"]

/-- A text without its sign, and whether that is a minus. -/
def takeSign (s : List Char) : Bool × List Char :=
  match s with
  | '-' :: rest => (true, rest)
  | '+' :: rest => (false, rest)
  | rest => (false, rest)

/-- The characters are digits and underscores only, and there is one at least. -/
def areDigits (isDigit : Char → Bool) (s : List Char) : Bool :=
  !s.isEmpty && s.all fun c => isDigit c || c == '_'

def startsWithDigit (s : List Char) : Bool := s.head?.any Char.isDigit

/-- The number that digits make, whatever underscores stand between them. -/
def valueOf (base : Nat) (s : List Char) : Nat := ofDigits base (s.filterMap hexDigit?)

/-- A part of a number in base sixty after the first one: a digit, or two of which the first is at
most five. -/
def isSixtieth (s : List Char) : Bool :=
  match s with
  | [c] => c.isDigit
  | [c, d] => '0' ≤ c && c ≤ '5' && d.isDigit
  | _ => false

def sixties (parts : List (List Char)) : Nat :=
  ofDigits 60 (parts.map (valueOf 10))

def natural? (s : List Char) : Option Nat :=
  match s with
  | '0' :: 'b' :: digits =>
    if areDigits (fun c => c == '0' || c == '1') digits then some (valueOf 2 digits) else none
  | '0' :: 'x' :: digits =>
    if areDigits (fun c => (hexDigit? c).isSome) digits then some (valueOf 16 digits) else none
  | ['0'] => some 0
  | '0' :: digits =>
    if areDigits (fun c => '0' ≤ c && c ≤ '7') digits then some (valueOf 8 digits) else none
  | digits =>
    match splitAt ':' digits with
    | [] => none
    | first :: others =>
      if startsWithDigit first && areDigits Char.isDigit first && others.all isSixtieth then
        some (sixties (first :: others))
      else none

/-- An exponent with its sign, which must be there; nothing at all stands for zero. -/
def exponent? (s : List Char) : Option Int :=
  match s with
  | [] => some 0
  | c :: sign :: digits =>
    if (c == 'e' || c == 'E') && (sign == '-' || sign == '+') && !digits.isEmpty &&
        digits.all Char.isDigit then
      some (if sign == '-' then -(valueOf 10 digits : Int) else valueOf 10 digits)
    else none
  | _ => none

def fractional? (signed negative : Bool) (s : List Char) : Option Double :=
  match cutAt? ['.'] s with
  | none => none
  | some (whole, rest) =>
    let places := rest.takeWhile fun c => c.isDigit || c == '_'
    let tail := rest.drop places.length
    let count := (places.filter Char.isDigit).length
    let make (n : Nat) (tens : Int) : Double :=
      Double.ofDecimal negative (n * Double.tenTo count + valueOf 10 places) (tens - count)
    match splitAt ':' whole with
    | [first] =>
      if first.isEmpty then
        if signed || !startsWithDigit places then none
        else (exponent? tail).map (make 0)
      else if startsWithDigit first && areDigits Char.isDigit first then
        (exponent? tail).map (make (valueOf 10 first))
      else none
    | first :: others =>
      if startsWithDigit first && areDigits Char.isDigit first && others.all isSixtieth &&
          tail.isEmpty then
        some (make (sixties (first :: others)) 0)
      else none
    | [] => none

def number? (s : List Char) : Option Value :=
  let (negative, rest) := takeSign s
  let signed := rest.length < s.length
  match natural? rest with
  | some n => some (.int (if negative then -n else n))
  | none =>
    if infinityWords.contains (String.ofList rest) then some (.float (.infinity negative))
    else if nanWords.contains (String.ofList s) then some (.float .nan)
    else (fractional? signed negative rest).map .float

/-- The value of a scalar without quotation marks. An equals sign by itself has no value. -/
def plainValue? (s : List Char) : Option Value :=
  let word := String.ofList s
  if word == "=" then none
  else if nullWords.contains word then some .null
  else match truthWords.lookup word with
    | some b => some (.bool b)
    | none => some ((number? s).getD (.text word))

end ChatMarkup.Yaml
