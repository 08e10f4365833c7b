import ChatMarkup.Text.Blank
import ChatMarkup.Text.Digit

/-!
# Integers in text

A whole number is written with a sign if need be, in decimal digits of any script, with single
underscores between digits where one likes, and with blanks around it. The information separators
are no blanks here.
-/
namespace ChatMarkup.Number
open Text

/-- The most digits that a number may be written with, or be read from. -/
def maxDigits : Nat := 4300

def isLong (n : Int) : Bool := maxDigits < (Nat.toDigits 10 n.natAbs).length

/-- The wording where a number is too long to be written. -/
def longMessage : String :=
  s!"Exceeds the limit ({maxDigits} digits) for integer string conversion; " ++
    "use sys.set_int_max_str_digits() to increase the limit"

/-- The wording where a number of so many digits is too long to be read. -/
def longReadMessage (digits : Nat) : String :=
  s!"Exceeds the limit ({maxDigits} digits) for integer string conversion: " ++
    s!"value has {digits} digits; use sys.set_int_max_str_digits() to increase the limit"

/-- The values of the digits of a number, where single underscores may stand between digits. -/
def groupedDigits? : List Char → Option (List Nat)
  | [] => none
  | [c] => (digitValue? c).map fun d => [d]
  | c :: '_' :: rest =>
    (digitValue? c).bind fun d => (groupedDigits? rest).map fun ds => d :: ds
  | c :: rest => (digitValue? c).bind fun d => (groupedDigits? rest).map fun ds => d :: ds

def magnitude? (s : List Char) : Option Nat :=
  (groupedDigits? s).bind fun ds => if ds.length ≤ maxDigits then some (ofDigits 10 ds) else none

/-- A blank that may stand around a number: any but the separators U+001C to U+001F. -/
def isMargin (c : Char) : Bool := isBlank c && !(28 ≤ c.toNat && c.toNat ≤ 31)

def integer? (s : List Char) : Option Int :=
  match dropEnd isMargin (s.dropWhile isMargin) with
  | '-' :: rest => (magnitude? rest).map fun (n : Nat) => -(n : Int)
  | '+' :: rest => (magnitude? rest).map fun (n : Nat) => (n : Int)
  | rest => (magnitude? rest).map fun (n : Nat) => (n : Int)

end ChatMarkup.Number
