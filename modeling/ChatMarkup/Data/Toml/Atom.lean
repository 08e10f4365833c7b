import ChatMarkup.Data.Value
import ChatMarkup.Text.Digit
import ChatMarkup.Text.Search

/-!
# Parts of TOML

Keys, strings, numbers and other plain values of TOML. Each reader takes its part off the start of
a text and gives what follows it, or nothing if the text does not begin like that.
-/
namespace ChatMarkup.Toml
open Text

def isSpace (c : Char) : Bool := c == ' ' || c == '\t'

def skipSpaces (s : List Char) : List Char := s.dropWhile isSpace

/-- The character may stand in a comment or a string: no control character but the tab. -/
def isPlainChar (c : Char) : Bool := c == '\t' || (32 ≤ c.toNat && c.toNat != 127)

/-- What follows a comment, if there is one; `none` if it holds a control character. -/
def skipComment? (s : List Char) : Option (List Char) :=
  match s with
  | '#' :: rest =>
    let after := rest.dropWhile (· != '\n')
    if (rest.takeWhile (· != '\n')).all isPlainChar then some after else none
  | s => some s

/-- What follows spaces, line breaks and comments, at most so many lines. -/
def skipLines? : Nat → List Char → Option (List Char)
  | 0, s => some s
  | n + 1, s =>
    match skipSpaces s with
    | '\n' :: rest => skipLines? n rest
    | '#' :: rest => (skipComment? ('#' :: rest)).bind (skipLines? n)
    | rest => some rest

/-- The character that a code point in hexadecimal digits stands for, and what follows. -/
def codePoint? (length : Nat) (s : List Char) : Option (Char × List Char) :=
  let digits := (s.take length).filterMap hexDigit?
  let n := ofDigits 16 digits
  if digits.length == length && (n < 0xD800 || (0xDFFF < n && n ≤ 0x10FFFF)) then
    some (Char.ofNat n, s.drop length)
  else none

def escape? (s : List Char) : Option (Char × List Char) :=
  match s with
  | 'b' :: rest => some (Char.ofNat 8, rest)
  | 't' :: rest => some ('\t', rest)
  | 'n' :: rest => some ('\n', rest)
  | 'f' :: rest => some (Char.ofNat 12, rest)
  | 'r' :: rest => some ('\r', rest)
  | '"' :: rest => some ('"', rest)
  | '\\' :: rest => some ('\\', rest)
  | 'u' :: rest => codePoint? 4 rest
  | 'U' :: rest => codePoint? 8 rest
  | _ => none

/-- The rest of a string on one line, in double quotation marks; at most so many characters. -/
def basicString? : Nat → List Char → Option (List Char × List Char)
  | 0, _ => none
  | _, [] => none
  | n + 1, c :: rest =>
    if c == '"' then some ([], rest)
    else if c == '\\' then
      (escape? rest).bind fun (e, rest) => (basicString? n rest).map fun r => (e :: r.1, r.2)
    else if isPlainChar c then (basicString? n rest).map fun r => (c :: r.1, r.2)
    else none

/-- The rest of a string on one line, in single quotation marks. -/
def literalString? : List Char → Option (List Char × List Char)
  | [] => none
  | c :: rest =>
    if c == '\'' then some ([], rest)
    else if isPlainChar c then (literalString? rest).map fun r => (c :: r.1, r.2)
    else none

/-- The end of a string of several lines: three marks, before which up to two more belong to the
string. -/
def closing? (mark : Char) (s : List Char) : Option (List Char × List Char) :=
  let marks := (s.takeWhile (· == mark)).length
  if marks < 3 then none
  else
    let extra := min 2 (marks - 3)
    some (List.replicate extra mark, s.drop (extra + 3))

/-- The rest of a string of several lines; at most so many characters. With double quotation marks
there are escapes, and a backslash at the end of a line takes the blanks that follow. -/
def longString? (mark : Char) : Nat → List Char → Option (List Char × List Char)
  | 0, _ => none
  | _, [] => none
  | n + 1, c :: rest =>
    match closing? mark (c :: rest) with
    | some found => some found
    | none =>
      if mark == '"' && c == '\\' then
        match skipSpaces rest with
        | '\n' :: after =>
          longString? mark n (after.dropWhile fun c => isSpace c || c == '\n')
        | _ =>
          (escape? rest).bind fun (e, rest) =>
            (longString? mark n rest).map fun r => (e :: r.1, r.2)
      else if isPlainChar c || c == '\n' then
        (longString? mark n rest).map fun r => (c :: r.1, r.2)
      else none

/-- The text without a line break at its start. -/
def dropFirstBreak (s : List Char) : List Char :=
  match s with
  | '\n' :: rest => rest
  | s => s

def string? (s : List Char) : Option (String × List Char) :=
  let found := match s with
    | '"' :: '"' :: '"' :: rest => longString? '"' (rest.length + 1) (dropFirstBreak rest)
    | '\'' :: '\'' :: '\'' :: rest => longString? '\'' (rest.length + 1) (dropFirstBreak rest)
    | '"' :: rest => basicString? (rest.length + 1) rest
    | '\'' :: rest => literalString? rest
    | _ => none
  found.map fun r => (String.ofList r.1, r.2)

def isKeyChar (c : Char) : Bool := c.isAlphanum || c == '-' || c == '_'

def keyPart? (s : List Char) : Option (String × List Char) :=
  match s with
  | '"' :: rest => (basicString? (rest.length + 1) rest).map fun r => (String.ofList r.1, r.2)
  | '\'' :: rest => (literalString? rest).map fun r => (String.ofList r.1, r.2)
  | s =>
    let part := s.takeWhile isKeyChar
    if part.isEmpty then none else some (String.ofList part, s.drop part.length)

/-- A key with all its parts, at most so many, and what follows the spaces behind it. -/
def key? : Nat → List Char → Option (List String × List Char)
  | 0, _ => none
  | n + 1, s =>
    (keyPart? s).bind fun (part, rest) =>
      match skipSpaces rest with
      | '.' :: more => (key? n (skipSpaces more)).map fun r => (part :: r.1, r.2)
      | rest => some ([part], rest)

def digits? (value? : Char → Option Nat) : List Char → Option (List Nat × List Char)
  | [] => none
  | c :: rest =>
    (value? c).map fun d =>
      match rest with
      | '_' :: next :: more =>
        match digits? value? (next :: more) with
        | some r => (d :: r.1, r.2)
        | none => ([d], rest)
      | rest =>
        match digits? value? rest with
        | some r => (d :: r.1, r.2)
        | none => ([d], rest)

/-- The value of a digit of a number with a base below ten. -/
def smallDigit? (base : Nat) (c : Char) : Option Nat := (asciiDigit? c).filter (· < base)

def fraction? (s : List Char) : Option (List Nat × List Char) :=
  match s with
  | '.' :: rest => digits? asciiDigit? rest
  | _ => none

def exponent? (s : List Char) : Option (Int × List Char) :=
  match s with
  | c :: rest =>
    if c == 'e' || c == 'E' then
      match rest with
      | '-' :: more => (digits? asciiDigit? more).map fun r => (-(ofDigits 10 r.1 : Int), r.2)
      | '+' :: more => (digits? asciiDigit? more).map fun r => (ofDigits 10 r.1, r.2)
      | more => (digits? asciiDigit? more).map fun r => (ofDigits 10 r.1, r.2)
    else none
  | [] => none

def decimal? (negative : Bool) (s : List Char) : Option (Value × List Char) :=
  (digits? asciiDigit? s).map fun (digits, afterAll) =>
    let (whole, rest) := if digits.head? == some 0 then ([0], s.drop 1) else (digits, afterAll)
    let fraction := fraction? rest
    let afterFraction := (fraction.map (·.2)).getD rest
    let exponent := exponent? afterFraction
    let after := (exponent.map (·.2)).getD afterFraction
    if fraction.isNone && exponent.isNone then
      let n : Int := ofDigits 10 whole
      (.int (if negative then -n else n), after)
    else
      let places := (fraction.map (·.1)).getD []
      let tens := (exponent.map (·.1)).getD 0 - places.length
      (.float (Double.ofDecimal negative (ofDigits 10 (whole ++ places)) tens), after)

def number? (s : List Char) : Option (Value × List Char) :=
  let whole (base : Nat) (value? : Char → Option Nat) (s : List Char) : Option (Value × List Char) :=
    (digits? value? s).map fun r => (.int (ofDigits base r.1), r.2)
  match s with
  | '0' :: 'x' :: rest => whole 16 hexDigit? rest
  | '0' :: 'o' :: rest => whole 8 (smallDigit? 8) rest
  | '0' :: 'b' :: rest => whole 2 (smallDigit? 2) rest
  | '+' :: 'i' :: 'n' :: 'f' :: rest => some (.float (.infinity false), rest)
  | '-' :: 'i' :: 'n' :: 'f' :: rest => some (.float (.infinity true), rest)
  | 'i' :: 'n' :: 'f' :: rest => some (.float (.infinity false), rest)
  | '+' :: 'n' :: 'a' :: 'n' :: rest => some (.float .nan, rest)
  | '-' :: 'n' :: 'a' :: 'n' :: rest => some (.float .nan, rest)
  | 'n' :: 'a' :: 'n' :: rest => some (.float .nan, rest)
  | '+' :: rest => decimal? false rest
  | '-' :: rest => decimal? true rest
  | rest => decimal? false rest

/-- The text begins with digits in groups of these lengths, with the given marks between. -/
def hasGroups : List (Nat × Char) → Nat → List Char → Bool
  | [], last, s => (s.take last).length == last && (s.take last).all Char.isDigit
  | (n, mark) :: more, last, s =>
    (s.take n).length == n && (s.take n).all Char.isDigit && (s.drop n).head? == some mark &&
      hasGroups more last (s.drop (n + 1))

def isDate (s : List Char) : Bool := hasGroups [(4, '-'), (2, '-')] 2 s

def isTime (s : List Char) : Bool := hasGroups [(2, ':'), (2, ':')] 2 s

/-- How long a time of day is that the text begins with. -/
def timeLength (s : List Char) : Nat :=
  match s.drop 8 with
  | '.' :: rest => 9 + (rest.takeWhile Char.isDigit).length
  | _ => 8

/-- How long the offset of a time is that the text begins with. -/
def offsetLength (s : List Char) : Nat :=
  match s with
  | 'Z' :: _ => 1
  | 'z' :: _ => 1
  | '+' :: rest => if hasGroups [(2, ':')] 2 rest then 6 else 0
  | '-' :: rest => if hasGroups [(2, ':')] 2 rest then 6 else 0
  | _ => 0

/-- A date, a time or both, kept as it is written. -/
def moment? (s : List Char) : Option (Value × List Char) :=
  let take (n : Nat) : Option (Value × List Char) := some (.text (String.ofList (s.take n)), s.drop n)
  if isDate s then
    match s.drop 10 with
    | c :: rest =>
      if (c == 'T' || c == 't' || c == ' ') && isTime rest then
        let length := timeLength rest
        take (11 + length + offsetLength (rest.drop length))
      else take 10
    | [] => take 10
  else if isTime s then take (timeLength s)
  else none

/-- A value that holds no others. -/
def atom? (s : List Char) : Option (Value × List Char) :=
  match s with
  | 't' :: 'r' :: 'u' :: 'e' :: rest => some (.bool true, rest)
  | 'f' :: 'a' :: 'l' :: 's' :: 'e' :: rest => some (.bool false, rest)
  | '"' :: _ => (string? s).map fun r => (.text r.1, r.2)
  | '\'' :: _ => (string? s).map fun r => (.text r.1, r.2)
  | s => (moment? s).or (number? s)

end ChatMarkup.Toml
