import ChatMarkup.Text.Utf8
import ChatMarkup.Url.Host

/-!
# Queries

The query of an address is a row of pairs. A pair without a value does not count. In names and
values a plus sign stands for a space, and a percent sign with two hexadecimal digits for a byte.
-/
namespace ChatMarkup.Url
open Text

def percentBytes : List Char → List UInt8
  | '%' :: a :: b :: rest =>
    match hexDigit? a, hexDigit? b with
    | some x, some y => UInt8.ofNat (16 * x + y) :: percentBytes rest
    | _, _ => encodeChar '%' ++ percentBytes (a :: b :: rest)
  | c :: rest => encodeChar c ++ percentBytes rest
  | [] => []

/-- Decodes the escapes of a text. Bytes join into characters only within a run of ASCII; the
first argument holds the run that is being read, last character first. -/
def percentDecodeFrom (run : List Char) : List Char → List Char
  | [] => decodeUtf8 (percentBytes run.reverse)
  | c :: rest =>
    if c.toNat < 128 then percentDecodeFrom (c :: run) rest
    else decodeUtf8 (percentBytes run.reverse) ++ c :: percentDecodeFrom [] rest

/-- A name or value of a query in plain text. -/
def decodeComponent (s : List Char) : List Char :=
  percentDecodeFrom [] (s.map fun c => if c == '+' then ' ' else c)

/-- The name and value of a pair, if it has a value that is not empty. -/
def pair? (s : List Char) : Option (List Char × List Char) :=
  match cutAt? ['='] s with
  | some (name, value) =>
    if value.isEmpty then none else some (decodeComponent name, decodeComponent value)
  | none => none

def pairs (query : List Char) : List (List Char × List Char) :=
  (splitAt '&' query).filterMap pair?

/-- The query of an address that begins with a scheme and two slashes; `none` if the part between
them and the path is malformed. Tabs and line breaks do not count. -/
def query? (address : List Char) : Option (List Char) :=
  let s := address.filter fun c => c != '\t' && c != '\r' && c != '\n'
  let rest := match cutAt? "://".toList s with
    | some (_, rest) => rest
    | none => s
  let inAuthority (c : Char) : Bool := c != '/' && c != '?' && c != '#'
  if isAuthority (rest.takeWhile inAuthority) then
    let path := (rest.dropWhile inAuthority).takeWhile (· != '#')
    some ((path.dropWhile (· != '?')).drop 1)
  else none

/-- The first value that a query gives a name. -/
def valueIn? (name query : List Char) : Option (List Char) :=
  ((pairs query).find? (·.1 == name)).map (·.2)

def queryValue? (name address : List Char) : Option (List Char) :=
  (query? address).bind (valueIn? name)

end ChatMarkup.Url
