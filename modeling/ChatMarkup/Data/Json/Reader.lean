import ChatMarkup.Data.Value
import ChatMarkup.Number.Integer

/-!
# Reading JSON

A reader for JSON texts that says where a text stops being JSON. It also takes the names of the
infinities and of the value that is no number. In an object, a repeated name keeps its first place
and its last value. An integer of too many digits is refused. A surrogate escape without its partner
reads as the replacement character U+FFFD, as there is no character for half a pair here; a reader
whose texts are rows of code points keeps it.
-/
namespace ChatMarkup.Json
open Text

inductive Fault where
  | expectingValue
  | expectingName
  | expectingColon
  | expectingComma
  | unterminatedString
  | invalidControl
  | invalidEscape
  | invalidUnicodeEscape
  | extraData
  | byteOrderMark
deriving DecidableEq, Repr

def Fault.text : Fault → String
  | .expectingValue => "Expecting value"
  | .expectingName => "Expecting property name enclosed in double quotes"
  | .expectingColon => "Expecting ':' delimiter"
  | .expectingComma => "Expecting ',' delimiter"
  | .unterminatedString => "Unterminated string starting at"
  | .invalidControl => "Invalid control character at"
  | .invalidEscape => "Invalid \\escape"
  | .invalidUnicodeEscape => "Invalid \\uXXXX escape"
  | .extraData => "Extra data"
  | .byteOrderMark => "Unexpected UTF-8 BOM (decode using utf-8-sig)"

inductive ReadError where
  /-- It is no JSON: there is a fault at a place, in characters from the start. -/
  | malformed (fault : Fault) (position : Nat)
  /-- There is an integer of so many digits. -/
  | longNumber (digits : Nat)
deriving DecidableEq, Repr

/-- The wording of an error in a text, with line and column counted from one. -/
def ReadError.message (e : ReadError) (s : List Char) : String :=
  match e with
  | .malformed fault position =>
    let before := s.take position
    let line := before.count '\n' + 1
    let column := (before.reverse.takeWhile (· != '\n')).length + 1
    s!"{fault.text}: line {line} column {column} (char {position})"
  | .longNumber digits => Number.longReadMessage digits

/-- A place in the text: what is left, and how much came before. -/
structure Cursor where
  rest : List Char
  position : Nat
deriving DecidableEq, Repr

namespace Cursor

def skip (c : Cursor) (n : Nat) : Cursor := ⟨c.rest.drop n, c.position + n⟩

def isSpace (c : Char) : Bool := c == ' ' || c == '\t' || c == '\n' || c == '\r'

def skipSpaces (c : Cursor) : Cursor := c.skip (c.rest.takeWhile isSpace).length

def fail {α : Type} (c : Cursor) (fault : Fault) : Except ReadError α :=
  .error (.malformed fault c.position)

end Cursor

/-- The number that four hexadecimal digits denote. -/
def hexUnit? (s : List Char) : Option Nat :=
  if (s.take 4).length < 4 then none
  else ((s.take 4).mapM hexDigit?).map (ofDigits 16)

/-- The character that a simple escape stands for. -/
def simpleEscape? : Char → Option Char
  | '"' => some '"'
  | '\\' => some '\\'
  | '/' => some '/'
  | 'b' => some (Char.ofNat 8)
  | 'f' => some (Char.ofNat 12)
  | 'n' => some '\n'
  | 'r' => some '\r'
  | 't' => some '\t'
  | _ => none

def isHighSurrogate (n : Nat) : Bool := 0xD800 ≤ n && n ≤ 0xDBFF

def isLowSurrogate (n : Nat) : Bool := 0xDC00 ≤ n && n ≤ 0xDFFF

/-- The character of a code unit; half a pair stands for nothing. -/
def unitChar (n : Nat) : Char :=
  if 0xD800 ≤ n && n ≤ 0xDFFF then Char.ofNat 0xFFFD else Char.ofNat n

/-- The character of an escape by code unit at a cursor that stands after its `u`, and the length
of what was read there. -/
def unicodeEscape (c : Cursor) : Except ReadError (Char × Nat) :=
  let fault : ReadError := .malformed .invalidUnicodeEscape (c.position - 1)
  if (c.rest.drop 4).isEmpty then .error fault
  else match hexUnit? c.rest with
    | none => .error fault
    | some n =>
      match c.rest.drop 4 with
      | '\\' :: 'u' :: more =>
        if isHighSurrogate n && !(more.drop 4).isEmpty then
          match hexUnit? more with
          | none => .error (.malformed .invalidUnicodeEscape (c.position + 5))
          | some m =>
            if isLowSurrogate m then
              .ok (Char.ofNat (0x10000 + (n - 0xD800) * 0x400 + (m - 0xDC00)), 10)
            else .ok (unitChar n, 4)
        else .ok (unitChar n, 4)
      | _ => .ok (unitChar n, 4)

/-- The rest of a quoted text whose opening quote stands at `start`; `read` holds the characters
read so far, last first. The first argument bounds the length of the reading. -/
def stringFrom : Nat → Nat → List Char → Cursor → Except ReadError (String × Cursor)
  | 0, start, _, _ => .error (.malformed .unterminatedString start)
  | fuel + 1, start, read, c =>
    match c.rest with
    | [] => .error (.malformed .unterminatedString start)
    | '"' :: _ => .ok (String.ofList read.reverse, c.skip 1)
    | '\\' :: after =>
      match after with
      | [] => .error (.malformed .unterminatedString start)
      | 'u' :: _ => do
        let (ch, n) ← unicodeEscape (c.skip 2)
        stringFrom fuel start (ch :: read) (c.skip (2 + n))
      | e :: _ => match simpleEscape? e with
        | some ch => stringFrom fuel start (ch :: read) (c.skip 2)
        | none => c.fail .invalidEscape
    | ch :: _ =>
      if ch.toNat < 32 then c.fail .invalidControl
      else stringFrom fuel start (ch :: read) (c.skip 1)

/-- A quoted text at a cursor that stands on its opening quote; the first argument bounds the length
of the reading. -/
def string (fuel : Nat) (c : Cursor) : Except ReadError (String × Cursor) :=
  stringFrom fuel c.position [] (c.skip 1)

structure NumberParts where
  negative : Bool
  whole : List Char
  fraction : List Char
  exponent : Option Int
  length : Nat
deriving DecidableEq, Repr

def digitsValue (s : List Char) : Nat := ofDigits 10 (s.filterMap asciiDigit?)

/-- The exponent at the start of a text and the length of its writing. -/
def exponentAt? : List Char → Option (Int × Nat)
  | e :: rest =>
    if e == 'e' || e == 'E' then
      let (negative, signLength, body) := match rest with
        | '-' :: more => (true, 1, more)
        | '+' :: more => (false, 1, more)
        | _ => (false, 0, rest)
      let digits := body.takeWhile Char.isDigit
      if digits.isEmpty then none
      else
        let n : Int := digitsValue digits
        some (if negative then -n else n, 1 + signLength + digits.length)
    else none
  | [] => none

/-- The parts of the number at the start of a text. -/
def numberParts? (s : List Char) : Option NumberParts :=
  let (negative, body) := match s with
    | '-' :: more => (true, more)
    | _ => (false, s)
  let whole := match body with
    | '0' :: _ => ['0']
    | _ => body.takeWhile Char.isDigit
  if whole.isEmpty then none
  else
    let after := body.drop whole.length
    let fraction := match after with
      | '.' :: more => more.takeWhile Char.isDigit
      | _ => []
    let pointed := if fraction.isEmpty then 0 else fraction.length + 1
    let exponent := exponentAt? (after.drop pointed)
    some {
      negative, whole, fraction
      exponent := exponent.map (·.1)
      length := (if negative then 1 else 0) + whole.length + pointed +
        (exponent.map (·.2)).getD 0 }

def NumberParts.isLong (p : NumberParts) : Bool :=
  p.fraction.isEmpty && p.exponent.isNone && Number.maxDigits < p.whole.length

/-- The value of a number: an integer unless it has a fraction or an exponent. -/
def NumberParts.value (p : NumberParts) : Value :=
  if p.fraction.isEmpty && p.exponent.isNone then
    let n : Int := digitsValue p.whole
    .int (if p.negative then -n else n)
  else
    .float (Double.ofDecimal p.negative (digitsValue (p.whole ++ p.fraction))
      (p.exponent.getD 0 - p.fraction.length))

def namedValues : List (List Char × Value) :=
  [("null".toList, .null), ("true".toList, .bool true), ("false".toList, .bool false),
   ("NaN".toList, .float .nan), ("Infinity".toList, .float (.infinity false)),
   ("-Infinity".toList, .float (.infinity true))]

def atom (c : Cursor) : Except ReadError (Value × Cursor) :=
  match namedValues.find? fun w => w.1.isPrefixOf c.rest with
  | some (word, v) => .ok (v, c.skip word.length)
  | none => match numberParts? c.rest with
    | some p =>
      if p.isLong then .error (.longNumber p.whole.length) else .ok (p.value, c.skip p.length)
    | none => c.fail .expectingValue

mutual

/-- The value at the cursor. The first argument bounds the depth and length of the reading. -/
def valueAt : Nat → Cursor → Except ReadError (Value × Cursor)
  | 0, c => c.fail .expectingValue
  | fuel + 1, c =>
    match c.rest with
    | '"' :: _ => do
      let (s, c) ← string fuel c
      .ok (.text s, c)
    | '[' :: _ => do
      let c := (c.skip 1).skipSpaces
      match c.rest with
      | ']' :: _ => .ok (.list [], c.skip 1)
      | _ => do
        let (items, c) ← itemsAt fuel c
        .ok (.list items, c)
    | '\x7b' :: _ => do
      let c := (c.skip 1).skipSpaces
      match c.rest with
      | '\x7d' :: _ => .ok (.object [], c.skip 1)
      | _ => do
        let (members, c) ← membersAt fuel c
        .ok (.object (Members.ofPairs members), c)
    | _ => atom c

/-- The items of a list, up to and with its closing bracket. -/
def itemsAt : Nat → Cursor → Except ReadError (List Value × Cursor)
  | 0, c => c.fail .expectingValue
  | fuel + 1, c => do
    let (v, c) ← valueAt fuel c
    let c := c.skipSpaces
    match c.rest with
    | ']' :: _ => .ok ([v], c.skip 1)
    | ',' :: _ => do
      let (more, c) ← itemsAt fuel (c.skip 1).skipSpaces
      .ok (v :: more, c)
    | _ => c.fail .expectingComma

/-- The members of an object, up to and with its closing brace. -/
def membersAt : Nat → Cursor → Except ReadError (List (String × Value) × Cursor)
  | 0, c => c.fail .expectingName
  | fuel + 1, c =>
    match c.rest with
    | '"' :: _ => do
      let (key, c) ← string fuel c
      let c := c.skipSpaces
      match c.rest with
      | ':' :: _ => do
        let (v, c) ← valueAt fuel (c.skip 1).skipSpaces
        let c := c.skipSpaces
        match c.rest with
        | '\x7d' :: _ => .ok ([(key, v)], c.skip 1)
        | ',' :: _ => do
          let (more, c) ← membersAt fuel (c.skip 1).skipSpaces
          .ok ((key, v) :: more, c)
        | _ => c.fail .expectingComma
      | _ => c.fail .expectingColon
    | _ => c.fail .expectingName

end

def readChars (s : List Char) : Except ReadError Value :=
  if s.head? == some (Char.ofNat 0xFEFF) then .error (.malformed .byteOrderMark 0)
  else do
    let (v, c) ← valueAt (2 * s.length + 2) (Cursor.mk s 0).skipSpaces
    let c := c.skipSpaces
    if c.rest.isEmpty then .ok v else c.fail .extraData

def read (s : String) : Except ReadError Value := readChars s.toList

end ChatMarkup.Json
