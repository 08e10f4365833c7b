import Std.Data.HashMap
import ChatMarkup.CharRef.Table
import ChatMarkup.Text.Digit

/-!
# Decoding character references

A reference names a character by a word or a number between an ampersand and a semicolon. Names
that nothing is called by stay as they are, save that some words stand for their character even
at the start of a longer name. Numbers that are no characters give the replacement character or
nothing; numbers of the old Western code page give the characters that stand there.
-/
namespace ChatMarkup.CharRef
open Text

/-- A name and the characters it stands for. -/
def entry? (packed : String) : Option (String × List Char) :=
  match packed.splitOn "=" with
  | [name, codes] =>
    some (name, (codes.splitOn "+").map fun code =>
      Char.ofNat (ofDigits 16 (code.toList.filterMap hexDigit?)))
  | _ => none

def namedTable : Std.HashMap String (List Char) :=
  Std.HashMap.ofList ((namedLines.flatMap (·.splitOn " ")).filterMap entry?)

/-- The names that need no semicolon, as a set. -/
def unterminatedTable : Std.HashMap String Unit :=
  Std.HashMap.ofList ((unterminatedLines.flatMap (·.splitOn " ")).map (·, ()))

def named? (name : List Char) : Option (List Char) :=
  match name with
  | ['a', 'm', 'p'] => some ['&']
  | ['l', 't'] => some ['<']
  | ['g', 't'] => some ['>']
  | ['q', 'u', 'o', 't'] => some ['"']
  | name => namedTable[String.ofList name]?

/-- The longest start of a name, of two characters or more, that needs no semicolon: the
characters it stands for, and what follows it. The first argument is the length to try. -/
def unterminated? (name : List Char) : Nat → Option (List Char × List Char)
  | 0 => none
  | n + 1 =>
    if n + 1 < 2 then none
    else
      let start := String.ofList (name.take (n + 1))
      if unterminatedTable.contains start then
        (named? start.toList).map fun cs => (cs, name.drop (n + 1))
      else unterminated? name n

def byName (name : List Char) : List Char :=
  match named? name with
  | some cs => cs
  | none =>
    match unterminated? name name.length with
    | some (cs, rest) => cs ++ rest ++ [';']
    | none => '&' :: name ++ [';']

/-- The characters of the Western code page at 128 to 159. -/
def westernPage : List Nat :=
  [0x20AC, 0x81, 0x201A, 0x192, 0x201E, 0x2026, 0x2020, 0x2021, 0x2C6, 0x2030, 0x160, 0x2039,
   0x152, 0x8D, 0x17D, 0x8F, 0x90, 0x2018, 0x2019, 0x201C, 0x201D, 0x2022, 0x2013, 0x2014, 0x2DC,
   0x2122, 0x161, 0x203A, 0x153, 0x9D, 0x17E, 0x178]

def isSilent (n : Nat) : Bool :=
  (1 ≤ n && n ≤ 8) || n == 0xB || (0xE ≤ n && n ≤ 0x1F) || (0x7F ≤ n && n ≤ 0x9F) ||
    (0xFDD0 ≤ n && n ≤ 0xFDEF) || (n % 0x10000 == 0xFFFE) || (n % 0x10000 == 0xFFFF)

def byNumber (n : Nat) : List Char :=
  if n == 0 then [Char.ofNat 0xFFFD]
  else if n == 13 then ['\r']
  else if 128 ≤ n && n ≤ 159 then [Char.ofNat (westernPage[n - 128]?.getD 0xFFFD)]
  else if (0xD800 ≤ n && n ≤ 0xDFFF) || 0x10FFFF < n then [Char.ofNat 0xFFFD]
  else if isSilent n then []
  else [Char.ofNat n]

/-- The number of a reference that begins after a number sign, and how many characters it takes
with its semicolon; at most `decimals` decimal or `hexes` hexadecimal digits. -/
def numberAt? (decimals hexes : Nat) (s : List Char) : Option (Nat × Nat) :=
  let (base, sign, body) := match s with
    | 'x' :: rest => (16, 1, rest)
    | 'X' :: rest => (16, 1, rest)
    | _ => (10, 0, s)
  let value? := if base == 16 then hexDigit? else asciiDigit?
  let limit := if base == 16 then hexes else decimals
  let digits := body.takeWhile fun c => (value? c).isSome
  if digits.isEmpty || limit < digits.length then none
  else match body.drop digits.length with
    | ';' :: _ => some (ofDigits base (digits.filterMap value?), sign + digits.length + 1)
    | _ => none

/-- The reference after an ampersand in a text: the characters in its place, and how many
characters it takes. Names begin with a letter and go on with letters and digits. -/
def inText? (s : List Char) : Option (List Char × Nat) :=
  match s with
  | '#' :: rest => (numberAt? 7 6 rest).map fun (n, length) => (byNumber n, length + 1)
  | c :: rest =>
    let more := rest.takeWhile Char.isAlphanum
    if c.isAlpha && 1 ≤ more.length && more.length ≤ 31 then
      match rest.drop more.length with
      | ';' :: _ => some (byName (c :: more), more.length + 2)
      | _ => none
    else none
  | [] => none

/-- The character may stand in a name in an address. -/
def inAddressName (c : Char) : Bool :=
  !("\t\n <&#;".toList.contains c) && c.toNat != 12

/-- The reference after an ampersand in an address, where names may hold almost anything. -/
def inAddress? (s : List Char) : Option (List Char × Nat) :=
  match s with
  | '#' :: rest =>
    (numberAt? 7 rest.length rest).map fun (n, length) => (byNumber n, length + 1)
  | s =>
    let name := s.takeWhile inAddressName
    if 1 ≤ name.length && name.length ≤ 32 then
      match s.drop name.length with
      | ';' :: _ => some (byName name, name.length + 1)
      | _ => none
    else none

/-- Replaces the references that `find?` sees after ampersands. The first number counts the
characters of a reference that are still to be passed over. -/
def replaceFrom (find? : List Char → Option (List Char × Nat)) : Nat → List Char → List Char
  | _, [] => []
  | skip + 1, _ :: rest => replaceFrom find? skip rest
  | 0, c :: rest =>
    if c == '&' then
      match find? rest with
      | some (cs, n) => cs ++ replaceFrom find? n rest
      | none => c :: replaceFrom find? 0 rest
    else c :: replaceFrom find? 0 rest

def decodeText (s : List Char) : List Char := replaceFrom inText? 0 s

def decodeAddress (s : List Char) : List Char := replaceFrom inAddress? 0 s

end ChatMarkup.CharRef
