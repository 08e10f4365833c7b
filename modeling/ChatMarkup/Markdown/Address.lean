import ChatMarkup.CharRef.Decode
import ChatMarkup.Text.Punctuation
import ChatMarkup.Text.Utf8

/-!
# Addresses

The address of a link is written with backslash escapes and character references. What it denotes
is encoded: a character that has no place in an address is written as the bytes of its UTF-8 form,
each as a percent sign with two hexadecimal digits.
-/
namespace ChatMarkup.Markdown
open Text

/-- The text without the backslashes that escape punctuation. -/
def unescapePunctuation : List Char → List Char
  | '\\' :: c :: rest =>
    if isAsciiPunctuation c then c :: unescapePunctuation rest
    else '\\' :: unescapePunctuation (c :: rest)
  | c :: rest => c :: unescapePunctuation rest
  | [] => []

def isPlainInAddress (c : Char) : Bool :=
  c.isAlphanum || "_.-~:/?#@!$&()*+,;=%".toList.contains c

def capitalHexDigit (n : Nat) : Char := Char.ofNat (if n < 10 then n + 48 else n + 55)

def percentByte (b : UInt8) : List Char :=
  ['%', capitalHexDigit (b.toNat / 16), capitalHexDigit (b.toNat % 16)]

/-- A character of an address, encoded unless it stands for itself. -/
def percentChar (c : Char) : List Char :=
  if isPlainInAddress c then [c] else (encodeChar c).flatMap percentByte

def percentEncode (s : List Char) : List Char := s.flatMap percentChar

/-- The address of a link from its written form without backslashes. -/
def address (s : List Char) : String := String.ofList (percentEncode (CharRef.decodeAddress s))

end ChatMarkup.Markdown
