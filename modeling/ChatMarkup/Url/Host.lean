import ChatMarkup.Text.Digit
import ChatMarkup.Text.Search

/-!
# Hosts in brackets

The host of an address may stand in brackets if it is an address of the sixth version of the
Internet protocol, or of a future version that says so. A host may also not hold characters that
stand for one of the delimiters of an address in a compatible form.
-/
namespace ChatMarkup.Url
open Text

def isOctet (s : List Char) : Bool :=
  !s.isEmpty && s.length ≤ 3 && s.all Char.isDigit && (s.length == 1 || s.head? != some '0') &&
    ofDigits 10 (s.filterMap asciiDigit?) ≤ 255

def isDotted (s : List Char) : Bool :=
  let parts := splitAt '.' s
  parts.length == 4 && parts.all isOctet

def isHextet (s : List Char) : Bool :=
  !s.isEmpty && s.length ≤ 4 && s.all fun c => (hexDigit? c).isSome

/-- An address of eight groups, where one run of zero groups may be left out, and the last two
groups may be dotted. -/
def isSixGroups (s : List Char) : Bool :=
  let parts := splitAt ':' s
  let last := parts.getLast?.getD []
  let dotted := last.contains '.'
  if parts.length < 3 || (dotted && !isDotted last) then false
  else
    let parts := if dotted then parts.dropLast ++ [['0'], ['0']] else parts
    let inner := (parts.drop 1).dropLast
    let gaps := inner.countP List.isEmpty
    let first := parts.head?.getD []
    let last := parts.getLast?.getD []
    let filled := (parts.filter fun p => !p.isEmpty).all isHextet
    if 9 < parts.length || 1 < gaps then false
    else if gaps == 1 then
      let gap := inner.findIdx List.isEmpty + 1
      let before := if first.isEmpty then gap - 1 else gap
      let after := if last.isEmpty then parts.length - gap - 2 else parts.length - gap - 1
      filled && !(first.isEmpty && gap != 1) &&
        !(last.isEmpty && parts.length - gap - 1 != 1) && before + after < 8
    else parts.length == 8 && !first.isEmpty && !last.isEmpty && filled

def isBracketedHost (s : List Char) : Bool :=
  match s with
  | 'v' :: rest =>
    let version := rest.takeWhile fun c => (hexDigit? c).isSome
    !version.isEmpty && match rest.drop version.length with
      | '.' :: _ :: _ => true
      | _ => false
  | s =>
    match cutAt? ['%'] s with
    | none => isSixGroups s
    | some (address, scope) => !scope.isEmpty && !scope.contains '%' && isSixGroups address

/-- Characters that stand for a slash, question mark, number sign, at sign or colon in a
compatible form. -/
def delimiterLookalikes : List Nat :=
  [0x2047, 0x2048, 0x2049, 0x2100, 0x2101, 0x2105, 0x2106, 0x2A74, 0xFE13, 0xFE16, 0xFE55,
   0xFE56, 0xFE5F, 0xFE6B, 0xFF03, 0xFF0F, 0xFF1A, 0xFF1F, 0xFF20]

/-- The part of an address between its two slashes and its path is well-formed. -/
def isAuthority (s : List Char) : Bool :=
  let brackets := match s.contains '[', s.contains ']' with
    | false, false => true
    | true, true =>
      let after := (s.dropWhile (· != '[')).drop 1
      isBracketedHost (after.takeWhile (· != ']'))
    | _, _ => false
  brackets && !s.any fun c => delimiterLookalikes.contains c.toNat

end ChatMarkup.Url
