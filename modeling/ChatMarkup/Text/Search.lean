/-!
# Searching text

Small searches over a list of characters: the first and the last place of a character, a piece cut
at a separator, a literal piece replaced from left to right.
-/
namespace ChatMarkup.Text

/-- The text begins with the given one; the answer is what follows it. -/
def afterStart? : List Char → List Char → Option (List Char)
  | [], s => some s
  | _ :: _, [] => none
  | p :: ps, c :: s => if p == c then afterStart? ps s else none

def endsWith (ending s : List Char) : Bool := ending.isSuffixOf s

def firstIndex? (p : Char → Bool) (s : List Char) : Option Nat := s.findIdx? p

def lastIndex? (c : Char) (s : List Char) : Option Nat :=
  (s.reverse.findIdx? (· == c)).map fun i => s.length - 1 - i

/-- The position of the last `opener` that no `closer` follows. -/
def danglingIndex? (opener closer : Char) (s : List Char) : Option Nat :=
  match lastIndex? opener s, lastIndex? closer s with
  | some i, some j => if j < i then some i else none
  | some i, none => some i
  | none, _ => none

/-- The pieces between occurrences of a character; one more than there are occurrences. -/
def splitAt (sep : Char) : List Char → List (List Char)
  | [] => [[]]
  | c :: rest =>
    if c == sep then [] :: splitAt sep rest
    else match splitAt sep rest with
      | [] => [[c]]
      | piece :: pieces => (c :: piece) :: pieces

/-- The text before the first occurrence of a piece, and the text after it. -/
def cutAt? (piece : List Char) : List Char → Option (List Char × List Char)
  | [] => if piece.isEmpty then some ([], []) else none
  | c :: rest =>
    match afterStart? piece (c :: rest) with
    | some after => some ([], after)
    | none => (cutAt? piece rest).map fun cut => (c :: cut.1, cut.2)

def contains (piece s : List Char) : Bool := (cutAt? piece s).isSome

/-- The text without its first characters that satisfy the test, at most `n` of them. -/
def dropUpTo (n : Nat) (p : Char → Bool) : List Char → List Char
  | [] => []
  | c :: rest => match n with
    | 0 => c :: rest
    | n + 1 => if p c then dropUpTo n p rest else c :: rest

end ChatMarkup.Text
