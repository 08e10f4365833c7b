import ChatMarkup.Text.Blank
import ChatMarkup.Text.Search
import ChatMarkup.Text.Word

/-!
# Markup tokens

Message markup is a row of atomic pieces: a tag from its opening to its closing bracket, a run of
text without an opening bracket, or an opening bracket that never closes, up to the next one.
Together they cover the markup. A cut between two pieces never falls inside a tag; some pieces
also mark a good place to end a message.
-/
namespace ChatMarkup.Markup
open Text

def inTag (c : Char) : Bool := c != '<' && c != '>'

/-- The token that begins with `c` when `rest` follows it, and what follows the token. -/
def firstToken (c : Char) (rest : List Char) : List Char × List Char :=
  if c == '<' then
    match rest.dropWhile inTag with
    | '>' :: after => (c :: rest.takeWhile inTag ++ ['>'], after)
    | after => (c :: rest.takeWhile inTag, after)
  else (c :: rest.takeWhile (· != '<'), rest.dropWhile (· != '<'))

/-- Nothing is lost between a token and what follows it. -/
theorem firstToken_append (c : Char) (rest : List Char) :
    (firstToken c rest).1 ++ (firstToken c rest).2 = c :: rest := by
  unfold firstToken
  split
  · split
    · next after h => simp [← h]
    · simp
  · simp

/-- A token has at least its first character. -/
theorem firstToken_length_pos (c : Char) (rest : List Char) :
    0 < (firstToken c rest).1.length := by
  unfold firstToken
  split
  · split <;> simp
  · simp

/-- What follows a token is shorter than what the token was read from. -/
theorem firstToken_rest_length (c : Char) (rest : List Char) :
    (firstToken c rest).2.length < (c :: rest).length := by
  have h := congrArg List.length (firstToken_append c rest)
  have p := firstToken_length_pos c rest
  simp only [List.length_append] at h
  omega

def tokens : List Char → List (List Char)
  | [] => []
  | c :: rest => (firstToken c rest).1 :: tokens (firstToken c rest).2
termination_by s => s.length
decreasing_by exact firstToken_rest_length c rest

def isTag : List Char → Bool
  | '<' :: rest => rest.getLast? == some '>'
  | _ => false

/-- The lower-case form of a character, as far as tag names need it: the dotted capital I has a
two-character form, and the Kelvin sign is a capital K. -/
def foldCase (c : Char) : List Char :=
  if c.toNat == 0x212A then ['k']
  else if c.toNat == 0x130 then ['i', Char.ofNat 0x307]
  else [c.toLower]

/-- Closing tags after which a message may end. -/
def safeClosingTags : List (List Char) :=
  ["</pre>".toList, "</blockquote>".toList, "</table>".toList, "</ul>".toList, "</ol>".toList,
   "</div>".toList, "</p>".toList, "</b>".toList, "</i>".toList, "</code>".toList]

/-- Starts of the line break and rule tags after which a message may end. -/
def safeRuleTags : List (List Char) :=
  ["<hr".toList, "<br".toList, "<thematicbreak".toList]

/-- The text begins with the name of a rule tag, and the name ends there. -/
def startsWithRule (s : List Char) : Bool :=
  safeRuleTags.any fun t =>
    match afterStart? t s with
    | some (c :: _) => !isWord c
    | some [] => true
    | none => false

/-- A message may end after this token: a closing tag of a block or of simple inline markup, a
line break or rule, or blank text. -/
def isSafeBoundary (token : List Char) : Bool :=
  let folded := token.flatMap foldCase
  safeClosingTags.any (endsWith · folded) || startsWithRule folded || isBlankRun token

def stripTags (s : List Char) : List Char :=
  ((tokens s).filter fun t => !isTag t).flatten

def blankReferences : List (List Char) :=
  ["&nbsp;".toList, "&#160;".toList, "&#xa0;".toList, "&#xA0;".toList, "&#32;".toList,
   "&#x20;".toList]

/-- The length of the blank reference at the start of the text. -/
def blankReferenceLength? (s : List Char) : Option Nat :=
  (blankReferences.find? (·.isPrefixOf s)).map List.length

/-- Leaves out blank references. The number counts the characters of a reference that are still
to be passed over. -/
def dropBlankReferencesFrom : Nat → List Char → List Char
  | _, [] => []
  | skip + 1, _ :: rest => dropBlankReferencesFrom skip rest
  | 0, c :: rest =>
    match blankReferenceLength? (c :: rest) with
    | some n => dropBlankReferencesFrom (n - 1) rest
    | none => c :: dropBlankReferencesFrom 0 rest

def dropBlankReferences (s : List Char) : List Char := dropBlankReferencesFrom 0 s

/-- Something is left to see once tags, blank references and blanks are taken away. -/
def hasVisibleContent (s : List Char) : Bool :=
  !(dropBlankReferences (stripTags s)).all isBlank

end ChatMarkup.Markup
