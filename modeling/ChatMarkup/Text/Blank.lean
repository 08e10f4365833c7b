/-!
# Blanks

The white space of every script, with the four information separators of ASCII. Trimming removes
blanks at the ends of a text; collapsing joins its words by single spaces.
-/
namespace ChatMarkup.Text

/-- White space of any script, or one of the information separators U+001C to U+001F. -/
def isBlank (c : Char) : Bool :=
  let n := c.toNat
  (9 ≤ n && n ≤ 13) || (28 ≤ n && n ≤ 32) || n == 0x85 || n == 0xA0 || n == 0x1680 ||
    (0x2000 ≤ n && n ≤ 0x200A) || n == 0x2028 || n == 0x2029 || n == 0x202F || n == 0x205F ||
    n == 0x3000

/-- The text without the characters at its end that satisfy the test. -/
def dropEnd (p : Char → Bool) (s : List Char) : List Char := (s.reverse.dropWhile p).reverse

def trimStart (s : List Char) : List Char := s.dropWhile isBlank

def trimEnd (s : List Char) : List Char := dropEnd isBlank s

def trim (s : List Char) : List Char := trimEnd (trimStart s)

def isBlankRun (s : List Char) : Bool := !s.isEmpty && s.all isBlank

/-- The words of a text: its maximal runs without blanks. The second argument holds the word that
is being read, last character first. -/
def wordsFrom : List Char → List Char → List (List Char)
  | [], [] => []
  | [], word => [word.reverse]
  | c :: rest, word =>
    if isBlank c then
      if word.isEmpty then wordsFrom rest [] else word.reverse :: wordsFrom rest []
    else wordsFrom rest (c :: word)

def words (s : List Char) : List (List Char) := wordsFrom s []

/-- The words of the text joined by single spaces. -/
def collapse (s : List Char) : List Char := [' '].intercalate (words s)

end ChatMarkup.Text
