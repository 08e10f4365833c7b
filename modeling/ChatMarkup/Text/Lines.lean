import ChatMarkup.Text.Blank

/-!
# Lines of text

A text may end its lines in many ways: a carriage return and a line feed, either of them alone,
tabs and feeds of the vertical kind, some separators, and the line and paragraph separators of
Unicode.
-/
namespace ChatMarkup.Text

def endsLine (c : Char) : Bool :=
  let n := c.toNat
  (10 ≤ n && n ≤ 13) || (28 ≤ n && n ≤ 30) || n == 0x85 || n == 0x2028 || n == 0x2029

/-- The lines of a text without what ends them; the first argument holds the line that is being
read, last character first. A line end at the end of the text begins no further line. -/
def linesFrom : List Char → List Char → List (List Char)
  | [], [] => []
  | line, [] => [line.reverse]
  | line, '\r' :: '\n' :: rest => line.reverse :: linesFrom [] rest
  | line, c :: rest =>
    if endsLine c then line.reverse :: linesFrom [] rest else linesFrom (c :: line) rest

def lines (s : List Char) : List (List Char) := linesFrom [] s

/-- The text with each carriage return, and a line feed right after it, as one line feed. -/
def normalizeLineFeeds : List Char → List Char
  | '\r' :: '\n' :: rest => '\n' :: normalizeLineFeeds rest
  | '\r' :: rest => '\n' :: normalizeLineFeeds rest
  | c :: rest => c :: normalizeLineFeeds rest
  | [] => []

end ChatMarkup.Text
