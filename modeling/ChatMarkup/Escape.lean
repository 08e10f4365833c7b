import ChatMarkup.Text.Search

/-!
# Escaping

Four characters are reserved in message markup, and each is written as a character reference.
Separately, a text that came through a transport with backslash escapes is cleaned by undoing one
level of them.
-/
namespace ChatMarkup

/-- The written form of one character: a reference for the reserved ones, itself otherwise. -/
def escapeChar : Char → List Char
  | '&' => "&amp;".toList
  | '<' => "&lt;".toList
  | '>' => "&gt;".toList
  | '"' => "&quot;".toList
  | c => [c]

def escape (s : List Char) : List Char := s.flatMap escapeChar

/-- Escaping works character by character, so it distributes over concatenation. -/
theorem escape_append (s t : List Char) : escape (s ++ t) = escape s ++ escape t := by
  simp [escape]

/-- Each pair of backslashes, from the left, becomes one. -/
def halveBackslashes : List Char → List Char
  | '\\' :: '\\' :: rest => '\\' :: halveBackslashes rest
  | c :: rest => c :: halveBackslashes rest
  | [] => []

def expandLineBreaks : List Char → List Char
  | '\\' :: 'n' :: rest => '\n' :: expandLineBreaks rest
  | c :: rest => c :: expandLineBreaks rest
  | [] => []

/-- One level of backslash escapes undone: first pairs of backslashes, then line breaks, so a
pair before an `n` ends up as a line break too. -/
def unescapeBackslashes (s : List Char) : List Char := expandLineBreaks (halveBackslashes s)

end ChatMarkup
