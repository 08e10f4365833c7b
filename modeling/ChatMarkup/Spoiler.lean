import ChatMarkup.Text.Blank
import ChatMarkup.Text.Search

/-!
# Spoilers

Text between two double bars is hidden until the reader asks for it. Markers pair up from left to
right, each with the nearest one after it. A pair stays as it is when the text shortly before it
ends in an address, since addresses may hold double bars themselves.
-/
namespace ChatMarkup.Spoiler
open Text

def marker : List Char := ['|', '|']

def openTag : List Char := "<tg-spoiler>".toList

def closeTag : List Char := "</tg-spoiler>".toList

/-- How many characters before a marker are searched for an address. -/
def window : Nat := 100

def schemes : List (List Char) :=
  ["http://".toList, "https://".toList, "tg://".toList, "ftp://".toList]

/-- Some place in the text is the start of an address. -/
def holdsScheme : List Char → Bool
  | [] => false
  | c :: rest => schemes.any (·.isPrefixOf (c :: rest)) || holdsScheme rest

/-- The text ends in an address: a scheme, and no blank after it. -/
def endsInAddress (s : List Char) : Bool :=
  holdsScheme (s.reverse.takeWhile fun c => !isBlank c).reverse

def cut? : List Char → Option (List Char × List Char)
  | '|' :: '|' :: rest => some ([], rest)
  | c :: rest => (cut? rest).map fun cut => (c :: cut.1, cut.2)
  | [] => none

/-- A cut leaves the marker out. -/
theorem cut?_eq {s a b : List Char} (h : cut? s = some (a, b)) : s = a ++ marker ++ b := by
  fun_induction cut? s generalizing a with
  | case1 rest =>
    obtain ⟨rfl, rfl⟩ : [] = a ∧ rest = b := by simpa using h
    rfl
  | case2 c rest _ ih =>
    obtain ⟨⟨u, v⟩, hu, he⟩ := Option.map_eq_some_iff.1 h
    cases he
    simp [ih hu]
  | case3 => simp at h

/-- Writes the pairs of markers in `s` as tags; `seen` is the text before it, last character first. -/
def hideAfter (seen s : List Char) : List Char :=
  match _h₁ : cut? s with
  | none => s
  | some (before, rest) =>
    match _h₂ : cut? rest with
    | none => s
    | some (hidden, after) =>
      let told := before.reverse ++ seen
      let passed := marker ++ hidden.reverse ++ marker ++ told
      let shown :=
        if endsInAddress (told.take window).reverse then marker ++ hidden ++ marker
        else openTag ++ hidden ++ closeTag
      before ++ shown ++ hideAfter passed after
termination_by s.length
decreasing_by
  have e₁ := cut?_eq _h₁
  have e₂ := cut?_eq _h₂
  subst e₁ e₂
  simp [marker]
  omega

/-- The text with its pairs of markers written as tags, save those that stand in addresses. -/
def hide (s : List Char) : List Char := hideAfter [] s

end ChatMarkup.Spoiler
