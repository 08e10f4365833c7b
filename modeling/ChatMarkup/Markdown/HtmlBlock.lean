import ChatMarkup.Markdown.Angle
import ChatMarkup.Markdown.Line

/-!
# Blocks of raw HTML

A line that begins with a tag or the like may begin a block of raw HTML. The block goes on to its
own end mark, or to the next empty line, depending on how it begins.
-/
namespace ChatMarkup.Markdown
open Text

/-- Tags that begin a block wherever they stand at the start of a line. -/
def blockTags : List String :=
  ["address", "article", "aside", "base", "basefont", "blockquote", "body", "caption", "center",
   "col", "colgroup", "dd", "details", "dialog", "dir", "div", "dl", "dt", "fieldset",
   "figcaption", "figure", "footer", "form", "frame", "frameset", "h1", "h2", "h3", "h4", "h5",
   "h6", "head", "header", "hr", "html", "iframe", "legend", "li", "link", "main", "menu",
   "menuitem", "meta", "nav", "noframes", "ol", "optgroup", "option", "p", "param", "section",
   "source", "summary", "table", "tbody", "td", "tfoot", "th", "thead", "title", "tr", "track",
   "ul"]

/-- Tags whose content is kept as it is up to the closing tag. -/
def rawTags : List String := ["pre", "script", "style", "textarea"]

inductive HtmlExtent where
  | through (mark : List Char)
  | toEmptyLine
deriving DecidableEq, Repr

/-- How a line begins a block of raw HTML: at once, or only if it is no part of a paragraph; `none`
there means that what follows the tag keeps it from beginning one. -/
inductive HtmlStart where
  | block (extent : HtmlExtent) (rest : Line)
  | standalone (extent : Option HtmlExtent)
deriving DecidableEq, Repr

/-- After the name of a tag there are only attributes and its end. -/
def endsOpenTag (l : Line) : Bool :=
  match (afterAttributes l.length l).dropWhile isGap with
  | '>' :: rest => rest.all isGap
  | _ => false

def endsCloseTag (l : Line) : Bool :=
  match l.dropWhile isGap with
  | '>' :: rest => rest.all isGap
  | _ => false

def smallName (name : List Char) : String := String.ofList (name.map Char.toLower)

/-- How a line begins raw HTML, if it looks like that. -/
def htmlStart? (l : Line) : Option HtmlStart :=
  match dedented? 3 l with
  | some ('<' :: '!' :: '-' :: '-' :: rest) => some (.block (.through ['-', '-', '>']) rest)
  | some ('<' :: '?' :: rest) => some (.block (.through ['?', '>']) rest)
  | some ('<' :: '!' :: '[' :: 'C' :: 'D' :: 'A' :: 'T' :: 'A' :: '[' :: rest) =>
    some (.block (.through [']', ']', '>']) rest)
  | some ('<' :: '!' :: c :: rest) =>
    if c.isUpper then some (.block (.through ['>']) rest) else none
  | some ('<' :: '/' :: rest) =>
    (tagName? rest).map fun (name, after) =>
      if blockTags.contains (smallName name) then .block .toEmptyLine after
      else .standalone (if endsCloseTag after then some .toEmptyLine else none)
  | some ('<' :: rest) =>
    (tagName? rest).map fun (name, after) =>
      let small := smallName name
      if rawTags.contains small then .block (.through ("</" ++ small ++ ">").toList) after
      else if blockTags.contains small then .block .toEmptyLine after
      else .standalone (if endsOpenTag after then some .toEmptyLine else none)
  | _ => none

/-- The lines up to the first that holds the mark, and those after it. -/
def throughMark (mark : List Char) : List Line → List Line × List Line
  | [] => ([], [])
  | l :: rest =>
    if contains mark l then ([l], rest)
    else
      let more := throughMark mark rest
      (l :: more.1, more.2)

/-- The lines of a block after its first, and the lines after the block. The first argument is
what the first line holds after its beginning. -/
def HtmlExtent.take (extent : HtmlExtent) (first : Line) (rest : List Line) :
    List Line × List Line :=
  match extent with
  | .through mark => if contains mark first then ([], rest) else throughMark mark rest
  | .toEmptyLine => rest.span fun l => !isEmptyLine l

/-- The line begins raw HTML that may end a quote or a list item before it. -/
def isHtmlBreak (limit : Nat) (l : Line) : Bool :=
  match dedented? limit l with
  | some ('<' :: '!' :: '-' :: '-' :: _) => true
  | some ('<' :: '?' :: _) => true
  | some ('<' :: '!' :: '[' :: 'C' :: 'D' :: 'A' :: 'T' :: 'A' :: '[' :: _) => true
  | some ('<' :: '!' :: c :: _) => c.isUpper
  | some ('<' :: rest) =>
    match tagName? (if rest.head? == some '/' then rest.drop 1 else rest) with
    | some (name, after) =>
      (blockTags ++ rawTags).contains (String.ofList name) && after.head?.all isGap
    | none => false
  | _ => false

end ChatMarkup.Markdown
