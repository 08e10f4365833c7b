import ChatMarkup.Markdown.HtmlBlock

/-!
# Block quotes

The lines of a quote begin with a mark, which is no part of what they say. A line without the mark
may go on with the paragraph at the end of a quote, unless it begins something else.
-/
namespace ChatMarkup.Markdown
open Text

/-- What a line says after the mark of a quote: a tab there counts as spaces, and one space belongs
to the mark. -/
def unquoted (afterMark : Line) : Line :=
  match expandTabTo 3 afterMark with
  | ' ' :: rest => rest
  | l => l

def quoteLine? (l : Line) : Option Line := (quoted? 3 l).map unquoted

/-- A line without the mark that ends a quote, and does not go on with its last paragraph. -/
def endsQuote (l : Line) : Bool :=
  isEmptyLine l || isRule 3 l || (fence? 3 l).any Fence.isSound || (listMarker? 3 l).isSome ||
    isHtmlBreak 3 l

/-- The lines of a quote and those after it, where lines without the mark may belong to it. The
flag tells that the line before says nothing. -/
def looseQuote : Bool → List Line → List Line × List Line
  | _, [] => ([], [])
  | afterEmpty, l :: rest =>
    match quoteLine? l with
    | some said =>
      let more := looseQuote (said.all isBlank) rest
      (said :: more.1, more.2)
    | none =>
      if afterEmpty || endsQuote l then ([], l :: rest)
      else
        let more := looseQuote false rest
        (expandTabTo 3 l :: more.1, more.2)

/-- The lines of a quote and those after it, where each line of it has the mark. -/
def strictQuote : List Line → List Line × List Line
  | [] => ([], [])
  | l :: rest =>
    match quoteLine? l with
    | some said =>
      let more := strictQuote rest
      (said :: more.1, more.2)
    | none => ([], l :: rest)

/-- What the lines of a quote say, and the lines after it. The first argument is the first line
after its mark. A quote that begins with no paragraph has the mark on each line. -/
def quote (first : Line) (rest : List Line) : List Line × List Line :=
  let said := unquoted first
  let more :=
    if isEmptyLine said || isIndented said || (fence? 3 said).isSome then strictQuote rest
    else looseQuote false rest
  ((said :: more.1).map expandTabByFour, more.2)

end ChatMarkup.Markdown
