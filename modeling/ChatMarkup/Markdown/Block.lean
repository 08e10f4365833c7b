import ChatMarkup.Tree.Basic

/-!
# Pieces of Markdown

A Markdown text is a row of blocks, and the text of a block is a row of spans. Both are closer to
how the text is written than a document tree is: soft breaks, blank lines and raw HTML still show.
A block says nothing about what its text is read as, so the same type serves before the spans
are read and after.
-/
namespace ChatMarkup.Markdown

inductive Style where
  | strong
  | emphasis
  | strikethrough
deriving DecidableEq, Repr

/-- A piece of running text. Its raw text still holds character references. -/
inductive Span where
  | text (raw : String)
  | softBreak
  | lineBreak
  | styled (style : Style) (children : List Span)
  | code (raw : String)
  | link (url : String) (title : Option String) (children : List Span)
  | image (url : String) (title : Option String) (label : List Span)
  | html (raw : String)
  | other (name : String) (raw : Option String) (children : List Span)
deriving Repr, Inhabited

/-- A block, with the text of headings, paragraphs and table cells of type `α`. -/
inductive Block (α : Type) where
  | paragraph (content : α)
  | heading (level : Count) (content : α)
  | codeBlock (raw : String) (info : Option String)
  | blockQuote (children : List (Block α))
  | list (ordered : Bool) (start : Option Count) (tight : Bool) (items : List (List (Block α)))
  | table (header : Option (List α)) (rows : List (List α)) (align : List Value)
  | thematicBreak
  | html (raw : String)
  | blankLine
  | other (name : String) (raw : Option String) (children : List (Block α))
deriving Repr, Inhabited

namespace Block

variable {α β : Type}

mutual

def map (f : α → β) : Block α → Block β
  | .paragraph content => .paragraph (f content)
  | .heading level content => .heading level (f content)
  | .codeBlock raw info => .codeBlock raw info
  | .blockQuote children => .blockQuote (mapAll f children)
  | .list ordered start tight items => .list ordered start tight (mapItems f items)
  | .table header rows align =>
    .table (header.map fun cells => cells.map f) (rows.map fun cells => cells.map f) align
  | .thematicBreak => .thematicBreak
  | .html raw => .html raw
  | .blankLine => .blankLine
  | .other name raw children => .other name raw (mapAll f children)

def mapAll (f : α → β) : List (Block α) → List (Block β)
  | [] => []
  | b :: rest => map f b :: mapAll f rest

def mapItems (f : α → β) : List (List (Block α)) → List (List (Block β))
  | [] => []
  | item :: rest => mapAll f item :: mapItems f rest

end

def isParagraph : Block α → Bool
  | .paragraph _ => true
  | _ => false

def isBlankLine : Block α → Bool
  | .blankLine => true
  | _ => false

end Block

end ChatMarkup.Markdown
