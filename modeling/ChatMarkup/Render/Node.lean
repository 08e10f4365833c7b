import ChatMarkup.Escape
import ChatMarkup.Render.Table
import ChatMarkup.Spoiler
import ChatMarkup.Text.Emoji
import ChatMarkup.Tree.Path
import ChatMarkup.Url.Query

/-!
# Rendering trees

Every node has a form in the markup of messages. Blocks end in line breaks, and a whole document
is trimmed. A block quote that is long, or whose text ends in the marker of spoilers, can be
folded; in the latter case the marker itself does not show. Images become links, save custom
emoji, which have a tag of their own. Nodes of an unknown kind show their children.
-/
namespace ChatMarkup.Render
open Text

def wrap (opener closer : String) (content : List Char) : List Char :=
  opener.toList ++ content ++ closer.toList

/-- Text with its reserved characters escaped and its spoilers tagged. -/
def textMarkup (s : List Char) : List Char := Spoiler.hide (escape s)

/-- The address that a custom emoji begins with. -/
def emojiAddress : List Char := "tg://emoji".toList

/-- Shown where a custom emoji has no emoji as its label. -/
def fallbackGlyph : List Char := "❓".toList

def defaultAlt : List Char := "image".toList

/-- The number of a custom emoji, if the address is one. -/
def emojiId? (address : List Char) : Option (List Char) :=
  if emojiAddress.isPrefixOf address then Url.queryValue? "id".toList address else none

/-- The text in the place of an absent or empty one. -/
def orElseText (s : Option String) (other : List Char) : List Char :=
  match (s.getD "").toList with
  | [] => other
  | cs => cs

/-- A custom emoji, with its label where that is an emoji too. -/
def emojiMarkup (id : List Char) (alt : Option String) : List Char :=
  let label := (alt.getD "").toList
  let shown := if isEmojiLabel label then label else fallbackGlyph
  "<tg-emoji emoji-id=\"".toList ++ escape id ++ "\">".toList ++ shown ++ "</tg-emoji>".toList

def imageLink (address : List Char) (alt : Option String) : List Char :=
  "<b><a href=\"".toList ++ escape address ++ "\">".toList ++
    escape (orElseText alt defaultAlt) ++ "</a></b>".toList

/-- An image: a custom emoji, or a link in bold. -/
def imageMarkup (address : List Char) (alt : Option String) : List Char :=
  match emojiId? address with
  | some id => emojiMarkup id alt
  | none => imageLink address alt

def leafMarkup : Leaf → List Char
  | .text value => textMarkup value.toList
  | .code value => wrap "<code>" "</code>" (escape value.toList)
  | .codeBlock value lang _ =>
    let language := match (lang.getD "").toList with
      | [] => []
      | name => " class=\"language-".toList ++ escape name ++ ['"']
    "<pre><code".toList ++ language ++ ['>'] ++ escape value.toList ++
      "</code></pre>\n".toList
  | .image url alt _ => imageMarkup url.toList alt
  | .lineBreak => ['\n']
  | .thematicBreak => "------\n\n".toList

/-- A quote that has more lines than this can be folded. -/
def foldLines : Nat := 4

/-- A quote that has more characters than this can be folded. -/
def foldLength : Nat := 320

def endsInMarker (text : List Char) : Bool := endsWith Spoiler.marker (trim text)

/-- A quote with this raw text can be folded. -/
def isExpandable (text : List Char) : Bool :=
  foldLines < text.count '\n' + 1 || foldLength < text.length || endsInMarker text

/-- A quote without the marker at its end, in the last text node that has it there. -/
def withoutMarker (quote : Node) : Node :=
  if endsInMarker quote.rawText then
    match quote.lastTextPath? Spoiler.marker with
    | none => quote
    | some path =>
      match quote.cutTextAt (path.map Int.ofNat) Spoiler.marker.length with
      | .ok cut => cut
      | .error _ => quote
  else quote

/-- Leaving out the marker keeps the number of nodes. -/
theorem size_withoutMarker (quote : Node) : (withoutMarker quote).size = quote.size := by
  unfold withoutMarker
  split
  · split
    · rfl
    · split
      · next h => exact Node.size_cutTextAt h
      · rfl
  · rfl

def nodeMarkup (context : RenderContext) (node : Node) : List Char :=
  let inner (n : Node) (h : n.size ≤ node.size) : List Char :=
    n.children.attach.flatMap fun ⟨c, hc⟩ =>
      have : c.size < node.size := Nat.lt_of_lt_of_le (Node.size_lt_of_mem_children hc) h
      nodeMarkup context.unplaced c
  match hn : node with
  | .leaf kind _ => leafMarkup kind
  | .unknown .. => inner node (by simp [hn])
  | .table body header rows _ _ =>
    match context.tableMode with
    | .codeBlock => codeBlockTable node.children
    | mode =>
      listTable mode context.includeTableHeaders
        (node.children.attach.filterMap fun ⟨row, hr⟩ =>
          if row.children.isEmpty then none
          else some (row.children.attach.map fun ⟨cell, hc⟩ =>
            cell.children.attach.flatMap fun ⟨c, h⟩ =>
              have := Node.size_lt_of_mem_children hr
              have := Node.size_lt_of_mem_children hc
              have := Node.size_lt_of_mem_children h
              nodeMarkup context.unplaced c))
  | .container kind cs _ =>
    match kind with
    | .document => trim (inner node (by simp [hn]))
    | .heading _ => wrap "<b>" "</b>\n\n" (inner node (by simp [hn]))
    | .paragraph => wrap "" "\n\n" (inner node (by simp [hn]))
    | .blockQuote =>
      let opener :=
        if isExpandable node.rawText then "<blockquote expandable>" else "<blockquote>"
      wrap opener "</blockquote>\n"
        (trim (inner (withoutMarker node) (by simp [size_withoutMarker, hn])))
    | .list ordered start _ =>
      let items := cs.attach.zipIdx.flatMap fun (⟨c, hc⟩, i) =>
        have : c ∈ node.children := by rw [hn]; exact hc
        have := Node.size_lt_of_mem_children this
        nodeMarkup (context.inList (context.listDepth + 1) ordered start (some i)) c
      if context.listDepth == 0 then trimEnd items ++ "\n\n".toList else items
    | .listItem _ =>
      let depth := itemDepth context.listDepth
      let parts := cs.attach.flatMap fun ⟨c, hc⟩ =>
        have : c ∈ node.children := by rw [hn]; exact hc
        have := Node.size_lt_of_mem_children this
        match hc' : c with
        | .container .paragraph _ _ =>
          c.children.attach.flatMap fun ⟨d, hd⟩ =>
            have := Node.size_lt_of_mem_children hd
            nodeMarkup context.unplaced d
        | .container (.list ordered start _) _ _ =>
          '\n' :: trimEnd (nodeMarkup (context.inList depth ordered start none) c)
        | _ => nodeMarkup context.unplaced c
      indentation depth ++ marker context.numbering ++ parts ++ ['\n']
    | .tableRow => inner node (by simp [hn])
    | .tableCell => inner node (by simp [hn])
    | .emphasis => wrap "<i>" "</i>" (inner node (by simp [hn]))
    | .strong => wrap "<b>" "</b>" (inner node (by simp [hn]))
    | .strikethrough => wrap "<s>" "</s>" (inner node (by simp [hn]))
    | .link url _ =>
      "<a href=\"".toList ++ escape url.toList ++ "\">".toList ++ inner node (by simp [hn]) ++
        "</a>".toList
termination_by node.size

end ChatMarkup.Render
