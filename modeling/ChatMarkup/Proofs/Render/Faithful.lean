import ChatMarkup.Proofs.Render.Equations
import ChatMarkup.Proofs.Render.Pieces
import ChatMarkup.Proofs.Render.ReadBack
import ChatMarkup.Proofs.Tree.Everywhere

/-!
# Messages show the text of their trees

No text of a tree gets lost when it is rendered, and none is added. For trees of inline nodes the
message shows their raw text as it is. Blocks add line breaks and trim what they show, so for trees
with blocks this holds without regard to blanks. Spoilers count as the bars that mark them.
-/
namespace ChatMarkup.Render
open Text Markup

def visible (s : List Char) : List Char := s.filter fun c => !isBlank c

theorem visible_append (s t : List Char) : visible (s ++ t) = visible s ++ visible t :=
  List.filter_append s t

theorem visible_cons_blank {c : Char} (hc : isBlank c = true) (s : List Char) :
    visible (c :: s) = visible s :=
  List.filter_cons_of_neg (by simp [hc])

/-! ## Without regard to blanks -/

/-- The first text shows the second without regard to blanks. -/
def ShowsVisible (x t : List Char) : Prop := ∃ u, Shows x u ∧ visible u = visible t

theorem Shows.showsVisible {x t : List Char} (h : Shows x t) : ShowsVisible x t := ⟨t,h,rfl⟩

theorem trimStart_tag {t : List Char} (h : IsTagToken t) (s : List Char) :
    trimStart (t ++ s) = t ++ s := by
  obtain ⟨body,-,rfl⟩ := h
  exact List.dropWhile_cons_of_neg (by decide)

theorem trimEnd_tag {t : List Char} (h : IsTagToken t) (s : List Char) :
    trimEnd (t ++ s) = t ++ trimEnd s := by
  obtain ⟨body,-,rfl⟩ := h
  refine trimEnd_append_of ?_ s
  rw [← List.cons_append]
  exact trimEnd_concat (by decide) _

/-- A blank is not escaped, and no other character is escaped to a text with blanks at its ends. -/
theorem escapeChar_blanks (c : Char) :
    (isBlank c = true ∧ escapeChar c = [c]) ∨
      (isBlank c = false ∧ escapeChar c ≠ [] ∧ trimStart (escapeChar c) = escapeChar c ∧
        trimEnd (escapeChar c) = escapeChar c) := by
  unfold escapeChar
  split
  · exact .inr (by decide)
  · exact .inr (by decide)
  · exact .inr (by decide)
  · exact .inr (by decide)
  · cases hc : isBlank c with
    | true => exact .inl ⟨rfl,rfl⟩
    | false => exact .inr ⟨rfl,by simp,by simp [trimStart,hc],trimEnd_concat hc []⟩

theorem isTagToken_spoiler {t : List Char} (h : t = Spoiler.openTag ∨ t = Spoiler.closeTag) :
    IsTagToken t := by
  rcases h with rfl | rfl
  · exact isTagToken_openTag
  · exact isTagToken_closeTag

theorem Shows.trimStart {x t : List Char} (h : Shows x t) : ShowsVisible (trimStart x) t := by
  induction h with
  | nil => exact Shows.nil.showsVisible
  | @escaped c x t hx ih =>
    rcases escapeChar_blanks c with ⟨hb,hc⟩ | ⟨-,hn,hs,-⟩
    · obtain ⟨u,hu,hv⟩ := ih
      have ht : Text.trimStart (escapeChar c ++ x) = Text.trimStart x := by
        rw [hc]
        exact List.dropWhile_cons_of_pos hb
      exact ⟨u,ht ▸ hu,hv.trans (visible_cons_blank hb t).symm⟩
    · rw [trimStart_append_of hs hn]
      exact (Shows.escaped c hx).showsVisible
  | silent ht hx _ =>
    rw [trimStart_tag ht.token]
    exact (Shows.silent ht hx).showsVisible
  | spoiler ht hx _ =>
    rw [trimStart_tag (isTagToken_spoiler ht)]
    exact (Shows.spoiler ht hx).showsVisible

theorem Shows.trimEnd {x t : List Char} (h : Shows x t) : ShowsVisible (trimEnd x) t := by
  induction h with
  | nil => exact Shows.nil.showsVisible
  | @escaped c x t hx ih =>
    obtain ⟨u,hu,hv⟩ := ih
    have he : ShowsVisible (escapeChar c ++ Text.trimEnd x) (c :: t) := by
      refine ⟨c :: u,.escaped c hu,?_⟩
      have hc (s : List Char) : visible (c :: s) =
          visible [c] ++ visible s := visible_append [c] s
      rw [hc,hv,← hc]
    rcases escapeChar_blanks c with ⟨hb,hc⟩ | ⟨-,-,-,hs⟩
    · rw [trimEnd_append]
      split_ifs with hx
      · -- Nothing but blanks is left from here on.
        rw [List.isEmpty_iff.mp hx] at hu
        have ht : Text.trimEnd (escapeChar c) = [] := by simp [hc,Text.trimEnd,dropEnd,hb]
        exact ⟨u,ht ▸ hu,hv.trans (visible_cons_blank hb t).symm⟩
      · exact he
    · rwa [trimEnd_append_of hs]
  | silent ht _ ih =>
    obtain ⟨u,hu,hv⟩ := ih
    rw [trimEnd_tag ht.token]
    exact ⟨u,.silent ht hu,hv⟩
  | @spoiler tag x t ht _ ih =>
    obtain ⟨u,hu,hv⟩ := ih
    rw [trimEnd_tag (isTagToken_spoiler ht)]
    exact ⟨_,.spoiler ht hu,by rw [visible_append,visible_append,hv]⟩

namespace ShowsVisible
variable {x y t u : List Char}

theorem append (hx : ShowsVisible x t) (hy : ShowsVisible y u) :
    ShowsVisible (x ++ y) (t ++ u) := by
  obtain ⟨t',ht,hvt⟩ := hx
  obtain ⟨u',hu,hvu⟩ := hy
  exact ⟨t' ++ u',ht.append hu,by rw [visible_append,visible_append,hvt,hvu]⟩

theorem trim (h : ShowsVisible x t) : ShowsVisible (trim x) t := by
  obtain ⟨u,hu,hv⟩ := h
  obtain ⟨u₁,hu₁,hv₁⟩ := hu.trimStart
  obtain ⟨u₂,hu₂,hv₂⟩ := hu₁.trimEnd
  exact ⟨u₂,hu₂,hv₂.trans (hv₁.trans hv)⟩

theorem concat_blanks (h : ShowsVisible x t) {s : List Char} (hs : escape s = s)
    (hv : visible s = []) : ShowsVisible (x ++ s) t := by
  have hb := (shows_escape s).showsVisible
  rw [hs] at hb
  obtain ⟨u,hu,hv'⟩ := h.append hb
  exact ⟨u,hu,by rw [hv',visible_append,hv,List.append_nil]⟩

theorem readBack (h : ShowsVisible x t) : visible (readBack x) = visible t := by
  obtain ⟨u,hu,hv⟩ := h
  rw [hu.readBack,hv]

end ShowsVisible

/-! ## Forms of nodes -/

/-- A relation between texts and what they show that allows to put texts together. -/
structure Showing (R : List Char → List Char → Prop) : Prop where
  of_shows {x t : List Char} : Shows x t → R x t
  append {x y t u : List Char} : R x t → R y u → R (x ++ y) (t ++ u)

theorem showing_shows : Showing Shows := ⟨id,Shows.append⟩

theorem showing_showsVisible : Showing ShowsVisible := ⟨Shows.showsVisible,ShowsVisible.append⟩

inductive IsInline : Node → Prop
  | text (value : String) (m : List (String × Value)) : IsInline (.leaf (.text value) m)
  | code (value : String) (m : List (String × Value)) : IsInline (.leaf (.code value) m)
  | emphasis (cs : List Node) (m : List (String × Value)) : IsInline (.container .emphasis cs m)
  | strong (cs : List Node) (m : List (String × Value)) : IsInline (.container .strong cs m)
  | strikethrough (cs : List Node) (m : List (String × Value)) :
      IsInline (.container .strikethrough cs m)
  | link (url : String) (title : Option String) (cs : List Node) (m : List (String × Value)) :
      IsInline (.container (.link url title) cs m)
  | unknown (name : String) (cs : List Node) (m : List (String × Value)) :
      IsInline (.unknown name none cs m)

/-- Nodes that are part of a line, and those blocks that show their text and nothing else. A quote
whose text ends in the marker of spoilers shows less. -/
inductive IsFlow : Node → Prop
  | inline {n : Node} : IsInline n → IsFlow n
  | lineBreak (m : List (String × Value)) : IsFlow (.leaf .lineBreak m)
  | codeBlock (value : String) (lang info : Option String) (m : List (String × Value)) :
      IsFlow (.leaf (.codeBlock value lang info) m)
  | paragraph (cs : List Node) (m : List (String × Value)) : IsFlow (.container .paragraph cs m)
  | heading (depth : Depth) (cs : List Node) (m : List (String × Value)) :
      IsFlow (.container (.heading depth) cs m)
  | document (cs : List Node) (m : List (String × Value)) : IsFlow (.container .document cs m)
  | blockQuote (cs : List Node) (m : List (String × Value)) :
      endsInMarker (Node.container .blockQuote cs m).rawText = false →
        IsFlow (.container .blockQuote cs m)

namespace Showing
variable {R : List Char → List Char → Prop} {x t : List Char} (h : Showing R)
include h

/-- An element shows what is in it. -/
theorem element {tag : OpenTag} (ht : Opens tag) (hs : tag.name ≠ "tg-spoiler".toList)
    (hx : R x t) : R (tag.text ++ x ++ closingTag tag) t := by
  obtain ⟨ho,hc⟩ := silent_of_opens ht hs
  have he := h.append (h.append (h.of_shows (.silent ho .nil)) hx) (h.of_shows (.silent hc .nil))
  simpa only [List.append_nil,List.nil_append] using he

theorem wrap (tag : OpenTag) {opener closer : String} (ht : tag ∈ bareTags)
    (hs : tag.name ≠ "tg-spoiler".toList) (ho : opener.toList = tag.text)
    (hc : closer.toList = closingTag tag) (hx : R x t) : R (wrap opener closer x) t := by
  rw [Render.wrap,ho,hc]
  exact h.element (.bare ht) hs hx

theorem link (address : List Char) (hx : R x t) : R (linkMarkup address x) t := by
  have ha : ⟨"a".toList,"<a href=\"".toList⟩ ∈ tagHeads := by decide
  have hs : "a".toList ≠ "tg-spoiler".toList := by decide
  exact h.element (.valued ha (prose_escape address)) hs hx

/-- A row of nodes shows their texts if each node shows its own. -/
theorem row {context : RenderContext} {cs : List Node}
    (hs : ∀ c ∈ cs, R (nodeMarkup context.unplaced c) c.rawText) :
    R (rowMarkup context cs) (Node.rawTextList cs) := by
  induction cs with
  | nil => exact h.of_shows .nil
  | cons c cs ih =>
    have hr := ih fun d hd => hs d (List.mem_cons_of_mem c hd)
    exact h.append (hs c (by simp)) hr

/-- A part of a line shows its text if what is in it does. -/
theorem inline {context : RenderContext} {n : Node} (hn : IsInline n)
    (hs : ∀ part ∈ n.parts, R (nodeMarkup context.unplaced part) part.rawText) :
    R (nodeMarkup context n) n.rawText := by
  cases hn with
  | text value m =>
    rw [nodeMarkup_leaf]
    exact h.of_shows (shows_hideAfter [] _ _ rfl)
  | code value m =>
    rw [nodeMarkup_leaf]
    have hc := h.of_shows (shows_escape value.toList)
    exact h.wrap ⟨"code".toList,"<code>".toList⟩ (by decide) (by decide) rfl rfl hc
  | emphasis cs m =>
    rw [nodeMarkup_container]
    exact h.wrap ⟨"i".toList,"<i>".toList⟩ (by decide) (by decide) rfl rfl (h.row hs)
  | strong cs m =>
    rw [nodeMarkup_container]
    exact h.wrap ⟨"b".toList,"<b>".toList⟩ (by decide) (by decide) rfl rfl (h.row hs)
  | strikethrough cs m =>
    rw [nodeMarkup_container]
    exact h.wrap ⟨"s".toList,"<s>".toList⟩ (by decide) (by decide) rfl rfl (h.row hs)
  | link url title cs m =>
    rw [nodeMarkup_container]
    exact h.link url.toList (h.row hs)
  | unknown name cs m =>
    rw [nodeMarkup_unknown]
    exact h.row hs

end Showing

namespace ShowsVisible
variable {x t : List Char}

theorem wrap_line (tag : OpenTag) {opener closer : String} (after : List Char)
    (ht : tag ∈ bareTags) (hs : tag.name ≠ "tg-spoiler".toList) (ho : opener.toList = tag.text)
    (hc : closer.toList = closingTag tag ++ after) (he : escape after = after)
    (hv : visible after = []) (h : ShowsVisible x t) : ShowsVisible (wrap opener closer x) t := by
  rw [Render.wrap,ho,hc,← List.append_assoc]
  exact (showing_showsVisible.element (.bare ht) hs h).concat_blanks he hv

theorem codeBlock (value : String) (lang info : Option String) :
    ShowsVisible (leafMarkup (.codeBlock value lang info)) value.toList := by
  obtain ⟨tag,ht,hn,he⟩ := codeBlock_eq value lang info
  have hs : tag.name ≠ "tg-spoiler".toList := by rw [hn]; decide
  have hc := showing_shows.element ht hs (shows_escape value.toList)
  rw [he]
  exact hc.showsVisible.wrap_line ⟨"pre".toList,"<pre>".toList⟩ ['\n'] (by decide) (by decide)
    rfl rfl rfl (by decide)

/-- A quote shows its text, unless that ends in the marker of spoilers. -/
theorem quote {context : RenderContext} {quote : Node}
    (hm : endsInMarker quote.rawText = false)
    (h : ShowsVisible (rowMarkup context quote.children) t) :
    ShowsVisible (quoteMarkup context quote) t := by
  have hw : withoutMarker quote = quote := by
    rw [withoutMarker,if_neg (by simp [hm])]
  rw [quoteMarkup,hw]
  split_ifs
  · exact h.trim.wrap_line ⟨"blockquote".toList,"<blockquote expandable>".toList⟩ ['\n']
      (by decide) (by decide) rfl rfl rfl (by decide)
  · exact h.trim.wrap_line ⟨"blockquote".toList,"<blockquote>".toList⟩ ['\n']
      (by decide) (by decide) rfl rfl rfl (by decide)

/-- A node shows its text if what is in it does. -/
theorem flow {context : RenderContext} {n : Node} (hn : IsFlow n)
    (hs : ∀ part ∈ n.parts, ShowsVisible (nodeMarkup context.unplaced part) part.rawText) :
    ShowsVisible (nodeMarkup context n) n.rawText := by
  cases hn with
  | inline hi => exact showing_showsVisible.inline hi hs
  | lineBreak m =>
    rw [nodeMarkup_leaf]
    exact Shows.nil.showsVisible.concat_blanks rfl (by decide)
  | codeBlock value lang info m =>
    rw [nodeMarkup_leaf]
    exact codeBlock value lang info
  | paragraph cs m =>
    rw [nodeMarkup_container]
    exact (showing_showsVisible.row hs).concat_blanks rfl (by decide)
  | heading depth cs m =>
    rw [nodeMarkup_container]
    exact (showing_showsVisible.row hs).wrap_line ⟨"b".toList,"<b>".toList⟩ ['\n','\n']
      (by decide) (by decide) rfl rfl rfl (by decide)
  | document cs m =>
    rw [nodeMarkup_container]
    exact (showing_showsVisible.row hs).trim
  | blockQuote cs m hm =>
    rw [nodeMarkup_container]
    exact quote hm (showing_showsVisible.row hs)

end ShowsVisible

/-! ## Trees -/

theorem shows_nodeMarkup {n : Node} (h : n.Everywhere IsInline) (context : RenderContext) :
    Shows (nodeMarkup context n) n.rawText := by
  induction h generalizing context with
  | intro hn _ ih => exact showing_shows.inline hn fun part hp => ih part hp context.unplaced

theorem showsVisible_nodeMarkup {n : Node} (h : n.Everywhere IsFlow) (context : RenderContext) :
    ShowsVisible (nodeMarkup context n) n.rawText := by
  induction h generalizing context with
  | intro hn _ ih => exact ShowsVisible.flow hn fun part hp => ih part hp context.unplaced

/-- What is read back from a rendered tree is its raw text, with nothing lost and nothing added: for
trees of inline nodes to the character, and for trees with blocks without regard to blanks. -/
theorem readBack_nodeMarkup (context : RenderContext) (n : Node) :
    (n.Everywhere IsInline → readBack (nodeMarkup context n) = n.rawText) ∧
      (n.Everywhere IsFlow →
        visible (readBack (nodeMarkup context n)) = visible n.rawText) :=
  ⟨fun h => (shows_nodeMarkup h context).readBack,
    fun h => (showsVisible_nodeMarkup h context).readBack⟩

/-- A link with a spoiler in it, and bars in its address. -/
def sampleLine : Node :=
  let mark := .container .strong [.leaf (.code "||") []] []
  let formula := .unknown "math" none [.text "\"z\""] []
  .container (.link "tg://a?b=||&c" none) [.text "||x<y|| &amp; ",mark,formula] []

def sampleNote : Node :=
  let line := .container .paragraph [.text " ",sampleLine,.leaf .lineBreak []] []
  .document [.container .blockQuote [line,.text "! "] []]

theorem readBack_nodeMarkup_sampleNote :
    sampleLine.Everywhere IsInline ∧ sampleNote.Everywhere IsFlow ∧
      readBack (nodeMarkup {} sampleLine) = "||x<y|| &amp; ||\"z\"".toList ∧
      visible (readBack (nodeMarkup {} sampleNote)) = "||x<y||&amp;||\"z\"!".toList := by
  have ht (value : String) : (Node.text value).Everywhere IsInline := .of_alone (.text value []) rfl
  have hl : sampleLine.Everywhere IsInline := by
    refine .intro (.link _ _ _ _) fun part hp => ?_
    simp only [sampleLine,Node.parts,List.mem_cons,List.not_mem_nil,or_false] at hp
    rcases hp with rfl | rfl | rfl
    · exact ht _
    · exact .intro (.strong _ _) (by simpa [Node.parts] using .of_alone (.code "||" []) rfl)
    · exact .intro (.unknown _ _ _) (by simpa [Node.parts] using ht _)
  have hn : sampleNote.Everywhere IsFlow := by
    have hf {n : Node} (h : n.Everywhere IsInline) : n.Everywhere IsFlow :=
      h.mono fun _ => .inline
    refine .intro (.document _ _) fun quote hq => ?_
    obtain rfl := List.mem_singleton.mp hq
    refine .intro (.blockQuote _ _ (by decide)) fun part hp => ?_
    simp only [Node.parts,List.mem_cons,List.not_mem_nil,or_false] at hp
    rcases hp with rfl | rfl
    · have hb : (Node.leaf .lineBreak []).Everywhere IsFlow := .of_alone (.lineBreak []) rfl
      exact .intro (.paragraph _ _) (by simpa [Node.parts] using ⟨hf (ht " "),hf hl,hb⟩)
    · exact hf (ht _)
  exact ⟨hl,hn,(readBack_nodeMarkup {} sampleLine).1 hl,
    (readBack_nodeMarkup {} sampleNote).2 hn⟩

end ChatMarkup.Render
