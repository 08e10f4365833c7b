import ChatMarkup.Proofs.Markup.WellFormed
import ChatMarkup.Proofs.Render.Equations
import ChatMarkup.Proofs.Render.Pieces
import ChatMarkup.Proofs.Render.Reading

/-!
# Rendered trees are safe

Whatever tree is rendered, in whatever context, a reader of the result finds only tags of messages,
properly nested, and nothing that texts, addresses, labels or languages of the tree could have
brought in. The induction is on the size of the tree: a quote shows the children of a tree of its
own size, and a table the children of its cells.
-/
namespace ChatMarkup.Render
open Text Markup

section
variable {context : RenderContext} {n : ℕ}

def ContentBelow (n : ℕ) : Prop :=
  ∀ (context : RenderContext) (node : Node), node.size < n → Content (nodeMarkup context node)

theorem content_rowMarkup (h : ContentBelow n) {ns : List Node} (hs : ∀ c ∈ ns, c.size < n) :
    Content (rowMarkup context ns) :=
  Content.flatMap fun c hc => h context.unplaced c (hs c hc)

theorem content_children (h : ContentBelow n) {node : Node} (hs : node.size ≤ n) :
    Content (rowMarkup context node.children) :=
  content_rowMarkup h fun _ hc => (Node.size_lt_of_mem_children hc).trans_le hs

theorem content_quoteMarkup (h : ContentBelow n) {quote : Node} (hs : quote.size ≤ n) :
    Content (quoteMarkup context quote) := by
  have hc : Content (trim (rowMarkup context (withoutMarker quote).children)) := by
    refine (content_children h ?_).trim
    rw [size_withoutMarker]
    exact hs
  unfold quoteMarkup wrap
  split_ifs
  · exact Content.bare ⟨"blockquote".toList,"<blockquote expandable>".toList⟩ ['\n'] (by decide)
      rfl rfl (prose_of_plain (by decide)) hc
  · exact Content.bare ⟨"blockquote".toList,"<blockquote>".toList⟩ ['\n'] (by decide) rfl rfl
      (prose_of_plain (by decide)) hc

theorem content_listMarkup (h : ContentBelow n) (ordered : Bool) (start : Option Count)
    {items : List Node} (hs : ∀ c ∈ items, c.size < n) :
    Content (listMarkup context ordered start items) := by
  have hi : Content (itemsMarkup context ordered start items) := by
    apply Content.flatMap
    rintro ⟨item,i⟩ hm
    exact h _ item (hs item (List.fst_mem_of_mem_zipIdx hm))
  unfold listMarkup
  dsimp only
  split_ifs
  · exact hi.trimEnd.append (content_of_plain (by decide))
  · exact hi

theorem content_partMarkup (h : ContentBelow n) {part : Node} (hs : part.size < n) :
    Content (partMarkup context part) := by
  have hl : Prose ['\n'] := prose_of_plain (by decide)
  unfold partMarkup
  split
  · exact content_children h hs.le
  · exact hl.content.append (h _ _ hs).trimEnd
  · exact h context.unplaced part hs

theorem content_itemMarkup (h : ContentBelow n) {parts : List Node}
    (hs : ∀ c ∈ parts, c.size < n) : Content (itemMarkup context parts) := by
  have hp : Content (parts.flatMap (partMarkup context)) :=
    Content.flatMap fun part hm => content_partMarkup h (hs part hm)
  have hm := (prose_marker context.numbering).content
  exact (((content_indentation _).append hm).append hp).append (content_of_plain (by decide))

theorem content_tableMarkup (h : ContentBelow n) {rows : List Node}
    (hs : ∀ r ∈ rows, r.size < n) : Content (tableMarkup context rows) := by
  unfold tableMarkup
  split
  · exact content_codeBlockTable rows
  · apply content_listTable
    intro row hr cell hc
    obtain ⟨cells,hf,rfl⟩ := List.mem_map.mp hr
    obtain ⟨c,hm,rfl⟩ := List.mem_map.mp hc
    obtain ⟨r,hmem,rfl⟩ := List.mem_map.mp (List.mem_of_mem_filter hf)
    exact content_children h ((Node.size_lt_of_mem_children hm).le.trans (hs r hmem).le)

theorem content_containerMarkup (h : ContentBelow n) (kind : Container)
    {cs : List Node} {m : List (String × Value)} (hs : (Node.container kind cs m).size ≤ n) :
    Content (containerMarkup context kind cs m) := by
  have hc : ∀ c ∈ cs, c.size < n := fun c hm =>
    (Node.size_lt_of_mem_children (n := .container kind cs m) hm).trans_le hs
  have hr : Content (rowMarkup context cs) := content_rowMarkup h hc
  have hl : Prose ['\n','\n'] := prose_of_plain (by decide)
  cases kind with
  | document => exact hr.trim
  | heading _ =>
    exact Content.bare ⟨"b".toList,"<b>".toList⟩ ['\n','\n'] (by decide) rfl rfl hl hr
  | paragraph => exact hr.append hl.content
  | blockQuote => exact content_quoteMarkup h hs
  | list ordered start _ => exact content_listMarkup h ordered start hc
  | listItem _ => exact content_itemMarkup h hc
  | tableRow => exact hr
  | tableCell => exact hr
  | emphasis =>
    exact Content.bare ⟨"i".toList,"<i>".toList⟩ [] (by decide) rfl rfl .nil hr
  | strong => exact content_bold hr
  | strikethrough =>
    exact Content.bare ⟨"s".toList,"<s>".toList⟩ [] (by decide) rfl rfl .nil hr
  | link url _ => exact content_link url.toList hr

/-- A node renders to content if all smaller nodes do. -/
theorem content_step (h : ContentBelow n) {node : Node} (hs : node.size ≤ n) :
    Content (nodeMarkup context node) := by
  have hc : ∀ c ∈ node.children, c.size < n := fun c hm =>
    (Node.size_lt_of_mem_children hm).trans_le hs
  cases node with
  | leaf kind m =>
    rw [nodeMarkup_leaf]
    exact content_leafMarkup kind
  | container kind cs m =>
    rw [nodeMarkup_container]
    exact content_containerMarkup h kind hs
  | table body header rows align m =>
    rw [nodeMarkup_table]
    exact content_tableMarkup h hc
  | unknown name value cs m =>
    rw [nodeMarkup_unknown]
    exact content_rowMarkup h hc

end

theorem contentBelow (n : ℕ) : ContentBelow n := by
  induction n with
  | zero => exact fun _ node h => absurd h (Nat.not_lt_zero node.size)
  | succ n ih => exact fun context node h => content_step ih (Nat.le_of_lt_succ h)

theorem content_nodeMarkup (context : RenderContext) (node : Node) :
    Content (nodeMarkup context node) :=
  contentBelow (node.size+1) context node node.size.lt_succ_self

/-- The form of a node is safe, whatever the node and its context. -/
theorem safe_nodeMarkup (context : RenderContext) (node : Node) :
    Safe (nodeMarkup context node) :=
  (content_nodeMarkup context node).safe

/-- Each message that a rendered tree is split into is well formed. -/
theorem wellFormed_split_nodeMarkup (context : RenderContext) (node : Node)
    (budget : ℕ) :
    ∀ message ∈ split budget (nodeMarkup context node), WellFormed message :=
  wellFormed_split (content_nodeMarkup context node).safe.wellFormed budget

end ChatMarkup.Render
