import ChatMarkup.Messages
import ChatMarkup.Proofs.Markdown.Joining
import ChatMarkup.Proofs.Render.Outcomes
import ChatMarkup.Proofs.Tree.Placement

/-!
# Documents from Markdown

Whatever blocks a document is made of, all nodes in it stand in their places: items are made for
lists only, rows and cells for tables only, and nothing else is put into these. A check of such a
document has nothing to report, and never keeps it from being rendered, whatever has read it.
-/
namespace ChatMarkup.Markdown
open Node

def hasRank : Node → Bool
  | .container (.heading depth) _ _ => depth.inRange
  | _ => true

/-- All headings that readers see have their ranks, and all nodes stand in their places. -/
def Sound (n : Node) : Prop :=
  n.Throughout fun n => (∀ c ∈ n.children, InPlace n c) ∧ hasRank n = true

/-- A sound tree that may stand anywhere but in a table or a row. -/
structure Loose (n : Node) : Prop where
  item : n.isListItem = false
  row : n.isTableRow = false
  cell : n.isTableCell = false
  sound : Sound n

/-! ## Nodes with loose children -/

section
variable {kind : Container} {cs : List Node} {m : List (String × Value)}

theorem Loose.inPlace {n c : Node} (hc : Loose c) (ht : n.isTable = false)
    (hr : n.isTableRow = false) : InPlace n c where
  row h := absurd h (by simp [ht])
  cell h := absurd h (by simp [hr])
  item h := absurd h (by simp [hc.item])
  tabular h := absurd h (by simp [hc.row,hc.cell])

/-- A node other than a table or row is sound if its children are loose. -/
theorem sound_of_loose {n : Node} (ht : n.isTable = false) (hr : n.isTableRow = false)
    (hd : hasRank n = true) (h : ∀ c ∈ n.children, Loose c) : Sound n :=
  .intro ⟨fun c hc => (h c hc).inPlace ht hr,hd⟩ fun c hc => (h c hc).sound

theorem loose_leaf (kind : Leaf) : Loose (.leaf kind m) :=
  ⟨rfl,rfl,rfl,sound_of_loose rfl rfl rfl (by simp [children])⟩

theorem loose_unknown (name : String) (value : Option String) (h : ∀ c ∈ cs, Loose c) :
    Loose (.unknown name value cs m) :=
  ⟨rfl,rfl,rfl,sound_of_loose rfl rfl rfl h⟩

theorem loose_style (style : Style) (h : ∀ c ∈ cs, Loose c) :
    Loose (.container style.container cs m) := by
  cases style with
  | strong => exact ⟨rfl,rfl,rfl,sound_of_loose rfl rfl rfl h⟩
  | emphasis => exact ⟨rfl,rfl,rfl,sound_of_loose rfl rfl rfl h⟩
  | strikethrough => exact ⟨rfl,rfl,rfl,sound_of_loose rfl rfl rfl h⟩

end

/-! ## Spans -/

theorem loose_settleTexts {join : Bool} {ns : List Node} (h : ∀ n ∈ ns, Loose n) :
    ∀ c ∈ settleTexts join ns, Loose c := by
  unfold settleTexts
  split
  · exact forall_mem_joinTexts (fun _ => loose_leaf _) h
  · exact h

namespace Span

mutual

theorem loose_toNode (join : Bool) : (s : Span) → Loose (toNode join s)
  | .text _ => loose_leaf _
  | .softBreak => loose_leaf _
  | .lineBreak => loose_leaf _
  | .styled style children => by
    rw [toNode]
    exact loose_style style (loose_settleTexts (loose_toNodes join children))
  | .code _ => loose_leaf _
  | .link url title children => by
    rw [toNode]
    exact ⟨rfl,rfl,rfl,sound_of_loose rfl rfl rfl (loose_settleTexts (loose_toNodes join children))⟩
  | .image _ _ _ => loose_leaf _
  | .html _ => loose_unknown _ _ (by simp)
  | .other name raw children => by
    rw [toNode]
    exact loose_unknown name raw (loose_settleTexts (loose_toNodes join children))

theorem loose_toNodes (join : Bool) : (ss : List Span) → ∀ c ∈ toNodes join ss, Loose c
  | [] => by simp [toNodes]
  | s :: rest => by
    rw [toNodes]
    exact List.forall_mem_cons.mpr ⟨loose_toNode join s,loose_toNodes join rest⟩

end

theorem loose_content (join : Bool) (spans : List Span) : ∀ c ∈ content join spans, Loose c :=
  loose_settleTexts (loose_toNodes join spans)

end Span

/-! ## Blocks -/

theorem inRange_headingDepth (level : Count) : (headingDepth level).inRange = true := by
  unfold headingDepth
  split
  · assumption
  · rfl

theorem sound_cell (join : Bool) (cell : List Span) :
    Sound (.container .tableCell (Span.content join cell) []) :=
  sound_of_loose rfl rfl rfl (Span.loose_content join cell)

/-- The children of a row are cells, with what stands in a line in each of them. -/
theorem sound_rowNode (join : Bool) (cells : List (List Span)) : Sound (rowNode join cells) := by
  have hc : ∀ c ∈ (rowNode join cells).children, ∃ cell,
      c = .container .tableCell (Span.content join cell) [] := by
    intro c hc
    obtain ⟨cell,-,rfl⟩ := List.mem_map.mp hc
    exact ⟨cell,rfl⟩
  refine .intro ⟨fun c h => ?_,rfl⟩ fun c h => ?_
  · obtain ⟨cell,rfl⟩ := hc c h
    exact ⟨nofun,fun _ => rfl,nofun,fun _ => rfl⟩
  · obtain ⟨cell,rfl⟩ := hc c h
    exact sound_cell join cell

/-- The children of a table are its header and its rows. -/
theorem loose_table (join : Bool) (header : Option (List (List Span)))
    (rows : List (List (List Span))) (align : List Value) :
    Loose (.table [] (header.map (rowNode join)) (rows.map (rowNode join)) align []) := by
  have hr : ∀ c ∈ tableRows [] (header.map (rowNode join)) (rows.map (rowNode join)),
      ∃ cells, c = rowNode join cells := by
    intro c hc
    have hp := mem_parts_of_mem_children
      (n := .table [] (header.map (rowNode join)) (rows.map (rowNode join)) align []) hc
    simp only [parts,List.nil_append,List.mem_append,Option.mem_toList,
      Option.map_eq_some_iff,List.mem_map] at hp
    rcases hp with ⟨cells,-,rfl⟩ | ⟨cells,-,rfl⟩
    · exact ⟨cells,rfl⟩
    · exact ⟨cells,rfl⟩
  refine ⟨rfl,rfl,rfl,.intro ⟨fun c h => ?_,rfl⟩ fun c h => ?_⟩
  · obtain ⟨cells,rfl⟩ := hr c h
    exact ⟨fun _ => rfl,Bool.noConfusion,Bool.noConfusion,fun _ => rfl⟩
  · obtain ⟨cells,rfl⟩ := hr c h
    exact sound_rowNode join cells

namespace Block

structure IsItem (n : Node) : Prop where
  item : n.isListItem = true
  row : n.isTableRow = false
  cell : n.isTableCell = false
  sound : Sound n

theorem loose_list (ordered : Bool) (start : Option Count) (spread : Bool) {items : List Node}
    (h : ∀ c ∈ items, IsItem c) : Loose (.container (.list ordered start spread) items []) := by
  refine ⟨rfl,rfl,rfl,.intro ⟨fun c hc => ?_,rfl⟩ fun c hc => (h c hc).sound⟩
  exact ⟨nofun,nofun,fun _ => rfl,fun ht => absurd ht (by simp [(h c hc).row,(h c hc).cell])⟩

mutual

theorem loose_toNodes (join : Bool) : (b : Block (List Span)) → ∀ c ∈ toNodes join b, Loose c
  | .paragraph content => by
    rw [toNodes]
    exact List.forall_mem_singleton.mpr
      ⟨rfl,rfl,rfl,sound_of_loose rfl rfl rfl (Span.loose_content join content)⟩
  | .heading level content => by
    rw [toNodes]
    exact List.forall_mem_singleton.mpr ⟨rfl,rfl,rfl,sound_of_loose rfl rfl
      (inRange_headingDepth level) (Span.loose_content join content)⟩
  | .codeBlock raw info => by
    rw [toNodes]
    exact List.forall_mem_singleton.mpr (loose_leaf _)
  | .blockQuote children => by
    rw [toNodes]
    exact List.forall_mem_singleton.mpr
      ⟨rfl,rfl,rfl,sound_of_loose rfl rfl rfl (loose_allToNodes join children)⟩
  | .list ordered start tight items => by
    rw [toNodes]
    exact List.forall_mem_singleton.mpr (loose_list _ _ _ (isItem_itemsToNodes join items))
  | .table header rows align => by
    rw [toNodes]
    exact List.forall_mem_singleton.mpr (loose_table join header rows align)
  | .thematicBreak => by
    rw [toNodes]
    exact List.forall_mem_singleton.mpr (loose_leaf _)
  | .html raw => by
    rw [toNodes]
    exact List.forall_mem_singleton.mpr (loose_unknown _ _ (by simp))
  | .blankLine => by simp [toNodes]
  | .other name raw children => by
    rw [toNodes]
    exact List.forall_mem_singleton.mpr (loose_unknown name raw (loose_allToNodes join children))

theorem loose_allToNodes (join : Bool) :
    (bs : List (Block (List Span))) → ∀ c ∈ allToNodes join bs, Loose c
  | [] => by simp [allToNodes]
  | b :: rest => by
    rw [allToNodes]
    exact List.forall_mem_append.mpr ⟨loose_toNodes join b,loose_allToNodes join rest⟩

theorem isItem_itemsToNodes (join : Bool) :
    (items : List (List (Block (List Span)))) → ∀ c ∈ itemsToNodes join items, IsItem c
  | [] => by simp [itemsToNodes]
  | item :: rest => by
    rw [itemsToNodes]
    exact List.forall_mem_cons.mpr
      ⟨⟨rfl,rfl,rfl,sound_of_loose rfl rfl rfl (loose_allToNodes join item)⟩,
        isItem_itemsToNodes join rest⟩

end

end Block

/-! ## Checked documents -/

def isRefusal (failure : Failure) : Bool := failure.kind == .rendering (some "validation")

/-- A check of the document has nothing to report, and rendering is the same with and without it. -/
structure Accepted (n : Node) : Prop where
  reported : ∀ strict, n.reported strict = []
  ranked : n.Throughout fun n => hasRank n = true
  unchecked : ∀ o : RenderOptions, Render.documentMarkup o n =
    Render.documentMarkup { o with validateTree := false } n
  not_refused : ∀ o failure, Render.documentMarkup o n = .error failure → isRefusal failure = false

theorem accepted_of_sound {n : Node} (h : Sound n) : Accepted n := by
  have hm : n.misplacements = [] := misplacements_eq_nil_iff.mpr (h.mono fun _ hn => hn.1)
  have hu (o : RenderOptions) : Render.documentMarkup o n =
      Render.documentMarkup { o with validateTree := false } n := by
    simp [Render.documentMarkup,hm,RenderOptions.context]
  refine ⟨fun strict => by cases strict <;> simp [Node.reported,hm],h.mono fun _ hn => hn.2,hu,?_⟩
  intro o failure hf
  rw [hu] at hf
  rcases Render.documentMarkup_unchecked o n with ⟨-,hn⟩ | ⟨-,hn⟩
  · cases hn.symm.trans hf
  · cases hn.symm.trans hf
    rfl

theorem accepted_allToNodes (join : Bool) (bs : List (Block (List Span))) :
    Accepted (Node.document (Block.allToNodes join bs)) :=
  accepted_of_sound (sound_of_loose rfl rfl rfl (Block.loose_allToNodes join bs))

section
variable {reader : Reader} {parser : Options} {s : List Char}

theorem accepted_document {n : Node} (h : reader.document parser s = .ok n) : Accepted n := by
  unfold Reader.document at h
  split_ifs at h
  · cases h
    exact accepted_allToNodes parser.mergeText []
  · split at h
    · cases h
      exact accepted_allToNodes _ _
    · cases h

/-- What a reader fails for is not what a check reports. -/
theorem not_refused_document {failure : Failure} (h : reader.document parser s = .error failure) :
    isRefusal failure = false := by
  unfold Reader.document at h
  split_ifs at h
  · cases h
    rfl
  · split at h
    · cases h
    · cases h
      rfl

end

/-- Whatever blocks or text a document is made from, and by whatever reader, a check has nothing to
report, and rendering never fails for what a check reports. -/
theorem accepted_markdown (parser : Options) :
    (∀ tokens : List Value,
      Accepted (Node.document (Block.allToNodes parser.mergeText (Block.ofValue (.list tokens))))) ∧
    ∀ reader : Reader, (∀ text n, reader.document parser text = .ok n → Accepted n) ∧
      ∀ renderer text failure, markupOfText reader renderer parser text = .error failure →
        isRefusal failure = false := by
  refine ⟨fun _ => accepted_allToNodes _ _,fun reader => ⟨fun _ _ h => accepted_document h,?_⟩⟩
  intro renderer text failure h
  unfold markupOfText at h
  split at h
  · cases h
  rcases bind_eq_error.mp h with h | ⟨n,hn,h⟩
  · exact not_refused_document h
  · exact (accepted_document hn).not_refused renderer failure h

end ChatMarkup.Markdown
