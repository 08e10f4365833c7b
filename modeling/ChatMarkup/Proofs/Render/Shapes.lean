import ChatMarkup.Proofs.Render.Plain
import ChatMarkup.Proofs.Tree.Reading
import ChatMarkup.Proofs.Tree.Shapes

/-!
# Both shapes of tables are shown alike

A tree is written the same whichever shapes its tables have, as readers cannot tell the shapes
apart. Where its tables are changed, however, the tree becomes another one, and is no longer found
in the list that it stood in. This makes a difference for items after the first of an ordered list,
which lose their numbers, and for nothing else.
-/
namespace ChatMarkup.Render
open Node

/-! ## Nodes that are not found -/

/-- The node is an item of an ordered list that is found behind the first place. -/
def TakesPlace (context : RenderContext) (n : Node) : Prop :=
  n.isListItem = true ∧
    ∃ list, context.numbering = some list ∧ list.ordered = true ∧ list.place.getD 0 ≠ 0

section
variable {context : RenderContext}

theorem unplaced_unplaced : context.unplaced.unplaced = context.unplaced := by
  rw [RenderContext.unplaced,RenderContext.unplaced,map_unplaced_unplaced]

theorem writeRow_unplaced (n : Node) : writeRow context.unplaced n = writeRow context n := by
  rw [writeRow,unplaced_unplaced,writeRow]

theorem writePart_unplaced (c : Node) : writePart context.unplaced c = writePart context c := by
  rw [writePart,writePart,writeRow_unplaced,unplaced_unplaced]
  rfl

theorem writeMarker_unplaced
    (h : ∀ list, context.numbering = some list → list.ordered = true → list.place.getD 0 = 0) :
    writeMarker context.unplaced.numbering = writeMarker context.numbering := by
  rw [RenderContext.unplaced]
  cases hn : context.numbering with
  | none => rfl
  | some list =>
    rw [Option.map_some,writeMarker,writeMarker]
    cases ho : list.ordered with
    | false => simp [Numbering.unplaced,ho]
    | true => simp [Numbering.unplaced,ho,Numbering.number,h list hn ho]

/-- Only the numbers of items go by the place at which a node is found. -/
theorem writeNode_unplaced {n : Node} (h : ¬TakesPlace context n) :
    writeNode context.unplaced n = writeNode context n := by
  cases n with
  | leaf => rw [writeNode_leaf,writeNode_leaf]
  | unknown => rw [writeNode_unknown,writeNode_unknown,writeRow_unplaced]
  | table =>
    have hc (n : Node) : writeCells context.unplaced n = writeCells context n := by
      simp only [writeCells,writeRow_unplaced]
    rw [writeNode_table,writeNode_table,hc]
    rfl
  | container kind cs m =>
    cases kind with
    | blockQuote => rw [writeNode_quote,writeNode_quote,writeRow_unplaced]
    | list => rw [writeNode_list,writeNode_list]; rfl
    | listItem checked =>
      have hm : writeMarker context.unplaced.numbering = writeMarker context.numbering :=
        writeMarker_unplaced fun list hl ho => by
          by_contra hp
          exact h ⟨rfl,list,hl,ho,hp⟩
      simp only [writeNode_item,hm,writePart_unplaced]
      rfl
    | _ =>
      rw [writeNode_container,writeNode_container,writeRow_unplaced]
      · rfl
      · rfl

end

/-! ## Trees with tables of one shape -/

/-- Tables of both shapes are interchangeable. Once all have the same shape, a tree that stands in
the place of the other is written the same, and so is one that stands in no place, unless the other
takes its number from its place. The tree has the same text and the same path to a text, and every
checker does the same on it. -/
theorem oneShape_interchangeable (n : Node) :
    (n.oneShape.Everywhere fun n => n.usesHeader = false) ∧
    (∀ context, writeNode context n.oneShape = writeNode context n) ∧
    (∀ context, ¬TakesPlace context n →
      writeNode context.unplaced n.oneShape = writeNode context n) ∧
    (n.oneShape.rawText = n.rawText ∧ n.oneShape.readText = n.readText) ∧
    (∀ ending, n.oneShape.lastTextPath? ending = n.lastTextPath? ending) ∧
    ∀ k, n.oneShape.visit.run k = n.visit.run k := by
  have hw (context : RenderContext) : writeNode context n.oneShape = writeNode context n :=
    writeNode_congr (plain_oneShape n) context
  refine ⟨everywhere_oneShape n,hw,fun context h => ?_,⟨rawText_oneShape n,?_⟩,
    fun ending => lastTextPath?_oneShape ending n,fun k => ?_⟩
  · rw [hw,writeNode_unplaced h]
  · rw [readText_eq_rawText,readText_eq_rawText,rawText_oneShape]
  · rw [visit_oneShape]

/-- An item with a table whose only row is its header. -/
def headedItem : Node :=
  let row : Node := .container .tableRow [.container .tableCell [.text "a"] []] []
  .container (.listItem none) [.table [] (some row) [] [] []] []

def atPlace (place : ℕ) : RenderContext := RenderContext.inList {} 1 true none (some place)

theorem oneShape_interchangeable_headedItem : ¬TakesPlace (atPlace 0) headedItem ∧
    writeNode (atPlace 0).unplaced headedItem.oneShape = writeNode (atPlace 0) headedItem := by
  have hp : ¬TakesPlace (atPlace 0) headedItem := by
    rintro ⟨-,list,hl,-,hp⟩
    obtain rfl := Option.some.inj hl
    exact hp rfl
  exact ⟨hp,(oneShape_interchangeable headedItem).2.2.1 (atPlace 0) hp⟩

/-- The second item of a list becomes the first where it is not found. -/
theorem renumbered_headedItem : headedItem.oneShape ≠ headedItem ∧
    writeNode (atPlace 1).unplaced headedItem.oneShape ≠ writeNode (atPlace 1) headedItem := by
  constructor
  · simp [headedItem,oneShape,oneShapeAll]
  · rw [writeNode_congr (plain_oneShape headedItem)]
    decide +kernel

end ChatMarkup.Render
