import ChatMarkup.Tree.Text

/-!
# Reading a tree step by step

The raw text of a tree can be collected by a loop. It keeps the texts that it has come to and the
nodes that it has yet to read, with the next one last. A step takes the last node away, keeps its
text unless that is empty, and puts its children in its place. They go there in reverse, so that the
first child is read next.

The loop comes to an end because a step replaces a node by its children, which are smaller than the
node even when taken together.
-/
namespace ChatMarkup
namespace Node

theorem sizeList_reverse (ns : List Node) : sizeList ns.reverse = sizeList ns := by
  induction ns with
  | nil => rfl
  | cons n ns ih =>
    simp only [List.reverse_cons, sizeList_append, sizeList, ih]
    omega

end Node
open Node

/-- A reading under way: the texts that were kept, in order, and the nodes that are left to read,
the next one last. -/
structure Reading where
  texts : List (List Char)
  pending : List Node
deriving Repr

namespace Reading

def start (n : Node) : Reading := { texts := [], pending := [n] }

/-- The texts with one more at the end, unless it is empty. -/
def keep (texts : List (List Char)) (text : List Char) : List (List Char) :=
  if text.isEmpty then texts else texts ++ [text]

/-- The reading after one more step, if a node is left. -/
def step? (r : Reading) : Option Reading :=
  r.pending.getLast?.map fun n =>
    { texts := keep r.texts n.ownText
      pending := r.pending.dropLast ++ n.children.reverse }

/-- What a step does: the last node goes, and its children stand in its place in reverse. -/
theorem exists_of_step? {r next : Reading} (h : r.step? = some next) :
    ∃ n ns, r.pending = ns ++ [n] ∧
      next = { texts := keep r.texts n.ownText, pending := ns ++ n.children.reverse } := by
  obtain ⟨n, hn, rfl⟩ := Option.map_eq_some_iff.mp h
  obtain ⟨ns, hp⟩ := List.getLast?_eq_some_iff.mp hn
  exact ⟨n, ns, hp, by rw [hp, List.dropLast_concat]⟩

theorem sizeList_of_step? {r next : Reading} (h : r.step? = some next) :
    sizeList next.pending < sizeList r.pending := by
  obtain ⟨n, ns, hp, rfl⟩ := exists_of_step? h
  have hs := sizeList_children_lt n
  simp only [hp, sizeList_append, sizeList_reverse, sizeList]
  omega

def finish (r : Reading) : Reading :=
  match _h : r.step? with
  | none => r
  | some next => next.finish
termination_by sizeList r.pending
decreasing_by exact sizeList_of_step? _h

/-- The reading after this many steps, if there were nodes for all of them. -/
def after (r : Reading) : Nat → Option Reading
  | 0 => some r
  | k + 1 => r.step?.bind fun next => next.after k

def text (r : Reading) : List Char := r.texts.flatten

end Reading

/-- The text of a tree as the loop collects it. -/
def Node.readText (n : Node) : List Char := (Reading.start n).finish.text

end ChatMarkup
