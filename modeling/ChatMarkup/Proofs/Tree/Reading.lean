import ChatMarkup.Proofs.Tree.Plain
import ChatMarkup.Tree.Reading

/-!
# The loop reads a tree in order

The nodes that a reading has before it are those on its stack with all nodes below them: the last
one of the stack first, and each node before its children. A step reads the first of these and
leaves the others as they are, although it turns the children of the node around. So the loop stops
after one step for each node of the tree, and its texts are those of the nodes in reading order.
-/
namespace ChatMarkup
namespace Node

def preorder (n : Node) : List Node :=
  n :: n.children.attach.flatMap fun ⟨c,hc⟩ =>
    have := size_lt_of_mem_children hc
    c.preorder
termination_by n.size

theorem preorder_eq (n : Node) : n.preorder = n :: n.children.flatMap preorder := by
  rw [preorder,List.flatMap_subtype (g := preorder) fun _ _ => rfl,List.unattach_attach]

theorem flatMap_ownText_preorder (n : Node) : n.preorder.flatMap ownText = n.rawText := by
  induction n using children_induction with
  | h n ih =>
    rw [preorder_eq,List.flatMap_cons,List.flatMap_assoc,rawText_eq]
    exact congrArg _ (List.flatMap_congr ih)

end Node
namespace Reading
open Node
variable {r next : Reading}

/-- The nodes that a reading has before it, in the order in which it comes to them. -/
def ahead (r : Reading) : List Node := r.pending.reverse.flatMap preorder

theorem ahead_start (n : Node) : (start n).ahead = n.preorder := by
  simp [ahead,start]

theorem text_start (n : Node) : (start n).text = [] := rfl

theorem flatten_keep (texts : List (List Char)) (text : List Char) :
    (keep texts text).flatten = texts.flatten ++ text := by
  unfold keep
  split_ifs with h
  · rw [List.isEmpty_iff.mp h,List.append_nil]
  · simp

theorem step?_eq_none_iff : r.step? = none ↔ r.pending = [] := by
  simp [step?]

/-- A step reads the first of the nodes before it. -/
theorem exists_read (h : r.step? = some next) :
    ∃ n, r.ahead = n :: next.ahead ∧ next.text = r.text ++ n.ownText := by
  obtain ⟨n,ns,hp,rfl⟩ := exists_of_step? h
  refine ⟨n,?_,flatten_keep r.texts n.ownText⟩
  -- reversed once on the stack and once more when it is read, the children are in order
  have hc : (ns ++ n.children.reverse).reverse = n.children ++ ns.reverse := by simp
  calc r.ahead = n.preorder ++ ns.reverse.flatMap preorder := by simp [ahead,hp]
    _ = n :: (n.children ++ ns.reverse).flatMap preorder := by
      rw [preorder_eq,List.flatMap_append,List.cons_append]
    _ = _ := by rw [ahead,hc]

theorem pending_finish (r : Reading) : r.finish.pending = [] := by
  fun_induction finish r with
  | case1 r h => exact step?_eq_none_iff.mp h
  | case2 r next h ih => exact ih

/-- The loop makes one step for each of the nodes before it. -/
theorem after_length_ahead (r : Reading) : r.after r.ahead.length = some r.finish := by
  fun_induction finish r with
  | case1 r h =>
    rw [ahead,step?_eq_none_iff.mp h]
    rfl
  | case2 r next h ih =>
    obtain ⟨n,ha,-⟩ := exists_read h
    rw [ha,List.length_cons,after,h,Option.bind_some,ih]

theorem text_finish (r : Reading) : r.finish.text = r.text ++ r.ahead.flatMap ownText := by
  fun_induction finish r with
  | case1 r h => simp [ahead,step?_eq_none_iff.mp h]
  | case2 r next h ih =>
    obtain ⟨n,ha,ht⟩ := exists_read h
    rw [ih,ha,ht,List.flatMap_cons,List.append_assoc]

end Reading
namespace Node
open Reading

/-- The loop and the recursion over the tree collect the same text. -/
theorem readText_eq_rawText (n : Node) : n.readText = n.rawText := by
  rw [readText,text_finish,ahead_start,text_start,List.nil_append,flatMap_ownText_preorder]

/-- The loop comes to an end for every tree, after as many steps as the tree has nodes that readers
see. What it has collected is the text that the node holds itself and then what it collects from
each child in order, which is the raw text of the tree. -/
theorem readText_own_and_children (n : Node) :
    ((start n).after n.preorder.length = some (start n).finish ∧ (start n).finish.pending = []) ∧
      n.readText = n.ownText ++ n.children.flatMap readText ∧ n.readText = n.rawText := by
  refine ⟨⟨?_,pending_finish (start n)⟩,?_,readText_eq_rawText n⟩
  · rw [← ahead_start]
    exact after_length_ahead (start n)
  · simp only [funext readText_eq_rawText]
    exact rawText_eq n

end Node
end ChatMarkup
