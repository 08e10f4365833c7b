import ChatMarkup.Tree.Children

/-!
# Raw text

The raw text of a tree is the text of its nodes in reading order, without any markup: texts, code
and the values of unknown nodes.
-/
namespace ChatMarkup.Node

def leafText : Leaf → List Char
  | .text value => value.toList
  | .code value => value.toList
  | .codeBlock value _ _ => value.toList
  | _ => []

/-- The text that a node holds itself, apart from its children. -/
def ownText : Node → List Char
  | .leaf kind _ => leafText kind
  | .unknown _ value _ _ => (value.getD "").toList
  | _ => []

mutual

def rawText : Node → List Char
  | .leaf kind _ => leafText kind
  | .container _ cs _ => rawTextList cs
  | .table body header rows _ _ =>
    match header, rows with
    | none, [] => rawTextList body
    | header, rows => rawTextOption header ++ rawTextList rows
  | .unknown _ value cs _ => (value.getD "").toList ++ rawTextList cs

def rawTextList : List Node → List Char
  | [] => []
  | n :: ns => rawText n ++ rawTextList ns

def rawTextOption : Option Node → List Char
  | none => []
  | some n => rawText n

end

theorem sizeList_append (xs ys : List Node) :
    sizeList (xs ++ ys) = sizeList xs + sizeList ys := by
  induction xs with
  | nil => simp [sizeList]
  | cons x xs ih => simp [sizeList, ih]; omega

/-- The children of a node are smaller than the node, also taken together. -/
theorem sizeList_children_lt (n : Node) : sizeList n.children < n.size := by
  cases n with
  | leaf => simp [children, sizeList, size]
  | container => simp [children, size]
  | table body header rows align m =>
    cases header with
    | some h =>
      simp only [children, tableRows, sizeList, size, sizeOption]
      omega
    | none =>
      cases rows <;> simp only [children, tableRows, sizeList, size, sizeOption] <;> omega
  | unknown => simp [children, size]

end ChatMarkup.Node
