import ChatMarkup.Tree.Text
import ChatMarkup.Text.Search

/-!
# Places in a tree

A path names a node by the positions of children on the way to it. The last text node, in reading
order, whose text has a given ending can be found, and cut there; everything around it stays.
-/
namespace ChatMarkup.Node
open Text

inductive PathError where
  /-- There is no child at a position of the path. -/
  | noChild
  /-- The path leads to a node of this kind, which is no text. -/
  | notText (kind : String)
deriving DecidableEq, Repr

def PathError.message : PathError → String
  | .noChild => "list index out of range"
  | .notText kind => s!"Index path ends at {kind}, not Text"

def isTextEndingIn (ending : List Char) : Node → Bool
  | .leaf (.text value) _ => endsWith ending value.toList
  | _ => false

mutual

/-- The path to the last text node with the given ending. -/
def lastTextPath? (ending : List Char) : Node → Option (List Nat)
  | .leaf (.text value) _ => if endsWith ending value.toList then some [] else none
  | .leaf .. => none
  | .container _ cs _ => lastTextPathFrom? ending 0 cs
  | .table body header rows _ _ =>
    match header, rows with
    | none, [] => lastTextPathFrom? ending 0 body
    | none, rows => lastTextPathFrom? ending 0 rows
    | some h, rows =>
      match lastTextPathFrom? ending 1 rows with
      | some path => some path
      | none => (lastTextPath? ending h).map (0 :: ·)
  | .unknown _ _ cs _ => lastTextPathFrom? ending 0 cs

/-- The path to the last text node with the given ending in a row of nodes, counted from `i`. -/
def lastTextPathFrom? (ending : List Char) (i : Nat) : List Node → Option (List Nat)
  | [] => none
  | n :: ns =>
    match lastTextPathFrom? ending (i + 1) ns with
    | some path => some path
    | none => (lastTextPath? ending n).map (i :: ·)

end

/-- The place that a position names in a row of the given length: negative positions count from
the end. -/
def place? (length : Nat) (i : Int) : Option Nat :=
  if 0 ≤ i then (if i.toNat < length then some i.toNat else none)
  else if (-i).toNat ≤ length then some (length - (-i).toNat)
  else none

/-- A text without its last characters. A negative number takes nothing away; where more is to go
than there is, the end of the cut is itself counted from the end. -/
def cutEnd (length : Int) (s : List Char) : List Char :=
  let keep : Int := s.length - length
  if 0 ≤ keep then s.take keep.toNat else s.take (s.length + keep).toNat

/-- The tree with the text at a path cut at its end. -/
def cutTextAt (n : Node) (path : List Int) (length : Int) : Except PathError Node :=
  match path with
  | [] => match n with
    | .leaf (.text value) m =>
      .ok (.leaf (.text (String.ofList (cutEnd length value.toList))) m)
    | n => .error (.notText n.kindName)
  | i :: rest =>
    match place? n.children.length i with
    | none => .error .noChild
    | some k => match n.children[k]? with
      | none => .error .noChild
      | some c => do
        let c ← cutTextAt c rest length
        .ok (n.withChildren (n.children.set k c))

/-- Replacing a node of a row by one of the same size keeps the size of the row. -/
theorem sizeList_set {ns : List Node} {k : Nat} {c d : Node} (h : ns[k]? = some c)
    (e : d.size = c.size) : sizeList (ns.set k d) = sizeList ns := by
  induction ns generalizing k with
  | nil => simp at h
  | cons n ns ih =>
    cases k with
    | zero => simp at h; subst h; simp [sizeList, e]
    | succ k => simp at h; simp [sizeList, ih h]

/-- Replacing one child by a node of the same size keeps the size of the tree. -/
theorem size_withChildren_set {n : Node} {k : Nat} {c d : Node} (h : n.children[k]? = some c)
    (e : d.size = c.size) : (n.withChildren (n.children.set k d)).size = n.size := by
  have s := sizeList_set h e
  cases n with
  | leaf => rfl
  | container => simpa [children, withChildren, size] using s
  | table body header rows align m =>
    cases header with
    | some g =>
      simp only [children, tableRows] at s h ⊢
      cases k with
      | zero => simp at h; subst h; simp [withChildren, size, sizeOption, e]
      | succ k =>
        simp [sizeList] at s
        simp [withChildren, size, sizeOption, s]
    | none =>
      cases rows with
      | nil =>
        simp only [children, tableRows] at s ⊢
        simpa [withChildren, size, sizeOption, sizeList] using s
      | cons r rs =>
        simp only [children, tableRows] at s ⊢
        cases k <;> simp_all [withChildren, size, sizeOption]
  | unknown => simpa [children, withChildren, size] using s

/-- Cutting a text keeps the number of nodes. -/
theorem size_cutTextAt {n m : Node} {path : List Int} {length : Int}
    (h : n.cutTextAt path length = .ok m) : m.size = n.size := by
  induction path generalizing n m with
  | nil =>
    unfold cutTextAt at h
    split at h
    · cases h; simp [size]
    · cases h
  | cons i rest ih =>
    unfold cutTextAt at h
    split at h
    · cases h
    · next k _ =>
      split at h
      · cases h
      · next c hc =>
        cases hd : cutTextAt c rest length with
        | error e => simp [hd, bind, Except.bind] at h
        | ok d =>
          simp only [hd, bind, Except.bind, Except.ok.injEq] at h
          subst h
          exact size_withChildren_set hc (ih hd)

end ChatMarkup.Node
