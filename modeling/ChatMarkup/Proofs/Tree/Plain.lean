import ChatMarkup.Proofs.Tree.Cutting

/-!
# What readers can tell apart

Readers do not see the members that nodes carry along, the ranks of headings, or which of its two
shapes a table has. A tree without all of that is plain. It has the same text as before, a text is
found in the same place and cut there with the same outcome, and a check reports the same. So two
trees that are the same once they are plain cannot be told apart.
-/
namespace ChatMarkup.Node
open Text

/-! ## Plain trees -/

def unranked : Container → Container
  | .heading _ => .heading (.count (.number 1))
  | kind => kind

/-- The node over these children, with nothing that readers do not see. -/
def stripped : Node → List Node → Node
  | .leaf kind _, _ => .leaf kind []
  | .container kind _ _, cs => .container (unranked kind) cs []
  | .table .., cs => .table cs none [] [] []
  | .unknown name value _ _, cs => .unknown name value cs []

def plain (n : Node) : Node :=
  n.stripped (n.children.attach.map fun ⟨c,hc⟩ =>
    have := size_lt_of_mem_children hc
    c.plain)
termination_by n.size

theorem plain_eq (n : Node) : n.plain = n.stripped (n.children.map plain) := by
  rw [plain]
  congr 1
  conv_rhs => rw [← n.children.attach_map_subtype_val,List.map_map]
  rfl

/-- A change of all nodes of a tree that keeps what readers see of each keeps the plain tree. -/
theorem plain_of_map {f : Node → Node} (hs : ∀ n, (f n).stripped = n.stripped)
    (hc : ∀ n, (f n).children = n.children.map f) (n : Node) : (f n).plain = n.plain := by
  induction n using children_induction with
  | h n ih =>
    rw [plain_eq,plain_eq n,hs,hc,List.map_map]
    exact congrArg n.stripped (List.map_congr_left ih)

section
variable (m : List (String × Value)) (cs : List Node)

theorem plain_leaf (kind : Leaf) : (Node.leaf kind m).plain = .leaf kind [] := by
  rw [plain_eq]
  rfl

theorem plain_container (kind : Container) :
    (Node.container kind cs m).plain = .container (unranked kind) (cs.map plain) [] := by
  rw [plain_eq]
  rfl

theorem plain_table (header : Option Node) (rows : List Node) (align : List Value) :
    (Node.table cs header rows align m).plain =
      .table ((tableRows cs header rows).map plain) none [] [] [] := by
  rw [plain_eq]
  rfl

theorem plain_unknown (name : String) (value : Option String) :
    (Node.unknown name value cs m).plain = .unknown name value (cs.map plain) [] := by
  rw [plain_eq]
  rfl

end

theorem children_plain (n : Node) : n.plain.children = n.children.map plain := by
  rw [plain_eq]
  cases n <;> rfl

theorem sameKind_plain (n : Node) : SameKind n.plain n := by
  rw [plain_eq]
  cases n with
  | container kind cs m => cases kind <;> exact ⟨rfl,rfl,rfl,rfl,rfl,rfl,rfl,rfl⟩
  | _ => exact ⟨rfl,rfl,rfl,rfl,rfl,rfl,rfl,rfl⟩

theorem ownText_plain (n : Node) : n.plain.ownText = n.ownText := by
  rw [plain_eq]
  cases n <;> rfl

theorem isTextEndingIn_plain (ending : List Char) (n : Node) :
    n.plain.isTextEndingIn ending = n.isTextEndingIn ending := by
  rw [plain_eq]
  cases n with
  | leaf kind m => cases kind <;> rfl
  | _ => rfl

/-! ## Checks -/

theorem misplacements_plain (n : Node) : n.plain.misplacements = n.misplacements := by
  induction n using children_induction with
  | h n ih =>
    rw [misplacements_eq,misplacements_eq n,children_plain,List.zipIdx_map,List.flatMap_map]
    refine List.flatMap_congr ?_
    rintro ⟨c,i⟩ hc
    have hm := (sameKind_plain n).misplacement? (sameKind_plain c) i
    simp only [Prod.map_apply,id_eq,problemsAt,hm,ih c (List.fst_mem_of_mem_zipIdx hc)]

/-! ## Texts -/

theorem rawTextList_eq (ns : List Node) : rawTextList ns = ns.flatMap rawText := by
  induction ns with
  | nil => rfl
  | cons n ns ih => rw [rawTextList,List.flatMap_cons,ih]

theorem rawText_eq (n : Node) : n.rawText = n.ownText ++ n.children.flatMap rawText := by
  rw [rawText.eq_def,← rawTextList_eq]
  cases n with
  | leaf kind m => simp [ownText,children,rawTextList]
  | container => rfl
  | table body header rows align m =>
    cases header with
    | none => cases rows <;> rfl
    | some h => rfl
  | unknown => rfl

theorem rawText_plain (n : Node) : n.plain.rawText = n.rawText := by
  induction n using children_induction with
  | h n ih =>
    rw [rawText_eq,rawText_eq n,ownText_plain,children_plain,List.flatMap_map]
    congr 1
    exact List.flatMap_congr ih

/-! ## Searching and cutting -/

theorem lastTextPathFrom?_map {f : Node → Node} {ending : List Char} {cs : List Node}
    (h : ∀ c ∈ cs, (f c).lastTextPath? ending = c.lastTextPath? ending) (i : ℕ) :
    lastTextPathFrom? ending i (cs.map f) = lastTextPathFrom? ending i cs := by
  induction cs generalizing i with
  | nil => rfl
  | cons c cs ih =>
    rw [List.map_cons,lastTextPathFrom?,lastTextPathFrom?,h c (by simp),
      ih fun d hd => h d (List.mem_cons_of_mem c hd)]

theorem lastTextPath?_plain (ending : List Char) (n : Node) :
    n.plain.lastTextPath? ending = n.lastTextPath? ending := by
  induction n using children_induction with
  | h n ih =>
    rw [lastTextPath?_eq,lastTextPath?_eq ending n,isTextEndingIn_plain,children_plain,
      lastTextPathFrom?_map ih]

/-- Children are replaced in the plain tree as in the tree itself. -/
theorem withChildren_plain {n : Node} {cs : List Node} (h : cs.length = n.children.length) :
    n.plain.withChildren (cs.map plain) = (n.withChildren cs).plain := by
  cases n with
  | leaf => rw [withChildren,plain_leaf,withChildren]
  | container => rw [withChildren,plain_container,plain_container,withChildren]
  | unknown => rw [withChildren,plain_unknown,plain_unknown,withChildren]
  | table body header rows align m =>
    rw [plain_table]
    cases header with
    | some g =>
      cases cs with
      | nil => simp [children,tableRows] at h
      | cons c cs => rw [withChildren,withChildren,plain_table,tableRows]
    | none =>
      cases rows with
      | nil => rw [withChildren,withChildren,plain_table,tableRows]
      | cons r rs =>
        cases cs with
        | nil => simp [children,tableRows] at h
        | cons c cs => rw [withChildren,withChildren,plain_table,tableRows]; simp

theorem cutTextAt_plain (n : Node) (path : List ℕ) (length : ℤ) :
    n.plain.cutTextAt (path.map Int.ofNat) length =
      (n.cutTextAt (path.map Int.ofNat) length).map plain := by
  induction path generalizing n with
  | nil =>
    have hk := (sameKind_plain n).kindName
    rw [List.map_nil,cutTextAt.eq_def,cutTextAt.eq_def n]
    cases n with
    | leaf kind m =>
      rw [plain_leaf]
      cases kind with
      | text value => simp [Except.map,plain_leaf]
      | _ => rfl
    | container kind cs m =>
      rw [plain_container] at hk ⊢
      exact congrArg (fun kind => Except.error (PathError.notText kind)) hk
    | table => rw [plain_table]; rfl
    | unknown => rw [plain_unknown]; rfl
  | cons k rest ih =>
    rw [List.map_cons,Int.ofNat_eq_natCast,cutTextAt_cons,cutTextAt_cons,children_plain,
      List.getElem?_map]
    cases n.children[k]? with
    | none => rfl
    | some c =>
      simp only [Option.map_some,ih]
      cases c.cutTextAt (rest.map Int.ofNat) length with
      | error e => rfl
      | ok d =>
        simp only [Except.map]
        rw [← withChildren_plain (by simp),List.map_set]

end ChatMarkup.Node
