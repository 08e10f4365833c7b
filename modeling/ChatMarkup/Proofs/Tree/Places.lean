import ChatMarkup.Proofs.Tree.Plain

/-!
# Places in trees

A place is the row of positions of children on the way from the top of a tree to one of its nodes.
The labels at all places make up the tree. Two trees whose labels differ at one place only have the
same text in front of this place and the same text after it.
-/
namespace ChatMarkup.Node
variable {n m c d : Node} {k : ℕ} {path : List ℕ}

def nodeAt? (n : Node) : List ℕ → Option Node
  | [] => some n
  | k :: place => n.children[k]?.bind fun c => c.nodeAt? place

def labelAt? (n : Node) (place : List ℕ) : Option Label := (n.nodeAt? place).map label

theorem nodeAt?_cons (hc : n.children[k]? = some c) (place : List ℕ) :
    n.nodeAt? (k :: place) = c.nodeAt? place := by
  rw [nodeAt?,hc,Option.bind_some]

theorem nodeAt?_cons_eq_some (h : n.nodeAt? (k :: path) = some d) :
    ∃ c, n.children[k]? = some c ∧ c.nodeAt? path = some d :=
  Option.bind_eq_some_iff.mp h

theorem labelAt?_cons (hc : n.children[k]? = some c) (place : List ℕ) :
    n.labelAt? (k :: place) = c.labelAt? place := by
  rw [labelAt?,nodeAt?_cons hc,labelAt?]

/-- Where one tree has a child, another with a label there has one, too. -/
theorem exists_child_of_labelAt? (h : n.labelAt? [k] = m.labelAt? [k])
    (hc : n.children[k]? = some c) : ∃ d, m.children[k]? = some d := by
  rw [labelAt?_cons hc] at h
  obtain ⟨e,he,-⟩ := Option.map_eq_some_iff.mp h.symm
  obtain ⟨d,hd,-⟩ := nodeAt?_cons_eq_some he
  exact ⟨d,hd⟩

/-- Children are the same if the labels at and below them tell them apart from all others. -/
theorem child_eq_of_labelAt?_eq (h : ∀ place, n.labelAt? (k :: place) = m.labelAt? (k :: place))
    (hu : ∀ c ∈ n.children, ∀ d, (∀ place, c.labelAt? place = d.labelAt? place) → c = d) :
    n.children[k]? = m.children[k]? := by
  cases hc : n.children[k]? with
  | none =>
    cases hd : m.children[k]? with
    | none => rfl
    | some d =>
      obtain ⟨c,hc'⟩ := exists_child_of_labelAt? (h []).symm hd
      rw [hc] at hc'
      cases hc'
  | some c =>
    obtain ⟨d,hd⟩ := exists_child_of_labelAt? (h []) hc
    rw [hd,hu c (List.mem_of_getElem? hc) d fun place => ?_]
    have hp := h place
    rwa [labelAt?_cons hc,labelAt?_cons hd] at hp

theorem eq_of_labelAt?_eq (h : ∀ place, n.labelAt? place = m.labelAt? place) : n = m := by
  induction n using children_induction generalizing m with
  | h n ih =>
    refine eq_of_label_eq (Option.some.inj (h [])) (List.ext_getElem? fun k => ?_)
    exact child_eq_of_labelAt?_eq (fun place => h (k :: place)) fun c hc d hd => ih c hc hd

/-! ## Trees that differ at one place -/

/-- Two trees have the same places, with the same labels at all of them but one. -/
def AgreeExcept (path : List ℕ) (n m : Node) : Prop :=
  ∀ place, place ≠ path → n.labelAt? place = m.labelAt? place

namespace AgreeExcept

theorem label (h : AgreeExcept (k :: path) n m) : n.label = m.label :=
  Option.some.inj (h [] (List.cons_ne_nil k path).symm)

theorem child (h : AgreeExcept (k :: path) n m) (hc : n.children[k]? = some c)
    (hd : m.children[k]? = some d) : AgreeExcept path c d := by
  intro place hp
  have hk := h (k :: place) (by simpa using hp)
  rwa [labelAt?_cons hc,labelAt?_cons hd] at hk

theorem sibling (h : AgreeExcept (k :: path) n m) {j : ℕ} (hj : j ≠ k) :
    n.children[j]? = m.children[j]? :=
  child_eq_of_labelAt?_eq (fun place => h (j :: place) (by simp [hj])) fun _ _ _ =>
    eq_of_labelAt?_eq

theorem children (h : AgreeExcept (k :: path) n m) (hd : m.children[k]? = some d)
    (hk : k < n.children.length) : m.children = n.children.set k d := by
  refine List.ext_getElem? fun j => ?_
  rw [List.getElem?_set]
  split_ifs with hj
  · rw [← hj,hd]
  · exact (h.sibling fun he => hj he.symm).symm

end AgreeExcept

/-- The first tree is put together anew with a child in which one label differs. -/
theorem agreeExcept_withChildren_set (hc : n.children[k]? = some c) (h : AgreeExcept path c d) :
    AgreeExcept (k :: path) n (n.withChildren (n.children.set k d)) := by
  have hs := children_withChildren_set hc d
  have hk := (List.getElem?_eq_some_iff.mp hc).1
  intro place hp
  cases place with
  | nil => exact congrArg some (label_withChildren_set hc d).symm
  | cons j place =>
    by_cases hj : j = k
    · subst hj
      have hd : (n.withChildren (n.children.set j d)).children[j]? = some d := by
        rw [hs,List.getElem?_set_self hk]
      rw [labelAt?_cons hc,labelAt?_cons hd]
      exact h place (by simpa using hp)
    · rw [labelAt?,labelAt?,nodeAt?,nodeAt?,hs,List.getElem?_set_ne (Ne.symm hj)]

/-! ## The text around a place -/

/-- The raw text in front of the node at a place. -/
def textBefore (n : Node) : List ℕ → List Char
  | [] => []
  | k :: place => n.ownText ++ (n.children.take k).flatMap rawText ++
      (n.children[k]?.map fun c => c.textBefore place).getD []

/-- The raw text after the node at a place and all that stands below it. -/
def textAfter (n : Node) : List ℕ → List Char
  | [] => []
  | k :: place => (n.children[k]?.map fun c => c.textAfter place).getD [] ++
      (n.children.drop (k + 1)).flatMap rawText

theorem textBefore_cons (hc : n.children[k]? = some c) (place : List ℕ) :
    n.textBefore (k :: place) =
      n.ownText ++ (n.children.take k).flatMap rawText ++ c.textBefore place := by
  rw [textBefore,hc,Option.map_some,Option.getD_some]

theorem textAfter_cons (hc : n.children[k]? = some c) (place : List ℕ) :
    n.textAfter (k :: place) = c.textAfter place ++ (n.children.drop (k + 1)).flatMap rawText := by
  rw [textAfter,hc,Option.map_some,Option.getD_some]

theorem rawText_at (h : n.nodeAt? path = some c) :
    n.rawText = n.textBefore path ++ c.rawText ++ n.textAfter path := by
  induction path generalizing n with
  | nil =>
    obtain rfl := Option.some.inj h
    simp [textBefore,textAfter]
  | cons k path ih =>
    obtain ⟨d,hd,hc⟩ := nodeAt?_cons_eq_some h
    obtain ⟨hk,rfl⟩ := List.getElem?_eq_some_iff.mp hd
    have hs : n.children = n.children.take k ++ n.children[k] :: n.children.drop (k + 1) := by
      rw [← List.drop_eq_getElem_cons hk,List.take_append_drop]
    rw [rawText_eq,textBefore_cons hd,textAfter_cons hd]
    conv_lhs => rw [hs,List.flatMap_append,List.flatMap_cons,ih hc]
    simp only [List.append_assoc]

theorem ownText_of_label_eq (h : n.label = m.label) : n.ownText = m.ownText := by
  cases n <;> cases m <;> simp_all [label,ownText]

theorem AgreeExcept.text_eq (h : AgreeExcept path n m) (hc : n.nodeAt? path = some c)
    (hd : m.nodeAt? path = some d) :
    m.textBefore path = n.textBefore path ∧ m.textAfter path = n.textAfter path := by
  induction path generalizing n m with
  | nil => exact ⟨rfl,rfl⟩
  | cons k path ih =>
    obtain ⟨c',hc',hc⟩ := nodeAt?_cons_eq_some hc
    obtain ⟨d',hd',hd⟩ := nodeAt?_cons_eq_some hd
    have hs := h.children hd' (List.getElem?_eq_some_iff.mp hc').1
    obtain ⟨hb,ha⟩ := ih (h.child hc' hd') hc hd
    rw [textBefore_cons hc',textBefore_cons hd',textAfter_cons hc',textAfter_cons hd',hb,ha,
      ← ownText_of_label_eq h.label,hs,List.take_set_of_le (Nat.le_refl k),
      List.drop_set_of_lt (Nat.lt_succ_self k)]
    exact ⟨rfl,rfl⟩

end ChatMarkup.Node
