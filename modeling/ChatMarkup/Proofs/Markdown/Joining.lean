import ChatMarkup.Markdown.Received
import ChatMarkup.Markdown.Conversion
import ChatMarkup.Proofs.Tree.Everywhere
import ChatMarkup.Proofs.Tree.Plain
import Mathlib.Data.List.SplitBy

/-!
# Joining texts

With texts joined, each node that a span gives is put behind the nodes that were made so far, and a
text behind a text goes into it. The same nodes come out if no texts are joined at first, and then,
at every depth, each run of texts between other nodes is made one text. So no two texts stand side
by side anywhere, and nothing changes in what the nodes say.
-/
namespace ChatMarkup.Node

def isText : Node → Bool
  | .leaf (.text _) _ => true
  | _ => false

/-- One text in the place of a run of texts; what stands alone stays as it is. -/
def joinRun : List Node → List Node
  | [] => []
  | [n] => [n]
  | run => [Node.text (String.ofList (rawTextList run))]

/-- The nodes with each longest run of texts made one text. -/
def joinRuns (ns : List Node) : List Node :=
  (ns.splitBy fun n m => n.isText && m.isText).flatMap joinRun

mutual

/-- The tree with each longest run of texts made one text, at every depth. -/
def coalesced : Node → Node
  | .leaf kind m => .leaf kind m
  | .container kind cs m => .container kind (joinRuns (coalescedAll cs)) m
  | .table body header rows align m =>
    .table (joinRuns (coalescedAll body)) (coalescedOption header) (joinRuns (coalescedAll rows))
      align m
  | .unknown name value cs m => .unknown name value (joinRuns (coalescedAll cs)) m

def coalescedAll : List Node → List Node
  | [] => []
  | n :: ns => coalesced n :: coalescedAll ns

def coalescedOption : Option Node → Option Node
  | none => none
  | some n => some (coalesced n)

end

def TextsApart (ns : List Node) : Prop :=
  ns.IsChain fun n m => (n.isText && m.isText) = false

/-- If the node is a text, it is one without further members. -/
def Bare (n : Node) : Prop := n.isText = true → ∃ s, n = Node.text s

theorem coalescedAll_eq (ns : List Node) : coalescedAll ns = ns.map coalesced := by
  induction ns with
  | nil => rw [coalescedAll,List.map_nil]
  | cons n ns ih => rw [coalescedAll,List.map_cons,ih]

theorem bare_text (s : String) : Bare (Node.text s) := fun _ => ⟨s,rfl⟩

theorem bare_of_not_isText {n : Node} (h : n.isText = false) : Bare n := by
  intro ht
  rw [h] at ht
  cases ht

/-! ## Runs -/

/-- A node that does not go with the one behind it is a run of its own. -/
theorem splitBy_cons_apart {r : Node → Node → Bool} {n : Node} {ns : List Node}
    (h : ∀ m ∈ ns.head?, r n m = false) : (n :: ns).splitBy r = [n] :: ns.splitBy r := by
  have hs := List.splitBy_append (l := [n]) (m := ns) (r := r) (by simpa using h)
  rw [List.singleton_append] at hs
  rw [hs,List.splitBy_of_isChain (by simp) (List.isChain_singleton n)]
  rfl

/-- A node that goes with the one behind it begins the run of that node. -/
theorem splitBy_cons_together {r : Node → Node → Bool} {n m : Node} (h : r n m = true)
    (ns : List Node) : ∃ run runs, (m :: ns).splitBy r = (m :: run) :: runs ∧
      (n :: m :: ns).splitBy r = (n :: m :: run) :: runs := by
  obtain ⟨first,runs,hs⟩ := List.exists_cons_of_ne_nil
    (List.splitBy_ne_nil.mpr (List.cons_ne_nil m ns) : (m :: ns).splitBy r ≠ [])
  obtain ⟨hf,hn,hc,ha⟩ := List.splitBy_eq_iff.mp hs
  cases first with
  | nil => simp at hn
  | cons k run =>
    obtain ⟨rfl,hr⟩ := List.cons.inj hf
    refine ⟨run,runs,hs,List.splitBy_eq_iff.mpr ⟨by rw [hf]; rfl,?_,?_,?_⟩⟩
    · simpa using hn
    · rw [List.forall_mem_cons] at hc ⊢
      exact ⟨hc.1.cons_cons h,hc.2⟩
    · cases runs with
      | nil => exact List.isChain_singleton _
      | cons next runs =>
        rw [List.isChain_cons_cons] at ha ⊢
        obtain ⟨⟨_,hb,he⟩,hr⟩ := ha
        exact ⟨⟨by simp,hb,by simpa using he⟩,hr⟩

theorem joinRun_text (s : String) (run : List Node) :
    joinRun (Node.text s :: run) =
      [Node.text (String.ofList (rawTextList (Node.text s :: run)))] := by
  cases run with
  | nil => simp [joinRun,Node.text,rawTextList,rawText,leafText]
  | cons => rfl

/-- A node that is no text is passed on alone. -/
theorem joinRuns_cons_of_not_isText {n : Node} (hn : n.isText = false) (ns : List Node) :
    joinRuns (n :: ns) = n :: joinRuns ns := by
  rw [joinRuns,splitBy_cons_apart (fun _ _ => by simp [hn])]
  rfl

end ChatMarkup.Node

namespace ChatMarkup.Markdown
open Node

/-! ## Joining from the last node on -/

theorem joinBefore_text (a b : String) (ns : List Node) :
    joinBefore (Node.text a) (Node.text b :: ns) = Node.text (a ++ b) :: ns := rfl

/-- A node goes in front of others unchanged, unless it and the first of these are texts. -/
theorem joinBefore_apart {n : Node} {ns : List Node}
    (h : ∀ m ∈ ns.head?, (n.isText && m.isText) = false) : joinBefore n ns = n :: ns := by
  unfold joinBefore
  split
  · exact absurd (h _ rfl) (by simp [isText])
  · rfl

theorem joinTexts_cons (n : Node) (ns : List Node) :
    joinTexts (n :: ns) = joinBefore n (joinTexts ns) := rfl

/-- Two texts that meet are joined whether the second is joined with what follows it first. -/
theorem joinTexts_texts (a b : String) (ns : List Node) :
    joinTexts (Node.text a :: Node.text b :: ns) = joinTexts (Node.text (a ++ b) :: ns) := by
  simp only [joinTexts_cons]
  generalize joinTexts ns = rest
  by_cases h : ∃ c more, rest = Node.text c :: more
  · obtain ⟨c,more,rfl⟩ := h
    simp only [joinBefore_text,String.append_assoc]
  · have hb (s : String) : joinBefore (Node.text s) rest = Node.text s :: rest := by
      unfold joinBefore
      split
      · exact absurd ⟨_,_,rfl⟩ h
      · rfl
    rw [hb,hb,joinBefore_text]

theorem joinRuns_cons {n : Node} {ns : List Node} (hn : n.Bare) (hb : ∀ m ∈ ns, Bare m) :
    joinRuns (n :: ns) = joinBefore n (joinRuns ns) := by
  cases ht : n.isText with
  | false => rw [joinRuns_cons_of_not_isText ht,joinBefore_apart fun _ _ => by simp [ht]]
  | true =>
    obtain ⟨a,rfl⟩ := hn ht
    match ns with
    | [] => rfl
    | m :: ns =>
      cases hm : m.isText with
      | false =>
        rw [joinRuns,splitBy_cons_apart (by simp [hm]),joinRuns_cons_of_not_isText hm,
          joinBefore_apart (by simp [hm]),← joinRuns_cons_of_not_isText hm]
        rfl
      | true =>
        obtain ⟨b,rfl⟩ := hb m List.mem_cons_self hm
        obtain ⟨run,runs,h₁,h₂⟩ := splitBy_cons_together
          (r := fun n m => n.isText && m.isText) (n := Node.text a) (m := Node.text b) rfl ns
        rw [joinRuns,h₂,joinRuns,h₁,List.flatMap_cons,List.flatMap_cons,joinRun_text,joinRun_text,
          List.singleton_append,List.singleton_append,joinBefore_text]
        simp [rawTextList,rawText,leafText,Node.text,String.ofList_append]

/-- Joining node by node from the last one on makes each longest run of texts one text. -/
theorem joinTexts_eq_joinRuns {ns : List Node} (h : ∀ n ∈ ns, Bare n) :
    joinTexts ns = joinRuns ns := by
  induction ns with
  | nil => rfl
  | cons n ns ih =>
    obtain ⟨hn,hs⟩ := List.forall_mem_cons.mp h
    rw [joinTexts_cons,ih hs,joinRuns_cons hn hs]

/-- The first node is a text after joining if it was one before. -/
theorem isText_head_joinTexts {n m : Node} {ns : List Node}
    (h : (joinTexts (n :: ns)).head? = some m) : m.isText = n.isText := by
  rw [joinTexts_cons] at h
  unfold joinBefore at h
  split at h
  · cases h; rfl
  · cases h; rfl

/-- Joining keeps what is not joined and makes texts of the rest. -/
theorem mem_joinBefore {n c : Node} {rest : List Node} (h : c ∈ joinBefore n rest) :
    c ∈ n :: rest ∨ ∃ s, c = Node.text s := by
  unfold joinBefore at h
  split at h
  · rcases List.mem_cons.mp h with rfl | hr
    · exact .inr ⟨_,rfl⟩
    · exact .inl (List.mem_cons_of_mem _ (List.mem_cons_of_mem _ hr))
  · exact .inl h

theorem forall_mem_joinTexts {P : Node → Prop} (ht : ∀ s, P (Node.text s)) {ns : List Node}
    (h : ∀ n ∈ ns, P n) : ∀ n ∈ joinTexts ns, P n := by
  induction ns with
  | nil => simp [joinTexts]
  | cons n ns ih =>
    obtain ⟨hn,hs⟩ := List.forall_mem_cons.mp h
    intro c hc
    rcases mem_joinBefore hc with hc | ⟨s,rfl⟩
    · exact List.forall_mem_cons.mpr ⟨hn,ih hs⟩ c hc
    · exact ht s

/-- Either both nodes that meet are texts, or the one in front stays as it is. -/
theorem joinBefore_cases {n : Node} {ns : List Node} (hn : n.Bare) (hs : ∀ m ∈ ns, Bare m) :
    (∃ a b more, n = Node.text a ∧ ns = Node.text b :: more) ∨
      ∀ m ∈ ns.head?, (n.isText && m.isText) = false := by
  by_contra h
  obtain ⟨hj,ha⟩ := not_or.mp h
  push Not at ha
  obtain ⟨m,hm,ht⟩ := ha
  obtain ⟨more,rfl⟩ := List.head?_eq_some_iff.mp hm
  obtain ⟨h₁,h₂⟩ := Bool.and_eq_true_iff.mp (by simpa using ht)
  obtain ⟨a,rfl⟩ := hn h₁
  obtain ⟨b,rfl⟩ := hs m List.mem_cons_self h₂
  exact hj ⟨a,b,more,rfl,rfl⟩

theorem textsApart_joinTexts {ns : List Node} (h : ∀ n ∈ ns, Bare n) :
    TextsApart (joinTexts ns) := by
  induction ns with
  | nil => exact List.isChain_nil
  | cons n ns ih =>
    obtain ⟨hn,hs⟩ := List.forall_mem_cons.mp h
    have hr := ih hs
    rw [joinTexts_cons]
    rcases joinBefore_cases hn (forall_mem_joinTexts bare_text hs) with ⟨a,b,more,rfl,he⟩ | ha
    · rw [he] at hr ⊢
      obtain ⟨hb,hm⟩ := List.isChain_cons.mp hr
      exact List.isChain_cons.mpr ⟨hb,hm⟩
    · rw [joinBefore_apart ha]
      exact List.isChain_cons.mpr ⟨ha,hr⟩

theorem rawTextList_joinTexts (ns : List Node) :
    rawTextList (joinTexts ns) = rawTextList ns := by
  have hb (n : Node) (rest : List Node) :
      rawTextList (joinBefore n rest) = rawText n ++ rawTextList rest := by
    unfold joinBefore
    split
    · simp [rawTextList,rawText,leafText,Node.text]
    · rfl
  induction ns with
  | nil => rfl
  | cons n ns ih => rw [joinTexts_cons,hb,ih,rawTextList]

theorem rawTextList_settleTexts (join : Bool) (ns : List Node) :
    rawTextList (settleTexts join ns) = rawTextList ns := by
  cases join with
  | false => rfl
  | true => exact rawTextList_joinTexts ns

/-! ## Joining as nodes are made -/

/-- Puts a node behind those that were made before it; with texts joined, a text goes into the text
that was made last. -/
def putAfter (join : Bool) (made : List Node) (n : Node) : List Node :=
  match join, made.getLast?, n with
  | true, some (.leaf (.text a) _), .leaf (.text b) _ => made.dropLast ++ [Node.text (a ++ b)]
  | _, _, n => made ++ [n]

theorem putAfter_text (made : List Node) (a b : String) :
    putAfter true (made ++ [Node.text a]) (Node.text b) = made ++ [Node.text (a ++ b)] := by
  simp [putAfter,Node.text]

theorem putAfter_apart {made : List Node} {n : Node}
    (h : ∀ m ∈ made.getLast?, (m.isText && n.isText) = false) :
    putAfter true made n = made ++ [n] := by
  unfold putAfter
  split
  · next hm => exact absurd (h _ hm) (by simp [isText])
  · rfl

/-- The text made last has been joined with all texts in a row before it, so it stands for them when
the next node comes. -/
theorem foldl_putAfter {last : Node} (hl : last.Bare) {ns : List Node} (h : ∀ n ∈ ns, Bare n)
    (made : List Node) :
    ns.foldl (putAfter true) (made ++ [last]) = made ++ joinTexts (last :: ns) := by
  induction ns generalizing made last with
  | nil => rw [List.foldl_nil,joinTexts_cons,joinBefore_apart (by simp [joinTexts])]; rfl
  | cons n ns ih =>
    obtain ⟨hn,hs⟩ := List.forall_mem_cons.mp h
    rw [List.foldl_cons]
    cases ht : last.isText && n.isText with
    | true =>
      obtain ⟨h₁,h₂⟩ := Bool.and_eq_true_iff.mp ht
      obtain ⟨a,rfl⟩ := hl h₁
      obtain ⟨b,rfl⟩ := hn h₂
      rw [putAfter_text,ih (bare_text _) hs,joinTexts_texts]
    | false =>
      rw [putAfter_apart (by simpa using ht),ih hn hs,List.append_assoc,joinTexts_cons last]
      rw [joinBefore_apart fun m hm => by rw [isText_head_joinTexts hm]; exact ht]
      rfl

theorem settleTexts_eq_foldl (join : Bool) {ns : List Node} (h : ∀ n ∈ ns, Bare n) :
    settleTexts join ns = ns.foldl (putAfter join) [] := by
  cases join with
  | true =>
    cases ns with
    | nil => rfl
    | cons n ns =>
      obtain ⟨hn,hs⟩ := List.forall_mem_cons.mp h
      exact (foldl_putAfter hn hs []).symm
  | false =>
    have hp (made : List Node) : ns.foldl (putAfter false) made = made ++ ns := by
      induction ns generalizing made with
      | nil => simp
      | cons n ns ih =>
        rw [List.foldl_cons,ih (List.forall_mem_cons.mp h).2]
        simp [putAfter]
    exact (hp []).symm

/-! ## Spans -/

namespace Span

def inner : Span → List Span
  | .styled _ children => children
  | .link _ _ children => children
  | .image _ _ label => label
  | .other _ _ children => children
  | _ => []

theorem sizeOf_lt_of_mem_inner {c s : Span} (h : c ∈ s.inner) : sizeOf c < sizeOf s := by
  cases s with
  | styled style children =>
    have := List.sizeOf_lt_of_mem (show c ∈ children from h)
    simp only [styled.sizeOf_spec]
    omega
  | link url title children =>
    have := List.sizeOf_lt_of_mem (show c ∈ children from h)
    simp only [link.sizeOf_spec]
    omega
  | image url title label =>
    have := List.sizeOf_lt_of_mem (show c ∈ label from h)
    simp only [image.sizeOf_spec]
    omega
  | other name raw children =>
    have := List.sizeOf_lt_of_mem (show c ∈ children from h)
    simp only [other.sizeOf_spec]
    omega
  | text => cases h
  | softBreak => cases h
  | lineBreak => cases h
  | code => cases h
  | html => cases h

/-- Induction over a span by the spans right inside of it. -/
theorem inner_induction {P : Span → Prop} (h : ∀ s, (∀ c ∈ s.inner, P c) → P s) (s : Span) :
    P s :=
  h s fun c _ => inner_induction h c
termination_by sizeOf s
decreasing_by exact sizeOf_lt_of_mem_inner (by assumption)

theorem toNodes_eq_map (join : Bool) (spans : List Span) :
    toNodes join spans = spans.map (toNode join) := by
  induction spans with
  | nil => rw [toNodes,List.map_nil]
  | cons s spans ih => rw [toNodes,List.map_cons,ih]

theorem bare_toNode (join : Bool) (s : Span) : Bare (toNode join s) := by
  cases s with
  | text raw => rw [toNode]; exact bare_text _
  | softBreak => rw [toNode]; exact bare_text _
  | lineBreak => rw [toNode]; exact bare_of_not_isText rfl
  | styled style children => rw [toNode]; exact bare_of_not_isText rfl
  | code raw => rw [toNode]; exact bare_of_not_isText rfl
  | link url title children => rw [toNode]; exact bare_of_not_isText rfl
  | image url title label => rw [toNode]; exact bare_of_not_isText rfl
  | html raw => rw [toNode]; exact bare_of_not_isText rfl
  | other name raw children => rw [toNode]; exact bare_of_not_isText rfl

theorem bare_toNodes (join : Bool) (spans : List Span) : ∀ n ∈ toNodes join spans, Bare n := by
  rw [toNodes_eq_map]
  exact List.forall_mem_map.mpr fun s _ => bare_toNode join s

theorem content_eq_foldl (join : Bool) (spans : List Span) :
    content join spans = spans.foldl (fun made s => putAfter join made (toNode join s)) [] := by
  rw [content,settleTexts_eq_foldl join (bare_toNodes join spans),toNodes_eq_map,List.foldl_map]

/-- What a node says does not hang on whether texts are joined in it. -/
theorem rawTextList_content {join : Bool} {spans : List Span}
    (h : ∀ s ∈ spans, (toNode join s).rawText = (toNode false s).rawText) :
    rawTextList (content join spans) = rawTextList (content false spans) := by
  rw [content,content,rawTextList_settleTexts,rawTextList_settleTexts,rawTextList_eq,
    rawTextList_eq,toNodes_eq_map,toNodes_eq_map,List.flatMap_map,List.flatMap_map]
  exact List.flatMap_congr h

theorem rawText_toNode (join : Bool) (s : Span) :
    (toNode join s).rawText = (toNode false s).rawText := by
  induction s using inner_induction with
  | h s ih =>
    cases s with
    | text => simp only [toNode]
    | softBreak => simp only [toNode]
    | lineBreak => simp only [toNode]
    | styled style children =>
      simp only [toNode,rawText]
      exact rawTextList_content ih
    | code => simp only [toNode]
    | link url title children =>
      simp only [toNode,rawText]
      exact rawTextList_content ih
    | image => simp only [toNode]
    | html => simp only [toNode]
    | other name raw children =>
      simp only [toNode,rawText]
      exact congrArg ((raw.getD "").toList ++ ·) (rawTextList_content ih)

/-- Nodes made with texts joined are those made without, joined. -/
theorem content_joined_of {spans : List Span}
    (h : ∀ s ∈ spans, (toNode false s).coalesced = toNode true s) :
    joinRuns (coalescedAll (content false spans)) = content true spans := by
  have hs : coalescedAll (toNodes false spans) = toNodes true spans := by
    rw [coalescedAll_eq,toNodes_eq_map,toNodes_eq_map,List.map_map]
    exact List.map_congr_left h
  exact (congrArg joinRuns hs).trans (joinTexts_eq_joinRuns (bare_toNodes true spans)).symm

theorem coalesced_toNode (s : Span) : (toNode false s).coalesced = toNode true s := by
  induction s using inner_induction with
  | h s ih =>
    cases s with
    | text => simp only [toNode,Node.text,coalesced]
    | softBreak => simp only [toNode,Node.text,coalesced]
    | lineBreak => simp only [toNode,coalesced]
    | styled style children =>
      simp only [toNode,coalesced]
      exact congrArg (Node.container style.container · []) (content_joined_of ih)
    | code => simp only [toNode,coalesced]
    | link url title children =>
      simp only [toNode,coalesced]
      exact congrArg (Node.container (.link url title) · []) (content_joined_of ih)
    | image => simp only [toNode,coalesced]
    | html => simp only [toNode,htmlNode,coalesced,coalescedAll]; rfl
    | other name raw children =>
      simp only [toNode,coalesced]
      exact congrArg (Node.unknown name raw · []) (content_joined_of ih)

theorem everywhere_textsApart {spans : List Span}
    (h : ∀ s ∈ spans, (toNode true s).Everywhere fun n => TextsApart n.children) :
    ∀ n ∈ content true spans, n.Everywhere fun n => TextsApart n.children := by
  refine forall_mem_joinTexts (fun _ => .of_alone List.isChain_nil rfl) ?_
  rw [toNodes_eq_map]
  exact List.forall_mem_map.mpr h

theorem textsApart_content (spans : List Span) : TextsApart (content true spans) :=
  textsApart_joinTexts (bare_toNodes true spans)

theorem textsApart_toNode (s : Span) :
    (toNode true s).Everywhere fun n => TextsApart n.children := by
  induction s using inner_induction with
  | h s ih =>
    cases s with
    | text => rw [toNode]; exact .of_alone List.isChain_nil rfl
    | softBreak => rw [toNode]; exact .of_alone List.isChain_nil rfl
    | lineBreak => rw [toNode]; exact .of_alone List.isChain_nil rfl
    | styled style children =>
      rw [toNode]
      exact .intro (textsApart_content children) (everywhere_textsApart ih)
    | code => rw [toNode]; exact .of_alone List.isChain_nil rfl
    | link url title children =>
      rw [toNode]
      exact .intro (textsApart_content children) (everywhere_textsApart ih)
    | image => rw [toNode]; exact .of_alone List.isChain_nil rfl
    | html => rw [toNode]; exact .of_alone List.isChain_nil rfl
    | other name raw children =>
      rw [toNode]
      exact .intro (textsApart_content children) (everywhere_textsApart ih)

/-! ## Spans received as data -/

/-- The span that a value is, if it is an object. -/
def ofToken? : Value → Option Span
  | .object ms => some (ofMembers ms (spansOfChildren ms).1 (spansOfChildren ms).2)
  | _ => none

theorem exists_object_or_none (t : Value) : (∃ ms, t = .object ms) ∨ ofToken? t = none := by
  cases t <;> simp [ofToken?]

theorem spansOfAll_cons_of_none {t : Value} (ht : ofToken? t = none) (tokens : List Value) :
    spansOfAll (t :: tokens) = spansOfAll tokens := by
  rw [spansOfAll]
  rintro ms rfl
  cases ht

theorem ofValue_list (tokens : List Value) :
    ofValue (.list tokens) = tokens.filterMap ofToken? := by
  unfold ofValue spansOf
  induction tokens with
  | nil => rw [spansOfAll,List.filterMap_nil]
  | cons t tokens ih =>
    rcases exists_object_or_none t with ⟨ms,rfl⟩ | ht
    · have ho : ofToken? (.object ms) =
          some (ofMembers ms (spansOfChildren ms).1 (spansOfChildren ms).2) := rfl
      rw [spansOfAll,List.filterMap_cons_some ho,ih]
    · rw [spansOfAll_cons_of_none ht,List.filterMap_cons_none ht,ih]

/-- Takes up a value: the node of the span that it is goes behind those that were made before it,
and a value that is no object is passed over. -/
def takeUp (join : Bool) (made : List Node) (token : Value) : List Node :=
  match ofToken? token with
  | some s => putAfter join made (toNode join s)
  | none => made

theorem content_ofValue (join : Bool) (tokens : List Value) :
    content join (ofValue (.list tokens)) = tokens.foldl (takeUp join) [] := by
  rw [content_eq_foldl,ofValue_list,List.foldl_filterMap]
  congr 1
  funext made t
  unfold takeUp
  cases ofToken? t with
  | none => rfl
  | some s => rfl

/-- Spans received as data are taken up one after the other, and with texts joined a text goes into
the one that was made last. Whatever the spans, this is what comes out of the nodes that are made
without joining, if every longest run of texts is then made one text, at every depth: no two texts
stand side by side anywhere, and the nodes say the same. -/
theorem content_joined :
    (∀ join tokens, content join (ofValue (.list tokens)) = tokens.foldl (takeUp join) []) ∧
    ∀ spans,
      content true spans = joinRuns ((content false spans).map coalesced) ∧
      TextsApart (content true spans) ∧
      (∀ n ∈ content true spans, n.Everywhere fun n => TextsApart n.children) ∧
      rawTextList (content true spans) = rawTextList (content false spans) := by
  refine ⟨content_ofValue,fun spans => ⟨?_,textsApart_content spans,?_,?_⟩⟩
  · rw [← coalescedAll_eq]
    exact (content_joined_of fun s _ => coalesced_toNode s).symm
  · exact everywhere_textsApart fun s _ => textsApart_toNode s
  · exact rawTextList_content fun s _ => rawText_toNode true s

end Span

end ChatMarkup.Markdown
