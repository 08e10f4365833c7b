import ChatMarkup.Proofs.Markup.Cut
import ChatMarkup.Proofs.Markup.OpenTags
import Mathlib.Data.List.Infix

/-!
# Nesting

A markup is well formed if every opening bracket begins a tag, every closing tag ends the innermost
open element, no element stays open, and every ampersand begins a whole character reference. Part of
such a markup is a segment: it takes the elements that are open before it to those that are open
behind it. A well-formed markup is a segment from no open element to none, and it can be taken apart
into segments at any clean boundary, and put together from segments again.
-/
namespace ChatMarkup.Markup
open Text

/-- The open tags behind a token, where a closing tag may only end the innermost of them. -/
def nest (stack : List OpenTag) (token : List Char) : Option (List OpenTag) :=
  match tagRole token with
  | .closes name =>
    match stack with
    | t :: rest => if lowerName t.name == lowerName name then some rest else none
    | [] => none
  | .opens t => some (t :: stack)
  | .stands => some stack

/-- Every ampersand begins a whole character reference. -/
def WholeReferences (s : List Char) : Prop :=
  ∀ rest ∈ s.tails, rest.head? = some '&' → (referenceLength? rest).isSome = true

/-- Properly nested, with no partial tag and no partial reference. -/
structure WellFormed (s : List Char) : Prop where
  brackets : ∀ t ∈ tokens s, '<' ∈ t → isTag t = true
  nesting : (tokens s).foldlM nest [] = some []
  references : WholeReferences s

instance (s : List Char) : Decidable (WellFormed s) :=
  decidable_of_iff ((∀ t ∈ tokens s, '<' ∈ t → isTag t = true) ∧
      (tokens s).foldlM nest [] = some [] ∧
      ∀ rest ∈ s.tails, rest.head? = some '&' → (referenceLength? rest).isSome = true)
    ⟨fun h => ⟨h.1,h.2.1,h.2.2⟩,fun h => ⟨h.1,h.2,h.3⟩⟩

/-! ## Strict nesting and open tags -/

theorem foldlM_nest_tokens (stack : List OpenTag) (s : List Char) :
    (tokens s).foldlM nest stack = (tags s).foldlM nest stack := by
  unfold tags
  induction tokens s generalizing stack with
  | nil => rfl
  | cons u us ih =>
    cases h : isTag u with
    | false =>
      have hn : nest stack u = some stack := by simp [nest,tagRole,h]
      rw [List.foldlM_cons,hn,List.filter_cons_of_neg (by simp [h])]
      exact ih stack
    | true =>
      rw [List.foldlM_cons,List.filter_cons_of_pos h,List.foldlM_cons]
      cases nest stack u with
      | none => rfl
      | some stack' => exact ih stack'

/-- Where tags nest strictly, ending the innermost tag of a name is ending the innermost tag. -/
theorem track_of_nest {stack stack' : List OpenTag} {u : List Char}
    (h : nest stack u = some stack') : track stack u = stack' := by
  revert h
  unfold nest track
  cases tagRole u with
  | closes name =>
    cases stack with
    | nil => exact fun h => nomatch h
    | cons t rest =>
      intro h
      dsimp only at h
      split_ifs at h with hn
      simpa [hn] using h
  | opens tag => exact Option.some.inj
  | stands => exact Option.some.inj

theorem foldl_track_of_nest {stack stack' : List OpenTag} {us : List (List Char)}
    (h : us.foldlM nest stack = some stack') : us.foldl track stack = stack' := by
  induction us generalizing stack with
  | nil => exact Option.some.inj h
  | cons u us ih =>
    rw [List.foldlM_cons] at h
    obtain ⟨mid,hu,hus⟩ := Option.bind_eq_some_iff.mp h
    rw [List.foldl_cons,track_of_nest hu]
    exact ih hus

/-! ## References -/

def EachAmpersand (kind : List Char → Prop) (s : List Char) : Prop :=
  ∀ rest, '&' :: rest <:+ s → ∃ t r, '&' :: rest = t ++ r ∧ kind t

theorem wholeReferences_iff (s : List Char) :
    WholeReferences s ↔ EachAmpersand IsReference s := by
  constructor
  · intro h rest hr
    have hs := h _ ((List.mem_tails _ _).mpr hr) rfl
    obtain ⟨n,hn⟩ := Option.isSome_iff_exists.mp hs
    obtain ⟨t,r,he,ht,-⟩ := exists_reference hn
    exact ⟨t,r,he,ht⟩
  · intro h rest hr hc
    obtain ⟨rest,rfl⟩ := List.head?_eq_some_iff.mp hc
    obtain ⟨t,r,he,ht⟩ := h rest ((List.mem_tails _ _).mp hr)
    rw [he,referenceLength?_of_reference ht]
    rfl

namespace EachAmpersand
variable {kind kind' : List Char → Prop} {x y : List Char}

theorem of_notMem (h : '&' ∉ x) : EachAmpersand kind x := by
  intro rest hr
  exact absurd (hr.subset (by simp)) h

/-- A piece of this kind has its only ampersand in front. -/
theorem piece (hh : x.head? = some '&') (ht : '&' ∉ x.tail) (hx : kind x) :
    EachAmpersand kind x := by
  obtain ⟨more,rfl⟩ := List.head?_eq_some_iff.mp hh
  rintro rest ⟨before,hb⟩
  rcases List.cons_eq_append_iff.mp hb.symm with ⟨rfl,he⟩ | ⟨before',rfl,he⟩
  · exact ⟨'&' :: more,[],by rw [List.append_nil]; exact he,hx⟩
  · exact absurd (show '&' ∈ more by rw [he]; simp) ht

theorem mono (h : EachAmpersand kind x) (hk : ∀ t, kind t → kind' t) :
    EachAmpersand kind' x := by
  intro rest hr
  obtain ⟨t,r,he,ht⟩ := h rest hr
  exact ⟨t,r,he,hk t ht⟩

theorem append (hx : EachAmpersand kind x) (hy : EachAmpersand kind y) :
    EachAmpersand kind (x ++ y) := by
  rintro rest ⟨a,ha⟩
  rcases List.append_eq_append_iff.mp ha with ⟨u,rfl,hu⟩ | ⟨v,rfl,rfl⟩
  · cases u with
    | nil => exact hy rest ⟨[],by simpa using hu⟩
    | cons c u =>
      obtain ⟨rfl,rfl⟩ := List.cons.inj hu
      obtain ⟨t,r,he,ht⟩ := hx u (List.suffix_append a _)
      exact ⟨t,r ++ y,by rw [← List.append_assoc,← he]; rfl,ht⟩
  · exact hy rest (List.suffix_append v _)

theorem right (h : EachAmpersand kind (x ++ y)) : EachAmpersand kind y := by
  intro rest hr
  exact h rest (hr.trans (List.suffix_append x y))

/-- Nothing is lost before a boundary that no piece lies over. -/
theorem left (h : EachAmpersand kind (x ++ y)) (hc : ¬ Straddles kind x y) :
    EachAmpersand kind x := by
  rintro rest ⟨a,rfl⟩
  have hs : '&' :: (rest ++ y) <:+ a ++ '&' :: rest ++ y := ⟨a,by simp⟩
  obtain ⟨t,r,he,ht⟩ := h _ hs
  rw [← List.cons_append] at he
  rcases List.append_eq_append_iff.mp he with ⟨v,rfl,rfl⟩ | ⟨r',hr,-⟩
  · by_cases hv : v = []
    · exact ⟨'&' :: rest,[],by simp,by simpa [hv] using ht⟩
    · have hv' := List.prefix_append v r
      exact absurd ⟨'&' :: rest,v,by simp,hv,List.suffix_append a _,hv',ht⟩ hc
  · exact ⟨t,r',hr,ht⟩

end EachAmpersand

/-! ## Segments -/

/-- A text that takes the elements open before it, innermost first, to those open behind it. -/
structure Segment (stack : List OpenTag) (s : List Char) (stack' : List OpenTag) : Prop where
  brackets : '<' ∉ stripTags s
  nesting : (tags s).foldlM nest stack = some stack'
  references : EachAmpersand IsReference s

theorem opener_notMem_stripTags_iff (s : List Char) :
    '<' ∉ stripTags s ↔ ∀ t ∈ tokens s, '<' ∈ t → isTag t = true := by
  simp only [stripTags,List.mem_flatten,List.mem_filter,not_exists,not_and,and_imp]
  constructor
  · intro h t ht hc
    by_contra hn
    exact h t ht (by simpa using hn) hc
  · intro h t ht hn hc
    simp [h t ht hc] at hn

theorem wellFormed_iff (s : List Char) : WellFormed s ↔ Segment [] s [] := by
  constructor
  · intro h
    have hn := h.nesting
    have hr := (wholeReferences_iff s).mp h.references
    rw [foldlM_nest_tokens] at hn
    exact ⟨(opener_notMem_stripTags_iff s).mpr h.brackets,hn,hr⟩
  · intro h
    have hr := (wholeReferences_iff s).mpr h.references
    refine ⟨(opener_notMem_stripTags_iff s).mp h.brackets,?_,hr⟩
    rw [foldlM_nest_tokens]
    exact h.nesting

namespace Segment
variable {a b c : List OpenTag} {x y : List Char}

theorem append (h₁ : Segment a x b) (h₂ : Segment b y c) (hc : Clean x y) :
    Segment a (x ++ y) c := by
  constructor
  · rw [stripTags_append hc.tag,List.mem_append]
    exact not_or.mpr ⟨h₁.brackets,h₂.brackets⟩
  · rw [tags_append hc.tag,List.foldlM_append,h₁.nesting]
    exact h₂.nesting
  · exact h₁.references.append h₂.references

/-- A segment comes apart at any clean boundary. -/
theorem split (h : Segment a (x ++ y) c) (hc : Clean x y) :
    ∃ b, Segment a x b ∧ Segment b y c := by
  have hb := h.brackets
  have hn := h.nesting
  rw [stripTags_append hc.tag,List.mem_append,not_or] at hb
  rw [tags_append hc.tag,List.foldlM_append] at hn
  obtain ⟨b,hx,hy⟩ := Option.bind_eq_some_iff.mp hn
  exact ⟨b,⟨hb.1,hx,h.references.left hc.reference⟩,⟨hb.2,hy,h.references.right⟩⟩

/-- Behind a segment that begins with no open element, these are the open tags. -/
theorem openTags (h : Segment [] x b) : openTags x = b.reverse := by
  rw [openTags_eq,foldl_track_of_nest h.nesting]

end Segment

theorem segment_nil (stack : List OpenTag) : Segment stack [] stack := by
  refine ⟨?_,?_,EachAmpersand.of_notMem (by simp)⟩
  · simp [stripTags,tokens]
  · simp [tags,tokens]

/-- A text without brackets and references leaves open what is open. -/
theorem segment_text {s : List Char} (ho : '<' ∉ s) (ha : '&' ∉ s) (stack : List OpenTag) :
    Segment stack s stack := by
  have ht := scan_unopened ho []
  have hn := segment_nil stack
  rw [List.append_nil] at ht
  refine ⟨?_,?_,.of_notMem ha⟩
  · rw [ht.2,List.mem_append]
    exact not_or.mpr ⟨ho,hn.brackets⟩
  · rw [ht.1]
    exact hn.nesting

theorem segment_tag {stack stack' : List OpenTag} {t : List Char} (ht : IsTagToken t)
    (hn : nest stack t = some stack') (hr : EachAmpersand IsReference t) :
    Segment stack t stack' := by
  have hs := stripTags_tag ht []
  have htag := tags_tag ht []
  have h := segment_nil stack'
  rw [List.append_nil] at hs htag
  refine ⟨hs ▸ h.brackets,?_,hr⟩
  rw [htag,List.foldlM_cons,hn]
  exact h.nesting

/-! ## Opening and closing tags -/

/-- Opening tags with whole references. -/
theorem segment_openingTags {ts : List OpenTag} (h : ∀ t ∈ ts, t.Proper)
    (hr : ∀ t ∈ ts, EachAmpersand IsReference t.text) (stack : List OpenTag) :
    Segment stack (openingTags ts) (ts.reverse ++ stack) := by
  induction ts generalizing stack with
  | nil => exact segment_nil stack
  | cons t ts ih =>
    have ht := h t (by simp)
    have hn : nest stack t.text = some (t :: stack) := by simp [nest,ht.role]
    have hs := ih (fun u hu => h u (List.mem_cons_of_mem t hu))
      (fun u hu => hr u (List.mem_cons_of_mem t hu)) (t :: stack)
    have ha := (segment_tag ht.token hn (hr t (by simp))).append hs (Clean.after_tag ht.token [] _)
    simpa [openingTags] using ha

/-- The tags open behind a segment, opened again, take none to the same open elements. -/
theorem Segment.reopened {x : List Char} {b : List OpenTag} (h : Segment [] x b) :
    Segment [] (openingTags (Markup.openTags x)) b := by
  have hr : ∀ t ∈ Markup.openTags x, EachAmpersand IsReference t.text := by
    intro t ht
    obtain ⟨u,v,hx⟩ := (mem_tags (mem_openTags ht).1).2
    have hw := h.references
    rw [← hx] at hw
    exact (hw.left (Clean.after_tag (mem_openTags ht).2.token u v).reference).right
  have hs := segment_openingTags (openTags_proper x) hr []
  rwa [h.openTags,List.reverse_reverse,List.append_nil,← h.openTags] at hs

theorem segment_closing {stack : List OpenTag} (h : ∀ t ∈ stack, t.Proper) :
    Segment stack (stack.flatMap closingTag) [] := by
  induction stack with
  | nil => exact segment_nil []
  | cons t stack ih =>
    have ht := (h t (by simp)).name
    have hn : nest (t :: stack) (closingTag t) = some stack := by
      simp [nest,tagRole_closingTag ht]
    have hr := ampersand_notMem_closingTag ht
    have hs := segment_tag (isTagToken_closingTag ht) hn (.of_notMem hr)
    exact hs.append (ih fun u hu => h u (List.mem_cons_of_mem t hu))
      (Clean.after_tag (isTagToken_closingTag ht) [] _)

/-- Balancing a segment that begins with no open element makes it well formed. -/
theorem Segment.balance {x : List Char} {b : List OpenTag} (h : Segment [] x b) :
    WellFormed (balance x) := by
  have hp : ∀ t ∈ b, t.Proper := by
    intro t ht
    apply openTags_proper x
    rw [h.openTags]
    exact List.mem_reverse.mpr ht
  have hb : (Markup.openTags x).reverse = b := by rw [h.openTags,List.reverse_reverse]
  rw [wellFormed_iff]
  refine h.append ?_ (clean_closingTags x _)
  rw [closingTags_eq,hb]
  exact segment_closing hp

end ChatMarkup.Markup
