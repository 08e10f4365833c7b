import ChatMarkup.Proofs.Markup.OpenTags
import ChatMarkup.Proofs.Markup.Cut

/-!
# What a cut has to carry over

The open tags are all that is left to know of a text once it is read. If they are closed, nothing is
open. If they are opened again, the same tags are open, and whatever is read next leaves the same
tags open as it would behind the text itself.

The last holds as long as no tag lies over the cut. One does exactly if the text before the cut ends
inside of brackets and the first bracket behind the cut closes them.
-/
namespace ChatMarkup.Markup
open Text

/-! ## Tags over a cut -/

/-- The last opening bracket of a text, if it has one, is closed in the text. -/
def LastOpenerCloses (s : List Char) : Prop :=
  ∀ a b, s = a ++ '<' :: b → '<' ∉ b → '>' ∈ b

/-- A closing bracket stands before any opening one, so it closes a bracket from before the text. -/
def ClosesBefore (s : List Char) : Prop := '>' ∈ s.takeWhile (· != '<')

instance (s : List Char) : Decidable (ClosesBefore s) :=
  inferInstanceAs (Decidable ('>' ∈ s.takeWhile (· != '<')))

theorem lastOpenerCloses_iff (s : List Char) :
    LastOpenerCloses s ↔ danglingIndex? '<' '>' s = none := by
  constructor
  · intro h
    by_contra hn
    obtain ⟨i,hi⟩ := Option.ne_none_iff_exists'.mp hn
    obtain ⟨a,b,rfl,ho,hc,-⟩ := danglingIndex?_eq_some (by decide) hi
    exact hc (h a b rfl ho)
  · rintro h a b rfl -
    exact closer_mem_of_danglingIndex? (by decide) h

instance (s : List Char) : Decidable (LastOpenerCloses s) :=
  decidable_of_iff _ (lastOpenerCloses_iff s).symm

/-- Neither the end of a markup nor an opening bracket closes what stands before. -/
theorem Stops.not_closesBefore {s : List Char} (h : Stops s) : ¬ ClosesBefore s := by
  cases s with
  | nil => simp [ClosesBefore]
  | cons c s => simp [ClosesBefore,h c rfl]

theorem straddles_tag_iff (x y : List Char) :
    Straddles IsTagToken x y ↔ ¬ LastOpenerCloses x ∧ ClosesBefore y := by
  constructor
  · intro h
    refine ⟨fun hx => not_straddles_tag ((lastOpenerCloses_iff x).mp hx) y h,?_⟩
    obtain ⟨u,v,hu,hv,hux,⟨z,rfl⟩,ht⟩ := h
    have hv' : Straddles IsTagToken x v := ⟨u,v,hu,hv,hux,List.prefix_refl v,ht⟩
    have hg : '>' ∈ v := hv'.last_mem fun _ k => k.getLast?
    have ho : ∀ c ∈ v, (c != '<') = true := by
      intro c hc
      have hn := ht.opener_notMem_tail
      rw [List.tail_append_of_ne_nil hu] at hn
      have hne : c ≠ '<' := fun e => hn (e ▸ List.mem_append_right _ hc)
      simpa using hne
    rw [ClosesBefore,List.takeWhile_append_of_pos ho]
    exact List.mem_append_left _ hg
  · rintro ⟨hx,hy⟩
    -- the dangling opening bracket and the first closing bracket behind the cut make up a tag
    rw [lastOpenerCloses_iff] at hx
    obtain ⟨i,hi⟩ := Option.ne_none_iff_exists'.mp hx
    obtain ⟨a,b,rfl,ho,hc,-⟩ := danglingIndex?_eq_some (by decide) hi
    obtain ⟨v,w,hv,hn⟩ := List.eq_append_cons_of_mem hy
    have hp : v ++ ['>'] <+: y := by
      refine List.IsPrefix.trans ⟨w,?_⟩ (List.takeWhile_prefix (· != '<'))
      simp [hv]
    refine ⟨'<' :: b,v ++ ['>'],by simp,by simp,List.suffix_append a _,hp,b ++ v,?_,by simp⟩
    intro c hm
    rcases List.mem_append.mp hm with hm | hm
    · have h₁ : c ≠ '<' := fun e => ho (e ▸ hm)
      have h₂ : c ≠ '>' := fun e => hc (e ▸ hm)
      simp [inTag,h₁,h₂]
    · have hw : c ∈ y.takeWhile (· != '<') := hv ▸ List.mem_append_left _ hm
      have h₁ := List.mem_takeWhile_imp hw
      have h₂ : c ≠ '>' := fun e => hn (e ▸ hm)
      simpa [inTag,h₂] using h₁

/-! ## Closing and opening again -/

/-- Closing the open tags leaves none open; opening them again leaves them open, and each text
behind them leaves the tags open that it does in its old place, unless a tag lay over the cut. -/
theorem openTags_carried (a : List Char) :
    openTags (a ++ closingTags (openTags a)) = [] ∧
      (∀ b, LastOpenerCloses a ∨ ¬ ClosesBefore b →
        openTags (a ++ b) = openTags (openingTags (openTags a) ++ b)) ∧
      openTags (openingTags (openTags a)) = openTags a := by
  refine ⟨openTags_balance a,fun b h => ?_,openTags_openingTags a⟩
  have hs : ¬ Straddles IsTagToken a b := by
    rw [straddles_tag_iff,not_and_or,not_not]
    exact h
  exact (openTags_reopened hs).symm

/-- Bold text with an attribute, whose end stands behind the cut; and a tag that is never closed,
behind which another begins. -/
theorem openTags_carried_bold :
    LastOpenerCloses "<b id='x'>one <i>two</I> ".toList ∧
      openTags "<b id='x'>one <i>two</I> <u>three</B>".toList =
        openTags "<b id='x'><u>three</B>".toList ∧
      ¬ ClosesBefore "<u>two".toList ∧
      openTags "<b>one <i<u>two".toList = openTags "<b><u>two".toList := by
  have h₁ : LastOpenerCloses "<b id='x'>one <i>two</I> ".toList := by decide
  have h₂ : ¬ ClosesBefore "<u>two".toList := Stops.not_closesBefore (by simp [Stops])
  have e₁ : openingTags (openTags "<b id='x'>one <i>two</I> ".toList) = "<b id='x'>".toList := by
    decide +kernel
  have e₂ : openingTags (openTags "<b>one <i".toList) = "<b>".toList := by decide +kernel
  have t₁ := (openTags_carried "<b id='x'>one <i>two</I> ".toList).2.1 "<u>three</B>".toList
    (.inl h₁)
  have t₂ := (openTags_carried "<b>one <i".toList).2.1 "<u>two".toList (.inr h₂)
  rw [e₁] at t₁
  rw [e₂] at t₂
  exact ⟨h₁,t₁,h₂,t₂⟩

/-- A tag that lies over the cut is lost: what is left of it opens nothing. -/
example : openTags ("<b".toList ++ ">".toList) ≠
    openTags (openingTags (openTags "<b".toList) ++ ">".toList) := by
  decide +kernel

end ChatMarkup.Markup
