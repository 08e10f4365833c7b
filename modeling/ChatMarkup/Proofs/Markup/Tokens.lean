import ChatMarkup.Proofs.Markup.Scan
import Mathlib.Data.List.Chain

/-!
# The one division of a markup into tokens

What tokens are can be said without reading a markup from its left end: which pieces there may be,
and which of them may stand side by side. A markup can be divided into such pieces in one way only,
and this is the list of its tokens. The pieces before a place between two of them are such a
division again, and so are those behind it. A markup that is cut between two tokens therefore keeps
its tokens on both sides.
-/
namespace ChatMarkup.Markup
variable {s t next : List Char} {ts us : List (List Char)}

/-- One piece may come right behind another: text is not divided further, and a bracket that is not
closed reaches up to the next opening bracket. -/
structure MayFollow (t next : List Char) : Prop where
  text : ¬ ('<' ∉ t ∧ '<' ∉ next)
  opened : IsOpenToken t → next.head? = some '<'

structure IsDivision (s : List Char) (ts : List (List Char)) : Prop where
  covers : ts.flatten = s
  filled : ∀ t ∈ ts, t ≠ []
  kinds : ∀ t ∈ ts, IsTagToken t ∨ IsOpenToken t ∨ '<' ∉ t
  order : ts.IsChain MayFollow

/-! ## Tokens are a division -/

theorem IsTagToken.not_isOpenToken (h : IsTagToken t) : ¬ IsOpenToken t := by
  rintro ⟨body,hb,rfl⟩
  rcases List.mem_cons.mp (List.mem_of_getLast? h.getLast?) with hc | hc
  · exact absurd hc (by decide)
  · exact absurd (hb '>' hc) (by decide)

theorem head?_of_mem_tokens (h : t ∈ (tokens s).head?) : t.head? = s.head? := by
  cases s with
  | nil => simp [tokens] at h
  | cons c rest =>
    rw [tokens_cons,List.head?_cons,Option.mem_some] at h
    rw [← h,head?_firstToken,List.head?_cons]

theorem mayFollow_firstToken (c : Char) (rest : List Char)
    (h : next ∈ (tokens (firstToken c rest).2).head?) : MayFollow (firstToken c rest).1 next := by
  rcases firstToken_kind c rest with ht | ⟨-,hs⟩
  · exact ⟨fun hn => hn.1 (List.mem_of_head? ht.head?),fun ho => absurd ho ht.not_isOpenToken⟩
  · have hn : next ≠ [] := ne_nil_of_mem_tokens (List.mem_of_head? h)
    obtain ⟨d,after,rfl⟩ := List.exists_cons_of_ne_nil hn
    obtain rfl : d = '<' := hs d (head?_of_mem_tokens h).symm
    exact ⟨fun hn => hn.2 (by simp),fun _ => rfl⟩

theorem isDivision_tokens (s : List Char) : IsDivision s (tokens s) := by
  refine ⟨flatten_tokens s,fun t => ne_nil_of_mem_tokens,?_,?_⟩
  · fun_induction tokens s with
    | case1 => simp
    | case2 c rest ih =>
      exact List.forall_mem_cons.mpr ⟨(firstToken_kind c rest).imp_right And.left,ih⟩
  · fun_induction tokens s with
    | case1 => exact List.isChain_nil
    | case2 c rest ih =>
      exact List.isChain_cons.mpr ⟨fun next => mayFollow_firstToken c rest,ih⟩

/-! ## Divisions are tokens -/

namespace IsDivision

/-- Both sides of a place between two pieces are divided by their pieces. -/
theorem split (h : IsDivision s (ts ++ us)) :
    IsDivision ts.flatten ts ∧ IsDivision us.flatten us := by
  have hf := List.forall_mem_append.mp h.filled
  have hk := List.forall_mem_append.mp h.kinds
  exact ⟨⟨rfl,hf.1,hk.1,h.order.left_of_append⟩,⟨rfl,hf.2,hk.2,h.order.right_of_append⟩⟩

/-- Behind a piece that is no tag stands the end or an opening bracket. -/
theorem stops (h : IsDivision s (t :: ts)) (ht : ¬ IsTagToken t) : Stops ts.flatten := by
  cases ts with
  | nil => simp [Stops]
  | cons next ts =>
    have ho := (List.isChain_cons_cons.mp h.order).1
    have hn : next.head? = some '<' := by
      rcases h.kinds t (by simp) with hk | hk | hk
      · exact absurd hk ht
      · exact ho.opened hk
      · rcases h.kinds next (by simp) with hk' | ⟨body,-,rfl⟩ | hk'
        · exact hk'.head?
        · rfl
        · exact absurd ⟨hk,hk'⟩ ho.text
    obtain ⟨body,rfl⟩ := List.head?_eq_some_iff.mp hn
    simp [Stops]

/-- The first piece is the first token. -/
theorem exists_firstToken (h : IsDivision s (t :: ts)) :
    ∃ c rest, s = c :: rest ∧ firstToken c rest = (t,ts.flatten) := by
  obtain ⟨c,w,rfl⟩ := List.exists_cons_of_ne_nil (h.filled t (by simp))
  refine ⟨c,w ++ ts.flatten,by rw [← h.covers]; rfl,?_⟩
  by_cases ht : IsTagToken (c :: w)
  · obtain ⟨body,hb,he⟩ := ht
    obtain ⟨rfl,rfl⟩ := List.cons.inj he
    have hf := firstToken_tag hb ts.flatten
    rwa [← List.singleton_append,← List.append_assoc] at hf
  · have hs := h.stops ht
    rcases (h.kinds _ (by simp)).resolve_left ht with ⟨body,hb,he⟩ | hn
    · obtain ⟨rfl,rfl⟩ := List.cons.inj he
      exact firstToken_loose hb hs
    · have hc : c ≠ '<' := fun e => hn (by simp [e])
      exact firstToken_text hc (fun d hd e => hn (List.mem_cons_of_mem c (e ▸ hd))) hs

theorem eq_tokens (h : IsDivision s ts) : ts = tokens s := by
  induction ts generalizing s with
  | nil => rw [← h.covers,List.flatten_nil,tokens]
  | cons t ts ih =>
    obtain ⟨c,rest,rfl,hf⟩ := h.exists_firstToken
    have hr : IsDivision (c :: rest) ([t] ++ ts) := h
    rw [tokens_cons,hf,← ih hr.split.2]

end IsDivision

/-- The tokens of a markup are its only division into tags, brackets that are not closed, and texts
such that no text follows a text and only what begins with an opening bracket follows a bracket that
is not closed. Any first tokens of a markup are the tokens of the text that they make up, and so are
the tokens behind them. -/
theorem tokens_only_division (s : List Char) :
    (∀ ts, IsDivision s ts ↔ ts = tokens s) ∧
      ∀ k, tokens ((tokens s).take k).flatten = (tokens s).take k ∧
        tokens ((tokens s).drop k).flatten = (tokens s).drop k := by
  refine ⟨fun ts => ⟨fun h => h.eq_tokens,fun h => h ▸ isDivision_tokens s⟩,fun k => ?_⟩
  have h : IsDivision s ((tokens s).take k ++ (tokens s).drop k) := by
    rw [List.take_append_drop]
    exact isDivision_tokens s
  obtain ⟨hbefore,hbehind⟩ := h.split
  exact ⟨hbefore.eq_tokens.symm,hbehind.eq_tokens.symm⟩

end ChatMarkup.Markup
