import ChatMarkup.Proofs.Markup.Budget
import ChatMarkup.Proofs.Markup.Dangling

/-!
# Where forced cuts fall

A forced cut takes something beyond the floor and stays within the markup. It is placed behind a
closing bracket, before an opening one, at the end, or behind text whose brackets are all closed.
Each of these places is outside of every token that begins with an opening bracket, whether the
token is a tag or never closes. It is outside of every character reference as well. Neither depends
on where the floor lies: it need not be a boundary between tokens.
-/
namespace ChatMarkup.Markup
open Text
variable {s t x y : List Char} {p : ℕ}

def FallsInside (before t : List Char) (p : ℕ) : Prop :=
  before.length < p ∧ p < before.length + t.length

/-! ## Places outside of bracketed tokens -/

/-- A position such that no bracket is open before it, or a run of text ends there. -/
def BracketFree (s : List Char) (p : ℕ) : Prop :=
  ∃ x y, s = x ++ y ∧ p = x.length ∧ (¬ EndsOpen x ∨ Stops y)

theorem BracketFree.le_length (h : BracketFree s p) : p ≤ s.length := by
  obtain ⟨x,y,rfl,rfl,-⟩ := h
  simp

/-- A piece whose brackets are at most its first and its last character is cut by no such
position. -/
theorem BracketFree.not_fallsInside {before after : List Char} (h : BracketFree s p)
    (hs : s = before ++ (t ++ after)) (hh : t.head? = some '<') (ho : '<' ∉ t.tail)
    (hc : '>' ∉ t.dropLast) : ¬ FallsInside before t p := by
  rintro ⟨hlt,hgt⟩
  obtain ⟨x,y,rfl,rfl,hxy⟩ := h
  obtain ⟨u,rfl⟩ := List.prefix_of_prefix_length_le ⟨_,hs.symm⟩ (List.prefix_append x y) hlt.le
  rw [List.append_assoc,List.append_cancel_left_eq] at hs
  rw [List.length_append] at hlt hgt
  obtain ⟨v,rfl⟩ := List.prefix_of_prefix_length_le (List.prefix_append u y)
    (hs ▸ List.prefix_append t after) (by omega)
  rw [List.append_assoc,List.append_cancel_left_eq] at hs
  have hu : u ≠ [] := fun e => by simp [e] at hlt
  have hv : v ≠ [] := fun e => by simp [e] at hgt
  obtain ⟨c,b,rfl⟩ := List.exists_cons_of_ne_nil hu
  obtain ⟨d,v,rfl⟩ := List.exists_cons_of_ne_nil hv
  obtain rfl : c = '<' := by simpa using hh
  rw [List.dropLast_append_of_ne_nil hv] at hc
  rcases hxy with hx | hy
  · refine hx ⟨before,b,rfl,fun e he => inTag_iff.mpr ⟨?_,?_⟩⟩
    · exact fun h => ho (by subst h; simp [he])
    · exact fun h => hc (by subst h; simp [he])
  · exact ho (by simp [hy d (by simp [hs])])

/-! ## The cut -/

theorem NearbyPlace.bracketFree {floor : ℕ} (h : NearbyPlace x y floor p) :
    BracketFree (x ++ y) p := by
  -- the text of a reference holds no brackets
  have hi : ∀ {t}, IsReference t → ∀ c ∈ t, inTag c = true := fun hr c hc =>
    inTag_iff.mpr ⟨fun e => hr.opener_notMem (e ▸ hc),fun e => hr.closer_notMem (e ▸ hc)⟩
  cases h with
  | atLimit ht hr => exact ⟨x,y,rfl,rfl,.inl (by simp [endsOpen_iff,ht])⟩
  | @beforeBracket a b hx hf =>
    subst hx
    exact ⟨a,'<' :: b ++ y,by simp,rfl,.inr (by simp [Stops])⟩
  | @afterBracket a b i hx hb hf hfirst =>
    obtain ⟨u,v,he,rfl⟩ := exists_first hfirst
    refine ⟨a ++ u ++ ['>'],v,?_,by simp; omega,.inl (not_endsOpen_closer _)⟩
    rw [hx,List.append_assoc,he]
    simp
  | atEnd => exact ⟨x ++ y,[],by simp,rfl,.inr (by simp [Stops])⟩
  | @beforeReference a b t r ht hx hy hr hp hf =>
    subst hx
    refine ⟨a,'&' :: b ++ y,by simp,rfl,.inl ?_⟩
    rw [← endsOpen_append fun c hc => hi hr c (hp.subset hc),endsOpen_iff,ht]
    decide
  | @afterReference a b t r ht hx hy hr hp hf =>
    subst hx
    obtain ⟨t,rfl⟩ := hp
    refine ⟨a ++ '&' :: b ++ t,r,?_,by simp,.inl ?_⟩
    · rw [List.append_assoc a,hy]
      simp
    · rw [endsOpen_append fun c hc => hi hr c (List.mem_append_right _ hc),endsOpen_iff,ht]
      decide

theorem bracketFree_nearbyCut (s : List Char) (limit floor : ℕ) :
    BracketFree s (nearbyCut s limit floor) := by
  have h := (nearbyPlace_nearbyCut s limit floor).bracketFree
  rwa [List.take_append_drop] at h

theorem bracketFree_forcedCut (s : List Char) (limit floor : ℕ) :
    BracketFree s (forcedCut s limit floor) := by
  unfold forcedCut
  dsimp only
  split
  · split
    · next c rest hd =>
      have hlen : floor ≤ s.length := by
        by_contra hlt
        rw [List.drop_eq_nil_of_le (by omega)] at hd
        cases hd
      refine ⟨s.take floor ++ (firstToken c rest).1,(firstToken c rest).2,?_,by simp [hlen],?_⟩
      · rw [List.append_assoc,firstToken_append,← hd,List.take_append_drop]
      · refine (firstToken_ends c rest).imp_left ?_
        rintro ⟨body,-,he⟩
        rw [he,← List.cons_append,← List.append_assoc]
        exact not_endsOpen_closer _
    · exact bracketFree_nearbyCut s limit floor
  · exact bracketFree_nearbyCut s limit floor

/-- A forced cut lies behind the floor and within the markup. It lies strictly inside of no tag, of
no token whose bracket is not closed, and of no character reference. -/
theorem forcedCut_outside_pieces {floor : ℕ} (hf : floor < s.length) (limit : ℕ) :
    floor < forcedCut s limit floor ∧ forcedCut s limit floor ≤ s.length ∧
      (∀ before t after, tokens s = before ++ t :: after → IsTagToken t ∨ IsOpenToken t →
        ¬ FallsInside before.flatten t (forcedCut s limit floor)) ∧
      ∀ before t after, s = before ++ (t ++ after) → IsReference t →
        ¬ FallsInside before t (forcedCut s limit floor) := by
  have hb := bracketFree_forcedCut s limit floor
  have hle := hb.le_length
  refine ⟨lt_forcedCut limit hf,hle,?_,?_⟩
  · intro before t after hs ht
    have he : s = before.flatten ++ (t ++ after.flatten) := by
      rw [← flatten_tokens s,hs]
      simp
    rcases ht with ht | ⟨body,hi,rfl⟩
    · exact hb.not_fallsInside he ht.head? ht.opener_notMem_tail ht.closer_notMem_dropLast
    · refine hb.not_fallsInside he rfl (fun h => ?_) fun h => ?_
      · exact (inTag_iff.mp (hi _ h)).1 rfl
      · rcases List.mem_cons.mp (List.dropLast_subset _ h) with h | h
        · exact absurd h (by decide)
        · exact (inTag_iff.mp (hi _ h)).2 rfl
  · rintro before t after hs ht ⟨hlt,hgt⟩
    have hc := (clean_forcedCut s limit floor).reference
    have hl : (s.take (forcedCut s limit floor)).length = forcedCut s limit floor := by simp [hle]
    have he := (List.take_append_drop (forcedCut s limit floor) s).trans hs
    rcases ends_or_begins hc ht he (by omega) with h | ⟨rfl,-⟩ <;> omega

/-- A reference begins at the floor and goes on over the limit; the last bracket never closes. -/
theorem forcedCut_outside_pieces_reference :
    3 < "<b>&amp;x <i".toList.length ∧
      tokens "<b>&amp;x <i".toList = ["<b>".toList,"&amp;x ".toList] ++ ["<i".toList] ∧
      IsOpenToken "<i".toList ∧
      "<b>&amp;x <i".toList = "<b>".toList ++ ("&amp;".toList ++ "x <i".toList) ∧
      IsReference "&amp;".toList ∧ 3 < forcedCut "<b>&amp;x <i".toList 5 3 ∧
      forcedCut "<b>&amp;x <i".toList 5 3 ≤ "<b>&amp;x <i".toList.length ∧
      ¬ FallsInside "<b>&amp;x ".toList "<i".toList (forcedCut "<b>&amp;x <i".toList 5 3) ∧
      ¬ FallsInside "<b>".toList "&amp;".toList (forcedCut "<b>&amp;x <i".toList 5 3) := by
  have hf : 3 < "<b>&amp;x <i".toList.length := by decide
  have ht : tokens "<b>&amp;x <i".toList =
      ["<b>".toList,"&amp;x ".toList] ++ ["<i".toList] := by decide +kernel
  have ho : IsOpenToken "<i".toList := ⟨['i'],List.all_eq_true.mp (by decide),rfl⟩
  have hs : "<b>&amp;x <i".toList = "<b>".toList ++ ("&amp;".toList ++ "x <i".toList) := by decide
  have hr : IsReference "&amp;".toList :=
    ⟨[],"amp".toList,.inl rfl,by decide,List.all_eq_true.mp (by decide +kernel),by decide⟩
  obtain ⟨hgt,hle,htok,href⟩ := forcedCut_outside_pieces hf 5
  exact ⟨hf,ht,ho,hs,hr,hgt,hle,htok _ _ _ ht (.inr ho),href _ _ _ hs hr⟩

end ChatMarkup.Markup
