import ChatMarkup.Proofs.Markup.Scan

/-!
# Forced cuts are clean

A forced cut looks only at the text before the budget: at the last opening bracket there that is not
closed, or else at the last ampersand there that no semicolon follows. This is enough. A piece that
lies over the budget begins with the last such character before it, so moving the cut to the start
or the end of that piece leaves neither a tag nor a reference over the cut. The fallback to a whole
token is clean as well, wherever the token begins.
-/
namespace ChatMarkup.Markup
open Text

/-! ## Last occurrences -/

theorem exists_last {c : Char} {s : List Char} (h : c ∈ s) :
    ∃ a b, s = a ++ c :: b ∧ c ∉ b := by
  obtain ⟨b,a,he,hb⟩ := List.eq_append_cons_of_mem (List.mem_reverse.mpr h)
  refine ⟨a.reverse,b.reverse,?_,by simpa using hb⟩
  have := congrArg List.reverse he
  simpa using this

theorem findIdx?_reverse_of_notMem {c : Char} {s : List Char} (h : c ∉ s) :
    s.reverse.findIdx? (· == c) = none := by
  rw [List.findIdx?_eq_none_iff]
  intro d hd
  have hne : d ≠ c := fun e => h (e ▸ List.mem_reverse.mp hd)
  simpa using hne

theorem lastIndex?_of_notMem {c : Char} {s : List Char} (h : c ∉ s) :
    lastIndex? c s = none := by
  rw [lastIndex?,findIdx?_reverse_of_notMem h]
  rfl

theorem lastIndex?_of_last {c : Char} {a b : List Char} (h : c ∉ b) :
    lastIndex? c (a ++ c :: b) = some a.length := by
  unfold lastIndex?
  rw [List.reverse_append,List.reverse_cons,List.append_assoc,List.findIdx?_append,
    findIdx?_reverse_of_notMem h]
  simp [List.findIdx?_cons]

/-- What follows the last opener decides whether it dangles. -/
theorem danglingIndex?_of_last {o c : Char} (hne : o ≠ c) {a b : List Char} (h : o ∉ b) :
    danglingIndex? o c (a ++ o :: b) = if c ∈ b then none else some a.length := by
  unfold danglingIndex?
  rw [lastIndex?_of_last h]
  split_ifs with hc
  · -- the last closer lies in `b`, behind the opener
    obtain ⟨b₁,b₂,rfl,hb⟩ := exists_last hc
    have hl : lastIndex? c (a ++ o :: (b₁ ++ c :: b₂)) = some (a ++ o :: b₁).length := by
      rw [← lastIndex?_of_last (a := a ++ o :: b₁) hb]
      simp
    rw [hl]
    simp
  · by_cases ha : c ∈ a
    · obtain ⟨a₁,a₂,rfl,ha₂⟩ := exists_last ha
      have hl : lastIndex? c (a₁ ++ c :: a₂ ++ o :: b) = some a₁.length := by
        rw [List.append_assoc,List.cons_append]
        apply lastIndex?_of_last
        simp [ha₂,hne.symm,hc]
      rw [hl]
      simp
    · have hl : lastIndex? c (a ++ o :: b) = none :=
        lastIndex?_of_notMem (by simp [ha,hne.symm,hc])
      rw [hl]

theorem danglingIndex?_eq_some {o c : Char} (hne : o ≠ c) {s : List Char} {i : Nat}
    (h : danglingIndex? o c s = some i) :
    ∃ a b, s = a ++ o :: b ∧ o ∉ b ∧ c ∉ b ∧ i = a.length := by
  by_cases ho : o ∈ s
  · obtain ⟨a,b,rfl,hb⟩ := exists_last ho
    rw [danglingIndex?_of_last hne hb] at h
    split_ifs at h with hc
    exact ⟨a,b,rfl,hb,hc,by simpa using h.symm⟩
  · simp [danglingIndex?,lastIndex?_of_notMem ho] at h

theorem closer_mem_of_danglingIndex? {o c : Char} (hne : o ≠ c) {a b : List Char}
    (h : danglingIndex? o c (a ++ o :: b) = none) : c ∈ b := by
  by_cases ho : o ∈ b
  · -- a later opener takes over
    obtain ⟨b₁,b₂,rfl,hb⟩ := exists_last ho
    have e : a ++ o :: (b₁ ++ o :: b₂) = (a ++ o :: b₁) ++ o :: b₂ := by simp
    rw [e,danglingIndex?_of_last hne hb] at h
    have hc : c ∈ b₂ := by by_contra hc; simp [hc] at h
    simp [hc]
  · rw [danglingIndex?_of_last hne ho] at h
    by_contra hc
    simp [hc] at h

/-! ## References at a place -/

theorem referenceLength?_of_reference {t : List Char} (h : IsReference t) (r : List Char) :
    referenceLength? (t ++ r) = some t.length := by
  obtain ⟨sign,name,hs,hn,hw,rfl⟩ := h
  have hd : (name ++ ';' :: r).dropWhile isWord = ';' :: r := by
    rw [List.dropWhile_append_of_pos hw]
    rfl
  have ht : (name ++ ';' :: r).takeWhile isWord = name := by
    have hsemi : isWord ';' = false := by decide
    rw [List.takeWhile_append_of_pos hw]
    simp [hsemi]
  obtain ⟨c,rest,rfl⟩ := List.exists_cons_of_ne_nil hn
  rcases hs with rfl | rfl
  · have hc : c ≠ '#' := by
      rintro rfl
      exact absurd (hw '#' (by simp)) (by decide)
    have e : '&' :: ([] ++ (c :: rest ++ [';'])) ++ r = '&' :: (c :: rest ++ ';' :: r) := by simp
    rw [e,referenceLength?]
    · simp only [hd,ht]
      simp
      omega
    · intro more hm
      exact hc (List.cons.inj hm).1
  · have e : '&' :: (['#'] ++ (c :: rest ++ [';'])) ++ r =
        '&' :: '#' :: (c :: rest ++ ';' :: r) := by simp
    rw [e,referenceLength?]
    simp only [hd,ht]
    simp
    omega

theorem exists_reference {s : List Char} {n : Nat} (h : referenceLength? s = some n) :
    ∃ t r, s = t ++ r ∧ IsReference t ∧ t.length = n := by
  unfold referenceLength? at h
  split at h
  · next rest =>
    split at h
    next sign body hm =>
      dsimp only at h
      split at h
      · next d name r hname hd =>
        have hw : ∀ c ∈ d :: name, isWord c = true := fun c hc =>
          List.mem_takeWhile_imp (hname ▸ hc)
        have hb : body = d :: name ++ ';' :: r := by
          rw [← hname,← hd,List.takeWhile_append_dropWhile]
        split at hm
        · next more =>
          obtain ⟨rfl,rfl⟩ := Prod.mk.inj hm
          refine ⟨'&' :: (['#'] ++ (d :: name ++ [';'])),r,?_,?_,?_⟩
          · simp [hb]
          · exact ⟨['#'],d :: name,.inr rfl,by simp,hw,rfl⟩
          · simp [hname] at h ⊢
            omega
        · obtain ⟨rfl,rfl⟩ := Prod.mk.inj hm
          refine ⟨'&' :: ([] ++ (d :: name ++ [';'])),r,?_,?_,?_⟩
          · simp [hb]
          · exact ⟨[],d :: name,.inl rfl,by simp,hw,rfl⟩
          · simp [hname] at h ⊢
            omega
      · cases h
  · cases h

/-! ## What may lie over the budget -/

/-- Where every opening bracket is closed, no tag goes on. -/
theorem not_straddles_tag {x : List Char} (h : danglingIndex? '<' '>' x = none)
    (y : List Char) : ¬ Straddles IsTagToken x y := by
  rintro ⟨u,v,hu,hv,⟨a,rfl⟩,-,ht⟩
  have hd := ht.closer_notMem_dropLast
  obtain ⟨body,-,he⟩ := ht
  obtain ⟨c,u,rfl⟩ := List.exists_cons_of_ne_nil hu
  obtain rfl : c = '<' := (List.cons.inj he).1
  have hc := closer_mem_of_danglingIndex? (by decide) h
  apply hd
  rw [List.dropLast_append_of_ne_nil hv]
  exact List.mem_append_left _ (List.mem_cons_of_mem '<' hc)

/-- A reference over a boundary begins with the last ampersand before it, and no semicolon lies
between that and the boundary. -/
theorem exists_dangling_reference {x y : List Char} (h : Straddles IsReference x y) :
    ∃ i n, danglingIndex? '&' ';' x = some i ∧
      referenceLength? ((x ++ y).drop i) = some n ∧ x.length < i + n := by
  obtain ⟨u,v,hu,hv,⟨a,rfl⟩,⟨r,rfl⟩,ht⟩ := h
  have hamp := ht.ampersand_notMem_tail
  have hsemi := ht.semicolon_notMem_dropLast
  have hlen := referenceLength?_of_reference ht r
  obtain ⟨sign,name,-,-,-,he⟩ := ht
  obtain ⟨c,u,rfl⟩ := List.exists_cons_of_ne_nil hu
  obtain rfl : c = '&' := (List.cons.inj he).1
  rw [List.dropLast_append_of_ne_nil hv] at hsemi
  have ha : '&' ∉ u := fun hm => hamp (List.mem_append_left v hm)
  have hs : ';' ∉ u := fun hm => hsemi (List.mem_append_left _ (List.mem_cons_of_mem '&' hm))
  refine ⟨a.length,('&' :: u ++ v).length,?_,?_,?_⟩
  · rw [danglingIndex?_of_last (by decide) ha,if_neg hs]
  · rw [List.append_assoc,List.drop_left,← List.append_assoc]
    exact hlen
  · have := List.length_pos_iff.mpr hv
    simp
    omega

/-- The boundary before a reference that begins outside of tags is clean. -/
theorem clean_before_reference {a b t z : List Char}
    (h : danglingIndex? '<' '>' (a ++ '&' :: b) = none) (ht : IsReference t)
    (hb : '&' :: b <+: t) : Clean a ('&' :: b ++ z) := by
  constructor
  · intro hs
    rcases hs.append_right with hs | hs
    · -- the tag would end inside of the reference
      have hg := hs.last_mem fun _ k => k.getLast?
      exact ht.closer_notMem (hb.subset hg)
    · exact not_straddles_tag h z hs
  · exact not_straddles_of_head fun t h => h.ampersand_notMem_tail

/-- The boundary behind a reference that begins outside of tags is clean. -/
theorem clean_after_reference {a b t z : List Char}
    (h : danglingIndex? '<' '>' (a ++ '&' :: b) = none) (ht : IsReference ('&' :: b ++ t)) :
    Clean (a ++ ('&' :: b ++ t)) z := by
  constructor
  · intro hs
    rw [← List.append_assoc] at hs
    rcases hs.append_left with ⟨u,v,hu,-,hut,-,hk⟩ | hs
    · -- the tag would begin inside of the reference
      obtain ⟨body,-,he⟩ := hk
      obtain ⟨c,u,rfl⟩ := List.exists_cons_of_ne_nil hu
      obtain rfl : c = '<' := (List.cons.inj he).1
      exact ht.opener_notMem (List.mem_append_right _ (hut.subset (by simp)))
    · exact not_straddles_tag h (t ++ z) hs
  · obtain ⟨sign,name,-,-,-,he⟩ := ht
    rw [he,← List.append_assoc sign,← List.cons_append,← List.append_assoc]
    exact not_straddles_of_last fun t h => h.semicolon_notMem_dropLast

/-! ## Cuts -/

theorem clean_at {s x y : List Char} {p : Nat} (hs : s = x ++ y) (hp : p = x.length)
    (h : Clean x y) : Clean (s.take p) (s.drop p) := by
  subst hs hp
  simpa using h

theorem exists_first {c : Char} {s : List Char} {i : Nat}
    (h : firstIndex? (· == c) s = some i) : ∃ u v, s = u ++ c :: v ∧ i = u.length := by
  obtain ⟨hi,hc,-⟩ := List.findIdx?_eq_some_iff_getElem.mp h
  have hc' : s[i] = c := by simpa using hc
  refine ⟨s.take i,s.drop (i + 1),?_,?_⟩
  · rw [← hc',← List.drop_eq_getElem_cons hi,List.take_append_drop]
  · simp
    omega

/-- A reference that goes on over the boundary holds everything from its ampersand on. -/
theorem prefix_reference {a b y t r : List Char} (h : '&' :: b ++ y = t ++ r)
    (hlt : (a ++ '&' :: b).length < a.length + t.length) : '&' :: b <+: t := by
  refine List.prefix_of_prefix_length_le (List.prefix_append _ y) (h ▸ List.prefix_append t r) ?_
  rw [List.length_append] at hlt
  omega

/-- Where a cut falls that is moved away from the limit, told by the text before the limit and the
text behind it. -/
inductive NearbyPlace (x y : List Char) (floor : Nat) : Nat → Prop
  /-- Neither a tag nor a reference goes on over the limit. -/
  | atLimit (ht : danglingIndex? '<' '>' x = none) (hr : ¬ Straddles IsReference x y) :
      NearbyPlace x y floor x.length
  | beforeBracket {a b : List Char} (hx : x = a ++ '<' :: b) (hf : floor < a.length) :
      NearbyPlace x y floor a.length
  | afterBracket {a b : List Char} {i : Nat} (hx : x = a ++ '<' :: b) (hb : '>' ∉ b)
      (hf : a.length ≤ floor) (hi : firstIndex? (· == '>') ('<' :: b ++ y) = some i) :
      NearbyPlace x y floor (a.length + i + 1)
  | atEnd {a b : List Char} (hx : x = a ++ '<' :: b) (hb : '>' ∉ b)
      (hi : firstIndex? (· == '>') ('<' :: b ++ y) = none) :
      NearbyPlace x y floor (x ++ y).length
  | beforeReference {a b t r : List Char} (ht : danglingIndex? '<' '>' x = none)
      (hx : x = a ++ '&' :: b) (hy : '&' :: b ++ y = t ++ r) (hr : IsReference t)
      (hp : '&' :: b <+: t) (hf : floor < a.length) : NearbyPlace x y floor a.length
  | afterReference {a b t r : List Char} (ht : danglingIndex? '<' '>' x = none)
      (hx : x = a ++ '&' :: b) (hy : '&' :: b ++ y = t ++ r) (hr : IsReference t)
      (hp : '&' :: b <+: t) (hf : a.length ≤ floor) : NearbyPlace x y floor (a.length + t.length)

/-- No reference goes on over a boundary unless the last ampersand before it begins one. -/
theorem not_straddles_reference {a b y : List Char}
    (hd : danglingIndex? '&' ';' (a ++ '&' :: b) = some a.length)
    (hn : ∀ n, referenceLength? ('&' :: b ++ y) = some n →
      ¬ (a ++ '&' :: b).length < a.length + n) : ¬ Straddles IsReference (a ++ '&' :: b) y := by
  intro h
  obtain ⟨i,n,hi,hr,hlt⟩ := exists_dangling_reference h
  obtain rfl : a.length = i := Option.some.inj (hd.symm.trans hi)
  rw [List.append_assoc,List.drop_left] at hr
  exact hn n hr hlt

theorem nearbyPlace_nearbyCut (s : List Char) (limit floor : Nat) :
    NearbyPlace (s.take (min limit s.length)) (s.drop (min limit s.length)) floor
      (nearbyCut s limit floor) := by
  have hs : s = s.take (min limit s.length) ++ s.drop (min limit s.length) := by simp
  have hl : (s.take (min limit s.length)).length = min limit s.length := by simp
  unfold nearbyCut
  dsimp only
  generalize s.take (min limit s.length) = x at hs hl ⊢
  generalize s.drop (min limit s.length) = y at hs ⊢
  rw [← hl]
  split
  · next start hd =>
    obtain ⟨a,b,rfl,-,hb,rfl⟩ := danglingIndex?_eq_some (by decide) hd
    have hdrop : s.drop a.length = '<' :: b ++ y := by
      rw [hs,List.append_assoc,List.drop_left]
    rw [hdrop]
    split_ifs with hf
    · exact .beforeBracket rfl hf
    · split
      · next i hi => exact .afterBracket rfl hb (by omega) hi
      · next hi =>
        rw [hs]
        exact .atEnd rfl hb hi
  · next ht =>
    split
    · next start hd =>
      obtain ⟨a,b,rfl,-,-,rfl⟩ := danglingIndex?_eq_some (by decide) hd
      have hdrop : s.drop a.length = '&' :: b ++ y := by
        rw [hs,List.append_assoc,List.drop_left]
      rw [hdrop]
      split
      · next n hn =>
        split_ifs with hlt hf
        · obtain ⟨t,r,he,hr,rfl⟩ := exists_reference hn
          exact .beforeReference ht rfl he hr (prefix_reference he hlt) hf
        · obtain ⟨t,r,he,hr,rfl⟩ := exists_reference hn
          exact .afterReference ht rfl he hr (prefix_reference he hlt) (by omega)
        · refine .atLimit ht (not_straddles_reference hd fun m hm => ?_)
          rwa [← Option.some.inj (hn.symm.trans hm)]
      · next hn =>
        refine .atLimit ht (not_straddles_reference hd fun m hm => ?_)
        rw [hn] at hm
        cases hm
    · next hd =>
      refine .atLimit ht fun h => ?_
      obtain ⟨i,n,hi,-,-⟩ := exists_dangling_reference h
      rw [hd] at hi
      cases hi

theorem NearbyPlace.clean {x y : List Char} {floor p : Nat} (h : NearbyPlace x y floor p) :
    Clean ((x ++ y).take p) ((x ++ y).drop p) := by
  cases h with
  | atLimit ht hr => exact clean_at rfl rfl ⟨not_straddles_tag ht y,hr⟩
  | @beforeBracket a b hx hf =>
    subst hx
    exact clean_at (List.append_assoc ..) rfl (Clean.opener a (b ++ y))
  | @afterBracket a b i hx hb hf hi =>
    subst hx
    obtain ⟨u,v,he,rfl⟩ := exists_first hi
    refine clean_at ?_ ?_ (Clean.closer (a ++ u) v)
    · rw [List.append_assoc,he]
      simp
    · simp
      omega
  | atEnd => exact clean_at (by simp) rfl (Clean.nil_right _)
  | @beforeReference a b t r ht hx hy hr hp hf =>
    subst hx
    exact clean_at (List.append_assoc ..) rfl (clean_before_reference ht hr hp)
  | @afterReference a b t r ht hx hy hr hp hf =>
    subst hx
    obtain ⟨t,rfl⟩ := hp
    refine clean_at ?_ ?_ (clean_after_reference (z := r) ht hr)
    · rw [List.append_assoc a,hy,List.append_assoc a]
    · simp

/-- A cut near the budget is clean. -/
theorem clean_nearbyCut (s : List Char) (limit floor : Nat) :
    Clean (s.take (nearbyCut s limit floor)) (s.drop (nearbyCut s limit floor)) := by
  have h := (nearbyPlace_nearbyCut s limit floor).clean
  rwa [List.take_append_drop] at h

/-- A forced cut is clean. -/
theorem clean_forcedCut (s : List Char) (limit floor : Nat) :
    Clean (s.take (forcedCut s limit floor)) (s.drop (forcedCut s limit floor)) := by
  unfold forcedCut
  dsimp only
  split
  · split
    · next c rest hd =>
      have h := clean_firstToken (s.take floor) c rest
      have hs : s = s.take floor ++ (c :: rest) := by rw [← hd,List.take_append_drop]
      have hlen : floor ≤ s.length := by
        by_contra hlt
        rw [List.drop_eq_nil_of_le (by omega)] at hd
        cases hd
      refine clean_at ?_ ?_ h
      · rw [List.append_assoc,firstToken_append]
        exact hs
      · simp [hlen]
    · exact clean_nearbyCut s limit floor
  · exact clean_nearbyCut s limit floor

end ChatMarkup.Markup
