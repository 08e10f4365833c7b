import ChatMarkup.Proofs.Render.ReadBack

/-!
# Pairs of markers

Which markers of a text are written as tags is said here by their positions. A pair is the first
marker from where the last pair ended, and the nearest one that begins behind it; what the first
scan passes over is never looked at again. A pair is kept if a scheme stands in the window before it
with no blank behind it. All else stays where it is, so the tags take turns, and bars in their place
give the text back.
-/
namespace ChatMarkup.Spoiler
open Text Markup Render

def between (t : List Char) (a b : ℕ) : List Char := (t.drop a).take (b-a)

def MarkerAt (t : List Char) (i : ℕ) : Prop := between t i (i+2) = marker

/-- The first marker from a position on, and the nearest one that begins behind it. -/
structure IsPair (t : List Char) (k i j : ℕ) : Prop where
  start_le : k ≤ i
  opens : MarkerAt t i
  first : ∀ i' < i, k ≤ i' → ¬ MarkerAt t i'
  behind : i + 2 ≤ j
  closes : MarkerAt t j
  nearest : ∀ j' < j, i + 2 ≤ j' → ¬ MarkerAt t j'

/-- The pairs from a position on, each behind the one before it. -/
inductive Pairs (t : List Char) : ℕ → List (ℕ × ℕ) → Prop
  | done {k : ℕ} : (∀ i j, ¬ IsPair t k i j) → Pairs t k []
  | pair {k i j : ℕ} {pairs : List (ℕ × ℕ)} :
      IsPair t k i j → Pairs t (j+2) pairs → Pairs t k ((i,j) :: pairs)

/-- A scheme begins in the window before a position, ends there at the latest, and no blank follows
it up to there. -/
def InAddress (t : List Char) (i : ℕ) : Prop :=
  ∃ scheme ∈ schemes, ∃ p < i, i - window ≤ p ∧ p + scheme.length ≤ i ∧
    between t p (p + scheme.length) = scheme ∧
      ∀ c ∈ between t (p + scheme.length) i, isBlank c = false

instance (t : List Char) (i : ℕ) : Decidable (MarkerAt t i) :=
  inferInstanceAs (Decidable (between t i (i+2) = marker))

instance (t : List Char) (i : ℕ) : Decidable (InAddress t i) :=
  decidable_of_iff (∃ scheme ∈ schemes, ∃ p < i, i - window ≤ p ∧ p + scheme.length ≤ i ∧
    between t p (p + scheme.length) = scheme ∧
      ((between t (p + scheme.length) i).all fun c => !isBlank c) = true) (by simp [InAddress])

/-- The text from a position on, with tags in the place of the markers of those pairs that do not
stand in an address. -/
def written (t : List Char) : ℕ → List (ℕ × ℕ) → List Char
  | k, [] => t.drop k
  | k, (i,j) :: pairs =>
    let hidden := between t (i+2) j
    let shown :=
      if InAddress t i then marker ++ hidden ++ marker else openTag ++ hidden ++ closeTag
    between t k i ++ shown ++ written t (j+2) pairs

/-! ## Pieces of a text -/

section Pieces
variable {t : List Char} {a b c : ℕ}

theorem between_subset : between t a b ⊆ t :=
  fun _ h => List.mem_of_mem_drop (List.mem_of_mem_take h)

theorem between_append (hab : a ≤ b) (hbc : b ≤ c) :
    between t a b ++ between t b c = between t a c := by
  have hb : a+(b-a) = b := by omega
  have hc : c-a = (b-a)+(c-b) := by omega
  rw [between,between,between,hc,List.take_add,List.drop_drop,hb]

/-- Two parts of a piece are pieces themselves. -/
theorem between_of_append {u v : List Char} (h : between t a b = u ++ v) :
    a+u.length+v.length ≤ max a b ∧ between t a (a+u.length) = u ∧
      between t (a+u.length) b = v := by
  have hl : u.length+v.length ≤ b-a := by
    have := List.length_take_le (b-a) (t.drop a)
    rwa [← between,h,List.length_append] at this
  refine ⟨by omega,?_,?_⟩
  · have hu := congrArg (List.take u.length) h
    rw [between,List.take_take,Nat.min_eq_left (by omega),List.take_left] at hu
    rw [between,Nat.add_sub_cancel_left,hu]
  · have hv := congrArg (List.drop u.length) h
    rw [between,List.drop_take,List.drop_drop,List.drop_left] at hv
    rw [between,Nat.sub_add_eq,hv]

theorem between_drop (h : a ≤ b) : between t a b ++ t.drop b = t.drop a := by
  have hd : t.drop b = (t.drop a).drop (b-a) := by
    rw [List.drop_drop,Nat.add_sub_cancel' h]
  rw [between,hd,List.take_append_drop]

end Pieces

/-! ## Markers -/

section Markers
variable {t s a b : List Char} {i k : ℕ}

theorem markerAt_iff : MarkerAt t i ↔ ∃ rest, t.drop i = marker ++ rest := by
  unfold MarkerAt between
  rw [Nat.add_sub_cancel_left]
  constructor
  · intro h
    exact ⟨(t.drop i).drop 2,by rw [← h,List.take_append_drop]⟩
  · rintro ⟨rest,h⟩
    rw [h]
    rfl

theorem markerAt_drop : MarkerAt (t.drop k) i ↔ MarkerAt t (k+i) := by
  rw [markerAt_iff,markerAt_iff,List.drop_drop]

theorem markerAt_cons {c : Char} : MarkerAt (c :: s) (i+1) ↔ MarkerAt s i := by
  rw [markerAt_iff,markerAt_iff,List.drop_succ_cons]

theorem MarkerAt.add_two_le (h : MarkerAt t i) : i+2 ≤ t.length := by
  obtain ⟨rest,hr⟩ := markerAt_iff.mp h
  have hl := congrArg List.length hr
  simp only [List.length_drop,List.length_append,marker,List.length_cons,List.length_nil] at hl
  omega

theorem MarkerAt.append_drop (h : MarkerAt t i) : marker ++ t.drop (i+2) = t.drop i := by
  rw [← between_drop (Nat.le_add_right i 2),show between t i (i+2) = marker from h]

/-- No marker stands further in front than where a text is cut. -/
theorem not_markerAt_of_cut? (h : cut? s = some (a,b)) : ∀ i < a.length, ¬ MarkerAt s i := by
  fun_induction cut? s generalizing a with
  | case1 rest =>
    obtain ⟨rfl,-⟩ : [] = a ∧ rest = b := by simpa using h
    simp
  | case2 c rest hc ih =>
    obtain ⟨⟨u,v⟩,hu,he⟩ := Option.map_eq_some_iff.1 h
    cases he
    intro i hi hm
    cases i with
    | zero =>
      obtain ⟨more,he⟩ := markerAt_iff.mp hm
      obtain ⟨rfl,hr⟩ := List.cons.inj he
      exact hc more rfl hr
    | succ i => exact ih hu i (by simpa using hi) (markerAt_cons.mp hm)
  | case3 => simp at h

theorem not_markerAt_of_cut?_eq_none (h : cut? s = none) (i : ℕ) : ¬ MarkerAt s i := by
  fun_induction cut? s generalizing i with
  | case1 => cases h
  | case2 c rest hc ih =>
    intro hm
    cases i with
    | zero =>
      obtain ⟨more,he⟩ := markerAt_iff.mp hm
      obtain ⟨rfl,hr⟩ := List.cons.inj he
      exact hc more rfl hr
    | succ i => exact ih (by simpa using h) i (markerAt_cons.mp hm)
  | case3 =>
    intro hm
    have := hm.add_two_le
    simp at this

/-- A cut finds the first marker from a position on, with the text up to it and the text behind. -/
theorem first_marker (h : cut? (t.drop k) = some (a,b)) :
    MarkerAt t (k+a.length) ∧ (∀ i < k+a.length, k ≤ i → ¬ MarkerAt t i) ∧
      between t k (k+a.length) = a ∧ t.drop (k+a.length+2) = b := by
  have he := cut?_eq h
  rw [List.append_assoc] at he
  have hm : (t.drop k).drop a.length = marker ++ b := by rw [he,List.drop_left]
  refine ⟨?_,?_,?_,?_⟩
  · rw [List.drop_drop] at hm
    exact markerAt_iff.mpr ⟨b,hm⟩
  · intro i hi hk hm
    obtain ⟨d,rfl⟩ := Nat.exists_eq_add_of_le hk
    exact not_markerAt_of_cut? h d (by omega) (markerAt_drop.mpr hm)
  · rw [between,he,Nat.add_sub_cancel_left,List.take_left]
  · have hb := congrArg (List.drop 2) hm
    rw [List.drop_drop,List.drop_drop] at hb
    exact hb

theorem no_marker (h : cut? (t.drop k) = none) (hi : k ≤ i) : ¬ MarkerAt t i := by
  obtain ⟨d,rfl⟩ := Nat.exists_eq_add_of_le hi
  exact fun hm => not_markerAt_of_cut?_eq_none h d (markerAt_drop.mpr hm)

end Markers

/-! ## Addresses -/

theorem holdsScheme_iff (s : List Char) :
    holdsScheme s = true ↔ ∃ scheme ∈ schemes, scheme <:+: s := by
  have hn : ∀ scheme ∈ schemes, scheme ≠ [] := by decide
  induction s with
  | nil =>
    simp only [holdsScheme,Bool.false_eq_true,false_iff,List.infix_nil]
    rintro ⟨scheme,hs,he⟩
    exact hn scheme hs he
  | cons c s ih =>
    simp only [holdsScheme,Bool.or_eq_true,List.any_eq_true,List.isPrefixOf_iff_prefix,ih,
      List.infix_cons_iff]
    constructor
    · rintro (⟨scheme,hs,hp⟩ | ⟨scheme,hs,hi⟩)
      · exact ⟨scheme,hs,.inl hp⟩
      · exact ⟨scheme,hs,.inr hi⟩
    · rintro ⟨scheme,hs,hp | hi⟩
      · exact .inl ⟨scheme,hs,hp⟩
      · exact .inr ⟨scheme,hs,hi⟩

theorem endsInAddress_iff (s : List Char) : endsInAddress s = true ↔
    ∃ scheme ∈ schemes, ∃ x y, s = x ++ scheme ++ y ∧ ∀ c ∈ y, isBlank c = false := by
  have hb : ∀ scheme ∈ schemes, (scheme.all fun c => !isBlank c) = true := by decide
  have hs : ∃ d, s = d ++ (s.reverse.takeWhile fun c => !isBlank c).reverse := by
    refine ⟨(s.reverse.dropWhile fun c => !isBlank c).reverse,?_⟩
    rw [← List.reverse_append,List.takeWhile_append_dropWhile,List.reverse_reverse]
  rw [endsInAddress,holdsScheme_iff]
  constructor
  · rintro ⟨scheme,hm,x,y,hv⟩
    obtain ⟨d,hd⟩ := hs
    refine ⟨scheme,hm,d ++ x,y,?_,fun c hc => ?_⟩
    · rw [← hv] at hd
      simpa only [List.append_assoc] using hd
    · have hc' : c ∈ s.reverse.takeWhile fun c => !isBlank c := by
        rw [← List.mem_reverse,← hv]
        exact List.mem_append_right _ hc
      simpa using List.mem_takeWhile_imp hc'
  · rintro ⟨scheme,hm,x,y,rfl,hy⟩
    have ha : ∀ c ∈ (scheme ++ y).reverse, (!isBlank c) = true := by
      intro c hc
      rcases List.mem_append.mp (List.mem_reverse.mp hc) with hc | hc
      · exact List.all_eq_true.mp (hb scheme hm) c hc
      · simp [hy c hc]
    refine ⟨scheme,hm,?_⟩
    rw [List.append_assoc,List.reverse_append,List.takeWhile_append_of_pos ha,List.reverse_append,
      List.reverse_reverse,← List.append_assoc]
    exact ⟨_,y,rfl⟩

/-- The search in the window before a position looks for what an address is. -/
theorem endsInAddress_between {t : List Char} {i : ℕ} :
    endsInAddress (between t (i - window) i) = true ↔ InAddress t i := by
  have hp : ∀ scheme ∈ schemes, 0 < scheme.length := by decide
  rw [endsInAddress_iff]
  constructor
  · rintro ⟨scheme,hm,x,y,h,hy⟩
    have := hp scheme hm
    rw [List.append_assoc] at h
    obtain ⟨hl,-,h⟩ := between_of_append h
    obtain ⟨hl',hs,h⟩ := between_of_append h
    rw [List.length_append] at hl
    refine ⟨scheme,hm,_,?_,Nat.le_add_right _ x.length,?_,hs,by rwa [h]⟩
    · omega
    · omega
  · rintro ⟨scheme,hm,p,-,ha,hl,hs,hy⟩
    refine ⟨scheme,hm,between t (i - window) p,_,?_,hy⟩
    rw [← between_append (ha.trans (Nat.le_add_right p scheme.length)) hl,
      ← between_append ha (Nat.le_add_right p scheme.length),hs]

/-! ## Pairs -/

section Pairing
variable {t a b c d : List Char} {k i j i' j' : ℕ} {pairs pairs' : List (ℕ × ℕ)}

theorem isPair_of_cut? (h₁ : cut? (t.drop k) = some (a,b)) (h₂ : cut? b = some (c,d)) :
    IsPair t k (k+a.length) (k+a.length+2+c.length) := by
  obtain ⟨ho,hf,-,hb⟩ := first_marker h₁
  rw [← hb] at h₂
  obtain ⟨hc,hn,-⟩ := first_marker h₂
  exact ⟨Nat.le_add_right _ _,ho,hf,Nat.le_add_right _ _,hc,hn⟩

theorem not_isPair_of_no_marker (h : cut? (t.drop k) = none) : ¬ IsPair t k i j :=
  fun hp => no_marker h hp.start_le hp.opens

theorem not_isPair_of_one_marker (h₁ : cut? (t.drop k) = some (a,b)) (h₂ : cut? b = none) :
    ¬ IsPair t k i j := by
  intro hp
  obtain ⟨-,hf,-,hb⟩ := first_marker h₁
  have hi : k+a.length ≤ i := by
    by_contra hi
    exact hf i (by omega) hp.start_le hp.opens
  have hj := hp.behind
  rw [← hb] at h₂
  exact no_marker h₂ (by omega) hp.closes

theorem IsPair.unique (h : IsPair t k i j) (h' : IsPair t k i' j') : i = i' ∧ j = j' := by
  have hi : i = i' := by
    by_contra hne
    rcases Nat.lt_or_gt_of_ne hne with hl | hl
    · exact h'.first i hl h.start_le h.opens
    · exact h.first i' hl h'.start_le h'.opens
  subst hi
  refine ⟨rfl,?_⟩
  by_contra hne
  rcases Nat.lt_or_gt_of_ne hne with hl | hl
  · exact h'.nearest j hl h.behind h.closes
  · exact h.nearest j' hl h'.behind h'.closes

/-- A pair cuts the text into what is before it, hidden by it and after it. -/
theorem IsPair.drop_eq (h : IsPair t k i j) :
    between t k i ++ (marker ++ (between t (i+2) j ++ (marker ++ t.drop (j+2)))) = t.drop k := by
  rw [h.closes.append_drop,between_drop h.behind,h.opens.append_drop,between_drop h.start_le]

theorem Pairs.unique (h : Pairs t k pairs) (h' : Pairs t k pairs') : pairs = pairs' := by
  induction h generalizing pairs' with
  | done hn =>
    cases h' with
    | done => rfl
    | pair hp => exact absurd hp (hn _ _)
  | pair hp _ ih =>
    cases h' with
    | done hn => exact absurd hp (hn _ _)
    | pair hp' hr =>
      obtain ⟨rfl,rfl⟩ := hp.unique hp'
      rw [ih hr]

end Pairing

/-- The window that is searched, in a text that is known up to a position with its last character
first. -/
theorem reverse_take_window (told s : List Char) :
    (told.take window).reverse =
      between (told.reverse ++ s) (told.length - window) told.length := by
  have hl : told.length - window ≤ told.reverse.length := by simp
  have hd : told.length - (told.length - window) =
      (told.reverse.drop (told.length - window)).length := by simp
  rw [List.reverse_take,between,List.drop_append_of_le_length hl,hd,List.take_left]

/-- What is written behind the text that has been passed is what its pairs say. -/
theorem exists_pairs {t : List Char} (seen s : List Char) (h : t = seen.reverse ++ s) :
    ∃ pairs, Pairs t seen.length pairs ∧ hideAfter seen s = written t seen.length pairs := by
  have hd : t.drop seen.length = s := by rw [h,← List.length_reverse,List.drop_left]
  fun_induction hideAfter seen s with
  | case1 seen s h₁ =>
    rw [← hd] at h₁
    exact ⟨[],.done fun i j => not_isPair_of_no_marker h₁,hd.symm⟩
  | case2 seen s before rest h₁ h₂ =>
    rw [← hd] at h₁
    exact ⟨[],.done fun i j => not_isPair_of_one_marker h₁ h₂,hd.symm⟩
  | case3 seen s before rest h₁ hidden after h₂ told passed shown ih =>
    have e₁ := cut?_eq h₁
    have e₂ := cut?_eq h₂
    have hp := isPair_of_cut? (hd.symm ▸ h₁) h₂
    rw [← hd] at h₁
    obtain ⟨-,-,hb,hr⟩ := first_marker h₁
    rw [← hr] at h₂
    obtain ⟨-,-,hh,ha⟩ := first_marker h₂
    have hi : told.length = seen.length + before.length := by
      simp [told,Nat.add_comm]
    have hj : passed.length = seen.length + before.length + 2 + hidden.length + 2 := by
      simp [passed,hi,marker]
      omega
    have ht : t = told.reverse ++ (marker ++ rest) := by
      rw [h,e₁]
      simp [told]
    have he : endsInAddress (told.take window).reverse = true ↔
        InAddress t (seen.length + before.length) := by
      rw [reverse_take_window told (marker ++ rest),← ht,hi,endsInAddress_between]
    obtain ⟨pairs,hps,hw⟩ := ih (by simp [h,e₁,e₂,passed,told,marker]) (by rw [hj,ha])
    rw [hj] at hps hw
    refine ⟨_,.pair hp hps,?_⟩
    rw [written,hb,hh,← hw]
    simp only [shown,he,dite_eq_ite]

/-! ## What is written -/

section Writing
variable {t : List Char} {k : ℕ} {pairs : List (ℕ × ℕ)}

/-- If a text holds no brackets, the only tags written are one of each kind for every pair that does
not stand in an address. -/
theorem tags_written (h : '<' ∉ t) :
    tags (written t k pairs) =
      (pairs.filter fun p => !decide (InAddress t p.1)).flatMap fun _ => [openTag,closeTag] := by
  have hb : ∀ a b, '<' ∉ between t a b := fun a b hm => h (between_subset hm)
  induction pairs generalizing k with
  | nil => rw [written,tags_of_unopened fun hm => h (List.mem_of_mem_drop hm)]; rfl
  | cons p pairs ih =>
    obtain ⟨i,j⟩ := p
    have hm : '<' ∉ marker := by decide
    rw [written,List.append_assoc,(scan_unopened (hb k i) _).1]
    by_cases hi : InAddress t i
    · rw [if_pos hi,List.append_assoc,List.append_assoc,(scan_unopened hm _).1,
        (scan_unopened (hb _ j) _).1,(scan_unopened hm _).1,ih]
      simp [hi]
    · rw [if_neg hi,List.append_assoc,List.append_assoc,tags_tag isTagToken_openTag,
        (scan_unopened (hb _ j) _).1,tags_tag isTagToken_closeTag,ih]
      simp [hi]

/-- If a text holds no brackets, bars in the place of the tags give it back. -/
theorem withBars_written (h : '<' ∉ t) (hp : Pairs t k pairs) :
    withBars (written t k pairs) = t.drop k := by
  have hb : ∀ a b, '<' ∉ between t a b := fun a b hm => h (between_subset hm)
  induction hp with
  | @done k _ =>
    have hs := withBars_unopened (w := t.drop k) (fun hm => h (List.mem_of_mem_drop hm)) []
    rw [List.append_nil] at hs
    rw [written,hs]
    simp [withBars,replaceFrom]
  | @pair k i j pairs hp _ ih =>
    have hm : '<' ∉ marker := by decide
    rw [written,List.append_assoc,withBars_unopened (hb k i),← hp.drop_eq,← ih]
    by_cases hi : InAddress t i
    · rw [if_pos hi,List.append_assoc,List.append_assoc,withBars_unopened hm,
        withBars_unopened (hb _ j),withBars_unopened hm]
    · rw [if_neg hi,List.append_assoc,List.append_assoc,withBars_openTag,
        withBars_unopened (hb _ j),withBars_closeTag]

end Writing

/-- The pairs of a text are determined, and the tags are written for those that do not stand in an
address. In a text without brackets these are all the tags there are, and bars in their place give
the text back. -/
theorem hide_pairs {t : List Char} (h : '<' ∉ t) :
    (∃! pairs, Pairs t 0 pairs) ∧ ∀ pairs, Pairs t 0 pairs →
      hide t = written t 0 pairs ∧
      tags (hide t) =
        (pairs.filter fun p => !decide (InAddress t p.1)).flatMap (fun _ => [openTag,closeTag]) ∧
      withBars (hide t) = t := by
  obtain ⟨pairs,hp,hw⟩ := exists_pairs [] t rfl
  refine ⟨⟨pairs,hp,fun _ hq => hq.unique hp⟩,fun other hq => ?_⟩
  obtain rfl := hq.unique hp
  have he : hide t = written t 0 other := hw
  rw [he]
  exact ⟨rfl,tags_written h,by simpa using withBars_written h hq⟩

/-- A pair with a bar behind it, a pair in an address, and one that a blank parts from it. -/
def sampleLine : List Char := "||a||| http://b||c|| ||d||".toList

theorem pairs_sampleLine : Pairs sampleLine 0 [(0,3),(15,18),(21,24)] := by
  refine .pair ?_ (.pair ?_ (.pair ?_ (.done fun i j hp => ?_)))
  · constructor <;> decide
  · constructor <;> decide
  · constructor <;> decide
  · have hl := hp.opens.add_two_le
    have hs := hp.start_le
    have hn : sampleLine.length = 26 := by decide
    omega

theorem hide_pairs_sampleLine :
    (∃! pairs, Pairs sampleLine 0 pairs) ∧
      hide sampleLine =
        "<tg-spoiler>a</tg-spoiler>| http://b||c|| <tg-spoiler>d</tg-spoiler>".toList ∧
      tags (hide sampleLine) = [openTag,closeTag,openTag,closeTag] ∧
      withBars (hide sampleLine) = sampleLine := by
  obtain ⟨hu,hp⟩ := hide_pairs (t := sampleLine) (by decide)
  obtain ⟨hw,ht,hb⟩ := hp _ pairs_sampleLine
  exact ⟨hu,hw.trans (by decide),ht.trans (by decide),hb⟩

end ChatMarkup.Spoiler
