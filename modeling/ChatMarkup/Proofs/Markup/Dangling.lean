import ChatMarkup.Proofs.Markup.Truncation

/-!
# Brackets that dangle at the end

A text ends open if its last opening bracket is not closed. Truncation drops such a bracket from the
run that it keeps, but it does so once: where another one stands right before it, that one becomes
the last. It then stays in the result, unless tags are open there: the tags that close them put a
closing bracket behind it.
-/
namespace ChatMarkup.Markup
open Text
variable {x y w s : List Char}

/-- The last opening bracket of the text is not closed. -/
def EndsOpen (s : List Char) : Prop := ∃ a b, s = a ++ '<' :: b ∧ ∀ c ∈ b, inTag c = true

theorem inTag_iff {c : Char} : inTag c = true ↔ c ≠ '<' ∧ c ≠ '>' := by
  simp [inTag]

theorem endsOpen_iff (s : List Char) : EndsOpen s ↔ (danglingIndex? '<' '>' s).isSome = true := by
  constructor
  · rintro ⟨a,b,rfl,hb⟩
    have ho : '<' ∉ b := fun h => (inTag_iff.mp (hb _ h)).1 rfl
    have hc : '>' ∉ b := fun h => (inTag_iff.mp (hb _ h)).2 rfl
    rw [danglingIndex?_of_last (by decide) ho,if_neg hc]
    rfl
  · intro h
    obtain ⟨i,hi⟩ := Option.isSome_iff_exists.mp h
    obtain ⟨a,b,rfl,ho,hc,-⟩ := danglingIndex?_eq_some (by decide) hi
    refine ⟨a,b,rfl,fun c hm => inTag_iff.mpr ⟨?_,?_⟩⟩
    · exact fun e => ho (e ▸ hm)
    · exact fun e => hc (e ▸ hm)

instance (s : List Char) : Decidable (EndsOpen s) := decidable_of_iff _ (endsOpen_iff s).symm

/-- A closing bracket at the end closes whatever is open. -/
theorem not_endsOpen_closer (x : List Char) : ¬ EndsOpen (x ++ ['>']) := by
  rintro ⟨a,b,h,hb⟩
  rcases List.eq_nil_or_concat b with rfl | ⟨b,c,rfl⟩
  · have := (List.append_inj' h rfl).2
    simp at this
  · rw [List.concat_eq_append,← List.cons_append,← List.append_assoc] at h
    obtain rfl := List.singleton_inj.mp (List.append_inj' h rfl).2
    exact (inTag_iff.mp (hb '>' (by simp))).2 rfl

/-- Text without brackets opens and closes nothing. -/
theorem endsOpen_append (hw : ∀ c ∈ w, inTag c = true) : EndsOpen (x ++ w) ↔ EndsOpen x := by
  have ho : ∀ {u r}, w = u ++ '<' :: r → False := fun h =>
    (inTag_iff.mp (hw '<' (by simp [h]))).1 rfl
  constructor
  · rintro ⟨a,b,h,hb⟩
    rcases List.append_eq_append_iff.mp h with ⟨u,-,hu⟩ | ⟨v,rfl,hv⟩
    · exact (ho hu).elim
    · cases v with
      | nil => exact (ho (u := []) hv.symm).elim
      | cons c v =>
        obtain ⟨rfl,rfl⟩ := List.cons.inj hv
        exact ⟨a,v,rfl,fun c hc => hb c (List.mem_append_left w hc)⟩
  · rintro ⟨a,b,rfl,hb⟩
    refine ⟨a,b ++ w,by simp,fun c hc => ?_⟩
    exact (List.mem_append.mp hc).elim (hb c) (hw c)

/-! ## The steps of truncation -/

theorem dropDanglingTag_open (hw : ∀ c ∈ w, inTag c = true) (x : List Char) :
    dropDanglingTag (x ++ '<' :: w) = x := by
  have ho : '<' ∉ w := fun h => (inTag_iff.mp (hw _ h)).1 rfl
  have hc : '>' ∉ w := fun h => (inTag_iff.mp (hw _ h)).2 rfl
  rw [dropDanglingTag,danglingIndex?_of_last (by decide) ho,if_neg hc]
  simp

theorem dropDanglingTag_of_not_endsOpen (h : ¬ EndsOpen s) : dropDanglingTag s = s := by
  rw [endsOpen_iff,Option.not_isSome_iff_eq_none] at h
  rw [dropDanglingTag,h]

theorem endsOpen_trimEnd (s : List Char) : EndsOpen (trimEnd s) ↔ EndsOpen s := by
  obtain ⟨blanks,h,hb⟩ := exists_trimEnd s
  have hi : ∀ c ∈ blanks, inTag c = true := by
    refine fun c hc => inTag_iff.mpr ⟨?_,?_⟩ <;>
    · rintro rfl
      exact absurd (hb _ hc) (by decide)
  conv_rhs => rw [h,endsOpen_append hi]

/-- A bracket that is not closed is no tag. -/
theorem openTags_open (hw : ∀ c ∈ w, inTag c = true) (x : List Char) :
    openTags (x ++ '<' :: w) = openTags x := by
  have ho : '<' ∉ w := fun h => (inTag_iff.mp (hw _ h)).1 rfl
  have ht : ∀ t, IsTagToken t → ¬ t <+: '<' :: w := by
    intro t ht hp
    rcases List.mem_cons.mp (hp.subset (List.mem_of_getLast? ht.getLast?)) with h | h
    · exact absurd h (by decide)
    · exact (inTag_iff.mp (hw _ h)).2 rfl
  rw [openTags_eq,tags_append (Clean.opener x w).tag,(scan_char ht).1,tags_of_unopened ho,
    List.append_nil,← openTags_eq]

/-- Tags that are closed at the end close every bracket before them. -/
theorem endsOpen_balance (s : List Char) :
    EndsOpen (balance s) ↔ EndsOpen s ∧ openTags s = [] := by
  rw [balance,closingTags_eq]
  rcases h : openTags s with _ | ⟨t,ts⟩
  · simp
  · have he : s ++ (t :: ts).reverse.flatMap closingTag =
        s ++ ts.reverse.flatMap closingTag ++ '<' :: '/' :: t.name ++ ['>'] := by
      simp [closingTag]
    rw [he]
    exact iff_of_false (not_endsOpen_closer _) (by simp)

theorem endsOpen_withMarker (s : List Char) : EndsOpen (withMarker s) ↔ EndsOpen s := by
  rw [withMarker_eq]
  split_ifs
  · rw [List.append_nil]
  · exact endsOpen_append (List.all_eq_true.mp (by decide))

theorem endsOpen_kept (s : List Char) :
    EndsOpen (withMarker (balance (trimEnd s))) ↔ EndsOpen s ∧ openTags s = [] := by
  rw [endsOpen_withMarker,endsOpen_balance,endsOpen_trimEnd,openTags_trimEnd]

/-! ## Truncated markups -/

/-- A truncated markup ends open exactly if the run that it keeps ends in two brackets that are not
closed, with no tag open before them. -/
theorem endsOpen_truncate_iff {budget : ℕ} {q : List Char} (hl : budget < s.length)
    (hq : KeptRun budget s q) :
    EndsOpen (truncate budget s) ↔
      ∃ x a b, q = x ++ '<' :: (a ++ '<' :: b) ∧ (∀ c ∈ a ++ b, inTag c = true) ∧
        openTags x = [] := by
  rw [truncate,if_neg (by omega),keptPart,← (keptRun_found budget s).unique hq,endsOpen_kept]
  clear hq
  constructor
  · rintro ⟨hd,ho⟩
    by_cases he : EndsOpen q
    · obtain ⟨y,b,rfl,hb⟩ := he
      rw [dropDanglingTag_open hb] at hd ho
      obtain ⟨x,a,rfl,ha⟩ := hd
      rw [openTags_open ha] at ho
      exact ⟨x,a,b,by simp,fun c hc => (List.mem_append.mp hc).elim (ha c) (hb c),ho⟩
    · rw [dropDanglingTag_of_not_endsOpen he] at hd
      exact absurd hd he
  · rintro ⟨x,a,b,rfl,hab,ho⟩
    have ha : ∀ c ∈ a, inTag c = true := fun c hc => hab c (List.mem_append_left b hc)
    have hb : ∀ c ∈ b, inTag c = true := fun c hc => hab c (List.mem_append_right a hc)
    rw [← List.cons_append,← List.append_assoc,dropDanglingTag_open hb,openTags_open ha]
    exact ⟨⟨x,a,rfl,ha⟩,ho⟩

/-- Where no bracket that is not closed stands before another one, a markup that is truncated does
not end open. -/
theorem not_endsOpen_truncate {budget : ℕ} (hl : budget < s.length)
    (h : ∀ a, (∀ c ∈ a, inTag c = true) → ¬ '<' :: (a ++ ['<']) <:+: s) :
    ¬ EndsOpen (truncate budget s) := by
  intro he
  obtain ⟨x,a,b,hq,hab,-⟩ := (endsOpen_truncate_iff hl (keptRun_found budget s)).mp he
  refine h a (fun c hc => hab c (List.mem_append_left b hc)) ?_
  have hp := (keptRun_found budget s).fits.isPrefix
  refine List.IsInfix.trans ⟨x,b,?_⟩ hp.isInfix
  rw [hq]
  simp

/-- Of two brackets that are not closed, only the last one goes. -/
theorem truncate_strayBrackets :
    truncate 14 "Hello <one<two<three".toList = "Hello <one [...]".toList ∧
      EndsOpen (truncate 14 "Hello <one<two<three".toList) := by
  decide +kernel

end ChatMarkup.Markup
