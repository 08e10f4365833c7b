import ChatMarkup.Proofs.Markup.WellFormed

/-!
# What truncation keeps

A markup that is too long keeps the longest run of whole tokens that fits and ends at a safe
boundary, or the longest run that fits where no such run ends safely. Blanks at the end of the run
go, the tags that are open there are closed, and the marker follows. Only the closing tags and the
marker can take the result over the budget.

The rule is stated for markups whose brackets close. Elsewhere a run can end in an opening bracket
that dangles, and more than blanks is taken away at its end.
-/
namespace ChatMarkup.Markup
open Text

def FittingRun (budget : ℕ) (s q : List Char) : Prop :=
  ∃ ts, ts <+: tokens s ∧ q = ts.flatten ∧ q.length ≤ budget

/-- A run of whole tokens within the budget, the last of which is a safe boundary. -/
def SafeRun (budget : ℕ) (s q : List Char) : Prop :=
  ∃ ts t, ts ++ [t] <+: tokens s ∧ q = (ts ++ [t]).flatten ∧ q.length ≤ budget ∧
    isSafeBoundary t = true

/-- No text with the property is longer. -/
def Longest (P : List Char → Prop) (q : List Char) : Prop :=
  P q ∧ ∀ r, P r → r.length ≤ q.length

/-- The run that truncation keeps: the longest that ends safely, or else the longest that fits. -/
def KeptRun (budget : ℕ) (s q : List Char) : Prop :=
  Longest (SafeRun budget s) q ∨
    (∀ r, ¬ SafeRun budget s r) ∧ Longest (FittingRun budget s) q

/-! ## Runs -/

section
variable {budget : ℕ} {s q r : List Char} {ts us : List (List Char)}

theorem SafeRun.fits (h : SafeRun budget s q) : FittingRun budget s q := by
  obtain ⟨ts,t,hp,hq,hl,-⟩ := h
  exact ⟨ts ++ [t],hp,hq,hl⟩

theorem FittingRun.isPrefix (h : FittingRun budget s q) : q <+: s := by
  obtain ⟨ts,hp,rfl,-⟩ := h
  have hf := hp.flatten
  rwa [flatten_tokens] at hf

theorem FittingRun.length_le (h : FittingRun budget s q) : q.length ≤ budget := by
  obtain ⟨-,-,-,hl⟩ := h
  exact hl

theorem KeptRun.fits (h : KeptRun budget s q) : FittingRun budget s q := by
  rcases h with h | ⟨-,h⟩
  · exact h.1.fits
  · exact h.1

/-- Of two prefixes of a markup with a property, the longest is the longer, so there is one. -/
theorem Longest.unique {P : List Char → Prop} (hP : ∀ r, P r → r <+: s) (hq : Longest P q)
    (hr : Longest P r) : r = q := by
  have hl := Nat.le_antisymm (hq.2 r hr.1) (hr.2 q hq.1)
  have hp := List.prefix_of_prefix_length_le (hP r hr.1) (hP q hq.1) hl.le
  exact hp.eq_of_length hl

theorem KeptRun.unique (hq : KeptRun budget s q) (hr : KeptRun budget s r) : r = q := by
  have hs : ∀ r, SafeRun budget s r → r <+: s := fun _ h => h.fits.isPrefix
  rcases hq with hq | ⟨hnq,hq⟩ <;> rcases hr with hr | ⟨hnr,hr⟩
  · exact hq.unique hs hr
  · exact absurd hq.1 (hnr q)
  · exact absurd hr.1 (hnq r)
  · exact hq.unique (fun _ h => h.isPrefix) hr

/-! ## The run that is found -/

theorem length_fitting (budget : ℕ) (ts : List (List Char)) :
    (fitting budget ts).flatten.length ≤ budget := by
  induction ts generalizing budget with
  | nil => simp [fitting]
  | cons t ts ih =>
    unfold fitting
    split_ifs with h
    · have := ih (budget - t.length)
      rw [List.flatten_cons,List.length_append]
      omega
    · simp

/-- The tokens are taken one by one as long as they fit, so no run that fits reaches further. -/
theorem prefix_fitting_of_length (hp : us <+: ts) (hl : us.flatten.length ≤ budget) :
    us <+: fitting budget ts := by
  induction ts generalizing budget us with
  | nil => rwa [fitting]
  | cons t ts ih =>
    cases us with
    | nil => exact List.nil_prefix
    | cons u us =>
      obtain ⟨rfl,hp'⟩ := List.cons_prefix_cons.mp hp
      rw [List.flatten_cons,List.length_append] at hl
      rw [fitting,if_pos (by omega)]
      exact (List.prefix_cons_inj u).mpr (ih hp' (by omega))

/-- Tokens either hold no safe boundary, or are cut behind the last one. -/
theorem upToSafeBoundary_cases (ts : List (List Char)) :
    (∃ us t vs, ts = us ++ t :: vs ∧ isSafeBoundary t = true ∧
        (∀ v ∈ vs, isSafeBoundary v = false) ∧ upToSafeBoundary ts = us ++ [t]) ∨
      ((∀ t ∈ ts, isSafeBoundary t = false) ∧ upToSafeBoundary ts = ts) := by
  have hsplit := List.takeWhile_append_dropWhile (p := fun t => !isSafeBoundary t)
    (l := ts.reverse)
  have hskip : ∀ t ∈ ts.reverse.takeWhile fun t => !isSafeBoundary t,
      isSafeBoundary t = false := fun t ht => by simpa using List.mem_takeWhile_imp ht
  unfold upToSafeBoundary
  split
  · next hd =>
    right
    rw [hd,List.append_nil] at hsplit
    rw [hsplit] at hskip
    exact ⟨fun t ht => hskip t (List.mem_reverse.mpr ht),rfl⟩
  · next kept hne =>
    left
    obtain ⟨t,rest,hd⟩ := List.exists_cons_of_ne_nil hne
    have ht : isSafeBoundary t = true := by
      have hh := List.head?_dropWhile_not (fun t => !isSafeBoundary t) ts.reverse
      rw [hd] at hh
      simpa using hh
    refine ⟨rest.reverse,t,(ts.reverse.takeWhile fun t => !isSafeBoundary t).reverse,?_,ht,?_,?_⟩
    · have he := congrArg List.reverse hsplit
      rw [hd] at he
      simpa using he.symm
    · exact fun v hv => hskip v (List.mem_reverse.mp hv)
    · rw [hd]
      simp

/-- A safe token of a row stands no later than the last one. -/
theorem prefix_of_safe {us vs xs : List (List Char)} {t x : List Char}
    (hp : xs ++ [x] <+: us ++ t :: vs) (hx : isSafeBoundary x = true)
    (hvs : ∀ v ∈ vs, isSafeBoundary v = false) : xs ++ [x] <+: us ++ [t] := by
  obtain ⟨ys,hy⟩ := hp
  have he : us ++ t :: vs = (us ++ [t]) ++ vs := by simp
  rcases List.append_eq_append_iff.mp (hy.trans he) with ⟨a,ha,-⟩ | ⟨a,ha,rfl⟩
  · exact ⟨a,ha.symm⟩
  · rcases List.eq_nil_or_concat a with rfl | ⟨a,y,rfl⟩
    · rw [ha,List.append_nil]
    · rw [List.concat_eq_append,← List.append_assoc] at ha
      obtain ⟨-,hxy⟩ := List.append_inj' ha rfl
      obtain rfl := List.singleton_inj.mp hxy
      rw [hvs x (by simp)] at hx
      cases hx

theorem keptRun_found (budget : ℕ) (s : List Char) :
    KeptRun budget s (upToSafeBoundary (fitting budget (tokens s))).flatten := by
  have hp := prefix_fitting budget (tokens s)
  have hl := length_fitting budget (tokens s)
  rcases upToSafeBoundary_cases (fitting budget (tokens s)) with
    ⟨us,t,vs,he,ht,hvs,hu⟩ | ⟨hn,hu⟩
  · left
    rw [hu]
    have hs : us ++ [t] <+: fitting budget (tokens s) := ⟨vs,by simp [he]⟩
    constructor
    · exact ⟨us,t,hs.trans hp,rfl,hs.flatten.length_le.trans hl,ht⟩
    · rintro r ⟨xs,x,hx,rfl,hlen,hsafe⟩
      have hf := prefix_fitting_of_length hx hlen
      rw [he] at hf
      exact (prefix_of_safe hf hsafe hvs).flatten.length_le
  · right
    rw [hu]
    refine ⟨?_,⟨_,hp,rfl,hl⟩,?_⟩
    · rintro r ⟨xs,x,hx,rfl,hlen,hsafe⟩
      have hf := prefix_fitting_of_length hx hlen
      rw [hn x (hf.subset (by simp))] at hsafe
      cases hsafe
    · rintro r ⟨xs,hx,rfl,hlen⟩
      exact (prefix_fitting_of_length hx hlen).flatten.length_le

end

/-! ## The result -/

/-- In a markup whose brackets close, only blanks go at the end of the run. -/
theorem keptPart_eq {s : List Char} (h : BracketsClose s) (budget : ℕ) :
    keptPart budget s =
      trimEnd (upToSafeBoundary (fitting budget (tokens s))).flatten := by
  have hp := (prefix_upToSafeBoundary (fitting budget (tokens s))).trans (prefix_fitting budget _)
  obtain ⟨after,ha⟩ := hp
  have hc := clean_tokens ha.symm
  rw [← flatten_tokens s,← ha,List.flatten_append] at h
  rw [keptPart,dropDanglingTag_eq ((bracketsClose_iff _).mp (h.left hc.tag))]

theorem trimEnd_isPrefix (s : List Char) : trimEnd s <+: s := by
  obtain ⟨blanks,h,-⟩ := exists_trimEnd s
  exact ⟨blanks,h.symm⟩

/-- Blanks at the end of a markup change nothing about the tags that are open there. -/
theorem openTags_trimEnd (s : List Char) : openTags (trimEnd s) = openTags s := by
  obtain ⟨blanks,h,hb⟩ := exists_trimEnd s
  have hn : '<' ∉ blanks := fun hm => absurd (hb _ hm) (by decide)
  have hg : '>' ∉ blanks := fun hm => absurd (hb _ hm) (by decide)
  have hs : ';' ∉ blanks := fun hm => absurd (hb _ hm) (by decide)
  conv_rhs => rw [h,openTags_eq,tags_append (Clean.before_text _ hg hs).tag,tags_of_unopened hn,
    List.append_nil]
  rw [openTags_eq]

theorem withMarker_eq (s : List Char) :
    withMarker s = s ++ if "[...]".toList <:+ s then [] else " [...]".toList := by
  unfold withMarker truncationMarker endsWith
  by_cases h : "[...]".toList <:+ s
  · rw [if_pos h,if_pos (List.isSuffixOf_iff_suffix.mpr h),List.append_nil]
  · rw [if_neg h,if_neg (mt List.isSuffixOf_iff_suffix.mp h)]

/-- A markup that is too long keeps exactly one run. Without the blanks at its end the run is a
prefix of the markup that fits the budget. It is followed by the tags that close what it leaves
open, and by the marker unless it ends in one already. -/
theorem truncate_kept {s : List Char} (h : BracketsClose s) {budget : ℕ}
    (hl : budget < s.length) :
    (∃! q, KeptRun budget s q) ∧ ∀ q, KeptRun budget s q →
      trimEnd q <+: s ∧ (trimEnd q).length ≤ budget ∧ openTags (trimEnd q) = openTags q ∧
        truncate budget s =
          trimEnd q ++ closingTags (openTags (trimEnd q)) ++
            if "[...]".toList <:+ trimEnd q ++ closingTags (openTags (trimEnd q)) then []
            else " [...]".toList := by
  have hk := keptRun_found budget s
  refine ⟨⟨_,hk,fun r hr => hk.unique hr⟩,fun q hq => ?_⟩
  obtain rfl := hk.unique hq
  have hp := trimEnd_isPrefix (upToSafeBoundary (fitting budget (tokens s))).flatten
  refine ⟨hp.trans hq.fits.isPrefix,hp.length_le.trans hq.fits.length_le,openTags_trimEnd _,?_⟩
  rw [truncate,if_neg (by omega),withMarker_eq,keptPart_eq h]
  rfl

/-- Text in italics that is cut off, behind bold text and a blank that may end a message. -/
theorem truncate_kept_bold :
    BracketsClose "<b>one</b> <i>two three</i>".toList ∧
      16 < "<b>one</b> <i>two three</i>".toList.length ∧
      KeptRun 16 "<b>one</b> <i>two three</i>".toList "<b>one</b> ".toList ∧
      truncate 16 "<b>one</b> <i>two three</i>".toList = "<b>one</b> [...]".toList := by
  have hb : BracketsClose "<b>one</b> <i>two three</i>".toList := by decide +kernel
  have hl : 16 < "<b>one</b> <i>two three</i>".toList.length := by decide
  have hq : KeptRun 16 "<b>one</b> <i>two three</i>".toList "<b>one</b> ".toList := by
    have hf := keptRun_found 16 "<b>one</b> <i>two three</i>".toList
    have he : (upToSafeBoundary (fitting 16 (tokens "<b>one</b> <i>two three</i>".toList))).flatten =
        "<b>one</b> ".toList := by decide +kernel
    rwa [he] at hf
  refine ⟨hb,hl,hq,?_⟩
  rw [((truncate_kept hb hl).2 _ hq).2.2.2]
  decide +kernel

end ChatMarkup.Markup
