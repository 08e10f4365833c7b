import ChatMarkup.Proofs.Markup.Budget
import ChatMarkup.Proofs.Markup.Truncation

/-!
# The first cut

Truncation looks at the run of tokens that fits, all at once, and goes back to the last safe token
in it. A splitter takes in one token after the other and remembers where the last safe one ended.
Until the first cut the two agree: the buffer is the run that was read, the mark is the end of its
last safe token, and the token at which the buffer overflows is the one that ends the run. So where
a safe token fits at all, a truncated markup ends where the first message does.
-/
namespace ChatMarkup.Markup
open Text

/-! ## Where the last safe token ends -/

/-- The end of the last safe token of a row, if there is one. -/
def safeEnd? (ts : List (List Char)) : Option ℕ :=
  if ts.any isSafeBoundary then some (upToSafeBoundary ts).flatten.length else none

theorem upToSafeBoundary_concat_self {t : List Char} (h : isSafeBoundary t = true)
    (ts : List (List Char)) : upToSafeBoundary (ts ++ [t]) = ts ++ [t] := by
  simp [upToSafeBoundary,h]

theorem upToSafeBoundary_concat_other {t : List Char} (h : isSafeBoundary t = false)
    {ts : List (List Char)} (hs : ts.any isSafeBoundary = true) :
    upToSafeBoundary (ts ++ [t]) = upToSafeBoundary ts := by
  have hd : (ts.reverse.dropWhile fun t => !isSafeBoundary t) ≠ [] := by
    obtain ⟨u,hu,hsafe⟩ := List.any_eq_true.mp hs
    intro he
    have hn := List.dropWhile_eq_nil_iff.mp he u (List.mem_reverse.mpr hu)
    simp [hsafe] at hn
  obtain ⟨u,us,hus⟩ := List.exists_cons_of_ne_nil hd
  simp [upToSafeBoundary,h,hus]

/-- A safe token moves the mark to its own end; any other leaves it where it is. -/
theorem safeEnd?_concat (ts : List (List Char)) (t : List Char) :
    safeEnd? (ts ++ [t]) =
      if isSafeBoundary t then some (ts ++ [t]).flatten.length else safeEnd? ts := by
  cases ht : isSafeBoundary t with
  | true => simp [safeEnd?,ht,upToSafeBoundary_concat_self ht]
  | false =>
    cases hs : ts.any isSafeBoundary with
    | true =>
      rw [safeEnd?,safeEnd?,List.any_append,hs,upToSafeBoundary_concat_other ht hs]
      simp
    | false =>
      rw [safeEnd?,safeEnd?,List.any_append,hs]
      simp [ht]

/-! ## The splitter before its first cut -/

/-- A token that fits goes into the buffer, and is marked if it is safe. -/
theorem Splitter.add_of_fits {b : Splitter} {t : List Char}
    (h : (b.buffer ++ t).length ≤ b.budget) :
    b.add t = { b with
      buffer := b.buffer ++ t
      lastSafe := if isSafeBoundary t then some (b.buffer ++ t).length else b.lastSafe } := by
  have hp : b.place t = { b with buffer := b.buffer ++ t } := if_neg (by omega)
  have he : endsWith t (b.buffer ++ t) = true :=
    List.isSuffixOf_iff_suffix.mpr (List.suffix_append b.buffer t)
  unfold Splitter.add
  rw [hp]
  dsimp only
  rw [he,Bool.and_true]
  split_ifs <;> rfl

/-- Until the first cut the buffer is the run that was read, and the mark the end of its last safe
token. -/
theorem Splitter.foldl_add_of_fits {budget : ℕ} {ts : List (List Char)}
    (h : ts.flatten.length ≤ budget) :
    ts.foldl add { budget } = { budget, buffer := ts.flatten, lastSafe := safeEnd? ts } := by
  -- tokens are taken in behind the row so far, so the induction takes them off the end
  induction ts using List.reverseRecOn with
  | nil => rfl
  | append_singleton ts t ih =>
    rw [List.flatten_append,List.flatten_singleton] at h
    have hts : ts.flatten.length ≤ budget := by
      rw [List.length_append] at h
      omega
    rw [List.foldl_append,List.foldl_cons,List.foldl_nil,ih hts,add_of_fits h,safeEnd?_concat]
    simp

/-! ## The first token that does not fit -/

/-- A row over the budget has a first token that does not fit behind those before it. -/
theorem exists_overflow {budget : ℕ} {ts : List (List Char)} (h : budget < ts.flatten.length) :
    ∃ t rest, ts = fitting budget ts ++ t :: rest ∧
      budget < ((fitting budget ts).flatten ++ t).length := by
  induction ts generalizing budget with
  | nil => simp at h
  | cons u us ih =>
    rw [List.flatten_cons,List.length_append] at h
    unfold fitting
    split_ifs with hu
    · have hr : budget - u.length < us.flatten.length := by omega
      obtain ⟨t,rest,he,hlt⟩ := ih hr
      refine ⟨t,rest,by rw [List.cons_append,← he],?_⟩
      simp only [List.flatten_cons,List.length_append] at hlt ⊢
      omega
    · exact ⟨u,us,rfl,by simpa using hu⟩

/-- A run that ends safely and fits leaves a safe token among those that are read before the first
cut, and the mark behind the start. -/
theorem SafeRun.safeEnd?_eq {budget : ℕ} {s r : List Char} (h : SafeRun budget s r) :
    safeEnd? (fitting budget (tokens s)) =
        some (upToSafeBoundary (fitting budget (tokens s))).flatten.length ∧
      (upToSafeBoundary (fitting budget (tokens s))).flatten ≠ [] := by
  obtain ⟨ts,t,hp,rfl,hl,ht⟩ := h
  have hf : ts ++ [t] <+: fitting budget (tokens s) := prefix_fitting_of_length hp hl
  have hs : (fitting budget (tokens s)).any isSafeBoundary = true :=
    List.any_eq_true.mpr ⟨t,hf.subset (by simp),ht⟩
  refine ⟨by rw [safeEnd?,if_pos hs],?_⟩
  -- the run that is found is no shorter than this one, and no token is empty
  have hle : (ts ++ [t]).flatten.length ≤
      (upToSafeBoundary (fitting budget (tokens s))).flatten.length := by
    rcases keptRun_found budget s with hk | ⟨hn,-⟩
    · exact hk.2 _ ⟨ts,t,hp,rfl,hl,ht⟩
    · exact absurd ⟨ts,t,hp,rfl,hl,ht⟩ (hn _)
  have hne : t ≠ [] := ne_nil_of_mem_tokens (s := s) (hp.subset (by simp))
  have hpos := List.length_pos_iff.mpr hne
  rw [List.flatten_append,List.flatten_singleton,List.length_append] at hle
  exact List.length_pos_iff.mp (by omega)

/-- A token that does not fit ends the first fragment at the mark. -/
theorem Splitter.addCuts_of_overflow {b : Splitter} {t x : List Char} (h₀ : b.carried = 0)
    (ho : b.budget < (b.append t).buffer.length) (hs : b.lastSafe = some x.length) (hx : x ≠ [])
    (hp : x <+: b.buffer) : ∃ rest, b.addCuts t = ⟨[],x⟩ :: rest := by
  have hc : b.cutPlace (b.append t).buffer = x.length := by
    simp [cutPlace,hs,h₀,List.length_pos_iff.mpr hx]
  have hf : (b.append t).fragment x.length = ⟨[],x⟩ := by
    obtain ⟨z,hz⟩ := hp
    simp [fragment,append,h₀,← hz]
  refine ⟨((b.append t).cutAt x.length).shrinkCuts,?_⟩
  rw [addCuts,if_pos ho,hc,hf]

/-- The first fragment takes the run up to the last safe token that fits. -/
theorem Splitter.cuts_tokens {budget : ℕ} {s : List Char} (hl : budget < s.length)
    (hs : ∃ r, SafeRun budget s r) :
    ∃ rest, cuts { budget } (tokens s) =
      ⟨[],(upToSafeBoundary (fitting budget (tokens s))).flatten⟩ :: rest := by
  obtain ⟨r,hr⟩ := hs
  obtain ⟨hsafe,hpos⟩ := hr.safeEnd?_eq
  obtain ⟨t,us,he,hover⟩ := exists_overflow (flatten_tokens s ▸ hl)
  have hfits := length_fitting budget (tokens s)
  have hp := (prefix_upToSafeBoundary (fitting budget (tokens s))).flatten
  have hne : ∀ u ∈ fitting budget (tokens s), u ≠ [] := fun u hu =>
    ne_nil_of_mem_tokens ((prefix_fitting budget (tokens s)).subset hu)
  -- all that counts from here on is that the row fits, and that the next token does not
  generalize fitting budget (tokens s) = ts at *
  rw [he,cuts_append,cuts_eq_nil hne hfits,foldl_add_of_fits hfits,hsafe,List.nil_append,cuts]
  obtain ⟨rest,hrest⟩ := addCuts_of_overflow (b := ⟨budget,[],ts.flatten,0,some _⟩) rfl hover rfl
    hpos hp
  rw [hrest]
  exact ⟨_,rfl⟩

/-- The fragment that is cut off first is the first message, balanced, if it shows anything. -/
theorem split_of_cuts {budget : ℕ} {s : List Char} {f : Fragment} {fs : List Fragment}
    (h : Splitter.cuts { budget } (tokens s) = f :: fs) :
    ∃ later, split budget s = [balance f.text].filter hasVisibleContent ++ later := by
  have hm := (accounts_tokens budget s).messages
  rw [h,List.map_cons,← List.singleton_append,List.filter_append] at hm
  rw [split,finish_eq,hm,List.append_assoc]
  exact ⟨_,rfl⟩

/-- Truncation ends a markup where the first cut of a split does, if a run of whole tokens fits that
ends at a safe boundary. What is kept is the content of the first fragment without the blanks at its
end, with the tags closed that this fragment leaves open, and marked. The fragment itself is the
first message, unless it shows nothing. -/
theorem truncate_first_cut {s : List Char} (h : BracketsClose s) {budget : ℕ}
    (hl : budget < s.length) (hs : ∃ r, SafeRun budget s r) :
    ∃ f rest, Splitter.cuts { budget } (tokens s) = f :: rest ∧ f.reopened = [] ∧
      (∃ later, split budget s = [balance f.text].filter hasVisibleContent ++ later) ∧
      truncate budget s =
        trimEnd f.content ++ closingTags (openTags f.text) ++
          if "[...]".toList <:+ trimEnd f.content ++ closingTags (openTags f.text) then []
          else " [...]".toList := by
  obtain ⟨rest,hc⟩ := Splitter.cuts_tokens hl hs
  refine ⟨_,rest,hc,rfl,split_of_cuts hc,?_⟩
  rw [truncate,if_neg (by omega),withMarker_eq,keptPart_eq h,balance,openTags_trimEnd]
  rfl

/-- Bold text and a blank are cut off; the blank stays in the message only. -/
theorem truncate_first_cut_bold :
    BracketsClose "<b>one</b> <i>two three</i>".toList ∧
      16 < "<b>one</b> <i>two three</i>".toList.length ∧
      SafeRun 16 "<b>one</b> <i>two three</i>".toList "<b>one</b> ".toList ∧
      ∃ f rest, Splitter.cuts { budget := 16 } (tokens "<b>one</b> <i>two three</i>".toList) =
          f :: rest ∧ f = ⟨[],"<b>one</b> ".toList⟩ ∧
        truncate 16 "<b>one</b> <i>two three</i>".toList = "<b>one</b> [...]".toList := by
  have hb : BracketsClose "<b>one</b> <i>two three</i>".toList := by decide +kernel
  have hl : 16 < "<b>one</b> <i>two three</i>".toList.length := by decide
  have hr : SafeRun 16 "<b>one</b> <i>two three</i>".toList "<b>one</b> ".toList := by
    have ht : tokens "<b>one</b> <i>two three</i>".toList =
        ["<b>".toList,"one".toList,"</b>".toList] ++ [" ".toList] ++
          ["<i>".toList,"two three".toList,"</i>".toList] := by decide +kernel
    refine ⟨["<b>".toList,"one".toList,"</b>".toList]," ".toList,⟨_,ht.symm⟩,?_,?_,?_⟩ <;>
      decide +kernel
  obtain ⟨f,rest,hc,-,-,ht⟩ := truncate_first_cut hb hl ⟨_,hr⟩
  have hf : (Splitter.cuts { budget := 16 } (tokens "<b>one</b> <i>two three</i>".toList)).head? =
      some ⟨[],"<b>one</b> ".toList⟩ := by decide +kernel
  rw [hc] at hf
  obtain rfl := Option.some.inj hf
  refine ⟨hb,hl,hr,_,rest,hc,rfl,?_⟩
  rw [ht]
  decide +kernel

end ChatMarkup.Markup
