import ChatMarkup.Proofs.SourceTable.Layouts
import ChatMarkup.Proofs.SourceTable.Segments

/-!
# Fenced code

Code is fenced by runs of backticks or tildes. A line opens code if nothing but its info stands
behind such a run, with no backtick in it if the run is one of backticks, and a line closes code if
nothing but spaces and tabs stand behind a run of the same kind that is no shorter.

The pass that writes tables as lists looks at the runs alone. Where both agree on every fence, and
no line that opens code could be taken for a row of a table above it, all lines of code are kept in
order. Where they do not agree, code may be taken for text, and a table in it is written as a list.
-/
namespace ChatMarkup.SourceTable
open Text

/-- What stands behind the run at the start of a line. -/
def behindRun (line : List Char) : List Char :=
  match dropUpTo 3 (· == ' ') line with
  | c :: rest => rest.dropWhile (· == c)
  | [] => []

def opening? (line : List Char) : Option Fence :=
  (fenceAt? line).filter fun fence => fence.mark == '~' || !(behindRun line).contains '\x60'

def closes (opener : Fence) (line : List Char) : Bool :=
  (fenceAt? line).any fun fence =>
    fence.ends opener && (behindRun line).all fun c => c == ' ' || c == '\t'

/-- The fence of the code that goes on behind a line, given that of the code before it. -/
def codeBehind (open? : Option Fence) (line : List Char) : Option Fence :=
  match open? with
  | none => opening? line
  | some opener => if closes opener line then none else some opener

/-- The lines inside of fenced code: code is open before them and goes on behind them. -/
def codeLines : Option Fence → List (List Char) → List (List Char)
  | _, [] => []
  | open?, line :: rest =>
    let behind? := codeBehind open? line
    if open?.isSome && behind?.isSome then line :: codeLines behind? rest
    else codeLines behind? rest

/-- Each line leaves the same fence open for the pass that writes lists, and no line that opens code
could be a row of a table. -/
def FencesAgree : Option Fence → List (List Char) → Prop :=
  AtEach codeBehind fun open? line _ => fenceBehind open? line = codeBehind open? line ∧
    (open? = none → (opening? line).isSome = true → isRow line = false)

instance (open? : Option Fence) (lines : List (List Char)) : Decidable (FencesAgree open? lines) :=
  inferInstanceAs (Decidable (AtEach ..))

def keptLines : List Segment → List (List Char)
  | [] => []
  | .kept line :: rest => line :: keptLines rest
  | .table .. :: rest => keptLines rest

/-! ## Code and tables -/

theorem eq_of_mem_optional {c d : Char} {s : List Char} (hs : s ∈ [[],[d]]) (hc : c ∈ s) :
    c = d := by
  rcases List.mem_pair.mp hs with rfl | rfl
  · exact absurd hc List.not_mem_nil
  · exact List.mem_singleton.mp hc

theorem takeWhile_dash (s : List Char) :
    (∀ c ∈ s.takeWhile (· == '-'), c = '-') ∧
      s = s.takeWhile (· == '-') ++ s.drop (s.takeWhile (· == '-')).length := by
  constructor
  · exact fun c hc => beq_iff_eq.mp (List.mem_takeWhile_imp hc (p := (· == '-')))
  · nth_rewrite 1 [← List.take_append_drop (s.takeWhile (· == '-')).length s]
    rw [← List.prefix_iff_eq_take.mp (List.takeWhile_prefix (· == '-'))]

theorem exists_dashes {s : List Char} (h : isSeparatorCell s = true) :
    ∃ lead ∈ [[],[':']], ∃ dashes, (∀ c ∈ dashes, c = '-') ∧ ∃ trail ∈ [[],[':']],
      trim s = lead ++ (dashes ++ trail) := by
  unfold isSeparatorCell at h
  split at h
  · rename_i rest he
    obtain ⟨hd,hr⟩ := takeWhile_dash rest
    simp only [Bool.and_eq_true,Bool.or_eq_true,beq_iff_eq] at h
    refine ⟨[':'],by simp,_,hd,_,List.mem_pair.mpr h.2,?_⟩
    rw [he,← hr,List.singleton_append]
  · obtain ⟨hd,hr⟩ := takeWhile_dash (trim s)
    simp only [Bool.and_eq_true,Bool.or_eq_true,beq_iff_eq] at h
    refine ⟨[],by simp,_,hd,_,List.mem_pair.mpr h.2,?_⟩
    rw [← hr,List.nil_append]

theorem mem_of_isSeparatorCell {s : List Char} (h : isSeparatorCell s = true) {c : Char}
    (hc : c ∈ s) : isBlank c = true ∨ c ∈ [':','-'] := by
  obtain ⟨lead,hl,dashes,hd,trail,ht,he⟩ := exists_dashes h
  rcases mem_trim hc with hc | hb
  · right
    rw [he,List.mem_append,List.mem_append] at hc
    rw [List.mem_pair]
    rcases hc with hc | hc | hc
    · exact .inl (eq_of_mem_optional hl hc)
    · exact .inr (hd c hc)
    · exact .inl (eq_of_mem_optional ht hc)
  · exact .inl hb

/-- Each piece of a separator is a cell; only the last one may be blank. -/
theorem cell_or_blank {pieces : List (List Char)}
    (h : (if (trim (pieces.getLast?.getD [])).isEmpty then pieces.dropLast else pieces).all
      isSeparatorCell = true) :
    ∀ piece ∈ pieces, isSeparatorCell piece = true ∨ trim piece = [] := by
  intro piece hp
  split_ifs at h with hb
  · rcases List.eq_nil_or_concat' pieces with rfl | ⟨before,last,rfl⟩
    · exact absurd hp List.not_mem_nil
    rw [List.dropLast_concat] at h
    rw [List.getLast?_concat,Option.getD_some,List.isEmpty_iff] at hb
    rcases List.mem_append.mp hp with hp | hp
    · exact .inl (List.all_eq_true.mp h piece hp)
    · exact .inr (List.mem_singleton.mp hp ▸ hb)
  · exact .inl (List.all_eq_true.mp h piece hp)

theorem exists_pieces {line : List Char} (h : isSeparator line = true) :
    ∃ lead ∈ [[],['|']], ∃ pieces, trim line = lead ++ ['|'].intercalate pieces ∧
      ∀ piece ∈ pieces, isSeparatorCell piece = true ∨ trim piece = [] := by
  unfold isSeparator at h
  split at h
  · rename_i rest he
    have hp := cell_or_blank (Bool.and_eq_true_iff.mp h).2
    refine ⟨['|'],by simp,splitAt '|' rest,?_,hp⟩
    rw [he,intercalate_splitAt,List.singleton_append]
  · have hp := cell_or_blank (Bool.and_eq_true_iff.mp h).2
    refine ⟨[],by simp,splitAt '|' (trim line),?_,hp⟩
    rw [intercalate_splitAt,List.nil_append]

/-- A separator holds nothing but blanks, bars, colons and dashes. -/
theorem mem_of_isSeparator {line : List Char} (h : isSeparator line = true) {c : Char}
    (hc : c ∈ line) : isBlank c = true ∨ c ∈ ['|',':','-'] := by
  obtain ⟨lead,hl,pieces,he,hp⟩ := exists_pieces h
  rcases mem_trim hc with hc | hb
  · rw [he,List.mem_append] at hc
    rcases hc with hc | hc
    · exact .inr (eq_of_mem_optional hl hc ▸ List.mem_cons_self)
    rcases mem_intercalate hc with hc | ⟨piece,hm,hc⟩
    · exact .inr (List.mem_singleton.mp hc ▸ List.mem_cons_self)
    rcases hp piece hm with hp | hp
    · exact (mem_of_isSeparatorCell hp hc).imp id (List.mem_cons_of_mem _)
    · exact .inl ((mem_trim hc).resolve_left (by simp [hp]))
  · exact .inl hb

theorem dropUpTo_suffix (n : ℕ) (p : Char → Bool) (s : List Char) : dropUpTo n p s <:+ s := by
  induction s generalizing n with
  | nil => simp [dropUpTo]
  | cons c s ih =>
    cases n with
    | zero => exact List.suffix_rfl
    | succ n =>
      rw [dropUpTo]
      split_ifs
      · exact (ih n).trans (List.suffix_cons c s)
      · exact List.suffix_rfl

theorem fenceAt?_of_isSeparator {line : List Char} (h : isSeparator line = true) :
    fenceAt? line = none := by
  rw [fenceAt?]
  cases hd : dropUpTo 3 (· == ' ') line with
  | nil => rfl
  | cons c rest =>
    have hc : c ∈ line := (dropUpTo_suffix 3 _ line).subset (by rw [hd]; exact List.mem_cons_self)
    have hm : (c == '\x60' || c == '~') = false := by
      by_contra hm
      simp only [Bool.not_eq_false,Bool.or_eq_true,beq_iff_eq] at hm
      have hs := mem_of_isSeparator h hc
      rcases hm with rfl | rfl <;> exact absurd hs (by decide)
    dsimp only
    rw [hm,Bool.false_and,if_neg Bool.false_ne_true]

theorem opening?_eq_none {line : List Char} (h : fenceAt? line = none) : opening? line = none := by
  rw [opening?,h,Option.filter_none]

section
variable {open? : Option Fence} {line : List Char} {lines rest : List (List Char)}

theorem codeLines_sublist (open? : Option Fence) (lines : List (List Char)) :
    (codeLines open? lines).Sublist lines := by
  induction lines generalizing open? with
  | nil => exact .slnil
  | cons line lines ih =>
    rw [codeLines]
    split_ifs
    · exact (ih _).cons_cons line
    · exact (ih _).cons line

/-- Lines that open no code are passed over. -/
theorem codeLines_unopened (h : ∀ line ∈ lines, opening? line = none) :
    codeLines none (lines ++ rest) = codeLines none rest := by
  induction lines with
  | nil => rfl
  | cons line lines ih =>
    obtain ⟨hl,hr⟩ := List.forall_mem_cons.mp h
    rw [List.cons_append,codeLines,codeBehind,hl]
    exact ih hr

theorem fencesAgree_unopened (h : ∀ line ∈ lines, opening? line = none)
    (ha : FencesAgree none (lines ++ rest)) : FencesAgree none rest := by
  induction lines with
  | nil => exact ha
  | cons line lines ih =>
    obtain ⟨hl,hr⟩ := List.forall_mem_cons.mp h
    have hn := (atEach_cons.mp ha).2
    rw [codeBehind,hl] at hn
    exact ih hr hn

theorem opening?_rows (hr : ∀ row ∈ lines, isRow row = true)
    (ha : FencesAgree none (lines ++ rest)) : ∀ row ∈ lines, opening? row = none := by
  induction lines with
  | nil => simp
  | cons row lines ih =>
    obtain ⟨hrow,hr⟩ := List.forall_mem_cons.mp hr
    obtain ⟨⟨-,hp⟩,hn⟩ := atEach_cons.mp ha
    have ho : opening? row = none := by
      by_contra hs
      exact absurd hrow (by simp [hp rfl (Option.isSome_iff_ne_none.mpr hs)])
    rw [codeBehind,ho] at hn
    exact List.forall_mem_cons.mpr ⟨ho,ih hr hn⟩

/-- Code is kept by the pass that writes lists. -/
theorem codeLines_sublist_keptLines {segments : List Segment} (h : IsCut open? segments)
    (ha : FencesAgree open? (linesOf segments)) :
    (codeLines open? (linesOf segments)).Sublist (keptLines segments) := by
  induction segments generalizing open? with
  | nil => exact .slnil
  | cons segment segments ih =>
    obtain ⟨hp,hs⟩ := atEach_cons.mp h
    cases segment with
    | kept line =>
      obtain ⟨⟨hf,-⟩,hn⟩ := atEach_cons.mp ha
      have hi := ih (by rw [← hf]; exact hs) hn
      have hl : linesOf (.kept line :: segments) = line :: linesOf segments := rfl
      rw [hl,codeLines,keptLines]
      split_ifs
      · exact hi.cons_cons line
      · exact hi.cons line
    | table header separator rows =>
      -- No line of a table opens code, so what is behind it is read as if it were not there.
      obtain ⟨hc,ht⟩ := hp
      obtain ⟨rfl,hf⟩ := inCode_eq_false_iff.mp hc
      have hl : linesOf (.table header separator rows :: segments) =
        [header,separator] ++ (rows ++ linesOf segments) := rfl
      have hm : isSeparator separator = true := by
        have hstarts := ht.starts
        rw [startsTable,Bool.and_eq_true,Bool.and_eq_true] at hstarts
        exact hstarts.1.2
      have hu : ∀ line ∈ [header,separator], opening? line = none := by
        refine List.forall_mem_cons.mpr ⟨?_,List.forall_mem_singleton.mpr ?_⟩
        · exact opening?_eq_none hf
        · exact opening?_eq_none (fenceAt?_of_isSeparator hm)
      rw [hl] at ha ⊢
      have hr := fencesAgree_unopened hu ha
      have ho := opening?_rows ht.rows hr
      rw [codeLines_unopened hu,codeLines_unopened ho]
      exact ih hs (fencesAgree_unopened ho hr)

end

/-! ## Lines of texts with lists -/

theorem splitBars_subset {escaped : Bool} {s : List Char} :
    ∀ piece ∈ splitBars escaped s, piece ⊆ s := by
  fun_induction splitBars escaped s with
  | case1 => simp
  | case2 escaped c rest _ ih =>
    refine List.forall_mem_cons.mpr ⟨List.nil_subset _,fun piece hp => ?_⟩
    exact List.subset_cons_of_subset c (ih piece hp)
  | case3 => simp
  | case4 escaped c rest _ piece pieces hs ih =>
    rw [hs,List.forall_mem_cons] at ih
    refine List.forall_mem_cons.mpr ⟨List.cons_subset_cons c ih.1,fun piece hp => ?_⟩
    exact List.subset_cons_of_subset c (ih.2 piece hp)

theorem unescapeBars_subset (s : List Char) : unescapeBars s ⊆ s := by
  fun_induction unescapeBars s with
  | case1 rest ih => exact List.subset_cons_of_subset _ (List.cons_subset_cons _ ih)
  | case2 c rest _ ih => exact List.cons_subset_cons c ih
  | case3 => exact List.Subset.refl []

theorem withoutOuterBars_subset (s : List Char) : withoutOuterBars s ⊆ s := by
  have hd (t : List Char) :
      (if endsWith ['|'] t && !endsWith ['\\','|'] t then t.dropLast else t) ⊆ t := by
    split_ifs
    · exact List.dropLast_subset t
    · exact List.Subset.refl t
  unfold withoutOuterBars
  split
  · exact List.subset_cons_of_subset _ (hd _)
  · exact hd s

/-- Each character of a cell is one of its line. -/
theorem cells_subset {line cell : List Char} (h : cell ∈ cells line) : cell ⊆ line := by
  obtain ⟨piece,hp,rfl⟩ := List.mem_map.mp h
  calc unescapeBars (trim piece)
    _ ⊆ trim piece := unescapeBars_subset _
    _ ⊆ piece := trim_subset piece
    _ ⊆ withoutOuterBars (trim line) := splitBars_subset piece hp
    _ ⊆ trim line := withoutOuterBars_subset _
    _ ⊆ line := trim_subset line

section
variable {mode : TableMode} {includeHeaders : Bool}

theorem keptLines_sublist_layOut (written : List (List Char)) (segments : List Segment) :
    (written ++ keptLines segments).Sublist (layOut mode includeHeaders written segments) := by
  induction segments generalizing written with
  | nil =>
    rw [keptLines,layOut,List.append_nil]
  | cons segment segments ih =>
    cases segment with
    | kept line =>
      rw [keptLines,layOut,List.append_cons]
      exact ih _
    | table header separator rows =>
      rw [keptLines,layOut]
      refine List.Sublist.trans ?_ (ih _)
      apply List.Sublist.append_right
      simp only [List.append_assoc]
      exact List.sublist_append_left _ _

theorem oneLine_tableItems {header : List Char} {rows : List (List Char)}
    (h : ∀ line ∈ header :: rows, '\n' ∉ line) :
    ∀ item ∈ tableItems mode includeHeaders (cells header) (rows.map cells), '\n' ∉ item := by
  rw [tableItems_eq]
  refine List.forall_mem_map.mpr fun entry he => (oneLine_tableEntries ?_ entry he).inSource
  rw [← List.map_cons]
  refine List.forall_mem_map.mpr fun line hl cell hc hm => h line hl (cells_subset hc hm)

theorem oneLine_gapAfter (last? : Option (List Char)) : ∀ line ∈ gapAfter last?, '\n' ∉ line := by
  cases last? with
  | none => simp [gapAfter]
  | some last =>
    rw [gapAfter]
    split_ifs <;> simp

theorem oneLine_layOut {written : List (List Char)} {segments : List Segment}
    (hw : ∀ line ∈ written, '\n' ∉ line) (h : ∀ line ∈ linesOf segments, '\n' ∉ line) :
    ∀ line ∈ layOut mode includeHeaders written segments, '\n' ∉ line := by
  induction segments generalizing written with
  | nil => exact hw
  | cons segment segments ih =>
    have hl : linesOf (segment :: segments) = segment.lines ++ linesOf segments := rfl
    rw [hl,List.forall_mem_append] at h
    cases segment with
    | kept line => exact ih (List.forall_mem_append.mpr ⟨hw,h.1⟩) h.2
    | table header separator rows =>
      have ht : ∀ line ∈ header :: rows, '\n' ∉ line := by
        intro line hm
        apply h.1 line
        rcases List.mem_cons.mp hm with rfl | hm
        · exact List.mem_cons_self
        · exact List.mem_cons_of_mem _ (List.mem_cons_of_mem _ hm)
      refine ih ?_ h.2
      simp only [List.forall_mem_append]
      exact ⟨⟨⟨hw,oneLine_gapAfter _⟩,oneLine_tableItems ht⟩,oneLine_gapAfter _⟩

end

/-- Where the fences agree, the lines inside of fenced code are lines of the text with lists, in the
same order. -/
theorem codeLines_kept (mode : TableMode) (includeHeaders : Bool) {s : List Char}
    (h : FencesAgree none (splitAt '\n' s)) :
    (codeLines none (splitAt '\n' s)).Sublist
      (splitAt '\n' (toLists mode includeHeaders s)) := by
  by_cases hm : mode = .codeBlock
  · subst hm
    exact codeLines_sublist none _
  obtain ⟨segments,he,hc⟩ := exists_cut none (splitAt '\n' s)
  have hl : ∀ line ∈ layOut mode includeHeaders [] segments, '\n' ∉ line :=
    oneLine_layOut (by simp) (he ▸ notMem_of_mem_splitAt)
  have hk : (codeLines none (splitAt '\n' s)).Sublist (layOut mode includeHeaders [] segments) := by
    rw [← he] at h ⊢
    exact (codeLines_sublist_keptLines hc h).trans (keptLines_sublist_layOut [] segments)
  rw [toLists_eq_layOut hm includeHeaders he hc]
  by_cases hn : layOut mode includeHeaders [] segments = []
  · rw [hn] at hk
    rw [List.sublist_nil.mp hk]
    exact List.nil_sublist _
  · rw [splitAt_intercalate hl hn]
    exact hk

example : FencesAgree none
    (splitAt '\n' "~~~ x\n```\n| A |\n|---|\n~~~\n| A |\n|---|\n| ``` |".toList) := by
  decide +kernel

def misreadText : List Char := "```\n``` x\n| A | B |\n|---|---|\n| 1 | 2 |\n```".toList

/-- Such a run is no end of the code, but it is taken for one, and the table behind it is lost. -/
theorem codeLines_misread :
    ¬FencesAgree none (splitAt '\n' misreadText) ∧
    ¬(codeLines none (splitAt '\n' misreadText)).Sublist
      (splitAt '\n' (toLists .compactList true misreadText)) := by
  constructor
  · decide +kernel
  · decide +kernel

end ChatMarkup.SourceTable
