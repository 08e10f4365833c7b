import ChatMarkup.Proofs.Text.Splitting
import ChatMarkup.SourceTable.Listing
import Mathlib.Data.List.Basic
import Mathlib.Data.List.TakeWhile
import Mathlib.Tactic.SplitIfs

/-!
# Tables among lines

The lines of a text come apart into tables and lines that are kept. A table is a header, a separator
with as many cells and all rows that follow it, and it begins at the first line where one can:
neither in another table nor in fenced code. There is one way to take a text apart like this, and
writing its tables as lists keeps all its other lines, in order and each as it was. A list is set
apart by an empty line from a line before it and from a line behind it that are not blank.
-/
namespace ChatMarkup.SourceTable
open Text

/-- The property holds of each entry of a row, of what a fold makes of the entries before it, and of
the entries behind it. -/
def AtEach {α β : Type} (step : β → α → β) (holds : β → α → List α → Prop) (start : β)
    (row : List α) : Prop :=
  ∀ before entry after, row = before ++ entry :: after →
    holds (before.foldl step start) entry after

/-- The fence of code that is open behind a line, given the one that is open before it. -/
def fenceBehind (fence? : Option Fence) (line : List Char) : Option Fence :=
  match fence?, fenceAt? line with
  | some opener, some closer => if closer.ends opener then none else some opener
  | some opener, none => some opener
  | none, found? => found?

def inCode (fence? : Option Fence) (line : List Char) : Bool :=
  fence?.isSome || (fenceBehind fence? line).isSome

/-- A header, a separator and rows make up a table before the lines that follow. -/
structure IsTable (header separator : List Char) (rows after : List (List Char)) : Prop where
  starts : startsTable header separator = true
  rows : ∀ row ∈ rows, isRow row = true
  ends : ∀ next ∈ after.head?, isRow next = false

/-- The number of lines of the table that begins with the first line, if one does. -/
def tableLength? : List (List Char) → Option ℕ
  | header :: separator :: more =>
    if startsTable header separator then some (2 + (more.takeWhile isRow).length) else none
  | _ => none

inductive Segment where
  | kept (line : List Char)
  | table (header separator : List Char) (rows : List (List Char))

def Segment.lines : Segment → List (List Char)
  | .kept line => [line]
  | .table header separator rows => header :: separator :: rows

/-- Tables stand outside of code, whatever their rows look like. -/
def Segment.fenceBehind (fence? : Option Fence) : Segment → Option Fence
  | .kept line => SourceTable.fenceBehind fence? line
  | .table .. => fence?

def linesOf (segments : List Segment) : List (List Char) := segments.flatMap Segment.lines

/-- A segment stands where it may before the lines that follow: a table outside of code, and no line
where a table begins. -/
def Placed (fence? : Option Fence) (after : List (List Char)) : Segment → Prop
  | .kept line => inCode fence? line = false → ∀ separator rows rest,
      after = separator :: (rows ++ rest) → ¬IsTable line separator rows rest
  | .table header separator rows =>
    inCode fence? header = false ∧ IsTable header separator rows after

/-- Lines are cut into segments: each stands where it may, given the fence that the segments before
it leave open. -/
def IsCut : Option Fence → List Segment → Prop :=
  AtEach Segment.fenceBehind fun fence? segment after => Placed fence? (linesOf after) segment

/-- What is written for segments, behind the lines that are written already. -/
def layOut (mode : TableMode) (includeHeaders : Bool) :
    List (List Char) → List Segment → List (List Char)
  | written, [] => written
  | written, .kept line :: rest => layOut mode includeHeaders (written ++ [line]) rest
  | written, .table header _ rows :: rest =>
    layOut mode includeHeaders (written ++ gapAfter written.getLast? ++
      tableItems mode includeHeaders (cells header) (rows.map cells) ++
      gapAfter (linesOf rest).head?) rest

def HoldsTable (lines : List (List Char)) : Prop :=
  ∃ before header separator rows after, lines = before ++ header :: separator :: (rows ++ after) ∧
    inCode (before.foldl fenceBehind none) header = false ∧ IsTable header separator rows after

/-! ## Entries of a row -/

section
variable {α β : Type} {step : β → α → β} {holds : β → α → List α → Prop} {start : β}

theorem atEach_nil : AtEach step holds start [] := by
  intro before entry after h
  simp at h

theorem atEach_cons {entry : α} {row : List α} : AtEach step holds start (entry :: row) ↔
    holds start entry row ∧ AtEach step holds (step start entry) row := by
  constructor
  · intro h
    constructor
    · exact h [] entry row rfl
    · intro before other after he
      exact h (entry :: before) other after (by rw [he,List.cons_append])
  · rintro ⟨hp,h⟩ before other after he
    cases before with
    | nil =>
      obtain ⟨rfl,rfl⟩ := List.cons.inj he
      exact hp
    | cons first before =>
      obtain ⟨rfl,rfl⟩ := List.cons.inj he
      exact h before other after rfl

instance decidableAtEach [∀ start entry row, Decidable (holds start entry row)] :
    (start : β) → (row : List α) → Decidable (AtEach step holds start row)
  | _, [] => isTrue atEach_nil
  | start, entry :: row =>
    have := decidableAtEach (step start entry) row
    decidable_of_iff _ atEach_cons.symm

end

/-! ## Where tables begin -/

theorem inCode_eq_false_iff {fence? : Option Fence} {line : List Char} :
    inCode fence? line = false ↔ fence? = none ∧ fenceAt? line = none := by
  cases fence? with
  | none => simp [inCode,fenceBehind]
  | some opener => simp [inCode]

section
variable {header separator : List Char} {rows after : List (List Char)}

theorem IsTable.takeWhile_eq (h : IsTable header separator rows after) :
    (rows ++ after).takeWhile isRow = rows := by
  rw [List.takeWhile_append_of_pos h.rows]
  cases after with
  | nil => simp
  | cons next after => simp [h.ends next rfl]

theorem IsTable.dropWhile_eq (h : IsTable header separator rows after) :
    (rows ++ after).dropWhile isRow = after := by
  rw [List.dropWhile_append_of_pos h.rows]
  cases after with
  | nil => rfl
  | cons next after => simp [h.ends next rfl]

theorem isTable_takeWhile (h : startsTable header separator = true) (more : List (List Char)) :
    IsTable header separator (more.takeWhile isRow) (more.dropWhile isRow) := by
  constructor
  · exact h
  · exact fun _ => List.mem_takeWhile_imp
  · intro next hn
    have := List.head?_dropWhile_not isRow more
    rw [Option.mem_def.mp hn] at this
    simpa using this

theorem IsTable.tableLength?_eq (h : IsTable header separator rows after) :
    tableLength? (header :: separator :: (rows ++ after)) = some (2+rows.length) := by
  rw [tableLength?,if_pos h.starts,h.takeWhile_eq]

end

theorem tableLength?_eq_none_iff {line : List Char} {after : List (List Char)} :
    tableLength? (line :: after) = none ↔ ∀ separator rows rest,
      after = separator :: (rows ++ rest) → ¬IsTable line separator rows rest := by
  constructor
  · rintro h separator rows rest rfl ht
    cases h.symm.trans ht.tableLength?_eq
  · intro h
    cases after with
    | nil => rfl
    | cons separator more =>
      rw [tableLength?,if_neg]
      intro hs
      exact h separator _ _ (by rw [List.takeWhile_append_dropWhile]) (isTable_takeWhile hs more)

/-! ## Cuts -/

section
variable {fence? : Option Fence} {segments : List Segment} {header separator : List Char}
  {rows after : List (List Char)}

instance : Decidable (IsTable header separator rows after) :=
  decidable_of_iff (startsTable header separator = true ∧ (∀ row ∈ rows, isRow row = true) ∧
    ∀ next ∈ after.head?, isRow next = false)
    ⟨fun h => ⟨h.1,h.2.1,h.2.2⟩,fun h => ⟨h.starts,h.rows,h.ends⟩⟩

instance (after : List (List Char)) : (segment : Segment) → Decidable (Placed fence? after segment)
  | .kept line =>
    decidable_of_iff (inCode fence? line = false → tableLength? (line :: after) = none)
      (by rw [tableLength?_eq_none_iff]; rfl)
  | .table header separator rows =>
    inferInstanceAs (Decidable (_ ∧ IsTable header separator rows after))

instance : Decidable (IsCut fence? segments) := inferInstanceAs (Decidable (AtEach ..))

theorem exists_cut (fence? : Option Fence) (lines : List (List Char)) :
    ∃ segments, linesOf segments = lines ∧ IsCut fence? segments := by
  match lines with
  | [] => exact ⟨[],rfl,atEach_nil⟩
  | line :: after =>
    by_cases hl : inCode fence? line = false → tableLength? (line :: after) = none
    · obtain ⟨segments,rfl,hs⟩ := exists_cut (fenceBehind fence? line) after
      refine ⟨.kept line :: segments,rfl,atEach_cons.mpr ⟨?_,hs⟩⟩
      exact fun hc => tableLength?_eq_none_iff.mp (hl hc)
    · simp only [tableLength?_eq_none_iff] at hl
      push Not at hl
      obtain ⟨hc,separator,rows,rest,rfl,ht⟩ := hl
      obtain ⟨segments,rfl,hs⟩ := exists_cut fence? rest
      exact ⟨.table line separator rows :: segments,rfl,atEach_cons.mpr ⟨⟨hc,ht⟩,hs⟩⟩
termination_by lines.length

theorem IsCut.unique {other : List Segment} (h : IsCut fence? segments) (ho : IsCut fence? other)
    (he : linesOf segments = linesOf other) : segments = other := by
  induction segments generalizing fence? other with
  | nil =>
    cases other with
    | nil => rfl
    | cons segment other => cases segment <;> cases he
  | cons segment segments ih =>
    obtain ⟨hp,hs⟩ := atEach_cons.mp h
    cases other with
    | nil => cases segment <;> cases he
    | cons segment' other =>
      obtain ⟨hp',hs'⟩ := atEach_cons.mp ho
      cases segment with
      | kept line =>
        cases segment' with
        | kept line' =>
          obtain ⟨rfl,hl⟩ := List.cons.inj he
          rw [ih hs hs' hl]
        | table header separator rows =>
          obtain ⟨rfl,hl⟩ := List.cons.inj he
          exact absurd hp'.2 (hp hp'.1 _ _ _ hl)
      | table header separator rows =>
        cases segment' with
        | kept line' =>
          obtain ⟨rfl,hl⟩ := List.cons.inj he
          exact absurd hp.2 (hp' hp.1 _ _ _ hl.symm)
        | table header' separator' rows' =>
          obtain ⟨rfl,hl⟩ := List.cons.inj he
          obtain ⟨rfl,hm⟩ := List.cons.inj hl
          have hr := congrArg (List.takeWhile isRow) hm
          have ha := congrArg (List.dropWhile isRow) hm
          obtain rfl : rows = rows' := (hp.2.takeWhile_eq.symm.trans hr).trans hp'.2.takeWhile_eq
          rw [ih hs hs' ((hp.2.dropWhile_eq.symm.trans ha).trans hp'.2.dropWhile_eq)]

theorem isCut_kept {lines : List (List Char)} (h : ¬HoldsTable lines) :
    IsCut none (lines.map .kept) := by
  intro before segment after he
  obtain ⟨first,more,rfl,rfl,hm⟩ := List.map_eq_append_iff.mp he
  obtain ⟨line,rest,rfl,rfl,rfl⟩ := List.map_eq_cons_iff.mp hm
  rw [List.foldl_map]
  intro hc separator rows later hl ht
  refine h ⟨first,line,separator,rows,later,?_,hc,ht⟩
  rw [← hl]
  simp [linesOf,Segment.lines,List.flatMap_map]

end

/-! ## Writing tables as lists -/

section
variable {mode : TableMode} {includeHeaders : Bool} {fence? : Option Fence}
  {last? : Option (List Char)}

theorem listTables_kept {line : List Char} {after : List (List Char)}
    (h : inCode fence? line = false → tableLength? (line :: after) = none) :
    listTables mode includeHeaders fence? last? (line :: after) =
      line :: listTables mode includeHeaders (fenceBehind fence? line) (some line) after := by
  rw [listTables.eq_def,fenceBehind.eq_def]
  dsimp only
  cases fence? with
  | some opener => cases fenceAt? line <;> rfl
  | none =>
    cases hf : fenceAt? line with
    | some fence => rfl
    | none =>
      have hn := h (inCode_eq_false_iff.mpr ⟨rfl,hf⟩)
      cases after with
      | nil => simp [listTables]
      | cons separator more =>
        have hs : ¬startsTable line separator = true := by
          intro hs
          rw [tableLength?,if_pos hs] at hn
          cases hn
        dsimp only
        rw [if_neg hs]

theorem listTables_table {header separator : List Char} {rows after : List (List Char)}
    (hc : inCode fence? header = false) (ht : IsTable header separator rows after)
    {written : List (List Char)} (hw : written = gapAfter last? ++
      tableItems mode includeHeaders (cells header) (rows.map cells) ++ gapAfter after.head?) :
    listTables mode includeHeaders fence? last? (header :: separator :: (rows ++ after)) =
      written ++ listTables mode includeHeaders fence? (written.getLast?.or last?) after := by
  obtain ⟨rfl,hf⟩ := inCode_eq_false_iff.mp hc
  rw [listTables.eq_def]
  dsimp only
  rw [hf]
  dsimp only
  rw [if_pos ht.starts,ht.takeWhile_eq,ht.dropWhile_eq,hw]

theorem layOut_eq {segments : List Segment} (h : IsCut fence? segments)
    (written : List (List Char)) : layOut mode includeHeaders written segments =
      written ++ listTables mode includeHeaders fence? written.getLast? (linesOf segments) := by
  induction segments generalizing fence? written with
  | nil => simp [layOut,linesOf,listTables]
  | cons segment segments ih =>
    obtain ⟨hp,hs⟩ := atEach_cons.mp h
    cases segment with
    | kept line =>
      have hl : linesOf (.kept line :: segments) = line :: linesOf segments := rfl
      rw [layOut,ih hs,hl,listTables_kept fun hc => tableLength?_eq_none_iff.mpr (hp hc)]
      simp [Segment.fenceBehind]
    | table header separator rows =>
      have hl : linesOf (.table header separator rows :: segments) =
        header :: separator :: (rows ++ linesOf segments) := rfl
      rw [layOut,ih hs,hl,listTables_table hp.1 hp.2 rfl]
      simp [Segment.fenceBehind,List.getLast?_append]

theorem layOut_kept (written lines : List (List Char)) :
    layOut mode includeHeaders written (lines.map .kept) = written ++ lines := by
  induction lines generalizing written with
  | nil => simp [layOut]
  | cons line lines ih => rw [List.map_cons,layOut,ih,List.append_assoc,List.singleton_append]

end

theorem toLists_eq {mode : TableMode} (hm : mode ≠ .codeBlock) (includeHeaders : Bool)
    (s : List Char) : toLists mode includeHeaders s =
      ['\n'].intercalate (listTables mode includeHeaders none none (splitAt '\n' s)) := by
  cases mode with
  | codeBlock => exact absurd rfl hm
  | compactList => rfl
  | detailedList => rfl

theorem toLists_eq_layOut {mode : TableMode} (hm : mode ≠ .codeBlock) (includeHeaders : Bool)
    {s : List Char} {segments : List Segment} (hs : linesOf segments = splitAt '\n' s)
    (hc : IsCut none segments) : toLists mode includeHeaders s =
      ['\n'].intercalate (layOut mode includeHeaders [] segments) := by
  rw [toLists_eq hm,layOut_eq hc,hs]
  rfl

/-- The lines of a text are cut into segments in one way, and writing its tables as lists lays these
segments out. A text without tables is not changed. -/
theorem toLists_cut {mode : TableMode} (hm : mode ≠ .codeBlock) (includeHeaders : Bool)
    (s : List Char) :
    (∃! segments, linesOf segments = splitAt '\n' s ∧ IsCut none segments) ∧
    (∀ segments, linesOf segments = splitAt '\n' s → IsCut none segments →
      toLists mode includeHeaders s =
        ['\n'].intercalate (layOut mode includeHeaders [] segments)) ∧
    (¬HoldsTable (splitAt '\n' s) → toLists mode includeHeaders s = s) := by
  refine ⟨?_,fun segments hs hc => toLists_eq_layOut hm includeHeaders hs hc,?_⟩
  · obtain ⟨segments,hs,hc⟩ := exists_cut none (splitAt '\n' s)
    exact ⟨segments,⟨hs,hc⟩,fun other ho => ho.2.unique hc (ho.1.trans hs.symm)⟩
  · intro hn
    have hk : linesOf ((splitAt '\n' s).map .kept) = splitAt '\n' s := by
      simp [linesOf,Segment.lines,List.flatMap_map]
    rw [toLists_eq_layOut hm includeHeaders hk (isCut_kept hn),layOut_kept,List.nil_append,
      intercalate_splitAt]

def sampleText : List Char :=
  "Intro\n| A | B |\n|:--|--:|\n| 1 | 2 |\n~~~\n| x |\n|---|\n~~~\n".toList

def sampleSegments : List Segment :=
  [.kept "Intro".toList,.table "| A | B |".toList "|:--|--:|".toList ["| 1 | 2 |".toList],
    .kept "~~~".toList,.kept "| x |".toList,.kept "|---|".toList,.kept "~~~".toList,.kept []]

theorem toLists_cut_sampleText :
    TableMode.compactList ≠ .codeBlock ∧ linesOf sampleSegments = splitAt '\n' sampleText ∧
      IsCut none sampleSegments ∧ toLists .compactList true sampleText =
        ['\n'].intercalate (layOut .compactList true [] sampleSegments) ∧
      toLists .compactList true sampleText =
        "Intro\n\n- **1** – 2\n\n~~~\n| x |\n|---|\n~~~\n".toList := by
  have hs : linesOf sampleSegments = splitAt '\n' sampleText := by decide +kernel
  have hc : IsCut none sampleSegments := by decide +kernel
  refine ⟨by decide,hs,hc,?_,by decide +kernel⟩
  exact (toLists_cut (by decide) true sampleText).2.1 sampleSegments hs hc

end ChatMarkup.SourceTable
