import ChatMarkup.Cli.Run
import ChatMarkup.Output
import ChatMarkup.Proofs.Data.Json.Characters
import ChatMarkup.Proofs.Data.Outcomes
import ChatMarkup.Proofs.Text.Lines

/-!
# Records on lines

Written records are read back as they are, unless a text in one of them holds a character that ends
a line and that JSON does not escape: the next line character and the separators of lines and
paragraphs. Such a record takes more than one line, and since every line with something on it is
read as a record of its own, the records that are read cannot be those that were written.
-/
namespace ChatMarkup.Cli
open Text Json

def isFilled (line : List Char) : Bool := !(trim line).isEmpty

/-- The lines of a text that have something on them. -/
def filledLines (s : List Char) : List (List Char) := (lines s).filter isFilled

theorem isFilled_of_mem {line : List Char} {c : Char} (h : c ∈ line) (hc : isBlank c = false) :
    isFilled line = true := by
  rcases mem_trim h with h | h
  · have hn := List.ne_nil_of_mem h
    simpa [isFilled] using hn
  · rw [hc] at h
    cases h

/-! ## Reading lines -/

/-- Each line with something on it is read as one value. -/
theorem valuesOfLines_eq_ok {text : String} {vs : List Value} :
    valuesOfLines text = .ok vs ↔ List.Forall₂
      (fun line v => Json.read (String.ofList line) = .ok v) (filledLines text.toList) vs := by
  have hn (line : List Char) (number : ℕ) (v : Value) :
      (Json.read (String.ofList line)).mapError (badLine number line) = .ok v ↔
        Json.read (String.ofList line) = .ok v := mapError_eq_ok
  have hl : filledLines text.toList =
      (((lines text.toList).zipIdx 1).filter fun l => isFilled l.1).map Prod.fst := by
    rw [filledLines,← List.zipIdx_map_fst 1 (lines text.toList),List.filter_map]
    simp only [List.zipIdx_map_fst]
    rfl
  rw [hl,List.forall₂_map_left_iff]
  refine Iff.trans mapM_eq_ok ⟨fun h => h.imp ?_,fun h => h.imp ?_⟩
  · exact fun (line,number) v => (hn line number v).mp
  · exact fun (line,number) v => (hn line number v).mpr

/-! ## Lines of records -/

theorem filledLines_append (x y : List Char) :
    filledLines (x ++ '\n' :: y) = filledLines (x ++ ['\n']) ++ filledLines y := by
  rw [filledLines,lines,linesFrom_append_lineFeed,List.filter_append]
  rfl

/-- Where a line with something on it ends, the other lines begin. -/
theorem filledLines_split {line : List Char} (hl : ∀ c ∈ line, endsLine c = false)
    (hf : isFilled line = true) {c : Char} (hc : endsLine c = true) (hr : c ≠ '\r')
    (s : List Char) : filledLines (line ++ c :: s) = line :: filledLines s := by
  rw [filledLines,lines,linesFrom_append [] hl,
    linesFrom_of_endsLine _ hc fun e => absurd e hr,List.append_nil,List.reverse_reverse,
    List.filter_cons_of_pos hf]
  rfl

theorem exists_filledLine {s : List Char} {c : Char} (h : c ∈ s) (hb : isBlank c = false)
    (hc : endsLine c = false) : ∃ line, line ∈ filledLines s := by
  obtain ⟨l,hl,hm⟩ := exists_mem_linesFrom [] hc s (.inr h)
  exact ⟨l,List.mem_filter.mpr ⟨hl,isFilled_of_mem hm hb⟩⟩

def recordLine (r : Members) : List Char := (Json.form (.object r)).toList

/-- A record is written between brackets, which are on its first and its last line. -/
theorem recordLine_eq (r : Members) : ∃ inner, recordLine r = '\x7b' :: (inner ++ ['\x7d']) := by
  refine ⟨[',',' '].intercalate ((printMembers oneLine 1 r).map String.toList),?_⟩
  exact toList_oneLine 0 "\x7b" "\x7d" (printMembers oneLine 1 r)

/-- Records whose numbers can be written are written. -/
theorem writtenRecords_eq {records : List Members} (h : ∀ r ∈ records, Writable (.object r)) :
    writtenRecords (records.map .object) =
      .ok (String.join (records.map fun r => Json.form (.object r) ++ "\n")) := by
  have hm : (records.map .object).mapM writtenRecord =
      .ok (records.map fun r => Json.form (.object r) ++ "\n") := by
    rw [mapM_eq_ok,List.forall₂_map_left_iff,List.forall₂_map_right_iff,List.forall₂_same]
    intro r hr
    rw [writtenRecord,print?_eq (h r hr)]
  rw [writtenRecords,hm]
  rfl

theorem toList_join_lines (records : List Members) :
    (String.join (records.map fun r => Json.form (.object r) ++ "\n")).toList =
      records.flatMap fun r => recordLine r ++ ['\n'] := by
  rw [String.toList_join,List.flatMap_map]
  simp [recordLine]

theorem filledLines_records (records : List Members) :
    filledLines (records.flatMap fun r => recordLine r ++ ['\n']) =
      records.flatMap fun r => filledLines (recordLine r ++ ['\n']) := by
  induction records with
  | nil => rfl
  | cons r records ih =>
    rw [List.flatMap_cons,List.flatMap_cons,← ih,List.append_assoc]
    exact filledLines_append _ _

/-- A record begins with a line that has something on it. -/
theorem length_filledLines (r : Members) : 1 ≤ (filledLines (recordLine r ++ ['\n'])).length := by
  obtain ⟨inner,he⟩ := recordLine_eq r
  have hm : '\x7b' ∈ recordLine r ++ ['\n'] := by simp [he]
  obtain ⟨line,hl⟩ := exists_filledLine hm (by decide) (by decide)
  exact List.length_pos_of_mem hl

/-- A record that holds no end of a line is a line. -/
theorem filledLines_whole {r : Members} (h : ∀ c ∈ recordLine r, endsLine c = false) :
    filledLines (recordLine r ++ ['\n']) = [recordLine r] := by
  obtain ⟨inner,he⟩ := recordLine_eq r
  have hm : '\x7b' ∈ recordLine r := by simp [he]
  exact filledLines_split h (isFilled_of_mem hm (by decide)) rfl (by decide) []

section
variable {r : Members} (hr : Writable (.object r)) {c : Char} (hc : c ∈ recordLine r)
  (he : endsLine c = true)
include hr hc he

/-- What ends a line in a written record is a character of the record, and no control. -/
theorem endsLine_of_mem : Holds c (.object r) ∧ 127 ≤ c.toNat := by
  simp only [endsLine,Bool.or_eq_true,Bool.and_eq_true,decide_eq_true_eq,beq_iff_eq] at he
  rcases mem_printAt hr 0 hc with ⟨h₁,h₂⟩ | ⟨hh,h⟩
  · omega
  · exact ⟨hh,by omega⟩

/-- A record with an end of a line in it is cut into several lines. -/
theorem two_le_length_filledLines : 2 ≤ (filledLines (recordLine r ++ ['\n'])).length := by
  obtain ⟨a,d,b,hs,ha,hd⟩ := exists_firstEnd hc he
  have hle : 127 ≤ d.toNat := (endsLine_of_mem hr (by simp [hs]) hd).2
  have hne {x : Char} (hx : x.toNat < 127) : d ≠ x := by
    rintro rfl
    omega
  obtain ⟨inner,hi⟩ := recordLine_eq r
  -- The brackets stand before and behind the end of the line.
  have hi' := hi.symm.trans hs
  have hopen : '\x7b' ∈ a := by
    rcases List.cons_eq_append_iff.mp hi' with ⟨-,h⟩ | ⟨a',rfl,-⟩
    · exact absurd (List.cons.inj h).1 (hne (by decide))
    · exact List.mem_cons_self
  have hclose : '\x7d' ∈ b := by
    rw [← List.cons_append] at hi'
    rcases List.append_eq_append_iff.mp hi' with ⟨u,-,h⟩ | ⟨u,-,h⟩
    · rcases List.singleton_eq_append_iff.mp h with ⟨-,h⟩ | ⟨-,h⟩
      · exact absurd (List.cons.inj h).1 (hne (by decide))
      · cases h
    · rcases List.cons_eq_append_iff.mp h with ⟨-,h⟩ | ⟨u',-,h⟩
      · exact absurd (List.cons.inj h).1.symm (hne (by decide))
      · simp [h]
  obtain ⟨line,hl⟩ := exists_filledLine (s := b ++ ['\n']) (List.mem_append_left _ hclose)
    (by decide) (by decide)
  have hsplit := filledLines_split ha (isFilled_of_mem hopen (by decide)) hd (hne (by decide))
    (b ++ ['\n'])
  rw [hs,List.append_assoc,List.cons_append,hsplit,List.length_cons]
  exact Nat.succ_le_succ (List.length_pos_of_mem hl)

end

section
variable {records : List Members}

/-- As many lines as records are there only if each record has one line. -/
theorem length_records : records.length ≤
      (records.flatMap fun r => filledLines (recordLine r ++ ['\n'])).length ∧
    ((records.flatMap fun r => filledLines (recordLine r ++ ['\n'])).length = records.length →
      ∀ r ∈ records, (filledLines (recordLine r ++ ['\n'])).length = 1) := by
  induction records with
  | nil => simp
  | cons r records ih =>
    have hr := length_filledLines r
    obtain ⟨hle,ih⟩ := ih
    rw [List.flatMap_cons,List.length_append,List.length_cons]
    refine ⟨by omega,fun h => List.forall_mem_cons.mpr ⟨by omega,ih (by omega)⟩⟩

/-- Records are written, and read back if and only if all ends of lines in their texts are controls
of ASCII, which are escaped. -/
theorem valuesOfLines_writtenRecords (h : ∀ r ∈ records, Writable (.object r)) :
    ∃ text, writtenRecords (records.map .object) = .ok text ∧
      (valuesOfLines text = .ok (records.map .object) ↔
        ∀ r ∈ records, ∀ c, Holds c (.object r) → endsLine c = true → c.toNat < 127) := by
  refine ⟨_,writtenRecords_eq h,?_⟩
  rw [valuesOfLines_eq_ok,toList_join_lines,filledLines_records]
  constructor
  · intro hf r hr c hc he
    have hl := hf.length_eq
    rw [List.length_map] at hl
    by_contra hn
    have hm : c ∈ recordLine r := mem_printAt_of_holds (by omega) hc 0
    have h₁ := length_records.2 hl r hr
    have h₂ := two_le_length_filledLines (h r hr) hm he
    omega
  · intro hc
    have hw : ∀ r ∈ records, ∀ c ∈ recordLine r, endsLine c = false := by
      intro r hr c hm
      by_contra he
      obtain ⟨hh,hn⟩ := endsLine_of_mem (h r hr) hm (by simpa using he)
      exact absurd (hc r hr c hh (by simpa using he)) (by omega)
    have hl : (records.flatMap fun r => filledLines (recordLine r ++ ['\n'])) =
        records.map recordLine := by
      rw [List.map_eq_flatMap]
      exact List.flatMap_congr fun r hr => filledLines_whole (hw r hr)
    rw [hl,List.forall₂_map_left_iff,List.forall₂_map_right_iff,List.forall₂_same]
    intro r hr
    rw [recordLine,String.ofList_toList]
    exact read_form (h r hr) none

end

/-- A record with a line separator in a text is not among the records that are read back. -/
theorem lineSeparator_not_read_back :
    let r : Members := [("markdown",.text "x"),("note",.text (String.singleton '\u2028'))]
    writtenRecords [.object r] >>= valuesOfLines ≠ .ok [.object r] := by
  intro r h
  have hw : ∀ x ∈ [r], Writable (.object x) := by
    intro x hx
    rw [List.mem_singleton.mp hx]
    exact .object (by decide) (by simp [r,Writable.text])
  have hn : Holds '\u2028' (.object r) :=
    .member (m := ("note",.text (String.singleton '\u2028'))) (by simp [r]) (.text (by simp))
  obtain ⟨text,ht,hv⟩ := valuesOfLines_writtenRecords hw
  obtain ⟨found,hf,h⟩ := bind_eq_ok.mp h
  obtain rfl := Except.ok.inj (ht.symm.trans hf)
  exact absurd (hv.mp h r (by simp) '\u2028' hn (by decide)) (by decide)

end ChatMarkup.Cli
