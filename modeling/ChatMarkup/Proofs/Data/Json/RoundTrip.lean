import ChatMarkup.Proofs.Data.Json.Numbers
import ChatMarkup.Proofs.Data.Members

/-!
# Reading undoes writing

A value whose numbers are in their one form and not too long, and whose objects name each member
once, is read back
from its text, on one line or with any indent. The parts of lists and objects stand apart by commas
and white space, none of which can be taken for more of a part; so each part is read as if it stood
alone, and the reader's bound, which counts characters, is never reached.
-/
namespace ChatMarkup.Json
open Text

/-- The value has a text that says all of it. -/
inductive Writable : Value → Prop
  | null : Writable .null
  | bool (b : Bool) : Writable (.bool b)
  | int {n : ℤ} (h : Number.isLong n = false) : Writable (.int n)
  | float {x : Double} (h : x.IsCanonical) : Writable (.float x)
  | text (s : String) : Writable (.text s)
  | list {items : List Value} (h : ∀ v ∈ items, Writable v) : Writable (.list items)
  | object {members : Members} (names : (Members.keys members).Nodup)
      (h : ∀ m ∈ members, Writable m.2) : Writable (.object members)

/-- What follows a value is white space, a comma or a closing bracket. -/
def EndsValue (rest : List Char) : Prop :=
  ∀ c ∈ rest.head?, Cursor.isSpace c ∨ c = ',' ∨ c = ']' ∨ c = '\x7d'

theorem EndsValue.endsNumber {rest : List Char} (h : EndsValue rest) : EndsNumber rest := by
  intro c hc
  rcases h c hc with hs | rfl | rfl | rfl
  · simp only [Cursor.isSpace,Bool.or_eq_true,beq_iff_eq] at hs
    rcases hs with ((rfl | rfl) | rfl) | rfl <;> decide
  all_goals decide

def IsGap (gap : List Char) : Prop := ∀ c ∈ gap, Cursor.isSpace c

theorem IsGap.endsValue {gap : List Char} (h : IsGap gap) {c : Char}
    (hc : c = ',' ∨ c = ']' ∨ c = '\x7d') (rest : List Char) : EndsValue (gap ++ c :: rest) := by
  intro d hd
  cases gap with
  | nil =>
    obtain rfl : c = d := by simpa using hd
    exact .inr hc
  | cons g gap =>
    obtain rfl : g = d := by simpa using hd
    exact .inl (h g (by simp))

theorem skipSpaces_gap {gap : List Char} (h : IsGap gap) {s : List Char}
    (hs : ∀ c ∈ s.head?, Cursor.isSpace c = false) (p : ℕ) :
    ∃ q, (Cursor.mk (gap ++ s) p).skipSpaces = ⟨s,q⟩ := by
  have ht : (gap ++ s).takeWhile Cursor.isSpace = gap := by
    rw [List.takeWhile_append_of_pos h]
    cases s with
    | nil => simp
    | cons c s => simp [hs c (by simp)]
  refine ⟨p+gap.length,?_⟩
  simp only [Cursor.skipSpaces,ht,skip_append]

/-- A value may begin so: not with white space, a closing bracket or a byte order mark. -/
def Starts (c : Char) : Prop := Cursor.isSpace c = false ∧ c ≠ ']' ∧ c ≠ Char.ofNat 0xFEFF

instance (c : Char) : Decidable (Starts c) := inferInstanceAs (Decidable (_ ∧ _ ∧ _))

/-- A text spells a value: it begins as a value may, and whatever may follow a value, the value is
read from it. -/
structure Spells (s : List Char) (v : Value) : Prop where
  starts : ∀ c ∈ s.head?, Starts c
  ne : s ≠ []
  reads {fuel : ℕ} {rest : List Char} : s.length < fuel → EndsValue rest →
    Reads (valueAt fuel) s v rest

/-- After the value, the reader passes over the gap to what follows. -/
theorem Spells.reads_upTo {s gap : List Char} {v : Value} (h : Spells s v) (hg : IsGap gap)
    {fuel : ℕ} (hf : s.length < fuel) {c : Char} (hc : c = ',' ∨ c = ']' ∨ c = '\x7d')
    (rest : List Char) (p : ℕ) : ∃ q r,
    valueAt fuel ⟨s ++ (gap ++ c :: rest),p⟩ = .ok (v,⟨gap ++ c :: rest,q⟩) ∧
      (Cursor.mk (gap ++ c :: rest) q).skipSpaces = ⟨c :: rest,r⟩ := by
  obtain ⟨q,hq⟩ := h.reads hf (hg.endsValue hc rest) p
  have hs : ∀ d ∈ (c :: rest).head?, Cursor.isSpace d = false := by
    intro d hd
    obtain rfl : c = d := by simpa using hd
    rcases hc with rfl | rfl | rfl <;> rfl
  obtain ⟨r,hr⟩ := skipSpaces_gap hg hs q
  exact ⟨q,r,hq,hr⟩

theorem isGap_nil : IsGap [] := by simp [IsGap]

structure RowReader {α : Type} (read : ℕ → Cursor → Except ReadError (List α × Cursor))
    (spells : List Char → α → Prop) (closer : Char) : Prop where
  starts {s : List Char} {a : α} : spells s a →
    s ≠ [] ∧ ∀ c ∈ s.head?, Cursor.isSpace c = false ∧ c ≠ closer
  last {s gap : List Char} {a : α} {fuel : ℕ} : spells s a → IsGap gap → s.length < fuel →
    ∀ rest p, ∃ q, read (fuel+1) ⟨s ++ (gap ++ closer :: rest),p⟩ = .ok ([a],⟨rest,q⟩)
  more {s : List Char} {a : α} {fuel : ℕ} : spells s a → s.length < fuel →
    ∀ rest p, ∃ q, read (fuel+1) ⟨s ++ ',' :: rest,p⟩ =
      (read fuel (Cursor.mk rest q).skipSpaces).map fun x => (a :: x.1,x.2)

section Row
variable {α : Type} {read : ℕ → Cursor → Except ReadError (List α × Cursor)}
  {spells : List Char → α → Prop} {closer : Char} {gap close : List Char}

theorem head?_intercalate (sep : List Char) {s : List Char} (hs : s ≠ []) (texts : List (List Char))
    (after : List Char) : (sep.intercalate (s :: texts) ++ after).head? = s.head? := by
  obtain ⟨c,more,rfl⟩ := List.exists_cons_of_ne_nil hs
  cases texts <;> simp [List.intercalate_cons_cons]

/-- Things that stand apart by a comma and a gap are read one after the other. -/
theorem RowReader.reads (h : RowReader read spells closer) (hg : IsGap gap) (hc : IsGap close)
    {texts : List (List Char)} {items : List α} (hs : List.Forall₂ spells texts items)
    (hne : texts ≠ []) {fuel : ℕ}
    (hf : ((',' :: gap).intercalate texts ++ (close ++ [closer])).length < fuel)
    (rest : List Char) :
    Reads (read fuel) ((',' :: gap).intercalate texts ++ (close ++ [closer])) items rest := by
  induction hs generalizing fuel with
  | nil => exact absurd rfl hne
  | @cons s a texts items ha hs ih =>
    intro p
    obtain ⟨fuel,rfl⟩ := Nat.exists_eq_add_one_of_ne_zero (Nat.ne_zero_of_lt hf)
    cases hs with
    | nil =>
      simp only [List.intercalate_singleton,List.length_append,List.length_singleton] at hf ⊢
      simpa using h.last ha hc (by omega : s.length < fuel) rest p
    | @cons t b texts items hb hs =>
      generalize hmore : (',' :: gap).intercalate (t :: texts) ++ (close ++ [closer]) = more at ih
      have hsplit : (',' :: gap).intercalate (s :: t :: texts) ++ (close ++ [closer]) =
          s ++ ',' :: (gap ++ more) := by
        simp [← hmore,List.intercalate_cons_cons]
      rw [hsplit] at hf ⊢
      simp only [List.length_append,List.length_cons] at hf
      have hhead : ∀ c ∈ (more ++ rest).head?, Cursor.isSpace c = false := by
        rw [← hmore,List.append_assoc,head?_intercalate _ (h.starts hb).1]
        exact fun c hc => ((h.starts hb).2 c hc).1
      obtain ⟨q,hq⟩ := h.more ha (by omega : s.length < fuel) (gap ++ (more ++ rest)) p
      obtain ⟨r,hr⟩ := skipSpaces_gap hg hhead q
      obtain ⟨u,hu⟩ := ih (by simp) (by omega : more.length < fuel) r
      refine ⟨u,?_⟩
      simp only [List.append_assoc,List.cons_append]
      rw [hq,hr,hu]
      rfl

end Row

theorem itemsAt_reader : RowReader itemsAt Spells ']' where
  starts h := ⟨h.ne,fun c hc => ⟨(h.starts c hc).1,(h.starts c hc).2.1⟩⟩
  last h hg hf rest p := by
    obtain ⟨q,r,hq,hr⟩ := h.reads_upTo hg hf (c := ']') (by simp) rest p
    exact ⟨r+1,by simp [itemsAt,hq,bind,Except.bind,hr,Cursor.skip]⟩
  more h hf rest p := by
    obtain ⟨q,r,hq,hr⟩ := h.reads_upTo isGap_nil hf (c := ',') (by simp) rest p
    rw [List.nil_append] at hq hr
    refine ⟨r+1,?_⟩
    simp only [itemsAt,hq,bind,Except.bind,hr,Cursor.skip,List.drop_one,List.tail_cons]
    rfl

/-- A text spells a member: its name in quotes, a colon and its value. -/
def SpellsMember (s : List Char) (m : String × Value) : Prop :=
  ∃ t, s = (quote m.1).toList ++ ':' :: ' ' :: t ∧ Spells t m.2

theorem SpellsMember.cons {s : List Char} {m : String × Value} (h : SpellsMember s m) :
    ∃ more, s = '"' :: more := by
  obtain ⟨t,rfl,-⟩ := h
  exact ⟨_,by rw [toList_quote,List.cons_append]⟩

/-- The reader comes from the name of a member to its value, and past the gap behind it. -/
theorem SpellsMember.reads_upTo {s gap : List Char} {m : String × Value} (h : SpellsMember s m)
    (hg : IsGap gap) {fuel : ℕ} (hf : s.length < fuel) {c : Char}
    (hc : c = ',' ∨ c = ']' ∨ c = '\x7d') (rest : List Char) (p : ℕ) :
    ∃ t q r u v, string fuel ⟨s ++ (gap ++ c :: rest),p⟩ = .ok (m.1,⟨':' :: t,q⟩) ∧
      (Cursor.mk (':' :: t) q).skipSpaces = ⟨':' :: t,r⟩ ∧
      valueAt fuel (Cursor.mk t (r+1)).skipSpaces = .ok (m.2,⟨gap ++ c :: rest,u⟩) ∧
      (Cursor.mk (gap ++ c :: rest) u).skipSpaces = ⟨c :: rest,v⟩ := by
  obtain ⟨t,rfl,ht⟩ := h
  simp only [List.length_append,List.length_cons] at hf
  have hquote : (quote m.1).toList.length ≤ fuel := by omega
  obtain ⟨q,hq⟩ := reads_quote (':' :: ' ' :: (t ++ (gap ++ c :: rest))) hquote p
  obtain ⟨r,hr⟩ := skipSpaces_gap isGap_nil (s := ':' :: ' ' :: (t ++ (gap ++ c :: rest)))
    (by simp [Cursor.isSpace]) q
  have hhead : ∀ d ∈ (t ++ (gap ++ c :: rest)).head?, Cursor.isSpace d = false := by
    intro d hd
    rw [List.head?_append_of_ne_nil _ ht.ne] at hd
    exact (ht.starts d hd).1
  obtain ⟨x,hx⟩ := skipSpaces_gap (by simp [IsGap,Cursor.isSpace] : IsGap [' ']) hhead (r+1)
  obtain ⟨u,v,hu,hv⟩ := ht.reads_upTo hg (by omega : t.length < fuel) hc rest x
  refine ⟨_,q,r,u,v,?_,hr,?_,hv⟩
  · rw [List.append_assoc]
    exact hq
  · exact (congrArg _ hx).trans hu

theorem membersAt_reader : RowReader membersAt SpellsMember '\x7d' where
  starts h := by
    obtain ⟨more,rfl⟩ := h.cons
    simp [Cursor.isSpace]
  last h hg hf rest p := by
    obtain ⟨t,q,r,u,v,hq,hr,hu,hv⟩ := h.reads_upTo hg hf (c := '\x7d') (by simp) rest p
    obtain ⟨more,rfl⟩ := h.cons
    rw [List.cons_append] at hq ⊢
    exact ⟨v+1,by simp [membersAt,hq,bind,Except.bind,hr,hu,hv,Cursor.skip]⟩
  more h hf rest p := by
    obtain ⟨t,q,r,u,v,hq,hr,hu,hv⟩ := h.reads_upTo isGap_nil hf (c := ',') (by simp) rest p
    rw [List.nil_append] at hq hu hv
    obtain ⟨more,rfl⟩ := h.cons
    rw [List.cons_append] at hq ⊢
    refine ⟨v+1,?_⟩
    simp only [membersAt,hq,bind,Except.bind,hr,hu,hv,Cursor.skip,List.drop_one,List.tail_cons]
    rfl

theorem isGap_line (n : ℕ) : IsGap ('\n' :: List.replicate n ' ') := by
  intro c hc
  rcases List.mem_cons.mp hc with rfl | hc
  · rfl
  · rw [List.eq_of_mem_replicate hc]
    rfl

/-- Items stand between their brackets with gaps around them and a comma and a gap between. -/
theorem toList_enclose (layout : Layout) (level : ℕ) (opener closer : String)
    {items : List String} (hne : items ≠ []) : ∃ first gap close, IsGap first ∧ IsGap gap ∧
      IsGap close ∧ (layout.enclose level opener closer items).toList = opener.toList ++
        (first ++ ((',' :: gap).intercalate (items.map String.toList) ++
          (close ++ closer.toList))) := by
  have hempty : items.isEmpty = false := by simpa using hne
  unfold Layout.enclose
  rw [hempty,if_neg Bool.false_ne_true]
  split
  · refine ⟨[],[' '],[],isGap_nil,by simp [IsGap,Cursor.isSpace],isGap_nil,?_⟩
    simp [String.toList_intercalate]
  · next width _ =>
    refine ⟨_,_,_,isGap_line (width*(level+1)),isGap_line (width*(level+1)),
      isGap_line (width*level),?_⟩
    simp [String.toList_intercalate]

theorem enclose_nil (layout : Layout) (level : ℕ) (opener closer : String) :
    layout.enclose level opener closer [] = opener ++ closer := rfl

/-- Behind its opening bracket, a row begins where the gap ends, and is read from there. -/
theorem RowReader.reads_enclosed {α : Type}
    {read : ℕ → Cursor → Except ReadError (List α × Cursor)} {spells : List Char → α → Prop}
    {closer : Char} (h : RowReader read spells closer) (layout : Layout) (level : ℕ)
    (opener : Char) {texts : List String} {items : List α}
    (hs : List.Forall₂ spells (texts.map String.toList) items) (hne : texts ≠ []) :
    ∃ s, (layout.enclose level (String.singleton opener) (String.singleton closer) texts).toList =
        opener :: s ∧
      ∀ fuel, s.length < fuel → ∀ rest p, ∃ c more q r, c ≠ closer ∧
        (Cursor.mk (s ++ rest) p).skipSpaces = ⟨c :: more,q⟩ ∧
          read fuel ⟨c :: more,q⟩ = .ok (items,⟨rest,r⟩) := by
  obtain ⟨first,gap,close,hf,hg,hc,ht⟩ :=
    toList_enclose layout level (String.singleton opener) (String.singleton closer) hne
  simp only [String.toList_singleton,List.singleton_append] at ht
  refine ⟨_,ht,fun fuel hlen rest p => ?_⟩
  rw [List.length_append] at hlen
  have hread := h.reads hg hc hs (by simpa using hne) (Nat.lt_of_add_left_lt hlen) rest
  obtain ⟨t,texts,rfl⟩ := List.exists_cons_of_ne_nil hne
  cases hs with
  | @cons _ a _ items ha hs =>
    obtain ⟨hta,hstart⟩ := h.starts ha
    have hhead := head?_intercalate (',' :: gap) hta (texts.map String.toList)
      (close ++ [closer] ++ rest)
    obtain ⟨c,more,hc⟩ := List.exists_cons_of_ne_nil hta
    rw [hc,List.head?_cons] at hhead
    obtain ⟨more',hmore⟩ := List.head?_eq_some_iff.mp hhead
    rw [← List.append_assoc,← hc] at hmore
    have hspace := hstart c (by rw [hc]; rfl)
    obtain ⟨q,hq⟩ := skipSpaces_gap hf (s := c :: more') (by simpa using hspace.1) p
    obtain ⟨r,hr⟩ := hread q
    refine ⟨c,more',q,r,hspace.2,?_,?_⟩
    · rw [List.append_assoc,List.map_cons,hmore]
      exact hq
    · rwa [List.map_cons,hmore] at hr

theorem spells_list (layout : Layout) (level : ℕ) {items : List Value} {texts : List String}
    (h : List.Forall₂ Spells (texts.map String.toList) items) :
    Spells (layout.enclose level "[" "]" texts).toList (.list items) := by
  by_cases hne : texts = []
  · subst hne
    obtain rfl : items = [] := by simpa using h
    refine ⟨by simp [enclose_nil,Starts,Cursor.isSpace],by simp [enclose_nil],
      @fun fuel rest hf _ p => ?_⟩
    obtain ⟨fuel,rfl⟩ := Nat.exists_eq_add_one_of_ne_zero (Nat.ne_zero_of_lt hf)
    obtain ⟨q,hq⟩ := skipSpaces_gap isGap_nil (s := ']' :: rest) (by simp [Cursor.isSpace]) (p+1)
    rw [List.nil_append] at hq
    exact ⟨q+1,by simp [enclose_nil,valueAt,Cursor.skip,hq]⟩
  · obtain ⟨s,hs,hread⟩ := itemsAt_reader.reads_enclosed layout level '[' h hne
    change (layout.enclose level "[" "]" texts).toList = '[' :: s at hs
    rw [hs]
    refine ⟨by simp [Starts,Cursor.isSpace],by simp,@fun fuel rest hf _ p => ?_⟩
    obtain ⟨fuel,rfl⟩ := Nat.exists_eq_add_one_of_ne_zero (Nat.ne_zero_of_lt hf)
    obtain ⟨c,more,q,r,hc,hq,hr⟩ := hread fuel (by simpa using hf) rest (p+1)
    exact ⟨r,by simp [valueAt,Cursor.skip,hq,hc,hr,bind,Except.bind]⟩

theorem spells_object (layout : Layout) (level : ℕ) {members : Members} {texts : List String}
    (hn : (Members.keys members).Nodup)
    (h : List.Forall₂ SpellsMember (texts.map String.toList) members) :
    Spells (layout.enclose level "\x7b" "\x7d" texts).toList (.object members) := by
  by_cases hne : texts = []
  · subst hne
    obtain rfl : members = [] := by simpa using h
    refine ⟨by simp [enclose_nil,Starts,Cursor.isSpace],by simp [enclose_nil],
      @fun fuel rest hf _ p => ?_⟩
    obtain ⟨fuel,rfl⟩ := Nat.exists_eq_add_one_of_ne_zero (Nat.ne_zero_of_lt hf)
    obtain ⟨q,hq⟩ := skipSpaces_gap isGap_nil (s := '\x7d' :: rest) (by simp [Cursor.isSpace])
      (p+1)
    rw [List.nil_append] at hq
    exact ⟨q+1,by simp [enclose_nil,valueAt,Cursor.skip,hq]⟩
  · obtain ⟨s,hs,hread⟩ := membersAt_reader.reads_enclosed layout level '\x7b' h hne
    change (layout.enclose level "\x7b" "\x7d" texts).toList = '\x7b' :: s at hs
    rw [hs]
    refine ⟨by simp [Starts,Cursor.isSpace],by simp,@fun fuel rest hf _ p => ?_⟩
    obtain ⟨fuel,rfl⟩ := Nat.exists_eq_add_one_of_ne_zero (Nat.ne_zero_of_lt hf)
    obtain ⟨c,more,q,r,hc,hq,hr⟩ := hread fuel (by simpa using hf) rest (p+1)
    have hm := Members.ofPairs_of_nodup hn
    exact ⟨r,by simp [valueAt,Cursor.skip,hq,hc,hr,hm,bind,Except.bind]⟩

theorem starts_of_isDigit {c : Char} (h : c.isDigit = true) : Starts c := by
  have other {x : Char} (hx : x.isDigit = false) : c ≠ x := (ne_of_isDigit h hx).symm
  refine ⟨?_,other rfl,other rfl⟩
  simp [Cursor.isSpace,other (x := ' ') rfl,other (x := '\t') rfl,other (x := '\n') rfl,
    other (x := '\r') rfl]

/-- A text that is read from any bound spells its value. -/
theorem spells_of_reads {s : List Char} {v : Value} {c : Char} {more : List Char}
    (hs : s = c :: more) (hc : Starts c)
    (h : ∀ fuel rest, EndsValue rest → Reads (valueAt (fuel+1)) s v rest) : Spells s v where
  starts := by simpa [hs] using hc
  ne := by simp [hs]
  reads hf hr := by
    obtain ⟨fuel,rfl⟩ := Nat.exists_eq_add_one_of_ne_zero (Nat.ne_zero_of_lt hf)
    exact h fuel _ hr

theorem spells_word {w : List Char × Value} (hw : w ∈ namedValues) : Spells w.1 w.2 := by
  have hstart : ∃ c more, w.1 = c :: more ∧ Starts c := by
    simp only [namedValues,List.mem_cons,List.not_mem_nil,or_false] at hw
    rcases hw with rfl | rfl | rfl | rfl | rfl | rfl <;> exact ⟨_,_,rfl,by decide⟩
  obtain ⟨c,more,hs,hc⟩ := hstart
  exact spells_of_reads hs hc fun fuel rest _ => reads_word fuel hw rest

theorem spells_number {s : List Char} {v : Value} (h : IsNumber s v) : Spells s v := by
  obtain ⟨n,negative,hn,rfl,hl,rfl⟩ := h
  obtain ⟨c,more,hc,hs⟩ := text_cons hn negative
  have hreads : ∀ fuel rest, EndsValue rest → _ := fun fuel rest hr =>
    reads_number fuel hn hl (EndsValue.endsNumber hr)
  cases negative with
  | true => exact spells_of_reads hs (by decide) hreads
  | false => exact spells_of_reads hs (starts_of_isDigit hc) hreads

theorem spells_text (s : String) : Spells (quote s).toList (.text s) := by
  have hs := toList_quote s
  refine ⟨by simp [hs,Starts,Cursor.isSpace],by simp [hs],@fun fuel rest hf _ p => ?_⟩
  obtain ⟨fuel,rfl⟩ := Nat.exists_eq_add_one_of_ne_zero (Nat.ne_zero_of_lt hf)
  obtain ⟨q,hq⟩ := reads_quote rest (Nat.le_of_lt_succ hf) p
  refine ⟨q,?_⟩
  rw [hs,List.cons_append] at hq ⊢
  simp only [valueAt,hq,bind,Except.bind]

theorem printItems_eq (layout : Layout) (level : ℕ) (items : List Value) :
    printItems layout level items = items.map (printAt layout level) := by
  induction items with
  | nil => rw [printItems,List.map_nil]
  | cons v items ih => rw [printItems,ih,List.map_cons]

theorem printMembers_eq (layout : Layout) (level : ℕ) (members : Members) :
    printMembers layout level members =
      members.map fun m => quote m.1 ++ ": " ++ printAt layout level m.2 := by
  induction members with
  | nil => rw [printMembers,List.map_nil]
  | cons m members ih => rw [printMembers,ih,List.map_cons]

/-- A written value is spelled by its text, whatever the layout. -/
theorem spells_printAt {v : Value} (h : Writable v) (layout : Layout) (level : ℕ) :
    Spells (printAt layout level v).toList v := by
  induction h generalizing level with
  | null => exact spells_word (w := ("null".toList,.null)) (by simp [namedValues])
  | bool b =>
    cases b
    · exact spells_word (w := ("false".toList,.bool false)) (by simp [namedValues])
    · exact spells_word (w := ("true".toList,.bool true)) (by simp [namedValues])
  | int h => exact spells_number (isNumber_int h)
  | @float x hx =>
    cases x with
    | nan => exact spells_word (w := ("NaN".toList,.float .nan)) (by simp [namedValues])
    | infinity negative =>
      cases negative
      · exact spells_word (w := ("Infinity".toList,_)) (by simp [namedValues])
      · exact spells_word (w := ("-Infinity".toList,_)) (by simp [namedValues])
    | finite negative m e => exact spells_number (isNumber_finite negative hx)
  | text s => exact spells_text s
  | @list items h ih =>
    refine spells_list layout level ?_
    rw [printItems_eq,List.map_map,List.forall₂_map_left_iff,List.forall₂_same]
    exact fun v hv => ih v hv (level+1)
  | @object members names h ih =>
    refine spells_object layout level names ?_
    rw [printMembers_eq,List.map_map,List.forall₂_map_left_iff,List.forall₂_same]
    exact fun m hm => ⟨_,by simp,ih m hm (level+1)⟩

/-- A value that can be written holds no number that is too long. -/
theorem Writable.hasLongNumber {v : Value} (h : Writable v) : v.hasLongNumber = false := by
  have hany {vs : List Value} (h : ∀ v ∈ vs, v.hasLongNumber = false) :
      Value.anyLongNumber vs = false := by
    induction vs with
    | nil => rfl
    | cons v vs ih =>
      rw [Value.anyLongNumber,h v (by simp),ih fun w hw => h w (List.mem_cons_of_mem v hw)]
      rfl
  have hmembers {ms : Members} (h : ∀ m ∈ ms, m.2.hasLongNumber = false) :
      Value.anyMemberLongNumber ms = false := by
    induction ms with
    | nil => rfl
    | cons m ms ih =>
      rw [Value.anyMemberLongNumber,h m (by simp),ih fun x hx => h x (List.mem_cons_of_mem m hx)]
      rfl
  induction h with
  | int h => exact h
  | list _ ih => exact hany ih
  | object _ _ ih => exact hmembers ih
  | _ => rfl

theorem print?_eq {v : Value} (h : Writable v) (indent : Option ℕ) :
    print? v indent = some (form v indent) := by
  rw [print?,h.hasLongNumber]
  rfl

theorem read_form {v : Value} (h : Writable v) (indent : Option ℕ) :
    read (form v indent) = .ok v := by
  have hs : Spells (form v indent).toList v := spells_printAt h { indent } 0
  have hbom : ((form v indent).toList.head? == some (Char.ofNat 0xFEFF)) = false := by
    refine beq_false_of_ne fun hc => ?_
    exact (hs.starts _ hc).2.2 rfl
  obtain ⟨p,hp⟩ := skipSpaces_gap isGap_nil (fun c hc => (hs.starts c hc).1) 0
  obtain ⟨q,hq⟩ := hs.reads
    (by omega : (form v indent).toList.length < 2*(form v indent).toList.length+2)
    (by simp [EndsValue] : EndsValue []) p
  rw [List.append_nil] at hq
  rw [List.nil_append] at hp
  have hend : (Cursor.mk [] q).skipSpaces = ⟨[],q⟩ := rfl
  simp [read,readChars,hbom,hp,hq,hend,bind,Except.bind]

/-- A value is written, whatever the indent, and read back from its text. -/
theorem exists_print? {v : Value} (h : Writable v) (indent : Option ℕ) :
    ∃ text, print? v indent = some text ∧ read text = .ok v :=
  ⟨form v indent,print?_eq h indent,read_form h indent⟩

end ChatMarkup.Json
