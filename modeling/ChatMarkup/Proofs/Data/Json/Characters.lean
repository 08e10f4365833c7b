import ChatMarkup.Proofs.Data.Json.RoundTrip
import ChatMarkup.Proofs.Text.Splitting

/-!
# Characters of written values

What is written of a value on one line is printable ASCII, save the characters of its texts and of
the names of its members. Of those, the controls are escaped, and all that are outside of ASCII are
written as they are.
-/
namespace ChatMarkup.Json
open Text

/-- A character that ASCII can print. -/
def IsPrintable (c : Char) : Prop := 32 ≤ c.toNat ∧ c.toNat < 127

instance (c : Char) : Decidable (IsPrintable c) := inferInstanceAs (Decidable (_ ∧ _))

/-- The character stands in a text or a name of the value. -/
inductive Holds (c : Char) : Value → Prop
  | text {s : String} : c ∈ s.toList → Holds c (.text s)
  | item {items : List Value} {v : Value} : v ∈ items → Holds c v → Holds c (.list items)
  | name {members : Members} {m : String × Value} : m ∈ members → c ∈ m.1.toList →
      Holds c (.object members)
  | member {members : Members} {m : String × Value} : m ∈ members → Holds c m.2 →
      Holds c (.object members)

theorem printable_of_all {s : List Char} (h : s.all IsPrintable) : ∀ c ∈ s, IsPrintable c := by
  simpa using h

/-! ## Texts -/

theorem printable_hexText : ∀ n < 32, (hexText 4 n).toList.all IsPrintable := by
  decide

/-- A character is written in printable ones, or as itself if it is no control. -/
theorem mem_escapedChar {c d : Char} (h : d ∈ escapedChar c) :
    IsPrintable d ∨ d = c ∧ 32 ≤ c.toNat := by
  have short {s : List Char} (hs : s.all IsPrintable) (hd : d ∈ s) : IsPrintable d :=
    printable_of_all hs d hd
  unfold escapedChar at h
  split at h
  · exact .inl (short (by decide) h)
  · exact .inl (short (by decide) h)
  · exact .inl (short (by decide) h)
  · exact .inl (short (by decide) h)
  · exact .inl (short (by decide) h)
  · split_ifs at h with h₁ h₂ h₃
    · exact .inl (short (by decide) h)
    · exact .inl (short (by decide) h)
    · rcases List.mem_append.mp h with h | h
      · exact .inl (short (by decide) h)
      · exact .inl (short (printable_hexText c.toNat h₃) h)
    · exact .inr ⟨List.mem_singleton.mp h,by omega⟩

theorem escapedChar_of_le {c : Char} (h : 127 ≤ c.toNat) : escapedChar c = [c] := by
  have other {x : Char} (hx : x.toNat < 127) : c ≠ x := by
    rintro rfl
    omega
  unfold escapedChar
  split
  · exact absurd rfl (other (by decide))
  · exact absurd rfl (other (by decide))
  · exact absurd rfl (other (by decide))
  · exact absurd rfl (other (by decide))
  · exact absurd rfl (other (by decide))
  · have h₁ : (c.toNat == 8) = false := by rw [beq_eq_false_iff_ne]; omega
    have h₂ : (c.toNat == 12) = false := by rw [beq_eq_false_iff_ne]; omega
    rw [h₁,h₂,if_neg Bool.false_ne_true,if_neg Bool.false_ne_true,if_neg (by omega)]

theorem mem_quote {s : String} {c : Char} (h : c ∈ (quote s).toList) :
    IsPrintable c ∨ c ∈ s.toList ∧ 32 ≤ c.toNat := by
  have hq : IsPrintable '"' := by decide
  rw [toList_quote] at h
  rcases List.mem_cons.mp h with rfl | h
  · exact .inl hq
  rcases List.mem_append.mp h with h | h
  · obtain ⟨d,hd,hm⟩ := List.mem_flatMap.mp h
    rcases mem_escapedChar hm with hp | ⟨rfl,hc⟩
    · exact .inl hp
    · exact .inr ⟨hd,hc⟩
  · exact .inl (List.mem_singleton.mp h ▸ hq)

theorem mem_quote_of_le {s : String} {c : Char} (hc : 127 ≤ c.toNat) (h : c ∈ s.toList) :
    c ∈ (quote s).toList := by
  have hm : c ∈ s.toList.flatMap escapedChar :=
    List.mem_flatMap.mpr ⟨c,h,by rw [escapedChar_of_le hc]; exact List.mem_singleton_self c⟩
  rw [toList_quote]
  exact List.mem_cons_of_mem _ (List.mem_append_left _ hm)

/-! ## Numbers -/

theorem printable_of_isDigit {c : Char} (h : c.isDigit = true) : IsPrintable c := by
  simp only [Char.isDigit,Bool.and_eq_true,decide_eq_true_eq,ge_iff_le,UInt32.le_iff_toNat_le] at h
  have h₁ : 48 ≤ c.toNat := h.1
  have h₂ : c.toNat ≤ 57 := h.2
  exact ⟨by omega,by omega⟩

theorem printable_of_isNumber {s : List Char} {v : Value} (h : IsNumber s v) :
    ∀ c ∈ s, IsPrintable c := by
  obtain ⟨n,negative,hn,rfl,-⟩ := h
  have hs : ∀ c ∈ signText negative, IsPrintable c := by
    apply printable_of_all
    cases negative <;> decide
  have hw : ∀ c ∈ n.whole, IsPrintable c := fun c hc => printable_of_isDigit (hn.whole c hc)
  have hf : ∀ c ∈ n.fractionText, IsPrintable c := by
    unfold NumberText.fractionText
    split_ifs
    · simp
    · exact List.forall_mem_cons.mpr
        ⟨by decide,fun c hc => printable_of_isDigit (hn.fraction c hc)⟩
  have he : ∀ c ∈ n.exponentText, IsPrintable c := by
    unfold NumberText.exponentText
    split
    · simp
    · next negative digits hx =>
      have hd : ∀ c ∈ digits, IsPrintable c := fun c hc =>
        printable_of_isDigit (hn.exponent _ hx c hc)
      refine List.forall_mem_cons.mpr ⟨by decide,List.forall_mem_cons.mpr ⟨?_,hd⟩⟩
      cases negative <;> decide
  simp only [NumberText.text,List.forall_mem_append]
  exact ⟨hs,hw,hf,he⟩

/-! ## Values -/

def oneLine : Layout := { indent := none }

theorem toList_oneLine (level : ℕ) (opener closer : String) (items : List String) :
    (oneLine.enclose level opener closer items).toList = opener.toList ++
      ([',',' '].intercalate (items.map String.toList) ++ closer.toList) := by
  unfold Layout.enclose
  split_ifs with h
  · rw [List.isEmpty_iff.mp h,String.toList_append]
    rfl
  · simp [oneLine,String.toList_intercalate]

section
variable {level : ℕ} {opener closer : String} {items : List String} {c : Char}

theorem mem_enclose (ho : opener.toList.all IsPrintable) (hc : closer.toList.all IsPrintable)
    (h : c ∈ (oneLine.enclose level opener closer items).toList) :
    IsPrintable c ∨ ∃ s ∈ items, c ∈ s.toList := by
  rw [toList_oneLine,List.mem_append,List.mem_append] at h
  rcases h with h | h | h
  · exact .inl (printable_of_all ho c h)
  · rcases mem_intercalate h with h | ⟨x,hx,h⟩
    · have hs : [',',' '].all IsPrintable := by decide
      exact .inl (printable_of_all hs c h)
    · obtain ⟨s,hs,rfl⟩ := List.mem_map.mp hx
      exact .inr ⟨s,hs,h⟩
  · exact .inl (printable_of_all hc c h)

theorem mem_enclose_of_mem {s : String} (hs : s ∈ items) (h : c ∈ s.toList) :
    c ∈ (oneLine.enclose level opener closer items).toList := by
  rw [toList_oneLine]
  have hi : c ∈ [',',' '].intercalate (items.map String.toList) :=
    mem_intercalate_of_mem (List.mem_map_of_mem hs) h
  exact List.mem_append_right _ (List.mem_append_left _ hi)

end

/-- Of the characters of a written value, those that ASCII cannot print are its own. -/
theorem mem_printAt {v : Value} (hv : Writable v) {c : Char} (level : ℕ)
    (h : c ∈ (printAt oneLine level v).toList) : IsPrintable c ∨ Holds c v ∧ 32 ≤ c.toNat := by
  have word {s : List Char} (hs : s.all IsPrintable) (hm : c ∈ s) : IsPrintable c :=
    printable_of_all hs c hm
  induction hv generalizing level with
  | null => exact .inl (word (s := "null".toList) (by decide) h)
  | bool b =>
    cases b
    · exact .inl (word (s := "false".toList) (by decide) h)
    · exact .inl (word (s := "true".toList) (by decide) h)
  | int n => exact .inl (printable_of_isNumber (isNumber_int n) c h)
  | @float x hx =>
    cases x with
    | nan => exact .inl (word (s := "NaN".toList) (by decide) h)
    | infinity negative =>
      cases negative
      · exact .inl (word (s := "Infinity".toList) (by decide) h)
      · exact .inl (word (s := "-Infinity".toList) (by decide) h)
    | finite negative m e => exact .inl (printable_of_isNumber (isNumber_finite negative hx) c h)
  | text s => exact (mem_quote h).imp id fun ⟨hs,hc⟩ => ⟨.text hs,hc⟩
  | @list items _ ih =>
    rw [printAt,printItems_eq] at h
    rcases mem_enclose (by decide) (by decide) h with h | ⟨s,hs,h⟩
    · exact .inl h
    · obtain ⟨v,hv,rfl⟩ := List.mem_map.mp hs
      exact (ih v hv _ h).imp id fun ⟨hm,hc⟩ => ⟨.item hv hm,hc⟩
  | @object members _ _ ih =>
    rw [printAt,printMembers_eq] at h
    rcases mem_enclose (by decide) (by decide) h with h | ⟨s,hs,h⟩
    · exact .inl h
    · obtain ⟨m,hm,rfl⟩ := List.mem_map.mp hs
      rw [String.toList_append,String.toList_append,List.mem_append,List.mem_append] at h
      rcases h with (h | h) | h
      · exact (mem_quote h).imp id fun ⟨hn,hc⟩ => ⟨.name hm hn,hc⟩
      · exact .inl (word (by decide) h)
      · exact (ih m hm _ h).imp id fun ⟨hh,hc⟩ => ⟨.member hm hh,hc⟩

/-- A character outside of ASCII is written wherever it stands in a value. -/
theorem mem_printAt_of_holds {v : Value} {c : Char} (hc : 127 ≤ c.toNat) (h : Holds c v)
    (level : ℕ) : c ∈ (printAt oneLine level v).toList := by
  induction h generalizing level with
  | text h => exact mem_quote_of_le hc h
  | @item items v hv _ ih =>
    rw [printAt,printItems_eq]
    exact mem_enclose_of_mem (List.mem_map_of_mem hv) (ih _)
  | @name members m hm h =>
    rw [printAt,printMembers_eq]
    refine mem_enclose_of_mem (List.mem_map_of_mem hm) ?_
    rw [String.toList_append,String.toList_append,List.mem_append,List.mem_append]
    exact .inl (.inl (mem_quote_of_le hc h))
  | @member members m hm _ ih =>
    rw [printAt,printMembers_eq]
    refine mem_enclose_of_mem (List.mem_map_of_mem hm) ?_
    rw [String.toList_append,String.toList_append,List.mem_append,List.mem_append]
    exact .inr (ih _)

end ChatMarkup.Json
