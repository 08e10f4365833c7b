import ChatMarkup.Escape
import ChatMarkup.Proofs.Markup.Nesting
import ChatMarkup.Proofs.Text.Trim

/-!
# The grammar of messages

What is shown in a message is prose and elements. Prose is made of characters that stand for
themselves and of character references. An element is a tag, the content in it, and the tag that
ends it. Two contents make a content, and so does a content without the blanks at its ends, as no
tag and no reference begins or ends in a blank. Escaped text is prose, whatever the text.
-/
namespace ChatMarkup.Render
open Text Markup

def isPlain (c : Char) : Bool := c != '&' && c != '<' && c != '>' && c != '"'

def references : List (List Char) :=
  ["&amp;".toList,"&lt;".toList,"&gt;".toList,"&quot;".toList,"&#160;".toList]

/-- No character of the text begins or ends a tag or a value. -/
def Unmarked (s : List Char) : Prop := ∀ c ∈ s, c ≠ '<' ∧ c ≠ '>' ∧ c ≠ '"'

instance (s : List Char) : Decidable (Unmarked s) :=
  List.decidableBAll (fun c => c ≠ '<' ∧ c ≠ '>' ∧ c ≠ '"') s

inductive Prose : List Char → Prop
  | nil : Prose []
  | plain {c : Char} {s : List Char} : isPlain c = true → Prose s → Prose (c :: s)
  | reference {r s : List Char} : r ∈ references → Prose s → Prose (r ++ s)

def bareTags : List OpenTag :=
  [⟨"b".toList,"<b>".toList⟩,⟨"i".toList,"<i>".toList⟩,⟨"s".toList,"<s>".toList⟩,
   ⟨"pre".toList,"<pre>".toList⟩,⟨"code".toList,"<code>".toList⟩,
   ⟨"blockquote".toList,"<blockquote>".toList⟩,
   ⟨"blockquote".toList,"<blockquote expandable>".toList⟩,
   ⟨"tg-spoiler".toList,"<tg-spoiler>".toList⟩]

/-- The tags with a value, up to that value. -/
def tagHeads : List OpenTag :=
  [⟨"code".toList,"<code class=\"language-".toList⟩,⟨"a".toList,"<a href=\"".toList⟩,
   ⟨"tg-emoji".toList,"<tg-emoji emoji-id=\"".toList⟩]

def withValue (head : OpenTag) (value : List Char) : OpenTag :=
  { head with text := head.text ++ value ++ "\">".toList }

/-- The tags that open the elements of messages. -/
inductive Opens : OpenTag → Prop
  | bare {tag : OpenTag} : tag ∈ bareTags → Opens tag
  | valued {head : OpenTag} {value : List Char} :
      head ∈ tagHeads → Prose value → Opens (withValue head value)

inductive Content : List Char → Prop
  | nil : Content []
  | prose {w s : List Char} : Prose w → Content s → Content (w ++ s)
  | element {tag : OpenTag} {inner s : List Char} :
      Opens tag → Content inner → Content s →
        Content (tag.text ++ inner ++ closingTag tag ++ s)

/-! ## Prose -/

theorem prose_of_plain {s : List Char} (h : s.all isPlain = true) : Prose s := by
  induction s with
  | nil => exact .nil
  | cons c s ih =>
    rw [List.all_cons,Bool.and_eq_true] at h
    exact .plain h.1 (ih h.2)

theorem prose_reference {r : List Char} (h : r ∈ references) : Prose r := by
  have hp := Prose.reference h .nil
  rwa [List.append_nil] at hp

namespace Prose
variable {x y : List Char}

theorem append (hx : Prose x) (hy : Prose y) : Prose (x ++ y) := by
  induction hx with
  | nil => exact hy
  | plain hc _ ih => exact .plain hc ih
  | reference hr _ ih => rw [List.append_assoc]; exact .reference hr ih

theorem unmarked (h : Prose x) : Unmarked x := by
  induction h with
  | nil => simp [Unmarked]
  | @plain c s hc _ ih =>
    intro d hd
    rcases List.mem_cons.mp hd with rfl | hd
    · simp only [isPlain,Bool.and_eq_true,bne_iff_ne] at hc
      exact ⟨hc.1.1.2,hc.1.2,hc.2⟩
    · exact ih d hd
  | @reference r s hr _ ih =>
    have hu : ∀ r ∈ references, Unmarked r := by decide
    intro d hd
    exact (List.mem_append.mp hd).elim (hu r hr d) (ih d)

theorem ampersands (h : Prose x) : EachAmpersand (· ∈ references) x := by
  induction h with
  | nil => exact .of_notMem (by simp)
  | @plain c s hc _ ih =>
    have hn : '&' ∉ [c] := by
      intro hm
      rw [← List.mem_singleton.mp hm] at hc
      exact absurd hc (by decide)
    exact (EachAmpersand.of_notMem hn).append ih
  | @reference r s hr _ ih =>
    have hh : ∀ r ∈ references, r.head? = some '&' ∧ '&' ∉ r.tail := by decide
    exact (EachAmpersand.piece (hh r hr).1 (hh r hr).2 hr).append ih

theorem trimStart (h : Prose x) : Prose (trimStart x) := by
  induction h with
  | nil => exact .nil
  | @plain c s hc hs ih =>
    unfold Text.trimStart
    rw [List.dropWhile_cons]
    split_ifs
    · exact ih
    · exact .plain hc hs
  | @reference r s hr hs _ =>
    have hb : ∀ r ∈ references, Text.trimStart r = r ∧ r ≠ [] := by decide
    rw [trimStart_append_of (hb r hr).1 (hb r hr).2]
    exact .reference hr hs

theorem trimEnd (h : Prose x) : Prose (trimEnd x) := by
  induction h with
  | nil => exact .nil
  | @plain c s hc hs ih =>
    rw [← List.singleton_append,trimEnd_append]
    split_ifs
    · cases hb : isBlank c with
      | true => simpa [Text.trimEnd,dropEnd,hb] using Prose.nil
      | false => simpa [Text.trimEnd,dropEnd,hb] using prose_of_plain (by simpa using hc)
    · exact .plain hc ih
  | @reference r s hr hs ih =>
    have hb : ∀ r ∈ references, Text.trimEnd r = r := by decide
    rw [trimEnd_append_of (hb r hr)]
    exact .reference hr ih

theorem content (h : Prose x) : Content x := by
  have hc := Content.prose h .nil
  rwa [List.append_nil] at hc

end Prose

theorem content_of_plain {s : List Char} (h : s.all isPlain = true) : Content s :=
  (prose_of_plain h).content

theorem prose_escape (s : List Char) : Prose (escape s) := by
  induction s with
  | nil => exact .nil
  | cons c s ih =>
    rw [escape,List.flatMap_cons,← escape]
    refine Prose.append ?_ ih
    unfold escapeChar
    split
    · exact prose_reference (by decide)
    · exact prose_reference (by decide)
    · exact prose_reference (by decide)
    · exact prose_reference (by decide)
    · next h₁ h₂ h₃ h₄ => exact prose_of_plain (by simp_all [isPlain])

/-! ## Content -/

theorem Opens.exists_text {tag : OpenTag} (h : Opens tag) : ∃ rest, tag.text = '<' :: rest := by
  cases h with
  | @bare tag ht =>
    have hb : ∀ tag ∈ bareTags, tag.text.head? = some '<' := by decide
    exact List.head?_eq_some_iff.mp (hb tag ht)
  | @valued head value hh _ =>
    have hb : ∀ head ∈ tagHeads, head.text.head? = some '<' := by decide
    obtain ⟨rest,hr⟩ := List.head?_eq_some_iff.mp (hb head hh)
    exact ⟨rest ++ value ++ "\">".toList,by simp [withValue,hr]⟩

namespace Content
variable {x y : List Char}

theorem append (hx : Content x) (hy : Content y) : Content (x ++ y) := by
  induction hx with
  | nil => exact hy
  | prose hw _ ih => rw [List.append_assoc]; exact .prose hw ih
  | element ht hi _ _ ih => rw [List.append_assoc]; exact .element ht hi ih

theorem flatten {xs : List (List Char)} (h : ∀ x ∈ xs, Content x) : Content xs.flatten := by
  induction xs with
  | nil => exact .nil
  | cons x xs ih =>
    exact (h x (by simp)).append (ih fun y hy => h y (List.mem_cons_of_mem x hy))

theorem flatMap {α : Type} {xs : List α} {f : α → List Char}
    (h : ∀ x ∈ xs, Content (f x)) : Content (xs.flatMap f) := by
  rw [List.flatMap_def]
  apply flatten
  intro y hy
  obtain ⟨x,hx,rfl⟩ := List.mem_map.mp hy
  exact h x hx

theorem intercalate {separator : List Char} {xs : List (List Char)} (hs : Prose separator)
    (h : ∀ x ∈ xs, Content x) : Content (separator.intercalate xs) := by
  induction xs with
  | nil => exact .nil
  | cons x xs ih =>
    cases xs with
    | nil => simpa using h x (by simp)
    | cons y ys =>
      rw [List.intercalate_cons_cons]
      have hr := ih fun z hz => h z (List.mem_cons_of_mem x hz)
      exact ((h x (by simp)).append hs.content).append hr

/-- An element between its two tags, the second with some text behind it. -/
theorem bare (tag : OpenTag) (after : List Char) {opener closer : String} {inner : List Char}
    (ht : tag ∈ bareTags) (ho : opener.toList = tag.text)
    (hc : closer.toList = closingTag tag ++ after) (ha : Prose after) (hi : Content inner) :
    Content (opener.toList ++ inner ++ closer.toList) := by
  rw [ho,hc,← List.append_assoc]
  exact .element (.bare ht) hi ha.content

/-- An element whose tag has a value. -/
theorem valued (head : OpenTag) {opener closer : String} {value inner : List Char}
    (hh : head ∈ tagHeads) (ho : opener.toList = head.text) (hc : closer.toList = closingTag head)
    (hv : Prose value) (hi : Content inner) :
    Content (opener.toList ++ value ++ "\">".toList ++ inner ++ closer.toList) := by
  rw [ho,hc]
  have he := Content.element (.valued hh hv) hi .nil
  rwa [List.append_nil] at he

theorem trimStart (h : Content x) : Content (trimStart x) := by
  induction h with
  | nil => exact .nil
  | prose hw hs ih =>
    rw [trimStart_append]
    split_ifs
    · exact ih
    · exact .prose hw.trimStart hs
  | @element tag inner s ht hi hs _ _ =>
    obtain ⟨rest,hr⟩ := ht.exists_text
    have he : Text.trimStart (tag.text ++ inner ++ closingTag tag) =
        tag.text ++ inner ++ closingTag tag := by
      rw [hr]
      exact List.dropWhile_cons_of_neg (by decide)
    rw [trimStart_append_of he (by simp [hr])]
    exact .element ht hi hs

theorem trimEnd (h : Content x) : Content (trimEnd x) := by
  induction h with
  | nil => exact .nil
  | @prose w s hw hs ih =>
    rw [trimEnd_append]
    split_ifs
    · exact hw.trimEnd.content
    · exact .prose hw ih
  | @element tag inner s ht hi hs _ ih =>
    have he : Text.trimEnd (tag.text ++ inner ++ closingTag tag) =
        tag.text ++ inner ++ closingTag tag := by
      rw [closingTag,← List.append_assoc]
      exact trimEnd_concat (by decide) _
    rw [trimEnd_append_of he]
    exact .element ht hi ih

theorem trim (h : Content x) : Content (trim x) := h.trimStart.trimEnd

end Content

end ChatMarkup.Render
