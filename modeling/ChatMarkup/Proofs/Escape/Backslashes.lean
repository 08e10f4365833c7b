import ChatMarkup.Escape
import Mathlib.Data.List.Infix

/-!
# Undoing backslash escapes

A transport doubles the backslashes of a text and then writes its line breaks, each as a backslash
with an `n` after it. Undoing this halves all pairs of backslashes first. That step meets written
line breaks only where one was a line break before, so it gives back the text with its line breaks
written. The second step cannot tell these from a backslash and an `n` that stood in the text:
it leaves none of either, and the text comes back exactly if it held none.
-/
namespace ChatMarkup
variable {c d : Char} {s : List Char}

def doubleBackslashes (s : List Char) : List Char :=
  s.flatMap fun c => if c = '\\' then ['\\','\\'] else [c]

def writeLineBreaks (s : List Char) : List Char :=
  s.flatMap fun c => if c = '\n' then ['\\','n'] else [c]

/-- The text as a transport escapes it: first its backslashes, then its line breaks. -/
def escapeBackslashes (s : List Char) : List Char := writeLineBreaks (doubleBackslashes s)

/-- Somewhere in the text an `n` follows a backslash. -/
def HasWrittenBreak (s : List Char) : Prop := ['\\','n'] <:+: s

theorem hasWrittenBreak_cons :
    HasWrittenBreak (c :: s) ↔ c = '\\' ∧ s.head? = some 'n' ∨ HasWrittenBreak s := by
  rw [HasWrittenBreak,List.infix_cons_iff,List.cons_prefix_cons,
    List.singleton_prefix_iff_head?_eq_some]
  exact or_congr_left (and_congr_left' eq_comm)

/-! ## Escaping -/

theorem writeLineBreaks_of_ne (h : c ≠ '\n') (s : List Char) :
    writeLineBreaks (c :: s) = c :: writeLineBreaks s := by
  simp [writeLineBreaks,h]

theorem writeLineBreaks_lineBreak (s : List Char) :
    writeLineBreaks ('\n' :: s) = '\\' :: 'n' :: writeLineBreaks s := by
  simp [writeLineBreaks]

theorem escapeBackslashes_backslash (s : List Char) :
    escapeBackslashes ('\\' :: s) = '\\' :: '\\' :: escapeBackslashes s := by
  simp [escapeBackslashes,doubleBackslashes,writeLineBreaks]

theorem escapeBackslashes_of_ne (h : c ≠ '\\') (s : List Char) :
    escapeBackslashes (c :: s) = writeLineBreaks [c] ++ escapeBackslashes s := by
  simp [escapeBackslashes,doubleBackslashes,writeLineBreaks,h]

/-! ## Halving -/

theorem head?_halveBackslashes (s : List Char) : (halveBackslashes s).head? = s.head? := by
  unfold halveBackslashes
  split <;> rfl

theorem halveBackslashes_pair (s : List Char) :
    halveBackslashes ('\\' :: '\\' :: s) = '\\' :: halveBackslashes s := by
  rw [halveBackslashes]

theorem halveBackslashes_of_ne (h : c ≠ '\\') (s : List Char) :
    halveBackslashes (c :: s) = c :: halveBackslashes s := by
  rw [halveBackslashes]
  rintro rest rfl
  exact absurd rfl h

theorem halveBackslashes_single (h : d ≠ '\\') (s : List Char) :
    halveBackslashes ('\\' :: d :: s) = '\\' :: halveBackslashes (d :: s) := by
  rw [halveBackslashes]
  intro rest _ hr
  exact h (List.cons.inj hr).1

/-- Halving undoes the doubling, also where line breaks were written in between. -/
theorem halveBackslashes_escapeBackslashes (s : List Char) :
    halveBackslashes (escapeBackslashes s) = writeLineBreaks s := by
  induction s with
  | nil => rfl
  | cons c s ih =>
    by_cases hc : c = '\\'
    · subst hc
      rw [escapeBackslashes_backslash,halveBackslashes_pair,ih,writeLineBreaks_of_ne (by decide)]
    · rw [escapeBackslashes_of_ne hc]
      by_cases hb : c = '\n'
      · -- the `n` keeps this backslash from being paired with one behind it
        subst hb
        rw [writeLineBreaks_lineBreak,writeLineBreaks_lineBreak,List.cons_append,List.cons_append,
          halveBackslashes_single (by decide),halveBackslashes_of_ne (by decide)]
        simpa [writeLineBreaks] using ih
      · rw [writeLineBreaks_of_ne hb,writeLineBreaks_of_ne hb,List.cons_append,
          halveBackslashes_of_ne hc]
        simpa [writeLineBreaks] using ih

/-! ## Line breaks -/

theorem expandLineBreaks_written (s : List Char) :
    expandLineBreaks ('\\' :: 'n' :: s) = '\n' :: expandLineBreaks s := by
  rw [expandLineBreaks]

theorem expandLineBreaks_of_not (h : ¬ (c = '\\' ∧ s.head? = some 'n')) :
    expandLineBreaks (c :: s) = c :: expandLineBreaks s := by
  rw [expandLineBreaks]
  rintro rest rfl rfl
  exact h ⟨rfl,rfl⟩

/-- Written line breaks are read back, where nothing else looks like one. -/
theorem expandLineBreaks_writeLineBreaks (h : ¬ HasWrittenBreak s) :
    expandLineBreaks (writeLineBreaks s) = s := by
  induction s with
  | nil => rfl
  | cons c s ih =>
    rw [hasWrittenBreak_cons,not_or] at h
    by_cases hc : c = '\n'
    · subst hc
      rw [writeLineBreaks_lineBreak,expandLineBreaks_written,ih h.2]
    · have hn : ¬ (c = '\\' ∧ (writeLineBreaks s).head? = some 'n') := by
        rintro ⟨rfl,hw⟩
        cases s with
        | nil => cases hw
        | cons d s =>
          by_cases hd : d = '\n'
          · simp [hd,writeLineBreaks_lineBreak] at hw
          · rw [writeLineBreaks_of_ne hd] at hw
            exact h.1 ⟨rfl,hw⟩
      rw [writeLineBreaks_of_ne hc,expandLineBreaks_of_not hn,ih h.2]

/-- Expanding keeps the first character, or makes a line break of it. -/
theorem head?_expandLineBreaks (s : List Char) :
    (expandLineBreaks s).head? = s.head? ∨ (expandLineBreaks s).head? = some '\n' := by
  unfold expandLineBreaks
  split <;> simp

/-- No written line break is left: each becomes one character, and a backslash that stays has no `n`
behind it, before or after. -/
theorem not_hasWrittenBreak_expandLineBreaks (s : List Char) :
    ¬ HasWrittenBreak (expandLineBreaks s) := by
  fun_induction expandLineBreaks s with
  | case1 rest ih =>
    rw [hasWrittenBreak_cons]
    simpa using ih
  | case2 c rest hne ih =>
    rw [hasWrittenBreak_cons,not_or]
    refine ⟨?_,ih⟩
    rintro ⟨rfl,hh⟩
    rcases head?_expandLineBreaks rest with he | he
    · obtain ⟨after,rfl⟩ := List.head?_eq_some_iff.mp (he.symm.trans hh)
      exact hne after rfl rfl
    · exact absurd (he.symm.trans hh) (by decide)
  | case3 => simp [HasWrittenBreak]

/-- Undoing the escapes of a text gives the text back exactly if no `n` follows a backslash in it,
since in what is left after undoing escapes none ever does. -/
theorem unescapeBackslashes_inverts :
    (∀ s, unescapeBackslashes (escapeBackslashes s) = s ↔ ¬ HasWrittenBreak s) ∧
      ∀ t, ¬ HasWrittenBreak (unescapeBackslashes t) := by
  have hleft : ∀ t, ¬ HasWrittenBreak (unescapeBackslashes t) := fun t =>
    not_hasWrittenBreak_expandLineBreaks (halveBackslashes t)
  refine ⟨fun s => ⟨fun h => h ▸ hleft _,fun h => ?_⟩,hleft⟩
  rw [unescapeBackslashes,halveBackslashes_escapeBackslashes,expandLineBreaks_writeLineBreaks h]

-- Backslashes before a line break come back in any number; a backslash before an `n` is lost.
example :
    unescapeBackslashes (escapeBackslashes "a\\\\\nb".toList) = "a\\\\\nb".toList ∧
      unescapeBackslashes (escapeBackslashes "a\\nb".toList) = "a\nb".toList := by
  decide

end ChatMarkup
