import ChatMarkup.Markup.Split
import Mathlib.Data.Nat.Init
import Mathlib.Tactic.SplitIfs

/-!
# What a splitter has cut off

A splitter keeps only finished messages and a buffer. Here a run is read together with the fragments
that it cuts off, those included that show nothing and are dropped. The account that is kept over
every run: the contents of the fragments, followed by what the buffer holds beyond its carried tags,
are exactly the tokens that were taken in.

Tokens may be any texts that are not empty. Nothing here asks where a cut falls, only that it takes
something off; each round of cutting leaves less to be cut, so the rounds end.
-/
namespace ChatMarkup.Markup

/-- A fragment that was cut off: the tags opened again at its start, and what was read after them. -/
structure Fragment where
  reopened : List Char
  content : List Char
deriving DecidableEq, Repr

def Fragment.text (f : Fragment) : List Char := f.reopened ++ f.content

/-- What the fragments hold beyond the tags opened again, in order. -/
def contents (fs : List Fragment) : List Char := fs.flatMap (·.content)

/-- The tags that the last fragment left open, as they are opened again behind it. -/
def carriedOver (fs : List Fragment) : List Char :=
  match fs.getLast? with
  | some f => openingTags (openTags f.text)
  | none => []

namespace Splitter

/-- The splitter with a token in its buffer, before it is asked whether that fits. -/
def append (b : Splitter) (token : List Char) : Splitter := { b with buffer := b.buffer ++ token }

def cutAt (b : Splitter) (position : ℕ) : Splitter := b.cut b.buffer position

def fragment (b : Splitter) (position : ℕ) : Fragment :=
  ⟨b.buffer.take b.carried,(b.buffer.take position).drop b.carried⟩

/-- The buffer is too long, and not made of carried tags only. -/
def Overfull (b : Splitter) : Prop :=
  b.budget < b.buffer.length ∧ b.carried < b.buffer.length

instance (b : Splitter) : Decidable b.Overfull := inferInstanceAs (Decidable (_ ∧ _))

/-- How much of the buffer is not carried over. -/
def pending (b : Splitter) : ℕ := b.buffer.length - b.carried

def recut (b : Splitter) : Splitter := b.cutAt (forcedCut b.buffer b.budget b.carried)

/-! ## One cut -/

@[simp] theorem cutAt_budget (b : Splitter) (p : ℕ) : (b.cutAt p).budget = b.budget := by
  unfold cutAt cut emit
  dsimp only
  split_ifs <;> rfl

@[simp] theorem cutAt_buffer (b : Splitter) (p : ℕ) :
    (b.cutAt p).buffer = openingTags (openTags (b.buffer.take p)) ++ b.buffer.drop p := rfl

@[simp] theorem cutAt_carried (b : Splitter) (p : ℕ) :
    (b.cutAt p).carried = (openingTags (openTags (b.buffer.take p))).length := rfl

@[simp] theorem cutAt_lastSafe (b : Splitter) (p : ℕ) : (b.cutAt p).lastSafe = none := rfl

theorem cutAt_done (b : Splitter) (p : ℕ) :
    (b.cutAt p).done.reverse =
      b.done.reverse ++ [balance (b.buffer.take p)].filter hasVisibleContent := by
  unfold cutAt cut emit
  dsimp only
  split_ifs with h <;> simp [h]

theorem fragment_text {b : Splitter} {p : ℕ} (h : b.carried ≤ p) :
    (b.fragment p).text = b.buffer.take p := by
  have ht : b.buffer.take b.carried = (b.buffer.take p).take b.carried := by
    rw [List.take_take,Nat.min_eq_left h]
  rw [Fragment.text,fragment,ht,List.take_append_drop]

/-- A cut leaves what lies behind it, after the tags that are opened again. -/
theorem cutAt_rest {b : Splitter} {p : ℕ} (h : b.carried ≤ p) :
    (b.cutAt p).buffer.drop (b.cutAt p).carried =
      (b.buffer.drop b.carried).drop (p - b.carried) := by
  rw [cutAt_buffer,cutAt_carried,List.drop_left,List.drop_drop]
  congr 1
  omega

theorem fragment_content (b : Splitter) (p : ℕ) :
    (b.fragment p).content = (b.buffer.drop b.carried).take (p - b.carried) := List.drop_take ..

theorem cutAt_pending {b : Splitter} {p : ℕ} (hp : b.carried < p)
    (hb : b.carried < b.buffer.length) : (b.cutAt p).pending < b.pending := by
  simp [pending]
  omega

/-! ## Rounds of cutting -/

theorem recut_pending {b : Splitter} (h : b.Overfull) : b.recut.pending < b.pending :=
  cutAt_pending (lt_forcedCut b.budget h.2) h.2

theorem shrink_of_overfull {b : Splitter} (h : b.Overfull) : b.shrink = b.recut.shrink := by
  rw [shrink,if_pos (by simpa [Overfull] using h)]
  rfl

theorem shrink_of_not_overfull {b : Splitter} (h : ¬ b.Overfull) : b.shrink = b := by
  rw [shrink,if_neg (by simpa [Overfull] using h)]

/-- Rounds of cutting. Each starts from an overfull buffer and leaves less pending; the last one
leaves a buffer that is not overfull. -/
inductive Recuts : Splitter → Splitter → Prop
  | stop {b : Splitter} : ¬ b.Overfull → Recuts b b
  | round {b c : Splitter} : b.Overfull → b.recut.pending < b.pending → Recuts b.recut c →
      Recuts b c

theorem recuts_shrink (b : Splitter) : Recuts b b.shrink := by
  induction hn : b.pending using Nat.strong_induction_on generalizing b with
  | _ n ih =>
    by_cases h : b.Overfull
    · have hlt := recut_pending h
      rw [shrink_of_overfull h]
      exact .round h hlt (ih _ (hn ▸ hlt) b.recut rfl)
    · rw [shrink_of_not_overfull h]
      exact .stop h

theorem Recuts.not_overfull {b c : Splitter} (h : Recuts b c) : ¬ c.Overfull := by
  induction h with
  | stop h => exact h
  | round _ _ _ ih => exact ih

/-! ## The fragments of a run -/

def shrinkCuts (b : Splitter) : List Fragment :=
  if b.Overfull then
    b.fragment (forcedCut b.buffer b.budget b.carried) :: b.recut.shrinkCuts
  else []
termination_by b.pending
decreasing_by exact recut_pending (by assumption)

def addCuts (b : Splitter) (token : List Char) : List Fragment :=
  let c := b.append token
  if b.budget < c.buffer.length then
    c.fragment (b.cutPlace c.buffer) :: (c.cutAt (b.cutPlace c.buffer)).shrinkCuts
  else []

def cuts (b : Splitter) : List (List Char) → List Fragment
  | [] => []
  | t :: ts => b.addCuts t ++ (b.add t).cuts ts

end Splitter

end ChatMarkup.Markup
