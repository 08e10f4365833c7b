import ChatMarkup.Markup.OpenTag

/-!
# Splitting into messages

A markup is cut into fragments of about a given length. Tags that are open at a cut are closed at
the end of the fragment and opened again, attributes and all, at the start of the next. A cut
falls on the last safe boundary that fits; where there is none it is forced at the budget, outside
tags and character references. Fragments that show nothing are dropped.

The state of the work is a buffer that begins with the tags carried over from the last cut. Each
forced cut takes at least one character beyond them, so repeated cutting ends.
-/
namespace ChatMarkup.Markup
open Text

/-- How many characters a character reference at the start of the text takes, from its ampersand
to its semicolon. -/
def referenceLength? : List Char → Option Nat
  | '&' :: rest =>
    let (sign, body) := match rest with
      | '#' :: more => (1, more)
      | _ => (0, rest)
    let name := body.takeWhile isWord
    match name, body.dropWhile isWord with
    | _ :: _, ';' :: _ => some (1 + sign + name.length + 1)
    | _, _ => none
  | _ => none

/-- A place near `limit` to cut, moved out of a tag or reference that it would break: before it
where that leaves something after `floor`, else after it. -/
def nearbyCut (s : List Char) (limit floor : Nat) : Nat :=
  let cut := min limit s.length
  match danglingIndex? '<' '>' (s.take cut) with
  | some start =>
    if floor < start then start
    else match firstIndex? (· == '>') (s.drop start) with
      | some i => start + i + 1
      | none => s.length
  | none =>
    match danglingIndex? '&' ';' (s.take cut) with
    | some start =>
      match referenceLength? (s.drop start) with
      | some n => if cut < start + n then (if floor < start then start else start + n) else cut
      | none => cut
    | none => cut

/-- A place to cut that lies after `floor`, by a whole token if nothing nearer will do. -/
def forcedCut (s : List Char) (limit floor : Nat) : Nat :=
  let cut := nearbyCut s limit floor
  if cut ≤ floor then
    match s.drop floor with
    | c :: rest => floor + (firstToken c rest).1.length
    | [] => cut
  else cut

/-- A forced cut makes progress. -/
theorem lt_forcedCut {s : List Char} {floor : Nat} (limit : Nat) (h : floor < s.length) :
    floor < forcedCut s limit floor := by
  unfold forcedCut
  dsimp only
  split
  · split
    · next c rest _ => have := firstToken_length_pos c rest; omega
    · next he => simp at he; omega
  · omega

/-- Fragments that were cut off, and the buffer for what comes next. -/
structure Splitter where
  /-- The length that the buffer should keep to. -/
  budget : Nat
  /-- The finished messages, last first. -/
  done : List (List Char) := []
  /-- Tags carried over from the last cut, then the tokens since. -/
  buffer : List Char := []
  /-- How much of the buffer is carried over. -/
  carried : Nat := 0
  /-- Where the last safe boundary in the buffer ends. -/
  lastSafe : Option Nat := none
deriving DecidableEq, Repr

namespace Splitter

/-- Finishes a fragment: it is balanced, and kept if it shows anything. -/
def emit (b : Splitter) (fragment : List Char) : Splitter :=
  let message := balance fragment
  if hasVisibleContent message then { b with done := message :: b.done } else b

/-- Cuts a markup in two. The first part is emitted; the second waits, after the tags that were
open at the cut. -/
def cut (b : Splitter) (s : List Char) (position : Nat) : Splitter :=
  let reopened := openingTags (openTags (s.take position))
  { b.emit (s.take position) with
    buffer := reopened ++ s.drop position
    carried := reopened.length
    lastSafe := none }

theorem cut_buffer_length (b : Splitter) (s : List Char) (position : Nat) :
    (b.cut s position).buffer.length = (b.cut s position).carried + (s.length - position) := by
  simp [cut]

/-- Forces cuts until the buffer fits, or holds carried tags only. -/
def shrink (b : Splitter) : Splitter :=
  if b.budget < b.buffer.length && b.carried < b.buffer.length then
    (b.cut b.buffer (forcedCut b.buffer b.budget b.carried)).shrink
  else b
termination_by b.buffer.length - b.carried
decreasing_by
  have h : b.carried < b.buffer.length := by
    simp_all
  have p := lt_forcedCut b.budget h
  have e := cut_buffer_length b b.buffer (forcedCut b.buffer b.budget b.carried)
  omega

def cutPlace (b : Splitter) (s : List Char) : Nat :=
  match b.lastSafe with
  | some safe => if b.carried < safe then safe else forcedCut s b.budget b.carried
  | none => forcedCut s b.budget b.carried

def place (b : Splitter) (token : List Char) : Splitter :=
  let s := b.buffer ++ token
  if b.budget < s.length then (b.cut s (b.cutPlace s)).shrink else { b with buffer := s }

def add (b : Splitter) (token : List Char) : Splitter :=
  let b := b.place token
  if isSafeBoundary token && endsWith token b.buffer then
    { b with lastSafe := some b.buffer.length }
  else b

def finish (b : Splitter) : List (List Char) :=
  (if b.buffer.isEmpty then b else b.emit b.buffer).done.reverse

end Splitter

/-- The markup as messages of about the given length, each balanced in itself. -/
def split (budget : Nat) (s : List Char) : List (List Char) :=
  ((tokens s).foldl Splitter.add { budget }).finish

end ChatMarkup.Markup
