import ChatMarkup.Text.Digit

/-!
# UTF-8

Encoding is the usual one. Decoding of documents never fails: each maximal part of the bytes that
begins like a character but does not end as one becomes a single replacement character, and so does
each byte that begins no character. Documents may begin with a byte order mark, which is no part of
them. Files of other kinds have to be text throughout, and the first part that is none is reported.
-/
namespace ChatMarkup.Text

/-- Stands for bytes that are no text. -/
def replacementChar : Char := Char.ofNat 0xFFFD

def encodeChar (c : Char) : List UInt8 :=
  let n := c.toNat
  let byte (m : Nat) : UInt8 := UInt8.ofNat m
  if n < 0x80 then [byte n]
  else if n < 0x800 then [byte (0xC0 + n / 64), byte (0x80 + n % 64)]
  else if n < 0x10000 then
    [byte (0xE0 + n / 4096), byte (0x80 + n / 64 % 64), byte (0x80 + n % 64)]
  else
    [byte (0xF0 + n / 262144), byte (0x80 + n / 4096 % 64), byte (0x80 + n / 64 % 64),
     byte (0x80 + n % 64)]

def encodeUtf8 (s : List Char) : List UInt8 := s.flatMap encodeChar

/-- What the first byte of a character promises: the bits it holds, how many bytes follow, and
the range of the first of them. -/
structure Lead where
  bits : Nat
  more : Nat
  low : Nat
  high : Nat
deriving DecidableEq, Repr

/-- The promise of a byte, unless no character begins with it. -/
def lead? (b : Nat) : Option Lead :=
  if b < 0x80 then some ⟨b, 0, 0x80, 0xBF⟩
  else if 0xC2 ≤ b && b ≤ 0xDF then some ⟨b - 0xC0, 1, 0x80, 0xBF⟩
  else if b == 0xE0 then some ⟨0, 2, 0xA0, 0xBF⟩
  else if b == 0xED then some ⟨13, 2, 0x80, 0x9F⟩
  else if 0xE1 ≤ b && b ≤ 0xEF then some ⟨b - 0xE0, 2, 0x80, 0xBF⟩
  else if b == 0xF0 then some ⟨0, 3, 0x90, 0xBF⟩
  else if 0xF1 ≤ b && b ≤ 0xF3 then some ⟨b - 0xF0, 3, 0x80, 0xBF⟩
  else if b == 0xF4 then some ⟨4, 3, 0x80, 0x8F⟩
  else none

structure Pending where
  bits : Nat
  more : Nat
  low : Nat
  high : Nat
deriving DecidableEq, Repr

/-- Decodes bytes, in the middle of a character or between two. A byte that does not continue a
character that has begun ends it, and is looked at again as a beginning. -/
def decodeFrom : Option Pending → List UInt8 → List Char
  | none, [] => []
  | some _, [] => [replacementChar]
  | pending, b :: rest =>
    let n := b.toNat
    let begin (given : List Char) : List Char :=
      match lead? n with
      | none => given ++ replacementChar :: decodeFrom none rest
      | some lead =>
        if lead.more == 0 then given ++ Char.ofNat lead.bits :: decodeFrom none rest
        else given ++ decodeFrom (some ⟨lead.bits, lead.more, lead.low, lead.high⟩) rest
    match pending with
    | none => begin []
    | some p =>
      if p.low ≤ n && n ≤ p.high then
        let bits := p.bits * 64 + (n - 0x80)
        if p.more ≤ 1 then Char.ofNat bits :: decodeFrom none rest
        else decodeFrom (some ⟨bits, p.more - 1, 0x80, 0xBF⟩) rest
      else begin [replacementChar]

/-- The text of bytes, with replacement characters where they are no text. -/
def decodeUtf8 (bytes : List UInt8) : List Char := decodeFrom none bytes

def dropByteOrderMark : List UInt8 → List UInt8
  | 0xEF :: 0xBB :: 0xBF :: rest => rest
  | bytes => bytes

/-- The text of a document, of which a byte order mark is no part. -/
def decodeDocument (bytes : List UInt8) : List Char := decodeUtf8 (dropByteOrderMark bytes)

inductive Utf8Problem where
  | badStart
  | badContinuation
  | truncated
deriving DecidableEq, Repr

def Utf8Problem.text : Utf8Problem → String
  | .badStart => "invalid start byte"
  | .badContinuation => "invalid continuation byte"
  | .truncated => "unexpected end of data"

/-- Bytes that are no text: where they start and stop, the first of them, and the problem. -/
structure Utf8Fault where
  start : Nat
  stop : Nat
  first : UInt8
  problem : Utf8Problem
deriving DecidableEq, Repr

def Utf8Fault.message (f : Utf8Fault) : String :=
  let place :=
    if f.stop ≤ f.start + 1 then s!"byte 0x{hexText 2 f.first.toNat} in position {f.start}"
    else s!"bytes in position {f.start}-{f.stop - 1}"
  s!"'utf-8' codec can't decode {place}: {f.problem.text}"

/-- The first fault of bytes that stand at a position, in the middle of a character or between two.
Of a character that has begun the start and the first byte are known. -/
def faultFrom? (position : Nat) :
    Option (Nat × UInt8 × Pending) → List UInt8 → Option Utf8Fault
  | none, [] => none
  | some (start, first, _), [] => some ⟨start, position, first, .truncated⟩
  | none, b :: rest =>
    match lead? b.toNat with
    | none => some ⟨position, position + 1, b, .badStart⟩
    | some lead =>
      let pending := if lead.more == 0 then none
        else some (position, b, ⟨lead.bits, lead.more, lead.low, lead.high⟩)
      faultFrom? (position + 1) pending rest
  | some (start, first, p), b :: rest =>
    if p.low ≤ b.toNat && b.toNat ≤ p.high then
      let pending := if p.more ≤ 1 then none else some (start, first, ⟨0, p.more - 1, 0x80, 0xBF⟩)
      faultFrom? (position + 1) pending rest
    else some ⟨start, position, first, .badContinuation⟩

/-- The text of bytes that are text throughout, or the first fault. -/
def decodeStrict (bytes : List UInt8) : Except Utf8Fault (List Char) :=
  match faultFrom? 0 none bytes with
  | some fault => .error fault
  | none => .ok (decodeUtf8 bytes)

end ChatMarkup.Text
