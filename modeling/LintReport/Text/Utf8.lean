/-
Decoding of UTF-8.

* `Utf8.decode` — the characters of a byte sequence, or the first sequence that is not
  UTF-8, with the reason;
* `Utf8.decodeLossy` — the characters, with one replacement character for every longest
  piece that could have begun a character.

Design notes: one pass over the bytes; a character that has begun is kept as a
`Utf8.Partial`, which knows the range its next byte must lie in (the ranges after the
leads E0, ED, F0 and F4 are narrower, so that overlong forms, surrogates and code points
past 10FFFF are refused at the first byte that rules them out).
-/

namespace LintReport.Text.Utf8

/-- Why a sequence of bytes is not UTF-8. -/
inductive Reason
  | invalidStart
  | invalidContinuation
  | unexpectedEnd
  deriving DecidableEq, Repr

/-- The wording of a reason. -/
def Reason.message : Reason → String
  | .invalidStart => "invalid start byte"
  | .invalidContinuation => "invalid continuation byte"
  | .unexpectedEnd => "unexpected end of data"

/-- The first undecodable piece: its lead byte, where it stands and how many bytes it has. -/
structure Error where
  lead : UInt8
  start : Nat
  count : Nat
  reason : Reason
  deriving DecidableEq, Repr

/-- The two lower-case hexadecimal digits of a byte. -/
def hexByte (b : UInt8) : String :=
  String.ofList [Nat.digitChar (b.toNat / 16), Nat.digitChar (b.toNat % 16)]

/-- The wording of a decoding error: one byte is shown, of several only the positions. -/
def Error.message (e : Error) : String :=
  if e.count = 1 then
    s!"'utf-8' codec can't decode byte 0x{hexByte e.lead} in position {e.start}: "
      ++ e.reason.message
  else
    s!"'utf-8' codec can't decode bytes in position {e.start}-{e.start + e.count - 1}: "
      ++ e.reason.message

/-- A character that has begun: its lead, the bytes read and owed, the bounds of the next
byte, and the code point so far. -/
structure Partial where
  lead : UInt8
  start : Nat
  count : Nat
  owed : Nat
  low : Nat
  high : Nat
  code : Nat
  deriving DecidableEq, Repr

/-- What one byte leads to. -/
inductive Step
  | done (c : Char)
  | more (p : Partial)
  | refused (reason : Reason)

/-- The step of a byte that begins a character. -/
def first (position : Nat) (b : UInt8) : Step :=
  let n := b.toNat
  let begun (owed low high bits : Nat) : Step := .more ⟨b, position, 1, owed, low, high, bits⟩
  if n < 0x80 then .done (Char.ofNat n)
  else if n < 0xC2 then .refused .invalidStart
  else if n < 0xE0 then begun 1 0x80 0xBF (n - 0xC0)
  else if n < 0xF0 then
    begun 2 (if n = 0xE0 then 0xA0 else 0x80) (if n = 0xED then 0x9F else 0xBF) (n - 0xE0)
  else if n < 0xF5 then
    begun 3 (if n = 0xF0 then 0x90 else 0x80) (if n = 0xF4 then 0x8F else 0xBF) (n - 0xF0)
  else .refused .invalidStart

/-- The step of a byte after the beginning of a character. -/
def Partial.next (p : Partial) (b : UInt8) : Step :=
  if p.low ≤ b.toNat && b.toNat ≤ p.high then
    let code := p.code * 64 + (b.toNat - 0x80)
    if p.owed = 1 then .done (Char.ofNat code)
    else .more { p with count := p.count + 1, owed := p.owed - 1, low := 0x80, high := 0xBF,
                        code := code }
  else .refused .invalidContinuation

/-- The error of a character that has begun and does not go on. -/
def Partial.error (p : Partial) (reason : Reason) : Error := ⟨p.lead, p.start, p.count, reason⟩

/-- Decodes the bytes from `position` on, after a character that may have begun. -/
def decodeFrom (position : Nat) (begun : Option Partial) :
    List UInt8 → Except Error (List Char)
  | [] =>
    match begun with
    | none => .ok []
    | some p => .error (p.error .unexpectedEnd)
  | b :: rest =>
    match begun with
    | none =>
      match first position b with
      | .done c => (c :: ·) <$> decodeFrom (position + 1) none rest
      | .more p => decodeFrom (position + 1) (some p) rest
      | .refused r => .error ⟨b, position, 1, r⟩
    | some p =>
      match p.next b with
      | .done c => (c :: ·) <$> decodeFrom (position + 1) none rest
      | .more p' => decodeFrom (position + 1) (some p') rest
      | .refused r => .error (p.error r)

/-- The characters of a byte sequence. -/
def decode (bytes : List UInt8) : Except Error (List Char) := decodeFrom 0 none bytes

/-- The character that stands for an undecodable piece. -/
def replacement : Char := '\ufffd'

/-- Decodes the bytes after a character that may have begun, replacing what is not UTF-8. -/
def decodeLossyFrom (begun : Option Partial) : List UInt8 → List Char
  | [] => if begun.isSome then [replacement] else []
  | b :: rest =>
    let restart (_ : Unit) : List Char :=
      match first 0 b with
      | .done c => c :: decodeLossyFrom none rest
      | .more p => decodeLossyFrom (some p) rest
      | .refused _ => replacement :: decodeLossyFrom none rest
    match begun with
    | none => restart ()
    | some p =>
      match p.next b with
      | .done c => c :: decodeLossyFrom none rest
      | .more p' => decodeLossyFrom (some p') rest
      | .refused _ => replacement :: restart ()

/-- The characters of a byte sequence, with a replacement for each undecodable piece. -/
def decodeLossy (bytes : List UInt8) : List Char := decodeLossyFrom none bytes

/-- The bytes of a character sequence. -/
def encode (cs : List Char) : List UInt8 := cs.flatMap String.utf8EncodeChar

end LintReport.Text.Utf8
