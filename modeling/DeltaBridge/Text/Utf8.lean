import DeltaBridge.Decimal.Digits

/-!
# UTF-8

Reading bytes as UTF-8. A sequence is refused at the first byte that cannot continue it, and the
refusal names the longest start of a sequence that was there.

* `Utf8.lead?`: how many bytes follow a leading byte, and the range of the first of them;
* `Utf8.next`: the first character of some bytes, or why there is none;
* `Utf8.decode`: strict reading, with the position of the first fault;
* `Utf8.decodeLossy`: reading with a replacement character for each fault;
* `Utf8.encode`: the bytes of a text without surrogates.
-/

namespace DeltaBridge.Utf8

/-- Why bytes do not start with a character. -/
inductive Fault where
  | invalidStart
  | unexpectedEnd
  | invalidContinuation
  deriving DecidableEq, Repr

/-- The fault in words. -/
def Fault.reason : Fault → String
  | .invalidStart => "invalid start byte"
  | .unexpectedEnd => "unexpected end of data"
  | .invalidContinuation => "invalid continuation byte"

/-- The fault found by a strict reading: where the faulty sequence starts, its bytes, and the reason. -/
structure Error where
  position : Nat
  bytes : Bytes
  fault : Fault
  deriving DecidableEq, Repr

/-- The fault in words, with its place and the byte if there is only one. -/
def Error.message (e : Error) : Text :=
  match e.bytes with
  | [b] => "'utf-8' codec can't decode byte 0x" ++ Ascii.hex 2 b ++ " in position " ++
      natText e.position ++ ": " ++ e.fault.reason
  | bs => "'utf-8' codec can't decode bytes in position " ++ natText e.position ++ "-" ++
      natText (e.position + bs.length - 1) ++ ": " ++ e.fault.reason

/-- What a leading byte announces. -/
structure Lead where
  /-- The bits that it contributes. -/
  bits : Nat
  /-- The number of bytes that follow. -/
  tails : Nat
  /-- The least and the greatest value of the first of them. -/
  low : Nat
  high : Nat
  deriving DecidableEq, Repr

/-- The leading bytes of sequences of two or more bytes. -/
def lead? (b : Nat) : Option Lead :=
  if 0xC2 ≤ b ∧ b ≤ 0xDF then some ⟨b - 0xC0, 1, 0x80, 0xBF⟩
  else if b = 0xE0 then some ⟨0, 2, 0xA0, 0xBF⟩
  else if b = 0xED then some ⟨0xD, 2, 0x80, 0x9F⟩
  else if 0xE1 ≤ b ∧ b ≤ 0xEF then some ⟨b - 0xE0, 2, 0x80, 0xBF⟩
  else if b = 0xF0 then some ⟨0, 3, 0x90, 0xBF⟩
  else if 0xF1 ≤ b ∧ b ≤ 0xF3 then some ⟨b - 0xF0, 3, 0x80, 0xBF⟩
  else if b = 0xF4 then some ⟨4, 3, 0x80, 0x8F⟩
  else none

/-- The character of a sequence of which `n` bytes are still to come, the first of them between
`low` and `high`, and `acc` is read; a fault names the bytes of the sequence that were there. -/
def tails (acc : Nat) : (n low high : Nat) → Bytes → Except (Bytes × Fault) Nat
  | 0, _, _, _ => .ok acc
  | _ + 1, _, _, [] => .error ([], .unexpectedEnd)
  | n + 1, low, high, b :: r =>
    if low ≤ b ∧ b ≤ high then
      match tails (acc * 64 + (b - 0x80)) n 0x80 0xBF r with
      | .ok c => .ok c
      | .error (seen, f) => .error (b :: seen, f)
    else .error ([], .invalidContinuation)

/-- The character at the start of `b :: r` with the number of bytes after its first one, or the
bytes of the faulty sequence after the first one. -/
def next (b : Nat) (r : Bytes) : Except (Bytes × Fault) (CodePoint × Nat) :=
  if b < 0x80 then .ok (b, 0)
  else match lead? b with
    | none => .error ([], .invalidStart)
    | some l => (tails l.bits l.tails l.low l.high r).map fun c => (c, l.tails)

/-- Strict reading of the bytes after the first `position` ones; the first `skip` of them belong to a
character already read. -/
def decodeFrom (position : Nat) : (skip : Nat) → Bytes → Except Error Text
  | _, [] => .ok []
  | skip + 1, _ :: r => decodeFrom (position + 1) skip r
  | 0, b :: r =>
    match next b r with
    | .ok (c, n) => (decodeFrom (position + 1) n r).map (c :: ·)
    | .error (seen, f) => .error ⟨position, b :: seen, f⟩

/-- The text that the bytes encode. -/
def decode (b : Bytes) : Except Error Text := decodeFrom 0 0 b

/-- Reading with U+FFFD in the place of each faulty sequence. -/
def decodeLossyFrom : (skip : Nat) → Bytes → Text
  | _, [] => []
  | skip + 1, _ :: r => decodeLossyFrom skip r
  | 0, b :: r =>
    match next b r with
    | .ok (c, n) => c :: decodeLossyFrom n r
    | .error (seen, _) => 0xFFFD :: decodeLossyFrom seen.length r

/-- The text that the bytes encode, faulty sequences replaced. -/
def decodeLossy (b : Bytes) : Text := decodeLossyFrom 0 b

/-- The bytes of one character. -/
def encodeChar (c : CodePoint) : Bytes :=
  if c < 0x80 then [c]
  else if c < 0x800 then [0xC0 + c / 64, 0x80 + c % 64]
  else if c < 0x10000 then [0xE0 + c / 4096, 0x80 + c / 64 % 64, 0x80 + c % 64]
  else [0xF0 + c / 262144, 0x80 + c / 4096 % 64, 0x80 + c / 64 % 64, 0x80 + c % 64]

/-- The bytes of a text. -/
def encode (t : Text) : Bytes := t.flatMap encodeChar

end DeltaBridge.Utf8
