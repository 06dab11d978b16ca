/-!
Reading bytes as UTF-8 where some of them may be wrong.

Each well-formed character stands for itself. Of the rest, every longest start of a well-formed
character counts as one replacement character, and so does every byte that starts none.
-/

namespace HostDns.Text.Utf8

/-- The character that stands for bytes that are no character. -/
def replacement : Char := '\uFFFD'

/-- A character of which some bytes are known: how many are missing, the range of the next one, and
the bits so far. -/
structure Partial where
  missing : Nat
  low : UInt8
  high : UInt8
  bits : Nat

/-- What a byte is at the start of a character. -/
inductive Lead where
  | whole (c : Char)
  | start (p : Partial)
  | wrong

/-- What a byte is at the start of a character. -/
def Lead.ofByte (b : UInt8) : Lead :=
  let n := b.toNat
  if n < 0x80 then .whole (Char.ofNat n)
  else if 0xC2 ≤ n ∧ n ≤ 0xDF then .start ⟨1, 0x80, 0xBF, n - 0xC0⟩
  else if n = 0xE0 then .start ⟨2, 0xA0, 0xBF, 0⟩
  else if n = 0xED then .start ⟨2, 0x80, 0x9F, 0xD⟩
  else if 0xE1 ≤ n ∧ n ≤ 0xEF then .start ⟨2, 0x80, 0xBF, n - 0xE0⟩
  else if n = 0xF0 then .start ⟨3, 0x90, 0xBF, 0⟩
  else if 0xF1 ≤ n ∧ n ≤ 0xF3 then .start ⟨3, 0x80, 0xBF, n - 0xF0⟩
  else if n = 0xF4 then .start ⟨3, 0x80, 0x8F, 4⟩
  else .wrong

/-- The partial character with one more byte. -/
def Partial.push (p : Partial) (b : UInt8) : Partial :=
  ⟨p.missing - 1, 0x80, 0xBF, p.bits * 64 + (b.toNat - 0x80)⟩

/-- The characters of bytes that may follow a partial character. -/
def decodeFrom : Option Partial → List UInt8 → List Char
  | none, [] => []
  | some _, [] => [replacement]
  | none, b :: rest =>
    match Lead.ofByte b with
    | .whole c => c :: decodeFrom none rest
    | .start p => decodeFrom (some p) rest
    | .wrong => replacement :: decodeFrom none rest
  | some p, b :: rest =>
    if p.low ≤ b ∧ b ≤ p.high then
      let q := p.push b
      if q.missing = 0 then Char.ofNat q.bits :: decodeFrom none rest
      else decodeFrom (some q) rest
    else
      replacement :: match Lead.ofByte b with
        | .whole c => c :: decodeFrom none rest
        | .start q => decodeFrom (some q) rest
        | .wrong => replacement :: decodeFrom none rest

/-- The characters of bytes. -/
def decode (bytes : List UInt8) : List Char := decodeFrom none bytes

end HostDns.Text.Utf8
