/-!
Numerals: natural numbers and integers written in decimal, and natural numbers written in
hexadecimal. Readers take a bound and refuse what lies beyond it.
-/

namespace HostDns.Text

/-- The number that a run of decimal digits denotes, most significant digit first. -/
def decimalValue (digits : List Char) : Nat :=
  digits.foldl (fun n c => 10 * n + (c.toNat - '0'.toNat)) 0

/-- Reads a text that consists of decimal digits only and has at least one. -/
def digits? (s : List Char) : Option Nat :=
  if s ≠ [] ∧ s.all Char.isDigit then some (decimalValue s) else none

/-- Reads a natural number below `bound`, with or without a plus sign. -/
def natural? (bound : Nat) (s : List Char) : Option Nat :=
  (digits? (match s with
    | '+' :: rest => rest
    | rest => rest)).filter (· < bound)

/-- Reads an integer from `-bound` up to but not including `bound`, with or without a sign. -/
def integer? (bound : Nat) (s : List Char) : Option Int :=
  match s with
  | '-' :: rest => ((digits? rest).filter (· ≤ bound)).map fun n => -(n : Int)
  | _ => (natural? bound s).map Int.ofNat

/-- Writes a natural number in decimal. -/
def decimal (n : Nat) : List Char := Nat.toDigits 10 n

/-- Writes a natural number in hexadecimal with lower-case digits. -/
def hexadecimal (n : Nat) : List Char := Nat.toDigits 16 n

/-- Pads a numeral on the left with zeros to `width` characters. -/
def zeroPadded (width : Nat) (numeral : List Char) : List Char :=
  List.replicate (width - numeral.length) '0' ++ numeral

/-- The value of a hexadecimal digit of either case. -/
def hexDigit? (c : Char) : Option Nat :=
  if '0' ≤ c ∧ c ≤ '9' then some (c.toNat - '0'.toNat)
  else if 'a' ≤ c ∧ c ≤ 'f' then some (c.toNat - 'a'.toNat + 10)
  else if 'A' ≤ c ∧ c ≤ 'F' then some (c.toNat - 'A'.toNat + 10)
  else none

/-- The number that a run of hexadecimal digits denotes. -/
def hexValue (digits : List Char) : Nat :=
  digits.foldl (fun n c => 16 * n + (hexDigit? c).getD 0) 0

/-- Writes a byte as two hexadecimal digits. -/
def hexByte (b : UInt8) : List Char := zeroPadded 2 (hexadecimal b.toNat)

/-- The upper-case form of a numeral. -/
def capitals (numeral : List Char) : List Char := numeral.map Char.toUpper

end HostDns.Text
