import HostDns.Address.Basic
import HostDns.Text.Numeral

/-!
Reading addresses and sockets.

A reader of a part takes the text and answers the value with the text behind it. `Ip.ofChars?` and
`Socket.ofChars?` accept a text only as a whole.
-/

namespace HostDns

/-- A reader of a leading part of a text. -/
abbrev PartReader (α : Type) := List Char → Option (α × List Char)

/-- The value of a text that a reader takes as a whole. -/
def PartReader.whole? {α : Type} (read : PartReader α) (s : List Char) : Option α :=
  match read s with
  | some (value, []) => some value
  | _ => none

/-- Drops the character `c`, which has to come first. -/
def expect (c : Char) : List Char → Option (List Char)
  | [] => none
  | d :: rest => if d = c then some rest else none

/-- A decimal number below `bound` with any number of leading zeros, as in ports and scopes. -/
def readNumber (bound : Nat) : PartReader Nat := fun s => do
  let n ← Text.digits? (s.takeWhile Char.isDigit)
  guard (n < bound)
  pure (n, s.dropWhile Char.isDigit)

/-- A byte of a dotted address: one to three decimal digits and no leading zero. -/
def Ipv4.readByte : PartReader UInt8 := fun s => do
  let digits := s.takeWhile Char.isDigit
  let n ← Text.digits? digits
  guard (digits.length ≤ 3 ∧ n < 256)
  guard (digits.length = 1 ∨ digits.head? ≠ some '0')
  pure (UInt8.ofNat n, s.dropWhile Char.isDigit)

/-- A dotted address. -/
def Ipv4.read : PartReader Ipv4 := fun s => do
  let (a, s) ← readByte s
  let (b, s) ← readByte (← expect '.' s)
  let (c, s) ← readByte (← expect '.' s)
  let (d, s) ← readByte (← expect '.' s)
  pure (⟨a, b, c, d⟩, s)

namespace Ipv6

/-- Whether a character is a hexadecimal digit of either case. -/
def isHexDigit (c : Char) : Bool := (Text.hexDigit? c).isSome

/-- One group: one to four hexadecimal digits. -/
def readGroup : PartReader UInt16 := fun s => do
  let digits := s.takeWhile isHexDigit
  guard (0 < digits.length ∧ digits.length ≤ 4)
  pure (UInt16.ofNat (Text.hexValue digits), s.dropWhile isHexDigit)

/-- The two groups that the bytes of an IPv4 address fill. -/
def groupsOfIpv4 (address : Ipv4) : List UInt16 :=
  [address.a.toUInt16 <<< 8 ||| address.b.toUInt16, address.c.toUInt16 <<< 8 ||| address.d.toUInt16]

/-- The groups that a series holds, whether it ended with a dotted address, and the rest. -/
structure Series where
  groups : List UInt16
  dotted : Bool
  rest : List Char

/-- Reads at most `room` groups with colons between them; a dotted address may fill the last two.
`first` says that no colon stands before the next group. The series ends where no further group can
be read, before the colon if there is one. -/
def readSeries : (room : Nat) → (first : Bool) → List Char → Series
  | 0, _, s => ⟨[], false, s⟩
  | room + 1, first, s =>
    match if first then some s else expect ':' s with
    | none => ⟨[], false, s⟩
    | some body =>
      match if 0 < room then Ipv4.read body else none with
      | some (inner, rest) => ⟨groupsOfIpv4 inner, true, rest⟩
      | none =>
        match readGroup body with
        | none => ⟨[], false, s⟩
        | some (g, rest) =>
          let more := readSeries room false rest
          ⟨g :: more.groups, more.dotted, more.rest⟩

/-- The address of exactly eight groups. -/
def ofGroups? (groups : List UInt16) : Option Ipv6 :=
  if h : groups.length = 8 then some ⟨⟨groups.toArray, by simpa using h⟩⟩ else none

/-- An IPv6 address: eight groups, or fewer around one `::` that stands for the missing zeros. A
dotted address may close either form but may not stand before `::`. -/
def read : PartReader Ipv6 := fun s =>
  let head := readSeries 8 true s
  if head.groups.length = 8 then (ofGroups? head.groups).map (·, head.rest)
  else if head.dotted then none
  else do
    let body ← expect ':' (← expect ':' head.rest)
    let tail := readSeries (7 - head.groups.length) true body
    let zeros := List.replicate (8 - head.groups.length - tail.groups.length) 0
    let address ← ofGroups? (head.groups ++ zeros ++ tail.groups)
    pure (address, tail.rest)

/-- Reads a text that is an IPv6 address as a whole. -/
def ofChars? : List Char → Option Ipv6 := PartReader.whole? read

end Ipv6

/-- An address of either family. -/
def Ip.read : PartReader Ip := fun s =>
  match Ipv4.read s with
  | some (address, rest) => some (.v4 address, rest)
  | none => (Ipv6.read s).map fun (address, rest) => (.v6 address, rest)

/-- Reads a text that is an address as a whole. -/
def Ip.ofChars? : List Char → Option Ip := PartReader.whole? Ip.read

namespace Socket

/-- A colon and a port. -/
def readPort : PartReader UInt16 := fun s => do
  let (n, rest) ← readNumber 65536 (← expect ':' s)
  pure (UInt16.ofNat n, rest)

/-- A percent sign and a scope. -/
def readScope : PartReader UInt32 := fun s => do
  let (n, rest) ← readNumber 4294967296 (← expect '%' s)
  pure (UInt32.ofNat n, rest)

/-- A dotted address with its port. -/
def readIpv4 : PartReader Socket := fun s => do
  let (address, s) ← Ipv4.read s
  let (port, s) ← readPort s
  pure (.v4 address port, s)

/-- A bracketed IPv6 address with its port and, before the bracket, an optional scope. -/
def readIpv6 : PartReader Socket := fun s => do
  let (address, s) ← Ipv6.read (← expect '[' s)
  let (scope, s) := (readScope s).getD (0, s)
  let (port, s) ← readPort (← expect ']' s)
  pure (.v6 address port 0 scope, s)

/-- A socket of either family. -/
def read : PartReader Socket := fun s => (readIpv4 s).or (readIpv6 s)

/-- Reads a text that is a socket as a whole. -/
def ofChars? : List Char → Option Socket := PartReader.whole? read

end Socket

/-- Reads a text that is an address as a whole. -/
def Ip.ofString? (s : String) : Option Ip := Ip.ofChars? s.toList

/-- Reads a text that is a socket as a whole. -/
def Socket.ofString? (s : String) : Option Socket := Socket.ofChars? s.toList

end HostDns
