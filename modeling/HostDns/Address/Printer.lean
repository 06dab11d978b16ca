import HostDns.Address.Basic
import HostDns.Text.Numeral

/-!
The text of addresses and sockets.

IPv4 addresses are dotted. An IPv6 address is written in groups of lower-case hexadecimal without
leading zeros; the first of its longest runs of at least two zero groups becomes `::`, and an address
that carries an IPv4 one ends with that address in dotted form.
-/

namespace HostDns

/-- The dotted form. -/
def Ipv4.chars (address : Ipv4) : List Char :=
  Text.decimal address.a.toNat ++ '.' :: Text.decimal address.b.toNat ++
    '.' :: Text.decimal address.c.toNat ++ '.' :: Text.decimal address.d.toNat

namespace Ipv6

/-- How many zero groups the list starts with. -/
def leadingZeros : List UInt16 → Nat
  | [] => 0
  | g :: rest => if g = 0 then leadingZeros rest + 1 else 0

/-- Where the first of the longest runs of zero groups starts, and its length. -/
def longestZeros : List UInt16 → Nat × Nat
  | [] => (0, 0)
  | g :: rest =>
    let here := leadingZeros (g :: rest)
    let (start, length) := longestZeros rest
    if length ≤ here then (0, here) else (start + 1, length)

/-- Groups in hexadecimal with a colon between them. -/
def joinGroups : List UInt16 → List Char
  | [] => []
  | [g] => Text.hexadecimal g.toNat
  | g :: rest => Text.hexadecimal g.toNat ++ ':' :: joinGroups rest

/-- Groups with the first of their longest runs of at least two zeros written `::`. -/
def compressed (groups : List UInt16) : List Char :=
  let (start, length) := longestZeros groups
  if length > 1 then
    joinGroups (groups.take start) ++ ':' :: ':' :: joinGroups (groups.drop (start + length))
  else joinGroups groups

/-- The text of an IPv6 address. -/
def chars (address : Ipv6) : List Char :=
  match address.mappedIpv4? with
  | some inner => "::ffff:".toList ++ inner.chars
  | none => compressed address.groups.toList

end Ipv6

/-- The text of an address. -/
def Ip.chars : Ip → List Char
  | .v4 address => address.chars
  | .v6 address => address.chars

/-- The text of a socket: an IPv6 address stands in brackets, with its scope if that is not zero. -/
def Socket.chars : Socket → List Char
  | .v4 address port => address.chars ++ ':' :: Text.decimal port.toNat
  | .v6 address port _ scope =>
    '[' :: address.chars ++ (if scope = 0 then [] else '%' :: Text.decimal scope.toNat) ++
      ']' :: ':' :: Text.decimal port.toNat

/-- The text of an address as a string. -/
def Ip.text (ip : Ip) : String := String.ofList ip.chars

/-- The text of a socket as a string. -/
def Socket.text (s : Socket) : String := String.ofList s.chars

end HostDns
