import HostDns.Adapter.Basic

/-!
What an enumeration of adapters is asked for, where it comes from, and why it can fail.
-/

namespace HostDns

/-- An option of an enumeration, which is one bit of its flags. -/
inductive QueryOption where
  | skipUnicast
  | skipAnycast
  | skipMulticast
  | skipDnsServer
  | includePrefix
  | skipFriendlyName
  | includeWinsInfo
  | includeGateways
  | includeAllInterfaces
  | includeAllCompartments
  | includeTunnelBindingOrder
  deriving DecidableEq, Repr

namespace QueryOption

/-- The options with their names and bits, lowest bit first. -/
def table : List (QueryOption × String × UInt32) := [
  (skipUnicast, "SKIP_UNICAST", 0x1),
  (skipAnycast, "SKIP_ANYCAST", 0x2),
  (skipMulticast, "SKIP_MULTICAST", 0x4),
  (skipDnsServer, "SKIP_DNS_SERVER", 0x8),
  (includePrefix, "INCLUDE_PREFIX", 0x10),
  (skipFriendlyName, "SKIP_FRIENDLY_NAME", 0x20),
  (includeWinsInfo, "INCLUDE_WINS_INFO", 0x40),
  (includeGateways, "INCLUDE_GATEWAYS", 0x80),
  (includeAllInterfaces, "INCLUDE_ALL_INTERFACES", 0x100),
  (includeAllCompartments, "INCLUDE_ALL_COMPARTMENTS", 0x200),
  (includeTunnelBindingOrder, "INCLUDE_TUNNEL_BINDINGORDER", 0x400)]

/-- The bit of an option. -/
def bit (o : QueryOption) : UInt32 := ((table.lookup o).map (·.2)).getD 0

end QueryOption

/-- The flags of an enumeration. -/
structure QueryFlags where
  bits : UInt32
  deriving DecidableEq, Repr

namespace QueryFlags

/-- No option. -/
def none : QueryFlags := ⟨0⟩

/-- The flags with an option set. -/
def set (f : QueryFlags) (o : QueryOption) : QueryFlags := ⟨f.bits ||| o.bit⟩

/-- The flags of some options. -/
def ofOptions (options : List QueryOption) : QueryFlags := options.foldl set none

/-- Whether every bit of a mask is set. -/
def contains (f : QueryFlags) (mask : UInt32) : Bool := f.bits &&& mask == mask

/-- The names of the options that are set. -/
def names (f : QueryFlags) : List String :=
  (QueryOption.table.filter fun (_, _, bit) => f.contains bit).map (·.2.1)

end QueryFlags

/-- What an enumeration is asked for. -/
structure AdapterQuery where
  version : IpVersion
  flags : QueryFlags
  deriving DecidableEq, Repr

namespace AdapterQuery

/-- The query of a listing: both families, with prefixes and gateways. -/
def listing : AdapterQuery := ⟨.both, .ofOptions [.includePrefix, .includeGateways]⟩

/-- The query of name-server discovery: nothing but the lists of DNS servers. -/
def nameServers : AdapterQuery :=
  ⟨.both, .ofOptions [.skipUnicast, .skipAnycast, .skipMulticast, .skipFriendlyName]⟩

/-- The query with another version. -/
def withVersion (q : AdapterQuery) (version : IpVersion) : AdapterQuery := { q with version }

/-- The query that asks for WINS servers too. -/
def withWins (q : AdapterQuery) : AdapterQuery := { q with flags := q.flags.set .includeWinsInfo }

/-- The number of the address family that is asked for: 2 for IPv4, 23 for IPv6, 0 for both. -/
def family (q : AdapterQuery) : UInt16 :=
  match q.version with
  | .v4 => 2
  | .v6 => 23
  | .both => 0

end AdapterQuery

/-- A list of a block that runs into itself, and how many of its nodes come before that. -/
structure Cycle where
  list : String
  position : Nat
  deriving DecidableEq, Repr

/-- The text of a cycle. -/
def Cycle.message (c : Cycle) : String :=
  "cycle detected in " ++ c.list ++ " list after " ++ toString c.position ++ " node(s)"

/-- The text of a block that cannot be decoded. -/
def Cycle.blockMessage (c : Cycle) : String := "malformed adapter block: " ++ c.message

/-- Why an enumeration fails. -/
inductive FetchError where
  | malformedBlock (cycle : Cycle)
  /-- The data kept growing while it was read. -/
  | growing (attempts : UInt32) (size : UInt32)
  /-- The platform cannot enumerate adapters. -/
  | unsupported
  deriving DecidableEq, Repr

/-- The text of a failed enumeration. -/
def FetchError.message : FetchError → String
  | .malformedBlock cycle => "Failed to decode adapter data: " ++ cycle.blockMessage
  | .growing attempts size =>
    "Adapter data kept growing after " ++ toString attempts.toNat ++ " attempts (last size " ++
      toString size.toNat ++ " bytes)"
  | .unsupported => "Adapter enumeration is not supported on this platform"

/-- A source of adapters: what an enumeration answers to a query, in a setting `m`. -/
abbrev AdapterSource (m : Type → Type) := AdapterQuery → m (Except FetchError (List Adapter))

namespace AdapterSource

/-- The source of a platform that cannot enumerate adapters. -/
def unsupported {m : Type → Type} [Monad m] : AdapterSource m := fun _ => return .error .unsupported

end AdapterSource

end HostDns
