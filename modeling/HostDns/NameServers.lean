import HostDns.Address.Basic

/-!
Name servers grouped by search domain.

Domains keep the order in which they were first named, and each domain lists every server once, at
the place where it was first given.
-/

namespace HostDns

/-- The order in which the servers of the default domain are handed to a resolver. -/
inductive Preference where
  /-- All IPv6 servers, then all IPv4 servers. -/
  | ipv6First
  /-- IPv4 servers only. -/
  | ipv4Only
  /-- The order of discovery. -/
  | asListed
  deriving DecidableEq, Repr, Inhabited

/-- The name of a preference. -/
def Preference.name : Preference → String
  | .ipv6First => "ipv6-first"
  | .ipv4Only => "ipv4-only"
  | .asListed => "as-listed"

/-- The name of the domain that servers belong to when no other is given. -/
def defaultDomain : String := ""

/-- The port of a name server that gives none. -/
def dnsPort : UInt16 := 53

/-- The domains in the order they were first named, each with its servers. -/
structure NameServers where
  domains : List (String × List Socket)
  deriving DecidableEq, Repr

namespace NameServers

/-- No domain at all. -/
def empty : NameServers := ⟨[]⟩

/-- The servers of a domain, or `none` for a domain that was never named. -/
def forDomain? (s : NameServers) (domain : String) : Option (List Socket) :=
  s.domains.lookup domain

/-- The servers of a domain, none for a domain that was never named. -/
def serversOf (s : NameServers) (domain : String) : List Socket :=
  (s.forDomain? domain).getD []

/-- Adds a server at the end of a list unless the list has it already. -/
def addServer (servers : List Socket) (server : Socket) : List Socket :=
  if server ∈ servers then servers else servers ++ [server]

/-- Changes the servers of one domain, which is named last if it is new. -/
def modifyDomain (domain : String) (change : List Socket → List Socket) :
    List (String × List Socket) → List (String × List Socket)
  | [] => [(domain, change [])]
  | (name, servers) :: rest =>
    if name = domain then (name, change servers) :: rest
    else (name, servers) :: modifyDomain domain change rest

/-- Adds servers to a domain in order, skipping those it lists already. The domain is named even if
no server is given. -/
def extend (s : NameServers) (domain : String) (servers : List Socket) : NameServers :=
  ⟨modifyDomain domain (servers.foldl addServer) s.domains⟩

/-- Adds one server to a domain, and tells whether it was new there. -/
def insert (s : NameServers) (domain : String) (server : Socket) : Bool × NameServers :=
  (!(s.serversOf domain).contains server, ⟨modifyDomain domain (addServer · server) s.domains⟩)

/-- Whether the default domain has at least one server. -/
def hasDefaultServers (s : NameServers) : Bool := !(s.serversOf defaultDomain).isEmpty

/-- Whether no domain has a server. -/
def isEmpty (s : NameServers) : Bool := s.domains.all (·.2.isEmpty)

/-- The servers of the default domain in the order of a preference. -/
def defaultServers (s : NameServers) : Preference → List Socket
  | .asListed => s.serversOf defaultDomain
  | .ipv4Only => (s.serversOf defaultDomain).filter Socket.isIpv4
  | .ipv6First =>
    (s.serversOf defaultDomain).filter Socket.isIpv6 ++
      (s.serversOf defaultDomain).filter Socket.isIpv4

/-- The store that lists of servers per domain build up. -/
def ofList (entries : List (String × List Socket)) : NameServers :=
  entries.foldl (fun s (domain, servers) => s.extend domain servers) empty

end NameServers

end HostDns
