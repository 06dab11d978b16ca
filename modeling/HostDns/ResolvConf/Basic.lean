import HostDns.Address.Reader
import HostDns.NameServers
import HostDns.Text.Blank

/-!
The name servers of a resolver configuration.

A line says something by its first token: `nameserver` lists a server, `port` sets the port of the
servers that follow, `domain` the domain that they belong to. Lines that start with `#` or `;` are
comments, and other first tokens say nothing here. What a line says depends on that line alone;
`Reading` holds what carries over from line to line.
-/

namespace HostDns.ResolvConf

/-- The first tokens that need a value. -/
inductive Keyword where
  | nameServer
  | port
  | domain
  deriving DecidableEq, Repr

namespace Keyword

/-- The token. -/
def token : Keyword → String
  | .nameServer => "nameserver"
  | .port => "port"
  | .domain => "domain"

/-- The keyword that a token spells. -/
def ofToken? (token : List Char) : Option Keyword :=
  [nameServer, port, domain].find? fun keyword => keyword.token.toList = token

end Keyword

/-- What is wrong with a line. -/
inductive Fault where
  | missingValue (keyword : Keyword)
  | invalidAddress (value : String)
  | invalidPort (value : String)
  deriving DecidableEq, Repr

/-- What is wrong with a text: the number of its first malformed line, counted from one, and the
fault there. -/
structure Malformed where
  line : Nat
  fault : Fault
  deriving DecidableEq, Repr

/-- A server as a line gives it: the scope is zero for an address without zone, and a port is there
only if the line gives one. -/
structure Listed where
  ip : Ip
  scope : UInt32
  port : Option UInt16
  deriving DecidableEq, Repr

namespace Listed

/-- The socket of a listed server where `current` is the port of servers that give none. -/
def socket (current : UInt16) (l : Listed) : Socket :=
  match l.ip with
  | .v4 address => .v4 address (l.port.getD current)
  | .v6 address => .v6 address (l.port.getD current) 0 l.scope

/-- An address, or an IPv6 address with a zone behind a percent sign. A zone that is not a scope
number counts as scope zero. -/
def zoned? (value : List Char) : Option (Ip × UInt32) :=
  match Ip.ofChars? value with
  | some ip => some (ip, 0)
  | none => do
    let (host, zone) ← Text.splitFirst '%' value
    let address ← Ipv6.ofChars? host
    pure (.v6 address, UInt32.ofNat ((Text.natural? 4294967296 zone).getD 0))

/-- The server that a value names: an address as `zoned?` takes it, or one followed by a full stop
and a port. -/
def ofValue? (value : List Char) : Option Listed :=
  match zoned? value with
  | some (ip, scope) => some ⟨ip, scope, none⟩
  | none => do
    let (host, suffix) ← Text.splitLast '.' value
    let port ← Text.natural? 65536 suffix
    let (ip, scope) ← zoned? host
    pure ⟨ip, scope, some (UInt16.ofNat port)⟩

end Listed

/-- What a line says. -/
inductive Directive where
  | nothing
  | server (listed : Listed)
  | port (port : UInt16)
  | domain (name : String)
  deriving DecidableEq, Repr

namespace Directive

/-- What the value of a keyword says. -/
def ofValue (keyword : Keyword) (value : List Char) : Except Fault Directive :=
  match keyword with
  | .nameServer =>
    match Listed.ofValue? value with
    | some listed => .ok (.server listed)
    | none => .error (.invalidAddress (String.ofList value))
  | .port =>
    match Text.natural? 65536 value with
    | some n => .ok (.port (UInt16.ofNat n))
    | none => .error (.invalidPort (String.ofList value))
  | .domain => .ok (.domain (String.ofList value))

/-- Whether a first token opens a comment. -/
def opensComment (token : List Char) : Bool :=
  token.head? = some '#' || token.head? = some ';'

/-- What a line says, from its tokens. -/
def ofTokens : List (List Char) → Except Fault Directive
  | [] => .ok .nothing
  | first :: rest =>
    if opensComment first then .ok .nothing
    else match Keyword.ofToken? first with
      | none => .ok .nothing
      | some keyword =>
        match rest with
        | [] => .error (.missingValue keyword)
        | value :: _ => ofValue keyword value

/-- What a line says. -/
def ofLine (line : List Char) : Except Fault Directive := ofTokens (Text.tokens line)

end Directive

/-- What is known part way through a text: the servers of the domains that are done, the domain and
the port that hold now, and the servers that wait for the domain to be done. -/
structure Reading where
  servers : NameServers
  domain : String
  pending : List Socket
  port : UInt16

namespace Reading

/-- Before the first line. -/
def start : Reading := ⟨.empty, defaultDomain, [], dnsPort⟩

/-- Hands the waiting servers over to their domain. Without a server the domain is not named. -/
def flush (r : Reading) : Reading :=
  if r.pending = [] then r
  else { r with servers := r.servers.extend r.domain r.pending, pending := [] }

/-- Takes in what a line says. -/
def apply (r : Reading) : Directive → Reading
  | .nothing => r
  | .server listed => { r with pending := r.pending ++ [listed.socket r.port] }
  | .port port => { r with port := port }
  | .domain name => { r.flush with domain := name }

end Reading

/-- Takes in lines, the first of which has number `line`, up to the first malformed one. -/
def readLines (r : Reading) (line : Nat) : List (List Char) → Except Malformed Reading
  | [] => .ok r
  | text :: rest =>
    match Directive.ofLine text with
    | .error fault => .error ⟨line, fault⟩
    | .ok directive => readLines (r.apply directive) (line + 1) rest

/-- The name servers that a text lists. -/
def nameServers (text : String) : Except Malformed NameServers :=
  (readLines .start 1 (Text.lines text.toList)).map (·.flush.servers)

end HostDns.ResolvConf
