import HostDns.Adapter.Kind
import HostDns.NameServers

/-!
What a command line asks for: a command with its options, and the options that all commands share.
-/

namespace HostDns

/-- The options of a listing of adapters. -/
structure AdapterOptions where
  json : Bool := false
  ipVersion : Option IpVersion := none
  includeDown : Bool := false
  includeWins : Bool := false
  includeAdapters : List String := []
  excludeAdapters : List String := []
  excludeVirtual : Bool := false
  excludeLoopback : Bool := false
  deriving DecidableEq, Repr

/-- The options of a listing of name servers. -/
structure NameServerOptions where
  json : Bool := false
  prefer : Option Preference := none
  resolvConf : List String := []
  fallbacks : List String := []
  deriving DecidableEq, Repr

/-- A command with its options. -/
inductive Command where
  | adapters (options : AdapterOptions)
  | nameServers (options : NameServerOptions)
  /-- Writes a configuration template to a path. -/
  | init (output : String)
  deriving DecidableEq, Repr

/-- A command line. -/
structure CommandLine where
  command : Command
  /-- The path of a configuration document. -/
  config : Option String := none
  verbose : Bool := false
  deriving DecidableEq, Repr

namespace Command

/-- The options of a listing of adapters, if the command is one. -/
def adapters? : Command → Option AdapterOptions
  | .adapters options => some options
  | _ => none

/-- The options of a listing of name servers, if the command is one. -/
def nameServers? : Command → Option NameServerOptions
  | .nameServers options => some options
  | _ => none

/-- Whether the command writes a template. -/
def isInit : Command → Bool
  | .init _ => true
  | _ => false

/-- Whether the command prints a document. -/
def json : Command → Bool
  | .adapters options => options.json
  | .nameServers options => options.json
  | .init _ => false

end Command

/-- Where a template is written to if no path is given. -/
def defaultOutput : String := "adapter-dns.toml"

end HostDns
