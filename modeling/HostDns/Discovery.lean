import HostDns.Adapter.Query
import HostDns.ResolvConf.Search

/-!
Discovering the name servers of a host.

Servers come from a resolver configuration or from the adapters that are up. Where neither gives a
server for the default domain, fallback servers take its place.
-/

namespace HostDns

/-- The name servers of the adapters that are up, all for the default domain and on the usual port.
Site-local servers are placeholders of adapters without a resolver and are left out. -/
def NameServers.ofAdapters (adapters : List Adapter) : NameServers :=
  let ips := (adapters.filter (·.operStatus.isUp)).flatMap fun a => a.dnsServers.map Socket.ip
  let usable := ips.filter fun
    | .v4 _ => true
    | .v6 address => !address.isSiteLocal
  usable.foldl (fun s ip => (s.insert defaultDomain (.ofIp ip dnsPort)).2) empty

/-- Why discovery fails. -/
inductive DiscoveryError where
  | fetch (cause : FetchError)
  | resolvConf (cause : ResolvConf.LoadError)
  deriving DecidableEq, Repr

/-- The text of a failed discovery. -/
def DiscoveryError.message : DiscoveryError → String
  | .fetch cause => cause.message
  | .resolvConf cause => cause.message

/-- The platforms that discovery tells apart. -/
inductive Platform where
  | windows
  | other
  deriving DecidableEq, Repr

/-- Where discovery looks, and what it falls back to. -/
structure Discovery where
  resolvConf : List String
  fallbacks : List Socket
  deriving DecidableEq, Repr

namespace Discovery

/-- The servers that are fallen back to where none are named. -/
def defaultFallbacks : List Socket := [.v4 ⟨1, 1, 1, 1⟩ dnsPort, .v4 ⟨8, 8, 8, 8⟩ dnsPort]

/-- Discovery at the usual places. -/
def standard : Discovery := ⟨ResolvConf.defaultPaths, defaultFallbacks⟩

/-- Gives the fallbacks to a default domain without servers. -/
def withFallbacks (d : Discovery) (s : NameServers) : NameServers :=
  if s.hasDefaultServers then s else s.extend defaultDomain d.fallbacks

/-- The name servers that a search of the candidates leads to. -/
def ofSearch (d : Discovery) (search : ResolvConf.Search) : Except DiscoveryError NameServers :=
  match search.nameServers? with
  | .error cause => .error (.resolvConf cause)
  | .ok servers => .ok (d.withFallbacks (servers.getD .empty))

/-- The name servers that the resolver configuration lists. -/
def nameServers {m : Type → Type} [Monad m] [FileAccess m] (d : Discovery) :
    m (Except DiscoveryError NameServers) :=
  return d.ofSearch (← ResolvConf.Search.run d.resolvConf)

/-- The name servers of the adapters that a source enumerates. -/
def adapterNameServers {m : Type → Type} [Monad m] (d : Discovery) (source : AdapterSource m) :
    m (Except DiscoveryError NameServers) := do
  match ← source .nameServers with
  | .error cause => return .error (.fetch cause)
  | .ok adapters => return .ok (d.withFallbacks (.ofAdapters adapters))

/-- Discovers name servers the way of a platform: only on Windows is the source asked. -/
def discover {m : Type → Type} [Monad m] [FileAccess m] (d : Discovery) (platform : Platform)
    (source : AdapterSource m) : m (Except DiscoveryError NameServers) :=
  match platform with
  | .windows => d.adapterNameServers source
  | .other => d.nameServers

/-- The threshold that the resolver configuration and an options variable set. -/
def ndots {m : Type → Type} [Monad m] [FileAccess m] (d : Discovery) (options? : Option String) :
    m (Except DiscoveryError Nat) := do
  match (← ResolvConf.Search.run d.resolvConf).ndots options? with
  | .error cause => return .error (.resolvConf cause)
  | .ok n => return .ok n

/-- The log lines of discovering name servers by a search. -/
def searchLog (d : Discovery) (search : ResolvConf.Search) : List LogLine :=
  search.loadLog ++
    match search.nameServers? with
    | .error _ => []
    | .ok servers =>
      if (servers.getD .empty).hasDefaultServers then []
      else [⟨.debug, "No name servers for the default domain, using " ++
        toString d.fallbacks.length ++ " fallback(s)"⟩]

/-- The log lines of finding the threshold by a search. -/
def ndotsLog (search : ResolvConf.Search) (options? : Option String) : List LogLine :=
  search.missingLog ++
    match search.ndots options? with
    | .error _ => []
    | .ok n => [⟨.debug, "Resolver ndots threshold is " ++ toString n⟩]

end Discovery

end HostDns
