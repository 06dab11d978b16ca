import HostDns.Adapter.Document
import HostDns.Adapter.Query
import HostDns.Discovery
import HostDns.Text.Lines

/-!
What a run prints: a listing of adapters or of name servers, each as text for readers or as a JSON
document, and the words for a run that fails.
-/

namespace HostDns.Report

/-- How wide the label of a field is at least, with its colon. -/
def labelWidth : Nat := 12

/-- A field of an adapter: its label, padded, and its value. -/
def field (label value : String) : String :=
  let head := label ++ ":"
  "  " ++ head ++ String.ofList (List.replicate (labelWidth - head.length) ' ') ++ " " ++ value

/-- A field that is there only if its value is not empty. -/
def optionalField (label value : String) : List String :=
  if value = "" then [] else [field label value]

/-- The lines of an adapter: a heading and its fields. -/
def adapterLines (a : Adapter) : List String :=
  [a.friendlyName ++ " (index " ++ toString a.ifIndex.toNat ++ ", " ++ a.kind.text ++ ", " ++
      a.operStatus.text ++ ")",
    field "name" a.adapterName,
    field "description" a.description] ++
  optionalField "mac" (PhysicalAddress.text a.physicalAddress) ++
  [field "mtu" (toString a.mtu.toNat)] ++
  a.unicast.map (fun u =>
    field "unicast" (u.address.ip.text ++ "/" ++ toString u.onLinkPrefixLength.toNat)) ++
  a.gateways.map (fun s => field "gateway" s.ip.text) ++
  a.dnsServers.map (fun s => field "dns server" s.ip.text) ++
  a.winsServers.map (fun s => field "wins server" s.ip.text) ++
  optionalField "dns suffix" a.dnsSuffix ++
  a.dnsSuffixes.map (field "search")

/-- The listing of adapters for readers, with an empty line between two adapters. -/
def adaptersText (adapters : List Adapter) : String :=
  "\n".intercalate (adapters.map fun a => Text.unlines (adapterLines a))

/-- The listing of adapters as a document. -/
def adaptersJson (adapters : List Adapter) : Json := .arr (adapters.map Adapter.json)

/-- The listing of adapters. -/
def adapters (json : Bool) (list : List Adapter) : String :=
  if json then (adaptersJson list).prettyText ++ "\n" else adaptersText list

/-- The domains of a store but the default one. -/
def otherDomains (s : NameServers) : List (String × List Socket) :=
  s.domains.filter fun (domain, _) => domain ≠ defaultDomain

/-- The lines of servers under a heading. -/
def serverLines (heading : String) (servers : List Socket) : List String :=
  (heading ++ ":") :: servers.map fun server => "  " ++ server.text

/-- The listing of name servers for readers: the threshold, the default domain in the preferred order,
and the other domains as they stand in the store. -/
def nameServersText (s : NameServers) (ndots : Nat) (prefer : Preference) : String :=
  Text.unlines (("ndots: " ++ toString ndots) ::
    serverLines ("default (" ++ prefer.name ++ ")") (s.defaultServers prefer) ++
    (otherDomains s).flatMap fun (domain, servers) => serverLines domain servers)

/-- The listing of name servers as a document, with its members, and the domains, in the order of
their names. -/
def nameServersJson (s : NameServers) (ndots : Nat) (prefer : Preference) : Json :=
  .ofMembers [
    ("ndots", .nat ndots),
    ("default", Socket.jsonList (s.defaultServers prefer)),
    ("domains", .ofMembers ((otherDomains s).map fun (domain, servers) =>
      (domain, Socket.jsonList servers)))]

/-- The listing of name servers. -/
def nameServers (json : Bool) (s : NameServers) (ndots : Nat) (prefer : Preference) : String :=
  if json then (nameServersJson s ndots prefer).prettyText ++ "\n"
  else nameServersText s ndots prefer

/-- The words for a listing of adapters that fails. -/
def fetchFailure (e : FetchError) : String := "Failed to enumerate adapters: " ++ e.message

/-- The words for a discovery that fails. -/
def discoveryFailure (e : DiscoveryError) : String := "Failed to discover name servers: " ++ e.message

end HostDns.Report
