import HostDns.Adapter.Filter
import HostDns.Address.Reader
import HostDns.CommandLine.Basic
import HostDns.Config.Document
import HostDns.Config.Error
import HostDns.Config.Template
import HostDns.Discovery
import HostDns.Text.Blank

/-!
The settings of a run: what a command line and a configuration document come to together.

An option of the command counts more than a key of the document, and a key more than the default; a
switch or a key can turn something on but not off. Only what is in effect is read: a text of the
document that an option overrides may be anything.
-/

namespace HostDns.Config

/-- The settings of a run. -/
structure Settings where
  ipVersion : IpVersion
  includeDown : Bool
  includeWins : Bool
  filter : FilterChain
  prefer : Preference
  discovery : Discovery
  json : Bool
  verbose : Bool

/-- How patterns are compiled. -/
abbrev PatternCompiler := String → Except Pattern.PatternError NamePattern

/-- The version that a text names, in letters of either case. -/
def version? (s : String) : Option IpVersion :=
  match s.map Char.toLower with
  | "ipv4" | "v4" | "4" => some .v4
  | "ipv6" | "v6" | "6" => some .v6
  | "both" | "all" | "dual" => some .both
  | _ => none

/-- The preference that a text names, in letters of either case. -/
def preference? (s : String) : Option Preference :=
  match s.map Char.toLower with
  | "ipv6-first" | "ipv6_first" => some .ipv6First
  | "ipv4-only" | "ipv4_only" => some .ipv4Only
  | "as-listed" | "as_listed" => some .asListed
  | _ => none

/-- The server that a text names between blanks: an address with a port, or one for the usual port. -/
def server? (s : String) : Option Socket :=
  let trimmed := String.ofList (Text.trim s.toList)
  (Socket.ofString? trimmed).or ((Ip.ofString? trimmed).map (Socket.ofIp · dnsPort))

/-- The value that a reader finds in a text, or else an error. -/
def required {α : Type} (read : String → Option α) (error : String → ConfigError) (s : String) :
    Except ConfigError α :=
  match read s with
  | some a => .ok a
  | none => .error (error s)

/-- The value that is given, or else the one that a written text names, or else the usual one. -/
def chosen {α : Type} (read : String → Option α) (error : String → ConfigError) (usual : α)
    (given : Option α) (written : Option String) : Except ConfigError α :=
  match given, written with
  | some a, _ => .ok a
  | none, some text => required read error text
  | none, none => .ok usual

/-- A list of the command line, or another one if it is empty. -/
def givenOr (given : List String) (other : List String) : List String :=
  if given.isEmpty then other else given

namespace Settings

/-- The version in effect. -/
def resolveVersion (line : CommandLine) (document? : Option Document) :
    Except ConfigError IpVersion :=
  chosen version? .invalidVersion .both (line.command.adapters?.bind (·.ipVersion))
    (document?.bind (·.query.ipVersion))

/-- The preference in effect. -/
def resolvePreference (line : CommandLine) (document? : Option Document) :
    Except ConfigError Preference :=
  chosen preference? .invalidPreference .asListed (line.command.nameServers?.bind (·.prefer))
    (document?.bind (·.dns.prefer))

/-- Whether a listing of adapters is asked to turn something on, or the document turns it on. -/
def turnedOn (line : CommandLine) (document? : Option Document) (given : AdapterOptions → Bool)
    (written : Document → Bool) : Bool :=
  line.command.adapters?.any given || document?.any written

/-- The patterns in effect: those that a listing of adapters is given, or else those of the document. -/
def patterns (line : CommandLine) (document? : Option Document)
    (given : AdapterOptions → List String) (written : Document → List String) : List String :=
  givenOr (line.command.adapters?.elim [] given) (document?.elim [] written)

/-- A filter for each pattern of a list. -/
def nameFilters (compile : PatternCompiler) (patterns : List String) :
    Except ConfigError (List AdapterFilter) :=
  patterns.mapM fun pattern =>
    match compile pattern with
    | .ok compiled => .ok (.name compiled)
    | .error cause => .error (.invalidPattern pattern cause)

/-- The sorts of adapters that are excluded. -/
def excludedKinds (line : CommandLine) (document? : Option Document) : List AdapterKind :=
  (if turnedOn line document? (·.excludeVirtual) (·.filter.excludeVirtual)
    then [.virtual] else []) ++
  (if turnedOn line document? (·.excludeLoopback) (·.filter.excludeLoopback)
    then [.loopback] else [])

/-- The filter in effect. -/
def resolveFilter (compile : PatternCompiler) (line : CommandLine) (document? : Option Document)
    (includeDown : Bool) : Except ConfigError FilterChain := do
  let includes ← nameFilters compile
    (patterns line document? (·.includeAdapters) (·.filter.includes))
  let excludes ← nameFilters compile
    (patterns line document? (·.excludeAdapters) (·.filter.excludes))
  return {
    includes
    excludes := (excludedKinds line document?).map (fun kind => .ofKinds [kind]) ++ excludes
    requires := if includeDown then [] else [.up] }

/-- The candidate paths in effect. -/
def resolvConfPaths (line : CommandLine) (document? : Option Document) : List String :=
  givenOr (line.command.nameServers?.elim [] (·.resolvConf))
    ((document?.bind (·.dns.resolvConf)).getD Discovery.standard.resolvConf)

/-- The texts of the fallbacks in effect, or `none` for the default ones. -/
def fallbackTexts? (line : CommandLine) (document? : Option Document) : Option (List String) :=
  let given := line.command.nameServers?.elim [] (·.fallbacks)
  if given.isEmpty then document?.bind (·.dns.fallbacks) else some given

/-- The fallbacks in effect. -/
def resolveFallbacks (line : CommandLine) (document? : Option Document) :
    Except ConfigError (List Socket) :=
  match fallbackTexts? line document? with
  | none => .ok Discovery.standard.fallbacks
  | some texts => texts.mapM (required server? .invalidServer)

/-- The settings that a command line and a document come to, or a command line alone. -/
def resolve (compile : PatternCompiler) (line : CommandLine) (document? : Option Document) :
    Except ConfigError Settings := do
  let ipVersion ← resolveVersion line document?
  let includeDown := turnedOn line document? (·.includeDown) (·.query.includeDown)
  let includeWins := turnedOn line document? (·.includeWins) (·.query.includeWins)
  let filter ← resolveFilter compile line document? includeDown
  let prefer ← resolvePreference line document?
  let fallbacks ← resolveFallbacks line document?
  return {
    ipVersion, includeDown, includeWins, filter, prefer
    discovery := ⟨resolvConfPaths line document?, fallbacks⟩
    json := line.command.json
    verbose := line.verbose }

/-- The settings of a command line, whose document is read from the path that it names. -/
def load {m : Type → Type} [Monad m] [FileAccess m] (compile : PatternCompiler)
    (line : CommandLine) : m (Except ConfigError Settings) := do
  match line.config with
  | none => return resolve compile line none
  | some path =>
    match ← FileAccess.read path with
    | .error cause => return .error (.unreadable path cause)
    | .ok text =>
      match Document.ofString text with
      | .error cause => return .error (.malformed cause)
      | .ok document => return resolve compile line (some document)

/-- The query of a listing of adapters. -/
def adapterQuery (s : Settings) : AdapterQuery :=
  let query := AdapterQuery.listing.withVersion s.ipVersion
  if s.includeWins then query.withWins else query

/-- The settings in words. -/
def summary (s : Settings) : String :=
  "Config \x7b ip_version: " ++ s.ipVersion.text ++
    ", include_down: " ++ toString s.includeDown ++
    ", filters: " ++ toString s.filter.includes.length ++ "+" ++ toString s.filter.excludes.length ++
    ", prefer: " ++ s.prefer.name ++
    ", resolv_conf: " ++ toString s.discovery.resolvConf.length ++
    ", fallbacks: " ++ toString s.discovery.fallbacks.length ++
    ", json: " ++ toString s.json ++ " \x7d"

end Settings

/-- Writes the template to a path. -/
def writeTemplate {m : Type → Type} [Monad m] [FileAccess m] (path : String) :
    m (Except ConfigError Unit) := do
  return (← FileAccess.write path template).mapError (.unwritable path)

end HostDns.Config
