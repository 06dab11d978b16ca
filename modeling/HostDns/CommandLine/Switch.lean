import HostDns.CommandLine.Basic

/-!
The switches of a command line: how each is spelled, what it takes, and where it may stand.
-/

namespace HostDns

/-- A switch of a command line. -/
inductive Switch where
  | config
  | verbose
  | help
  | version
  | json
  | ipVersion
  | includeDown
  | includeWins
  | includeAdapter
  | excludeAdapter
  | excludeVirtual
  | excludeLoopback
  | prefer
  | resolvConf
  | fallback
  | output
  deriving DecidableEq, Repr

/-- What a switch takes. -/
inductive Argument where
  | nothing
  | text
  /-- A text that is not empty. -/
  | path
  | oneOf (words : List String)
  deriving DecidableEq, Repr

/-- Whether a text can be the argument. -/
def Argument.accepts : Argument → String → Bool
  | .nothing, value => value = ""
  | .text, _ => true
  | .path, value => value ≠ ""
  | .oneOf words, value => words.contains value

/-- The words for the versions. -/
def IpVersion.words : List (String × IpVersion) := [("ipv4", .v4), ("ipv6", .v6), ("both", .both)]

/-- The words for the preferences. -/
def Preference.words : List (String × Preference) :=
  [Preference.ipv6First, .ipv4Only, .asListed].map fun p => (p.name, p)

namespace Switch

/-- The long spelling, without its two dashes. -/
def long : Switch → String
  | .config => "config"
  | .verbose => "verbose"
  | .help => "help"
  | .version => "version"
  | .json => "json"
  | .ipVersion => "ip-version"
  | .includeDown => "include-down"
  | .includeWins => "include-wins"
  | .includeAdapter => "include-adapter"
  | .excludeAdapter => "exclude-adapter"
  | .excludeVirtual => "exclude-virtual"
  | .excludeLoopback => "exclude-loopback"
  | .prefer => "prefer"
  | .resolvConf => "resolv-conf"
  | .fallback => "fallback"
  | .output => "output"

/-- The letter, for switches that have one. -/
def short? : Switch → Option Char
  | .config => some 'c'
  | .verbose => some 'v'
  | .help => some 'h'
  | .version => some 'V'
  | .output => some 'o'
  | _ => none

/-- What the switch takes. -/
def argument : Switch → Argument
  | .config | .resolvConf | .output => .path
  | .includeAdapter | .excludeAdapter | .fallback => .text
  | .ipVersion => .oneOf (IpVersion.words.map (·.1))
  | .prefer => .oneOf (Preference.words.map (·.1))
  | _ => .nothing

/-- Whether the switch takes a value. -/
def takesValue (s : Switch) : Bool := s.argument ≠ .nothing

/-- Whether the switch may be given more than once. -/
def isRepeatable : Switch → Bool
  | .includeAdapter | .excludeAdapter | .resolvConf | .fallback => true
  | _ => false

end Switch

/-- The name of a command. -/
inductive CommandName where
  | adapters
  | nameServers
  | init
  deriving DecidableEq, Repr

namespace CommandName

/-- The word for a command. -/
def word : CommandName → String
  | .adapters => "adapters"
  | .nameServers => "nameservers"
  | .init => "init"

/-- All commands. -/
def all : List CommandName := [.adapters, .nameServers, .init]

/-- The command that a word names. -/
def ofWord? (word : String) : Option CommandName := all.find? (·.word = word)

end CommandName

/-- A part of a command line: before the command, or behind it. -/
inductive Scope where
  | program
  | command (name : CommandName)
  deriving DecidableEq, Repr

namespace Scope

/-- The switches that may stand in a part. -/
def switches : Scope → List Switch
  | .program => [.config, .verbose, .help, .version]
  | .command .adapters => [.config, .verbose, .help, .json, .ipVersion, .includeDown, .includeWins,
      .includeAdapter, .excludeAdapter, .excludeVirtual, .excludeLoopback]
  | .command .nameServers =>
      [.config, .verbose, .help, .json, .prefer, .resolvConf, .fallback]
  | .command .init => [.config, .verbose, .help, .output]

/-- The switch that a long spelling names in a part. -/
def ofLong? (scope : Scope) (name : String) : Option Switch :=
  scope.switches.find? (·.long = name)

/-- The switch that a letter names in a part. -/
def ofShort? (scope : Scope) (letter : Char) : Option Switch :=
  scope.switches.find? (·.short? = some letter)

end Scope

/-- A switch that has been given, with its value, which is empty for a switch that takes none. -/
structure Given where
  switch : Switch
  value : String := ""
  deriving DecidableEq, Repr

namespace Given

/-- The values that a switch has been given, in order. -/
def values (given : List Given) (s : Switch) : List String :=
  (given.filter (·.switch = s)).map Given.value

/-- Whether a switch has been given. -/
def has (given : List Given) (s : Switch) : Bool := given.any (·.switch = s)

/-- The value of a switch that is given once at most. -/
def value? (given : List Given) (s : Switch) : Option String := (values given s).head?

end Given

/-- The options that switches behind the command set. -/
def AdapterOptions.ofGiven (given : List Given) : AdapterOptions where
  json := Given.has given .json
  ipVersion := (Given.value? given .ipVersion).bind (List.lookup · IpVersion.words)
  includeDown := Given.has given .includeDown
  includeWins := Given.has given .includeWins
  includeAdapters := Given.values given .includeAdapter
  excludeAdapters := Given.values given .excludeAdapter
  excludeVirtual := Given.has given .excludeVirtual
  excludeLoopback := Given.has given .excludeLoopback

/-- The options that switches behind the command set. -/
def NameServerOptions.ofGiven (given : List Given) : NameServerOptions where
  json := Given.has given .json
  prefer := (Given.value? given .prefer).bind (List.lookup · Preference.words)
  resolvConf := Given.values given .resolvConf
  fallbacks := Given.values given .fallback

/-- A command with the options that switches behind it set. -/
def Command.ofGiven (given : List Given) : CommandName → Command
  | .adapters => .adapters (.ofGiven given)
  | .nameServers => .nameServers (.ofGiven given)
  | .init => .init ((Given.value? given .output).getD defaultOutput)

/-- The command line that switches before and behind a command give. A configuration path behind the
command counts more than one before it. -/
def CommandLine.ofGiven (before : List Given) (name : CommandName) (behind : List Given) :
    CommandLine where
  command := .ofGiven behind name
  config := (Given.value? behind .config).or (Given.value? before .config)
  verbose := Given.has before .verbose || Given.has behind .verbose

end HostDns
