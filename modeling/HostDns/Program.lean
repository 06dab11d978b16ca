import HostDns.Adapter.NamePattern
import HostDns.CommandLine.Reader
import HostDns.Config.Settings
import HostDns.Report

/-!
A run of the program, from the words of its command line to what it prints and its exit code.

A run works in any setting that offers files and a source of adapters. All output of a listing is put
together before any of it is printed, so that a run which fails prints nothing but its log.
-/

namespace HostDns

open Config

/-- What a run takes from its environment. -/
structure Environment where
  /-- Options of the resolver that count more than those of its configuration. -/
  resolverOptions : Option String := none
  /-- Which log lines are shown. -/
  logOptions : Option String := none
  deriving DecidableEq, Repr

/-- What a listing comes to: its log, and its text unless it fails. -/
structure Listing where
  log : List LogLine
  text? : Option String
  deriving DecidableEq, Repr

/-- How a run ends. The log of a listing holds only lines that are shown. -/
inductive Outcome where
  | refused (cause : Refusal)
  | templateWritten (path : String)
  | templateUnwritten (cause : ConfigError)
  | misconfigured (cause : ConfigError)
  | finished (log : String) (text : String)
  | failed (log : String)

namespace Program

/-- Lists the adapters of a source. -/
def listAdapters {m : Type → Type} [Monad m] (source : AdapterSource m) (s : Settings) :
    m Listing := do
  match ← source.filtered s.filter.filter s.adapterQuery with
  | .error cause => return ⟨[⟨.error, Report.fetchFailure cause⟩], none⟩
  | .ok adapters =>
    return ⟨[⟨.debug, "Listing " ++ toString adapters.length ++ " adapter(s)"⟩],
      some (Report.adapters s.json adapters)⟩

/-- Lists the name servers of the host with the threshold of its resolver. The candidates are
searched once for each of the two. -/
def listNameServers {m : Type → Type} [Monad m] [FileAccess m] (options? : Option String)
    (s : Settings) : m Listing := do
  let failure (log : List LogLine) (cause : DiscoveryError) : Listing :=
    ⟨log ++ [⟨.error, Report.discoveryFailure cause⟩], none⟩
  let search ← ResolvConf.Search.run s.discovery.resolvConf
  let log := s.discovery.searchLog search
  match s.discovery.ofSearch search with
  | .error cause => return failure log cause
  | .ok servers =>
    let search ← ResolvConf.Search.run s.discovery.resolvConf
    let log := log ++ Discovery.ndotsLog search options?
    match search.ndots options? with
    | .error cause => return failure log (.resolvConf cause)
    | .ok ndots => return ⟨log, some (Report.nameServers s.json servers ndots s.prefer)⟩

/-- The end of a run that came to a listing: the settings are the first line of its log. -/
def conclude (environment : Environment) (s : Settings) (listing : Listing) : Outcome :=
  let filter := LogFilter.ofRun s.verbose environment.logOptions
  let log := filter.render (⟨.debug, s.summary⟩ :: listing.log)
  match listing.text? with
  | some text => .finished log text
  | none => .failed log

/-- Runs a command line. A template is written without a look at the configuration. -/
def execute {m : Type → Type} [Monad m] [FileAccess m] (compile : PatternCompiler)
    (source : AdapterSource m) (environment : Environment) (line : CommandLine) : m Outcome := do
  match line.command with
  | .init output =>
    match ← writeTemplate output with
    | .error cause => return .templateUnwritten cause
    | .ok () => return .templateWritten output
  | .adapters _ =>
    match ← Settings.load compile line with
    | .error cause => return .misconfigured cause
    | .ok settings => return conclude environment settings (← listAdapters source settings)
  | .nameServers _ =>
    match ← Settings.load compile line with
    | .error cause => return .misconfigured cause
    | .ok settings =>
      return conclude environment settings
        (← listNameServers environment.resolverOptions settings)

/-- Runs the words of a command line. -/
def run {m : Type → Type} [Monad m] [FileAccess m] (compile : PatternCompiler)
    (source : AdapterSource m) (environment : Environment) (words : List String) : m Outcome :=
  match CommandLine.ofWords words with
  | .error cause => return .refused cause
  | .ok line => execute compile source environment line

end Program

/-- The name and the version of the program. -/
def versionText : String := "adapter-dns 0.1.0\n"

/-- A switch as a user gives it. -/
def Switch.usage (s : Switch) : String :=
  (match s.short? with
    | some letter => "-" ++ letter.toString ++ ", "
    | none => "") ++ "--" ++ s.long ++
  match s.argument with
    | .nothing => ""
    | .text => " <TEXT>"
    | .path => " <PATH>"
    | .oneOf words => " <" ++ "|".intercalate words ++ ">"

/-- A page of help: the switches of the program and of each command. -/
def usageText : String :=
  let section_ (heading : String) (switches : List Switch) : List String :=
    "" :: (heading ++ ":") :: switches.map fun s => "  " ++ s.usage
  Text.unlines (["Usage: adapter-dns [OPTIONS] <COMMAND> [OPTIONS]"] ++
    section_ "Options" (Scope.switches .program) ++
    CommandName.all.flatMap fun name => section_ name.word (Scope.switches (.command name)))

namespace Outcome

/-- The exit code: 1 where the configuration is at fault, 2 where the command line or the run is. -/
def exitCode : Outcome → UInt8
  | .refused .helpAsked | .refused .versionAsked => 0
  | .refused _ => 2
  | .templateWritten _ => 0
  | .templateUnwritten _ => 1
  | .misconfigured _ => 1
  | .finished .. => 0
  | .failed _ => 2

/-- What is printed. -/
def output : Outcome → String
  | .refused .helpAsked => usageText
  | .refused .versionAsked => versionText
  | .templateWritten path => "Configuration template written to: " ++ path ++ "\n"
  | .finished _ text => text
  | _ => ""

/-- The words for a configuration that is at fault, with advice if there is some. -/
def misconfiguration (summary : String) (detail? hint? : Option String) : String :=
  "Configuration error: " ++ summary ++ detail?.getD "" ++ "\n" ++
    match hint? with
    | some hint => "\n" ++ hint ++ "\n"
    | none => ""

/-- What is printed on the side. -/
def diagnostics : Outcome → String
  | .refused .helpAsked | .refused .versionAsked => ""
  | .refused cause => "error: " ++ cause.message ++ "\n\n" ++ usageText
  | .templateWritten _ => ""
  | .templateUnwritten cause => "Error: " ++ cause.message ++ "\n"
  | .misconfigured cause => misconfiguration cause.summary cause.detail? cause.hint?
  | .finished log _ => log
  | .failed log => log

end Outcome

end HostDns
