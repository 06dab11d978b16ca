import HostDns.File.Basic
import HostDns.Log
import HostDns.ResolvConf.Basic
import HostDns.ResolvConf.Ndots

/-!
Finding the resolver configuration among candidate paths.

The first candidate that exists counts, whether or not it can be used. A `Search` is what a walk over
the candidates found; what it means for the name servers and for the threshold are functions of it.
-/

namespace HostDns.ResolvConf

namespace Fault

/-- The text of a fault. -/
def message : Fault → String
  | .missingValue keyword => "'" ++ keyword.token ++ "' needs a value"
  | .invalidAddress value => "invalid name server address '" ++ value ++ "'"
  | .invalidPort value => "invalid port '" ++ value ++ "'"

end Fault

/-- The text of a malformed line. -/
def Malformed.message (m : Malformed) : String :=
  "line " ++ toString m.line ++ ": " ++ m.fault.message

/-- Why no configuration can be had although a candidate exists. -/
inductive LoadError where
  | unreadable (path : String) (cause : FileError)
  | malformed (path : String) (cause : Malformed)
  deriving DecidableEq, Repr

/-- The text of a failure to load. -/
def LoadError.message : LoadError → String
  | .unreadable path cause => "Failed to read '" ++ path ++ "': " ++ cause.message
  | .malformed path cause => "Invalid '" ++ path ++ "': " ++ cause.message

/-- The candidates of a system that names none: the usual path and one below a system volume. -/
def defaultPaths : List String := ["/etc/resolv.conf", "sys:/etc/resolv.cfg"]

/-- What a walk over candidates found: those without a file, and the first with one, together with
its text or the reason why it has none. -/
structure Search where
  missing : List String
  found : Option (String × Except FileError String)

namespace Search

/-- Reads the candidates in order up to the first one that exists. -/
def run {m : Type → Type} [Monad m] [FileAccess m] : List String → m Search
  | [] => return ⟨[], none⟩
  | path :: rest => do
    match ← FileAccess.read path with
    | .error .notFound =>
      let more ← run rest
      return { more with missing := path :: more.missing }
    | outcome => return ⟨[], some (path, outcome)⟩

/-- The path and the text of the candidate that exists, if there is one. -/
def text? (s : Search) : Except LoadError (Option (String × String)) :=
  match s.found with
  | none => .ok none
  | some (path, .ok text) => .ok (some (path, text))
  | some (path, .error cause) => .error (.unreadable path cause)

/-- The name servers that the candidate lists, or `none` where no candidate exists. -/
def nameServers? (s : Search) : Except LoadError (Option NameServers) := do
  match ← s.text? with
  | none => return none
  | some (path, text) =>
    match nameServers text with
    | .ok servers => return some servers
    | .error cause => .error (.malformed path cause)

/-- The threshold that the candidate and an options variable set. -/
def ndots (s : Search) (options? : Option String) : Except LoadError Nat := do
  return ResolvConf.ndots (((← s.text?).map (·.2)).getD "") options?

/-- The log lines of the walk. -/
def missingLog (s : Search) : List LogLine :=
  s.missing.map fun path => ⟨.trace, "No resolver configuration at " ++ path⟩

/-- The log lines of loading name servers. -/
def loadLog (s : Search) : List LogLine :=
  s.missingLog ++
    match s.found, s.nameServers? with
    | some (path, _), .ok (some servers) =>
      [⟨.debug, "Loaded " ++ toString servers.domains.length ++ " name server domain(s) from " ++ path⟩]
    | _, _ => []

end Search

end HostDns.ResolvConf
