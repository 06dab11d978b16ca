import HostDns.File.Basic
import HostDns.Pattern.Reader
import HostDns.Toml.Basic

/-!
What can be wrong with a configuration, and the words for it.
-/

namespace HostDns.Config

/-- Why there is no configuration. -/
inductive ConfigError where
  | unreadable (path : String) (cause : FileError)
  | malformed (cause : Toml.TomlError)
  | unwritable (path : String) (cause : FileError)
  | invalidPattern (pattern : String) (cause : Pattern.PatternError)
  | invalidVersion (value : String)
  | invalidPreference (value : String)
  | invalidServer (value : String)

namespace ConfigError

/-- The words for an error up to the details of a text that cannot be read. -/
def summary : ConfigError → String
  | .unreadable path cause => "Failed to read config file '" ++ path ++ "': " ++ cause.message
  | .malformed _ => "Failed to parse TOML config: "
  | .unwritable path cause => "Failed to write config file '" ++ path ++ "': " ++ cause.message
  | .invalidPattern pattern _ => "Invalid regex pattern '" ++ pattern ++ "': "
  | .invalidVersion value =>
    "Invalid IP version '" ++ value ++ "': expected ipv4, ipv6, or both"
  | .invalidPreference value =>
    "Invalid preference '" ++ value ++ "': expected ipv6-first, ipv4-only, or as-listed"
  | .invalidServer value =>
    "Invalid name server address '" ++ value ++ "': expected IP or IP:PORT"

/-- The details of a text that cannot be read. -/
def detail? : ConfigError → Option String
  | .malformed cause => some cause.message
  | .invalidPattern _ cause => some cause.message
  | _ => none

/-- The words for an error. -/
def message (e : ConfigError) : String := e.summary ++ e.detail?.getD ""

/-- Advice to the user who meets an error. -/
def hint? : ConfigError → Option String
  | .unreadable .. | .malformed _ =>
    some "Run 'adapter-dns init' to generate a configuration template."
  | .invalidPattern .. =>
    some "Adapter patterns are regular expressions matched against friendly names."
  | _ => none

end ConfigError

end HostDns.Config
