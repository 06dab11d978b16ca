import HostDns.Toml.Reader
import HostDns.Toml.Record

/-!
Configuration documents: what a TOML text sets, section by section.

Each section is a record. Nothing is interpreted here: the names of versions, the patterns and the
addresses are still texts.
-/

namespace HostDns.Config

open HostDns.Toml

/-- What a document says about the query of a listing. -/
structure QuerySection where
  ipVersion : Option String := none
  includeDown : Bool := false
  includeWins : Bool := false
  deriving DecidableEq, Repr

/-- What a document says about the adapters of a listing. -/
structure FilterSection where
  includes : List String := []
  excludes : List String := []
  excludeVirtual : Bool := false
  excludeLoopback : Bool := false
  deriving DecidableEq, Repr

/-- What a document says about discovery. -/
structure DnsSection where
  prefer : Option String := none
  resolvConf : Option (List String) := none
  fallbacks : Option (List String) := none
  deriving DecidableEq, Repr

/-- A configuration document. -/
structure Document where
  query : QuerySection := {}
  filter : FilterSection := {}
  dns : DnsSection := {}
  deriving DecidableEq, Repr

namespace QuerySection

/-- The keys of the section. -/
def keys : RecordKeys :=
  ⟨[("ip_version", true), ("include_down", false), ("include_wins", false)]⟩

/-- The section that a value gives. -/
def ofValue (value : Value) : Except TomlError QuerySection := do
  let entries ← keys.entries value
  return {
    ipVersion := ← entries.optional "ip_version" Value.asText
    includeDown := ← entries.orElse "include_down" Value.asTruth false
    includeWins := ← entries.orElse "include_wins" Value.asTruth false }

end QuerySection

namespace FilterSection

/-- The keys of the section. -/
def keys : RecordKeys :=
  ⟨[("include", false), ("exclude", false), ("exclude_virtual", false), ("exclude_loopback", false)]⟩

/-- The section that a value gives. -/
def ofValue (value : Value) : Except TomlError FilterSection := do
  let entries ← keys.entries value
  return {
    includes := ← entries.orElse "include" Value.asTexts []
    excludes := ← entries.orElse "exclude" Value.asTexts []
    excludeVirtual := ← entries.orElse "exclude_virtual" Value.asTruth false
    excludeLoopback := ← entries.orElse "exclude_loopback" Value.asTruth false }

end FilterSection

namespace DnsSection

/-- The keys of the section. -/
def keys : RecordKeys := ⟨[("prefer", true), ("resolv_conf", true), ("fallbacks", true)]⟩

/-- The section that a value gives. -/
def ofValue (value : Value) : Except TomlError DnsSection := do
  let entries ← keys.entries value
  return {
    prefer := ← entries.optional "prefer" Value.asText
    resolvConf := ← entries.optional "resolv_conf" Value.asTexts
    fallbacks := ← entries.optional "fallbacks" Value.asTexts }

end DnsSection

namespace Document

/-- The document that the entries of a TOML text give. -/
def ofEntries (entries : Entries) : Except TomlError Document := do
  let entries ← entries.withKeys ["query", "filter", "dns"]
  return {
    query := ← entries.orElse "query" QuerySection.ofValue {}
    filter := ← entries.orElse "filter" FilterSection.ofValue {}
    dns := ← entries.orElse "dns" DnsSection.ofValue {} }

/-- The document that a text spells. -/
def ofString (source : String) : Except TomlError Document := do ofEntries (← Entries.ofString source)

end Document

end HostDns.Config
