import HostDns.Toml.Basic

/-!
Records in TOML: values of an expected sort under known keys.

A record is written as a table, which gives each key by name, or as an array, which gives the keys by
their position.
-/

namespace HostDns.Toml

namespace Value

/-- The text that a value is. -/
def asText : Value → Except TomlError String
  | .string s => .ok s
  | _ => .error (.wrongType "string")

/-- The truth value that a value is. -/
def asTruth : Value → Except TomlError Bool
  | .boolean b => .ok b
  | _ => .error (.wrongType "boolean")

/-- The list of texts that a value is. -/
def asTexts : Value → Except TomlError (List String)
  | .array items => items.mapM asText
  | _ => .error (.wrongType "array of strings")

end Value

namespace Entries

/-- The value under a key, if the key is there. -/
def optional {α : Type} (entries : Entries) (key : String) (read : Value → Except TomlError α) :
    Except TomlError (Option α) :=
  match entries.lookup key with
  | none => .ok none
  | some value => (read value).map some

/-- The value under a key, or another one where the key is missing. -/
def orElse {α : Type} (entries : Entries) (key : String) (read : Value → Except TomlError α)
    (default : α) : Except TomlError α := do
  return (← entries.optional key read).getD default

/-- The entries, which may have no other keys than these. -/
def withKeys (keys : List String) (entries : Entries) : Except TomlError Entries :=
  match entries.find? fun (key, _) => !keys.contains key with
  | none => .ok entries
  | some (key, _) => .error (.unknownKey key)

end Entries

/-- The keys of a record in order, each with whether an array has to reach as far as it. -/
structure RecordKeys where
  keys : List (String × Bool)

namespace RecordKeys

/-- The entries of a record. Items of an array beyond the last key do not count. -/
def entries (r : RecordKeys) : Value → Except TomlError Entries
  | .table _ entries => Entries.withKeys (r.keys.map (·.1)) entries
  | .array items =>
    match (r.keys.drop items.length).find? (·.2) with
    | none => .ok ((r.keys.map (·.1)).zip items)
    | some (key, _) => .error (.missingItem key)
  | _ => .error (.wrongType "table")

end RecordKeys

end HostDns.Toml
