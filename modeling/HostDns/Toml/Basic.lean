/-!
TOML values, and how the statements of a document build up its tables.

A table remembers how it came about, since that decides what may still be added to it: a header may
open a table once, dotted keys may add to tables that dotted keys made, and an inline table is closed.
-/

namespace HostDns.Toml

/-- Why a text is no document, or not one of the expected shape. -/
inductive TomlError where
  | malformed
  | duplicateKey (key : String)
  | nestedTooDeep
  | unknownKey (key : String)
  | wrongType (expected : String)
  | missingItem (key : String)
  deriving DecidableEq, Repr

/-- The words for a failure. -/
def TomlError.message : TomlError → String
  | .malformed => "invalid TOML"
  | .duplicateKey key => "duplicate key: " ++ key
  | .nestedTooDeep => "nested too deeply"
  | .unknownKey key => "unknown field: " ++ key
  | .wrongType expected => "invalid type, expected " ++ expected
  | .missingItem key => "missing field: " ++ key

/-- How a table came about. -/
inductive TableOrigin where
  /-- A header names it. -/
  | header
  /-- A header names a table inside it. -/
  | implied
  /-- A dotted key leads through it. -/
  | dotted
  | inlined
  deriving DecidableEq, Repr

/-- A value. Numbers and dates are kept as they are written. -/
inductive Value where
  | string (s : String)
  | boolean (b : Bool)
  | number (text : String)
  | dateTime (text : String)
  | array (items : List Value)
  /-- The tables that headers in double brackets have opened under one name. -/
  | tables (items : List (List (String × Value)))
  | table (origin : TableOrigin) (entries : List (String × Value))
  deriving Repr, Inhabited

/-- The keys of a table with their values, in the order they were first written. -/
abbrev Entries := List (String × Value)

namespace Entries

/-- Gives a key that is there another value. -/
def replace (entries : Entries) (key : String) (value : Value) : Entries :=
  entries.map fun (k, v) => if k = key then (k, value) else (k, v)

/-- Adds a value under a dotted key. -/
def addDotted : (entries : Entries) → (path : List String) → (key : String) → Value →
    Except TomlError Entries
  | entries, [], key, value =>
    if (entries.lookup key).isSome then .error (.duplicateKey key)
    else .ok (entries ++ [(key, value)])
  | entries, step :: path, key, value =>
    match entries.lookup step with
    | none => do
      let inner ← addDotted [] path key value
      return entries ++ [(step, .table .dotted inner)]
    | some (.table .dotted inner) => do
      return entries.replace step (.table .dotted (← addDotted inner path key value))
    | some (.table .implied inner) => do
      if path = [] then throw (.duplicateKey step)
      return entries.replace step (.table .implied (← addDotted inner path key value))
    | some _ => .error (.duplicateKey step)

/-- Changes the table at the end of a path of headers. Tables on the way are made if need be, and of
tables that share a name the last one counts. -/
def atHeader (change : Entries → Except TomlError Entries) :
    (path : List String) → (entries : Entries) → Except TomlError Entries
  | [], entries => change entries
  | step :: path, entries =>
    match entries.lookup step with
    | none => do return entries ++ [(step, .table .implied (← atHeader change path []))]
    | some (.table .inlined _) => .error (.duplicateKey step)
    | some (.table origin inner) => do
      return entries.replace step (.table origin (← atHeader change path inner))
    | some (.tables items) => do
      let last ← atHeader change path (items.getLast?.getD [])
      return entries.replace step (.tables (items.dropLast ++ [last]))
    | some _ => .error (.duplicateKey step)

/-- Opens a table by a header. -/
def openTable (key : String) (entries : Entries) : Except TomlError Entries :=
  match entries.lookup key with
  | none => .ok (entries ++ [(key, .table .header [])])
  | some (.table .implied inner) => .ok (entries.replace key (.table .header inner))
  | some _ => .error (.duplicateKey key)

/-- Opens one more table under a name by a header in double brackets. -/
def openNextTable (key : String) (entries : Entries) : Except TomlError Entries :=
  match entries.lookup key with
  | none => .ok (entries ++ [(key, .tables [[]])])
  | some (.tables items) => .ok (entries.replace key (.tables (items ++ [[]])))
  | some _ => .error (.duplicateKey key)

end Entries

/-- A dotted key: the steps that lead to a table, and the key in that table. -/
structure Key where
  path : List String
  last : String
  deriving DecidableEq, Repr

/-- A statement of a document. -/
inductive Statement where
  | assign (key : Key) (value : Value)
  | table (key : Key)
  | nextTable (key : Key)
  deriving Repr

/-- The tables of a document part way through it, and the header in force. -/
structure Draft where
  root : Entries
  header : List String

namespace Draft

/-- Before the first statement. -/
def start : Draft := ⟨[], []⟩

/-- Takes in a statement. -/
def apply (d : Draft) : Statement → Except TomlError Draft
  | .assign key value => do
    let root ← d.root.atHeader (fun entries => entries.addDotted key.path key.last value) d.header
    return { d with root }
  | .table key => do
    let root ← d.root.atHeader (Entries.openTable key.last) key.path
    return ⟨root, key.path ++ [key.last]⟩
  | .nextTable key => do
    let root ← d.root.atHeader (Entries.openNextTable key.last) key.path
    return ⟨root, key.path ++ [key.last]⟩

end Draft

/-- The entries that statements build up. -/
def Entries.ofStatements (statements : List Statement) : Except TomlError Entries := do
  return (← statements.foldlM Draft.apply Draft.start).root

end HostDns.Toml
