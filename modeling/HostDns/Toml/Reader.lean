import HostDns.Toml.Text

/-!
Reading TOML documents.
-/

namespace HostDns.Toml

/-- How deep arrays and inline tables may be nested. -/
def maxDepth : Nat := 80

/-- The characters that end a word without quotes. -/
def endsWord (c : Char) : Bool :=
  isGap c || c = '\n' || c = '\r' || c = '#' || c = ',' || c = ']' || c = '\x7d' || c = '=' ||
    c = '[' || c = '\x7b' || c = '"' || c = '\''

/-- A value without quotes or brackets. A date and a time may have a blank between them. -/
def readWord : Reader Value := fun s =>
  let word := s.takeWhile fun c => !endsWord c
  let rest := s.drop word.length
  let longer := match rest with
    | ' ' :: more => word ++ ' ' :: more.takeWhile fun c => !endsWord c
    | _ => word
  if afterDate word = some [] ∧ longer ≠ word ∧ isDateTime longer then
    .ok (.dateTime (String.ofList longer), s.drop longer.length)
  else if word = "true".toList then .ok (.boolean true, rest)
  else if word = "false".toList then .ok (.boolean false, rest)
  else if isInteger word || isFloat word then .ok (.number (String.ofList word), rest)
  else if isDateTime word then .ok (.dateTime (String.ofList word), rest)
  else .error .malformed

mutual

/-- A value; `depth` counts the brackets around it. -/
def readValue : (fuel depth : Nat) → Reader Value
  | 0, _, _ => .error .malformed
  | fuel + 1, depth, s =>
    match string? s with
    | some outcome => outcome.map fun (chars, rest) => (.string (String.ofList chars), rest)
    | none =>
      match s with
      | '[' :: rest =>
        if maxDepth ≤ depth then .error .nestedTooDeep
        else (readItems fuel (depth + 1) rest).map fun (items, rest) => (.array items, rest)
      | '\x7b' :: rest =>
        if maxDepth ≤ depth then .error .nestedTooDeep
        else (readMembers fuel (depth + 1) [] rest).map fun (entries, rest) =>
          (.table .inlined entries, rest)
      | s => readWord s

/-- The items of an array up to its closing bracket. -/
def readItems : (fuel depth : Nat) → Reader (List Value)
  | 0, _, _ => .error .malformed
  | fuel + 1, depth, s => do
    match ← skipTrivia false s with
    | ']' :: rest => return ([], rest)
    | s => do
      let (item, rest) ← readValue fuel depth s
      match ← skipTrivia false rest with
      | ',' :: rest => do
        let (more, rest) ← readItems fuel depth rest
        return (item :: more, rest)
      | ']' :: rest => return ([item], rest)
      | _ => throw .malformed

/-- The members of an inline table up to its closing brace, behind those read before. -/
def readMembers : (fuel depth : Nat) → Entries → Reader Entries
  | 0, _, _, _ => .error .malformed
  | fuel + 1, depth, entries, s => do
    match ← skipTrivia false s with
    | '\x7d' :: rest => return (entries, rest)
    | s => do
      let (key, value, rest) ← readAssignment fuel depth s
      let entries ← entries.addDotted key.path key.last value
      match ← skipTrivia false rest with
      | ',' :: rest => readMembers fuel depth entries rest
      | '\x7d' :: rest => return (entries, rest)
      | _ => throw .malformed

/-- A key, an equals sign and a value. -/
def readAssignment : (fuel depth : Nat) → List Char →
    Except TomlError (Key × Value × List Char)
  | 0, _, _ => .error .malformed
  | fuel + 1, depth, s => do
    let (key, rest) ← readKey (s.length + 1) s
    match skipGaps rest with
    | '=' :: rest => do
      let (value, rest) ← readValue fuel depth (skipGaps rest)
      return (key, value, rest)
    | _ => throw .malformed

end

/-- A header in so many brackets, after the opening ones. -/
def readHeader (brackets : Nat) : Reader Key := fun s => do
  let (key, rest) ← readKey (s.length + 1) (skipGaps s)
  let rest := skipGaps rest
  if rest.take brackets = List.replicate brackets ']' then return (key, rest.drop brackets)
  else throw .malformed

/-- A statement at the start of a text. -/
def readStatement (s : List Char) : Except TomlError (Statement × List Char) :=
  match s with
  | '[' :: '[' :: rest => (readHeader 2 rest).map fun (key, rest) => (.nextTable key, rest)
  | '[' :: rest => (readHeader 1 rest).map fun (key, rest) => (.table key, rest)
  | s => (readAssignment (4 * s.length + 4) 0 s).map fun (key, value, rest) =>
    (.assign key value, rest)

/-- The statements of a text, each of which ends its line. -/
def readStatements : Nat → List Char → Except TomlError (List Statement)
  | 0, _ => .error .malformed
  | fuel + 1, s => do
    match ← skipTrivia false s with
    | [] => return []
    | s => do
      let (statement, rest) ← readStatement s
      let rest ← endLine rest
      return statement :: (← readStatements fuel rest)

/-- The text without the byte order mark that may lead it. -/
def withoutMark : List Char → List Char
  | c :: rest => if c = '\uFEFF' then rest else c :: rest
  | [] => []

/-- The entries of a document. -/
def Entries.ofString (text : String) : Except TomlError Entries := do
  let s := withoutMark text.toList
  Entries.ofStatements (← readStatements (s.length + 1) s)

end HostDns.Toml
