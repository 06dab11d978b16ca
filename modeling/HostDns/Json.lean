import HostDns.Text.Numeral

/-!
JSON documents whose numbers are integers, and their two written forms.

`compact` has no blank outside strings; `pretty` puts each item and each member on a line of its own,
two spaces further in than the bracket around it. Members keep the order they are given in.
-/

namespace HostDns

/-- A document. -/
inductive Json where
  | null
  | bool (b : Bool)
  | int (n : Int)
  | str (s : String)
  | arr (items : List Json)
  | obj (members : List (String × Json))
  deriving Repr, Inhabited

namespace Json

/-- A natural number as a document. -/
def nat (n : Nat) : Json := .int n

/-- A document, or `null` for a missing one. -/
def orNull : Option Json → Json
  | some j => j
  | none => .null

/-- Members in the order of their keys, with one more among them. It takes the place of a member with
the same key. -/
def insertMember (key : String) (j : Json) : List (String × Json) → List (String × Json)
  | [] => [(key, j)]
  | (name, value) :: rest =>
    if key < name then (key, j) :: (name, value) :: rest
    else if key = name then (key, j) :: rest
    else (name, value) :: insertMember key j rest

/-- Members that are inserted one by one, so that of several with one key the last one is left. -/
def sortedMembers (members : List (String × Json)) : List (String × Json) :=
  members.foldl (fun sorted (key, j) => insertMember key j sorted) []

/-- The object of members that are inserted one by one. -/
def ofMembers (members : List (String × Json)) : Json := .obj (sortedMembers members)

/-- A character inside a string: quotes, backslashes and the controls below the space are escaped,
by a letter where there is one. -/
def escape (c : Char) : List Char :=
  if c = '"' then ['\\', '"']
  else if c = '\\' then ['\\', '\\']
  else if c = '\n' then ['\\', 'n']
  else if c = '\r' then ['\\', 'r']
  else if c = '\t' then ['\\', 't']
  else if c.toNat = 8 then ['\\', 'b']
  else if c.toNat = 12 then ['\\', 'f']
  else if c.toNat < 32 then '\\' :: 'u' :: Text.zeroPadded 4 (Text.hexadecimal c.toNat)
  else [c]

/-- A string in quotes. -/
def quote (s : String) : List Char := '"' :: s.toList.flatMap escape ++ ['"']

/-- An integer in decimal. -/
def integer : Int → List Char
  | .ofNat n => Text.decimal n
  | .negSucc n => '-' :: Text.decimal (n + 1)

/-- A document that has no parts, or only one written form. -/
def atom : Json → List Char
  | .null => "null".toList
  | .bool true => "true".toList
  | .bool false => "false".toList
  | .int n => integer n
  | .str s => quote s
  | .arr _ => "[]".toList
  | .obj _ => ['\x7b', '\x7d']

mutual

/-- The form without blanks. -/
def compact : Json → List Char
  | .arr items => '[' :: compactItems items ++ [']']
  | .obj members => '\x7b' :: compactMembers members ++ ['\x7d']
  | j => j.atom

/-- Items with commas between them. -/
def compactItems : List Json → List Char
  | [] => []
  | [j] => j.compact
  | j :: rest => j.compact ++ ',' :: compactItems rest

/-- Members with commas between them. -/
def compactMembers : List (String × Json) → List Char
  | [] => []
  | [(key, j)] => quote key ++ ':' :: j.compact
  | (key, j) :: rest => quote key ++ ':' :: j.compact ++ ',' :: compactMembers rest

end

/-- A new line at a depth. -/
def newLine (depth : Nat) : List Char := '\n' :: List.replicate (2 * depth) ' '

mutual

/-- The form on several lines; `depth` is that of the line it starts on. -/
def prettyAt (depth : Nat) : Json → List Char
  | .arr (j :: rest) => '[' :: prettyItems (depth + 1) (j :: rest) ++ newLine depth ++ [']']
  | .obj (m :: rest) => '\x7b' :: prettyMembers (depth + 1) (m :: rest) ++ newLine depth ++ ['\x7d']
  | j => j.atom

/-- Items, each on its own line. -/
def prettyItems (depth : Nat) : List Json → List Char
  | [] => []
  | [j] => newLine depth ++ j.prettyAt depth
  | j :: rest => newLine depth ++ j.prettyAt depth ++ ',' :: prettyItems depth rest

/-- Members, each on its own line. -/
def prettyMembers (depth : Nat) : List (String × Json) → List Char
  | [] => []
  | [(key, j)] => newLine depth ++ quote key ++ ':' :: ' ' :: j.prettyAt depth
  | (key, j) :: rest =>
    newLine depth ++ quote key ++ ':' :: ' ' :: j.prettyAt depth ++ ',' :: prettyMembers depth rest

end

/-- The compact form as a string. -/
def compactText (j : Json) : String := String.ofList j.compact

/-- The pretty form as a string. -/
def prettyText (j : Json) : String := String.ofList (j.prettyAt 0)

end Json

end HostDns
