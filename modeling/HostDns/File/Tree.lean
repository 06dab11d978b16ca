import HostDns.File.Basic

/-!
Files and directories as a value: a tree below the current directory, which a run can read from and
write to.

Paths are resolved name by name from the left. Outside the tree nothing exists but directories.
-/

namespace HostDns

/-- What a name in a directory stands for. -/
inductive FileTree.Entry where
  | file (content : List UInt8)
  | directory
  deriving DecidableEq, Repr

/-- The entries below the current directory, by the names that lead to them. -/
structure FileTree where
  entry : List String → Option FileTree.Entry

namespace FileTree

/-- A place that a path leads to: the names from the current directory down, or somewhere outside. -/
inductive Place where
  | inside (names : List String)
  | outside
  deriving DecidableEq, Repr

/-- The current directory without any entry. -/
def empty : FileTree := ⟨fun _ => none⟩

/-- The tree with an entry put at `names`. -/
def put (t : FileTree) (names : List String) (e : Entry) : FileTree :=
  ⟨fun other => if other = names then some e else t.entry other⟩

/-- The directories that `names` runs through, from the top. -/
def ancestors : List String → List (List String)
  | [] => []
  | name :: rest => [] :: (ancestors rest).map (name :: ·)

/-- The tree with an entry put at `names` and a directory at every place above it that has none. -/
def putWithParents (t : FileTree) (names : List String) (e : Entry) : FileTree :=
  ((ancestors names).foldl (fun t above =>
    if above = [] ∨ (t.entry above).isSome then t else t.put above .directory) t).put names e

/-- What stands at a place. -/
def atPlace (t : FileTree) : Place → Option Entry
  | .outside => some .directory
  | .inside [] => some .directory
  | .inside names => t.entry names

/-- The longest name that a directory entry can have, in bytes. -/
def maxNameLength : Nat := 255

/-- The longest path that can be resolved, in bytes. -/
def maxPathLength : Nat := 4095

/-- One step of a path from a place. -/
def step (t : FileTree) (place : Place) (name : String) : Except FileError Place :=
  match t.atPlace place with
  | none => .error .notFound
  | some (.file _) => .error .notADirectory
  | some .directory =>
    if name = "" ∨ name = "." then .ok place
    else if name = ".." then
      match place with
      | .outside | .inside [] => .ok .outside
      | .inside names => .ok (.inside names.dropLast)
    else if name.utf8ByteSize > maxNameLength then .error .nameTooLong
    else match place with
      | .outside => .error .notFound
      | .inside names =>
        if (t.entry (names ++ [name])).isSome then .ok (.inside (names ++ [name]))
        else .error .notFound

/-- The place that steps lead to. -/
def follow (t : FileTree) : Place → List String → Except FileError Place
  | place, [] => .ok place
  | place, name :: rest => do t.follow (← t.step place name) rest

/-- The names of a path, or why it can have none. -/
def split (path : String) : Except FileError (Place × List String) :=
  if path.toList.contains '\x00' then .error .nulInPath
  else if path = "" then .error .notFound
  else if path.utf8ByteSize > maxPathLength then .error .nameTooLong
  else
    let names := (path.toList.splitOn '/').map String.ofList
    .ok (if names.head? = some "" then .outside else .inside [], names)

/-- The bytes of the file at a path. -/
def readBytes (t : FileTree) (path : String) : Except FileError (List UInt8) := do
  let (start, names) ← split path
  match t.atPlace (← t.follow start names) with
  | some (.file content) => .ok content
  | some .directory => .error .isADirectory
  | none => .error .notFound

/-- The text of the file at a path. -/
def read (t : FileTree) (path : String) : Except FileError String := do
  let bytes ← t.readBytes path
  match String.fromUTF8? (ByteArray.mk bytes.toArray) with
  | some text => .ok text
  | none => .error .notText

/-- The tree after the file at a path is made to hold a text. The directory has to exist, and a path
that ends with a slash names a directory. -/
def write (t : FileTree) (path : String) (text : String) : Except FileError FileTree := do
  let (start, names) ← split path
  let body := (names.reverse.dropWhile (· = "")).reverse
  let last := body.getLast?.getD ""
  let directory ← t.follow start body.dropLast
  if t.atPlace directory ≠ some .directory then .error .notADirectory
  else if body ≠ names ∨ last = "" ∨ last = "." ∨ last = ".." then .error .isADirectory
  else if last.utf8ByteSize > maxNameLength then .error .nameTooLong
  else match directory with
    | .outside => .error .notFound
    | .inside above =>
      if t.entry (above ++ [last]) = some .directory then .error .isADirectory
      else .ok (t.put (above ++ [last]) (.file text.toUTF8.data.toList))

instance : FileAccess (StateM FileTree) where
  read path := do return (← get).read path
  write path text := do
    match (← get).write path text with
    | .ok t => set t; return .ok ()
    | .error e => return .error e

end FileTree

end HostDns
