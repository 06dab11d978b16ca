/-!
What can go wrong when a file is read or written, and the two operations on files that the library
needs, in any setting that offers them.
-/

namespace HostDns

/-- Why a file cannot be read or written. -/
inductive FileError where
  | notFound
  | notADirectory
  | isADirectory
  | nameTooLong
  /-- The path holds a NUL character, which no file name can hold. -/
  | nulInPath
  /-- The file was read but is not a UTF-8 text. -/
  | notText
  /-- Any other failure, with the number and the description that the system gives it. -/
  | other (code : Nat) (description : String)
  deriving DecidableEq, Repr

namespace FileError

/-- A description with the system's number for the failure. -/
def numbered (description : String) (code : Nat) : String :=
  description ++ " (os error " ++ toString code ++ ")"

/-- The text of a failure. -/
def message : FileError → String
  | .notFound => numbered "No such file or directory" 2
  | .notADirectory => numbered "Not a directory" 20
  | .isADirectory => numbered "Is a directory" 21
  | .nameTooLong => numbered "File name too long" 36
  | .nulInPath => "file name contained an unexpected NUL byte"
  | .notText => "stream did not contain valid UTF-8"
  | .other code description => numbered description code

end FileError

/-- A setting in which text files are read and written. -/
class FileAccess (m : Type → Type) where
  /-- The text of the file at a path. -/
  read : String → m (Except FileError String)
  /-- Makes the file at a path hold a text. -/
  write : String → String → m (Except FileError Unit)

end HostDns
