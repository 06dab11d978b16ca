import HostDns.Program

/-!
The command line: files, variables and streams of the system around a run.
-/

namespace HostDns

/-- A failure of the system as a failure of a file. -/
def FileError.ofSystem (e : IO.Error) : FileError :=
  match e with
  | .noFileOrDirectory .. => .notFound
  | .inappropriateType _ code details =>
    if code = 20 then .notADirectory
    else if code = 21 then .isADirectory
    else .other code.toNat details
  | .invalidArgument _ code details =>
    if code = 36 then .nameTooLong else .other code.toNat details
  | .permissionDenied _ code details => .other code.toNat details
  | .resourceExhausted _ code details => .other code.toNat details
  | e => .other 0 (toString e)

instance : FileAccess IO where
  read path := do
    if path.toList.contains '\x00' then return .error .nulInPath
    try
      match String.fromUTF8? (← IO.FS.withFile path .read fun file => file.readBinToEnd) with
      | some text => return .ok text
      | none => return .error .notText
    catch e => return .error (.ofSystem e)
  write path text := do
    if path.toList.contains '\x00' then return .error .nulInPath
    try
      IO.FS.writeFile path text
      return .ok ()
    catch e => return .error (.ofSystem e)

end HostDns

open HostDns in
/-- Runs the program. -/
def main (words : List String) : IO UInt32 := do
  let environment : Environment :=
    ⟨← IO.getEnv "RES_OPTIONS", ← IO.getEnv "RUST_LOG"⟩
  let outcome ← Program.run NamePattern.compile .unsupported environment words
  (← IO.getStdout).putStr outcome.output
  (← IO.getStderr).putStr outcome.diagnostics
  return outcome.exitCode.toUInt32
