import HostDns.CommandLine.Switch

/-!
Reading a command line, word by word.

A switch that takes a value may have it attached (`--name=value`, `-xvalue`) or as the next word. Until
the next switch comes, it is pending: only then is it recorded. Faults are therefore found from left to
right, but a value is judged when its switch is recorded.
-/

namespace HostDns

/-- Why a command line runs no command. -/
inductive Refusal where
  | helpAsked
  | versionAsked
  /-- There is no switch and no command. -/
  | nothingGiven
  | missingCommand
  | unknownCommand (word : String)
  | unknownArgument (word : String)
  | missingValue (switch : Switch)
  | invalidValue (switch : Switch) (value : String)
  /-- A value is attached to a switch that takes none. -/
  | unexpectedValue (switch : Switch)
  | givenTwice (switch : Switch)
  deriving DecidableEq, Repr

/-- The words for a refusal. -/
def Refusal.message : Refusal → String
  | .helpAsked => "help"
  | .versionAsked => "version"
  | .nothingGiven | .missingCommand => "a command is required"
  | .unknownCommand word => "unrecognized command '" ++ word ++ "'"
  | .unknownArgument word => "unexpected argument '" ++ word ++ "' found"
  | .missingValue switch => "a value is required for '--" ++ switch.long ++ "'"
  | .invalidValue switch value => "invalid value '" ++ value ++ "' for '--" ++ switch.long ++ "'"
  | .unexpectedValue switch => "'--" ++ switch.long ++ "' takes no value"
  | .givenTwice switch => "'--" ++ switch.long ++ "' cannot be used multiple times"

/-- A word of a command line by its dashes. -/
inductive Word where
  /-- Two dashes alone, behind which no word is a switch. -/
  | escape
  | long (name : String) (attached : Option String)
  | short (letters : List Char)
  | plain
  deriving DecidableEq, Repr

/-- What a word is. One dash alone is a plain word. -/
def Word.ofString (word : String) : Word :=
  match word.toList with
  | ['-', '-'] => .escape
  | '-' :: '-' :: body =>
    let name := body.takeWhile (· ≠ '=')
    match body.drop name.length with
    | [] => .long (String.ofList name) none
    | _ :: value => .long (String.ofList name) (some (String.ofList value))
  | ['-'] => .plain
  | '-' :: letters => .short letters
  | _ => .plain

/-- How far the words of a part have been read. -/
structure Progress where
  /-- The switches that are recorded. -/
  given : List Given
  /-- The switch with a value that came last, and the value if it has come. -/
  pending : Option (Switch × Option String)
  /-- Whether two dashes have ended the switches. -/
  escaped : Bool
  deriving DecidableEq, Repr

namespace Progress

/-- Before the first word. -/
def start : Progress := ⟨[], none, false⟩

/-- Records a switch with its value. -/
def record (p : Progress) (s : Switch) (value : String) : Except Refusal Progress :=
  if s = .help then .error .helpAsked
  else if s = .version then .error .versionAsked
  else if !s.isRepeatable && Given.has p.given s then .error (.givenTwice s)
  else if s.argument.accepts value then .ok { p with given := p.given ++ [⟨s, value⟩] }
  else .error (.invalidValue s value)

/-- Records the switch that is pending. -/
def settle (p : Progress) : Except Refusal Progress :=
  match p.pending with
  | none => .ok p
  | some (s, none) => .error (.missingValue s)
  | some (s, some value) => { p with pending := none }.record s value

/-- Whether the next word can only be a value, unless it starts with a dash. -/
def awaitsValue (p : Progress) : Bool := p.pending.any (·.2.isNone)

/-- Takes in a switch and the value that is attached to it. -/
def take (p : Progress) (s : Switch) (attached : Option String) : Except Refusal Progress :=
  match attached with
  | some value => do
    if !s.takesValue then throw (.unexpectedValue s)
    (← p.settle).record s value
  | none => do
    let p ← p.settle
    if s.takesValue then return { p with pending := some (s, none) } else p.record s ""

/-- The value that the letters behind a switch give it. -/
def attachedTo : List Char → Option String
  | [] => none
  | '=' :: value => some (String.ofList value)
  | value => some (String.ofList value)

/-- Takes in letters that share a dash. -/
def takeLetters (scope : Scope) (word : String) :
    (p : Progress) → List Char → Except Refusal Progress
  | p, [] => .ok p
  | p, letter :: rest =>
    match scope.ofShort? letter with
    | none => .error (.unknownArgument word)
    | some s =>
      if s.takesValue then p.take s (attachedTo rest)
      else do takeLetters scope word (← p.take s none) rest

/-- Why a plain word that is no value cannot stand in a part. -/
def strayWord (p : Progress) (scope : Scope) (word : String) : Refusal :=
  match scope with
  | .command _ => .unknownArgument word
  | .program =>
    if p.escaped && (word = "help" || (CommandName.ofWord? word).isSome) then .unknownArgument word
    else .unknownCommand word

/-- Takes in a word. -/
def step (scope : Scope) (p : Progress) (word : String) : Except Refusal Progress :=
  if p.escaped then .error (p.strayWord scope word)
  else
    match Word.ofString word with
    | .escape => .ok { p with escaped := true }
    | .long name attached =>
      match scope.ofLong? name with
      | none => .error (.unknownArgument word)
      | some s => p.take s attached
    | .short letters => p.takeLetters scope word letters
    | .plain =>
      match p.pending with
      | some (s, none) => .ok { p with pending := some (s, some word) }
      | _ => .error (p.strayWord scope word)

end Progress

namespace CommandLine

/-- The switches behind a command. -/
def readOptions (name : CommandName) (words : List String) : Except Refusal (List Given) := do
  return (← (← words.foldlM (Progress.step (.command name)) Progress.start).settle).given

/-- What a call for help answers: the words behind it may name one command. -/
def helpRefusal : (words : List String) → Refusal
  | [] => .helpAsked
  | word :: rest =>
    if word ≠ "help" ∧ CommandName.ofWord? word = none then .unknownCommand word
    else match rest with
      | [] => .helpAsked
      | stray :: _ => .unknownCommand stray

/-- Reads the words from some progress before the command on. -/
def readFrom : Progress → (words : List String) → Except Refusal CommandLine
  | p, [] => do
    let p ← p.settle
    throw (if p.given.isEmpty then .nothingGiven else .missingCommand)
  | p, word :: rest =>
    if p.escaped || p.awaitsValue then do readFrom (← p.step .program word) rest
    else if word = "help" then .error (helpRefusal rest)
    else
      match CommandName.ofWord? word with
      | some name => do
        let behind ← readOptions name rest
        return .ofGiven (← p.settle).given name behind
      | none => do readFrom (← p.step .program word) rest

/-- Reads a command line. -/
def ofWords (words : List String) : Except Refusal CommandLine := readFrom .start words

end CommandLine

end HostDns
