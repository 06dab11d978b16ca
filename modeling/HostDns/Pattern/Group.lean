import HostDns.Pattern.Cursor
import HostDns.Pattern.NamedSet

/-!
What can follow an opening parenthesis: flags, and the name of a group.
-/

namespace HostDns.Pattern

open Read

/-- One item of a list of flags. -/
def setFlag (c : Char) (on : Bool) (f : Flags) : Option Flags :=
  match c with
  | 'i' => some { f with ignoreCase := on }
  | 'm' => some { f with multiLine := on }
  | 's' => some { f with dotAll := on }
  | 'R' => some { f with crlf := on }
  | 'u' => some { f with ascii := !on }
  | 'x' => some { f with spaced := on }
  | 'U' => some { f with lazy := on }
  | _ => none

/-- The flags that a list of letters puts in force; those after a hyphen are switched off. `used` are
the letters before. -/
def applyFlags (f : Flags) (on : Bool) (used : List Char) : List Char → Except PatternError Flags
  | [] => if used.getLast? = some '-' then .error .invalidFlags else .ok f
  | c :: rest =>
    if used.contains c then .error .invalidFlags
    else if c = '-' then applyFlags f false (used ++ [c]) rest
    else match setFlag c on f with
      | none => .error .invalidFlags
      | some f => applyFlags f on (used ++ [c]) rest

/-- The letters of every script. -/
def letters : Unicode.Ranges := LetterClass.property "alphabetic"

/-- The numbers of every script. -/
def numbers : Unicode.Ranges := Unicode.ofCategories ["Nd", "Nl", "No"]

/-- The characters that can start the name of a group: letters of every script and the underscore. -/
def startsName (c : Char) : Bool :=
  c = '_' || letters.contains c.toNat

/-- The characters that can continue the name of a group. -/
def continuesName (c : Char) : Bool :=
  startsName c || c = '.' || c = '[' || c = ']' ||
    numbers.contains c.toNat

/-- The name of a group up to its closing angle bracket. -/
def readGroupName : Read Unit := do
  let name := (← get).rest.takeWhile (· ≠ '>')
  modify fun r => { r with rest := r.rest.drop name.length }
  if (← peek) ≠ some '>' then refuse .invalidGroupName
  skip
  match name with
  | [] => refuse .invalidGroupName
  | first :: more =>
    if !(startsName first && more.all continuesName) then refuse .invalidGroupName
    let r ← get
    if r.names.contains (String.ofList name) then refuse .repeatedGroupName
    set { r with names := String.ofList name :: r.names }

/-- What an opening parenthesis opens. -/
inductive Opening where
  /-- Flags for what follows. -/
  | flags (flags : Flags)
  /-- A group that captures, or one that does not, with the flags inside it. -/
  | group (captures : Bool) (flags : Flags)

/-- What follows an opening parenthesis, up to the content of a group. -/
def readOpening : Read Opening := do
  advance
  let here := (← get).rest
  if ["?=", "?!", "?<=", "?<!"].any fun mark => mark.toList.isPrefixOf here then refuse .lookAround
  let f ← flags
  if (← skipWord "?P<") then
    readGroupName
    return .group true f
  else if (← skipWord "?<") then
    readGroupName
    return .group true f
  else if (← skipWord "?") then
    let letters := (← get).rest.takeWhile fun c => c ≠ ':' ∧ c ≠ ')'
    modify fun r => { r with rest := r.rest.drop letters.length }
    match ← peek with
    | none => refuse .unclosedGroup
    | some c =>
      let inner ← applyFlags f true [] letters
      skip
      if c = ':' then return .group false inner
      else if letters.isEmpty then refuse .nothingToRepeat
      else return .flags inner
  else return .group true f

end HostDns.Pattern
