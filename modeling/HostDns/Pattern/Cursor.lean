import HostDns.Pattern.Error
import HostDns.Text.Blank

/-!
The state of reading a pattern: what is left of the text, the flags in force and the group names in
use, with the steps that move over the text.
-/

namespace HostDns.Pattern

/-- The flags in force. -/
structure Flags where
  ignoreCase : Bool := false
  multiLine : Bool := false
  dotAll : Bool := false
  crlf : Bool := false
  ascii : Bool := false
  /-- Repetitions prefer few to many, and a question mark behind them turns that around. -/
  lazy : Bool := false
  /-- Blanks and comments between parts are skipped. -/
  spaced : Bool := false
  deriving DecidableEq, Repr

/-- What is left to read, the flags in force, and the names that groups have already. -/
structure Cursor where
  rest : List Char
  flags : Flags
  names : List String

/-- A step of reading. -/
abbrev Read := StateT Cursor (Except PatternError)

namespace Read

/-- Refuses the text. -/
def refuse {α : Type} (e : PatternError) : Read α := throw e

/-- The next character. -/
def peek : Read (Option Char) := return (← get).rest.head?

/-- Drops a character. -/
def skip : Read Unit := modify fun r => { r with rest := r.rest.drop 1 }

/-- The flags in force. -/
def flags : Read Flags := return (← get).flags

/-- Puts other flags in force. -/
def setFlags (flags : Flags) : Read Unit := modify fun r => { r with flags }

/-- The text without leading blanks and comments. A comment runs from `#` to the end of the line. -/
def withoutBlanks : (inComment : Bool) → List Char → List Char
  | _, [] => []
  | true, c :: rest => withoutBlanks (c ≠ '\n') rest
  | false, c :: rest =>
    if Text.isBlank c then withoutBlanks false rest
    else if c = '#' then withoutBlanks true rest
    else c :: rest

/-- Skips blanks and comments where the flags say so. -/
def skipBlanks : Read Unit :=
  modify fun r => if r.flags.spaced then { r with rest := withoutBlanks false r.rest } else r

/-- Drops a character and the blanks behind it. -/
def advance : Read Unit := do skip; skipBlanks

/-- Drops a word if the text starts with it. -/
def skipWord (word : String) : Read Bool := do
  let r ← get
  if word.toList.isPrefixOf r.rest then
    set { r with rest := r.rest.drop word.length }
    return true
  else return false

/-- The longest run of characters of a kind, of which each is followed by skipped blanks. -/
def takeRun (kind : Char → Bool) : Read (List Char) := do
  let rec go : Nat → Read (List Char)
    | 0 => return []
    | fuel + 1 => do
      match ← peek with
      | some c => if kind c then do advance; return c :: (← go fuel) else return []
      | none => return []
  go (← get).rest.length

end Read

end HostDns.Pattern
